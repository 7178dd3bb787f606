/-!
# Base64

Bytes as text in the standard alphabet, with padding.  Three bytes are four symbols of six bits; at
the end one byte is two symbols and two pads, two bytes are three symbols and one pad, and the bits
that are left over are zero.

Reading accepts exactly the written forms.  `Flaw` says what is wrong with any other text, with the
place counted in bytes, and `decode` finds the flaws in a fixed order: a last byte that makes a
group of one and is no symbol, then the groups before the last from left to right, then the last
group.
-/

namespace Sluice.Text.Base64

/-- The sign that fills up the last group. -/
def pad : UInt8 := 0x3D

/-- The symbol of six bits. -/
def symbol (n : Nat) : UInt8 :=
  if n < 26 then UInt8.ofNat (0x41 + n)
  else if n < 52 then UInt8.ofNat (0x61 + (n - 26))
  else if n < 62 then UInt8.ofNat (0x30 + (n - 52))
  else if n = 62 then 0x2B
  else 0x2F

/-- The six bits of a symbol. -/
def sextet? (b : UInt8) : Option Nat :=
  let n := b.toNat
  if 0x41 ≤ n ∧ n ≤ 0x5A then some (n - 0x41)
  else if 0x61 ≤ n ∧ n ≤ 0x7A then some (n - 0x61 + 26)
  else if 0x30 ≤ n ∧ n ≤ 0x39 then some (n - 0x30 + 52)
  else if n = 0x2B then some 62
  else if n = 0x2F then some 63
  else none

/-- The groups of some bytes, written after `written`, whose bytes stand last first. -/
def encodeGroups (written : List UInt8) : List UInt8 → List UInt8
  | [] => written.reverse
  | [a] => (pad :: pad :: symbol (a.toNat % 4 * 16) :: symbol (a.toNat / 4) :: written).reverse
  | [a, b] =>
    (pad :: symbol (b.toNat % 16 * 4) :: symbol (a.toNat % 4 * 16 + b.toNat / 16) ::
      symbol (a.toNat / 4) :: written).reverse
  | a :: b :: c :: r =>
    encodeGroups (symbol (c.toNat % 64) :: symbol (b.toNat % 16 * 4 + c.toNat / 64) ::
      symbol (a.toNat % 4 * 16 + b.toNat / 16) :: symbol (a.toNat / 4) :: written) r

/-- The written form of some bytes, as the bytes of its text. -/
def encode (b : List UInt8) : List UInt8 := encodeGroups [] b

/-- What keeps a text from being a written form. -/
inductive Flaw where
  /-- A byte that cannot stand at this place. -/
  | symbol (byte : UInt8) (place : Nat)
  /-- A last symbol whose left-over bits are not zero. -/
  | lastSymbol (byte : UInt8) (place : Nat)
  /-- A text that ends after a single symbol of a group. -/
  | length (symbols : Nat)
  /-- A last group that is not filled up to four. -/
  | padding
deriving DecidableEq, Repr

/-- The text of a flaw. -/
def Flaw.message : Flaw → String
  | .symbol b i => "Invalid symbol " ++ toString b.toNat ++ ", offset " ++ toString i ++ "."
  | .lastSymbol b i =>
    "Invalid last symbol " ++ toString b.toNat ++ ", offset " ++ toString i ++ "."
  | .length n => "Invalid input length: " ++ toString n
  | .padding => "Invalid padding"

/-- The last group, read from left to right: its symbols with their bits, and how many pads
follow.  `place` is the place of the next byte, `taken` counts the bytes before it in the group
and `firstPad` is where the first pad stood. -/
def lastSymbols (place taken : Nat) (symbols : List (UInt8 × Nat)) (firstPad : Option Nat) :
    List UInt8 → Except Flaw (List (UInt8 × Nat) × Option Nat)
  | [] => .ok (symbols.reverse, firstPad)
  | b :: r =>
    if b = pad then
      if taken < 2 then .error (.symbol b place)
      else lastSymbols (place + 1) (taken + 1) symbols (some (firstPad.getD place)) r
    else
      match firstPad, sextet? b with
      | some p, _ => .error (.symbol pad p)
      | none, none => .error (.symbol b place)
      | none, some n => lastSymbols (place + 1) (taken + 1) ((b, n) :: symbols) none r

/-- The bytes of the last group, which starts at `place`. -/
def decodeLast (place : Nat) (group : List UInt8) : Except Flaw (List UInt8) :=
  match lastSymbols place 0 [] none group with
  | .error e => .error e
  | .ok (symbols, firstPad) =>
    if symbols.length < 2 then .error (.length (place + symbols.length))
    else if group.length ≠ 4 then .error .padding
    else
      match symbols, firstPad with
      | [(_, a), (s, b)], _ =>
        if b % 16 = 0 then .ok [UInt8.ofNat (a * 4 + b / 16)]
        else .error (.lastSymbol s (place + 1))
      | [(_, a), (_, b), (s, c)], _ =>
        if c % 4 = 0 then .ok [UInt8.ofNat (a * 4 + b / 16), UInt8.ofNat (b % 16 * 16 + c / 4)]
        else .error (.lastSymbol s (place + 2))
      | [(_, a), (_, b), (_, c), (_, d)], _ =>
        .ok [UInt8.ofNat (a * 4 + b / 16), UInt8.ofNat (b % 16 * 16 + c / 4),
          UInt8.ofNat (c % 4 * 64 + d)]
      | _, _ => .error .padding

/-- The bits of a symbol that must stand at `place`. -/
def sextetAt (b : UInt8) (place : Nat) : Except Flaw Nat :=
  match sextet? b with
  | some n => .ok n
  | none => .error (.symbol b place)

/-- The bytes of the groups from `place` on, after those of `read`, which stand last first.  Every
group that has a byte after it is complete. -/
def decodeGroups (place : Nat) (read : List UInt8) : List UInt8 → Except Flaw (List UInt8)
  | a :: b :: c :: d :: e :: r => do
    let a ← sextetAt a place
    let b ← sextetAt b (place + 1)
    let c ← sextetAt c (place + 2)
    let d ← sextetAt d (place + 3)
    decodeGroups (place + 4)
      (UInt8.ofNat (c % 4 * 64 + d) :: UInt8.ofNat (b % 16 * 16 + c / 4) ::
        UInt8.ofNat (a * 4 + b / 16) :: read) (e :: r)
  | [] => .ok read.reverse
  | group => (decodeLast place group).map (read.reverse ++ ·)

/-- A last byte that makes a group of one and is neither a symbol nor a pad. -/
def strayLast? (t : List UInt8) : Option UInt8 :=
  if t.length % 4 = 1 then t.getLast?.filter fun b => b != pad && (sextet? b).isNone else none

/-- The bytes that this text is the written form of. -/
def decode (t : List UInt8) : Except Flaw (List UInt8) :=
  match strayLast? t with
  | some b => .error (.symbol b (t.length - 1))
  | none => decodeGroups 0 [] t

end Sluice.Text.Base64
