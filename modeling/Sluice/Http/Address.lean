import Sluice.Text.Number
import Sluice.Text.Split

/-!
# Addresses

Addresses of the Internet protocol, versions 4 and 6, and the texts they are read from.

An address of version 4 is four numbers below 256 with points between them.  An address of version
6 is eight groups of up to four hexadecimal digits with colons between them; one run of zero
groups may be left out and leaves two colons, and the last two groups may be written as an address
of version 4.
-/

namespace Sluice.Http

open Text (splitAtFirst splitBy number?)

/-! ## Version 4 -/

/-- An address of version 4, as a number. -/
abbrev Ipv4 := UInt32

/-- The address of four bytes. -/
def Ipv4.ofBytes (a b c d : Nat) : Ipv4 := UInt32.ofNat (((a * 256 + b) * 256 + c) * 256 + d)

/-- A number below 256 without leading zeros. -/
def byte? (cs : List Char) : Option Nat :=
  if cs.length ≤ 3 ∧ (cs.length = 1 ∨ cs.head? ≠ some '0') then
    (number? 10 cs).filter (· < 256)
  else none

/-- The address that a text spells. -/
def Ipv4.read (cs : List Char) : Option Ipv4 :=
  match splitBy (· == '.') cs with
  | [a, b, c, d] => do some (Ipv4.ofBytes (← byte? a) (← byte? b) (← byte? c) (← byte? d))
  | _ => none

/-- The text of an address. -/
def Ipv4.text (a : Ipv4) : String :=
  let byte (n : Nat) : String := toString (a.toNat / Nat.pow 256 n % 256)
  byte 3 ++ "." ++ byte 2 ++ "." ++ byte 1 ++ "." ++ byte 0

/-! ## Version 6 -/

/-- An address of version 6, as its eight groups. -/
structure Ipv6 where
  groups : List UInt16
deriving DecidableEq, Repr

/-- The groups that a text without two colons in a row spells; at its end may stand an address of
version 4. -/
def groups? (atEnd : Bool) (cs : List Char) : Option (List UInt16) :=
  let parts := splitBy (· == ':') cs
  let group? (p : List Char) : Option UInt16 :=
    if p.length ≤ 4 then (number? 16 p).map UInt16.ofNat else none
  let last := parts.getLast?.getD []
  if atEnd && last.contains '.' then do
    let front ← parts.dropLast.mapM group?
    let v4 ← Ipv4.read last
    some (front ++ [UInt16.ofNat (v4.toNat / 65536), UInt16.ofNat (v4.toNat % 65536)])
  else parts.mapM group?

/-- The texts before and after the first two colons in a row, if there are any. -/
def splitAtDoubleColon : List Char → Option (List Char × List Char)
  | [] => none
  | [_] => none
  | ':' :: ':' :: r => some ([], r)
  | c :: r => (splitAtDoubleColon r).map fun (front, back) => (c :: front, back)

/-- The address that a text spells. -/
def Ipv6.read (cs : List Char) : Option Ipv6 :=
  match splitAtDoubleColon cs with
  | none => do
    let groups ← groups? true cs
    if groups.length = 8 then some ⟨groups⟩ else none
  | some (front, back) => do
    let front ← if front.isEmpty then some [] else groups? false front
    let back ← if back.isEmpty then some [] else groups? true back
    if front.length + back.length < 8 then
      some ⟨front ++ List.replicate (8 - front.length - back.length) 0 ++ back⟩
    else none

/-- The length of the zeros at the front of some groups. -/
def zerosAhead (groups : List UInt16) : Nat := (groups.takeWhile (· == 0)).length

/-- The place and the length of the first longest run of at least two zeros. -/
def longestZeros (groups : List UInt16) : Option (Nat × Nat) :=
  (List.range groups.length).foldl (fun best i =>
    let n := zerosAhead (groups.drop i)
    if 2 ≤ n ∧ (best.map (·.2)).getD 0 < n then some (i, n) else best) none

/-- The text of an address, with its longest run of zeros left out. -/
def Ipv6.text (a : Ipv6) : String :=
  let write (l : List UInt16) : String :=
    ":".intercalate (l.map fun g => String.ofList (Nat.toDigits 16 g.toNat))
  match longestZeros a.groups with
  | some (i, n) => write (a.groups.take i) ++ "::" ++ write (a.groups.drop (i + n))
  | none => write a.groups

/-! ## With a port -/

/-- An address to listen at. -/
inductive Socket where
  /-- An address of version 4 and a port. -/
  | v4 (address : Ipv4) (port : UInt16)
  /-- An address of version 6 and a port. -/
  | v6 (address : Ipv6) (port : UInt16)
deriving DecidableEq, Repr

/-- The port of an address. -/
def Socket.port : Socket → UInt16
  | .v4 _ p => p
  | .v6 _ p => p

/-- The port that a text spells. -/
def port? (cs : List Char) : Option UInt16 :=
  ((number? 10 cs).filter (· < 65536)).map UInt16.ofNat

/-- The address and the port that a text spells; an address of version 6 stands in brackets. -/
def Socket.read (s : String) : Option Socket :=
  match s.toList with
  | '[' :: r =>
    let (address, rest) := splitAtFirst (· == ']') r
    let (address, scope) := splitAtFirst (· == '%') address
    match rest with
    | ']' :: ':' :: port => do
      let address ← Ipv6.read address
      let _ ← if scope.isEmpty then some 0 else
        (number? 10 (scope.drop 1)).filter (· < UInt32.size)
      some (.v6 address (← port? port))
    | _ => none
  | cs =>
    match splitAtFirst (· == ':') cs with
    | (address, _ :: port) => do some (.v4 (← Ipv4.read address) (← port? port))
    | _ => none

end Sluice.Http
