import Sluice.Decimal.Shortest
import Sluice.Json.Failure
import Sluice.Text.Number
import Sluice.Text.Utf8

/-!
# The tokens of a JSON text

A text is read as the list of its bytes.  Each function here takes one token off the front and
answers with what it spells and the bytes after it.

Whole numbers stay exact up to 64 bits.  Any other number is a double, read by scaling its digits by
one power of ten, so the last place may be off by one; it is kept in its shortest text, because no
field of this library is a fraction and the text is all that a message needs.

`string_shortens`, `number_shortens` and the lemmas like them say that a token takes at least one
byte, so every reading of a text ends.
-/

namespace Sluice.Json

/-- The value read and the bytes after it, or why there is none. -/
abbrev Outcome (α : Type) := Except Failure (α × List UInt8)

/-! ## Blanks, digits and words -/

def isBlank (b : UInt8) : Bool := b == 0x20 || b == 0x0A || b == 0x09 || b == 0x0D

/-- The bytes after the blanks. -/
def skipBlank (s : List UInt8) : List UInt8 := s.dropWhile isBlank

theorem skipBlank_length (s : List UInt8) : (skipBlank s).length ≤ s.length :=
  (List.dropWhile_sublist _).length_le

def isDigit (b : UInt8) : Bool := 0x30 ≤ b && b ≤ 0x39

/-- The bytes after the digits. -/
def skipDigits (s : List UInt8) : List UInt8 := s.dropWhile isDigit

theorem skipDigits_length (s : List UInt8) : (skipDigits s).length ≤ s.length :=
  (List.dropWhile_sublist _).length_le

/-- The bytes after a word. -/
def word : List UInt8 → List UInt8 → Except Failure (List UInt8)
  | [], s => .ok s
  | _ :: _, [] => .error (.here .endInValue [])
  | w :: ws, b :: s => if b = w then word ws s else .error (.here .wordDue s)

theorem word_length {w s t : List UInt8} (h : word w s = .ok t) : t.length ≤ s.length := by
  fun_induction word w s with
  | case1 => cases h; exact Nat.le_refl _
  | case2 => cases h
  | case3 _ _ _ ih =>
    have := ih h
    simp only [List.length_cons]
    omega
  | case4 => cases h

/-! ## Strings -/

/-- The number of four hexadecimal digits. -/
def fourHex : List UInt8 → Outcome Nat
  | a :: b :: c :: d :: s =>
    match Text.hexValue? a, Text.hexValue? b, Text.hexValue? c, Text.hexValue? d with
    | some a, some b, some c, some d => .ok (((a * 16 + b) * 16 + c) * 16 + d, s)
    | _, _, _, _ => .error (.here .escapeForm s)
  | _ => .error (.here .endInString [])

theorem fourHex_length {s t : List UInt8} {n : Nat} (h : fourHex s = .ok (n, t)) :
    t.length ≤ s.length := by
  unfold fourHex at h
  split at h
  · split at h
    · cases h
      simp only [List.length_cons]
      omega
    · cases h
  · cases h

/-- The byte that a backslash and a letter stand for. -/
def letterEscape? (b : UInt8) : Option UInt8 :=
  if b = 0x22 ∨ b = 0x5C ∨ b = 0x2F then some b
  else if b = 0x62 then some 0x08
  else if b = 0x66 then some 0x0C
  else if b = 0x6E then some 0x0A
  else if b = 0x72 then some 0x0D
  else if b = 0x74 then some 0x09
  else none

/-- The bytes of a character given by number. -/
def codeBytes (n : Nat) : List UInt8 := String.utf8EncodeChar (Char.ofNat n)

/-- The second half of a pair, whose first half was `high`. -/
def secondHalf (high : Nat) : List UInt8 → Outcome (List UInt8)
  | [] => .error (.here .endInString [])
  | b :: s =>
    if b ≠ 0x5C then .error (.here .halfPair s)
    else
      match s with
      | [] => .error (.here .endInString [])
      | c :: t =>
        if c ≠ 0x75 then .error (.here .halfPair t)
        else
          match fourHex t with
          | .error e => .error e
          | .ok (low, u) =>
            if 0xDC00 ≤ low ∧ low ≤ 0xDFFF then
              .ok (codeBytes ((high - 0xD800) * 0x400 + (low - 0xDC00) + 0x10000), u)
            else .error (.here .strayHalf u)

/-- The character given by number after `\u`. -/
def numberEscape (s : List UInt8) : Outcome (List UInt8) :=
  match fourHex s with
  | .error e => .error e
  | .ok (n, t) =>
    if 0xDC00 ≤ n ∧ n ≤ 0xDFFF then .error (.here .strayHalf t)
    else if n < 0xD800 ∨ 0xDBFF < n then .ok (codeBytes n, t)
    else secondHalf n t

/-- The bytes of an escape, after its backslash. -/
def escape : List UInt8 → Outcome (List UInt8)
  | [] => .error (.here .endInString [])
  | b :: s =>
    match letterEscape? b with
    | some c => .ok ([c], s)
    | none => if b = 0x75 then numberEscape s else .error (.here .escapeForm s)

theorem secondHalf_length {n : Nat} {s t : List UInt8} {b : List UInt8}
    (h : secondHalf n s = .ok (b, t)) : t.length ≤ s.length := by
  unfold secondHalf at h
  split at h
  · cases h
  · split at h
    · cases h
    · split at h
      · cases h
      · split at h
        · cases h
        · split at h
          · cases h
          · rename_i hf
            split at h
            · simp only [Except.ok.injEq, Prod.mk.injEq] at h
              have := fourHex_length hf
              simp only [← h.2, List.length_cons]
              omega
            · cases h

theorem escape_length {s t : List UInt8} {b : List UInt8} (h : escape s = .ok (b, t)) :
    t.length ≤ s.length := by
  unfold escape at h
  split at h
  · cases h
  · split at h
    · cases h
      simp
    · split at h
      · unfold numberEscape at h
        split at h
        · cases h
        · rename_i hf
          have := fourHex_length hf
          split at h
          · cases h
          · split at h
            · simp only [Except.ok.injEq, Prod.mk.injEq] at h
              simp only [← h.2, List.length_cons]
              omega
            · have := secondHalf_length h
              simp only [List.length_cons]
              omega
      · cases h

/-- The bytes of a string after its opening quote, after those of `read`, which stand last first. -/
def stringBytes (read : List UInt8) (s : List UInt8) : Outcome (List UInt8) :=
  match s with
  | [] => .error (.here .endInString [])
  | b :: s =>
    if b = 0x22 then .ok (read.reverse, s)
    else if b = 0x5C then
      match h : escape s with
      | .error e => .error e
      | .ok (written, t) =>
        have := escape_length h
        stringBytes (written.reverse ++ read) t
    else if b < 0x20 then .error (.here .control s)
    else stringBytes (b :: read) s
termination_by s.length

theorem stringBytes_shortens {read b s t : List UInt8} (h : stringBytes read s = .ok (b, t)) :
    t.length < s.length := by
  fun_induction stringBytes read s with
  | case1 => cases h
  | case2 => cases h; simp
  | case3 => cases h
  | case4 read s written t' he hl _ ih =>
    have := ih h
    simp only [List.length_cons]
    omega
  | case5 => cases h
  | case6 read b s _ _ _ ih =>
    have := ih h
    simp only [List.length_cons]
    omega

/-- A string after its opening quote. -/
def string (s : List UInt8) : Outcome String :=
  match stringBytes [] s with
  | .error e => .error e
  | .ok (b, t) =>
    match Text.ofBytes? b with
    | some x => .ok (x, t)
    | none => .error (.here .noText t)

theorem string_shortens {s t : List UInt8} {x : String} (h : string s = .ok (x, t)) :
    t.length < s.length := by
  unfold string at h
  split at h
  · cases h
  · rename_i hb
    split at h
    · cases h
      exact stringBytes_shortens hb
    · cases h

/-! ## Numbers -/

/-- A number of a text. -/
inductive Number where
  /-- A whole number of at most 64 bits, its sign included if it has one. -/
  | whole (value : Int)
  /-- Any other number, in its shortest text. -/
  | fraction (text : String)
deriving DecidableEq, Repr

/-- The shape of a number. -/
def Number.shape : Number → Shape
  | .whole n => .integer n
  | .fraction t => .fraction t

/-- Fractions in messages: no power of ten from the fifth place after the point to the sixteenth
before it, always a point or a power, and a sign on every power. -/
def fractionStyle : Decimal.Style := ⟨-5, 15, true, true⟩

/-- A significand scaled by a power of ten, if a double can hold it.  A power beyond the doubles is
taken in steps of 308; three such steps down leave nothing of any significand. -/
def scaled : (steps : Nat) → Float → Int → Option Float
  | 0, x, _ => some x
  | steps + 1, x, e =>
    if e.natAbs ≤ 308 then
      if 0 ≤ e then
        let y := x * Float.ofScientific 1 false e.natAbs
        if y.isInf then none else some y
      else some (x / Float.ofScientific 1 false e.natAbs)
    else if x == 0 then some x
    else if 0 ≤ e then none
    else scaled steps (x / 1e308) (e + 308)

/-- The number of a significand and a power of ten. -/
def fraction (positive : Bool) (significand : Nat) (e : Int) (s : List UInt8) : Outcome Number :=
  match scaled 8 (Float.ofNat significand) e with
  | some x => .ok (.fraction (fractionStyle.text (if positive then x else -x)), s)
  | none => .error (.here .numberRange s)

/-- The greatest whole number read exactly. -/
def wholeLimit : Nat := UInt64.size - 1

/-- The digits taken into a number as long as it stays below a limit, and the bytes after them. -/
def digitsBelow (limit : Nat) (n : Nat) : List UInt8 → Nat × List UInt8
  | [] => (n, [])
  | b :: s =>
    if isDigit b && n * 10 + (b.toNat - 0x30) ≤ limit then
      digitsBelow limit (n * 10 + (b.toNat - 0x30)) s
    else (n, b :: s)

theorem digitsBelow_length (limit n : Nat) (s : List UInt8) :
    (digitsBelow limit n s).2.length ≤ s.length := by
  fun_induction digitsBelow limit n s with
  | case1 => simp
  | case2 n b s _ ih =>
    simp only [List.length_cons]
    omega
  | case3 => simp

/-- The greatest power of ten whose digits are all taken in. -/
def powerLimit : Nat := 2147483647

/-- The power of ten after an `e`, on a significand that already has a power. -/
def power (positive : Bool) (significand : Nat) (e : Int) (s : List UInt8) : Outcome Number :=
  let (up, s) :=
    match s with
    | 0x2B :: t => (true, t)
    | 0x2D :: t => (false, t)
    | _ => (true, s)
  match s with
  | [] => .error (.here .endInValue [])
  | b :: t =>
    if isDigit b then
      match digitsBelow powerLimit 0 (b :: t) with
      | (p, []) => fraction positive significand (if up then e + p else e - p) []
      | (p, c :: u) =>
        if isDigit c then
          if significand ≠ 0 ∧ up then .error (.here .numberRange u)
          else fraction positive 0 0 (skipDigits u)
        else fraction positive significand (if up then e + p else e - p) (c :: u)
    else .error (.here .numberForm t)

/-- A power of ten, if one is given. -/
def powerIfAny (positive : Bool) (significand : Nat) (e : Int) (s : List UInt8) : Outcome Number :=
  match s with
  | b :: t =>
    if b = 0x65 ∨ b = 0x45 then power positive significand e t
    else fraction positive significand e s
  | [] => fraction positive significand e s

/-- The places after the decimal point.  Those that the significand cannot take in are dropped. -/
def places (positive : Bool) (significand : Nat) (e : Int) (s : List UInt8) : Outcome Number :=
  match s with
  | [] => .error (.here .endInValue [])
  | b :: _ =>
    if isDigit b then
      let taken := digitsBelow wholeLimit significand s
      powerIfAny positive taken.1 (e - (s.length - taken.2.length : Nat)) (skipDigits taken.2)
    else .error (.atNext .numberForm s)

/-- The number after its whole part, which fits. -/
def afterWhole (positive : Bool) (significand : Nat) (s : List UInt8) : Outcome Number :=
  match s with
  | 0x2E :: t => places positive significand 0 t
  | b :: t =>
    if b = 0x65 ∨ b = 0x45 then power positive significand 0 t
    else .ok (wholeNumber, s)
  | [] => .ok (wholeNumber, s)
where
  wholeNumber : Number :=
    if positive then .whole significand
    else if significand = 0 ∨ 9223372036854775808 < significand then
      .fraction (fractionStyle.text (-Float.ofNat significand))
    else .whole (-significand)

/-- The number after the digits of a whole part that does not fit: each further digit is a power. -/
def afterLongWhole (positive : Bool) (significand : Nat) (s : List UInt8) : Outcome Number :=
  match skipDigits s with
  | 0x2E :: t => places positive significand (s.length - t.length - 1 : Nat) t
  | t => powerIfAny positive significand (s.length - t.length : Nat) t

theorem fraction_length {p : Bool} {m : Nat} {e : Int} {s t : List UInt8} {n : Number}
    (h : fraction p m e s = .ok (n, t)) : t.length = s.length := by
  unfold fraction at h
  split at h
  · simp only [Except.ok.injEq, Prod.mk.injEq] at h
    rw [h.2]
  · cases h

theorem power_length {p : Bool} {m : Nat} {e : Int} {s t : List UInt8} {n : Number}
    (h : power p m e s = .ok (n, t)) : t.length ≤ s.length := by
  unfold power at h
  generalize hq : (match s with
    | 0x2B :: t => (true, t)
    | 0x2D :: t => (false, t)
    | _ => (true, s)) = q at h
  have hs : q.2.length ≤ s.length := by
    subst hq
    split <;> simp
  obtain ⟨up, s'⟩ := q
  simp only at h hs
  split at h
  · cases h
  · split at h
    · rename_i b u hd
      have hl := digitsBelow_length powerLimit 0 (b :: u)
      split at h
      · rename_i hp
        have := fraction_length h
        simp only [List.length_nil] at this
        omega
      · rename_i c v hp
        rw [hp] at hl
        simp only [List.length_cons] at hl hs
        split at h
        · split at h
          · cases h
          · have := fraction_length h
            have := skipDigits_length v
            omega
        · have := fraction_length h
          simp only [List.length_cons] at this
          omega
    · cases h

theorem powerIfAny_length {p : Bool} {m : Nat} {e : Int} {s t : List UInt8} {n : Number}
    (h : powerIfAny p m e s = .ok (n, t)) : t.length ≤ s.length := by
  unfold powerIfAny at h
  split at h
  · split at h
    · have := power_length h
      simp only [List.length_cons]
      omega
    · exact Nat.le_of_eq (fraction_length h)
  · exact Nat.le_of_eq (fraction_length h)

theorem places_length {p : Bool} {m : Nat} {e : Int} {s t : List UInt8} {n : Number}
    (h : places p m e s = .ok (n, t)) : t.length ≤ s.length := by
  unfold places at h
  split at h
  · cases h
  · split at h
    · rename_i b u _
      have h₁ := digitsBelow_length wholeLimit m (b :: u)
      have h₂ := skipDigits_length (digitsBelow wholeLimit m (b :: u)).2
      have h₃ := powerIfAny_length h
      omega
    · cases h

theorem afterWhole_length {p : Bool} {m : Nat} {s t : List UInt8} {n : Number}
    (h : afterWhole p m s = .ok (n, t)) : t.length ≤ s.length := by
  unfold afterWhole at h
  split at h
  · have := places_length h
    simp only [List.length_cons]
    omega
  · split at h
    · have := power_length h
      simp only [List.length_cons]
      omega
    · simp only [Except.ok.injEq, Prod.mk.injEq] at h
      exact Nat.le_of_eq (congrArg List.length h.2.symm)
  · simp only [Except.ok.injEq, Prod.mk.injEq] at h
    exact Nat.le_of_eq (congrArg List.length h.2.symm)

theorem afterLongWhole_length {p : Bool} {m : Nat} {s t : List UInt8} {n : Number}
    (h : afterLongWhole p m s = .ok (n, t)) : t.length ≤ s.length := by
  have hs := skipDigits_length s
  unfold afterLongWhole at h
  split at h
  · rename_i u hu
    have := places_length h
    rw [hu, List.length_cons] at hs
    omega
  · have := powerIfAny_length h
    omega

/-- A number, after its sign. -/
def number (positive : Bool) : List UInt8 → Outcome Number
  | [] => .error (.here .endInValue [])
  | b :: s =>
    if b = 0x30 then
      match s with
      | c :: _ =>
        if isDigit c then .error (.atNext .numberForm s) else afterWhole positive 0 s
      | [] => afterWhole positive 0 s
    else if isDigit b then
      match digitsBelow wholeLimit (b.toNat - 0x30) s with
      | (n, c :: t) =>
        if isDigit c then afterLongWhole positive n (c :: t) else afterWhole positive n (c :: t)
      | (n, []) => afterWhole positive n []
    else .error (.here .numberForm s)

theorem number_shortens {p : Bool} {s t : List UInt8} {n : Number}
    (h : number p s = .ok (n, t)) : t.length < s.length := by
  unfold number at h
  split at h
  · cases h
  · rename_i b s
    simp only [List.length_cons]
    split at h
    · split at h
      · split at h
        · cases h
        · exact Nat.lt_succ_of_le (afterWhole_length h)
      · exact Nat.lt_succ_of_le (afterWhole_length h)
    · split at h
      · have hl := digitsBelow_length wholeLimit (b.toNat - 0x30) s
        split at h
        · rename_i c u hp
          rw [hp] at hl
          split at h
          · exact Nat.lt_succ_of_le (Nat.le_trans (afterLongWhole_length h) hl)
          · exact Nat.lt_succ_of_le (Nat.le_trans (afterWhole_length h) hl)
        · have := afterWhole_length h
          simp only [List.length_nil] at this
          omega
      · cases h

end Sluice.Json
