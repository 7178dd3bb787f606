import Mathlib.Data.List.TakeWhile
import Sluice.Proofs.Json.Reader

/-!
# JSON as it is spelled

A `Tree` is a JSON value with its strings and numbers as they are spelled, and the members of its
objects in order.  It has a list of tokens, and a text spells these tokens with blanks before any of
them (`Spells`).  So two texts that differ in blanks only have one tree, and `Document` says that a
whole text is JSON without a word on how it is read.

The bytes of a string are not asked to be UTF-8: that is up to whoever reads it.
-/

namespace Sluice.Json

/-! ## Strings and numbers -/

/-- The bytes between the quotes of a string: plain ones, and escapes of a letter or of four
hexadecimal digits. -/
inductive StringForm : List UInt8 → Prop where
  | nil : StringForm []
  | plain {b x} (hb : IsPlain b) (h : StringForm x) : StringForm (b :: x)
  | letter {b x} (hb : (letterEscape? b).isSome) (h : StringForm x) : StringForm (0x5C :: b :: x)
  | number {a b c d x} (ha : (Text.hexValue? a).isSome) (hb : (Text.hexValue? b).isSome)
      (hc : (Text.hexValue? c).isSome) (hd : (Text.hexValue? d).isSome) (h : StringForm x) :
      StringForm (0x5C :: 0x75 :: a :: b :: c :: d :: x)

/-- A string as it is spelled between its quotes. -/
structure Spelling where
  bytes : List UInt8
  form : StringForm bytes

/-- Digits, and at least one. -/
inductive Digits : List UInt8 → Prop where
  | mk {b x} (hb : isDigit b = true) (hx : ∀ c ∈ x, isDigit c = true) : Digits (b :: x)

/-- The whole part of a number: zero, or digits that do not begin with it. -/
inductive WholeForm : List UInt8 → Prop where
  | zero : WholeForm [0x30]
  | digits {b x} (hb : isDigit b = true) (hzero : b ≠ 0x30) (hx : ∀ c ∈ x, isDigit c = true) :
      WholeForm (b :: x)

/-- The places of a number: none, or a point and digits. -/
inductive PlacesForm : List UInt8 → Prop where
  | none : PlacesForm []
  | some {x} (hx : Digits x) : PlacesForm (0x2E :: x)

/-- The power of ten of a number: none, or an `e`, a sign if there is one, and digits. -/
inductive PowerForm : List UInt8 → Prop where
  | none : PowerForm []
  | some {e sign x} (he : e = 0x65 ∨ e = 0x45) (hsign : sign = [] ∨ sign = [0x2B] ∨ sign = [0x2D])
      (hx : Digits x) : PowerForm (e :: (sign ++ x))

/-- A number as it is spelled. -/
structure Numeral where
  negative : Bool
  whole : List UInt8
  /-- The point and the places after it, if there are any. -/
  places : List UInt8
  /-- The power of ten with its `e`, if there is one. -/
  power : List UInt8
  wholeForm : WholeForm whole
  placesForm : PlacesForm places
  powerForm : PowerForm power

/-- The bytes of a number after its sign. -/
def Numeral.unsigned (n : Numeral) : List UInt8 := n.whole ++ (n.places ++ n.power)

def Numeral.bytes (n : Numeral) : List UInt8 :=
  if n.negative then 0x2D :: n.unsigned else n.unsigned

/-! ## Trees and their tokens -/

/-- A JSON value as it is spelled, but for the blanks. -/
inductive Tree where
  | null
  | boolean (value : Bool)
  | number (spelled : Numeral)
  | string (spelled : Spelling)
  | list (items : List Tree)
  /-- An object, its members in order. -/
  | object (members : List (Spelling × Tree))

inductive Token where
  | openList
  | closeList
  | openObject
  | closeObject
  | comma
  | colon
  | null
  | boolean (value : Bool)
  | number (spelled : Numeral)
  | string (spelled : Spelling)

/-- How a token is spelled. -/
def Token.bytes : Token → List UInt8
  | .openList => [0x5B]
  | .closeList => [0x5D]
  | .openObject => [0x7B]
  | .closeObject => [0x7D]
  | .comma => [0x2C]
  | .colon => [0x3A]
  | .null => [0x6E, 0x75, 0x6C, 0x6C]
  | .boolean true => [0x74, 0x72, 0x75, 0x65]
  | .boolean false => [0x66, 0x61, 0x6C, 0x73, 0x65]
  | .number n => n.bytes
  | .string x => 0x22 :: (x.bytes ++ [0x22])

/-- The comma before what is not the first in its list or object. -/
def separator (first : Bool) : List Token := if first then [] else [.comma]

mutual

/-- The tokens of a value. -/
def Tree.tokens : Tree → List Token
  | .null => [.null]
  | .boolean b => [.boolean b]
  | .number n => [.number n]
  | .string x => [.string x]
  | .list items => .openList :: (itemTokens true items ++ [.closeList])
  | .object members => .openObject :: (memberTokens true members ++ [.closeObject])

/-- The tokens of the items of a list from some item on. -/
def itemTokens (first : Bool) : List Tree → List Token
  | [] => []
  | t :: r => separator first ++ (t.tokens ++ itemTokens false r)

/-- The tokens of the members of an object from some member on. -/
def memberTokens (first : Bool) : List (Spelling × Tree) → List Token
  | [] => []
  | (k, t) :: r => separator first ++ (.string k :: .colon :: (t.tokens ++ memberTokens false r))

end

/-! ## Texts -/

/-- There is nothing but blanks. -/
def Blanks (w : List UInt8) : Prop := ∀ b ∈ w, isBlank b = true

/-- The first text spells the tokens, with blanks before them, up to the second text. -/
inductive Spells : List Token → List UInt8 → List UInt8 → Prop where
  | nil {s} : Spells [] s s
  | cons {w token tokens s u} (hw : Blanks w) (h : Spells tokens s u) :
      Spells (token :: tokens) (w ++ (token.bytes ++ s)) u

/-- The text is JSON, with this tree. -/
def Document (text : List UInt8) (t : Tree) : Prop := ∃ u, Spells t.tokens text u ∧ Blanks u

/-- The text without blanks. -/
def Tree.text (t : Tree) : List UInt8 := t.tokens.flatMap Token.bytes

/-- A value may end before these bytes: after blanks there are none, or they begin with a comma or a
closing bracket. -/
def Stops (s : List UInt8) : Prop := Closes (skipBlank s)

section Spells

variable {token : Token} {tokens more : List Token} {s t u w : List UInt8}

theorem skipBlank_append (hw : Blanks w) (s : List UInt8) : skipBlank (w ++ s) = skipBlank s :=
  List.dropWhile_append_of_pos hw

theorem skipBlank_eq_nil : skipBlank s = [] ↔ Blanks s := List.dropWhile_eq_nil_iff

theorem exists_blanks (s : List UInt8) : ∃ w, Blanks w ∧ s = w ++ skipBlank s :=
  ⟨s.takeWhile isBlank, fun _ => List.mem_takeWhile_imp, (List.takeWhile_append_dropWhile).symm⟩

theorem spells_append : Spells (tokens ++ more) s u ↔ ∃ t, Spells tokens s t ∧ Spells more t u := by
  constructor
  · intro h
    induction tokens generalizing s with
    | nil => exact ⟨s, .nil, h⟩
    | cons token tokens ih =>
      cases h with
      | cons hw h =>
        obtain ⟨t, ht, hu⟩ := ih h
        exact ⟨t, .cons hw ht, hu⟩
  · rintro ⟨t, ht, hu⟩
    induction ht with
    | nil => exact hu
    | cons hw _ ih => exact .cons hw (ih hu)

theorem Spells.append (h : Spells tokens s t) (h' : Spells more t u) :
    Spells (tokens ++ more) s u :=
  spells_append.2 ⟨t, h, h'⟩

theorem spells_nil : Spells [] s u ↔ s = u := by
  constructor
  · rintro ⟨⟩
    rfl
  · rintro rfl
    exact .nil

/-- Blanks before the first token do not matter. -/
theorem Spells.of_skipBlank (h : Spells (token :: tokens) (skipBlank s) u) :
    Spells (token :: tokens) s u := by
  obtain ⟨w, hw, hs⟩ := exists_blanks s
  generalize skipBlank s = v at h hs
  subst hs
  cases h with
  | cons hw' h =>
    rw [← List.append_assoc]
    exact .cons (fun b hb => (List.mem_append.1 hb).elim (hw b) (hw' b)) h

theorem Spells.tight (token : Token) (h : Spells tokens s u) :
    Spells (token :: tokens) (token.bytes ++ s) u :=
  .cons (w := []) (fun _ hb => absurd hb List.not_mem_nil) h

theorem spells_bytes (tokens : List Token) (u : List UInt8) :
    Spells tokens (tokens.flatMap Token.bytes ++ u) u := by
  induction tokens with
  | nil => exact .nil
  | cons token tokens ih =>
    rw [List.flatMap_cons, List.append_assoc]
    exact ih.tight token

theorem WholeForm.exists_cons {x : List UInt8} (h : WholeForm x) :
    ∃ b y, x = b :: y ∧ isDigit b = true := by
  cases h with
  | zero => exact ⟨_, _, rfl, rfl⟩
  | digits hb => exact ⟨_, _, rfl, hb⟩

/-- No token begins with a blank. -/
theorem Token.exists_cons (token : Token) :
    ∃ b x, token.bytes = b :: x ∧ isBlank b = false := by
  cases token with
  | number n =>
    rw [bytes, Numeral.bytes]
    split
    · exact ⟨_, _, rfl, rfl⟩
    · obtain ⟨b, x, hx, hb⟩ := n.wholeForm.exists_cons
      refine ⟨b, x ++ (n.places ++ n.power), ?_, not_isBlank_of_isDigit hb⟩
      rw [Numeral.unsigned, hx, List.cons_append]
  | boolean b => cases b <;> exact ⟨_, _, rfl, rfl⟩
  | _ => exact ⟨_, _, rfl, rfl⟩

/-- The token at the front of a text. -/
theorem Spells.skipBlank_eq (h : Spells (token :: tokens) s u) :
    ∃ v, skipBlank s = token.bytes ++ v ∧ Spells tokens v u := by
  cases h with
  | cons hw h =>
    obtain ⟨b, x, hx, hb⟩ := token.exists_cons
    refine ⟨_, ?_, h⟩
    rw [skipBlank_append hw, hx, List.cons_append, skipBlank,
      List.dropWhile_cons_of_neg (by simp [hb])]

theorem Spells.of_front (token : Token) {v : List UInt8} (hs : skipBlank s = token.bytes ++ v)
    (h : Spells tokens v u) : Spells (token :: tokens) s u := by
  have htight := h.tight token
  rw [← hs] at htight
  exact htight.of_skipBlank

theorem Spells.append_right (h : Spells tokens s u) (w : List UInt8) :
    Spells tokens (s ++ w) (u ++ w) := by
  induction h with
  | nil => exact .nil
  | cons hw _ ih =>
    rw [List.append_assoc, List.append_assoc]
    exact .cons hw ih

theorem Spells.after_blanks (hw : Blanks w) (h : Spells (token :: tokens) s u) :
    Spells (token :: tokens) (w ++ s) u := by
  obtain ⟨v, hv, hrest⟩ := h.skipBlank_eq
  exact .of_front token ((skipBlank_append hw s).trans hv) hrest

/-- A whole text may stand before other tokens. -/
theorem Document.spells {d : List UInt8} {t : Tree} (h : Document d t)
    (hs : Spells (token :: tokens) s u) : Spells (t.tokens ++ token :: tokens) (d ++ s) u := by
  obtain ⟨w, ht, hw⟩ := h
  exact (ht.append_right s).append (hs.after_blanks hw)

theorem Tree.document_text (t : Tree) : Document t.text t := by
  refine ⟨[], ?_, nofun⟩
  have h := spells_bytes t.tokens []
  rwa [List.append_nil] at h

end Spells

end Sluice.Json
