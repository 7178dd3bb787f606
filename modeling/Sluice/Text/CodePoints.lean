import Sluice.Text.Number
import Sluice.Text.Split

/-!
# Tables of characters

A property of characters is kept as a table: the ranges of the code points that have it, or the
ranges with what belongs to each of them.

A table is written in lines of words with a space between them.  A word is a code point in
hexadecimal, or the first and the last of a range with a hyphen between them; what belongs to it
follows an equals sign.  So `41-5a` are the capital letters, and `df=73+73` says something of
U+00DF.
-/

namespace Sluice.Text

/-- A range of code points. -/
structure CodeRange where
  first : Nat
  last : Nat
deriving DecidableEq, Repr

namespace CodeRange

/-- The character is in the range. -/
def contains (r : CodeRange) (c : Char) : Bool := r.first ≤ c.toNat && c.toNat ≤ r.last

/-- The code point that a word of a table spells. -/
def codePoint (cs : List Char) : Nat := (number? 16 cs).getD 0

/-- The range that a word of a table spells. -/
def read (cs : List Char) : CodeRange :=
  match splitAtFirst (· == '-') cs with
  | (first, _ :: last) => ⟨codePoint first, codePoint last⟩
  | (only, []) => ⟨codePoint only, codePoint only⟩

end CodeRange

/-- The words of some lines. -/
def tableWords (lines : List String) : List (List Char) :=
  lines.flatMap fun l => splitBy (· == ' ') l.toList

/-! ## Sets -/

/-- A set of characters. -/
abbrev CharSet := List CodeRange

namespace CharSet

/-- The set that lines spell. -/
def read (lines : List String) : CharSet := (tableWords lines).map CodeRange.read

/-- The character is in the set. -/
def contains (s : CharSet) (c : Char) : Bool := s.any (·.contains c)

theorem contains_iff {s : CharSet} {c : Char} :
    s.contains c = true ↔ ∃ r ∈ s, r.first ≤ c.toNat ∧ c.toNat ≤ r.last := by
  simp [contains, CodeRange.contains]

end CharSet

/-! ## Maps -/

/-- A table that says something of the characters in some ranges. -/
abbrev CharMap (α : Type) := List (CodeRange × α)

namespace CharMap

/-- The table that lines spell, by what the texts after the equals signs say. -/
def read {α : Type} (value : List Char → α) (lines : List String) : CharMap α :=
  (tableWords lines).map fun word =>
    let (range, text) := splitAtFirst (· == '=') word
    (CodeRange.read range, value (text.drop 1))

/-- The first range with a character, and what is said of it. -/
def find? {α : Type} (m : CharMap α) (c : Char) : Option (CodeRange × α) :=
  List.find? (fun row => row.1.contains c) m

/-- What is said of a character. -/
def get? {α : Type} (m : CharMap α) (c : Char) : Option α := (m.find? c).map (·.2)

end CharMap

end Sluice.Text
