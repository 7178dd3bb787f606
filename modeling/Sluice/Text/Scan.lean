/-!
# Scanning a text

A `Scan` reads something at the front of a text and leaves the rest, or fails; then another may be
tried on the same text.  `Scan.many` repeats a scan as long as it reads something, so it always
ends.
-/

namespace Sluice.Text

/-- What reads something at the front of a text, or fails. -/
abbrev Scan := StateT (List Char) Option

namespace Scan

/-- The next character, if it meets a condition. -/
def char (p : Char → Bool) : Scan Char
  | c :: r => if p c then some (c, r) else none
  | [] => none

/-- The characters ahead that meet a condition. -/
def all (p : Char → Bool) : Scan (List Char) := fun s => some (s.takeWhile p, s.dropWhile p)

/-- The characters ahead that meet a condition, at least one. -/
def some (p : Char → Bool) : Scan (List Char) := do return (← char p) :: (← all p)

/-- So many characters. -/
def exactly (n : Nat) : Scan (List Char) := fun s =>
  if n ≤ s.length then .some (s.splitAt n) else none

/-- This text. -/
def word (w : String) : Scan Unit := fun s =>
  if w.toList.isPrefixOf s then .some ((), s.drop w.length) else none

/-- This text stands ahead; nothing is read. -/
def ahead (w : String) : Scan Unit := fun s => if w.toList.isPrefixOf s then .some ((), s) else none

/-- This text does not stand ahead; nothing is read. -/
def notAhead (w : String) : Scan Unit := fun s =>
  if w.toList.isPrefixOf s then none else .some ((), s)

/-- Nothing is left. -/
def atEnd : Scan Unit := fun s => if s.isEmpty then .some ((), s) else none

/-- What a scan reads, if it does not fail. -/
def optional {α : Type} (p : Scan α) : Scan (Option α) := (Option.some <$> p) <|> pure none

/-- What a scan reads again and again, until it fails or reads nothing more of the text. -/
def repeated {α : Type} (p : Scan α) (s : List Char) : List α × List Char :=
  match p s with
  | none => ([], s)
  | .some (a, rest) =>
    if rest.length < s.length then
      let (l, rest) := repeated p rest
      (a :: l, rest)
    else ([], s)
termination_by s.length

/-- What a scan reads again and again. -/
def many {α : Type} (p : Scan α) : Scan (List α) := fun s => .some (repeated p s)

/-- What a scan makes of a whole text. -/
def whole {α : Type} (p : Scan α) (s : List Char) : Option α :=
  match p s with
  | .some (a, []) => .some a
  | _ => none

theorem takeWhile_append_of_all {p : Char → Bool} {s a r : List Char}
    (h : all p s = .some (a, r)) : a ++ r = s := by
  cases h
  exact List.takeWhile_append_dropWhile

theorem length_repeated_le {α : Type} (p : Scan α) (s : List Char) :
    (repeated p s).2.length ≤ s.length := by
  fun_induction repeated p s with
  | case1 => exact Nat.le_refl _
  | case2 s a rest _ h l r hr ih =>
    rw [hr] at ih
    exact Nat.le_trans ih (Nat.le_of_lt h)
  | case3 => exact Nat.le_refl _

end Scan

end Sluice.Text
