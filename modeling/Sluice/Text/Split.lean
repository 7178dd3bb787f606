/-!
# Texts in parts

A text is cut at the first of some characters, or at all of them.
-/

namespace Sluice.Text

/-- The text up to the first of some characters, and the rest from it on. -/
def splitAtFirst (stop : Char → Bool) (cs : List Char) : List Char × List Char :=
  cs.span fun c => !stop c

/-- The parts of a text between the characters that separate them. -/
def splitBy (separates : Char → Bool) : List Char → List (List Char)
  | [] => [[]]
  | c :: r =>
    if separates c then [] :: splitBy separates r
    else
      match splitBy separates r with
      | [] => [[c]]
      | part :: parts => (c :: part) :: parts

end Sluice.Text
