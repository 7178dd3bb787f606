import Sluice.Settings.Tree
import Sluice.Text.Number

/-!
# Paths as texts

The key of a value in a layer is a path: names with points between them, and the numbers of items in
brackets; a number with a minus counts back from the end of the list.  A key that is none of this is
the name of a member.

Letter case does not matter in keys.
-/

namespace Sluice.Settings

/-- A character of a name in a path. -/
def isNameChar (c : Char) : Bool := c.isAlphanum || c == ' ' || c == '_' || c == '-'

/-- The step to the item with a number, which may stand between blanks. -/
def item? (cs : List Char) : Option Step :=
  let isSpace (c : Char) : Bool := c == ' ' || c == '\t'
  match (((cs.dropWhile isSpace).reverse).dropWhile isSpace).reverse with
  | '-' :: digits =>
    ((Text.number? 10 digits).filter (· ≤ 9223372036854775808)).map fun n =>
      if n = 0 then .index 0 else .fromEnd n
  | digits => ((Text.number? 10 digits).filter (· ≤ 9223372036854775807)).map .index

/-- The steps of a path after its first name. -/
def steps? (cs : List Char) : Option Path :=
  match cs with
  | [] => some []
  | c :: r =>
    if c = '.' then
      let name := r.takeWhile isNameChar
      if name.isEmpty then none
      else (steps? (r.dropWhile isNameChar)).map (.key (String.ofList name) :: ·)
    else if c = '[' then do
      let item ← item? (r.takeWhile (· != ']'))
      match _h : r.dropWhile (· != ']') with
      | _ :: rest => (steps? rest).map (item :: ·)
      | [] => none
    else none
termination_by cs.length
decreasing_by
  · exact Nat.lt_succ_of_le (List.dropWhile_suffix _).sublist.length_le
  · have := (List.dropWhile_suffix (l := r) (· != ']')).sublist.length_le
    rw [_h] at this
    simp only [List.length_cons] at this ⊢
    omega

/-- The path that a key spells. -/
def Path.read (key : String) : Path :=
  let cs := key.toList
  let name := cs.takeWhile isNameChar
  if name.isEmpty then [.key key]
  else
    match steps? (cs.dropWhile isNameChar) with
    | some path => .key (String.ofList name) :: path
    | none => [.key key]

/-- A letter in lower case; of all others, only the sign of the kelvin is one of the letters that
names are made of. -/
def lowered (c : Char) : Char := if c = '\u212a' then 'k' else c.toLower

/-- A text in lower case. -/
def lower (s : String) : String := s.map lowered

/-- The text of a step after others. -/
def Step.text : Step → String
  | .key k => "." ++ k
  | .index n => "[" ++ toString n ++ "]"
  | .fromEnd n => "[-" ++ toString n ++ "]"

/-- The text of a path. -/
def Path.text : Path → String
  | .key k :: path => k ++ String.join (path.map Step.text)
  | path => String.join (path.map Step.text)

/-! ## Layers -/

/-- A layer over a tree, if the key of each of its members leads anywhere: there the member goes. -/
def Tree.layer (members : List (String × Tree)) (t : Tree) : Option Tree :=
  members.foldlM (fun t (key, v) => v.put (Path.read key) t) t

end Sluice.Settings
