import Sluice.Environment.Basic
import Sluice.Text.Alphanumeric
import Sluice.Text.Blank
import Sluice.Text.Scan

/-!
# Variables in a file

A file may set variables, one on a line, as `NAME=value`; the word `export` may come first.  It
never changes a variable that is already set, and is read only up to the first line that is
malformed.

A value ends at a blank, after which only a comment may follow.  Quotes keep blanks and line ends;
outside apostrophes a backslash escapes, and `$NAME` or a name in braces after a dollar stands for
the value of another variable.
-/

namespace Sluice.Environment.File

open Text (Scan)

/-! ## Lines -/

/-- What is open at a place in the file. -/
inductive Open where
  | nothing
  | escape
  | strong
  | strongEscape
  | weak
  | weakEscape
  /-- Nothing, and the last character was a blank: a number sign starts a comment. -/
  | blank
deriving DecidableEq, Repr

/-- What is open after a character outside of quotes. -/
def Open.afterPlain (c : Char) : Open :=
  if c = '\\' then .escape
  else if c = '\x22' then .weak
  else if c = '\x27' then .strong
  else .nothing

/-- What is open after one more character. -/
def Open.next (c : Char) : Open → Open
  | .nothing => if Text.isBlank c && c != '\n' && c != '\x0d' then .blank else afterPlain c
  | .blank => afterPlain c
  | .escape => .nothing
  | .weak => if c = '\\' then .weakEscape else if c = '\x22' then .nothing else .weak
  | .weakEscape => .weak
  | .strong => if c = '\\' then .strongEscape else if c = '\x27' then .nothing else .strong
  | .strongEscape => .strong

/-- A line up to its comment, what is open at its end, and whether there is a comment. -/
def uncommented : Open → List Char → List Char × Open × Bool
  | o, [] => ([], o, false)
  | o, c :: r =>
    if o = .blank ∧ c = '#' then ([], o, true)
    else
      let (kept, o, cut) := uncommented (o.next c) r
      (c :: kept, o, cut)

/-- A text without the line end at its end. -/
def withoutNewline (cs : List Char) : List Char :=
  match cs.reverse with
  | '\n' :: '\x0d' :: r => r.reverse
  | '\n' :: r => r.reverse
  | _ => cs

/-- The lines of a text with their ends. -/
def linesOf : List Char → List (List Char)
  | [] => []
  | c :: r =>
    if c = '\n' then [c] :: linesOf r
    else
      match linesOf r with
      | [] => [[c]]
      | line :: lines => (c :: line) :: lines

/-- The texts that stand on their own: lines, and lines with those that they leave something open
for.  Lines after the last of them that leave something open are none. -/
def entries (begun : List Char) (o : Open) : List (List Char) → List (Option (List Char))
  | [] => if begun.isEmpty then [] else [none]
  | line :: lines =>
    if ((begun ++ line).dropWhile Text.isBlank).head? = some '#' then
      some [] :: entries [] .nothing lines
    else
      match uncommented o line with
      | (kept, _, true) => some (begun ++ kept) :: entries [] .nothing lines
      | (kept, .nothing, false) =>
        some (withoutNewline (begun ++ kept)) :: entries [] .nothing lines
      | (kept, o, false) => entries (begun ++ kept) o lines

/-! ## Values -/

/-- The quotes that are open in a value. -/
inductive Quote where
  | none
  | weak
  | strong
deriving DecidableEq, Repr

/-- What the next character of a value is taken for. -/
inductive Phase where
  /-- Itself. -/
  | plain
  /-- What a backslash escapes. -/
  | escaped
  /-- A part of a name after a dollar. -/
  | named
  /-- A part of a name in braces. -/
  | braced
  /-- A blank after the end. -/
  | ended
  /-- A part of a comment. -/
  | comment
deriving DecidableEq, Repr

/-- A value of which some characters have been read. -/
structure Draft where
  /-- The value, its last character first. -/
  read : List Char
  /-- The name begun, its last character first. -/
  name : List Char
  /-- The quotes that are open. -/
  quote : Quote
  /-- What the next character is taken for. -/
  phase : Phase

namespace Draft

/-- A value of which nothing has been read. -/
def start : Draft := ⟨[], [], .none, .plain⟩

/-- The draft with one more character. -/
def push (d : Draft) (c : Char) : Draft := { d with read := c :: d.read, phase := .plain }

/-- The draft with the value of the variable whose name was begun. -/
def expand (e : Environment) (d : Draft) : Draft :=
  let value := (e.get? (String.ofList d.name.reverse)).getD ""
  { d with read := value.toList.reverse ++ d.read, name := [], phase := .plain }

/-- The draft after a character that is taken for itself. -/
def nextPlain (d : Draft) (c : Char) : Draft :=
  match d.quote with
  | .strong => if c = '\x27' then { d with quote := .none } else d.push c
  | .weak =>
    if c = '$' then { d with phase := .named }
    else if c = '\x22' then { d with quote := .none }
    else if c = '\\' then { d with phase := .escaped }
    else d.push c
  | .none =>
    if c = '$' then { d with phase := .named }
    else if c = '\x27' then { d with quote := .strong }
    else if c = '\x22' then { d with quote := .weak }
    else if c = '\\' then { d with phase := .escaped }
    else if c = ' ' ∨ c = '\t' then { d with phase := .ended }
    else d.push c

/-- The draft after a character that may belong to a name after a dollar. -/
def nextNamed (e : Environment) (d : Draft) (c : Char) : Draft :=
  if Text.isAlphanumeric c then { d with name := c :: d.name }
  else if c = '\x7b' ∧ d.name.isEmpty then { d with phase := .braced }
  else if c = '$' then { d.expand e with phase := .named }
  else (d.expand e).push c

/-- The draft after one more character, if it may stand there. -/
def next (e : Environment) (d : Draft) (c : Char) : Option Draft :=
  match d.phase with
  | .plain => some (d.nextPlain c)
  | .escaped =>
    if ['\\', '\x27', '\x22', '$', ' '].contains c then some (d.push c)
    else if c = 'n' then some (d.push '\n')
    else none
  | .named => some (d.nextNamed e c)
  | .braced =>
    some (if c = '\x7d' then d.expand e else { d with name := c :: d.name })
  | .ended =>
    if c = ' ' ∨ c = '\t' then some d
    else if c = '#' then some { d with phase := .comment }
    else none
  | .comment => some d

/-- The value of a draft in which nothing is open. -/
def finish (e : Environment) (d : Draft) : Option String :=
  if d.quote ≠ .none ∨ d.phase = .braced then none
  else some (String.ofList (d.expand e).read.reverse)

end Draft

/-- The value that a text spells. -/
def valueOf (e : Environment) (cs : List Char) : Option String := do
  (← cs.foldlM (Draft.next e) .start).finish e

/-! ## Variables -/

/-- The name of a variable. -/
def name : Scan String := do
  let first ← Scan.char fun c => c.isAlpha || c == '_'
  return String.ofList (first :: (← Scan.all fun c => c.isAlphanum || c == '_' || c == '.'))

/-- The blanks ahead. -/
def blanks : Scan Unit := do let _ ← Scan.all Text.isBlank

/-- The name of a variable, up to the value that it is set to. -/
def named : Scan String := do
  let name ← name
  blanks
  Scan.word "="
  return name

/-- The name of the variable that is set, up to the value.  The word `export` may come first, or be
the name itself. -/
def target : Scan String := do
  let first ← Scan.optional named
  let name ←
    match first with
    | some name => pure name
    | none => do
      Scan.word "export"
      blanks
      named
  blanks
  return name

/-- A text is empty or a comment. -/
def isVoid (cs : List Char) : Bool := cs.isEmpty || cs.head? == some '#'

/-- The environment with the variable that a text sets, unless the text is malformed. -/
def apply (e : Environment) (cs : List Char) : Option Environment := do
  let cs := Text.trimBlank cs
  if isVoid cs then return e
  let (name, value) ← target cs
  if isVoid value then return e.setIfUnset name ""
  return e.setIfUnset name (← valueOf e value)

/-- The environment with the variables of the texts up to the first that is malformed. -/
def applyAll (e : Environment) : List (Option (List Char)) → Environment
  | [] => e
  | none :: _ => e
  | some cs :: r =>
    match apply e cs with
    | none => e
    | some e => applyAll e r

/-- The environment with the variables that a file sets. -/
def load (text : String) (e : Environment) : Environment :=
  let cs := text.toList
  let cs := if cs.head? = some '\ufeff' then cs.tail else cs
  applyAll e (entries [] .nothing (linesOf cs))

end Sluice.Environment.File
