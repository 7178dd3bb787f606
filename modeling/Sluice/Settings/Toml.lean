import Sluice.Decimal.Reading
import Sluice.Settings.Reading
import Sluice.Text.Number
import Sluice.Text.Scan

/-!
# Settings in TOML

`Toml.read` is the table that a text in TOML describes.  The text is a list of statements, one on a
line: a value for a key, the header of a table, or the header of one more table in a list.  Each is
put into the table that the statements before it describe.

A date or a time is taken as its text: a `T` between date and time, no zeros at the end of the
fraction, and `Z` or signed hours and minutes at the end.  Texts that are not TOML have no table.
-/

namespace Sluice.Settings.Toml

open Text (Scan)

/-! ## Blanks -/

/-- A blank within a line. -/
def isBlank (c : Char) : Bool := c == ' ' || c == '\t'

/-- The blanks ahead in the line. -/
def blanks : Scan Unit := do let _ ← Scan.all isBlank

/-- The end of a line. -/
def newline : Scan Unit := Scan.word "\n" <|> Scan.word "\x0d\n"

/-- A comment, which ends with its line. -/
def comment : Scan Unit := do
  Scan.word "#"
  let _ ← Scan.all fun c => c != '\n' && c != '\x0d'

/-- What may stand between the parts of a value over several lines. -/
def gap : Scan Unit := do
  let _ ← Scan.many ((do let _ ← Scan.char isBlank) <|> newline <|> comment)

/-! ## Texts -/

/-- The character of a number in hexadecimal digits. -/
def numbered (digits : Nat) : Scan Char := do
  let cs ← Scan.exactly digits
  let n ← (Text.number? 16 cs : Option Nat)
  if n.isValidChar then return Char.ofNat n else failure

/-- A character after a backslash. -/
def escaped : Scan Char := do
  match ← Scan.char fun _ => true with
  | 'b' => return '\x08'
  | 't' => return '\t'
  | 'n' => return '\n'
  | 'f' => return '\x0c'
  | 'r' => return '\x0d'
  | '\x22' => return '\x22'
  | '\\' => return '\\'
  | 'u' => numbered 4
  | 'U' => numbered 8
  | _ => failure

/-- A character that stands for itself in a text on one line. -/
def isPlain (quote c : Char) : Bool := c != quote && c != '\n' && c != '\x0d'

/-- A text between quotes. -/
def quotedText : Scan String := do
  Scan.word "\x22"
  let cs ← Scan.many
    ((do Scan.word "\\"; escaped) <|> Scan.char fun c => isPlain '\x22' c && c != '\\')
  Scan.word "\x22"
  return String.ofList cs

/-- A text between apostrophes, in which nothing is escaped. -/
def literalText : Scan String := do
  Scan.word "'"
  let cs ← Scan.all (isPlain '\x27')
  Scan.word "'"
  return String.ofList cs

/-- A backslash at the end of a line, with all the blanks after it. -/
def continuation : Scan (Option Char) := do
  Scan.word "\\"
  blanks
  newline
  let _ ← Scan.many ((do let _ ← Scan.char isBlank) <|> newline)
  return none

/-- A character of a text over several lines between three quotes of a kind.  Of more than three
quotes in a row the last three end the text. -/
def longChar (quote : Char) : Scan (Option Char) :=
  let three := String.ofList [quote, quote, quote]
  (do
    newline
    return some '\n') <|>
  (do
    Scan.ahead (three.push quote) <|> Scan.notAhead three
    return some (← Scan.char fun c => c != '\\' || quote == '\x27'))

/-- A text over several lines between three quotes of a kind. -/
def longText (quote : Char) (special : Scan (Option Char)) : Scan String := do
  let three := String.ofList [quote, quote, quote]
  Scan.word three
  let _ ← Scan.optional newline
  let cs ← Scan.many (special <|> longChar quote)
  Scan.word three
  return String.ofList (cs.filterMap id)

/-- A text of any kind. -/
def text : Scan String :=
  longText '\x22' (continuation <|> (do Scan.word "\\"; return some (← escaped))) <|>
  longText '\x27' failure <|> quotedText <|> literalText

/-! ## Keys -/

/-- A part of a key, in lower case. -/
def keyPart : Scan String := do
  let name ←
    (do return String.ofList (← Scan.some fun c => c.isAlphanum || c == '_' || c == '-')) <|>
    quotedText <|> literalText
  return lower name

/-- A key with points between its parts. -/
def key : Scan (List String) := do
  let first ← keyPart
  let rest ← Scan.many do
    blanks
    Scan.word "."
    blanks
    keyPart
  return first :: rest

/-! ## Numbers and dates -/

/-- The base of a number by the letter after its first zero. -/
def base? : List Char → Option (Nat × List Char)
  | '0' :: 'x' :: r => some (16, r)
  | '0' :: 'o' :: r => some (8, r)
  | '0' :: 'b' :: r => some (2, r)
  | _ => none

/-- The whole number that a text without underscores spells. -/
def integer? (cs : List Char) : Option Int :=
  match base? cs with
  | some (base, digits) => (Text.number? base digits).map Int.ofNat
  | none =>
    let (negative, digits) := Decimal.signAhead cs
    (Text.number? 10 digits).map fun n => if negative then -n else n

/-- A text is a date or starts with one, or it is a time. -/
def isDated (cs : List Char) : Bool :=
  match cs with
  | a :: b :: c :: d :: '-' :: _ => [a, b, c, d].all Char.isDigit
  | a :: b :: ':' :: _ => [a, b].all Char.isDigit
  | _ => false

/-- The offset at the end of a time. -/
def offsetText (cs : List Char) : List Char :=
  match cs with
  | ['z'] => ['Z']
  | ['-', '0', '0', ':', '0', '0'] => "+00:00".toList
  | cs => cs

/-- A time of a day with the fraction and the offset as they are taken. -/
def timeText (cs : List Char) : List Char :=
  let whole := cs.take 8
  match cs.drop 8 with
  | '.' :: r =>
    let digits := ((r.takeWhile Char.isDigit).take 9).reverse.dropWhile (· == '0')
    whole ++ (if digits.isEmpty then [] else '.' :: digits.reverse) ++
      offsetText (r.dropWhile Char.isDigit)
  | r => whole ++ offsetText r

/-- A date, a time or both, as they are taken. -/
def dateText (cs : List Char) : List Char :=
  if cs.length ≤ 10 ∧ cs[4]? = some '-' then cs
  else if cs[4]? = some '-' then cs.take 10 ++ 'T' :: timeText (cs.drop 11)
  else timeText cs

/-- A character of a word. -/
def isWordChar (c : Char) : Bool :=
  c.isAlphanum || c == '+' || c == '-' || c == '_' || c == '.' || c == ':'

/-- A word; a date may be followed by a blank and a time. -/
def wordText : Scan (List Char) := do
  let first ← Scan.some isWordChar
  if isDated first && first.length == 10 then
    let time ← Scan.optional do
      Scan.word " "
      let time ← Scan.some isWordChar
      if isDated time then return time else failure
    return first ++ (time.map ('T' :: ·)).getD []
  else return first

/-- What a word stands for. -/
def scalar? (cs : List Char) : Option Scalar :=
  let plain := cs.filter (· != '_')
  if cs == "true".toList then some (.boolean true)
  else if cs == "false".toList then some (.boolean false)
  else if isDated cs then some (.text (String.ofList (dateText cs)))
  else
    match integer? plain with
    | some n => if Tree.isInt64 n then some (.integer (Int64.ofInt n)) else none
    | none => (Decimal.readFloat plain).map .fraction

/-! ## Tables -/

/-- What stands at the end of a key in a table, or where it would stand, replaced.  A list on the
way stands for its last table. -/
def alter (source : Source) (f : Option Tree → Tree) : List String → Option Tree → Tree
  | [], below => f below
  | k :: r, some (.list items s) =>
    match items.getLast? with
    | some (.table m t) =>
      .list (items.dropLast ++ [.table (setMember k (alter source f r (m.lookup k)) m) t]) s
    | _ => .list items s
  | k :: r, some (.table m s) => .table (setMember k (alter source f r (m.lookup k)) m) s
  | k :: r, _ => .table [(k, alter source f r none)] source

/-- A table with a value for a key. -/
def define (source : Source) (key : List String) (v t : Tree) : Tree :=
  alter source (fun _ => v) key (some t)

/-! ## Values -/

/-- A value for a key, by the scan of values. -/
def pair (value : Scan Tree) : Scan (List String × Tree) := do
  let k ← key
  blanks
  Scan.word "="
  blanks
  return (k, ← value)

/-- The parts of a list with commas between them. -/
def commas {α : Type} (close : String) (item : Scan α) : Scan (List α) :=
  Scan.many do
    let a ← item
    gap
    Scan.word "," <|> Scan.ahead close
    gap
    return a

/-- A value with at most so many lists and tables in each other. -/
def value (source : Source) : (levels : Nat) → Scan Tree
  | 0 => failure
  | levels + 1 =>
    (do return .scalar (.text (← text)) source) <|>
    (do
      Scan.word "["
      gap
      let items ← commas "]" (value source levels)
      Scan.word "]"
      return .list items source) <|>
    (do
      Scan.word "\x7b"
      gap
      let pairs ← commas "\x7d" (pair (value source levels))
      Scan.word "\x7d"
      return pairs.foldl (fun t (k, v) => define source k v t) (.table [] source)) <|>
    (do
      let s ← (scalar? (← wordText) : Option Scalar)
      return .scalar s source)

/-! ## Statements -/

inductive Statement where
  /-- A value for a key of the table whose header came last. -/
  | pair (key : List String) (value : Tree)
  /-- The header of a table. -/
  | table (key : List String)
  /-- The header of one more table in a list. -/
  | item (key : List String)

def statement (v : Scan Tree) : Scan Statement :=
  (do
    Scan.word "[["
    blanks
    let k ← key
    blanks
    Scan.word "]]"
    return .item k) <|>
  (do
    Scan.word "["
    blanks
    let k ← key
    blanks
    Scan.word "]"
    return .table k) <|>
  (do
    let (k, v) ← pair v
    return .pair k v)

/-- A line, which may have no statement. -/
def line (v : Scan Tree) : Scan (Option Statement) := do
  blanks
  let s ← Scan.optional (statement v)
  blanks
  let _ ← Scan.optional comment
  newline <|> Scan.atEnd
  return s

/-- A table with a statement, and the header that holds then. -/
def take (source : Source) (s : List String × Tree) : Statement → List String × Tree
  | .pair k v => (s.1, define source (s.1 ++ k) v s.2)
  | .table k => (k, alter source (fun t => t.getD (.table [] source)) k (some s.2))
  | .item k =>
    let more (t : Option Tree) : Tree :=
      .list ((t.getD .empty).items ++ [.table [] source]) source
    (k, alter source more k (some s.2))

/-- The members of the table that a text describes. -/
def read (source : Source) (t : String) : Option (List (String × Tree)) := do
  let cs := t.toList
  let cs := if cs.head? = some '\ufeff' then cs.tail else cs
  let lines ← Scan.whole (Scan.many (line (value source cs.length))) cs
  match ((lines.filterMap id).foldl (take source) ([], .table [] source)).2 with
  | .table members _ => some members
  | _ => none

end Sluice.Settings.Toml
