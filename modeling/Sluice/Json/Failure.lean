import Sluice.Text.Quoted

/-!
# Why a JSON text is refused

A reading fails with a `Cause` at a `Place`.  Most causes are found at a byte and are placed at
once.  A cause that concerns a whole member, such as a field given twice, is left `pending`: the
list or the object around it looks for its own end first and places the failure there
(`Failure.settle`).

A place is kept as the bytes left to read.  `Failure.position` counts it out as a line, from one,
and a column, which is the number of bytes since the last line feed.
-/

namespace Sluice.Json

/-- What stands in a text in place of what was expected. -/
inductive Shape where
  | null
  | boolean (value : Bool)
  | integer (value : Int)
  /-- A number with a fraction or an exponent, in its shortest text. -/
  | fraction (text : String)
  | string (value : String)
  | list
  | object
  /-- The name of an alternative without its content. -/
  | bareName
deriving DecidableEq, Repr

/-- How a shape is named in a message. -/
def Shape.text : Shape → String
  | .null => "null"
  | .boolean b => "boolean `" ++ (if b then "true" else "false") ++ "`"
  | .integer n => "integer `" ++ toString n ++ "`"
  | .fraction t => "floating point `" ++ t ++ "`"
  | .string s => "string " ++ Text.quoted s
  | .list => "sequence"
  | .object => "map"
  | .bareName => "unit variant"

/-- What is wrong with a text. -/
inductive Cause where
  /-- The text ends where a value is due. -/
  | endInValue
  /-- The text ends inside a list. -/
  | endInList
  /-- The text ends inside an object. -/
  | endInObject
  /-- The text ends inside a string. -/
  | endInString
  | valueDue
  /-- A word that is none of `null`, `true` and `false`. -/
  | wordDue
  | colonDue
  /-- A comma or the end of a list is due. -/
  | listGoesOn
  /-- A comma or the end of an object is due. -/
  | objectGoesOn
  /-- A key that is no string. -/
  | keyNoString
  /-- A comma before the end. -/
  | trailingComma
  /-- Something after the end. -/
  | trailing
  /-- A number that breaks the grammar. -/
  | numberForm
  /-- A number too large to be held. -/
  | numberRange
  /-- An escape that breaks the grammar. -/
  | escapeForm
  /-- A first half of a pair of escapes without a second. -/
  | halfPair
  /-- A half of a pair of escapes where it cannot stand. -/
  | strayHalf
  /-- A string whose bytes are no text. -/
  | noText
  /-- A control character in a string. -/
  | control
  /-- Lists and objects in each other beyond the limit. -/
  | depth
  /-- A value of another type. -/
  | typeMismatch (found : Shape) (expected : String)
  /-- A value of the right type out of its range. -/
  | outOfRange (found : Shape) (expected : String)
  /-- A list that ends before the fields it must have. -/
  | tooShort (length : Nat) (expected : String)
  /-- A name of no alternative. -/
  | unknownName (name : String) (known : List String)
  /-- A field that must be there is not. -/
  | missing (field : String)
  /-- A field given twice. -/
  | twice (field : String)
  /-- A string that its own rules refuse. -/
  | refused (reason : String)
deriving DecidableEq, Repr

/-- The names of the alternatives, for a message. -/
def alternatives : List String → String
  | [] => "there are no variants"
  | [a] => "expected `" ++ a ++ "`"
  | [a, b] => "expected `" ++ a ++ "` or `" ++ b ++ "`"
  | names => "expected one of " ++ ", ".intercalate (names.map fun a => "`" ++ a ++ "`")

/-- The text of a cause. -/
def Cause.message : Cause → String
  | .endInValue => "EOF while parsing a value"
  | .endInList => "EOF while parsing a list"
  | .endInObject => "EOF while parsing an object"
  | .endInString => "EOF while parsing a string"
  | .valueDue => "expected value"
  | .wordDue => "expected ident"
  | .colonDue => "expected `:`"
  | .listGoesOn => "expected `,` or `]`"
  | .objectGoesOn => "expected `,` or `\x7d`"
  | .keyNoString => "key must be a string"
  | .trailingComma => "trailing comma"
  | .trailing => "trailing characters"
  | .numberForm => "invalid number"
  | .numberRange => "number out of range"
  | .escapeForm => "invalid escape"
  | .halfPair => "unexpected end of hex escape"
  | .strayHalf => "lone leading surrogate in hex escape"
  | .noText => "invalid unicode code point"
  | .control => "control character (\\u0000-\\u001F) found while parsing a string"
  | .depth => "recursion limit exceeded"
  | .typeMismatch found expected => "invalid type: " ++ found.text ++ ", expected " ++ expected
  | .outOfRange found expected => "invalid value: " ++ found.text ++ ", expected " ++ expected
  | .tooShort n expected => "invalid length " ++ toString n ++ ", expected " ++ expected
  | .unknownName name known => "unknown variant `" ++ name ++ "`, " ++ alternatives known
  | .missing field => "missing field `" ++ field ++ "`"
  | .twice field => "duplicate field `" ++ field ++ "`"
  | .refused reason => reason

/-- Where a reading failed, as the bytes left there. -/
inductive Place where
  /-- The place is settled. -/
  | settled (left : List UInt8)
  /-- The list or object around it will settle the place. -/
  | pending (left : List UInt8)
deriving DecidableEq, Repr

/-- A cause and its place. -/
structure Failure where
  cause : Cause
  place : Place
deriving DecidableEq, Repr

/-- A failure after the bytes read so far. -/
def Failure.here (cause : Cause) (left : List UInt8) : Failure := ⟨cause, .settled left⟩

/-- A failure at the next byte, or at the end of the text. -/
def Failure.atNext (cause : Cause) (left : List UInt8) : Failure := ⟨cause, .settled left.tail⟩

/-- A failure that the list or object around it places. -/
def Failure.within (cause : Cause) (left : List UInt8) : Failure := ⟨cause, .pending left⟩

/-- A failure with its place settled, after `close` has looked for the end from a pending place. -/
def Failure.settle (close : List UInt8 → List UInt8) (f : Failure) : Failure :=
  match f.place with
  | .settled _ => f
  | .pending left => ⟨f.cause, .settled (close left)⟩

/-- The line and the column after the bytes of a text before `left`. -/
def position (text left : List UInt8) : Nat × Nat :=
  let before := text.take (text.length - left.length)
  (before.count 0x0A + 1, (before.reverse.takeWhile (· != 0x0A)).length)

/-- A refusal of a whole text: the cause, and the line and column unless it concerns the whole. -/
structure Refusal where
  cause : Cause
  /-- The line and the column. -/
  position : Option (Nat × Nat)
deriving DecidableEq, Repr

/-- A failure counted out in its text. -/
def Failure.refusal (f : Failure) (text : List UInt8) : Refusal :=
  match f.place with
  | .settled left => ⟨f.cause, some (Json.position text left)⟩
  | .pending _ => ⟨f.cause, none⟩

/-- The text of a refusal. -/
def Refusal.message (r : Refusal) : String :=
  match r.position with
  | some (line, column) =>
    r.cause.message ++ " at line " ++ toString line ++ " column " ++ toString column
  | none => r.cause.message

end Sluice.Json
