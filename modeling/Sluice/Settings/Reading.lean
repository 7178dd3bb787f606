import Sluice.Decimal.Shortest
import Sluice.Settings.Path
import Sluice.Text.Quoted

/-!
# Reading settings

What is wanted of a value is a text, a whole number, a list or the fields of a section.  A value
without parts is taken for a text or a number wherever it can be: a text may spell a number, numbers
and truth values have texts, and a truth value counts as one or zero.

What cannot be taken for what is wanted is a `Failure`.  Failures of texts and numbers tell the
path of the value, and where it was given unless the number was only too large for its field.
-/

namespace Sluice.Settings

/-! ## Failures -/

/-- What a value was found to be. -/
inductive Found where
  | nothing
  | table
  | list
  | boolean (value : Bool)
  /-- A number that need not be whole. -/
  | fraction (value : Float)
  | text (value : String)
  | integer (value : Int64)
  /-- A whole number that was wanted as one. -/
  | signed (value : Int64)
  /-- A whole number that was wanted as one without a sign. -/
  | unsigned (value : UInt64)

/-- How numbers are written: without powers of ten, and whole numbers without a point. -/
def plainStyle : Decimal.Style := ⟨-400, 400, false, false⟩

/-- How numbers are written where whole ones are to be seen as fractions. -/
def pointStyle : Decimal.Style := ⟨-400, 400, true, false⟩

/-- What a value was found to be, in words. -/
def Found.message : Found → String
  | .nothing => "unit value"
  | .table => "map"
  | .list => "sequence"
  | .boolean b => "boolean `" ++ toString b ++ "`"
  | .fraction x => "floating point `" ++ pointStyle.text x ++ "`"
  | .text s => "string " ++ Text.quoted s
  | .integer n => "integer `" ++ toString n.toInt ++ "`"
  | .signed n => "64-bit integer `" ++ toString n.toInt ++ "`"
  | .unsigned n => "64-bit unsigned integer `" ++ toString n.toNat ++ "`"

/-- Why settings cannot be read. -/
inductive Failure where
  /-- A value is no text or number that is wanted. -/
  | unfit (found : Found) (expected : String) (path : Path) (source : Source)
  /-- A value is no list or section. -/
  | shape (found : Found) (expected : String)
  /-- A field is missing in a section. -/
  | missing (field : String)
  /-- A section that is given as a list ends too early. -/
  | short (length : Nat) (title : String) (fields : Nat)

/-- The words that tell where a value was given. -/
def Source.message : Source → String
  | .builtIn => ""
  | .file path => " in " ++ path
  | .environment => " in the environment"

/-- The text of a failure. -/
def Failure.message : Failure → String
  | .unfit found expected path source =>
    "invalid type: " ++ found.message ++ ", expected " ++ expected ++
      (if path.isEmpty then "" else " for key `" ++ path.text ++ "`") ++ source.message
  | .shape found expected => "invalid type: " ++ found.message ++ ", expected " ++ expected
  | .missing field => "missing field `" ++ field ++ "`"
  | .short length title fields =>
    "invalid length " ++ toString length ++ ", expected " ++ title ++ " with " ++
      toString fields ++ " element" ++ (if fields = 1 then "" else "s")

/-- A failure of a part, as one of the whole. -/
def Failure.within (step : Step) : Failure → Failure
  | .unfit found expected path source => .unfit found expected (step :: path) source
  | f => f

/-- What is read from a value. -/
abbrev Read (α : Type) := Tree → Except Failure α

namespace Tree

/-- What a value is. -/
def found : Tree → Found
  | .scalar .nothing _ => .nothing
  | .scalar (.boolean b) _ => .boolean b
  | .scalar (.integer n) _ => .integer n
  | .scalar (.fraction x) _ => .fraction x
  | .scalar (.text s) _ => .text s
  | .list _ _ => .list
  | .table _ _ => .table

/-- Where a value was given. -/
def source : Tree → Source
  | .scalar _ s => s
  | .list _ s => s
  | .table _ s => s

/-- The failure of a value that is not what is wanted. -/
def unfit (t : Tree) (expected : String) : Failure := .unfit t.found expected [] t.source

/-! ## Texts and numbers -/

def readText : Read String
  | .scalar (.text s) _ => .ok s
  | .scalar (.boolean b) _ => .ok (toString b)
  | .scalar (.integer n) _ => .ok (toString n.toInt)
  | .scalar (.fraction x) _ => .ok (plainStyle.text x)
  | t => .error (t.unfit "a string")

/-- The number of a switch by its name. -/
def switch? (s : String) : Option Nat :=
  if ["true", "on", "yes"].contains (lower s) then some 1
  else if ["false", "off", "no"].contains (lower s) then some 0
  else none

/-- The whole number that a text spells; only where it may be negative it may have a minus. -/
def wholeNumber? (mayBeNegative : Bool) (s : String) : Option Int :=
  match s.toList with
  | '+' :: digits => (Text.number? 10 digits).map Int.ofNat
  | '-' :: digits =>
    if mayBeNegative then (Text.number? 10 digits).map fun n => -(n : Int) else none
  | digits => (Text.number? 10 digits).map Int.ofNat

/-- A whole number that fits into 64 bits with a sign. -/
def isInt64 (n : Int) : Bool := Int64.minValue.toInt ≤ n && n ≤ Int64.maxValue.toInt

/-- A whole number with a sign, in 64 bits. -/
def readSigned : Read Int64
  | .scalar (.integer n) _ => .ok n
  | .scalar (.boolean b) _ => .ok (if b then 1 else 0)
  | .scalar (.fraction x) _ => .ok x.round.toInt64
  | .scalar (.text s) source =>
    match switch? s with
    | some n => .ok (Int64.ofNat n)
    | none =>
      match wholeNumber? true s with
      | some n =>
        if isInt64 n then .ok (Int64.ofInt n)
        else .error (.unfit (.text s) "an integer" [] source)
      | none => .error (.unfit (.text s) "an integer" [] source)
  | t => .error (t.unfit "an integer")

/-- A whole number without a sign, in 64 bits. -/
def readUnsigned : Read UInt64
  | .scalar (.integer n) source =>
    if 0 ≤ n.toInt then .ok (UInt64.ofNat n.toInt.toNat)
    else .error (.unfit (.signed n) "an unsigned 64 bit or less integer" [] source)
  | .scalar (.boolean b) _ => .ok (if b then 1 else 0)
  | .scalar (.fraction x) _ => .ok x.round.toUInt64
  | .scalar (.text s) source =>
    match switch? s with
    | some n => .ok (UInt64.ofNat n)
    | none =>
      match wholeNumber? false s with
      | some n =>
        if n < UInt64.size then .ok (UInt64.ofNat n.toNat)
        else .error (.unfit (.text s) "an integer" [] source)
      | none => .error (.unfit (.text s) "an integer" [] source)
  | t => .error (t.unfit "an integer")

/-- A whole number without a sign, in fewer bits. -/
def readNatural (bits : Nat) : Read Nat := fun t => do
  let n ← t.readUnsigned
  if n.toNat < Nat.pow 2 bits then .ok n.toNat
  else
    .error (.unfit (.unsigned n) ("an unsigned " ++ toString bits ++ " bit integer") [] .builtIn)

/-- A whole number with a sign, in 32 bits. -/
def readInt32 : Read Int32 := fun t => do
  let n ← t.readSigned
  if Int32.minValue.toInt ≤ n.toInt ∧ n.toInt ≤ Int32.maxValue.toInt then .ok (Int32.ofInt n.toInt)
  else .error (.unfit (.signed n) "an signed 32 bit integer" [] .builtIn)

/-! ## Values with parts -/

/-- A value, or none. -/
def readOptional {α : Type} (read : Read α) : Read (Option α)
  | .scalar .nothing _ => .ok none
  | t => (read t).map some

/-- The items of a list, the first of them with this number. -/
def readItems {α : Type} (read : Read α) : Nat → List Tree → Except Failure (List α)
  | _, [] => .ok []
  | n, t :: r => do
    let a ← (read t).mapError (Failure.within (.index n))
    return a :: (← readItems read (n + 1) r)

def readList {α : Type} (read : Read α) : Read (List α)
  | .list items _ => readItems read 0 items
  | t => .error (.shape t.found "a sequence")

end Tree

/-! ## Sections -/

/-- A field of a section. -/
structure Field (α : Type) where
  name : String
  /-- A section cannot be without it. -/
  isNeeded : Bool
  /-- Puts a value into a section. -/
  read : Tree → α → Except Failure α

/-- A field that a section may be without. -/
def Field.of {α β : Type} (name : String) (read : Read β) (set : β → α → α) : Field α :=
  ⟨name, false, fun t a => (read t).map fun v => set v a⟩

structure Section (α : Type) where
  /-- What it is called in failures. -/
  title : String
  /-- The section before any of its fields is read. -/
  blank : α
  fields : List (Field α)

namespace Section

variable {α : Type}

/-- A section with the fields that are members of a table. -/
def fromMembers (members : List (String × Tree)) : List (Field α) → α → Except Failure α
  | [], a => .ok a
  | f :: r, a =>
    match members.lookup f.name with
    | none => fromMembers members r a
    | some t => do
      fromMembers members r (← (f.read t a).mapError (Failure.within (.key f.name)))

/-- A section with its fields in order, the first of them with this number. -/
def fromItems (s : Section α) : Nat → List (Field α) → List Tree → α → Except Failure α
  | _, [], _, a => .ok a
  | n, f :: r, t :: items, a => do
    fromItems s (n + 1) r items (← (f.read t a).mapError (Failure.within (.index n)))
  | n, f :: r, [], a =>
    if f.isNeeded then .error (.short n s.title s.fields.length) else fromItems s (n + 1) r [] a

/-- A section that is given as a table, or as a list of its fields in order. -/
def read (s : Section α) : Read α
  | .table members _ => do
    let a ← fromMembers members s.fields s.blank
    match s.fields.find? fun f => f.isNeeded && (members.lookup f.name).isNone with
    | some f => .error (.missing f.name)
    | none => .ok a
  | .list items _ => s.fromItems 0 s.fields items s.blank
  | t => .error (.shape t.found s.title)

end Section

end Sluice.Settings
