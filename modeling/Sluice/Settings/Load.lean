import Sluice.Environment.Basic
import Sluice.Settings.Basic
import Sluice.Settings.Toml
import Sluice.Text.Blank
import Sluice.Text.Split

/-!
# Loading the settings

The settings are read from three layers, each over the one before: those that hold unless others are
given, a file, and the variables of the environment that start with `GATEWAY__`.  After that some
variables change single settings (`overrides`).

A variable of the third layer has the path of its setting in its name, with two underscores between
the parts, in any letter case.  Its value is a truth value or a number if it looks like one.
-/

namespace Sluice.Settings

/-! ## The environment as a layer -/

/-- What the value of a variable stands for. -/
def scalarOf (s : String) : Scalar :=
  if lower s == "true" then .boolean true
  else if lower s == "false" then .boolean false
  else
    match (Tree.wholeNumber? true s).filter Tree.isInt64 with
    | some n => .integer (Int64.ofInt n)
    | none => ((Decimal.readFloat s.toList).map Scalar.fraction).getD (.text s)

/-- How the names of the variables start that are settings. -/
def variablePrefix : List Char := "gateway__".toList

/-- Characters with a point for every two underscores. -/
def pointed : List Char → List Char
  | '_' :: '_' :: r => '.' :: pointed r
  | c :: r => c :: pointed r
  | [] => []

/-- The path that the name of a variable spells, if it is a setting. -/
def variableKey? (name : String) : Option String :=
  let cs := (lower name).toList
  if variablePrefix.isPrefixOf cs then
    some (String.ofList (pointed (cs.drop variablePrefix.length)))
  else none

/-- The settings that are variables, with the paths of their names. -/
def variableLayer (e : Environment) : List (String × Tree) :=
  e.bindings.filterMap fun (name, value) =>
    (variableKey? name).map fun key => (key, .scalar (scalarOf value) .environment)

/-! ## The file -/

/-- Files by their paths. -/
abbrev Files := List (String × String)

/-- The paths that a file with settings may have; the first that is there counts. -/
def filePaths : List String := ["config/default", "config/default.toml"]

/-- The members of the file with settings, if it can be read; there need be none. -/
def fileLayer (files : Files) : Option (List (String × Tree)) :=
  match filePaths.find? fun p => (files.lookup p).isSome with
  | none => some []
  | some path => Toml.read (.file path) ((files.lookup path).getD "")

/-! ## Single settings -/

/-- Why a text is no whole number within its bounds. -/
inductive NumberFault where
  /-- It is empty. -/
  | noDigits
  /-- It has a character that is no digit. -/
  | badDigit
  /-- The number is too large. -/
  | tooLarge
  /-- The number is too small. -/
  | tooSmall
deriving DecidableEq, Repr

/-- The text of a fault. -/
def NumberFault.message : NumberFault → String
  | .noDigits => "cannot parse integer from empty string"
  | .badDigit => "invalid digit found in string"
  | .tooLarge => "number too large to fit in target type"
  | .tooSmall => "number too small to fit in target type"

/-- A number with one more digit, if it stays within its bounds. -/
def withDigit (least most : Int) (negative : Bool) (n : Int) (c : Char) :
    Except NumberFault Int :=
  match Text.digitValue? 10 c with
  | none => .error .badDigit
  | some d =>
    let n := if negative then 10 * n - d else 10 * n + d
    if most < n then .error .tooLarge else if n < least then .error .tooSmall else .ok n

/-- The number that digits spell, at least one. -/
def digitsWithin (least most : Int) (negative : Bool) : List Char → Except NumberFault Int
  | [] => .error .badDigit
  | cs => cs.foldlM (withDigit least most negative) 0

/-- The whole number that a text spells, within bounds; it has no minus if it cannot be negative. -/
def wholeWithin (least most : Int) (s : String) : Except NumberFault Int :=
  match s.toList with
  | [] => .error .noDigits
  | '+' :: r => digitsWithin least most false r
  | '-' :: r => if least < 0 then digitsWithin least most true r else .error .badDigit
  | cs => digitsWithin least most false cs

/-- A variable that changes a setting. -/
structure Override where
  /-- The name of the variable. -/
  name : String
  /-- The settings after the change. -/
  apply : String → Settings → Except NumberFault Settings

/-- A variable whose value is taken as it is. -/
def Override.text (name : String) (set : String → Settings → Settings) : Override :=
  ⟨name, fun v s => .ok (set v s)⟩

/-- A variable whose value is a whole number within bounds. -/
def Override.whole (name : String) (least most : Int) (set : Int → Settings → Settings) :
    Override :=
  ⟨name, fun v s => (wholeWithin least most v).map fun n => set n s⟩

/-- The addresses in a list with commas between them. -/
def addresses (s : String) : List String :=
  (Text.splitBy (· == ',') s.toList).map fun cs => String.ofList (Text.trimBlank cs)

/-- The variables that change settings, in the order in which they do. -/
def overrides : List Override :=
  [.text "GATEWAY_REDPANDA_BROKERS" fun v s =>
      { s with broker := { s.broker with brokers := addresses v } },
    .text "GATEWAY_REDPANDA_SASL_USERNAME" fun v s =>
      { s with broker := { s.broker with username := some v } },
    .text "GATEWAY_REDPANDA_SASL_PASSWORD" fun v s =>
      { s with broker := { s.broker with password := some v } },
    .text "GATEWAY_REDPANDA_TOPIC" fun v s => { s with broker := { s.broker with topic := v } },
    .text "GATEWAY_QUOTA_URL" fun v s => { s with quota := { s.quota with url := v } },
    .text "GATEWAY_DENY_LIST_URL" fun v s => { s with denyList := { s.denyList with url := v } },
    .whole "GATEWAY_DENY_LIST_REFRESH_INTERVAL_SECS" 0 (UInt64.size - 1 : Nat) fun n s =>
      { s with denyList := { s.denyList with refreshSecs := UInt64.ofNat n.toNat } },
    .text "GATEWAY_INTERNAL_MARKER_NAME" fun v s =>
      { s with internal := { s.internal with markerName := v } },
    .whole "GATEWAY_INTERNAL_MARKER_VALUE" Int32.minValue.toInt Int32.maxValue.toInt fun n s =>
      { s with internal := { s.internal with markerValue := Int32.ofInt n } },
    .whole "GATEWAY_INTERNAL_RATE_PER_MINUTE" 0 (UInt32.size - 1 : Nat) fun n s =>
      { s with internal := { s.internal with perMinute := UInt32.ofNat n.toNat } }]

/-! ## Loading -/

/-- Why the settings cannot be loaded. -/
inductive LoadFailure where
  /-- The file is not TOML. -/
  | malformed
  /-- The key of a value leads nowhere. -/
  | noPlace
  /-- The layers are no settings. -/
  | unfit (failure : Failure)
  /-- The value of a variable is no number that is wanted. -/
  | override (name : String) (fault : NumberFault)

/-- The text of a failure. -/
def LoadFailure.message : LoadFailure → String
  | .malformed => "Failed to build configuration"
  | .noPlace => "Failed to place a value in the configuration"
  | .unfit f => "Failed to deserialize configuration: " ++ f.message
  | .override name fault => "Invalid " ++ name ++ ": " ++ fault.message

/-- The settings after the change by a variable, if it is set. -/
def Override.applyFrom (e : Environment) (s : Settings) (o : Override) :
    Except LoadFailure Settings :=
  match e.get? o.name with
  | none => .ok s
  | some v => (o.apply v s).mapError (.override o.name)

/-- The layers, each over the one before. -/
def layers (e : Environment) (file : List (String × Tree)) : Option Tree := do
  (← (Tree.ofJson default.toJson).layer file).layer (variableLayer e)

def load (e : Environment) (files : Files) : Except LoadFailure Settings := do
  match fileLayer files with
  | none => throw .malformed
  | some file =>
    let some tree := layers e file | throw .noPlace
    let s ← (rootSection.read tree).mapError .unfit
    overrides.foldlM (Override.applyFrom e) s

end Sluice.Settings
