/-!
# Logging

What is logged, and in which form, is told by two environment variables.
-/

namespace Sluice

/-- What is logged, and how. -/
structure Logging where
  /-- Which messages are logged, by origin and level. -/
  filter : String
  /-- Messages are logged as JSON. -/
  json : Bool
deriving DecidableEq, Repr

namespace Logging

/-- The filter that holds unless another is given. -/
def defaultFilter : String :=
  "info,pub_gateway=debug,admission=debug,api=info,tower_http=warn"

/-- A switch is on by `1` or by `true` in any letter case of ASCII. -/
def isOn (value : String) : Bool := value == "1" || value.map Char.toLower == "true"

/-- The logging that two variables ask for, one for the form and one for the filter. -/
def ofVariables (json filter : Option String) : Logging :=
  ⟨filter.getD defaultFilter, json.any isOn⟩

end Logging

end Sluice
