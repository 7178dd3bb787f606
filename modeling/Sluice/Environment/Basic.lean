/-!
# The environment

Variables by their names, each with one value.
-/

namespace Sluice

/-- The variables of a process. -/
structure Environment where
  /-- Names and values, in the order in which they were first set. -/
  bindings : List (String × String)
deriving DecidableEq, Repr

namespace Environment

def empty : Environment := ⟨[]⟩

/-- The value of a variable. -/
def get? (e : Environment) (name : String) : Option String := e.bindings.lookup name

/-- Variables with one of them set. -/
def setIn (name value : String) : List (String × String) → List (String × String)
  | [] => [(name, value)]
  | (n, v) :: r => if n = name then (name, value) :: r else (n, v) :: setIn name value r

/-- The environment with a variable set. -/
def set (e : Environment) (name value : String) : Environment := ⟨setIn name value e.bindings⟩

/-- The environment with a variable set that was not. -/
def setIfUnset (e : Environment) (name value : String) : Environment :=
  if (e.get? name).isSome then e else e.set name value

/-- The environment without a variable. -/
def remove (e : Environment) (name : String) : Environment :=
  ⟨e.bindings.filter fun v => v.1 != name⟩

theorem get?_set_self (e : Environment) (name value : String) :
    (e.set name value).get? name = some value := by
  obtain ⟨l⟩ := e
  simp only [set, get?]
  induction l with
  | nil => simp [setIn]
  | cons v r ih =>
    obtain ⟨n, w⟩ := v
    by_cases h : n = name
    · simp [setIn, h]
    · simp [setIn, h, List.lookup_cons, beq_eq_false_iff_ne.mpr (Ne.symm h), ih]

theorem get?_setIfUnset_of_isSome {e : Environment} {name : String}
    (h : (e.get? name).isSome = true) (value : String) : e.setIfUnset name value = e := by
  simp [setIfUnset, h]

end Environment

end Sluice
