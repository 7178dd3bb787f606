import Sluice.Json.Value

/-!
# Health

The process depends on the sink, the quota authority and the deny-list, and keeps for each whether
it works.  It is ready when it can publish: trouble with the quota authority only degrades it,
because every request reports that on its own.
-/

namespace Sluice

open Json (Reader Value Field Record)

/-! ## Components -/

/-- What the process depends on. -/
inductive Component where
  | sink
  | quota
  | denyList
deriving DecidableEq, Repr

/-- The name of a component in reports. -/
def Component.name : Component → String
  | .sink => "redpanda"
  | .quota => "quota"
  | .denyList => "deny_list"

/-- The state of a component. -/
structure ComponentState where
  /-- It works. -/
  healthy : Bool
  /-- Why it does not. -/
  message : Option String
deriving DecidableEq, Repr

/-- The state of a component that works. -/
def ComponentState.working : ComponentState := ⟨true, none⟩

/-- The state of a component that does not work. -/
def ComponentState.failing (message : String) : ComponentState := ⟨false, some message⟩

/-- The states of all components. -/
structure Health where
  /-- The state of the sink. -/
  sink : ComponentState
  /-- The state of the quota authority. -/
  quota : ComponentState
  /-- The state of the deny-list. -/
  denyList : ComponentState
deriving DecidableEq, Repr

/-- The states before anything was tried. -/
def Health.unknown : Health := ⟨⟨false, none⟩, ⟨false, none⟩, ⟨false, none⟩⟩

namespace Health

/-- The state of a component. -/
def get (h : Health) : Component → ComponentState
  | .sink => h.sink
  | .quota => h.quota
  | .denyList => h.denyList

/-- The states with another state of one component. -/
def set (h : Health) (c : Component) (s : ComponentState) : Health :=
  match c with
  | .sink => { h with sink := s }
  | .quota => { h with quota := s }
  | .denyList => { h with denyList := s }

theorem get_set (h : Health) (c d : Component) (s : ComponentState) :
    (h.set c s).get d = if c = d then s else h.get d := by
  cases c <;> cases d <;> rfl

/-- The process can publish. -/
def isReady (h : Health) : Bool := h.sink.healthy && h.denyList.healthy

/-- The process runs: one that answers at all does. -/
def isAlive (_ : Health) : Bool := true

end Health

/-! ## Reports -/

/-- The state of the process as a whole. -/
inductive HealthStatus where
  | healthy
  /-- Publishing works, something else does not. -/
  | degraded
  /-- Publishing does not work. -/
  | unhealthy
deriving DecidableEq, Repr

/-- The name of a status. -/
def HealthStatus.name : HealthStatus → String
  | .healthy => "healthy"
  | .degraded => "degraded"
  | .unhealthy => "unhealthy"

/-- The status of the states. -/
def Health.status (h : Health) : HealthStatus :=
  if h.sink.healthy && h.quota.healthy && h.denyList.healthy then .healthy
  else if h.isReady then .degraded
  else .unhealthy

/-- A component in a report. -/
structure ComponentReport where
  /-- The name of the component. -/
  name : String
  state : ComponentState
deriving DecidableEq, Repr

/-- A report on all components. -/
structure HealthReport where
  status : HealthStatus
  components : List ComponentReport
deriving DecidableEq, Repr

/-- The report on the states. -/
def Health.report (h : Health) : HealthReport :=
  ⟨h.status, [Component.sink, .quota, .denyList].map fun c => ⟨c.name, h.get c⟩⟩

/-- The fields of a component in a report. -/
def ComponentReport.record : Record ComponentReport where
  title := "struct ComponentHealthReport"
  blank := ⟨"", false, none⟩
  fields :=
    [.needed "name" Reader.string fun v c => { c with name := v },
      .needed "healthy" Reader.boolean fun v c => { c with state.healthy := v },
      .optional "message" Reader.string.orNull fun v c => { c with state.message := v }]

/-- A component in a report as JSON. -/
def ComponentReport.toJson (c : ComponentReport) : Value :=
  .object [("name", .string c.name), ("healthy", .boolean c.state.healthy),
    ("message", .orNull .string c.state.message)]

/-- The fields of a report. -/
def HealthReport.record : Record HealthReport where
  title := "struct HealthReport"
  blank := ⟨.unhealthy, []⟩
  fields :=
    [.needed "status" (Reader.oneOf [.healthy, .degraded, .unhealthy] HealthStatus.name)
        fun v r => { r with status := v },
      .needed "components" ComponentReport.record.reader.list fun v r => { r with components := v }]

def HealthReport.toJson (r : HealthReport) : Value :=
  .object [("status", .string r.status.name),
    ("components", .list (r.components.map (·.toJson)))]

end Sluice
