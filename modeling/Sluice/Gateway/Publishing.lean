import Sluice.Gateway.Admission
import Sluice.Json.Value

/-!
# Publishing

A batch is filtered by the deny-list in force, stamped with the publisher and the time, and
admitted.  An event of the internal path skips the deny-list and the quota, and carries a marker
instead.
-/

namespace Sluice.Gateway

open Json (Reader Value Field Record)

/-! ## Settings -/

/-- The settings of the internal path. -/
structure InternalSettings where
  markerName : String
  markerValue : Int32
  /-- The events admitted in a minute. -/
  perMinute : UInt32
deriving DecidableEq, Repr

namespace InternalSettings

/-- The settings that hold unless others are given. -/
def default : InternalSettings := ⟨"gwinternal", 0, 1⟩

/-- The fields of the settings. -/
def record : Record InternalSettings where
  title := "struct InternalWriterConfig"
  blank := default
  fields :=
    [.defaulted "marker_name" Reader.string fun v s => { s with markerName := v },
      .defaulted "marker_value" Reader.int32 fun v s => { s with markerValue := v },
      .defaulted "rate_per_minute" Reader.uint32 fun v s => { s with perMinute := v }]

def toJson (s : InternalSettings) : Value :=
  .object [("marker_name", .string s.markerName), ("marker_value", .whole s.markerValue.toInt),
    ("rate_per_minute", .whole s.perMinute.toNat)]

end InternalSettings

/-! ## Stamps -/

/-- An event with its publisher and the time it was let in. -/
def stamp (who : Principal) (now : Timestamp) (e : Event) : Event :=
  (e.withAttribute AttributeName.groupId (.string who.groupId)
    |>.withAttribute AttributeName.userId (.string who.userId)).withAttribute
      AttributeName.publishedAt (.timestamp now)

/-- An event with the marker of the internal path. -/
def mark (s : InternalSettings) (e : Event) : Event :=
  e.withAttribute s.markerName (.integer s.markerValue)

/-! ## The two paths -/

/-- Stamps and admits the events that the deny-list lets through. -/
def publishAllowed (who : Principal) (start : Nat) (events : List Event) :
    Action (Except Fault UInt32) := do
  let now ← wallClock
  let result ← admitBatch who (events.map (stamp who now))
  observe (millisecondsBetween start (← clock))
  return result

/-- Publishes a batch: how many of its events the sink acknowledged. -/
def publish (who : Principal) (events : List Event) : Action (Except Fault UInt32) := do
  let start ← clock
  count .batchesReceived 1
  count .eventsReceived (countOf events)
  match (← denyList).filter events with
  | .reject hit =>
    count .batchesDenied 1
    return .error hit.fault
  | .truncate events _ =>
    count .batchesTruncated 1
    publishAllowed who start events
  | .accept events => publishAllowed who start events

/-- Publishes one event by the internal path: how many events the sink acknowledged. -/
def publishInternal (s : InternalSettings) (who : Principal) (e : Event) :
    Action (Except Fault UInt32) := do
  count .internalEventsReceived 1
  let now ← wallClock
  return (← forward .internal [stamp who now (mark s e)]).mapError Fault.asForwarding

end Sluice.Gateway
