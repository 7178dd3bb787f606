import Sluice.DenyList.Basic
import Sluice.Fault

/-!
# Filtering a batch

An event is checked by three kinds of keys, in this order: `source:` and its source, `type:` and
its source, and the name and the text of each attribute that is a text and not empty.  The second
kind looks at the source too: publishers and rules rely on that, and only the value reported for
it is the type.

A match in the first event rejects the batch; a match in a later one cuts the batch off before it.
-/

namespace Sluice

/-- A match of a rule in an event. -/
structure DenyHit where
  /-- The place of the event in its batch. -/
  index : Nat
  /-- The identity of the event. -/
  eventId : String
  /-- The text of the rule. -/
  rule : String
  /-- The dimension: `source`, `type` or the name of an attribute. -/
  dimension : String
  /-- The value reported. -/
  value : String
deriving DecidableEq, Repr

/-- The fault of a batch that is rejected. -/
def DenyHit.fault (h : DenyHit) : Fault := .rejected h.rule h.dimension h.value

/-- A key that is checked: its dimension, the value it is checked by, and the value reported. -/
structure DenyKey where
  dimension : String
  /-- The value that the key ends in. -/
  checked : String
  /-- The value reported. -/
  reported : String
deriving DecidableEq, Repr

def DenyKey.text (k : DenyKey) : String := k.dimension ++ ":" ++ k.checked

/-- The key of an attribute, if its value is a text and not empty. -/
def attributeKey? (name : String) (v : AttributeValue) : Option DenyKey :=
  match v.text? with
  | some t => if t.isEmpty then none else some ⟨name, t, t⟩
  | none => none

/-- The keys of an event, in the order of their check. -/
def Event.denyKeys (e : Event) : List DenyKey :=
  ⟨"source", e.source, e.source⟩ :: ⟨"type", e.source, e.type⟩ ::
    e.attributes.entries.filterMap fun (name, v) => attributeKey? name v

/-- The match of a list in the event at a place of its batch. -/
def DenyList.match? (list : DenyList) (index : Nat) (e : Event) : Option DenyHit :=
  e.denyKeys.findSome? fun k =>
    (list.find? k.text).map fun (rule, _) => ⟨index, e.id, rule, k.dimension, k.reported⟩

/-- The first match of a list in some events, whose places are counted from `index`. -/
def DenyList.firstMatch? (list : DenyList) (index : Nat) : List Event → Option DenyHit
  | [] => none
  | e :: r => (list.match? index e).or (list.firstMatch? (index + 1) r)

/-- What becomes of a batch. -/
inductive FilterDecision where
  /-- No event matches. -/
  | accept (events : List Event)
  /-- A later event matches; the events before it remain. -/
  | truncate (events : List Event) (hit : DenyHit)
  /-- The first event matches. -/
  | reject (hit : DenyHit)
deriving DecidableEq

namespace FilterDecision

/-- The events let through. -/
def allowed : FilterDecision → List Event
  | .accept events => events
  | .truncate events _ => events
  | .reject _ => []

def hit? : FilterDecision → Option DenyHit
  | .accept _ => none
  | .truncate _ h => some h
  | .reject h => some h

/-- No event is let through. -/
def isRejected : FilterDecision → Bool
  | .reject _ => true
  | _ => false

/-- The events let through, or the fault of a rejected batch. -/
def toExcept : FilterDecision → Except Fault (List Event)
  | .accept events => .ok events
  | .truncate events _ => .ok events
  | .reject h => .error h.fault

end FilterDecision

/-- What a list makes of a batch. -/
def DenyList.filter (list : DenyList) (batch : List Event) : FilterDecision :=
  match list.firstMatch? 0 batch with
  | none => .accept batch
  | some hit => if hit.index = 0 then .reject hit else .truncate (batch.take hit.index) hit

end Sluice
