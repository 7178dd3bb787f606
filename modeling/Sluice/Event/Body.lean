import Sluice.Event.Wire
import Sluice.Fault

/-!
# Request bodies

A body is a single event, or a batch: an object whose member `events` is the list of its events.
The events of a batch keep their order.  A batch has at least one event and at most `batchLimit`,
and no event may be longer than `Event.violations` allows; of several events that are, the first
is named.
-/

namespace Sluice.Body

open Json (Reader Record Field)

/-- The most events of a batch. -/
def batchLimit : Nat := 1000

/-- The most bytes of a body. -/
def byteLimit : Nat := 1024 * 1024

/-- A batch as it stands in a body. -/
structure Batch where
  events : List Event
deriving DecidableEq

/-- The fields of a batch. -/
def Batch.record : Record Batch where
  title := "struct BatchBody"
  blank := ⟨[]⟩
  fields := [.defaulted "events" Event.reader.list fun v b => { b with events := v }]

/-- The fault of an event that is too long, by its place in the batch. -/
def lengthFault? (index : Nat) (e : Event) : Option Fault :=
  match e.violations with
  | [] => none
  | vs =>
    some (.invalidFormat ("event[" ++ toString index ++ "]: " ++
      "; ".intercalate (vs.map (·.message))))

/-- The fault of the first event that is too long, counted from `index`. -/
def firstLengthFault? (index : Nat) : List Event → Option Fault
  | [] => none
  | e :: r => (lengthFault? index e).or (firstLengthFault? (index + 1) r)

/-- The event of a body. -/
def event (body : List UInt8) : Except Fault Event :=
  match Event.reader.decode body with
  | .error r => .error (.invalidFormat ("invalid event: " ++ r.message))
  | .ok e =>
    match lengthFault? 0 e with
    | some f => .error f
    | none => .ok e

/-- The events of a body that holds a batch. -/
def batch (body : List UInt8) : Except Fault (List Event) :=
  match Batch.record.reader.decode body with
  | .error r => .error (.invalidFormat ("invalid event batch: " ++ r.message))
  | .ok ⟨events⟩ =>
    if events.isEmpty then .error (.validation .emptyBatch "batch has no events")
    else if batchLimit < events.length then
      .error (.validation .batchTooLarge ("batch has " ++ toString events.length ++
        " events, exceeds " ++ toString batchLimit ++ " limit"))
    else
      match firstLengthFault? 0 events with
      | some f => .error f
      | none => .ok events

/-- A body within the limit of bytes. -/
def checkSize (body : List UInt8) : Except Fault Unit :=
  if byteLimit < body.length then
    .error (.validation .batchTooLarge ("Payload size " ++ toString (body.length / 1024) ++
      "KB exceeds " ++ toString (byteLimit / 1024) ++ "KB limit"))
  else .ok ()

end Sluice.Body
