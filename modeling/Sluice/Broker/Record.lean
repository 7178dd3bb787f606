import Sluice.Broker.Settings
import Sluice.Event.Wire

/-!
# Records

An event is written to the broker as a record: its key is the source, its value the compact JSON of
the event, and a header tells whether it came through the metered or the internal path.
-/

namespace Sluice

/-- The path that an event came through. -/
inductive Origin where
  /-- Under a permit. -/
  | metered
  /-- Without one. -/
  | internal
deriving DecidableEq, Repr

/-- The name of a path. -/
def Origin.name : Origin → String
  | .metered => "metered"
  | .internal => "internal"

namespace Broker

structure Record where
  key : List UInt8
  value : List UInt8
  headers : List (String × List UInt8)
  /-- The time it was made. -/
  made : Timestamp
deriving DecidableEq

/-- The header that tells the path. -/
def Record.originHeader : String := "origin"

/-- The record of an event. -/
def Record.ofEvent (e : Event) (origin : Origin) (made : Timestamp) : Record :=
  ⟨Text.bytes e.source, Text.bytes e.wire,
    [(originHeader, Text.bytes origin.name)], made⟩

/-- Records that are written together. -/
structure Batch where
  codec : Codec
  records : List Record
deriving DecidableEq

end Broker

end Sluice
