import Sluice.Event.Attributes

/-!
# Events

An event has an identity, an origin (`source`), a type, typed attributes and an optional text.  Only
the source, the type and the attributes that are texts are ever looked at; everything else is passed
through.

`Event.violations` lists the fields that are longer than an event may have, counted in characters.
-/

namespace Sluice

structure Event where
  /-- The identity, one per source. -/
  id : String
  /-- The version of the event format. -/
  specVersion : String
  /-- The origin of the event. -/
  source : String
  type : String
  attributes : Attributes
  text : Option String
deriving DecidableEq

/-- The version of events that are made here. -/
def specVersion : String := "1.0"

/-! ## Attribute names in use -/

namespace AttributeName

/-- The group that published the event. -/
def groupId : String := "groupid"

/-- The user who published the event. -/
def userId : String := "userid"

/-- The time the event was let in. -/
def publishedAt : String := "pubtime"

/-- The group a notice is for. -/
def toGroup : String := "togroupid"

/-- The user a notice is for. -/
def toUser : String := "touserid"

end AttributeName

namespace Event

/-- An event without attributes and text. -/
def make (id source type : String) : Event := ⟨id, Sluice.specVersion, source, type, .empty, none⟩

/-- The event with a value put under an attribute name. -/
def withAttribute (e : Event) (name : String) (value : AttributeValue) : Event :=
  { e with attributes := e.attributes.insert name value }

/-- The event with a text. -/
def withText (e : Event) (text : String) : Event := { e with text := some text }

/-- The value of an attribute. -/
def attribute? (e : Event) (name : String) : Option AttributeValue := e.attributes.get? name

/-! ## Lengths -/

/-- The most characters of an identity. -/
def idLimit : Nat := 256

/-- The most characters of a source. -/
def sourceLimit : Nat := 2048

/-- The most characters of a type. -/
def typeLimit : Nat := 256

/-- A field that is too long. -/
structure Violation where
  field : String
  /-- The most characters it may have. -/
  most : Nat
deriving DecidableEq, Repr

/-- The fields that are too long, in the order of their names. -/
def violations (e : Event) : List Violation :=
  [(e.type, Violation.mk "event_type" typeLimit), (e.id, ⟨"id", idLimit⟩),
    (e.source, ⟨"source", sourceLimit⟩)].filterMap fun (value, v) =>
      if v.most < value.length then some v else none

/-- The text of a violation. -/
def Violation.message (v : Violation) : String := v.field ++ ": Validation error: length"

end Event

end Sluice
