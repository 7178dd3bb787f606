import Sluice.Event.Body
import Sluice.Proofs.Json.Objects

/-!
# What a body is of a tree

The readers of attribute values, of attributes, of events and of batches are functions of trees, so
a body decodes as an event or a batch exactly if it has a tree of one (`means_event`,
`means_batch`).
-/

namespace Sluice

open Json (Means Tree)

/-! ## Attribute values -/

theorem means_timestamp : Means Timestamp.reader fun t =>
    t.text?.bind fun s =>
      ((Timestamp.read s).mapError fun e => Json.Cause.refused e.message).toOption :=
  (Json.means_stringAs _).accept _

theorem means_base64 : Means base64Reader fun t => t.text?.bind fun s =>
    ((Text.Base64.decode (Text.bytes s)).mapError fun e => Json.Cause.refused e.message).toOption :=
  (Json.means_stringAs _).acceptWithin _

theorem AttributeValue.allContentsMean : Json.AllContentsMean AttributeValue.alternatives := by
  intro a ha
  simp only [AttributeValue.alternatives, List.mem_cons, List.not_mem_nil, or_false] at ha
  rcases ha with rfl | rfl | rfl | rfl | rfl | rfl | rfl
  · exact (Json.means_boolean.map _).on
  · exact (means_base64.map _).on
  · exact (Json.means_int32.map _).on
  · exact ((Json.means_stringAs _).map _).on
  · exact (means_timestamp.map _).on
  · exact ((Json.means_stringAs _).map _).on
  · exact ((Json.means_stringAs _).map _).on

theorem means_attributeValue :
    Means AttributeValue.reader (Json.taggedOn AttributeValue.alternatives) :=
  Json.means_tagged AttributeValue.allContentsMean

/-! ## Events -/

/-- How attributes are taken in. -/
def attributeMembers : Json.Members Attributes :=
  ⟨fun a name => .ok (AttributeValue.reader.map (a.insert name))⟩

theorem attributeMembers_put (x : Attributes) (a : Json.Spelling × Tree) :
    attributeMembers.put x a =
      a.1.text?.bind fun name => (AttributeValue.reader.on a.2).map (x.insert name) := by
  rw [Json.Members.put]
  simp [attributeMembers, Except.toOption]

theorem means_attributes :
    Means Attributes.reader (Json.membersOn attributeMembers .empty .ok) := by
  refine Json.means_members ?_ _ _ _
  rintro x key r ⟨⟩
  exact (means_attributeValue.map _).on

theorem Event.allMean : Event.record.AllMean := by
  intro f hf
  simp only [Event.record, List.mem_cons, List.not_mem_nil, or_false] at hf
  rcases hf with rfl | rfl | rfl | rfl | rfl | rfl
  · exact ((Json.means_stringAs _).map _).on
  · exact ((Json.means_stringAs _).map _).on
  · exact ((Json.means_stringAs _).map _).on
  · exact ((Json.means_stringAs _).map _).on
  · exact (means_attributes.map _).on
  · exact ((Json.means_stringAs _).orNull.map _).on

theorem means_event : Means Event.reader Event.record.on := Json.Record.means Event.allMean

/-! ## Batches -/

/-- The key of the events of a batch. -/
def Body.eventsKey : Json.Spelling := .plain "events" (by decide)

theorem Body.Batch.allMean : Body.Batch.record.AllMean := by
  intro f hf
  simp only [Body.Batch.record, List.mem_cons, List.not_mem_nil, or_false] at hf
  subst hf
  exact (means_event.list.map _).on

theorem means_batch : Means Body.Batch.record.reader Body.Batch.record.on :=
  Json.Record.means Body.Batch.allMean

end Sluice
