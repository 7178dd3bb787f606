import Sluice.Broker.Record
import Sluice.Event.Body
import Sluice.Gateway.Publishing
import Sluice.Proofs.Event.Body
import Sluice.Proofs.Event.Wire

/-!
# Records read back

An event comes to the broker from a body, alone or in a batch, and is stamped or marked on its way
(`Incoming`).  None of this makes it too long, so the value of its record is again a body, of that
very event (`record_read_back`), and no two events have the same record value.  It may be any event
at all that is not too long (`incoming_iff`), with any characters in its texts and names, any bytes
and numbers, and any timestamp.
-/

namespace Sluice

/-! ## Bodies -/

namespace Body

/-- The text of an event that is not too long is a body of that event. -/
theorem event_wire {e : Event} (h : e.violations = []) : event (Text.bytes e.wire) = .ok e := by
  exact event_eq_ok.2 ⟨e.decode_wire, h⟩

end Body

/-! ## Records -/

namespace Gateway

/-- Events on their way to the broker. -/
inductive Incoming : Event → Prop
  /-- The event of a body. -/
  | alone {body : List UInt8} {e : Event} (h : Body.event body = .ok e) : Incoming e
  /-- An event of a batch. -/
  | batched {body : List UInt8} {events : List Event} {e : Event}
      (h : Body.batch body = .ok events) (he : e ∈ events) : Incoming e
  /-- An event with its publisher and the time. -/
  | stamped (who : Principal) (now : Timestamp) {e : Event} (h : Incoming e) :
      Incoming (stamp who now e)
  /-- An event with the marker of the internal path. -/
  | marked (s : InternalSettings) {e : Event} (h : Incoming e) : Incoming (mark s e)

theorem Incoming.violations {e : Event} (h : Incoming e) : e.violations = [] := by
  induction h with
  | alone h => exact Body.violations_of_event h
  | batched h he => exact Body.violations_of_batch h _ he
  | stamped who now _ ih => exact ih
  | marked s _ ih => exact ih

/-- Every event that is not too long may come to the broker. -/
theorem incoming_iff {e : Event} : Incoming e ↔ e.violations = [] :=
  ⟨Incoming.violations, fun h => .alone (Body.event_wire h)⟩

/-- The value of the record of an event is a body of that event, and no other event has it. -/
theorem record_read_back {e : Event} (h : Incoming e) (origin : Origin) (made : Timestamp) :
    Body.event (Broker.Record.ofEvent e origin made).value = .ok e ∧
      ∀ {other : Event}, Incoming other → other ≠ e → ∀ (origin' : Origin) (made' : Timestamp),
        (Broker.Record.ofEvent other origin' made').value ≠
          (Broker.Record.ofEvent e origin made).value := by
  have hread : Body.event (Broker.Record.ofEvent e origin made).value = .ok e :=
    Body.event_wire h.violations
  refine ⟨hread, fun {other} hother hne origin' made' hvalue => hne ?_⟩
  have hread' : Body.event (Broker.Record.ofEvent other origin' made').value = .ok other :=
    Body.event_wire hother.violations
  rw [hvalue, hread] at hread'
  exact (Except.ok.inj hread').symm

/-- An event with texts that have to be escaped, the least number, and a leap second in a year of
five digits. -/
def rareEvent : Event where
  id := "\x00\x22\\"
  specVersion := "é"
  source := ""
  type := "\n"
  attributes :=
    ((Attributes.empty.insert "\x22" (.bytes [0, 255])).insert "" (.integer Int32.minValue)).insert
      "leap" (.timestamp ⟨⟨12026, 12, 31, by decide⟩, 23, 59, 60, 1, by decide⟩)
  text := some "\x7f"

theorem record_read_back_rare :
    Body.event (Broker.Record.ofEvent (mark .default rareEvent) .internal .epoch).value =
        .ok (mark .default rareEvent) ∧
      (Broker.Record.ofEvent rareEvent .metered .epoch).value ≠
        (Broker.Record.ofEvent (mark .default rareEvent) .internal .epoch).value := by
  have hrare : Incoming rareEvent := incoming_iff.2 rfl
  have hne : rareEvent ≠ mark .default rareEvent := fun h =>
    absurd (congrArg (·.attributes.size) h) (by decide)
  obtain ⟨hread, hother⟩ := record_read_back (.marked .default hrare) .internal .epoch
  exact ⟨hread, hother hrare hne .metered .epoch⟩

end Gateway

end Sluice
