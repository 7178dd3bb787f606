import Sluice.Event.Body
import Sluice.Proofs.Json.Reader
import Sluice.Proofs.Text.Base64
import Sluice.Proofs.Time.Rfc3339

/-!
# Events read back

The compact text of any event is read as that event (`decode_wire`).  The readers of a value, of the
attributes and of the event take what `toJson` makes of them; for the attributes this rests on their
order, since they are put in one by one.
-/

namespace Sluice

open Json (Reader Value Reads)

/-! ## Attribute values -/

theorem reads_timestamp (t : Timestamp) : Reads Timestamp.reader (.string t.text) t :=
  (Json.reads_stringAs _ t.text).accept (by rw [Timestamp.read_text]; rfl)

theorem bytes_base64Text (b : List UInt8) : Text.bytes (base64Text b) = Text.Base64.encode b :=
  Text.bytes_ofList_map (Text.Base64.lt_of_mem_encode b)

theorem reads_base64 (b : List UInt8) : Reads base64Reader (.string (base64Text b)) b :=
  (Json.reads_string (base64Text b)).acceptWithin
    (by rw [bytes_base64Text, Text.Base64.decode_encode]; rfl)

theorem AttributeValue.reads (v : AttributeValue) : Reads AttributeValue.reader v.toJson v := by
  cases v with
  | boolean b => exact Json.reads_tagged rfl ((Json.reads_boolean b).map _)
  | bytes b => exact Json.reads_tagged rfl ((reads_base64 b).map _)
  | integer n => exact Json.reads_tagged rfl ((Json.reads_int32 n).map _)
  | string s => exact Json.reads_tagged rfl ((Json.reads_string s).map _)
  | timestamp t => exact Json.reads_tagged rfl ((reads_timestamp t).map _)
  | uri s => exact Json.reads_tagged rfl ((Json.reads_string s).map _)
  | uriReference s => exact Json.reads_tagged rfl ((Json.reads_string s).map _)

/-! ## Attributes -/

namespace Attributes

/-- The attributes with some entries put in, one after the other. -/
def insertAll (a : Attributes) (l : Entries) : Attributes :=
  l.foldl (fun a e => a.insert e.1 e.2) a

theorem get?_insertAll {l : Entries} (h : l.Ascending) (a : Attributes) (name : String) :
    (a.insertAll l).get? name = (l.get? name).or (a.get? name) := by
  induction l generalizing a with
  | nil => rfl
  | cons e l ih =>
    obtain ⟨k, v⟩ := e
    obtain ⟨hk, hl⟩ := List.pairwise_cons.1 h
    have hstep : (a.insertAll ((k, v) :: l)).get? name =
        (Entries.get? name l).or ((a.insert k v).get? name) := ih hl (a.insert k v)
    rw [hstep, get?_insert, Entries.get?]
    split
    · rename_i heq
      subst heq
      rw [Entries.get?_eq_none hk]
      rfl
    · rfl

/-- Attributes are what is made by putting in their entries. -/
theorem insertAll_entries (a : Attributes) : empty.insertAll a.entries = a := by
  refine ext_get? fun name => ?_
  rw [get?_insertAll a.ascending, get?_empty, Option.or_none]
  rfl

theorem takes (a : Attributes) (l : Entries) :
    Json.Members.Takes ⟨fun a name => .ok (AttributeValue.reader.map (a.insert name))⟩ a
      (l.map fun (name, v) => (name, v.toJson)) (a.insertAll l) := by
  induction l generalizing a with
  | nil => exact .done a
  | cons e l ih => exact .next rfl (e.2.reads.map _) (ih (a.insert e.1 e.2))

theorem reads (a : Attributes) : Reads Attributes.reader a.toJson a := by
  have h := takes empty a.entries
  rw [insertAll_entries] at h
  exact h.reads rfl "a map"

end Attributes

/-! ## Events -/

namespace Event

theorem reads (e : Event) : Reads Event.reader e.toJson e := by
  obtain ⟨id, specVersion, source, type, attributes, text⟩ := e
  have hfields (ms : List (String × Value)) (p : Json.Partial Event)
      (h : record.asObject.Takes
        ⟨["attributes", "type", "source", "specVersion", "id"],
          ⟨id, specVersion, source, type, attributes, none⟩⟩ ms p) :
      record.asObject.Takes ⟨[], record.blank⟩
        ([("id", .string id), ("specVersion", .string specVersion), ("source", .string source),
          ("type", .string type), ("attributes", attributes.toJson)] ++ ms) p := by
    refine Json.Record.takes_field rfl rfl ((Json.reads_string id).map _) ?_
    refine Json.Record.takes_field rfl rfl ((Json.reads_string specVersion).map _) ?_
    refine Json.Record.takes_field rfl rfl ((Json.reads_string source).map _) ?_
    refine Json.Record.takes_field rfl rfl ((Json.reads_string type).map _) ?_
    exact Json.Record.takes_field rfl rfl (attributes.reads.map _) h
  cases text with
  | none => exact Json.Record.reads (hfields [] _ (.done _)) rfl
  | some t =>
    exact Json.Record.reads (hfields [("textData", .string t)] _
      (Json.Record.takes_field rfl rfl ((Json.reads_string_orNull t).map _) (.done _))) rfl

/-- The text of an event is read as that event. -/
theorem decode_wire (e : Event) : Event.reader.decode (Text.bytes e.wire) = .ok e :=
  e.reads.decode

end Event

end Sluice
