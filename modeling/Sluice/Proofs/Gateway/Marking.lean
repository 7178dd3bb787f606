import Sluice.Proofs.Gateway.Requests

/-!
# The marker of the internal path

An event of the internal path is marked first and stamped then.  The name of the marker is a setting
and may be any text, also one of the three names of the stamp.  In that case the stamp is put over
the marker: who published an event is not left to a setting.  Under any other name the marker
stands, whatever the event had there (`Marked`).

Both writes go into one map, so what is read back of them under a name depends on which of the four
names it is, the later write before the earlier one (`attribute?_stamp`, `attribute?_mark`).
-/

namespace Sluice.Gateway

open Dialogue

/-- The names of the attributes of a stamp. -/
def stampNames : List String := ["groupid", "userid", "pubtime"]

/-- The second event is the first with the marker of the internal path and the stamp of a publisher
and a time, and all else is as it was. -/
structure Marked (s : InternalSettings) (who : Principal) (now : Timestamp) (e e' : Event) :
    Prop where
  id_eq : e'.id = e.id
  specVersion_eq : e'.specVersion = e.specVersion
  source_eq : e'.source = e.source
  type_eq : e'.type = e.type
  text_eq : e'.text = e.text
  groupId_eq : e'.attribute? "groupid" = some (.string who.groupId)
  userId_eq : e'.attribute? "userid" = some (.string who.userId)
  publishedAt_eq : e'.attribute? "pubtime" = some (.timestamp now)
  /-- The marker stands unless its name is one of the stamp. -/
  marker_iff : e'.attribute? s.markerName = some (.integer s.markerValue) ↔
    s.markerName ∉ stampNames
  attribute_eq : ∀ name, name ≠ s.markerName → name ∉ stampNames →
    e'.attribute? name = e.attribute? name

theorem attribute?_mark (s : InternalSettings) (e : Event) (name : String) :
    (mark s e).attribute? name =
      if s.markerName = name then some (.integer s.markerValue) else e.attribute? name := by
  rw [mark, Event.attribute?, Event.withAttribute, Attributes.get?_insert]
  rfl

section Stamp

variable {who : Principal} {now : Timestamp} {e : Event} {name : String}

theorem attribute?_stamp_of_notMem (h : name ∉ stampNames) :
    (stamp who now e).attribute? name = e.attribute? name := by
  simp only [stampNames, List.mem_cons, List.not_mem_nil, or_false, not_or] at h
  exact (stamped_stamp who now e).attribute_eq name h.1 h.2.1 h.2.2

/-- There is no number in a stamp. -/
theorem attribute?_stamp_ne_integer (h : name ∈ stampNames) (n : Int32) :
    (stamp who now e).attribute? name ≠ some (.integer n) := by
  have hstamp := stamped_stamp who now e
  simp only [stampNames, List.mem_cons, List.not_mem_nil, or_false] at h
  obtain rfl | rfl | rfl := h
  · rw [hstamp.groupId_eq]
    simp
  · rw [hstamp.userId_eq]
    simp
  · rw [hstamp.publishedAt_eq]
    simp

end Stamp

/-- Marking before stamping changes four attributes, and loses the marker only if the stamp has its
name. -/
theorem marked_stamp_mark (s : InternalSettings) (who : Principal) (now : Timestamp) (e : Event) :
    Marked s who now e (stamp who now (mark s e)) := by
  have hstamp := stamped_stamp who now (mark s e)
  refine ⟨rfl, rfl, rfl, rfl, rfl, hstamp.groupId_eq, hstamp.userId_eq, hstamp.publishedAt_eq,
    ⟨fun hmarker hmem => ?_, fun hmem => ?_⟩, fun name hne hmem => ?_⟩
  · exact attribute?_stamp_ne_integer hmem _ hmarker
  · rw [attribute?_stamp_of_notMem hmem, attribute?_mark, if_pos rfl]
  · rw [attribute?_stamp_of_notMem hmem, attribute?_mark, if_neg hne.symm]

/-- Whatever the settings, the publisher and the event, one event is handed over on the internal
path and nothing else is called for, and it is the event with its marker and the stamp of the time
that was read. -/
theorem internal_event_marked (s : InternalSettings) (who : Principal) (e : Event)
    (σ : Strategy protocol) :
    ∃ now e' x, ⟨.outside .wallClock, now⟩ ∈ ((publishInternal s who e).play σ []).1 ∧
      calls ((publishInternal s who e).play σ []).1 = [⟨.forward .internal [e'], x⟩] ∧
      Marked s who now e e' := by
  obtain ⟨now, x, hnow, hcalls, -⟩ := (publishInternal_ends s who e).played σ
  exact ⟨now, _, x, hnow, hcalls, marked_stamp_mark s who now e⟩

/-- A marker under a name of the stamp. -/
def groupMarker : InternalSettings := ⟨"groupid", 7, 1⟩

/-- The group stands in the place of that marker. -/
theorem groupMarker_overwritten : ∃ e' x,
    calls ((publishInternal groupMarker ⟨"g", "u"⟩ (.make "1" "s" "t")).play
      (fun _ => refusing) []).1 = [⟨.forward .internal [e'], x⟩] ∧
      e'.attribute? groupMarker.markerName = some (.string "g") ∧
      e'.attribute? groupMarker.markerName ≠ some (.integer groupMarker.markerValue) :=
  ⟨_, _, rfl, rfl, by decide⟩

end Sluice.Gateway
