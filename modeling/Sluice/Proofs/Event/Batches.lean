import Mathlib.Data.List.Forall2
import Sluice.Proofs.Event.Body
import Sluice.Proofs.Event.Meaning

/-!
# Events alone and in a batch

Whatever JSON texts are put in the list of a batch, the batch decodes as the events that the texts
decode as on their own, and it decodes only if all of them do (`decode_batchOf`).  What is left is
the order of the checks: first the form of everything, then the number of events, and then their
lengths from the first event on.  `batch_agrees` puts this together.
-/

namespace Sluice

open Json (Spelling Tree Token Spells Document)

namespace Json

variable {token : Token} {tokens : List Token} {s u : List UInt8}

theorem spells_moreItems {ds : List (List UInt8)} {ts : List Tree}
    (h : List.Forall₂ Document ds ts) (hs : Spells (token :: tokens) s u) :
    Spells (itemTokens false ts ++ token :: tokens) (ds.flatMap (0x2C :: ·) ++ s) u := by
  induction h with
  | nil => exact hs
  | @cons d t ds ts hd _ ih =>
    rw [itemTokens, separator, if_neg (by decide), List.append_assoc, List.append_assoc,
      List.singleton_append, List.flatMap_cons, List.append_assoc]
    have hitems : Spells (t.tokens ++ (itemTokens false ts ++ token :: tokens))
        (d ++ (ds.flatMap (0x2C :: ·) ++ s)) u := by
      cases ts with
      | nil => exact hd.spells ih
      | cons t' ts => exact hd.spells ih
    exact hitems.tight .comma

theorem intercalate_cons (c : UInt8) (d : List UInt8) (ds : List (List UInt8)) :
    [c].intercalate (d :: ds) = d ++ ds.flatMap (c :: ·) := by
  induction ds generalizing d with
  | nil => simp [List.intercalate]
  | cons d' ds ih =>
    have h := ih d'
    rw [List.flatMap_cons, List.cons_append, ← h]
    simp [List.intercalate]

/-- Whole texts with commas between them are the items of a list. -/
theorem spells_items {ds : List (List UInt8)} {ts : List Tree} (h : List.Forall₂ Document ds ts)
    (hs : Spells (token :: tokens) s u) :
    Spells (itemTokens true ts ++ token :: tokens) ([0x2C].intercalate ds ++ s) u := by
  cases h with
  | nil => exact hs
  | @cons d t ds ts hd hds =>
    have hmore := spells_moreItems hds hs
    rw [itemTokens, separator, if_pos rfl, List.nil_append, List.append_assoc, intercalate_cons,
      List.append_assoc]
    cases ts with
    | nil => exact hd.spells hmore
    | cons t' ts => exact hd.spells hmore

end Json

namespace Body

/-- The bytes of a batch with these texts as its events. -/
def batchOf (ds : List (List UInt8)) : List UInt8 :=
  Text.bytes "\x7b\x22events\x22:[" ++ ([0x2C].intercalate ds ++ Text.bytes "]\x7d")

theorem document_batchOf {ds : List (List UInt8)} {ts : List Tree}
    (h : List.Forall₂ Document ds ts) :
    Document (batchOf ds) (.object [(eventsKey, .list ts)]) := by
  refine ⟨[], ?_, nofun⟩
  have hend : Spells [.closeList, .closeObject] (Text.bytes "]\x7d") [] :=
    .tight .closeList (.tight .closeObject .nil)
  have hitems := Json.spells_items h hend
  have hlist := hitems.tight .openList
  have hevents := (hlist.tight .colon).tight (.string eventsKey)
  have htokens : (Tree.object [(eventsKey, .list ts)]).tokens =
      .openObject :: .string eventsKey :: .colon :: .openList ::
        (Json.itemTokens true ts ++ [.closeList, .closeObject]) := by
    simp [Tree.tokens, Json.memberTokens, Json.separator]
  rw [htokens]
  exact hevents.tight .openObject

theorem batch_on (ts : List Tree) :
    Batch.record.on (.object [(eventsKey, .list ts)]) =
      (ts.mapM Event.record.on).map Batch.mk := by
  have hkey : eventsKey.text? = some "events" := Spelling.text?_plain _ _
  have hfield : Batch.record.field? "events" =
      some (.defaulted "events" Event.reader.list fun v b => { b with events := v }) := rfl
  have hlist : Event.reader.list.on (.list ts) = ts.mapM Event.record.on := means_event.list.on_eq _
  rw [Json.Record.on, Json.Record.asObject_on_cons, hkey, Option.bind_some, Json.Record.step,
    hfield]
  simp only [Json.Field.defaulted, Json.Reader.on_map, hlist, List.not_mem_nil, if_false]
  cases ts.mapM Event.record.on <;> rfl

/-- A batch decodes as the events that its texts decode as on their own, if all of them do. -/
theorem decode_batchOf {ds : List (List UInt8)} (h : ∀ d ∈ ds, ∃ t, Document d t)
    {events : List Event} : Batch.record.reader.decode (batchOf ds) = .ok ⟨events⟩ ↔
      List.Forall₂ (fun d e => Event.reader.decode d = .ok e) ds events := by
  obtain ⟨ts, hts⟩ := Json.exists_forall₂_iff.2 h
  have hmap : ts.mapM Event.record.on = ds.mapM fun d => (Event.reader.decode d).toOption := by
    clear h
    induction hts with
    | nil => rfl
    | cons hd _ ih => rw [List.mapM_cons, List.mapM_cons, ih, means_event.decode hd]
  rw [← Json.toOption_eq_some, means_batch.decode (document_batchOf hts), batch_on, hmap,
    Option.map_eq_some_iff]
  simp only [Json.mapM_eq_some_iff, Json.toOption_eq_some]
  simp

/-! ## The order of the checks -/

theorem batch_of_decoded {body : List UInt8} {events : List Event}
    (h : Batch.record.reader.decode body = .ok ⟨events⟩) :
    batch body =
      if events = [] then .error (.validation .emptyBatch "batch has no events")
      else if batchLimit < events.length then
        .error (.validation .batchTooLarge ("batch has " ++ toString events.length ++
          " events, exceeds " ++ toString batchLimit ++ " limit"))
      else
        match firstLengthFault? 0 events with
        | some f => .error f
        | none => .ok events := by
  rw [batch, h]
  cases events <;> rfl

/-- A batch of so many events is refused for their lengths only. -/
theorem code_of_decoded {body : List UInt8} {events : List Event} {f : Fault}
    (h : Batch.record.reader.decode body = .ok ⟨events⟩) (hsome : events ≠ [])
    (hfew : ¬batchLimit < events.length) (hf : batch body = .error f) : f.code = "VALID_001" := by
  rw [batch_of_decoded h, if_neg hsome, if_neg hfew] at hf
  split at hf
  · rename_i hfault
    cases hf
    obtain ⟨reason, rfl⟩ := firstLengthFault?_eq_some hfault
    rfl
  · cases hf

theorem lengthFault?_of_long {e : Event} (h : e.violations ≠ []) (index : Nat) :
    lengthFault? index e = some (.validation .invalidFormat ("event[" ++ toString index ++ "]: " ++
      "; ".intercalate (e.violations.map (·.message)))) := by
  cases hv : e.violations with
  | nil => exact absurd hv h
  | cons v vs =>
    rw [lengthFault?, hv]
    rfl

/-- The fault of the first event that is too long names its place. -/
theorem firstLengthFault?_at {events : List Event} {i : Nat} {e : Event} (start : Nat)
    (he : events[i]? = some e) (hlong : e.violations ≠ [])
    (hbefore : ∀ j < i, ∀ e', events[j]? = some e' → e'.violations = []) :
    firstLengthFault? start events = lengthFault? (start + i) e := by
  induction events generalizing i start with
  | nil => cases he
  | cons d events ih =>
    rw [firstLengthFault?]
    cases i with
    | zero =>
      cases he
      simp [lengthFault?_of_long hlong]
    | succ i =>
      have hd : lengthFault? start d = none :=
        lengthFault?_eq_none_iff.2 (hbefore 0 (Nat.succ_pos i) d rfl)
      rw [hd, Option.none_or, ih (start + 1) he fun j hj => hbefore (j + 1) (Nat.succ_lt_succ hj)]
      congr 1
      omega

theorem forall₂_event_iff {ds : List (List UInt8)} {events : List Event} :
    List.Forall₂ (fun d e => event d = .ok e) ds events ↔
      List.Forall₂ (fun d e => Event.reader.decode d = .ok e) ds events ∧
        ∀ e ∈ events, e.violations = [] := by
  simp only [event_eq_ok]
  constructor
  · intro hevents
    induction hevents with
    | nil => exact ⟨.nil, nofun⟩
    | cons he _ ih => exact ⟨.cons he.1 ih.1, List.forall_mem_cons.2 ⟨he.2, ih.2⟩⟩
  · rintro ⟨hdecode, hlength⟩
    induction hdecode with
    | nil => exact .nil
    | cons he _ ih =>
      obtain ⟨hd, hds⟩ := List.forall_mem_cons.1 hlength
      exact .cons ⟨he, hd⟩ (ih hds)

/-- A batch of some texts is accepted and refused as the texts are on their own. -/
structure Agrees (ds : List (List UInt8)) : Prop where
  /-- The batch is accepted with the events of the texts, in their order, if they are not too
  many. -/
  accepted (events : List Event) : batch (batchOf ds) = .ok events ↔
    (1 ≤ ds.length ∧ ds.length ≤ 1000) ∧ List.Forall₂ (fun d e => event d = .ok e) ds events
  empty (h : ds = []) : ∃ f, batch (batchOf ds) = .error f ∧ f.code = "VALID_003"
  /-- Too many events are refused as such, however long they are. -/
  tooMany (h : ∀ d ∈ ds, ∃ e, Event.reader.decode d = .ok e) (hmany : 1000 < ds.length) :
    ∃ f, batch (batchOf ds) = .error f ∧ f.code = "VALID_002"
  otherwise {f : Fault} (h : batch (batchOf ds) = .error f) (hnone : ds ≠ [])
    (hmany : ¬((∀ d ∈ ds, ∃ e, Event.reader.decode d = .ok e) ∧ 1000 < ds.length)) :
    f.code = "VALID_001"
  /-- Of several events that are too long the first is named, by its place. -/
  first {events : List Event} {i : Nat} {e : Event}
    (h : List.Forall₂ (fun d e => Event.reader.decode d = .ok e) ds events)
    (hmost : ds.length ≤ 1000) (he : events[i]? = some e) (hlong : e.violations ≠ [])
    (hbefore : ∀ j < i, ∀ e', events[j]? = some e' → e'.violations = []) :
    batch (batchOf ds) = .error (.validation .invalidFormat ("event[" ++ toString i ++ "]: " ++
      "; ".intercalate (e.violations.map (·.message))))

/-- Whatever JSON texts are in a batch, it agrees with them. -/
theorem batch_agrees (ds : List (List UInt8)) (h : ∀ d ∈ ds, ∃ t, Document d t) : Agrees ds where
  accepted events := by
    have hlimit : batchLimit = 1000 := rfl
    rw [batch_eq_ok, decode_batchOf h, hlimit]
    rw [forall₂_event_iff]
    constructor
    · rintro ⟨hdecode, hbounds, hlength⟩
      exact ⟨hdecode.length_eq ▸ hbounds, hdecode, hlength⟩
    · rintro ⟨hbounds, hdecode, hlength⟩
      exact ⟨hdecode, hdecode.length_eq ▸ hbounds, hlength⟩
  empty hempty := by
    subst hempty
    rw [batch_of_decoded ((decode_batchOf h).2 .nil)]
    exact ⟨_, rfl, rfl⟩
  tooMany hdecode hmany := by
    obtain ⟨events, hevents⟩ := Json.exists_forall₂_iff.2 hdecode
    have hlength := hevents.length_eq
    have hnone : events ≠ [] := by
      rintro rfl
      rw [hlength] at hmany
      cases hmany
    rw [batch_of_decoded ((decode_batchOf h).2 hevents), if_neg hnone,
      if_pos (hlength ▸ hmany : batchLimit < events.length)]
    exact ⟨_, rfl, rfl⟩
  otherwise {f} hf hnone hmany := by
    cases hd : Batch.record.reader.decode (batchOf ds) with
    | error r =>
      rw [batch, hd] at hf
      cases hf
      rfl
    | ok b =>
      obtain ⟨events⟩ := b
      have hevents := (decode_batchOf h).1 hd
      have hlength := hevents.length_eq
      have hdecode := Json.exists_forall₂_iff.1 ⟨events, hevents⟩
      have hfew : ¬batchLimit < events.length := fun hlt => hmany ⟨hdecode, hlength ▸ hlt⟩
      have hsome : events ≠ [] := by
        rintro rfl
        exact hnone (List.length_eq_zero_iff.1 hlength)
      exact code_of_decoded hd hsome hfew hf
  first {events i e} hevents hmost he hlong hbefore := by
    have hlength := hevents.length_eq
    have hsome : events ≠ [] := by
      rintro rfl
      cases he
    have hfault := firstLengthFault?_at 0 he hlong hbefore
    rw [Nat.zero_add, lengthFault?_of_long hlong] at hfault
    rw [batch_of_decoded ((decode_batchOf h).2 hevents), if_neg hsome,
      if_neg (hlength ▸ Nat.not_lt.2 hmost : ¬batchLimit < events.length), hfault]

/-- An event with blanks in it and around it. -/
def paddedEvent : List UInt8 := Text.bytes " \x7b\x22id\x22 : \x22e1\x22\x7d\n"

theorem document_paddedEvent : ∃ t, Document paddedEvent t := by
  have hblank : Json.Blanks [0x20] := by simp [Json.Blanks, Json.isBlank]
  have hend : Spells [.closeObject] [0x7D, 0x0A] [0x0A] := .tight .closeObject .nil
  have hvalue : Spells [.string (.plain "e1" (by decide)), .closeObject]
      (Text.bytes " \x22e1\x22\x7d\n") [0x0A] := .cons hblank hend
  have hcolon : Spells [.colon, .string (.plain "e1" (by decide)), .closeObject]
      (Text.bytes " : \x22e1\x22\x7d\n") [0x0A] := .cons hblank hvalue
  have hkey := hcolon.tight (.string (.plain "id" (by decide)))
  refine ⟨.object [(.plain "id" (by decide), .string (.plain "e1" (by decide)))], [0x0A], ?_,
    by simp [Json.Blanks, Json.isBlank]⟩
  exact .cons hblank hkey

theorem event_paddedEvent : event paddedEvent = .ok ⟨"e1", "", "", "", .empty, none⟩ := by
  decide +kernel

/-- A batch of that event is accepted with the event.  With what is no event beside it, the batch is
refused for its form. -/
theorem batch_agrees_padded :
    (∀ d ∈ [paddedEvent, Text.bytes "null"], ∃ t, Document d t) ∧
      batch (batchOf [paddedEvent]) = .ok [⟨"e1", "", "", "", .empty, none⟩] ∧
      ∃ f, batch (batchOf [paddedEvent, Text.bytes "null"]) = .error f ∧ f.code = "VALID_001" := by
  have hone : ∀ d ∈ [paddedEvent], ∃ t, Document d t :=
    List.forall_mem_singleton.2 document_paddedEvent
  have htwo : ∀ d ∈ [paddedEvent, Text.bytes "null"], ∃ t, Document d t :=
    List.forall_mem_cons.2 ⟨document_paddedEvent,
      List.forall_mem_singleton.2 ⟨.null, Tree.null.document_text⟩⟩
  refine ⟨htwo, ?_, ?_⟩
  · exact ((batch_agrees _ hone).accepted _).2
      ⟨⟨Nat.le_refl 1, by decide⟩, .cons event_paddedEvent .nil⟩
  · have hagrees := batch_agrees _ htwo
    cases hbatch : batch (batchOf [paddedEvent, Text.bytes "null"]) with
    | ok events =>
      obtain ⟨-, _ | ⟨-, _ | ⟨hnull, -⟩⟩⟩ := (hagrees.accepted events).1 hbatch
      have hfails : (event (Text.bytes "null")).isOk = false := by decide +kernel
      rw [hnull] at hfails
      cases hfails
    | error f =>
      exact ⟨f, rfl, hagrees.otherwise hbatch (List.cons_ne_nil _ _) (by simp)⟩

end Body

end Sluice
