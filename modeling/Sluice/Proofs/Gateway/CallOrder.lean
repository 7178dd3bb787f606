import Sluice.Proofs.Gateway.Ledger

/-!
# The calls of an admission in their order

Which calls an admission makes depends on the replies that it is given, and on nothing else.
`callsFor` lists them for given `Replies`: a permit is asked for all the events, the owner of a
permit that used the allowance up is told, the events that it covers are published, and units that
are left are released.  A call that is not due is left out, and the others keep their places.

The calls of every admission are such a list (`Admitted.calls_eq`).  What `callsFor` shows of the
order therefore holds of all of them: nothing is called twice (`kinds_callsFor`), a notice comes
before what is published, and what is published is a first part of the batch.
-/

namespace Sluice.Gateway

open Dialogue

/-! ## The calls that are due -/

/-- The replies to the calls of an admission. -/
structure Replies where
  permit : Except Fault Permit
  /-- The identity that a notice is given. -/
  noticeId : String
  told : Except Fault UInt32
  published : Except Fault UInt32
  released : Except Fault Unit

/-- The owner of a permit is told that it used the allowance up, unless there is none or it is the
source itself. -/
def noticeCalls (who : Principal) (source : String) (permit : Permit) (a : Replies) :
    Transcript outside :=
  if permit.justExhausted = true ∧ permit.owner ≠ "" ∧ permit.owner ≠ source then
    [⟨.forward .internal [Notice.make a.noticeId source who.groupId permit.owner], a.told⟩]
  else []

/-- What is left of a permit is released: all of it when its events could not be published, and else
what was granted above the number acknowledged, if that is less.  A sink acknowledges no more events
than it was handed, whatever it says. -/
def releaseCalls (who : Principal) (permit : Permit) (batch : List Event)
    (released : Except Fault Unit) : Except Fault UInt32 → Transcript outside
  | .error _ => [⟨.release who.groupId permit.owner .publishEvents permit.granted, released⟩]
  | .ok n =>
    let k := min n.toNat batch.length
    if k < permit.granted.toNat then
      [⟨.release who.groupId permit.owner .publishEvents (permit.granted - UInt32.ofNat k),
        released⟩]
    else []

/-- The events that a permit covers are published, and what is left is released. -/
def publishCalls (who : Principal) (events : List Event) (permit : Permit) (a : Replies) :
    Transcript outside :=
  if permit.granted = 0 then []
  else
    let batch := events.take permit.granted.toNat
    ⟨.forward .metered batch, a.published⟩ ::
      releaseCalls who permit batch a.released a.published

/-- The calls of an admission that is given these replies. -/
def callsFor (who : Principal) (first : Event) (rest : List Event) (a : Replies) :
    Transcript outside :=
  ⟨.allocate who .publishEvents (requestedCount (first :: rest)), a.permit⟩ ::
    match a.permit with
    | .error _ => []
    | .ok permit =>
      noticeCalls who first.source permit a ++ publishCalls who (first :: rest) permit a

/-! ## Every admission -/

section Admitted

variable {who : Principal} {first : Event} {rest : List Event} {l : Transcript outside}
  {counts : List (Counter × UInt64)} {r : Except Fault UInt32} {permit : Permit}

theorem Notified.calls_eq {source : String} (h : Notified who permit source l counts) :
    ∃ id told, ∀ a : Replies, a.noticeId = id → a.told = told →
      l = noticeCalls who source permit a := by
  cases h with
  | nobody hdue =>
    refine ⟨"", .ok 0, fun a _ _ => ?_⟩
    rw [noticeCalls, if_neg (mt noticeDue_iff.2 hdue)]
  | @sent id n hdue =>
    refine ⟨id, .ok n, ?_⟩
    rintro a rfl htold
    rw [noticeCalls, if_pos (noticeDue_iff.1 hdue), htold]
  | @unsent id f hdue =>
    refine ⟨id, .error f, ?_⟩
    rintro a rfl htold
    rw [noticeCalls, if_pos (noticeDue_iff.1 hdue), htold]

/-- The whole of a permit is released. -/
theorem Released.whole (h : Released who permit permit.granted l) (h0 : permit.granted ≠ 0)
    (batch : List Event) (f : Fault) :
    ∃ released, l = releaseCalls who permit batch released (.error f) := by
  cases h with
  | nothing hu => exact absurd hu h0
  | @once x _ => exact ⟨x, rfl⟩

/-- What is left of a permit is released, if anything is. -/
theorem Released.remainder {batch : List Event} {n k : UInt32}
    (h : Released who permit (unused permit k) l) (hle : batch.length ≤ permit.granted.toNat)
    (hk : k.toNat = min n.toNat batch.length) :
    ∃ released, l = releaseCalls who permit batch released (.ok n) := by
  have hunits := toNat_unused permit k (by omega)
  have hof : UInt32.ofNat (min n.toNat batch.length) = k := by rw [← hk, UInt32.ofNat_toNat]
  have hsub : unused permit k = permit.granted - k := by
    have hmin : min permit.granted k = k := by
      rw [← UInt32.toNat_inj, UInt32.toNat_min]
      omega
    rw [unused, hmin]
  cases h with
  | nothing hu =>
    refine ⟨.ok (), ?_⟩
    have hnone : ¬min n.toNat batch.length < permit.granted.toNat := by
      rw [hu, UInt32.toNat_zero] at hunits
      omega
    rw [releaseCalls, if_neg hnone]
  | @once x hu =>
    refine ⟨x, ?_⟩
    have hsome : min n.toNat batch.length < permit.granted.toNat := by
      have hpos : (unused permit k).toNat ≠ 0 := fun h0 => hu (UInt32.toNat_inj.1 h0)
      omega
    rw [releaseCalls, if_pos hsome, hof, hsub]
    rfl

/-- The calls of a whole admission are those for the replies that it was given. -/
theorem Admitted.calls_eq (h : Admitted who first rest l counts r) :
    ∃ a, l = callsFor who first rest a := by
  cases h with
  | @refused f => exact ⟨⟨.error f, "", .ok 0, .ok 0, .ok ()⟩, rfl⟩
  | @exhausted p notice _ hn h0 =>
    obtain ⟨id, told, hnotice⟩ := hn.calls_eq
    refine ⟨⟨.ok p, id, told, .ok 0, .ok ()⟩, ?_⟩
    simp only [callsFor, publishCalls, if_pos h0, List.append_nil]
    rw [← hnotice _ rfl rfl]
    rfl
  | @failed p notice _ f release hn h0 hr =>
    obtain ⟨id, told, hnotice⟩ := hn.calls_eq
    obtain ⟨released, rfl⟩ := hr.whole h0 ((first :: rest).take p.granted.toNat) f
    refine ⟨⟨.ok p, id, told, .error f, released⟩, ?_⟩
    simp only [callsFor, publishCalls, if_neg h0]
    rw [← hnotice _ rfl rfl]
    rfl
  | @acknowledged p notice _ n k release hn h0 hk hr =>
    obtain ⟨id, told, hnotice⟩ := hn.calls_eq
    have hkn : k.toNat = min n.toNat ((first :: rest).take p.granted.toNat).length := by
      rw [hk, UInt32.toNat_min, toNat_covered]
    obtain ⟨released, rfl⟩ := hr.remainder (length_covered_le p (first :: rest)) hkn
    refine ⟨⟨.ok p, id, told, .ok n, released⟩, ?_⟩
    simp only [callsFor, publishCalls, if_neg h0]
    rw [← hnotice _ rfl rfl]
    rfl

end Admitted

/-! ## What the lists show -/

/-- What a call is for. -/
inductive CallKind where
  | permit
  | notice
  | publish
  | release
deriving DecidableEq, Repr

/-- What a call is for; other questions are no calls. -/
def Outside.kind? : Outside → Option CallKind
  | .allocate _ _ _ => some .permit
  | .forward .internal _ => some .notice
  | .forward .metered _ => some .publish
  | .release _ _ _ _ => some .release
  | .freshId | .wallClock | .clock => none

/-- What the calls are for, one after the other. -/
def kinds (l : Transcript outside) : List CallKind := l.filterMap (·.question.kind?)

section CallsFor

variable {who : Principal} {first : Event} {rest : List Event} {a : Replies}

theorem kinds_noticeCalls (source : String) (permit : Permit) :
    (kinds (noticeCalls who source permit a)).Sublist [.notice] := by
  unfold noticeCalls
  split
  · exact .refl _
  · exact List.nil_sublist _

theorem kinds_releaseCalls (permit : Permit) (batch : List Event) (released : Except Fault Unit)
    (published : Except Fault UInt32) :
    (kinds (releaseCalls who permit batch released published)).Sublist [.release] := by
  cases published with
  | error f => exact .refl _
  | ok n =>
    unfold releaseCalls
    dsimp only
    split
    · exact .refl _
    · exact List.nil_sublist _

theorem kinds_publishCalls (events : List Event) (permit : Permit) :
    (kinds (publishCalls who events permit a)).Sublist [.publish, .release] := by
  unfold publishCalls
  split
  · exact List.nil_sublist _
  · exact (kinds_releaseCalls permit _ _ _).cons_cons _

/-- Each call is made once at most, and they come in one order. -/
theorem kinds_callsFor :
    (kinds (callsFor who first rest a)).Sublist [.permit, .notice, .publish, .release] := by
  unfold callsFor
  refine List.Sublist.cons_cons CallKind.permit ?_
  cases a.permit with
  | error f => exact List.nil_sublist _
  | ok permit =>
    dsimp only
    rw [List.filterMap_append]
    exact (kinds_noticeCalls _ permit).append (kinds_publishCalls _ permit)

theorem question_of_mem_releaseCalls {permit : Permit} {batch : List Event}
    {released : Except Fault Unit} {published : Except Fault UInt32} {x : Exchange outside}
    (h : x ∈ releaseCalls who permit batch released published) :
    ∃ n, x.question = .release who.groupId permit.owner .publishEvents n := by
  cases published with
  | error f =>
    rw [List.mem_singleton.1 h]
    exact ⟨_, rfl⟩
  | ok n =>
    unfold releaseCalls at h
    dsimp only at h
    split at h
    · rw [List.mem_singleton.1 h]
      exact ⟨_, rfl⟩
    · cases h

theorem question_of_mem_publishCalls {events : List Event} {permit : Permit}
    {x : Exchange outside} (h : x ∈ publishCalls who events permit a) :
    x.question = .forward .metered (events.take permit.granted.toNat) ∨
      ∃ n, x.question = .release who.groupId permit.owner .publishEvents n := by
  unfold publishCalls at h
  split at h
  · cases h
  · rcases List.mem_cons.1 h with rfl | h
    · exact .inl rfl
    · exact .inr (question_of_mem_releaseCalls h)

theorem question_of_mem_noticeCalls {source : String} {permit : Permit} {x : Exchange outside}
    (h : x ∈ noticeCalls who source permit a) : x.question =
      .forward .internal [Notice.make a.noticeId source who.groupId permit.owner] := by
  unfold noticeCalls at h
  split at h
  · rw [List.mem_singleton.1 h]
  · cases h

/-- What follows on the request for a permit, follows on a permit. -/
theorem of_mem_callsFor {x : Exchange outside} (h : x ∈ callsFor who first rest a) :
    x = ⟨.allocate who .publishEvents (requestedCount (first :: rest)), a.permit⟩ ∨
      ∃ permit, a.permit = .ok permit ∧ (x ∈ noticeCalls who first.source permit a ∨
        x ∈ publishCalls who (first :: rest) permit a) := by
  unfold callsFor at h
  rcases List.mem_cons.1 h with rfl | h
  · exact .inl rfl
  · cases hp : a.permit with
    | error f =>
      rw [hp] at h
      cases h
    | ok permit =>
      rw [hp] at h
      exact .inr ⟨permit, rfl, List.mem_append.1 h⟩

/-- The event tells an owner in a group that the allowance is used up, with the source of the batch
that did it. -/
structure TellsOwner (e : Event) (source groupId owner : String) : Prop where
  type_eq : e.type = "com_gateway_limit_reached"
  source_eq : e.source = source
  toGroup_eq : e.attribute? "togroupid" = some (.string groupId)
  toUser_eq : e.attribute? "touserid" = some (.string owner)

theorem tellsOwner_make (id source groupId owner : String) :
    TellsOwner (Notice.make id source groupId owner) source groupId owner where
  type_eq := rfl
  source_eq := rfl
  toGroup_eq := by
    simp only [Notice.make, Event.attribute?, Event.withText, Event.withAttribute,
      Attributes.get?_insert]
    rfl
  toUser_eq := by
    simp only [Notice.make, Event.attribute?, Event.withText, Event.withAttribute,
      Attributes.get?_insert]
    rfl

/-- What is told by the internal path is one notice to the owner of the permit. -/
theorem told_of_mem {events : List Event} {x : Except Fault UInt32}
    (h : ⟨.forward .internal events, x⟩ ∈ callsFor who first rest a) :
    ∃ permit, a.permit = .ok permit ∧
      events = [Notice.make a.noticeId first.source who.groupId permit.owner] := by
  obtain heq | ⟨permit, hp, h | h⟩ := of_mem_callsFor h
  · cases heq
  · cases question_of_mem_noticeCalls h
    exact ⟨permit, hp, rfl⟩
  · obtain heq | ⟨n, heq⟩ := question_of_mem_publishCalls h <;> cases heq

/-- What is published is a first part of the batch. -/
theorem published_of_mem {batch : List Event} {x : Except Fault UInt32}
    (h : ⟨.forward .metered batch, x⟩ ∈ callsFor who first rest a) : batch <+: first :: rest := by
  obtain heq | ⟨permit, hp, h | h⟩ := of_mem_callsFor h
  · cases heq
  · cases question_of_mem_noticeCalls h
  · obtain heq | ⟨n, heq⟩ := question_of_mem_publishCalls h
    · cases heq
      exact List.take_prefix _ _
    · cases heq

end CallsFor

/-- What holds of the calls of an admission. -/
structure InOrder (who : Principal) (first : Event) (rest : List Event) (l : Transcript outside) :
    Prop where
  /-- They are those that are due by the replies to them. -/
  calls_eq : ∃ a, l = callsFor who first rest a
  /-- A permit is asked for all the events, as many as a word can tell. -/
  requested_eq : (requestedCount (first :: rest)).toNat =
    min (first :: rest).length (2 ^ 32 - 1)
  /-- Each is made once at most, and they come in one order. -/
  kinds_sublist : (kinds l).Sublist [.permit, .notice, .publish, .release]
  /-- By the internal path goes one event, which tells the owner of the permit. -/
  told : ∀ events x, ⟨.forward .internal events, x⟩ ∈ l → ∃ e permit, events = [e] ∧
    ⟨.allocate who .publishEvents (requestedCount (first :: rest)), .ok permit⟩ ∈ l ∧
    TellsOwner e first.source who.groupId permit.owner
  /-- What is published was submitted, and so is no notice, whose identity is one of its own. -/
  published : ∀ batch x, ⟨.forward .metered batch, x⟩ ∈ l → batch <+: first :: rest ∧
    ∀ e y, ⟨.forward .internal [e], y⟩ ∈ l → e.id ∉ (first :: rest).map (·.id) → e ∉ batch

theorem inOrder_callsFor (who : Principal) (first : Event) (rest : List Event) (a : Replies) :
    InOrder who first rest (callsFor who first rest a) where
  calls_eq := ⟨a, rfl⟩
  requested_eq := toNat_requestedCount _
  kinds_sublist := kinds_callsFor
  told events x h := by
    obtain ⟨permit, hp, rfl⟩ := told_of_mem h
    refine ⟨_, permit, rfl, ?_, tellsOwner_make _ _ _ _⟩
    rw [← hp]
    exact List.mem_cons_self
  published batch x h := by
    have hbatch := published_of_mem h
    refine ⟨hbatch, fun e y _ hid he => hid ?_⟩
    exact List.mem_map_of_mem (hbatch.subset he)

/-- An admission asks for a permit, tells its owner, publishes and releases, each once at most and
only when it is due, in this order: whatever it is answered, and whatever batch it admits. -/
theorem admission_calls_in_order (who : Principal) (first : Event) (rest : List Event)
    (σ : Strategy protocol) :
    InOrder who first rest (calls ((admitBatch who (first :: rest)).play σ []).1) := by
  obtain ⟨hadmitted, -⟩ := (admitBatch_ends who first rest).played σ
  obtain ⟨a, ha⟩ := hadmitted.calls_eq
  rw [ha]
  exact inOrder_callsFor who first rest a

end Sluice.Gateway
