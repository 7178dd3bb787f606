import Sluice.Proofs.Gateway.CallOrder
import Sluice.Proofs.Gateway.Publishing

/-!
# Steps that may fail unseen

Telling the owner of a permit and releasing what is left of it are done as well as they can be.  Two
publications of a batch are compared here.  They are `AnsweredAlike` when they read the same
deny-list, and got the same answer from the quota authority and from the sink wherever they asked
them the same; all else may be different: what became of the notice and of the release, and the
identities and times that were read.

Such publications come to the same (`Alike`).  For the calls of an admission and its result depend
on the permit and on the answer of the sink alone (`callsFor`, `resultFor`), but for the notice and
for what became of the release.  The times that are stamped differ, so events are compared without
them (`untimed`).
-/

namespace Sluice

namespace Gateway

open Dialogue

/-! ## Events without their time -/

/-- The event with one time for all in place of that at which it was let in. -/
def untimed (e : Event) : Event :=
  e.withAttribute AttributeName.publishedAt (.timestamp .epoch)

theorem untimed_stamp (who : Principal) (now now' : Timestamp) (e : Event) :
    untimed (stamp who now e) = untimed (stamp who now' e) := by
  simp only [untimed, stamp, Event.withAttribute, Attributes.insert_insert]

theorem map_untimed_stamp (who : Principal) (now now' : Timestamp) (events : List Event) :
    (events.map (stamp who now)).map untimed = (events.map (stamp who now')).map untimed := by
  rw [List.map_map, List.map_map]
  exact List.map_congr_left fun e _ => untimed_stamp who now now' e

section Length

variable {events events' : List Event} (h : events.map untimed = events'.map untimed)

include h

theorem length_eq_of_untimed : events.length = events'.length := by
  simpa using congrArg List.length h

theorem requestedCount_eq_of_untimed : requestedCount events = requestedCount events' := by
  rw [requestedCount, requestedCount, length_eq_of_untimed h]

end Length

/-! ## What replies lead to -/

/-- The result of an admission that is given these replies. -/
def resultFor (events : List Event) (a : Replies) : Except Fault UInt32 :=
  match a.permit with
  | .error f => .error f.asQuota
  | .ok permit =>
    if permit.granted = 0 then .error (.quotaExhausted permit.owner)
    else
      match a.published with
      | .error f => .error f.asForwarding
      | .ok n => .ok (min n (UInt32.ofNat (events.take permit.granted.toNat).length))

section CallsFor

variable {who : Principal} {first : Event} {rest : List Event} {a : Replies}
  {l : Transcript outside}

theorem permit_of_mem (hl : l = callsFor who first rest a) {n : UInt32} {x : Except Fault Permit}
    (h : ⟨.allocate who subject n, x⟩ ∈ l) : x = a.permit := by
  rw [hl] at h
  obtain heq | ⟨permit, -, h | h⟩ := of_mem_callsFor h
  · cases heq
    rfl
  · cases question_of_mem_noticeCalls h
  · obtain heq | ⟨n, heq⟩ := question_of_mem_publishCalls h <;> cases heq

theorem published_eq_of_mem (hl : l = callsFor who first rest a) {batch : List Event}
    {x : Except Fault UInt32} (h : ⟨.forward .metered batch, x⟩ ∈ l) : x = a.published := by
  rw [hl] at h
  obtain heq | ⟨permit, -, h | h⟩ := of_mem_callsFor h
  · cases heq
  · cases question_of_mem_noticeCalls h
  · unfold publishCalls at h
    split at h
    · cases h
    · rcases List.mem_cons.1 h with heq | h
      · cases heq
        rfl
      · obtain ⟨n, heq⟩ := question_of_mem_releaseCalls h
        cases heq

/-- The result of an admission is that for the replies it was given. -/
theorem Admitted.result_eq {counts : List (Counter × UInt64)} {r : Except Fault UInt32}
    (h : Admitted who first rest l counts r) (hl : l = callsFor who first rest a) :
    r = resultFor (first :: rest) a := by
  cases h with
  | @refused f =>
    have hp := permit_of_mem hl List.mem_cons_self
    rw [resultFor, ← hp]
  | @exhausted p _ _ _ h0 =>
    have hp := permit_of_mem hl List.mem_cons_self
    simp only [resultFor, ← hp, if_pos h0]
  | @failed p _ _ f _ _ h0 _ =>
    have hp := permit_of_mem hl List.mem_cons_self
    have hs := published_eq_of_mem hl
      (List.mem_cons_of_mem _ (List.mem_append_right _ List.mem_cons_self))
    simp only [resultFor, ← hp, if_neg h0, ← hs]
  | @acknowledged p _ _ n k _ _ h0 hk _ =>
    have hp := permit_of_mem hl List.mem_cons_self
    have hs := published_eq_of_mem hl
      (List.mem_cons_of_mem _ (List.mem_append_right _ List.mem_cons_self))
    simp only [resultFor, ← hp, if_neg h0, ← hs, hk]

/-- Under a permit for any events what it covers is published. -/
theorem mem_callsFor {permit : Permit} (hp : a.permit = .ok permit) (h0 : permit.granted ≠ 0) :
    ⟨.forward .metered ((first :: rest).take permit.granted.toNat), a.published⟩ ∈
      callsFor who first rest a := by
  simp only [callsFor, hp, publishCalls, if_neg h0]
  exact List.mem_cons_of_mem _ (List.mem_append_right _ List.mem_cons_self)

@[simp] theorem permitRequests_noticeCalls (source : String) (permit : Permit) :
    permitRequests (noticeCalls who source permit a) = [] := by
  unfold noticeCalls
  split <;> rfl

@[simp] theorem meteredBatches_noticeCalls (source : String) (permit : Permit) :
    meteredBatches ((noticeCalls who source permit a).map (·.question)) = [] := by
  unfold noticeCalls
  split <;> rfl

@[simp] theorem releases_noticeCalls (source : String) (permit : Permit) :
    releases ((noticeCalls who source permit a).map (·.question)) = [] := by
  unfold noticeCalls
  split <;> rfl

section Release

variable (permit : Permit) (batch : List Event) (x : Except Fault Unit) (y : Except Fault UInt32)

@[simp] theorem permitRequests_releaseCalls :
    permitRequests (releaseCalls who permit batch x y) = [] := by
  unfold releaseCalls
  split
  · rfl
  · dsimp only
    split <;> rfl

@[simp] theorem meteredBatches_releaseCalls :
    meteredBatches ((releaseCalls who permit batch x y).map (·.question)) = [] := by
  unfold releaseCalls
  split
  · rfl
  · dsimp only
    split <;> rfl

end Release

/-- What is released is told by the number of events published and the answer to them, whatever
becomes of the release. -/
theorem questions_releaseCalls (permit : Permit) {batch batch' : List Event}
    (h : batch.length = batch'.length) (x x' : Except Fault Unit) (y : Except Fault UInt32) :
    (releaseCalls who permit batch x y).map (·.question) =
      (releaseCalls who permit batch' x' y).map (·.question) := by
  cases y with
  | error f => rfl
  | ok n =>
    simp only [releaseCalls, h]
    split <;> simp [h]

end CallsFor

/-! ## Two publications -/

/-- Two courses come to the same for the publisher, the sink and the quota authority. -/
structure Alike (l l' : Transcript outside) (r r' : Except Fault UInt32) : Prop where
  result_eq : r = r'
  requested_eq : permitRequests l = permitRequests l'
  /-- The events handed over on the metered path are the same but for their time. -/
  forwarded_eq : (meteredBatches (l.map (·.question))).map (·.map untimed) =
    (meteredBatches (l'.map (·.question))).map (·.map untimed)
  /-- The same units of the same owner go back. -/
  released_eq : releases (l.map (·.question)) = releases (l'.map (·.question))

theorem callsFor_alike (who : Principal) {first first' : Event} {rest rest' : List Event}
    {a a' : Replies} (htimes : (first :: rest).map untimed = (first' :: rest').map untimed)
    (hp : a.permit = a'.permit)
    (hs : ∀ permit, a.permit = .ok permit → permit.granted ≠ 0 → a.published = a'.published) :
    Alike (callsFor who first rest a) (callsFor who first' rest' a') (resultFor (first :: rest) a)
      (resultFor (first' :: rest') a') := by
  have hlen := length_eq_of_untimed htimes
  have hcount := requestedCount_eq_of_untimed htimes
  cases hpermit : a.permit with
  | error f =>
    simp only [callsFor, resultFor, ← hp, hpermit]
    constructor <;> simp [permitRequest?, metered?, release?, hcount]
  | ok permit =>
    by_cases h0 : permit.granted = 0
    · simp only [callsFor, resultFor, publishCalls, ← hp, hpermit, if_pos h0, List.append_nil]
      constructor <;> simp [permitRequest?, metered?, release?, hcount]
    · have htake : ((first :: rest).take permit.granted.toNat).length =
          ((first' :: rest').take permit.granted.toNat).length := by
        rw [List.length_take, List.length_take, hlen]
      have hreleased : (releaseCalls who permit ((first :: rest).take permit.granted.toNat)
            a.released a.published).map (·.question) =
          (releaseCalls who permit ((first' :: rest').take permit.granted.toNat)
            a'.released a.published).map (·.question) :=
        questions_releaseCalls permit htake _ _ _
      simp only [callsFor, resultFor, publishCalls, ← hp, hpermit, if_neg h0, htake,
        ← hs permit hpermit h0]
      constructor
      · rfl
      · simp [permitRequest?, hcount]
      · simp [metered?, List.map_take, htimes]
      · simp [release?, hreleased]

/-- Two courses were answered alike by what decides about a batch: the deny-list, and the quota
authority and the sink wherever they were asked the same, at any time. -/
structure AnsweredAlike (k k' : Transcript protocol) : Prop where
  list_eq : ∀ list ∈ consulted k, ∀ list' ∈ consulted k', list = list'
  permit_eq : ∀ who n x x', ⟨.allocate who subject n, x⟩ ∈ calls k →
    ⟨.allocate who subject n, x'⟩ ∈ calls k' → x = x'
  published_eq : ∀ batch batch' x x', batch.map untimed = batch'.map untimed →
    ⟨.forward .metered batch, x⟩ ∈ calls k → ⟨.forward .metered batch', x'⟩ ∈ calls k' → x = x'

/-- Admissions of the same events that were answered alike come to the same. -/
theorem Admitted.alike {who : Principal} {first first' : Event} {rest rest' : List Event}
    {k k' : Transcript protocol} {counts counts' : List (Counter × UInt64)}
    {r r' : Except Fault UInt32} (h : Admitted who first rest (calls k) counts r)
    (h' : Admitted who first' rest' (calls k') counts' r')
    (htimes : (first :: rest).map untimed = (first' :: rest').map untimed)
    (hk : AnsweredAlike k k') : Alike (calls k) (calls k') r r' := by
  obtain ⟨a, ha⟩ := h.calls_eq
  obtain ⟨a', ha'⟩ := h'.calls_eq
  have hcount := requestedCount_eq_of_untimed htimes
  have hp : a.permit = a'.permit := by
    refine hk.permit_eq who (requestedCount (first :: rest)) _ _ ?_ ?_
    · rw [ha]
      exact List.mem_cons_self
    · rw [ha', hcount]
      exact List.mem_cons_self
  have hs (permit : Permit) (hpermit : a.permit = .ok permit) (h0 : permit.granted ≠ 0) :
      a.published = a'.published := by
    refine hk.published_eq ((first :: rest).take permit.granted.toNat)
      ((first' :: rest').take permit.granted.toNat) _ _ ?_ ?_ ?_
    · rw [List.map_take, htimes, List.map_take]
    · rw [ha]
      exact mem_callsFor hpermit h0
    · rw [ha']
      exact mem_callsFor (hp ▸ hpermit) h0
  rw [h.result_eq ha, h'.result_eq ha', ha, ha']
  exact callsFor_alike who htimes hp hs

theorem publish_nil_ends (who : Principal) :
    (publish who []).Ends fun l r => calls l = [] ∧ r = .ok 0 := by
  simp only [publish, clock, count, denyList, ends_bind, ends_question]
  intro start _ _ list
  have hfilter : list.filter [] = .accept [] := rfl
  simp only [hfilter, publishAllowed, List.map_nil, admitBatch, wallClock, clock, observe,
    ends_bind, ends_question, ends_pure]
  exact fun _ _ _ => ⟨rfl, trivial⟩

/-- Publications of one batch that were answered alike come to the same: whatever becomes of the
notice to the owner of the permit and of the release, the publisher is given the same result, the
sink the same events, and the quota authority the same release. -/
theorem best_effort_unseen (who : Principal) (events : List Event) (σ τ : Strategy protocol)
    (h : AnsweredAlike ((publish who events).play σ []).1 ((publish who events).play τ []).1) :
    Alike (calls ((publish who events).play σ []).1) (calls ((publish who events).play τ []).1)
      ((publish who events).play σ []).2 ((publish who events).play τ []).2 := by
  cases events with
  | nil =>
    obtain ⟨hl, hr⟩ := (publish_nil_ends who).played σ
    obtain ⟨hl', hr'⟩ := (publish_nil_ends who).played τ
    rw [hl, hl', hr, hr']
    exact ⟨rfl, rfl, rfl, rfl⟩
  | cons first rest =>
    obtain ⟨list, hlist, hcases⟩ := (publish_admitted who first rest).played σ
    obtain ⟨list', hlist', hcases'⟩ := (publish_admitted who first rest).played τ
    obtain rfl : list = list' := h.list_eq list (by simp [hlist]) list' (by simp [hlist'])
    obtain ⟨h0, hl, hit, hhit, hr⟩ | ⟨before, now, counts, htake, -, ha⟩ := hcases
    · obtain ⟨-, hl', hit', hhit', hr'⟩ | ⟨before, now, counts, htake, -, -⟩ := hcases'
      · obtain rfl : hit = hit' := Option.some.inj (hhit.symm.trans hhit')
        rw [hl, hl', hr, hr']
        exact ⟨rfl, rfl, rfl, rfl⟩
      · rw [h0] at htake
        cases htake
    · obtain ⟨h0, -⟩ | ⟨before', now', counts', htake', -, ha'⟩ := hcases'
      · rw [h0] at htake
        cases htake
      · obtain ⟨-, rfl⟩ := List.cons.inj (htake.symm.trans htake')
        refine ha.alike ha' ?_ h
        rw [← List.map_cons, ← List.map_cons]
        exact map_untimed_stamp who now now' _

/-! ## Two fates of a notice and a release -/

theorem outside_mem_of_mem_calls {k : Transcript protocol} {x : Exchange outside}
    (h : x ∈ calls k) : ⟨.outside x.question, x.answer⟩ ∈ k := by
  obtain ⟨⟨q | s, y⟩, hy, hcall⟩ := List.mem_filterMap.1 h
  · simp only [call?, Option.ite_none_right_eq_some, Option.some.injEq] at hcall
    obtain ⟨-, rfl⟩ := hcall
    exact hy
  · cases hcall

theorem access_mem_of_mem_consulted {k : Transcript protocol} {list : DenyList}
    (h : list ∈ consulted k) : ⟨.access .denyList, list⟩ ∈ k := by
  obtain ⟨x, hx, heq⟩ := List.mem_filterMap.1 h
  split at heq
  · cases heq
    exact hx
  · cases heq

/-- Answers that are the same wherever they decide about a batch answer any course alike. -/
theorem answeredAlike_play {α : Type} (d : Action α) {f g : (q : Question) → protocol.Answer q}
    (hlist : f (.access .denyList) = g (.access .denyList))
    (hpermit : ∀ who n, f (.outside (.allocate who subject n)) =
      g (.outside (.allocate who subject n)))
    (hpublished : ∀ batch batch', batch.map untimed = batch'.map untimed →
      f (.outside (.forward .metered batch)) = g (.outside (.forward .metered batch'))) :
    AnsweredAlike (d.play (fun _ => f) []).1 (d.play (fun _ => g) []).1 := by
  have hanswer (f : (q : Question) → protocol.Answer q) :
      ∀ x ∈ (d.play (fun _ => f) []).1, x.answer = f x.question := by
    intro x hx
    obtain ⟨l, hl, hf⟩ := play_answers d (fun _ => f) []
    rw [hl, List.nil_append] at hx
    obtain ⟨before, after, rfl⟩ := List.append_of_mem hx
    exact hf before x after rfl
  refine ⟨fun list hx list' hy => ?_, fun who n x y hx hy => ?_,
    fun batch batch' x y hb hx hy => ?_⟩
  · have hf := hanswer f _ (access_mem_of_mem_consulted hx)
    have hg := hanswer g _ (access_mem_of_mem_consulted hy)
    exact hf.trans (hlist.trans hg.symm)
  · have hf := hanswer f _ (outside_mem_of_mem_calls hx)
    have hg := hanswer g _ (outside_mem_of_mem_calls hy)
    exact hf.trans ((hpermit who n).trans hg.symm)
  · have hf := hanswer f _ (outside_mem_of_mem_calls hx)
    have hg := hanswer g _ (outside_mem_of_mem_calls hy)
    exact hf.trans ((hpublished batch batch' hb).trans hg.symm)

/-- Answers that permit three events, use the allowance of their owner up and acknowledge one. -/
def oneTaken : (q : Question) → protocol.Answer q
  | .outside (.allocate _ _ _) => .ok ⟨3, "owner", true⟩
  | .outside (.forward _ _) => .ok 1
  | q => refusing q

/-- The same at a later time, but the owner cannot be told, and nothing can be released. -/
def oneTakenUnseen : (q : Question) → protocol.Answer q
  | .outside (.forward .internal _) => .error (.forwardingFailed "down")
  | .outside (.release _ _ _ _) => .error (.quotaUnavailable "down")
  | .outside .wallClock => { Timestamp.epoch with second := 1, isTime := by decide }
  | q => oneTaken q

/-- The publication of two events under these answers. -/
def twoPublished (f : (q : Question) → protocol.Answer q) :
    Transcript protocol × Except Fault UInt32 :=
  (publish twoEvents.who twoEvents.events).play (fun _ => f) []

/-- One event of two is acknowledged, and the other two units go back, whether or not the owner
could be told and the units be released. -/
theorem best_effort_unseen_twice :
    AnsweredAlike (twoPublished oneTaken).1 (twoPublished oneTakenUnseen).1 ∧
      (kinds (calls (twoPublished oneTakenUnseen).1) = [.permit, .notice, .publish, .release]) ∧
      Alike (calls (twoPublished oneTaken).1) (calls (twoPublished oneTakenUnseen).1)
        (twoPublished oneTaken).2 (twoPublished oneTakenUnseen).2 ∧
      (releases ((calls (twoPublished oneTakenUnseen).1).map (·.question))).map (·.units) = [2] ∧
      (twoPublished oneTakenUnseen).2 = .ok 1 :=
  have h : AnsweredAlike (twoPublished oneTaken).1 (twoPublished oneTakenUnseen).1 :=
    answeredAlike_play _ rfl (fun _ _ => rfl) fun _ _ _ => rfl
  ⟨h, rfl, best_effort_unseen twoEvents.who twoEvents.events _ _ h, rfl, rfl⟩

end Gateway

end Sluice
