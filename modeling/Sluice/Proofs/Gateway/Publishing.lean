import Sluice.Gateway.Routes
import Sluice.Proofs.DenyList.Filter
import Sluice.Proofs.Gateway.Ledger

/-!
# What publishing a batch means

Publishing cuts a batch off before the first event that the deny-list in force matches, stamps the
events before it, and asks for a permit for exactly those.  What the permit covers of them goes to
the sink, in order.  `Published` says so, in terms of the batch as it was submitted; an event that
is handed over is related to the one submitted by `Stamped`, field by field.

`publish_ends` proves it for all answers of the quota authority and the sink, and of the deny-list.
It follows from what the filter makes of a batch and from `admitBatch_ends`, which speaks of the
stamped events; stamping changes neither their number nor their order.
-/

namespace Sluice.Gateway

open Dialogue

/-! ## Stamps -/

/-- The second event is the first with the stamp of a publisher and a time: three attributes are
set, whatever they were before, and all else is as it was. -/
structure Stamped (who : Principal) (now : Timestamp) (e e' : Event) : Prop where
  id_eq : e'.id = e.id
  specVersion_eq : e'.specVersion = e.specVersion
  source_eq : e'.source = e.source
  type_eq : e'.type = e.type
  text_eq : e'.text = e.text
  groupId_eq : e'.attribute? "groupid" = some (.string who.groupId)
  userId_eq : e'.attribute? "userid" = some (.string who.userId)
  publishedAt_eq : e'.attribute? "pubtime" = some (.timestamp now)
  attribute_eq : ∀ name, name ≠ "groupid" → name ≠ "userid" → name ≠ "pubtime" →
    e'.attribute? name = e.attribute? name

theorem attribute?_stamp (who : Principal) (now : Timestamp) (e : Event) (name : String) :
    (stamp who now e).attribute? name =
      if "pubtime" = name then some (.timestamp now)
      else if "userid" = name then some (.string who.userId)
      else if "groupid" = name then some (.string who.groupId)
      else e.attribute? name := by
  simp only [stamp, Event.attribute?, Event.withAttribute, Attributes.get?_insert]
  rfl

theorem stamped_stamp (who : Principal) (now : Timestamp) (e : Event) :
    Stamped who now e (stamp who now e) where
  id_eq := rfl
  specVersion_eq := rfl
  source_eq := rfl
  type_eq := rfl
  text_eq := rfl
  groupId_eq := by rw [attribute?_stamp]; rfl
  userId_eq := by rw [attribute?_stamp]; rfl
  publishedAt_eq := by rw [attribute?_stamp]; rfl
  attribute_eq name hg hu hp := by
    rw [attribute?_stamp, if_neg hp.symm, if_neg hu.symm, if_neg hg.symm]

theorem stamped_map (who : Principal) (now : Timestamp) (events : List Event) :
    List.Forall₂ (Stamped who now) events (events.map (stamp who now)) :=
  List.forall₂_map_right_iff.2 (List.forall₂_same.2 fun e _ => stamped_stamp who now e)

/-! ## Permits asked for -/

/-- A request for a permit, with its answer. -/
structure PermitRequest where
  who : Principal
  subject : Subject
  units : UInt32
  /-- The permit, or why there is none. -/
  answer : Except Fault Permit

/-- The request for a permit that an exchange is. -/
def permitRequest? : Exchange outside → Option PermitRequest
  | ⟨.allocate who subject n, x⟩ => some ⟨who, subject, n, x⟩
  | _ => none

/-- The permits asked for. -/
def permitRequests (l : Transcript outside) : List PermitRequest := l.filterMap permitRequest?

@[simp] theorem permitRequests_nil : permitRequests [] = [] := rfl

@[simp] theorem permitRequests_append (l k : Transcript outside) :
    permitRequests (l ++ k) = permitRequests l ++ permitRequests k :=
  List.filterMap_append

@[simp] theorem permitRequests_cons (x : Exchange outside) (l : Transcript outside) :
    permitRequests (x :: l) = (permitRequest? x).toList ++ permitRequests l := by
  cases h : permitRequest? x <;> simp [permitRequests, h]

/-! ## What is handed over -/

/-- What is handed over of the first `j` events of a batch under the answer to the request for their
permit, and the result. -/
inductive HandedOver (who : Principal) (now : Timestamp) (events : List Event) (j : Nat) :
    Except Fault Permit → List (List Event) → Except Fault UInt32 → Prop where
  | refused {f f'} : HandedOver who now events j (.error f) [] (.error f')
  /-- The permit is for nothing. -/
  | exhausted {p f} : p.granted = 0 → HandedOver who now events j (.ok p) [] (.error f)
  /-- What the permit covers is handed over once, and no more is acknowledged. -/
  | once {p batch r} : p.granted ≠ 0 →
    List.Forall₂ (Stamped who now) (events.take (min j p.granted.toNat)) batch →
    (∀ k, r = .ok k → k.toNat ≤ min j p.granted.toNat) →
    HandedOver who now events j (.ok p) [batch] r

section Admitted

variable {who : Principal} {first : Event} {rest : List Event} {l : Transcript outside}
  {counts : List (Counter × UInt64)} {r : Except Fault UInt32} {permit : Permit} {units : UInt32}

theorem Notified.permitRequests (h : Notified who permit first.source l counts) :
    permitRequests l = [] := by
  cases h <;> simp [permitRequest?]

theorem Released.permitRequests (h : Released who permit units l) : permitRequests l = [] := by
  cases h <;> simp [permitRequest?]

/-- The events that a permit covers are the stamped ones of those submitted. -/
theorem stamped_covered {now : Timestamp} {events stamped : List Event} {j : Nat}
    (h : List.Forall₂ (Stamped who now) (events.take j) stamped) (permit : Permit) :
    List.Forall₂ (Stamped who now) (events.take (min j permit.granted.toNat))
      (stamped.take permit.granted.toNat) := by
  have h := List.forall₂_take permit.granted.toNat h
  rwa [List.take_take, Nat.min_comm] at h

theorem permitRequests_forward {n : UInt32} {notice release : Transcript outside}
    {batch : List Event} {x : Except Fault UInt32}
    (hn : Notified who permit first.source notice counts)
    (hr : Released who permit units release) :
    permitRequests (⟨.allocate who subject n, .ok permit⟩ :: (notice ++
      ⟨.forward .metered batch, x⟩ :: release)) = [⟨who, subject, n, .ok permit⟩] := by
  simp [permitRequest?, hn.permitRequests, hr.permitRequests]

theorem Admitted.handedOver (h : Admitted who first rest l counts r) {now : Timestamp}
    {events : List Event} {j : Nat}
    (hs : List.Forall₂ (Stamped who now) (events.take j) (first :: rest)) :
    ∃ x, permitRequests l = [⟨who, subject, requestedCount (first :: rest), x⟩] ∧
      HandedOver who now events j x (Gateway.meteredBatches (l.map (·.question))) r := by
  cases h with
  | @refused f => exact ⟨.error f, rfl, .refused⟩
  | @exhausted p _ _ hn h0 =>
    obtain ⟨-, -, hm, -⟩ := hn.entries
    refine ⟨.ok p, by simp [permitRequest?, hn.permitRequests], ?_⟩
    simpa [metered?, hm] using HandedOver.exhausted h0
  | @failed p _ _ f _ hn h0 hr =>
    refine ⟨.ok p, permitRequests_forward hn hr, ?_⟩
    rw [meteredBatches_forward hn hr]
    exact .once h0 (stamped_covered hs p) fun k hk => by cases hk
  | @acknowledged p _ _ n k _ hn h0 hk hr =>
    have hlen : (first :: rest).length ≤ j := by
      rw [← hs.length_eq]
      exact List.length_take_le _ _
    have hkj : k.toNat ≤ min j p.granted.toNat := by
      rw [hk, UInt32.toNat_min, toNat_covered, List.length_take]
      omega
    refine ⟨.ok p, permitRequests_forward hn hr, ?_⟩
    rw [meteredBatches_forward hn hr]
    refine .once h0 (stamped_covered hs p) fun i hi => ?_
    cases hi
    exact hkj

end Admitted

/-! ## Publishing -/

/-- One permit is asked for the first `j` events of a batch, and they are stamped with one time. -/
def Submitted (who : Principal) (events : List Event) (j : Nat) (l : Transcript protocol)
    (r : Except Fault UInt32) : Prop :=
  ∃ n x now, permitRequests (calls l) = [⟨who, .publishEvents, n, x⟩] ∧
    n.toNat = min j (2 ^ 32 - 1) ∧ ⟨.outside .wallClock, now⟩ ∈ l ∧
      HandedOver who now events j x (meteredBatches ((calls l).map (·.question))) r

/-- What a batch comes to under the deny-list in force. -/
structure Published (who : Principal) (list : DenyList) (events : List Event)
    (l : Transcript protocol) (r : Except Fault UInt32) : Prop where
  /-- A batch whose first event matches is rejected for it, and nothing is called for. -/
  rejected : list.cutoff events = 0 → calls l = [] ∧ ∃ first hit, events.head? = some first ∧
    list.match? 0 first = some hit ∧ r = .error hit.fault
  /-- Of any other batch the events before the first that matches are submitted. -/
  submitted : list.cutoff events ≠ 0 → Submitted who events (list.cutoff events) l r

theorem publishAllowed_ends (who : Principal) (start : Nat) (first : Event) (rest : List Event) :
    (publishAllowed who start (first :: rest)).Ends fun l r =>
      consulted l = [] ∧ ∃ now counts, ⟨.outside .wallClock, now⟩ ∈ l ∧
        Admitted who (stamp who now first) (rest.map (stamp who now)) (calls l) counts r := by
  simp only [publishAllowed, wallClock, clock, observe, ends_bind, ends_question, ends_pure,
    List.map_cons]
  intro now
  refine (admitBatch_ends who _ _).mono fun l r h stop _ => ?_
  obtain ⟨ha, hc⟩ := h
  refine ⟨by simp [hc], now, counted l, by simp, ?_⟩
  simpa [Outside.isCall] using ha

/-- A batch is rejected for its first event, or the events before the first that the list matches
are admitted with the stamp of one time. -/
theorem publish_admitted (who : Principal) (first : Event) (rest : List Event) :
    (publish who (first :: rest)).Ends fun l r => ∃ list, consulted l = [list] ∧
      ((list.cutoff (first :: rest) = 0 ∧ calls l = [] ∧ ∃ hit, list.match? 0 first = some hit ∧
          r = .error hit.fault) ∨
        ∃ before now counts, (first :: rest).take (list.cutoff (first :: rest)) = first :: before ∧
          ⟨.outside .wallClock, now⟩ ∈ l ∧
          Admitted who (stamp who now first) (before.map (stamp who now)) (calls l) counts r) := by
  simp only [publish, clock, count, denyList, ends_bind, ends_question]
  intro start _ _ list
  by_cases h : list.cutoff (first :: rest) = 0
  · obtain ⟨hit, hhit, hf⟩ := DenyList.filter_of_cutoff_eq_zero h
    rw [hf]
    simp only [ends_bind, ends_question, ends_pure]
    intro _
    exact ⟨list, rfl, .inl ⟨h, rfl, hit, hhit, rfl⟩⟩
  · -- The events before the first that matches are published, whether or not there is one.
    obtain ⟨j, hj⟩ := Nat.exists_eq_succ_of_ne_zero h
    have htake : (first :: rest).take (list.cutoff (first :: rest)) = first :: rest.take j := by
      rw [hj, List.take_succ_cons]
    have hall := publishAllowed_ends who start first (rest.take j)
    obtain hf | ⟨hit, hf⟩ := DenyList.filter_of_cutoff_ne_zero h
    · rw [hf, htake]
      refine hall.mono fun l r hl => ?_
      obtain ⟨hc, now, counts, hnow, ha⟩ := hl
      refine ⟨list, by simp [hc], .inr ⟨rest.take j, now, counts, htake, by simp [hnow], ?_⟩⟩
      simpa [Outside.isCall] using ha
    · rw [hf, htake]
      simp only [ends_bind, ends_question]
      intro _
      refine hall.mono fun l r hl => ?_
      obtain ⟨hc, now, counts, hnow, ha⟩ := hl
      refine ⟨list, by simp [hc], .inr ⟨rest.take j, now, counts, htake, by simp [hnow], ?_⟩⟩
      simpa [Outside.isCall] using ha

theorem publish_ends (who : Principal) (first : Event) (rest : List Event) :
    (publish who (first :: rest)).Ends fun l r =>
      ∃ list, consulted l = [list] ∧ Published who list (first :: rest) l r := by
  refine (publish_admitted who first rest).mono fun l r h => ?_
  obtain ⟨list, hlist, ⟨h0, hl, hit, hhit, rfl⟩ | ⟨before, now, counts, htake, hnow, ha⟩⟩ := h
  · exact ⟨list, hlist, fun _ => ⟨hl, first, hit, rfl, hhit, rfl⟩, fun hne => absurd h0 hne⟩
  · have hs : List.Forall₂ (Stamped who now) ((first :: rest).take (list.cutoff (first :: rest)))
        (stamp who now first :: before.map (stamp who now)) := by
      rw [htake, ← List.map_cons]
      exact stamped_map who now _
    have hlen : (first :: before).length = list.cutoff (first :: rest) := by
      rw [← htake]
      exact List.length_take_of_le DenyList.cutoff_le
    obtain ⟨x, hx, hh⟩ := ha.handedOver hs
    refine ⟨list, hlist, fun h0 => ?_, fun _ => ⟨_, x, now, hx, ?_, hnow, hh⟩⟩
    · rw [h0] at hlen
      cases hlen
    · rw [toNat_requestedCount, ← List.map_cons, List.length_map, hlen]

theorem length_batch {body : List UInt8} {events : List Event} (h : Body.batch body = .ok events) :
    0 < events.length ∧ events.length ≤ Body.batchLimit := by
  unfold Body.batch at h
  split at h
  · cases h
  · split at h
    · cases h
    · rename_i hempty
      split at h
      · cases h
      · rename_i hle
        split at h
        · cases h
        · cases h
          exact ⟨List.length_pos_iff.2 (mt List.isEmpty_iff.2 hempty), Nat.le_of_not_lt hle⟩

/-- A body holds an event at least, and no more events than a batch may have. -/
theorem length_eventsOf {route : Route} {body : List UInt8} {events : List Event}
    (h : eventsOf route body = .ok events) :
    0 < events.length ∧ events.length ≤ Body.batchLimit := by
  have single (h : (do return [← Body.event body]) = Except.ok events) :
      0 < events.length ∧ events.length ≤ Body.batchLimit := by
    cases he : Body.event body with
    | error f =>
      rw [he] at h
      cases h
    | ok e =>
      rw [he] at h
      cases h
      exact ⟨Nat.one_pos, Nat.le_add_left 1 999⟩
  unfold eventsOf at h
  cases hs : Body.checkSize body with
  | error f =>
    rw [hs] at h
    cases h
  | ok _ =>
    rw [hs] at h
    cases route with
    | batch => exact length_batch h
    | event => exact single h
    | internal => exact single h
    | health => exact single h
    | ready => exact single h
    | live => exact single h

end Sluice.Gateway
