import Sluice.Proofs.Gateway.Publishing

/-!
# Publishing again what was not acknowledged

A publisher learns no more of a batch than how many of its events were acknowledged.  `resubmit` is
what can be done with that: so many events are dropped and those that are left are published, and
again, until nothing is left or the batch is rejected.

`nothing_lost_or_repeated` says that this is right.  A batch is cut off in three ways, which may
change from one attempt to the next: by the deny-list, by the permit and by what the sink
acknowledges.  Each attempt has some first events of what is left acknowledged, and none from the
first denied one on (`Attempt`).  Put after what was acknowledged before, these are first events of
the whole batch again (`Stopped.prepend`), however many attempts there are.
-/

namespace Sluice

/-- A batch was rejected for its first event. -/
def Fault.isRejection : Fault → Bool
  | .rejected _ _ _ => true
  | _ => false

theorem Fault.isRejection_asQuota (f : Fault) : f.asQuota.isRejection = false := by
  cases f <;> rfl

theorem Fault.isRejection_asForwarding (f : Fault) : f.asForwarding.isRejection = false := by
  cases f <;> rfl

namespace Gateway

open Dialogue

/-! ## The publisher -/

/-- How a publisher comes to stop, and with which events left. -/
inductive Stop where
  /-- The first of the events left is denied. -/
  | rejected (left : List Event)
  /-- There are no events left. -/
  | finished
  /-- There are no attempts left. -/
  | gaveUp (left : List Event)

/-- Publishes what is left of a batch, again and again, in so many attempts at most. -/
def resubmit (who : Principal) : Nat → List Event → Action Stop
  | _, [] => pure .finished
  | 0, left => pure (.gaveUp left)
  | attempts + 1, left => do
    match ← publish who left with
    | .ok n => resubmit who attempts (left.drop n.toNat)
    | .error f => if f.isRejection then return .rejected left else resubmit who attempts left

/-! ## What is acknowledged -/

/-- The events that an exchange acknowledges: the first of those handed over on the metered path. -/
def acknowledgedEventsIn : Exchange outside → List Event
  | ⟨.forward .metered events, .ok n⟩ => events.take n.toNat
  | _ => []

/-- The events acknowledged on the metered path, in order. -/
def acknowledgedEvents (l : Transcript outside) : List Event := l.flatMap acknowledgedEventsIn

@[simp] theorem acknowledgedEvents_nil : acknowledgedEvents [] = [] := rfl

@[simp] theorem acknowledgedEvents_append (l k : Transcript outside) :
    acknowledgedEvents (l ++ k) = acknowledgedEvents l ++ acknowledgedEvents k :=
  List.flatMap_append

@[simp] theorem acknowledgedEvents_cons (x : Exchange outside) (l : Transcript outside) :
    acknowledgedEvents (x :: l) = acknowledgedEventsIn x ++ acknowledgedEvents l :=
  List.flatMap_cons

/-- Some events of a batch were acknowledged: each of them once and in order, with the stamp of
their publisher, and none that the list matches. -/
structure Passed (who : Principal) (list : DenyList) (events acks : List Event) : Prop where
  allowed : ∀ e ∈ events, list.matchesEvent e = false
  stamped : List.Forall₂ (fun e e' => ∃ now, Stamped who now e e') events acks

/-- What was acknowledged of a batch when its publisher stopped. -/
inductive Stopped (who : Principal) (list : DenyList) : List Event → Stop → List Event → Prop where
  /-- Exactly what comes before the first denied event. -/
  | rejected {before e after acks} : Passed who list before acks → list.matchesEvent e = true →
    Stopped who list (before ++ e :: after) (.rejected (e :: after)) acks
  /-- The whole batch. -/
  | finished {batch acks} : Passed who list batch acks → Stopped who list batch .finished acks
  /-- What comes before the events that are left. -/
  | gaveUp {before left acks} : Passed who list before acks →
    Stopped who list (before ++ left) (.gaveUp left) acks

section Passed

variable {who : Principal} {list : DenyList} {events events' left batch acks acks' : List Event}
  {stop : Stop}

theorem passed_nil : Passed who list [] [] where
  allowed _ h := by cases h
  stamped := .nil

theorem Passed.append (h : Passed who list events acks) (h' : Passed who list events' acks') :
    Passed who list (events ++ events') (acks ++ acks') where
  allowed e he := (List.mem_append.1 he).elim (h.allowed e) (h'.allowed e)
  stamped := List.rel_append h.stamped h'.stamped

/-- What was acknowledged so far are the first of the events. -/
theorem Passed.of_isPrefix (h : Passed who list events acks) (hp : acks' <+: acks) :
    ∃ before, before <+: events ∧ Passed who list before acks' := by
  refine ⟨events.take acks'.length, List.take_prefix _ _, ?_, ?_⟩
  · exact fun e he => h.allowed e (List.mem_of_mem_take he)
  · have ht := List.forall₂_take acks'.length h.stamped
    rwa [← List.prefix_iff_eq_take.1 hp] at ht

theorem stopped_rejected {e : Event} (he : list.matchesEvent e = true) :
    Stopped who list (e :: left) (.rejected (e :: left)) [] :=
  @Stopped.rejected who list [] e left [] passed_nil he

theorem stopped_gaveUp : Stopped who list left (.gaveUp left) [] :=
  @Stopped.gaveUp who list [] left [] passed_nil

/-- What was acknowledged of the rest of a batch comes after what was acknowledged before. -/
theorem Stopped.prepend (h : Stopped who list left stop acks')
    (hp : Passed who list events acks) :
    Stopped who list (events ++ left) stop (acks ++ acks') := by
  cases h with
  | rejected h he =>
    rw [← List.append_assoc]
    exact .rejected (hp.append h) he
  | finished h => exact .finished (hp.append h)
  | gaveUp h =>
    rw [← List.append_assoc]
    exact .gaveUp (hp.append h)

theorem Stopped.passed (h : Stopped who list batch stop acks) :
    ∃ before, before <+: batch ∧ Passed who list before acks := by
  cases h with
  | rejected h _ => exact ⟨_, List.prefix_append _ _, h⟩
  | finished h => exact ⟨batch, List.prefix_refl batch, h⟩
  | gaveUp h => exact ⟨_, List.prefix_append _ _, h⟩

end Passed

/-! ## One attempt -/

/-- What is acknowledged of the events left in one attempt, and its result. -/
inductive Attempt (who : Principal) (list : DenyList) (left : List Event) :
    List Event → Except Fault UInt32 → Prop where
  /-- The first event is denied. -/
  | rejected {e after f} : left = e :: after → list.matchesEvent e = true → f.isRejection = true →
    Attempt who list left [] (.error f)
  /-- There is no permit, or the sink fails. -/
  | failed {f} : f.isRejection = false → Attempt who list left [] (.error f)
  /-- The result is the number of events that were acknowledged. -/
  | acknowledged {acks n} : Passed who list (left.take n.toNat) acks →
    Attempt who list left acks (.ok n)

section Admitted

variable {who : Principal} {first : Event} {rest : List Event} {l : Transcript outside}
  {counts : List (Counter × UInt64)} {permit : Permit} {units : UInt32}

theorem Notified.acknowledgedEvents (h : Notified who permit first.source l counts) :
    acknowledgedEvents l = [] := by
  cases h <;> rfl

theorem Released.acknowledgedEvents (h : Released who permit units l) :
    acknowledgedEvents l = [] := by
  cases h <;> rfl

theorem acknowledgedEvents_forward {n : UInt32} {notice release : Transcript outside}
    {batch : List Event} {x : Except Fault UInt32}
    (hn : Notified who permit first.source notice counts)
    (hr : Released who permit units release) :
    acknowledgedEvents (⟨.allocate who subject n, .ok permit⟩ :: (notice ++
      ⟨.forward .metered batch, x⟩ :: release)) =
        acknowledgedEventsIn ⟨.forward .metered batch, x⟩ := by
  simp [acknowledgedEventsIn, hn.acknowledgedEvents, hr.acknowledgedEvents]

/-- The first of the events that the list lets through, with the stamp of one time. -/
theorem passed_take {list : DenyList} {left : List Event} {n : Nat} (hn : n ≤ list.cutoff left)
    (now : Timestamp) : Passed who list (left.take n) ((left.take n).map (stamp who now)) where
  allowed _ he := DenyList.matchesEvent_of_mem_take (List.take_subset_take_left left hn he)
  stamped := List.forall₂_map_right_iff.2
    (List.forall₂_same.2 fun e _ => ⟨now, stamped_stamp who now e⟩)

theorem Admitted.attempt {list : DenyList} {left before : List Event} {now : Timestamp}
    {r : Except Fault UInt32} (hleft : left.take (list.cutoff left) = first :: before)
    (h : Admitted who (stamp who now first) (before.map (stamp who now)) l counts r) :
    Attempt who list left (Gateway.acknowledgedEvents l) r := by
  cases h with
  | @refused f => exact .failed f.isRejection_asQuota
  | exhausted hn _ =>
    rw [acknowledgedEvents_cons, hn.acknowledgedEvents]
    exact .failed rfl
  | @failed p _ _ f _ hn _ hr =>
    rw [acknowledgedEvents_forward hn hr]
    exact .failed f.isRejection_asForwarding
  | @acknowledged p _ _ n k _ hn _ hk hr =>
    rw [acknowledgedEvents_forward hn hr]
    rw [← List.map_cons, ← hleft] at hk ⊢
    -- The list, the permit and the sink: the fewest of the events that one of them leaves.
    have hk : k.toNat = min n.toNat (min p.granted.toNat (list.cutoff left)) := by
      rw [hk, UInt32.toNat_min, toNat_covered, List.length_take, List.length_map,
        List.length_take_of_le DenyList.cutoff_le]
    have htake : acknowledgedEventsIn ⟨.forward .metered
        (((left.take (list.cutoff left)).map (stamp who now)).take p.granted.toNat), .ok n⟩ =
          (left.take k.toNat).map (stamp who now) := by
      rw [hk, acknowledgedEventsIn, ← List.map_take, ← List.map_take, List.take_take,
        List.take_take, Nat.min_assoc]
    rw [htake]
    exact .acknowledged (passed_take (by omega) now)

end Admitted

/-- However an attempt is answered, it is as it may be under the list in force. -/
theorem publish_attempt (who : Principal) (first : Event) (rest : List Event) :
    (publish who (first :: rest)).Ends fun l r => ∃ list, consulted l = [list] ∧
      Attempt who list (first :: rest) (acknowledgedEvents (calls l)) r := by
  refine (publish_admitted who first rest).mono fun l r h => ?_
  obtain ⟨list, hlist, ⟨-, hl, hit, hhit, rfl⟩ | ⟨before, now, counts, htake, -, ha⟩⟩ := h
  · rw [hl]
    exact ⟨list, hlist, .rejected rfl (Option.isSome_of_eq_some hhit) rfl⟩
  · exact ⟨list, hlist, ha.attempt htake⟩

/-! ## Any number of attempts -/

theorem resubmit_ends (who : Principal) (list : DenyList) (attempts : Nat) (batch : List Event) :
    (resubmit who attempts batch).Ends fun l stop => (∀ d ∈ consulted l, d = list) →
      Stopped who list batch stop (acknowledgedEvents (calls l)) := by
  induction attempts generalizing batch with
  | zero =>
    cases batch with
    | nil => exact ends_pure.2 fun _ => .finished passed_nil
    | cons first rest => exact ends_pure.2 fun _ => stopped_gaveUp
  | succ attempts ih =>
    cases batch with
    | nil => exact ends_pure.2 fun _ => .finished passed_nil
    | cons first rest =>
      simp only [resubmit, ends_bind]
      refine (publish_attempt who first rest).mono fun l r h => ?_
      obtain ⟨d, hd, ha⟩ := h
      have hlist (k : Transcript protocol) (h : ∀ e ∈ consulted (l ++ k), e = list) :
          d = list ∧ ∀ e ∈ consulted k, e = list := by
        simpa [hd] using h
      have hacks (k : Transcript protocol) : acknowledgedEvents (calls (l ++ k)) =
          acknowledgedEvents (calls l) ++ acknowledgedEvents (calls k) := by
        rw [calls_append, acknowledgedEvents_append]
      simp only [hacks]
      generalize acknowledgedEvents (calls l) = acks at ha
      cases ha with
      | @acknowledged _ n hp =>
        refine (ih ((first :: rest).drop n.toNat)).mono fun k stop hk hall => ?_
        obtain ⟨rfl, hall⟩ := hlist k hall
        have hstop := (hk hall).prepend hp
        rwa [List.take_append_drop] at hstop
      | rejected heq he hf =>
        simp only [hf, if_true, heq, ends_pure]
        intro hall
        obtain ⟨rfl, -⟩ := hlist [] hall
        exact stopped_rejected he
      | failed hf =>
        simp only [hf, Bool.false_eq_true, if_false]
        refine (ih (first :: rest)).mono fun k stop hk hall => ?_
        exact hk (hlist k hall).2

/-- Answers under one deny-list that give no permit. -/
def refusingUnder (list : DenyList) : (q : Question) → protocol.Answer q
  | .access .denyList => list
  | q => refusing q

theorem consulted_of_refusingUnder {list : DenyList} {l : Transcript protocol}
    (h : ∀ x ∈ l, x.answer = refusingUnder list x.question) : ∀ d ∈ consulted l, d = list := by
  intro d hd
  obtain ⟨⟨q, x⟩, hx, heq⟩ := List.mem_filterMap.1 hd
  split at heq
  · rename_i y hy
    cases hy
    cases heq
    exact h _ hx
  · cases heq

/-- Publishing again what was not acknowledged loses and repeats nothing.  Under one deny-list,
however the attempts are answered, what was acknowledged at any moment are the first events of the
batch, each once and in order, and none of them is denied.  When the batch is rejected they are
exactly those before the first denied event; when nothing is left they are the whole batch. -/
theorem nothing_lost_or_repeated (who : Principal) (attempts : Nat) (batch : List Event)
    (list : DenyList) {l : Transcript protocol} {e : Action Stop}
    (hr : (resubmit who attempts batch).Reaches l e) (hl : ∀ d ∈ consulted l, d = list) :
    (∃ before, before <+: batch ∧ Passed who list before (acknowledgedEvents (calls l))) ∧
      ∀ stop, e = .done stop → Stopped who list batch stop (acknowledgedEvents (calls l)) := by
  constructor
  · -- Brought to its end under the same list, it has acknowledged no less.
    obtain ⟨k, stop, hk, hans⟩ := exists_end (refusingUnder list) e
    have hall : ∀ d ∈ consulted (l ++ k), d = list := by
      rw [consulted_append]
      exact fun d hd => (List.mem_append.1 hd).elim (hl d) (consulted_of_refusingUnder hans d)
    obtain ⟨before, hbefore, hp⟩ :=
      ((resubmit_ends who list attempts batch).of_reaches (hr.trans hk) hall).passed
    have hpart : acknowledgedEvents (calls l) <+: acknowledgedEvents (calls (l ++ k)) := by
      rw [calls_append, acknowledgedEvents_append]
      exact List.prefix_append _ _
    obtain ⟨b, hb, hp⟩ := hp.of_isPrefix hpart
    exact ⟨b, hb.trans hbefore, hp⟩
  · rintro stop rfl
    exact (resubmit_ends who list attempts batch).of_reaches hr hl

/-- A list of one rule, for events from `b`. -/
def deniesB : DenyList := .ofRules [⟨"source:b", ⟨.epoch, ""⟩⟩]

/-- Three events, of which the last is denied. -/
def lastDenied : List Event := [.make "1" "a" "t", .make "2" "a" "t", .make "3" "b" "t"]

/-- Answers under that list that have one event acknowledged at a time. -/
def oneByOne : (q : Question) → protocol.Answer q
  | .outside (.allocate _ _ _) => .ok fivePermitted
  | .outside (.forward _ _) => .ok 1
  | q => refusingUnder deniesB q

/-- What was asked for those events in five attempts at most, and how it stopped. -/
def lastDeniedRun : Transcript protocol × Stop :=
  (resubmit twoEvents.who 5 lastDenied).play (fun _ => oneByOne) []

set_option maxRecDepth 10000 in
theorem consulted_lastDeniedRun : consulted lastDeniedRun.1 = [deniesB, deniesB, deniesB] := rfl

/-- The first two events are acknowledged in two attempts, and the third attempt is rejected. -/
theorem nothing_lost_or_repeated_lastDenied :
    (∀ d ∈ consulted lastDeniedRun.1, d = deniesB) ∧
      lastDeniedRun.2 = .rejected [.make "3" "b" "t"] ∧
      (acknowledgedEvents (calls lastDeniedRun.1)).map (·.id) = ["1", "2"] ∧
      Stopped twoEvents.who deniesB lastDenied (.rejected [.make "3" "b" "t"])
        (acknowledgedEvents (calls lastDeniedRun.1)) := by
  have hlists : ∀ d ∈ consulted lastDeniedRun.1, d = deniesB := by
    simp [consulted_lastDeniedRun]
  have hr := reaches_play (resubmit twoEvents.who 5 lastDenied) fun _ => oneByOne
  exact ⟨hlists, rfl, by decide +kernel,
    (nothing_lost_or_repeated twoEvents.who 5 lastDenied deniesB hr hlists).2 _ rfl⟩

end Gateway

end Sluice
