import Sluice.Gateway.Admission
import Sluice.Proofs.Dialogue.Transcript

/-!
# What an admission calls for

`calls` keeps of a transcript the exchanges with the quota authority and the sink.  `Admitted` says
which of them a whole admission consists of, in which order and with which result: it is refused a
permit, or the permit is for nothing, or the sink fails, or the sink acknowledges some events.
`admitBatch_ends` is the one lemma about `admitBatch`; what else holds of an admission follows from
it.
-/

namespace Sluice.Gateway

open Dialogue

/-! ## Calls -/

/-- The question goes to the quota authority or the sink. -/
def Outside.isCall : Outside → Bool
  | .allocate _ _ _ | .release _ _ _ _ | .forward _ _ => true
  | .freshId | .wallClock | .clock => false

/-- The call that a question is. -/
def Question.call? : Question → Option Outside
  | .outside q => if q.isCall then some q else none
  | .access _ => none

/-- The call that an exchange is. -/
def call? : Exchange protocol → Option (Exchange outside)
  | ⟨.outside q, a⟩ => if q.isCall then some ⟨q, a⟩ else none
  | ⟨.access _, _⟩ => none

/-- The calls of a transcript, with their answers. -/
def calls (l : Transcript protocol) : Transcript outside := l.filterMap call?

@[simp] theorem calls_nil : calls [] = [] := rfl

@[simp] theorem calls_append (l k : Transcript protocol) : calls (l ++ k) = calls l ++ calls k :=
  List.filterMap_append

@[simp] theorem calls_cons_outside (q : Outside) (a : outside.Answer q) (l : Transcript protocol) :
    calls (⟨.outside q, a⟩ :: l) = if q.isCall then ⟨q, a⟩ :: calls l else calls l := by
  cases q <;> rfl

@[simp] theorem calls_cons_access (s : Access) (a : s.Answer) (l : Transcript protocol) :
    calls (⟨.access s, a⟩ :: l) = calls l := rfl

theorem map_question_calls (l : Transcript protocol) :
    (calls l).map (·.question) = (l.map (·.question)).filterMap Question.call? := by
  induction l with
  | nil => rfl
  | cons x l ih =>
    obtain ⟨q | s, a⟩ := x
    · cases q <;> simp [Question.call?, Outside.isCall, ih]
    · rw [calls_cons_access, ih]
      rfl

/-! ## Consulting the deny-list -/

/-- The deny-lists that were read. -/
def consulted (l : Transcript protocol) : List DenyList :=
  l.filterMap fun
    | ⟨.access .denyList, list⟩ => some list
    | _ => none

@[simp] theorem consulted_nil : consulted [] = [] := rfl

@[simp] theorem consulted_append (l k : Transcript protocol) :
    consulted (l ++ k) = consulted l ++ consulted k := List.filterMap_append

@[simp] theorem consulted_cons_outside (q : Outside) (a : outside.Answer q)
    (l : Transcript protocol) : consulted (⟨.outside q, a⟩ :: l) = consulted l := rfl

@[simp] theorem consulted_cons_count (c : Counter) (n : UInt64) (a : Unit)
    (l : Transcript protocol) : consulted (⟨.access (.count c n), a⟩ :: l) = consulted l := rfl

@[simp] theorem consulted_cons_observe (n : UInt64) (a : Unit) (l : Transcript protocol) :
    consulted (⟨.access (.observe n), a⟩ :: l) = consulted l := rfl

@[simp] theorem consulted_cons_denyList (list : DenyList) (l : Transcript protocol) :
    consulted (⟨.access .denyList, list⟩ :: l) = list :: consulted l := rfl

/-! ## Counting -/

/-- What was added to the counters. -/
def counted (l : Transcript protocol) : List (Counter × UInt64) :=
  l.filterMap fun
    | ⟨.access (.count c n), _⟩ => some (c, n)
    | _ => none

@[simp] theorem counted_nil : counted [] = [] := rfl

@[simp] theorem counted_append (l k : Transcript protocol) :
    counted (l ++ k) = counted l ++ counted k := List.filterMap_append

@[simp] theorem counted_cons_outside (q : Outside) (a : outside.Answer q)
    (l : Transcript protocol) : counted (⟨.outside q, a⟩ :: l) = counted l := rfl

@[simp] theorem counted_cons_count (c : Counter) (n : UInt64) (a : Unit)
    (l : Transcript protocol) :
    counted (⟨.access (.count c n), a⟩ :: l) = (c, n) :: counted l := rfl

@[simp] theorem counted_cons_observe (n : UInt64) (a : Unit) (l : Transcript protocol) :
    counted (⟨.access (.observe n), a⟩ :: l) = counted l := rfl

@[simp] theorem counted_cons_denyList (list : DenyList) (l : Transcript protocol) :
    counted (⟨.access .denyList, list⟩ :: l) = counted l := rfl

/-! ## The order of the calls -/

/-- There is an owner to tell about a permit. -/
def NoticeDue (permit : Permit) (source : String) : Prop :=
  permit.justExhausted = true ∧ Notice.isDue permit.owner source = true

/-- A due notice has an owner to tell. -/
theorem noticeDue_iff {permit : Permit} {source : String} :
    NoticeDue permit source ↔
      permit.justExhausted = true ∧ permit.owner ≠ "" ∧ permit.owner ≠ source := by
  simp [NoticeDue, Notice.isDue]

/-- The calls that tell the owner of a permit about it, and what they add to the counters. -/
inductive Notified (who : Principal) (permit : Permit) (source : String) :
    Transcript outside → List (Counter × UInt64) → Prop where
  /-- There is nobody to tell. -/
  | nobody : ¬NoticeDue permit source → Notified who permit source [] []
  /-- The notice is sent. -/
  | sent {id n} : NoticeDue permit source →
    Notified who permit source
      [⟨.forward .internal [Notice.make id source who.groupId permit.owner], .ok n⟩]
      [(.noticesSent, 1)]
  /-- The notice cannot be sent. -/
  | unsent {id f} : NoticeDue permit source →
    Notified who permit source
      [⟨.forward .internal [Notice.make id source who.groupId permit.owner], .error f⟩]
      [(.noticeErrors, 1)]

/-- The calls that release units. -/
inductive Released (who : Principal) (permit : Permit) (units : UInt32) :
    Transcript outside → Prop where
  /-- There are no units. -/
  | nothing : units = 0 → Released who permit units []
  /-- They are released at once, successfully or not. -/
  | once {x} : units ≠ 0 →
    Released who permit units [⟨.release who.groupId permit.owner subject units, x⟩]

/-- What was not used of a permit when so many events were acknowledged. -/
def unused (permit : Permit) (acknowledged : UInt32) : UInt32 :=
  permit.granted - min permit.granted acknowledged

/-- What the events of a batch that a permit does not cover add to the counters. -/
def uncovered (permit : Permit) (events : List Event) : List (Counter × UInt64) :=
  if permit.granted.toNat < events.length then
    [(.eventsDropped, UInt64.ofNat (events.length - permit.granted.toNat))]
  else []

/-- The calls of a whole admission of a batch, what it adds to the counters, and its result. -/
inductive Admitted (who : Principal) (first : Event) (rest : List Event) :
    Transcript outside → List (Counter × UInt64) → Except Fault UInt32 → Prop where
  /-- There is no permit. -/
  | refused {f} :
    Admitted who first rest
      [⟨.allocate who subject (requestedCount (first :: rest)), .error f⟩] [] (.error f.asQuota)
  /-- The permit is for nothing. -/
  | exhausted {p notice counts} : Notified who p first.source notice counts → p.granted = 0 →
    Admitted who first rest
      (⟨.allocate who subject (requestedCount (first :: rest)), .ok p⟩ :: notice)
      (counts ++ [(.quotaExhausted, 1),
        (.eventsDropped, (requestedCount (first :: rest)).toUInt64)])
      (.error (.quotaExhausted p.owner))
  /-- The sink fails. -/
  | failed {p notice counts f release} : Notified who p first.source notice counts →
    p.granted ≠ 0 → Released who p p.granted release →
    Admitted who first rest
      (⟨.allocate who subject (requestedCount (first :: rest)), .ok p⟩ :: (notice ++
        ⟨.forward .metered ((first :: rest).take p.granted.toNat), .error f⟩ :: release))
      (counts ++ uncovered p (first :: rest)) (.error f.asForwarding)
  /-- The sink acknowledges some events. -/
  | acknowledged {p notice counts n k release} : Notified who p first.source notice counts →
    p.granted ≠ 0 → k = min n (UInt32.ofNat ((first :: rest).take p.granted.toNat).length) →
    Released who p (unused p k) release →
    Admitted who first rest
      (⟨.allocate who subject (requestedCount (first :: rest)), .ok p⟩ :: (notice ++
        ⟨.forward .metered ((first :: rest).take p.granted.toNat), .ok n⟩ :: release))
      (counts ++ uncovered p (first :: rest)) (.ok k)

theorem notifyOwner_ends (who : Principal) (permit : Permit) (source : String) :
    (notifyOwner who permit source).Ends fun l _ =>
      Notified who permit source (calls l) (counted l) ∧ consulted l = [] := by
  unfold notifyOwner
  split
  · rename_i hd
    have hd : NoticeDue permit source := by simpa [NoticeDue] using hd
    simp only [ends_bind, freshId, forward, ends_question]
    intro id x
    cases x with
    | ok n =>
      simp only [count, ends_question]
      exact fun _ => ⟨.sent hd, rfl⟩
    | error f =>
      simp only [count, ends_question]
      exact fun _ => ⟨.unsent hd, rfl⟩
  · rename_i hd
    rw [ends_pure]
    exact ⟨.nobody (by simpa [NoticeDue] using hd), rfl⟩

theorem releaseUnused_ends (who : Principal) (permit : Permit) (units : UInt32) :
    (releaseUnused who permit units).Ends fun l _ =>
      Released who permit units (calls l) ∧ counted l = [] ∧ consulted l = [] := by
  unfold releaseUnused
  split
  · rw [ends_pure]
    exact ⟨.nothing ‹_›, rfl, rfl⟩
  · simp only [release, ends_bind, ends_question, ends_pure]
    exact fun x => ⟨.once ‹_›, rfl, rfl⟩

theorem forwardCovered_ends (who : Principal) (permit : Permit) (events : List Event) :
    (forwardCovered who permit events).Ends fun l r =>
      counted l = [] ∧ consulted l = [] ∧ ∃ release,
        ((∃ f, calls l = ⟨.forward .metered events, .error f⟩ :: release ∧
            r = .error f.asForwarding ∧ Released who permit permit.granted release) ∨
          ∃ n k, calls l = ⟨.forward .metered events, .ok n⟩ :: release ∧ r = .ok k ∧
            k = min n (UInt32.ofNat events.length) ∧
            Released who permit (unused permit k) release) := by
  simp only [forwardCovered, ends_bind, forward, ends_question]
  intro x
  cases x with
  | error f =>
    simp only [ends_bind, ends_pure]
    refine (releaseUnused_ends who permit permit.granted).mono fun l _ h => ?_
    refine ⟨by simpa using h.2.1, by simpa using h.2.2, calls l, .inl ⟨f, ?_, rfl, h.1⟩⟩
    simp [Outside.isCall]
  | ok n =>
    simp only [ends_bind, ends_pure]
    refine (releaseUnused_ends who permit _).mono fun l _ h => ?_
    refine ⟨by simpa using h.2.1, by simpa using h.2.2, calls l, .inr ⟨n, _, ?_, rfl, rfl, h.1⟩⟩
    simp [Outside.isCall]

theorem forwardGranted_ends (who : Principal) (permit : Permit) (events : List Event) :
    (forwardGranted who permit events).Ends fun l r =>
      counted l = uncovered permit events ∧ consulted l = [] ∧ ∃ release,
        ((∃ f, calls l =
              ⟨.forward .metered (events.take permit.granted.toNat), .error f⟩ :: release ∧
            r = .error f.asForwarding ∧ Released who permit permit.granted release) ∨
          ∃ n k, calls l =
              ⟨.forward .metered (events.take permit.granted.toNat), .ok n⟩ :: release ∧
            r = .ok k ∧ k = min n (UInt32.ofNat (events.take permit.granted.toNat).length) ∧
            Released who permit (unused permit k) release) := by
  have hf := forwardCovered_ends who permit (events.take permit.granted.toNat)
  unfold forwardGranted uncovered
  split
  · simp only [ends_bind, count, ends_question]
    intro _
    refine hf.mono fun l r h => ?_
    obtain ⟨hc, hd, h⟩ := h
    exact ⟨by simp [hc], by simpa using hd, by simpa using h⟩
  · exact hf

theorem admitBatch_ends (who : Principal) (first : Event) (rest : List Event) :
    (admitBatch who (first :: rest)).Ends fun l r =>
      Admitted who first rest (calls l) (counted l) r ∧ consulted l = [] := by
  simp only [admitBatch, requestPermit, ends_bind, allocate, ends_question, ends_pure]
  intro x
  cases x with
  | error f =>
    have hmap : (Except.error f : Except Fault Permit).mapError Fault.asQuota = .error f.asQuota :=
      rfl
    rw [hmap, ends_pure]
    exact ⟨.refused, rfl⟩
  | ok permit =>
    have hmap : (Except.ok permit : Except Fault Permit).mapError Fault.asQuota = .ok permit := rfl
    simp only [hmap, ends_bind]
    refine (notifyOwner_ends who permit first.source).mono fun l _ hn => ?_
    obtain ⟨hn, hd⟩ := hn
    split
    · rename_i h0
      simp only [ends_bind, count, ends_question, ends_pure]
      intro _ _
      refine ⟨?_, by simp [hd]⟩
      have h : Admitted who first rest _ _ _ := .exhausted hn h0
      simpa [Outside.isCall] using h
    · rename_i h0
      refine (forwardGranted_ends who permit (first :: rest)).mono fun k r h => ?_
      obtain ⟨hc, hk, release, ⟨f, hl, rfl, hr⟩ | ⟨n, a, hl, rfl, ha, hr⟩⟩ := h
      · have h : Admitted who first rest _ _ (.error f.asForwarding) := .failed hn h0 hr
        exact ⟨by simpa [Outside.isCall, hl, hc] using h, by simp [hd, hk]⟩
      · have h : Admitted who first rest _ _ _ := .acknowledged hn h0 ha hr
        exact ⟨by simpa [Outside.isCall, hl, hc] using h, by simp [hd, hk]⟩

end Sluice.Gateway
