import Mathlib.Algebra.GroupWithZero.Nat
import Sluice.Proofs.Gateway.Bystanders

/-!
# Postings

Everything that is counted, and every batch that is timed, is a posting to a column of the books
(`Posting`).  A step on the state posts by itself (`Access.postings`), and a call to a collaborator
posts what the client of the quota authority or the producer counts while it is made
(`Outside.postings`, `collaborator_within`).  The producer counts what the sink took, which may be
fewer events than it was handed, and its own failures; `Within` leaves both open.

What a request asks and is answered therefore tells what it posts (`dues`, `answered_within`): what
it counts itself, and what its calls come to (`total_dues`).
-/

namespace Sluice.Gateway

open Dialogue

/-! ## Postings -/

/-- What books are kept of: the counters, and the times of batches. -/
inductive Column where
  | counter (c : Counter)
  /-- How many batches were timed. -/
  | timed
deriving DecidableEq

/-- So many more in a column. -/
abbrev Posting := Column × Nat

/-- The sum of the postings to a column. -/
def total (l : List Posting) (col : Column) : Nat :=
  (l.map fun e => if e.1 = col then e.2 else 0).sum

@[simp] theorem total_nil (col : Column) : total [] col = 0 := rfl

@[simp] theorem total_cons (e : Posting) (l : List Posting) (col : Column) :
    total (e :: l) col = (if e.1 = col then e.2 else 0) + total l col := by
  simp [total]

@[simp] theorem total_append (l m : List Posting) (col : Column) :
    total (l ++ m) col = total l col + total m col := by
  simp [total]

/-- What a step on the state posts. -/
def Access.postings : Access → List Posting
  | .count c n => [(.counter c, n.toNat)]
  | .install _ => [(.counter .denyListReloads, 1)]
  | .observe _ => [(.timed, 1)]
  | _ => []

/-- What an errand posts. -/
def Errand.postings : Errand → List Posting
  | .access a => a.postings
  | .world _ => []

/-- What a task has posted. -/
def postings (l : Transcript errands) : List Posting := l.flatMap (·.question.postings)

@[simp] theorem postings_nil : postings [] = [] := rfl

@[simp] theorem postings_cons (x : Exchange errands) (l : Transcript errands) :
    postings (x :: l) = x.question.postings ++ postings l := rfl

@[simp] theorem postings_append (l k : Transcript errands) :
    postings (l ++ k) = postings l ++ postings k := List.flatMap_append

/-- What a call to a collaborator posts; of events that the sink took, no more than were handed
over. -/
def Outside.postings : (q : Outside) → outside.Answer q → List Posting
  | .allocate _ _ _, .ok _ => [(.counter .permitsRequested, 1)]
  | .allocate _ _ _, .error _ => [(.counter .permitsRequested, 1), (.counter .permitErrors, 1)]
  | .release _ _ _ _, .ok _ => [(.counter .releases, 1)]
  | .release _ _ _ _, .error _ => [(.counter .releases, 1), (.counter .releaseErrors, 1)]
  | .forward _ events, .ok _ => [(.counter .eventsForwarded, events.length)]
  | _, _ => []

/-- The first postings are the second, but perhaps fewer events that the sink took, and failures of
the sink. -/
structure Within (l m : List Posting) : Prop where
  forwarded_le : total l (.counter .eventsForwarded) ≤ total m (.counter .eventsForwarded)
  eq : ∀ col, col ≠ .counter .eventsForwarded → col ≠ .counter .sinkErrors →
    total l col = total m col

theorem Within.refl (l : List Posting) : Within l l := ⟨Nat.le_refl _, fun _ _ _ => rfl⟩

theorem Within.append {l l' m m' : List Posting} (h : Within l m) (h' : Within l' m') :
    Within (l ++ l') (m ++ m') where
  forwarded_le := by
    rw [total_append, total_append]
    exact Nat.add_le_add h.forwarded_le h'.forwarded_le
  eq col hf hs := by rw [total_append, total_append, h.eq col hf hs, h'.eq col hf hs]

/-! ## The collaborators -/

section Collaborators

/-- What the client of the authority counts is posted. -/
theorem postings_of_authority {k : Transcript Authority.protocol} {l : Transcript errands}
    (h : Answered (authorityAnswer (m := Task)) k l) :
    postings l = (Authority.tallied k).map fun c => (.counter c, 1) := by
  induction h with
  | nil => rfl
  | @snoc k l q a l' _ ha ih =>
    rw [postings_append, Authority.tallied_append, List.map_append, ih]
    congr 1
    have hends : (authorityAnswer q : Task _).Ends fun l' a =>
        postings l' = (Authority.tallied [⟨q, a⟩]).map fun c => (.counter c, 1) := by
      cases q with
      | call c => exact ends_question.2 fun _ => rfl
      | count c => exact ends_question.2 fun _ => rfl
    exact hends.of_reaches ha

/-- What the producer counts is posted. -/
theorem postings_of_broker {k : Transcript Broker.protocol} {l : Transcript errands}
    (h : Answered (brokerAnswer (m := Task)) k l) :
    postings l = (Broker.counted k).map fun e => (.counter e.1, e.2.toNat) := by
  induction h with
  | nil => rfl
  | @snoc k l q a l' _ ha ih =>
    rw [postings_append, Broker.counted_append, List.map_append, ih]
    congr 1
    have hends : (brokerAnswer q : Task _).Ends fun l' a =>
        postings l' = (Broker.counted [⟨q, a⟩]).map fun e => (.counter e.1, e.2.toNat) := by
      cases q <;> exact ends_question.2 fun _ => rfl
    exact hends.of_reaches ha

theorem forwardBy_within (s : BrokerSettings) (origin : Origin) (events : List Event) :
    (forwardBy s origin events : Task _).Ends fun l x =>
      Within (postings l) ((Outside.forward origin events).postings x) := by
  refine ((Broker.produce_counted s origin events).run brokerAnswer).mono fun l x h => ?_
  obtain ⟨k, hk, hcounted⟩ := h
  rw [postings_of_broker hk]
  generalize Broker.counted k = counts at hcounted ⊢
  cases hcounted with
  | idle => exact ⟨by simp [Outside.postings], fun col hf _ => by simp [Outside.postings, hf.symm]⟩
  | @written places _ hle =>
    have hplaces : (UInt64.ofNat places).toNat ≤ places := Nat.mod_le _ _
    refine ⟨?_, fun col hf _ => by simp [Outside.postings, hf.symm]⟩
    simpa [Outside.postings] using Nat.le_trans hplaces hle
  | unconnected => exact .refl _
  | failed => exact ⟨by simp, fun col _ hs => by simp [Outside.postings, hs.symm]⟩

theorem collaborator_within (s : Settings) (q : Outside) :
    (collaborator s q : Task _).Ends fun l x => Within (postings l) (q.postings x) := by
  cases q with
  | allocate who subject n =>
    refine ((Authority.allocate_tallied s.quota who subject n).run authorityAnswer).mono
      fun l x h => ?_
    obtain ⟨k, hk, htallied⟩ := h
    rw [postings_of_authority hk, htallied]
    cases x <;> exact .refl _
  | release groupId owner subject n =>
    refine ((Authority.release_tallied s.quota groupId owner subject n).run authorityAnswer).mono
      fun l x h => ?_
    obtain ⟨k, hk, htallied⟩ := h
    rw [postings_of_authority hk, htallied]
    cases x <;> exact .refl _
  | forward origin events => exact forwardBy_within s.broker origin events
  | freshId => exact ends_question.2 fun _ => .refl _
  | wallClock => exact ends_question.2 fun _ => .refl _
  | clock => exact ends_question.2 fun _ => .refl _

end Collaborators

/-! ## Requests -/

/-- What an exchange of a request posts. -/
def due : Exchange protocol → List Posting
  | ⟨.access a, _⟩ => a.postings
  | ⟨.outside q, x⟩ => q.postings x

/-- What a request posts. -/
def dues (k : Transcript protocol) : List Posting := k.flatMap due

@[simp] theorem dues_nil : dues [] = [] := rfl

@[simp] theorem dues_cons (x : Exchange protocol) (k : Transcript protocol) :
    dues (x :: k) = due x ++ dues k := rfl

@[simp] theorem dues_append (k k' : Transcript protocol) : dues (k ++ k') = dues k ++ dues k' :=
  List.flatMap_append

theorem requestAnswer_within (s : Settings) (q : Question) :
    (requestAnswer s q : Task _).Ends fun l x => Within (postings l) (due ⟨q, x⟩) := by
  cases q with
  | outside o => exact collaborator_within s o
  | access a => exact ends_question.2 fun x => by simpa [Errand.postings, due] using Within.refl _

theorem answered_within {s : Settings} {k : Transcript protocol} {l : Transcript errands}
    (h : Answered (requestAnswer (m := Task) s) k l) : Within (postings l) (dues k) := by
  induction h with
  | nil => exact .refl _
  | @snoc k l q a l' _ ha ih =>
    rw [postings_append, dues_append, dues_cons, dues_nil, List.append_nil]
    exact ih.append ((requestAnswer_within s q).of_reaches ha)

/-! ### Counts and calls -/

/-- The postings of what was added to the counters. -/
def tallies (counts : List (Counter × UInt64)) : List Posting :=
  counts.map fun e => (.counter e.1, e.2.toNat)

@[simp] theorem tallies_nil : tallies [] = [] := rfl

@[simp] theorem tallies_cons (e : Counter × UInt64) (counts : List (Counter × UInt64)) :
    tallies (e :: counts) = (.counter e.1, e.2.toNat) :: tallies counts := rfl

@[simp] theorem tallies_append (counts counts' : List (Counter × UInt64)) :
    tallies (counts ++ counts') = tallies counts ++ tallies counts' := List.map_append

/-- The postings of calls. -/
def charges (l : Transcript outside) : List Posting :=
  l.flatMap fun x => x.question.postings x.answer

@[simp] theorem charges_nil : charges [] = [] := rfl

@[simp] theorem charges_cons (x : Exchange outside) (l : Transcript outside) :
    charges (x :: l) = x.question.postings x.answer ++ charges l := rfl

@[simp] theorem charges_append (l l' : Transcript outside) :
    charges (l ++ l') = charges l ++ charges l' := List.flatMap_append

theorem total_dues (k : Transcript protocol) {c : Counter} (hc : c ≠ .denyListReloads) :
    total (dues k) (.counter c) =
      total (tallies (counted k)) (.counter c) + total (charges (calls k)) (.counter c) := by
  induction k with
  | nil => rfl
  | cons x k ih =>
    rw [dues_cons, total_append, ih]
    obtain ⟨q | a, y⟩ := x
    · cases q with
      | allocate => simp [due, Outside.isCall]; omega
      | release => simp [due, Outside.isCall]; omega
      | forward => simp [due, Outside.isCall]; omega
      | freshId => simp [due, Outside.isCall, Outside.postings]
      | wallClock => simp [due, Outside.isCall, Outside.postings]
      | clock => simp [due, Outside.isCall, Outside.postings]
    · cases a with
      | count d n => simp [due, Access.postings]; omega
      | install list => simp [due, Access.postings, hc.symm]; rfl
      | observe t => simp [due, Access.postings]
      | _ => exact Nat.zero_add _

theorem timed_of_bills {k : Transcript protocol} (h : ∀ x ∈ k, x.question.Bills) :
    total (dues k) .timed = 0 := by
  induction k with
  | nil => rfl
  | cons x k ih =>
    rw [dues_cons, total_append, ih fun y hy => h y (.tail x hy), Nat.add_zero]
    have hx := h x (.head k)
    obtain ⟨q | a, y⟩ := x
    · cases q <;> try rfl
      all_goals cases y <;> rfl
    · cases a <;> first | rfl | exact absurd hx id

end Sluice.Gateway
