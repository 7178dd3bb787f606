import Mathlib.Algebra.Order.BigOperators.Group.List
import Mathlib.Algebra.Order.Group.Nat
import Sluice.Proofs.Dialogue.Pool
import Sluice.Proofs.Gateway.Reconciliation

/-!
# The counters of the process

All requests count in the same metrics, whichever come in and however their steps are mixed.  What
the metrics show of a column is what was posted to it, as far as a word holds it (`Shown`,
`shown_of_reachable`), and so the counters agree with each other as the books of the requests do
(`counters_reconciled`).
-/

namespace Sluice.Gateway

open Dialogue

/-! ## The metrics -/

/-- The histogram counted so many values, and its buckets hold as many. -/
structure Holding (h : Histogram) (k : Nat) : Prop where
  count_eq : h.count.toNat = k
  buckets_eq : (h.counts.toList.map UInt64.toNat).sum = k

theorem holding_empty : Holding .empty 0 := ⟨rfl, by decide⟩

theorem sum_set_succ {l : List Nat} {i : Nat} (h : i < l.length) :
    (l.set i (l[i] + 1)).sum = l.sum + 1 := by
  have hsplit := List.sum_take_add_sum_drop l i
  rw [List.drop_eq_getElem_cons h, List.sum_cons] at hsplit
  rw [List.sum_set, if_pos h]
  omega

theorem toNat_succ {n : UInt64} (h : n.toNat + 1 < 2 ^ 64) : (n + 1).toNat = n.toNat + 1 := by
  rw [UInt64.toNat_add]
  exact Nat.mod_eq_of_lt h

theorem Holding.observe {h : Histogram} {k : Nat} (hh : Holding h k) (hk : k + 1 < 2 ^ 64)
    (value : UInt64) : Holding (h.observe value) (k + 1) := by
  obtain ⟨hcount, hbuckets⟩ := hh
  constructor
  · show (h.count + 1).toNat = k + 1
    rw [toNat_succ (by omega), hcount]
  · generalize hi : Histogram.bucketOf value = i
    have hlen : i.val < (h.counts.toList.map UInt64.toNat).length := by simp
    have hbucket : (h.counts[i]).toNat = (h.counts.toList.map UInt64.toNat)[i.val] := by simp
    have hle : (h.counts[i]).toNat ≤ k := by
      rw [hbucket, ← hbuckets]
      exact List.le_sum_of_mem (List.getElem_mem hlen)
    have hset : (h.observe value).counts.toList.map UInt64.toNat =
        (h.counts.toList.map UInt64.toNat).set i.val
          ((h.counts.toList.map UInt64.toNat)[i.val] + 1) := by
      simp only [Histogram.observe, hi]
      rw [Vector.toList_set, List.map_set, toNat_succ (by omega), hbucket]
    rw [hset, sum_set_succ hlen, hbuckets]

/-- What the metrics show of a column. -/
def column (m : Metrics) : Column → UInt64
  | .counter c => m.get c
  | .timed => m.publishLatency.count

theorem column_access (a : Access) (x : State) (col : Column) :
    column (x.access a).2.metrics col =
      column x.metrics col + UInt64.ofNat (total a.postings col) := by
  have hzero (m : Metrics) : column m col = column m col + UInt64.ofNat 0 :=
    (UInt64.add_zero _).symm
  cases a with
  | count c n =>
    cases col with
    | counter d =>
      simp only [State.access, State.tally, column, Metrics.get_add, Access.postings, total_cons,
        total_nil, Column.counter.injEq, Nat.add_zero]
      split
      · rw [UInt64.ofNat_toNat]
      · exact (UInt64.add_zero _).symm
    | timed => exact hzero _
  | install list =>
    cases col with
    | counter d =>
      simp only [State.access, State.install, column, Metrics.get_add, Access.postings, total_cons,
        total_nil, Column.counter.injEq, Nat.add_zero]
      split
      · rfl
      · exact (UInt64.add_zero _).symm
    | timed => exact hzero _
  | observe t =>
    cases col with
    | counter d => exact hzero _
    | timed => rfl
  | _ => exact hzero _

theorem holding_access (a : Access) {x : State} {k : Nat}
    (h : Holding x.metrics.publishLatency k) (hk : k + total a.postings .timed < 2 ^ 64) :
    Holding (x.access a).2.metrics.publishLatency (k + total a.postings .timed) := by
  cases a with
  | observe t => exact h.observe hk t
  | _ => exact h

/-! ## Side by side -/

/-- How requests are served.  The world may answer anything, and anything but the metrics may
change while it does. -/
def service (s : Settings) : Rules errands Request Response State where
  dialogue := serve s
  mayBegin _ _ := True
  answers
    | x, .world _, _, x' => x'.metrics = x.metrics
    | x, .access step, a, x' => a = (x.access step).1 ∧ x' = (x.access step).2

/-- What all requests have posted. -/
def posted (p : Pool errands Request Response State) : List Posting :=
  p.courses.flatMap fun c => postings c.past

/-- The metrics show what was posted. -/
structure Shown (p : Pool errands Request Response State) : Prop where
  column_eq : ∀ col, column p.state.metrics col = UInt64.ofNat (total (posted p) col)
  holding : total (posted p) .timed < 2 ^ 64 →
    Holding p.state.metrics.publishLatency (total (posted p) .timed)

section Pool

variable {s : Settings} {p p' : Pool errands Request Response State}

/-- What is posted shows in the metrics, where they show what was posted before. -/
theorem Shown.more (h : Shown p) {l : List Posting}
    (htotal : ∀ col, total (posted p') col = total (posted p) col + total l col)
    (hcolumn : ∀ col, column p'.state.metrics col =
      column p.state.metrics col + UInt64.ofNat (total l col))
    (hholding : ∀ k, Holding p.state.metrics.publishLatency k → k + total l .timed < 2 ^ 64 →
      Holding p'.state.metrics.publishLatency (k + total l .timed)) : Shown p' where
  column_eq col := by rw [hcolumn, h.column_eq, htotal, UInt64.ofNat_add]
  holding hlt := by
    rw [htotal] at hlt ⊢
    exact hholding _ (h.holding (Nat.lt_of_le_of_lt (Nat.le_add_right _ _) hlt)) hlt

theorem Shown.congr (h : Shown p) (hposted : posted p' = posted p)
    (hmetrics : p'.state.metrics = p.state.metrics) : Shown p' where
  column_eq col := by rw [hmetrics, hposted, h.column_eq]
  holding hlt := by
    rw [hposted] at hlt ⊢
    rw [hmetrics]
    exact h.holding hlt

theorem Shown.step (h : Shown p) (hstep : Pool.Step (service s) p p') : Shown p' := by
  cases hstep with
  | begins _ => exact h.congr (by simp [posted]) rfl
  | abandoned => exact h.congr (by simp [posted]) rfl
  | @answered x x' before c after q next a _ hq ha =>
    cases q with
    | world w =>
      refine h.congr ?_ ha
      simp [posted, Course.told, Errand.postings]
    | access step =>
      obtain ⟨-, rfl⟩ := ha
      refine h.more (l := step.postings) (fun col => ?_) (fun col => column_access step x col)
        fun k hk hlt => holding_access step hk hlt
      simp only [posted, Course.told, List.flatMap_append, List.flatMap_cons, postings_append,
        postings_cons, postings_nil, Errand.postings, total_append, total_nil]
      omega

theorem shown_of_reachable {x : State} (hx : x.metrics = .zero)
    (h : Pool.Reachable (service s) ⟨x, []⟩ p) : Shown p := by
  induction h with
  | refl =>
    refine ⟨fun col => ?_, fun _ => ?_⟩
    · rw [hx]
      cases col with
      | counter c => exact Metrics.get_zero c
      | timed => rfl
    · rw [hx]
      exact holding_empty
  | tail _ hstep ih => exact ih.step hstep

theorem reconciled_posted (hsound : p.Sound (service s))
    (hdone : ∀ c ∈ p.courses, ∃ answer, c.rest = .done answer) :
    Reconciled (books (posted p)) := by
  have hone (c : Course errands Request Response) (hc : c ∈ p.courses) :
      Reconciled (books (postings c.past)) := by
    have hreaches := hsound c hc
    obtain ⟨answer, hrest⟩ := hdone c hc
    rw [hrest] at hreaches
    exact (serve_reconciled s c.origin).of_reaches hreaches
  unfold posted
  generalize p.courses = courses at hone
  induction courses with
  | nil => exact reconciled_zero
  | cons c courses ih =>
    rw [List.flatMap_cons, books_append]
    exact (hone c (.head courses)).add (ih fun d hd => hone d (.tail c hd))

end Pool

/-- When all requests that began have come to their end, and nothing that was counted passed what a
word holds, the counters agree with each other, and the buckets of the times hold as many as were
timed. -/
theorem counters_reconciled (s : Settings) {x : State} (hx : x.metrics = .zero)
    {p : Pool errands Request Response State} (h : Pool.Reachable (service s) ⟨x, []⟩ p)
    (hdone : ∀ c ∈ p.courses, ∃ answer, c.rest = .done answer)
    (hfits : ∀ col, total (posted p) col < 2 ^ 64) :
    Reconciled (fun col => (column p.state.metrics col).toNat) ∧
      (p.state.metrics.publishLatency.counts.toList.map UInt64.toNat).sum =
        p.state.metrics.publishLatency.count.toNat := by
  have hshown := shown_of_reachable hx h
  have hsound : p.Sound (service s) := Pool.Reachable.sound h fun c hc => by cases hc
  have hnumber (col : Column) :
      ((column p.state.metrics col).toNat : ℤ) = books (posted p) col := by
    rw [hshown.column_eq, UInt64.toNat_ofNat_of_lt' (hfits col)]
    rfl
  have hheld := hshown.holding (hfits .timed)
  refine ⟨?_, hheld.buckets_eq.trans hheld.count_eq.symm⟩
  rw [funext hnumber]
  exact reconciled_posted hsound hdone

/-! ## A batch that is denied, and one that uses its allowance up -/

/-- Settings with a quota authority that can be called. -/
def metering : Settings := { Settings.default with quota := Authority.loopback }

/-- A state in which nothing was counted, with a list that denies the source of an event. -/
def guarded : State := .initial (.ofRules [⟨"source:s", ⟨.epoch, ""⟩⟩]) 1 0

/-- A permit for two events, which uses the allowance up. -/
def lastPermit : Http.Reply :=
  ⟨200, Text.bytes
    "\x7b\"grantedCount\":2,\"ownerId\":\"owner\",\"justExhausted\":true\x7d"⟩

/-- A world that answers every call with this permit, and writes one record of each batch. -/
def sparing : (q : World) → world.Answer q
  | .call _ => some lastPermit
  | .connect _ _ => .ok ⟨0⟩
  | .lookUp _ => .ok ()
  | .produce _ _ _ => .written 1
  | q => secluded q

/-- The answers of a state in this world. -/
def sparingly : (q : Errand) → State → errands.Answer q × State
  | .world q, x => (sparing q, x)
  | .access step, x => x.access step

/-- A request that posts two events of another source. -/
def twoPosted : Request :=
  { onePosted with
    target := "/v1/events/batch"
    body := Text.bytes
      "\x7b\"events\":[[\"1\",\"1.0\",\"r\",\"t\"],[\"2\",\"1.0\",\"r\",\"t\"]]\x7d" }

/-- Both requests have begun. -/
def twoBegun : Pool errands Request Response State :=
  (Pool.begun (service metering) onePosted ⟨guarded, []⟩).begun (service metering) twoPosted

/-- Both have come to their end: while the second was under way, the first was served. -/
def twoServed : Pool errands Request Response State :=
  twoBegun.turn sparingly 1 6 |>.turn sparingly 0 40 |>.turn sparingly 1 40

/-- What that has posted.  One batch is denied.  For the other comes the last permit, so a notice
goes out before its events, of which the sink takes one, and the other one is given back. -/
def twoServedPostings : List Posting :=
  [(.counter .batchesReceived, 1), (.counter .eventsReceived, 1), (.counter .batchesDenied, 1),
    (.counter .batchesReceived, 1), (.counter .eventsReceived, 2), (.counter .permitsRequested, 1),
    (.counter .eventsForwarded, 1), (.counter .noticesSent, 1), (.counter .eventsForwarded, 1),
    (.counter .releases, 1), (.timed, 1)]

theorem twoServed_reachable : Pool.Reachable (service metering) ⟨guarded, []⟩ twoServed := by
  have hanswers (x : State) (q : Errand) :
      (service metering).answers x q (sparingly q x).1 (sparingly q x).2 := by
    cases q with
    | world q => exact rfl
    | access step => exact ⟨rfl, rfl⟩
  have hbegun : Pool.Reachable (service metering) ⟨guarded, []⟩ twoBegun :=
    (Pool.Reachable.begun .refl trivial).begun trivial
  exact .turn hanswers 1 40 (.turn hanswers 0 40 (.turn hanswers 1 6 hbegun))

theorem posted_twoServed : posted twoServed = twoServedPostings := by
  decide +kernel

/-- Three events came in two batches, one of which was denied, and so the counters show. -/
theorem counters_reconciled_twoServed :
    Pool.Reachable (service metering) ⟨guarded, []⟩ twoServed ∧
      posted twoServed = twoServedPostings ∧
      Reconciled (fun col => (column twoServed.state.metrics col).toNat) ∧
      (twoServed.state.metrics.publishLatency.counts.toList.map UInt64.toNat).sum =
        twoServed.state.metrics.publishLatency.count.toNat := by
  have hended : ∀ c ∈ twoServed.courses, c.rest.value?.isSome = true := by decide +kernel
  refine ⟨twoServed_reachable, posted_twoServed, ?_⟩
  refine counters_reconciled metering rfl twoServed_reachable (fun c hc => ?_) fun col => ?_
  · obtain ⟨answer, hanswer⟩ := Option.isSome_iff_exists.1 (hended c hc)
    exact ⟨answer, value?_eq_some.1 hanswer⟩
  · rw [posted_twoServed]
    cases col with
    | counter c => cases c <;> decide
    | timed => decide

end Sluice.Gateway
