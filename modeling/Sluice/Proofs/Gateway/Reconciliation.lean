import Sluice.Proofs.Gateway.Postings
import Sluice.Proofs.Gateway.Requests

/-!
# The books of a request

What an admission posts follows from the calls that it consists of (`Admitted.books`): it asks for a
permit, tells its owner or does not, forwards events or drops them, and gives back what is left.  A
batch that is not denied is admitted and timed, and a denied one is neither.  The books of every
request therefore agree with each other (`Reconciled`, `serve_reconciled`), whatever the authority
and the sink answer, and books that agree still do when they are added up.
-/

namespace Sluice.Gateway

open Dialogue

/-! ## Admissions -/

/-- What telling an owner posts. -/
structure NoticeBooks (n : Counter → Nat) : Prop where
  once : n .noticesSent + n .noticeErrors ≤ 1
  forwarded_le : n .eventsForwarded ≤ n .noticesSent
  other : ∀ c, c ≠ .noticesSent → c ≠ .noticeErrors → c ≠ .eventsForwarded → n c = 0

/-- What the release of units posts. -/
structure ReleaseBooks (n : Counter → Nat) : Prop where
  once : n .releases ≤ 1
  errors_le : n .releaseErrors ≤ n .releases
  other : ∀ c, c ≠ .releases → c ≠ .releaseErrors → n c = 0

/-- What the use of a permit for so many events posts. -/
structure UseBooks (n : Counter → Nat) (size : Nat) : Prop where
  once : n .releases + n .quotaExhausted ≤ 1
  errors_le : n .releaseErrors ≤ n .releases
  forwarded_le : n .eventsForwarded + n .eventsDropped ≤ size
  other : ∀ c, c ≠ .releases → c ≠ .releaseErrors → c ≠ .quotaExhausted → c ≠ .eventsForwarded →
    c ≠ .eventsDropped → n c = 0

/-- What an admission of so many events posts. -/
structure AdmissionBooks (n : Counter → Nat) (size : Nat) : Prop where
  permits : n .permitsRequested = 1
  releases_le : n .releases + n .permitErrors + n .quotaExhausted ≤ 1
  releaseErrors_le : n .releaseErrors ≤ n .releases
  notices_le : n .noticesSent + n .noticeErrors + n .permitErrors ≤ 1
  forwarded_le : n .eventsForwarded + n .eventsDropped ≤ size + n .noticesSent
  batchesReceived : n .batchesReceived = 0
  batchesDenied : n .batchesDenied = 0
  eventsReceived : n .eventsReceived = 0
  internal : n .internalEventsReceived = 0

theorem AdmissionBooks.congr {n m : Counter → Nat} {size : Nat} (h : AdmissionBooks m size)
    (hn : ∀ c, c ≠ .denyListReloads → n c = m c) : AdmissionBooks n size := by
  obtain ⟨h1, h2, h3, h4, h5, h6, h7, h8, h9⟩ := h
  constructor <;> simpa [hn]

theorem AdmissionBooks.of_parts {n notice use : Counter → Nat} {size : Nat}
    (hn : ∀ c, n c = (if c = .permitsRequested then 1 else 0) + notice c + use c)
    (hnotice : NoticeBooks notice) (huse : UseBooks use size) : AdmissionBooks n size := by
  obtain ⟨h1, h2, h3⟩ := hnotice
  obtain ⟨h4, h5, h6, h7⟩ := huse
  constructor <;> simp [hn, h3, h7] <;> omega

section Admitted

variable {who : Principal} {first : Event} {rest : List Event} {permit : Permit}
  {units : UInt32} {l : Transcript outside} {counts : List (Counter × UInt64)}
  {r : Except Fault UInt32}

theorem Notified.books {source : String} (h : Notified who permit source l counts) :
    NoticeBooks fun c => total (tallies counts) (.counter c) + total (charges l) (.counter c) := by
  cases h <;> constructor <;> simp +contextual [Outside.postings, eq_comm]

theorem Released.books (h : Released who permit units l) :
    ReleaseBooks fun c => total (charges l) (.counter c) := by
  cases h with
  | nothing _ => constructor <;> simp
  | @once x _ => cases x <;> constructor <;> simp +contextual [Outside.postings, eq_comm]

theorem total_uncovered_of_ne {c : Counter} (hc : c ≠ .eventsDropped) (permit : Permit)
    (events : List Event) : total (tallies (uncovered permit events)) (.counter c) = 0 := by
  unfold uncovered
  split
  · simp [hc.symm]
  · rfl

theorem total_uncovered_le (permit : Permit) (events : List Event) :
    total (tallies (uncovered permit events)) (.counter .eventsDropped) ≤
      events.length - permit.granted.toNat := by
  unfold uncovered
  split
  · simpa using Nat.mod_le _ _
  · exact Nat.zero_le _

/-- A permit for nothing is used by no event. -/
theorem exhausted_books (events : List Event) :
    UseBooks (fun c => total (tallies [(.quotaExhausted, 1),
      (.eventsDropped, (requestedCount events).toUInt64)]) (.counter c)) events.length := by
  have hdropped : (requestedCount events).toUInt64.toNat ≤ events.length := by
    rw [UInt32.toNat_toUInt64, toNat_requestedCount]
    exact Nat.min_le_left _ _
  constructor
  case forwarded_le => simpa using hdropped
  all_goals simp +contextual [eq_comm]

theorem total_forward_of_ne {c : Counter} (hc : c ≠ .eventsForwarded) (events : List Event)
    (x : Except Fault UInt32) :
    total ((Outside.forward .metered events).postings x) (.counter c) = 0 := by
  cases x with
  | error f => rfl
  | ok n => simp [Outside.postings, hc.symm]

theorem total_forward_le (events : List Event) (x : Except Fault UInt32) :
    total ((Outside.forward .metered events).postings x) (.counter .eventsForwarded) ≤
      events.length := by
  cases x with
  | error f => exact Nat.zero_le _
  | ok n => simp [Outside.postings]

/-- The events that a permit covers are forwarded, and the others dropped. -/
theorem Released.use_books (h : Released who permit units l) (events : List Event)
    (x : Except Fault UInt32) :
    UseBooks (fun c => total (tallies (uncovered permit events)) (.counter c) +
      (total ((Outside.forward .metered (events.take permit.granted.toNat)).postings x)
        (.counter c) + total (charges l) (.counter c))) events.length := by
  obtain ⟨honce, herrors, hother⟩ := h.books
  have hdropped := total_uncovered_le permit events
  have hforwarded := total_forward_le (events.take permit.granted.toNat) x
  have huncovered {c : Counter} (hc : c ≠ .eventsDropped) :=
    total_uncovered_of_ne hc permit events
  have hforward {c : Counter} (hc : c ≠ .eventsForwarded) :=
    total_forward_of_ne hc (events.take permit.granted.toNat) x
  rw [List.length_take] at hforwarded
  constructor
  case other =>
    intro c hreleases herrors hexhausted hforwarded hdropped
    rw [huncovered hdropped, hforward hforwarded, hother c hreleases herrors]
  all_goals simp only [huncovered, hforward, hother, ne_eq, reduceCtorEq, not_false_eq_true]
  all_goals omega

theorem total_allocate (n : UInt32) (permit : Permit) (c : Counter) :
    total ((Outside.allocate who subject n).postings (.ok permit)) (.counter c) =
      if c = .permitsRequested then 1 else 0 := by
  simp [Outside.postings, eq_comm]

theorem Admitted.books (h : Admitted who first rest l counts r) :
    AdmissionBooks (fun c => total (tallies counts) (.counter c) + total (charges l) (.counter c))
      (first :: rest).length := by
  cases h with
  | refused => constructor <;> simp [Outside.postings]
  | exhausted hn _ =>
    refine .of_parts (fun c => ?_) hn.books (exhausted_books (first :: rest))
    simp only [tallies_append, total_append, charges_cons, total_allocate]
    omega
  | @failed p notice noted f release hn _ hr =>
    refine .of_parts (fun c => ?_) hn.books (hr.use_books (first :: rest) (.error f))
    simp only [tallies_append, total_append, charges_cons, charges_append, total_allocate]
    omega
  | @acknowledged p notice noted n k release hn _ _ hr =>
    refine .of_parts (fun c => ?_) hn.books (hr.use_books (first :: rest) (.ok n))
    simp only [tallies_append, total_append, charges_cons, charges_append, total_allocate]
    omega

theorem admitBatch_books (who : Principal) (first : Event) (rest : List Event) :
    (admitBatch who (first :: rest)).Ends fun k _ =>
      AdmissionBooks (fun c => total (dues k) (.counter c)) (first :: rest).length ∧
        total (dues k) .timed = 0 := by
  have hbills := (admitBatch_asks who (first :: rest)).ends
  refine ((admitBatch_ends who first rest).and hbills).mono fun k r h => ?_
  obtain ⟨⟨hadmitted, -⟩, hk⟩ := h
  exact ⟨hadmitted.books.congr fun c hc => total_dues k hc, timed_of_bills hk⟩

end Admitted

/-! ## Reconciliation -/

/-- How the columns agree with each other. -/
structure Reconciled (n : Column → ℤ) : Prop where
  /-- A batch is denied, or it is timed. -/
  batches : n (.counter .batchesReceived) = n (.counter .batchesDenied) + n .timed
  /-- A permit is asked for each batch that is not denied. -/
  permits : n (.counter .permitsRequested) =
    n (.counter .batchesReceived) - n (.counter .batchesDenied)
  refusals_le : n (.counter .quotaExhausted) + n (.counter .permitErrors) ≤
    n (.counter .permitsRequested)
  /-- No more is released than permits were given. -/
  releases_le : n (.counter .releases) ≤ n (.counter .permitsRequested) -
    n (.counter .permitErrors) - n (.counter .quotaExhausted)
  releaseErrors_le : n (.counter .releaseErrors) ≤ n (.counter .releases)
  notices_le : n (.counter .noticesSent) + n (.counter .noticeErrors) ≤
    n (.counter .permitsRequested) - n (.counter .permitErrors)
  /-- No more events are forwarded than came in, were not dropped, or tell an owner. -/
  forwarded_le : n (.counter .eventsForwarded) ≤ n (.counter .eventsReceived) -
    n (.counter .eventsDropped) + n (.counter .internalEventsReceived) + n (.counter .noticesSent)

theorem reconciled_zero : Reconciled fun _ => 0 := by
  constructor <;> simp

theorem Reconciled.add {n m : Column → ℤ} (h : Reconciled n) (h' : Reconciled m) :
    Reconciled fun col => n col + m col := by
  obtain ⟨h1, h2, h3, h4, h5, h6, h7⟩ := h
  obtain ⟨k1, k2, k3, k4, k5, k6, k7⟩ := h'
  constructor <;> omega

/-- The books of postings. -/
def books (l : List Posting) (col : Column) : ℤ := total l col

theorem books_append (l m : List Posting) :
    books (l ++ m) = fun col => books l col + books m col := by
  funext col
  rw [books, total_append, Int.natCast_add]
  rfl

theorem Reconciled.within {l m : List Posting} (h : Reconciled (books m)) (hw : Within l m) :
    Reconciled (books l) := by
  obtain ⟨h1, h2, h3, h4, h5, h6, h7⟩ := h
  have hle := hw.forwarded_le
  have heq := hw.eq
  constructor <;>
    simp only [books, heq, ne_eq, Column.counter.injEq, reduceCtorEq, not_false_eq_true] at * <;>
    omega

/-! ### Requests -/

theorem publishAllowed_books (who : Principal) (start : Nat) (first : Event) (rest : List Event) :
    (publishAllowed who start (first :: rest)).Ends fun k _ =>
      AdmissionBooks (fun c => total (dues k) (.counter c)) (first :: rest).length ∧
        total (dues k) .timed = 1 := by
  simp only [publishAllowed, wallClock, clock, observe, ends_bind, ends_question, ends_pure,
    List.map_cons]
  intro now
  refine (admitBatch_books who _ _).mono fun k r h stop _ => ?_
  obtain ⟨hbooks, htimed⟩ := h
  have hsize : (stamp who now first :: rest.map (stamp who now)).length =
      (first :: rest).length := by simp
  refine ⟨hsize ▸ hbooks.congr fun c _ => ?_, ?_⟩
  · simp [due, Outside.postings, Access.postings]
  · simp [due, Outside.postings, Access.postings, htimed]

/-- The books of a batch that is not denied: it came with no fewer events than are admitted. -/
theorem Reconciled.of_admission {n : Column → Nat} {m : Counter → Nat} {size received : Nat}
    (cut : Nat) (h : AdmissionBooks m size) (hsize : size ≤ received) (htimed : n .timed = 1)
    (hn : ∀ c, n (.counter c) = (if c = .batchesReceived then 1 else 0) +
      (if c = .eventsReceived then received else 0) +
      (if c = .batchesTruncated then cut else 0) + m c) :
    Reconciled fun col => n col := by
  obtain ⟨h1, h2, h3, h4, h5, h6, h7, h8, h9⟩ := h
  constructor <;> simp [hn, htimed, h6, h7, h8, h9] <;> omega

theorem publish_reconciled (who : Principal) (first : Event) (rest : List Event)
    (hlen : (first :: rest).length ≤ Body.batchLimit) :
    (publish who (first :: rest)).Ends fun k _ => Reconciled (books (dues k)) := by
  have hcount : (countOf (first :: rest)).toNat = (first :: rest).length := by
    refine UInt64.toNat_ofNat_of_lt' ?_
    simp only [Body.batchLimit, UInt64.size] at hlen ⊢
    omega
  simp only [publish, clock, count, denyList, ends_bind, ends_question]
  intro start _ _ list
  by_cases h : list.cutoff (first :: rest) = 0
  · obtain ⟨hit, -, hf⟩ := DenyList.filter_of_cutoff_eq_zero h
    rw [hf]
    simp only [ends_bind, ends_question, ends_pure]
    intro _
    constructor <;> simp [books, due, Outside.postings, Access.postings]
  · obtain ⟨j, hj⟩ := Nat.exists_eq_succ_of_ne_zero h
    have htake : (first :: rest).take (list.cutoff (first :: rest)) = first :: rest.take j := by
      rw [hj, List.take_succ_cons]
    have hsize : (first :: rest.take j).length ≤ (first :: rest).length := by
      rw [← htake]
      exact List.length_take_le' _ _
    have hall := publishAllowed_books who start first (rest.take j)
    -- The batch is taken whole, or it is cut before an event that is denied, and this is counted.
    obtain hf | ⟨hit, hf⟩ := DenyList.filter_of_cutoff_ne_zero h
    · rw [hf, htake]
      refine hall.mono fun k r hk => ?_
      obtain ⟨hbooks, htimed⟩ := hk
      refine .of_admission 0 hbooks hsize ?_ fun c => ?_
      · simp [due, Outside.postings, Access.postings, htimed]
      · simp [due, Outside.postings, Access.postings, hcount, eq_comm]
        omega
    · rw [hf, htake]
      simp only [ends_bind, ends_question]
      intro _
      refine hall.mono fun k r hk => ?_
      obtain ⟨hbooks, htimed⟩ := hk
      refine .of_admission 1 hbooks hsize ?_ fun c => ?_
      · simp [due, Outside.postings, Access.postings, htimed]
      · simp [due, Outside.postings, Access.postings, hcount, eq_comm]
        omega

theorem publishInternalBody_reconciled (s : InternalSettings) (who : Principal)
    (body : List UInt8) :
    (publishInternalBody s who body).Ends fun k _ => Reconciled (books (dues k)) := by
  simp only [publishInternalBody, clock, token, ends_bind, ends_question]
  intro time verdict
  cases verdict with
  | refused wait =>
    simp only [count, ends_bind, ends_question, ends_pure]
    intro _
    constructor <;> simp [books, due, Outside.postings, Access.postings]
  | admitted =>
    dsimp only
    cases eventOf body with
    | error f =>
      rw [ends_pure]
      constructor <;> simp [books, due, Outside.postings, Access.postings]
    | ok e =>
      simp only [publishInternal, count, wallClock, forward, ends_bind, ends_question, ends_pure]
      intro _ now x
      cases x <;> constructor <;> simp [books, due, Outside.postings, Access.postings]

theorem dues_of_reads {k : Transcript protocol} (h : ∀ x ∈ k, x.question.Reads) : dues k = [] := by
  refine List.flatMap_eq_nil_iff.2 fun x hx => ?_
  have hreads := h x hx
  obtain ⟨q | a, y⟩ := x
  · cases q <;> first | rfl | exact absurd hreads id
  · cases a <;> first | rfl | exact absurd hreads id

theorem handle_reconciled (s : InternalSettings) (r : Request) :
    (handle s r).Ends fun k _ => Reconciled (books (dues k)) := by
  refine handle_ends_of (fun k hk => ?_) (fun who events hholds => ?_) fun who _ _ _ =>
    publishInternalBody_reconciled s who r.body
  · rw [dues_of_reads hk]
    exact reconciled_zero
  · obtain ⟨first, rest, rfl, hlen⟩ := hholds.exists_cons
    exact publish_reconciled who first rest hlen

theorem serve_reconciled (s : Settings) (r : Request) :
    (serve s r : Task Response).Ends fun l _ => Reconciled (books (postings l)) := by
  refine ((handle_reconciled s.internal r).run (requestAnswer s)).mono fun l x h => ?_
  obtain ⟨k, hk, hbooks⟩ := h
  exact hbooks.within (answered_within hk)

end Sluice.Gateway
