import Sluice.Proofs.Throttle

/-!
# Checks that are refused

A refused check takes no token out.  All it does is to fill the bucket up to its own time
(`Checked.refilled`), and to stop on the way to a later time makes no difference
(`refill_refill`): what is added in two steps is added in one, and what runs over at the first stop
runs over at the end too.  So a later check comes to the same, down to the bucket it leaves, whether
or not there was a refused one before it (`check_refill`).

Two buckets are thus alike from a time on (`SameFrom`), and remain so if one of them refuses a check
that the other is not given (`SameFrom.refused`).  `SameFrom.of_omitting` carries this through a run
in which the readings do not go back, for any choice of refused checks that are not made.
`refused_unnoticed` says what callers see of that: nothing.
-/

namespace Sluice

/-! ## Items left out -/

/-- The list without its items at some places. -/
def omitting {α : Type} (out : Nat → Bool) : List α → List α
  | [] => []
  | x :: l =>
    if out 0 then omitting (fun i => out (i + 1)) l else x :: omitting (fun i => out (i + 1)) l

section Omitting

variable {α β : Type} {out : Nat → Bool}

theorem omitting_cons_of_out (h : out 0) (x : α) (l : List α) :
    omitting out (x :: l) = omitting (fun i => out (i + 1)) l := if_pos h

theorem omitting_cons_of_kept (h : ¬out 0) (x : α) (l : List α) :
    omitting out (x :: l) = x :: omitting (fun i => out (i + 1)) l := if_neg h

theorem omitting_zip (out : Nat → Bool) (l : List α) (m : List β) :
    omitting out (l.zip m) = (omitting out l).zip (omitting out m) := by
  induction l generalizing out m with
  | nil => rfl
  | cons x l ih =>
    cases m with
    | nil => simp [omitting]
    | cons y m =>
      rw [List.zip_cons_cons]
      by_cases h : out 0
      · rw [omitting_cons_of_out h, omitting_cons_of_out h, omitting_cons_of_out h, ih]
      · rw [omitting_cons_of_kept h, omitting_cons_of_kept h, omitting_cons_of_kept h, ih,
          List.zip_cons_cons]

/-- Items that are not looked for may be left out. -/
theorem filter_omitting {p : α → Bool} {l : List α}
    (h : ∀ i, out i → ∀ x, l[i]? = some x → ¬p x) : (omitting out l).filter p = l.filter p := by
  induction l generalizing out with
  | nil => rfl
  | cons x l ih =>
    have hrest : (omitting (fun i => out (i + 1)) l).filter p = l.filter p :=
      ih fun i hi => h (i + 1) hi
    by_cases hout : out 0
    · rw [omitting_cons_of_out hout, hrest, List.filter_cons_of_neg (h 0 hout x rfl)]
    · rw [omitting_cons_of_kept hout, List.filter_cons, List.filter_cons, hrest]

end Omitting

namespace Bucket

section Exact

variable {limit : RateLimit ℚ} {b c : Bucket ℚ} {now later t : Nat} {times : List Nat}
  {out : Nat → Bool}

/-! ## One check -/

/-- All that a refused check does is to fill the bucket up. -/
theorem Checked.refilled {w : Option UInt64} (h : Checked limit b now (.refused w) c) :
    c = b.refill limit now := by
  cases h with
  | refused _ => rw [refill_eq]

/-- What runs over at the first stop runs over at the end too. -/
theorem min_min_add {x y m : ℚ} (hy : 0 ≤ y) : min (min x m + y) m = min (x + y) m := by
  rw [← min_add_add_right, min_assoc, min_eq_right (le_add_of_nonneg_right hy)]

/-- To fill a bucket on the way to a later time makes no difference. -/
theorem refill_refill (hr : 0 < limit.rate) (h : now ≤ later) (b : Bucket ℚ) :
    (b.refill limit now).refill limit later = b.refill limit later := by
  have hlatest : max (max b.latest now) later = max b.latest later := by
    rw [Nat.max_assoc, Nat.max_eq_right h]
  have hmore := added_nonneg hr (max_le_max_left b.latest h)
  have hadd := added_add limit b.latest (max b.latest now) (max b.latest later)
  have hfound : found limit ⟨found limit b now, max b.latest now⟩ later = found limit b later := by
    rw [found, hlatest, found, found, ← hadd, ← add_assoc]
    exact min_min_add hmore
  rw [refill_eq, refill_eq, refill_eq, hfound, hlatest]

/-- So a check is the same after it. -/
theorem check_refill (hr : 0 < limit.rate) (h : now ≤ later) (b : Bucket ℚ) :
    (b.refill limit now).check limit later = b.check limit later := by
  unfold check
  rw [refill_refill hr h]

/-! ## Runs of checks -/

/-- From a time on, a check of either bucket comes to the same and leaves the same. -/
def SameFrom (limit : RateLimit ℚ) (now : Nat) (c b : Bucket ℚ) : Prop :=
  ∀ later, now ≤ later → c.check limit later = b.check limit later

theorem SameFrom.refl (limit : RateLimit ℚ) (now : Nat) (b : Bucket ℚ) : SameFrom limit now b b :=
  fun _ _ => rfl

/-- A bucket that was checked and refused is still like one that was not. -/
theorem SameFrom.refused (h : SameFrom limit now c b) (hr : 0 < limit.rate) (hnow : now ≤ t)
    {w : Option UInt64} (hv : (b.check limit t).1 = .refused w) :
    SameFrom limit t c (b.check limit t).2 := by
  have hchecked := check_checked limit b t
  rw [hv] at hchecked
  intro later hlater
  rw [hchecked.refilled, check_refill hr hlater]
  exact h later (hnow.trans hlater)

/-- The places are those of refused checks only. -/
def Refused (limit : RateLimit ℚ) (b : Bucket ℚ) (times : List Nat) (out : Nat → Bool) : Prop :=
  ∀ i, out i → (verdicts limit b times)[i]? ≠ some .admitted

theorem Refused.tail (h : Refused limit b (t :: times) out) :
    Refused limit (b.check limit t).2 times fun i => out (i + 1) :=
  fun i hi => h (i + 1) hi

theorem Refused.head (h : Refused limit b (t :: times) out) (hout : out 0) :
    ∃ w, (b.check limit t).1 = .refused w := by
  cases hv : (b.check limit t).1 with
  | admitted => exact absurd (congrArg some hv) (h 0 hout)
  | refused w => exact ⟨w, rfl⟩

/-- Of two buckets that are alike one is given all checks, the other all but some that the first one
refuses.  They give the same verdicts, and stay alike. -/
theorem SameFrom.of_omitting (h : SameFrom limit now c b) (hr : 0 < limit.rate)
    (hordered : (now :: times).Pairwise (· ≤ ·)) (hout : Refused limit b times out) :
    verdicts limit c (omitting out times) = omitting out (verdicts limit b times) ∧
      SameFrom limit (times.getLastD now) (after limit c (omitting out times))
        (after limit b times) := by
  induction times generalizing now c b out with
  | nil => exact ⟨rfl, h⟩
  | cons t times ih =>
    obtain ⟨hnow, hordered⟩ := List.pairwise_cons.1 hordered
    have hnow := hnow t List.mem_cons_self
    rw [verdicts_cons, after_cons, List.getLastD_cons]
    by_cases hzero : out 0
    · obtain ⟨w, hv⟩ := hout.head hzero
      rw [omitting_cons_of_out hzero, omitting_cons_of_out hzero]
      exact ih (h.refused hr hnow hv) hordered hout.tail
    · have hcheck := h t hnow
      obtain ⟨hverdicts, hafter⟩ := ih (.refl limit t (b.check limit t).2) hordered hout.tail
      rw [omitting_cons_of_kept hzero, omitting_cons_of_kept hzero, verdicts_cons, after_cons,
        hcheck, hverdicts]
      exact ⟨rfl, hafter⟩

/-- A bucket that is given all checks, and one that is spared some that are refused. -/
theorem sameFrom_omitting (hr : 0 < limit.rate) (hordered : times.Pairwise (· ≤ ·))
    (hout : Refused limit b times out) :
    verdicts limit b (omitting out times) = omitting out (verdicts limit b times) ∧
      SameFrom limit (times.getLastD 0) (after limit b (omitting out times))
        (after limit b times) :=
  (SameFrom.refl limit 0 b).of_omitting hr
    (List.pairwise_cons.2 ⟨fun _ _ => Nat.zero_le _, hordered⟩) hout

theorem admitted_omitting (hr : 0 < limit.rate) (hordered : times.Pairwise (· ≤ ·))
    (h : Refused limit b times out) :
    admitted limit b (omitting out times) = admitted limit b times := by
  unfold admitted
  rw [(sameFrom_omitting hr hordered h).1, ← omitting_zip, filter_omitting]
  intro i hi x hx
  have hv := (List.getElem?_zip_eq_some.1 hx).2
  simpa using fun heq : x.2 = .admitted => h i hi (heq ▸ hv)

end Exact

/-! ## What callers see -/

/-- Checks of a run may be left out, and nobody can tell by the others. -/
structure Unnoticed (limit : RateLimit ℚ) (start : Nat) (times : List Nat) (out : Nat → Bool) :
    Prop where
  /-- Every refusal tells a wait. -/
  told : ∀ v ∈ verdicts limit (full limit start) times, v ≠ .refused none
  /-- Every check that is left is admitted, or refused with the same advice, as it was. -/
  verdicts_eq : verdicts limit (full limit start) (omitting out times) =
    omitting out (verdicts limit (full limit start) times)
  /-- What is admitted is admitted at the same times. -/
  admitted_eq : admitted limit (full limit start) (omitting out times) =
    admitted limit (full limit start) times
  /-- The next check after all comes to the same, and leaves the same bucket. -/
  next : ∀ later, (∀ t ∈ times, t ≤ later) →
    (after limit (full limit start) (omitting out times)).check limit later =
      (after limit (full limit start) times).check limit later

/-- Any refused checks may be left out of a run in which the readings do not go back. -/
theorem refused_unnoticed (limit : RateLimit ℚ) (hr : 0 < limit.rate)
    (hwait : (TokenNumber.nanoseconds? (1 / limit.rate)).isSome) (start : Nat) (times : List Nat)
    (hordered : times.Pairwise (· ≤ ·)) (out : Nat → Bool)
    (hrefused : Refused limit (full limit start) times out) : Unnoticed limit start times out where
  told := told_of_mem_verdicts hr (filled_full limit start) hwait
  verdicts_eq := (sameFrom_omitting hr hordered hrefused).1
  admitted_eq := admitted_omitting hr hordered hrefused
  next later hlater := by
    refine (sameFrom_omitting hr hordered hrefused).2 later ?_
    obtain hlast | hlast := List.mem_cons.1 (List.getLastD_mem_cons (l := times) (a := 0))
    · rw [hlast]
      exact Nat.zero_le later
    · exact hlater _ hlast

/-- A bucket of two tokens that gains one in seven seconds. -/
def twoInFourteen : RateLimit ℚ := ⟨1 / 7, 2⟩

/-- Two checks in a row, three polls before the next token, that token, and one poll more. -/
def polls : List Nat := [0, 0, 1000000000, 2500000000, 6000000000, 7000000000, 9000000000]

/-- Without the first poll and the third the others are answered as they were. -/
theorem refused_unnoticed_polls :
    verdicts twoInFourteen (full twoInFourteen 0) polls =
        [.admitted, .admitted, .refused (some 6), .refused (some 5), .refused (some 1), .admitted,
          .refused (some 5)] ∧
      Unnoticed twoInFourteen 0 polls (fun i => i = 2 ∨ i = 4) ∧
      verdicts twoInFourteen (full twoInFourteen 0) [0, 0, 2500000000, 7000000000, 9000000000] =
        [.admitted, .admitted, .refused (some 5), .admitted, .refused (some 5)] := by
  have hrefused : Refused twoInFourteen (full twoInFourteen 0) polls fun i => i = 2 ∨ i = 4 := by
    intro i hi
    obtain rfl | rfl : i = 2 ∨ i = 4 := by simpa using hi
    all_goals decide +kernel
  have hunnoticed := refused_unnoticed twoInFourteen (by decide +kernel) (by decide +kernel) 0 polls
    (by decide) _ hrefused
  exact ⟨by decide +kernel, hunnoticed, hunnoticed.verdicts_eq.trans (by decide +kernel)⟩

/-- Where the readings go back a refused check may count: without the one at 59 seconds the advice
at 30 seconds is longer. -/
example : verdicts (.perMinute 1) (full (.perMinute 1 : RateLimit ℚ) 0)
      [0, 59000000000, 30000000000] = [.admitted, .refused (some 1), .refused (some 1)] ∧
    verdicts (.perMinute 1) (full (.perMinute 1 : RateLimit ℚ) 0) [0, 30000000000] =
      [.admitted, .refused (some 30)] := by
  decide +kernel

end Bucket

end Sluice
