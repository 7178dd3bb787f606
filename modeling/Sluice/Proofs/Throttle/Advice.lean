import Sluice.Proofs.Throttle

/-!
# The wait that a refusal advises

A bucket for so many requests in a minute holds one token, so every admission leaves it empty, and
all that counts from then on is the time since (`Emptied`).  It admits again as soon as the number
of requests times that time makes a minute (`Emptied.verdict_eq`).

What is missing at a refusal is rounded to the nearest nanosecond before it is brought to whole
seconds.  A wait that is rounded up is long enough, and one more nanosecond always is
(`enough_one`).  A wait that is rounded down is too short where nothing is gained by the whole
seconds; `enough_iff` says for which numbers of requests that can come about.  Seven is the
least of them.
-/

namespace Sluice

/-! ## Rounding -/

theorem roundDiv_eq_of_mul_eq {a b c d : Nat} (hb : 0 < b) (hd : 0 < d) (h : a * d = c * b) :
    roundDiv a b = roundDiv c d :=
  Nat.le_antisymm (roundDiv_mono hb hd h.le) (roundDiv_mono hd hb h.ge)

/-- What is rounded down falls short by less than one. -/
theorem le_mul_roundDiv_succ {a b : Nat} (hb : 0 < b) : a ≤ b * (roundDiv a b + 1) := by
  have hquotient : a / b ≤ roundDiv a b := by
    unfold roundDiv
    dsimp only
    split <;> omega
  calc a ≤ b * (a / b + 1) := (Nat.lt_mul_div_succ a hb).le
    _ ≤ b * (roundDiv a b + 1) := Nat.mul_le_mul_left b (Nat.succ_le_succ hquotient)

/-- Nothing is missing where nothing, or more than half, is left over. -/
theorem le_mul_roundDiv {a b : Nat} (hb : 0 < b) (h : a % b = 0 ∨ b < 2 * (a % b)) :
    a ≤ b * roundDiv a b := by
  obtain h | h := h
  · have hround : roundDiv a b = a / b := by
      unfold roundDiv
      rw [h]
      exact if_pos (.inl hb)
    rw [hround, Nat.mul_div_cancel' (Nat.dvd_of_mod_eq_zero h)]
  · have hround : roundDiv a b = a / b + 1 := if_neg (by omega)
    rw [hround]
    exact (Nat.lt_mul_div_succ a hb).le

/-- What is left over is dropped where it is no more than half and the quotient is even. -/
theorem roundDiv_eq_div {a b : Nat} (h : 2 * (a % b) ≤ b) (heven : a / b % 2 = 0) :
    roundDiv a b = a / b :=
  if_pos (by omega)

theorem le_max_ceil_mul {k m : Nat} (hm : 0 < m) : k ≤ max ((k + (m - 1)) / m) 1 * m := by
  have hdiv := Nat.div_add_mod (k + (m - 1)) m
  have hmod := Nat.mod_lt (k + (m - 1)) hm
  have hmax := Nat.mul_le_mul_left m (Nat.le_max_left ((k + (m - 1)) / m) 1)
  rw [Nat.mul_comm m (max _ 1)] at hmax
  omega

theorem exactNanoseconds?_div {d n : Nat} (hn : 0 < n)
    (h : roundDiv d n < 2 ^ 64 * nanosPerSecond) :
    exactNanoseconds? ((d : ℚ) / (n * nanosPerSecond)) = some (roundDiv d n) := by
  have hden : (0 : ℚ) < n * nanosPerSecond := by
    have hn' : (0 : ℚ) < n := Nat.cast_pos.2 hn
    positivity
  generalize hx : (d : ℚ) / (n * nanosPerSecond) = x
  have hnonneg : 0 ≤ x := hx ▸ div_nonneg (Nat.cast_nonneg d) hden.le
  have hcross : x.num.toNat * (n * nanosPerSecond) = d * x.den := by
    have hnum : ((x.num.toNat : Nat) : ℚ) = x.num := by
      exact_mod_cast Int.toNat_of_nonneg (Rat.num_nonneg.2 hnonneg)
    have hxd : x * (n * nanosPerSecond) = d := by rw [← hx, div_mul_cancel₀ _ hden.ne']
    have hxn : (x.num : ℚ) = x * x.den := (Rat.mul_den_eq_num x).symm
    have hq : (x.num.toNat : ℚ) * (n * nanosPerSecond) = d * x.den := by
      rw [hnum, hxn, ← hxd]
      ring
    exact_mod_cast hq
  -- The fraction is rounded in lowest terms, which is no other number.
  have hround : roundDiv (x.num.toNat * nanosPerSecond) x.den = roundDiv d n := by
    refine roundDiv_eq_of_mul_eq x.den_pos hn ?_
    rw [← hcross]
    ring
  unfold exactNanoseconds?
  rw [if_neg (not_lt.2 hnonneg)]
  dsimp only
  rw [hround, if_pos h]

namespace Bucket

/-! ## The time since it was emptied -/

/-- The requests in a minute. -/
abbrev perMinuteCount (n : UInt32) : Nat := (max n 1).toNat

/-- The nanoseconds of a minute. -/
abbrev minute : Nat := 60 * nanosPerSecond

theorem perMinuteCount_pos (n : UInt32) : 0 < perMinuteCount n := by
  rw [perMinuteCount, UInt32.toNat_max]
  exact lt_max_of_lt_right Nat.one_pos

section Exact

variable {n : UInt32} {b : Bucket ℚ} {s t now : Nat}

theorem rate_eq_div : (RateLimit.perMinute n : RateLimit ℚ).rate = (perMinuteCount n : ℚ) / 60 :=
  rfl

theorem added_eq_div (h : s ≤ t) :
    added (.perMinute n) s t = ((perMinuteCount n * (t - s) : Nat) : ℚ) / minute := by
  rw [added, rate_eq_div, Nat.cast_mul, Nat.cast_sub h, Nat.cast_mul]
  field_simp
  ring

theorem one_le_added_iff (h : s ≤ t) :
    1 ≤ added (.perMinute n) s t ↔ minute ≤ perMinuteCount n * (t - s) := by
  have hminute : (0 : ℚ) < minute := by norm_num
  rw [added_eq_div h, one_le_div hminute, Nat.cast_le]

/-- A token was taken out at a time, and there has been none since. -/
structure Emptied (n : UInt32) (s : Nat) (b : Bucket ℚ) : Prop where
  le : s ≤ b.latest
  tokens : b.tokens = added (.perMinute n) s b.latest
  lt_one : b.tokens < 1

theorem Emptied.found_eq (h : Emptied n s b) (now : Nat) :
    found (.perMinute n) b now = min (added (.perMinute n) s (max b.latest now)) 1 := by
  have hburst : ((RateLimit.perMinute n : RateLimit ℚ).burst.toNat : ℚ) = 1 := Nat.cast_one
  rw [found, h.tokens, added_add, hburst]

/-! ## The advice -/

/-- The whole seconds of some nanoseconds, at least one. -/
def secondsOf (k : Nat) : UInt64 := max (TokenNumber.ceiling (TokenNumber.seconds k : ℚ)) 1

/-- The advice when so much of a minute is missing. -/
def waitFor (n : UInt32) (missing : Nat) : UInt64 :=
  secondsOf (roundDiv missing (perMinuteCount n))

theorem secondsOf_toNat {k : Nat} (h : k ≤ minute) :
    (secondsOf k).toNat = max ((k + (nanosPerSecond - 1)) / nanosPerSecond) 1 := by
  have hceil : ⌈((k : ℚ) / nanosPerSecond)⌉₊ = (k + (nanosPerSecond - 1)) / nanosPerSecond := by
    refine eq_of_forall_ge_iff fun m => ?_
    have hpos : (0 : ℚ) < nanosPerSecond := by norm_num
    rw [Nat.ceil_le, div_le_iff₀ hpos, ← Nat.cast_mul, Nat.cast_le]
    simp only [nanosPerSecond]
    omega
  have hceiling : TokenNumber.ceiling (TokenNumber.seconds k : ℚ) =
      UInt64.ofNat (min ((k + (nanosPerSecond - 1)) / nanosPerSecond) (UInt64.size - 1)) :=
    hceil ▸ rfl
  simp only [minute, nanosPerSecond, UInt64.size] at h hceiling ⊢
  rw [secondsOf, hceiling, UInt64.toNat_max, UInt64.toNat_ofNat_of_lt' (by
    simp only [UInt64.size]
    omega), Nat.min_eq_left (by omega)]
  rfl

theorem roundDiv_le_minute {d : Nat} (hd : d ≤ minute) :
    roundDiv d (perMinuteCount n) ≤ minute := by
  have hround : roundDiv minute 1 = minute := rfl
  rw [← hround]
  refine roundDiv_mono (perMinuteCount_pos n) Nat.one_pos ?_
  calc d * 1 ≤ minute * 1 := Nat.mul_le_mul_right 1 hd
    _ ≤ minute * perMinuteCount n := Nat.mul_le_mul_left minute (perMinuteCount_pos n)

theorem advice_eq {d : Nat} (hd : d ≤ minute) :
    advice ((d : ℚ) / (perMinuteCount n * nanosPerSecond)) = some (waitFor n d) := by
  have hround := roundDiv_le_minute (n := n) hd
  have htold := exactNanoseconds?_div (perMinuteCount_pos n) (d := d) (by
    simp only [minute, nanosPerSecond] at hround ⊢
    omega)
  unfold advice
  rw [show TokenNumber.nanoseconds? _ = _ from htold]
  rfl

/-- The advice is between one second and a minute. -/
theorem waitFor_bounds {d : Nat} (hd : d ≤ minute) :
    1 ≤ (waitFor n d).toNat ∧ (waitFor n d).toNat ≤ 60 := by
  have hround := roundDiv_le_minute (n := n) hd
  rw [waitFor, secondsOf_toNat hround]
  simp only [minute, nanosPerSecond] at hround ⊢
  omega

/-- The advice is no shorter than the nanoseconds that it is made from. -/
theorem le_waitFor {d : Nat} (hd : d ≤ minute) :
    roundDiv d (perMinuteCount n) ≤ (waitFor n d).toNat * nanosPerSecond := by
  have hround := roundDiv_le_minute (n := n) hd
  rw [waitFor, secondsOf_toNat hround]
  exact le_max_ceil_mul (by decide)

/-! ## From check to check -/

/-- What a check of an emptied bucket comes to. -/
theorem Emptied.verdict_eq (h : Emptied n s b) (now : Nat) :
    (b.check (.perMinute n) now).1 =
      if minute ≤ perMinuteCount n * (max b.latest now - s) then .admitted
      else .refused (some (waitFor n (minute - perMinuteCount n * (max b.latest now - s)))) := by
  have hchecked := check_checked (.perMinute n) b now
  have hfound := h.found_eq now
  have hst : s ≤ max b.latest now := h.le.trans (Nat.le_max_left _ _)
  generalize max b.latest now = t at hfound hst ⊢
  generalize b.check (.perMinute n) now = x at hchecked
  obtain ⟨v, b'⟩ := x
  cases hchecked with
  | admitted hone =>
    rw [hfound] at hone
    exact (if_pos ((one_le_added_iff hst).1 (le_min_iff.1 hone).1)).symm
  | refused hlt =>
    have hlt' : added (.perMinute n) s t < 1 := by
      by_contra hle
      rw [hfound] at hlt
      exact absurd hlt (not_lt.2 (le_min (not_lt.1 hle) le_rfl))
    have hmissing : ¬ minute ≤ perMinuteCount n * (t - s) := fun hle =>
      absurd ((one_le_added_iff hst).2 hle) (not_le.2 hlt')
    rw [min_eq_left hlt'.le, added_eq_div hst] at hfound
    have hwait : (1 - found (.perMinute n) b now) / (RateLimit.perMinute n : RateLimit ℚ).rate =
        ((minute - perMinuteCount n * (t - s) : Nat) : ℚ) /
          (perMinuteCount n * nanosPerSecond) := by
      have hn : (perMinuteCount n : ℚ) ≠ 0 := Nat.cast_ne_zero.2 (perMinuteCount_pos n).ne'
      rw [hfound, rate_eq_div, Nat.cast_sub (Nat.le_of_not_le hmissing)]
      generalize ((perMinuteCount n * (t - s) : Nat) : ℚ) = x
      rw [show ((minute : Nat) : ℚ) = 60 * nanosPerSecond from Nat.cast_mul _ _]
      field_simp
    rw [if_neg hmissing, hwait, advice_eq (Nat.sub_le _ _)]

/-- A check that is refused leaves an emptied bucket as it was. -/
theorem Emptied.refused (h : Emptied n s b) {w : Option UInt64}
    (hv : (b.check (.perMinute n) now).1 = .refused w) :
    Emptied n s (b.check (.perMinute n) now).2 := by
  have hchecked := check_checked (.perMinute n) b now
  have hfound := h.found_eq now
  generalize b.check (.perMinute n) now = x at hchecked hv ⊢
  obtain ⟨v, b'⟩ := x
  cases hchecked with
  | admitted hone => cases hv
  | refused hlt =>
    refine ⟨h.le.trans (Nat.le_max_left _ _), ?_, hlt⟩
    obtain hmin | hmin := min_choice (added (.perMinute n) s (max b.latest now)) 1
    · exact hfound.trans hmin
    · exact absurd hlt (not_lt.2 (hfound.trans hmin).ge)

/-- A check that is admitted empties the bucket. -/
theorem emptied_of_admitted (hv : (b.check (.perMinute n) now).1 = .admitted) :
    Emptied n (max b.latest now) (b.check (.perMinute n) now).2 := by
  have hchecked := check_checked (.perMinute n) b now
  have hburst : found (.perMinute n) b now ≤ 1 :=
    (found_le_burst _ b now).trans_eq Nat.cast_one
  generalize b.check (.perMinute n) now = x at hchecked hv ⊢
  obtain ⟨v, b'⟩ := x
  cases hchecked with
  | refused hlt => cases hv
  | admitted hone =>
    have hzero : found (.perMinute n) b now - 1 = 0 := sub_eq_zero.2 (le_antisymm hburst hone)
    refine ⟨Nat.le_refl _, ?_, ?_⟩
    · rw [added_self]
      exact hzero
    · exact hzero.trans_lt zero_lt_one

theorem admitted_of_full (h : b.tokens = 1) (now : Nat) :
    (b.check (.perMinute n) now).1 = .admitted := by
  have hchecked := check_checked (.perMinute n) b now
  have hone : 1 ≤ found (.perMinute n) b now := by
    refine le_min ?_ (le_of_eq Nat.cast_one.symm)
    rw [h]
    exact le_add_of_nonneg_right (added_nonneg (rate_perMinute_pos n) (Nat.le_max_left _ _))
  generalize b.check (.perMinute n) now = x at hchecked ⊢
  obtain ⟨v, b'⟩ := x
  cases hchecked with
  | refused hlt => exact absurd hone (not_le.2 hlt)
  | admitted _ => rfl

/-- Before its first check a bucket is full, and after that it was emptied at some time. -/
inductive Reached (n : UInt32) (b : Bucket ℚ) : Prop where
  | full : b.tokens = 1 → Reached n b
  | emptied {time : Nat} : Emptied n time b → Reached n b

theorem Reached.check (h : Reached n b) (now : Nat) :
    Reached n (b.check (.perMinute n) now).2 := by
  cases hv : (b.check (.perMinute n) now).1 with
  | admitted => exact .emptied (emptied_of_admitted hv)
  | refused w =>
    cases h with
    | full hfull => exact absurd (hv.symm.trans (admitted_of_full hfull now)) (by simp)
    | emptied he => exact .emptied (he.refused hv)

theorem Reached.after (h : Reached n b) (times : List Nat) :
    Reached n (after (.perMinute n) b times) := by
  induction times generalizing b with
  | nil => exact h
  | cons now times ih => exact ih (h.check now)

theorem reached_full (n : UInt32) (start : Nat) :
    Reached n (full (.perMinute n : RateLimit ℚ) start) :=
  .full Nat.cast_one

/-- A check is admitted, or advised a whole number of seconds up to a minute. -/
theorem Reached.told (h : Reached n b) (now : Nat) :
    (b.check (.perMinute n) now).1 = .admitted ∨
      ∃ w, (b.check (.perMinute n) now).1 = .refused (some w) ∧ 1 ≤ w ∧ w ≤ 60 := by
  cases h with
  | full hfull => exact .inl (admitted_of_full hfull now)
  | emptied he =>
    rw [he.verdict_eq]
    split
    · exact .inl rfl
    · obtain ⟨hone, hsixty⟩ := waitFor_bounds (n := n) (Nat.sub_le minute _)
      exact .inr ⟨_, rfl, UInt64.le_iff_toNat_le.2 hone, UInt64.le_iff_toNat_le.2 hsixty⟩

theorem Reached.told_of_mem (h : Reached n b) {times : List Nat} {v : Verdict}
    (hv : v ∈ verdicts (.perMinute n) b times) :
    v = .admitted ∨ ∃ w, v = .refused (some w) ∧ 1 ≤ w ∧ w ≤ 60 := by
  induction times generalizing b with
  | nil => cases hv
  | cons now times ih =>
    obtain rfl | hv := List.mem_cons.1 hv
    · exact h.told now
    · exact ih (h.check now) hv

/-- After a refusal the first check that is admitted is one by which a minute is made up. -/
theorem Emptied.admitted_iff (h : Emptied n s b) {w : Option UInt64}
    (hv : (b.check (.perMinute n) now).1 = .refused w) {later : Nat}
    (hlater : max b.latest now ≤ later) :
    ((b.check (.perMinute n) now).2.check (.perMinute n) later).1 = .admitted ↔
      minute ≤ perMinuteCount n * (later - s) := by
  rw [(h.refused hv).verdict_eq, latest_check, Nat.max_eq_right hlater]
  split <;> simp_all

/-- What a refusal advises by: how much of a minute is missing. -/
theorem Reached.missing (h : Reached n b) (hnow : b.latest ≤ now) {w : Option UInt64}
    (hv : (b.check (.perMinute n) now).1 = .refused w) :
    ∃ d ≤ minute, d % perMinuteCount n = minute % perMinuteCount n ∧ w = some (waitFor n d) ∧
      ∀ later ≥ now, d ≤ perMinuteCount n * (later - now) →
        ((b.check (.perMinute n) now).2.check (.perMinute n) later).1 = .admitted := by
  cases h with
  | full hfull => exact absurd (hv.symm.trans (admitted_of_full hfull now)) (by simp)
  | @emptied s he =>
    have hverdict := he.verdict_eq now
    have hsnow : s ≤ now := he.le.trans hnow
    rw [Nat.max_eq_right hnow, hv] at hverdict
    split at hverdict
    · cases hverdict
    · rename_i hmissing
      refine ⟨minute - perMinuteCount n * (now - s), Nat.sub_le _ _, ?_, ?_,
        fun later hlater hd => ?_⟩
      · exact Nat.sub_mul_mod (Nat.le_of_not_le hmissing)
      · exact Verdict.refused.inj hverdict
      · refine (he.admitted_iff hv (Nat.max_le.2 ⟨hnow.trans hlater, hlater⟩)).2 ?_
        have hsplit : later - s = later - now + (now - s) := by omega
        rw [hsplit, Nat.mul_add]
        omega

end Exact

/-! ## Whether the wait is enough -/

/-- However a bucket was used, a check that comes so many nanoseconds after the wait that a refusal
advised is admitted, if no other comes in between. -/
def Enough (n : UInt32) (extra : Nat) : Prop :=
  ∀ start times now later w, (start :: (times ++ [now, later])).Pairwise (· ≤ ·) →
    ((after (.perMinute n) (full (.perMinute n : RateLimit ℚ) start) times).check
      (.perMinute n) now).1 = .refused (some w) →
    now + w.toNat * nanosPerSecond + extra ≤ later →
    ((after (.perMinute n) (full (.perMinute n : RateLimit ℚ) start) (times ++ [now])).check
      (.perMinute n) later).1 = .admitted

theorem latest_after_le {limit : RateLimit ℚ} {b : Bucket ℚ} {times : List Nat} {now : Nat}
    (h : b.latest ≤ now) (htimes : ∀ t ∈ times, t ≤ now) : (after limit b times).latest ≤ now := by
  induction times generalizing b with
  | nil => exact h
  | cons t times ih =>
    refine ih ?_ fun u hu => htimes u (.tail _ hu)
    rw [latest_check]
    exact Nat.max_le.2 ⟨h, htimes t (.head _)⟩

/-- The wait is long enough if it makes up what is missing. -/
theorem enough_of_le {n : UInt32} {extra : Nat}
    (h : ∀ d ≤ minute, d % perMinuteCount n = minute % perMinuteCount n →
      d ≤ perMinuteCount n * ((waitFor n d).toNat * nanosPerSecond + extra)) : Enough n extra := by
  intro start times now later w hordered hv hlater
  have hreached := (reached_full n start).after times
  have hlatest : (after (.perMinute n) (full (.perMinute n : RateLimit ℚ) start) times).latest ≤
      now := by
    obtain ⟨hstart, htimes⟩ := List.pairwise_cons.1 hordered
    refine latest_after_le (hstart now (by simp)) fun t ht => ?_
    exact (List.pairwise_append.1 htimes).2.2 t ht now (.head _)
  have hnow : now ≤ later := by omega
  obtain ⟨d, hd, hmod, hw, hadmitted⟩ := hreached.missing hlatest hv
  obtain rfl := Option.some.inj hw
  rw [after_append]
  refine hadmitted later hnow ((h d hd hmod).trans (Nat.mul_le_mul_left _ ?_))
  omega

theorem enough_one (n : UInt32) : Enough n 1 := by
  refine enough_of_le fun d hd _ => (le_mul_roundDiv_succ (perMinuteCount_pos n)).trans ?_
  exact Nat.mul_le_mul_left _ (Nat.succ_le_succ (le_waitFor hd))

/-- A bucket that was emptied at the start. -/
theorem emptied_at_start (n : UInt32) :
    Emptied n 0 (after (.perMinute n) (full (.perMinute n : RateLimit ℚ) 0) [0]) := by
  have hfull : (full (.perMinute n : RateLimit ℚ) 0).tokens = 1 := Nat.cast_one
  exact emptied_of_admitted (admitted_of_full hfull 0)

/-- A wait of one second, after which something is still missing. -/
theorem not_enough {n : UInt32} (hfew : perMinuteCount n < 60)
    (hleft : minute % perMinuteCount n ≠ 0)
    (hhalf : 2 * (minute % perMinuteCount n) ≤ perMinuteCount n) : ¬ Enough n 0 := by
  intro henough
  have hpos := perMinuteCount_pos n
  have hminute := Nat.div_add_mod minute (perMinuteCount n)
  have hle : nanosPerSecond ≤ minute / perMinuteCount n := by
    rw [Nat.le_div_iff_mul_le hpos, Nat.mul_comm]
    exact Nat.mul_le_mul_right _ hfew.le
  -- The check comes one second before the whole nanoseconds from one token to the next are over.
  generalize hq : minute / perMinuteCount n = q at hminute hle
  have hsum : perMinuteCount n * (q - nanosPerSecond) + perMinuteCount n * nanosPerSecond =
      perMinuteCount n * q := by
    rw [← Nat.mul_add, Nat.sub_add_cancel hle]
  have hempty := emptied_at_start n
  have hlatest : (after (.perMinute n) (full (.perMinute n : RateLimit ℚ) 0) [0]).latest = 0 :=
    latest_after [0]
  have hwait : waitFor n (minute - perMinuteCount n * (q - nanosPerSecond)) = 1 := by
    have hmod : (minute % perMinuteCount n + perMinuteCount n * nanosPerSecond) %
        perMinuteCount n = minute % perMinuteCount n := by
      rw [Nat.add_mul_mod_self_left, Nat.mod_mod]
    have hdiv : (minute % perMinuteCount n + perMinuteCount n * nanosPerSecond) /
        perMinuteCount n = nanosPerSecond := by
      rw [Nat.add_mul_div_left _ _ hpos, Nat.div_eq_of_lt (Nat.mod_lt _ hpos), Nat.zero_add]
    have hmissing : minute - perMinuteCount n * (q - nanosPerSecond) =
        minute % perMinuteCount n + perMinuteCount n * nanosPerSecond := by
      omega
    rw [hmissing, waitFor, roundDiv_eq_div (hmod.symm ▸ hhalf) (by rw [hdiv]; decide), hdiv]
    decide +kernel
  have hverdict := hempty.verdict_eq (q - nanosPerSecond)
  rw [hlatest, Nat.zero_max, Nat.sub_zero, if_neg (by omega), hwait] at hverdict
  have hadmitted := henough 0 [0] (q - nanosPerSecond) q 1 (by simp) hverdict (by
    rw [UInt64.toNat_one]
    omega)
  rw [after_append] at hadmitted
  have hmade := (hempty.admitted_iff hverdict (by rw [hlatest]; omega)).1 hadmitted
  rw [Nat.sub_zero] at hmade
  omega

theorem enough_iff (n : UInt32) : Enough n 0 ↔ 60 ≤ perMinuteCount n ∨
    minute % perMinuteCount n = 0 ∨ perMinuteCount n < 2 * (minute % perMinuteCount n) := by
  constructor
  · intro henough
    by_contra hcases
    simp only [not_or, not_le, not_lt] at hcases
    exact not_enough hcases.1 hcases.2.1 hcases.2.2 henough
  · intro hcases
    refine enough_of_le fun d hd hmod => ?_
    rw [Nat.add_zero]
    obtain hmany | hround := hcases
    · have hone := (waitFor_bounds (n := n) hd).1
      calc d ≤ minute := hd
        _ ≤ perMinuteCount n * nanosPerSecond := Nat.mul_le_mul_right nanosPerSecond hmany
        _ ≤ perMinuteCount n * ((waitFor n d).toNat * nanosPerSecond) :=
          Nat.mul_le_mul_left (perMinuteCount n) (Nat.le_mul_of_pos_left nanosPerSecond hone)
    · rw [← hmod] at hround
      exact (le_mul_roundDiv (perMinuteCount_pos n) hround).trans
        (Nat.mul_le_mul_left (perMinuteCount n) (le_waitFor hd))

/-- A bucket for so many requests in a minute advises between one second and a minute at every
refusal, and one nanosecond more is always enough.  The advice itself always is if and only if there
are sixty requests or more, or what they leave over of a minute is nothing or more than half of
them. -/
theorem advised_wait (n : UInt32) :
    (∀ start times, ∀ v ∈ verdicts (.perMinute n) (full (.perMinute n : RateLimit ℚ) start) times,
        v = .admitted ∨ ∃ w, v = .refused (some w) ∧ 1 ≤ w ∧ w ≤ 60) ∧
      Enough n 1 ∧
      (Enough n 0 ↔ 60 ≤ perMinuteCount n ∨
        minute % perMinuteCount n = 0 ∨ perMinuteCount n < 2 * (minute % perMinuteCount n)) :=
  ⟨fun start _ _ hv => (reached_full n start).told_of_mem hv, enough_one n, enough_iff n⟩

/-- With seven requests in a minute the advice of eight seconds is too short by less than a
nanosecond. -/
theorem seven_advised_short :
    verdicts (.perMinute 7) (full (.perMinute 7 : RateLimit ℚ) 0)
        [0, 571428571, 8571428571, 8571428572] =
      [.admitted, .refused (some 8), .refused (some 1), .admitted] ∧ ¬ Enough 7 0 := by
  refine ⟨by decide +kernel, fun henough => ?_⟩
  have hcases := (enough_iff 7).1 henough
  revert hcases
  decide +kernel

end Bucket

end Sluice
