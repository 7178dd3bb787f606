import Mathlib.Algebra.Order.Field.Rat
import Mathlib.Algebra.Order.Floor.Ring
import Mathlib.Data.Rat.Floor
import Mathlib.Tactic.FieldSimp
import Mathlib.Tactic.Linarith
import Mathlib.Tactic.Positivity
import Mathlib.Tactic.Ring
import Sluice.Throttle

/-!
# What a bucket lets through

Counted in rationals, a bucket does what its arithmetic says: only the nanoseconds of a wait are
rounded.  Its tokens stay between none and its size (`Filled`), and what is admitted is paid for by
the tokens that were there and by what is added as its latest time moves on (`admitted_le`).  The
order of the readings does not matter, since a reading that is older than the latest time adds
nothing.

`Bounded` says so of every stretch of every run.  In a bucket of one token the readings
that are admitted lie apart (`admitted_spaced`), so that any window of time holds few of them.
-/

namespace Sluice

/-! ## Rationals -/

/-- The nearest number of nanoseconds of a rational that is not negative, if it is below the
limit. -/
def exactNanoseconds? (x : ℚ) : Option Nat :=
  if x < 0 then none
  else
    let n := roundDiv (x.num.toNat * nanosPerSecond) x.den
    if n < 2 ^ 64 * nanosPerSecond then some n else none

instance : TokenNumber ℚ where
  ofNat n := n
  seconds n := n / nanosPerSecond
  nanoseconds? := exactNanoseconds?
  ceiling x := UInt64.ofNat (min ⌈x⌉₊ (UInt64.size - 1))

theorem roundDiv_le_iff {a b m : Nat} (hb : 0 < b) :
    roundDiv a b ≤ m ↔ 2 * a < (2 * m + 1) * b ∨ 2 * a = (2 * m + 1) * b ∧ m % 2 = 0 := by
  have hmod : a % b < b := Nat.mod_lt a hb
  have ha : 2 * a = 2 * (b * (a / b)) + 2 * (a % b) := by
    rw [← Nat.mul_add, Nat.div_add_mod]
  have hm : (2 * m + 1) * b = 2 * (b * m) + b := by ring
  rw [ha, hm]
  unfold roundDiv
  generalize a / b = q
  generalize a % b = r at hmod
  dsimp only
  obtain hq | rfl | hq := Nat.lt_trichotomy q m
  · have h : b * (q + 1) ≤ b * m := Nat.mul_le_mul_left b hq
    rw [Nat.mul_succ] at h
    constructor
    · intro _
      left
      omega
    · intro _
      split <;> omega
  · split <;> omega
  · have h : b * (m + 1) ≤ b * q := Nat.mul_le_mul_left b hq
    rw [Nat.mul_succ] at h
    constructor
    · intro hle
      split at hle <;> omega
    · omega

/-- A greater quotient is not rounded to a smaller number. -/
theorem roundDiv_mono {a b c d : Nat} (hb : 0 < b) (hd : 0 < d) (h : a * d ≤ c * b) :
    roundDiv a b ≤ roundDiv c d := by
  rw [roundDiv_le_iff hb]
  have hc := (roundDiv_le_iff hd).1 (Nat.le_refl (roundDiv c d))
  generalize roundDiv c d = m at hc
  obtain hc | ⟨hc, hm⟩ := hc
  · left
    have hlt : 2 * a * d < (2 * m + 1) * b * d := by
      calc 2 * a * d = 2 * (a * d) := by ring
        _ ≤ 2 * (c * b) := Nat.mul_le_mul_left 2 h
        _ = 2 * c * b := by ring
        _ < (2 * m + 1) * d * b := Nat.mul_lt_mul_of_pos_right hc hb
        _ = (2 * m + 1) * b * d := by ring
    exact Nat.lt_of_mul_lt_mul_right hlt
  · have hle : 2 * a * d ≤ (2 * m + 1) * b * d := by
      calc 2 * a * d = 2 * (a * d) := by ring
        _ ≤ 2 * (c * b) := Nat.mul_le_mul_left 2 h
        _ = 2 * c * b := by ring
        _ = (2 * m + 1) * d * b := by rw [hc]
        _ = (2 * m + 1) * b * d := by ring
    have hle := Nat.le_of_mul_le_mul_right hle hd
    omega

theorem exactNanoseconds?_isSome_of_le {x y : ℚ} (hx : 0 ≤ x) (hxy : x ≤ y)
    (hy : (exactNanoseconds? y).isSome) : (exactNanoseconds? x).isSome := by
  have hround : roundDiv (x.num.toNat * nanosPerSecond) x.den ≤
      roundDiv (y.num.toNat * nanosPerSecond) y.den := by
    have hle : x.num.toNat * y.den ≤ y.num.toNat * x.den := by
      have h := (Rat.le_iff x y).1 hxy
      have hxn := Int.toNat_of_nonneg (Rat.num_nonneg.2 hx)
      have hyn := Int.toNat_of_nonneg (Rat.num_nonneg.2 (hx.trans hxy))
      rw [← hxn, ← hyn] at h
      exact_mod_cast h
    refine roundDiv_mono x.den_pos y.den_pos ?_
    calc x.num.toNat * nanosPerSecond * y.den = x.num.toNat * y.den * nanosPerSecond := by ring
      _ ≤ y.num.toNat * x.den * nanosPerSecond := Nat.mul_le_mul_right _ hle
      _ = y.num.toNat * nanosPerSecond * x.den := by ring
  unfold exactNanoseconds? at hy ⊢
  rw [if_neg (not_lt.2 (hx.trans hxy))] at hy
  rw [if_neg (not_lt.2 hx)]
  dsimp only at hy ⊢
  split at hy
  · rename_i hlt
    rw [if_pos (Nat.lt_of_le_of_lt hround hlt)]
    rfl
  · cases hy

namespace Bucket

/-! ## Runs of checks -/

section Runs

variable {K : Type} [TokenNumber K] [LE K] [DecidableLE K] (limit : RateLimit K)

/-- The bucket after checks at some times. -/
def after (b : Bucket K) (times : List Nat) : Bucket K :=
  times.foldl (fun b now => (b.check limit now).2) b

/-- What becomes of checks at some times. -/
def verdicts : Bucket K → List Nat → List Verdict
  | _, [] => []
  | b, now :: times => (b.check limit now).1 :: verdicts (b.check limit now).2 times

/-- The times of the checks that are admitted. -/
def admitted (b : Bucket K) (times : List Nat) : List Nat :=
  ((times.zip (verdicts limit b times)).filter fun x => x.2 = .admitted).map (·.1)

variable {limit} {b : Bucket K}

@[simp] theorem after_nil : after limit b [] = b := rfl

@[simp] theorem after_cons (now : Nat) (times : List Nat) :
    after limit b (now :: times) = after limit (b.check limit now).2 times := rfl

theorem after_append (times times' : List Nat) :
    after limit b (times ++ times') = after limit (after limit b times) times' :=
  List.foldl_append

@[simp] theorem verdicts_nil : verdicts limit b [] = [] := rfl

@[simp] theorem verdicts_cons (now : Nat) (times : List Nat) : verdicts limit b (now :: times) =
    (b.check limit now).1 :: verdicts limit (b.check limit now).2 times := rfl

theorem verdicts_append (times times' : List Nat) : verdicts limit b (times ++ times') =
    verdicts limit b times ++ verdicts limit (after limit b times) times' := by
  induction times generalizing b with
  | nil => rfl
  | cons now times ih => exact congrArg (List.cons _) ih

@[simp] theorem length_verdicts (times : List Nat) :
    (verdicts limit b times).length = times.length := by
  induction times generalizing b with
  | nil => rfl
  | cons now times ih => exact congrArg (· + 1) ih

theorem verdicts_take (times : List Nat) (n : Nat) :
    (verdicts limit b times).take n = verdicts limit b (times.take n) := by
  induction times generalizing b n with
  | nil => simp
  | cons now times ih =>
    cases n with
    | zero => rfl
    | succ n => exact congrArg (List.cons _) (ih n)

theorem verdicts_drop (times : List Nat) (n : Nat) : (verdicts limit b times).drop n =
    verdicts limit (after limit b (times.take n)) (times.drop n) := by
  induction times generalizing b n with
  | nil => simp
  | cons now times ih =>
    cases n with
    | zero => rfl
    | succ n => exact ih n

theorem admitted_cons (now : Nat) (times : List Nat) : admitted limit b (now :: times) =
    if (b.check limit now).1 = .admitted then now :: admitted limit (b.check limit now).2 times
    else admitted limit (b.check limit now).2 times := by
  unfold admitted
  rw [verdicts_cons, List.zip_cons_cons, List.filter_cons]
  simp only [decide_eq_true_eq]
  split <;> rfl

theorem admitted_append (times times' : List Nat) : admitted limit b (times ++ times') =
    admitted limit b times ++ admitted limit (after limit b times) times' := by
  unfold admitted
  rw [verdicts_append, List.zip_append (length_verdicts times).symm, List.filter_append,
    List.map_append]

theorem latest_check (now : Nat) : (b.check limit now).2.latest = max b.latest now := by
  unfold check
  dsimp only
  split <;> rfl

theorem latest_after (times : List Nat) :
    (after limit b times).latest = times.foldl max b.latest := by
  induction times generalizing b with
  | nil => rfl
  | cons now times ih => rw [after_cons, ih, latest_check, List.foldl_cons]

end Runs

/-! ## One check -/

/-- The tokens that are added from one time to another. -/
def added (limit : RateLimit ℚ) (s t : Nat) : ℚ :=
  limit.rate * (((t : ℚ) - s) / nanosPerSecond)

/-- The tokens that a check finds. -/
def found (limit : RateLimit ℚ) (b : Bucket ℚ) (now : Nat) : ℚ :=
  min (b.tokens + added limit b.latest (max b.latest now)) limit.burst.toNat

/-- What a check may do. -/
inductive Checked (limit : RateLimit ℚ) (b : Bucket ℚ) (now : Nat) : Verdict → Bucket ℚ → Prop where
  /-- There is a token, and it is taken out. -/
  | admitted : 1 ≤ found limit b now →
    Checked limit b now .admitted ⟨found limit b now - 1, max b.latest now⟩
  /-- There is less than a token, and all of it stays. -/
  | refused : found limit b now < 1 →
    Checked limit b now (.refused (advice ((1 - found limit b now) / limit.rate)))
      ⟨found limit b now, max b.latest now⟩

/-- There are no fewer tokens than none, and no more than the bucket holds. -/
structure Filled (limit : RateLimit ℚ) (b : Bucket ℚ) : Prop where
  nonneg : 0 ≤ b.tokens
  le_burst : b.tokens ≤ limit.burst.toNat

section Exact

variable {limit : RateLimit ℚ} {b b' : Bucket ℚ} {now : Nat} {v : Verdict}

theorem refill_eq (limit : RateLimit ℚ) (now : Nat) (b : Bucket ℚ) :
    b.refill limit now = ⟨found limit b now, max b.latest now⟩ := by
  have hcast : ((now - b.latest : Nat) : ℚ) = ((max b.latest now : Nat) : ℚ) - b.latest := by
    rw [← Nat.cast_sub (Nat.le_max_left _ _)]
    congr 1
    omega
  have hadded : TokenNumber.seconds (now - b.latest) * limit.rate =
      added limit b.latest (max b.latest now) := by
    show ((now - b.latest : Nat) : ℚ) / nanosPerSecond * limit.rate = _
    rw [hcast, added, mul_comm]
  rw [refill, hadded]
  rfl

theorem check_checked (limit : RateLimit ℚ) (b : Bucket ℚ) (now : Nat) :
    Checked limit b now (b.check limit now).1 (b.check limit now).2 := by
  have hone : (TokenNumber.ofNat 1 : ℚ) = 1 := Nat.cast_one
  unfold check
  rw [refill_eq, hone]
  dsimp only
  split
  · rename_i h
    exact .admitted h
  · rename_i h
    exact .refused (not_le.1 h)

theorem added_add (limit : RateLimit ℚ) (s t u : Nat) :
    added limit s t + added limit t u = added limit s u := by
  unfold added
  ring

theorem added_self (limit : RateLimit ℚ) (s : Nat) : added limit s s = 0 := by
  unfold added
  ring

theorem added_nonneg (hr : 0 < limit.rate) {s t : Nat} (h : s ≤ t) : 0 ≤ added limit s t := by
  have hst : (0 : ℚ) ≤ (t : ℚ) - s := sub_nonneg.2 (by exact_mod_cast h)
  unfold added
  positivity

theorem added_mono (hr : 0 < limit.rate) {s t u : Nat} (h : s ≤ t) :
    added limit t u ≤ added limit s u := by
  have hst := added_nonneg hr h
  rw [← added_add limit s t u]
  linarith

theorem found_le_burst (limit : RateLimit ℚ) (b : Bucket ℚ) (now : Nat) :
    found limit b now ≤ limit.burst.toNat := min_le_right _ _

theorem found_le (limit : RateLimit ℚ) (b : Bucket ℚ) (now : Nat) :
    found limit b now ≤ b.tokens + added limit b.latest (max b.latest now) :=
  min_le_left _ _

theorem Filled.found_nonneg (h : Filled limit b) (hr : 0 < limit.rate) : 0 ≤ found limit b now :=
  le_min (add_nonneg h.nonneg (added_nonneg hr (Nat.le_max_left _ _))) (Nat.cast_nonneg _)

theorem Checked.filled (h : Checked limit b now v b') (hr : 0 < limit.rate)
    (hb : Filled limit b) : Filled limit b' := by
  have hle := found_le_burst limit b now
  cases h with
  | admitted hone => exact ⟨sub_nonneg.2 hone, by linarith⟩
  | refused _ => exact ⟨hb.found_nonneg hr, hle⟩

theorem filled_full (limit : RateLimit ℚ) (start : Nat) : Filled limit (full limit start) :=
  ⟨Nat.cast_nonneg _, le_refl _⟩

theorem filled_after (hr : 0 < limit.rate) (hb : Filled limit b) (times : List Nat) :
    Filled limit (after limit b times) := by
  induction times generalizing b with
  | nil => exact hb
  | cons now times ih => exact ih ((check_checked limit b now).filled hr hb)

/-! ## What is admitted -/

/-- What a check admits is taken from the tokens that it finds. -/
theorem Checked.spent (h : Checked limit b now v b') :
    (([v].count .admitted : Nat) : ℚ) + b'.tokens = found limit b now := by
  cases h with
  | admitted _ => simp
  | refused _ => simp

theorem admitted_le (limit : RateLimit ℚ) (b : Bucket ℚ) (times : List Nat) :
    ((verdicts limit b times).count .admitted : ℚ) + (after limit b times).tokens ≤
      b.tokens + added limit b.latest (after limit b times).latest := by
  induction times generalizing b with
  | nil => simp [added_self]
  | cons now times ih =>
    have hrest := ih (b.check limit now).2
    have hspent := (check_checked limit b now).spent
    have hfound := found_le limit b now
    have hadd := added_add limit b.latest (max b.latest now)
      (after limit (b.check limit now).2 times).latest
    rw [latest_check] at hrest
    rw [verdicts_cons, after_cons, ← List.singleton_append, List.count_append, Nat.cast_add]
    linarith

/-- What the checks of a stretch admit: the tokens of a full bucket at the first of them, and what
is added from then on. -/
theorem admitted_stretch (hr : 0 < limit.rate) (hb : Filled limit b) (now : Nat)
    (window : List Nat) : ((verdicts limit b (now :: window)).count .admitted : ℚ) ≤
      limit.burst.toNat +
        added limit (max b.latest now) (after limit b (now :: window)).latest := by
  have hfirst := (check_checked limit b now).filled hr hb
  have hspent := (check_checked limit b now).spent
  have hrest := admitted_le limit (b.check limit now).2 window
  have hfound := found_le_burst limit b now
  have hleft := (filled_after hr hfirst window).nonneg
  rw [latest_check] at hrest
  rw [verdicts_cons, after_cons, ← List.singleton_append, List.count_append, Nat.cast_add]
  linarith

/-- A wait that can be told is told, unless even the longest one cannot. -/
theorem Checked.told (h : Checked limit b now v b') (hr : 0 < limit.rate) (hb : Filled limit b)
    (hwait : (TokenNumber.nanoseconds? (1 / limit.rate)).isSome) : v ≠ .refused none := by
  cases h with
  | admitted _ => simp
  | refused hlt =>
    have hsome : (exactNanoseconds? ((1 - found limit b now) / limit.rate)).isSome := by
      refine exactNanoseconds?_isSome_of_le ?_ ?_ hwait
      · exact div_nonneg (sub_nonneg.2 hlt.le) hr.le
      · have hle : 1 - found limit b now ≤ 1 := sub_le_self 1 (hb.found_nonneg hr)
        exact div_le_div_of_nonneg_right hle hr.le
    obtain ⟨n, hn⟩ := Option.isSome_iff_exists.1 hsome
    have hadvice : advice ((1 - found limit b now) / limit.rate) =
        some (max (TokenNumber.ceiling (TokenNumber.seconds n : ℚ)) 1) := by
      unfold advice
      rw [show TokenNumber.nanoseconds? _ = some n from hn]
      rfl
    rw [hadvice]
    simp

theorem told_of_mem_verdicts (hr : 0 < limit.rate) (hb : Filled limit b)
    (hwait : (TokenNumber.nanoseconds? (1 / limit.rate)).isSome) {times : List Nat} :
    ∀ v ∈ verdicts limit b times, v ≠ .refused none := by
  induction times generalizing b with
  | nil =>
    intro v hv
    cases hv
  | cons now times ih =>
    have h := check_checked limit b now
    intro v hv
    rcases List.mem_cons.1 hv with rfl | hv
    · exact h.told hr hb hwait
    · exact ih (h.filled hr hb) v hv

/-- The latest time seen up to a check of some, the start included. -/
def latestSeen (start : Nat) (times : List Nat) (k : Nat) : Nat :=
  (times.take (k + 1)).foldl max start

theorem latest_after_take (start k : Nat) (times : List Nat) :
    (after limit (full limit start) (times.take (k + 1))).latest = latestSeen start times k :=
  latest_after _

/-- What a bucket keeps to, in whatever order times are read. -/
structure Bounded (limit : RateLimit ℚ) (start : Nat) (times : List Nat) : Prop where
  /-- After every check there are no fewer tokens than none and no more than the bucket holds. -/
  filled : ∀ k, Filled limit (after limit (full limit start) (times.take k))
  /-- What the checks of a stretch admit is at most the size of the bucket and what is added while
  the latest time moves on. -/
  stretch : ∀ i j, i ≤ j → j < times.length →
    ((((verdicts limit (full limit start) times).drop i).take (j + 1 - i)).count .admitted : ℚ) ≤
      limit.burst.toNat + limit.rate *
        (((latestSeen start times j : ℚ) - latestSeen start times i) / nanosPerSecond)
  /-- Every refusal tells a wait. -/
  told : ∀ v ∈ verdicts limit (full limit start) times, v ≠ .refused none

theorem bounded_of_wait (hr : 0 < limit.rate)
    (hwait : (TokenNumber.nanoseconds? (1 / limit.rate)).isSome) (start : Nat) (times : List Nat) :
    Bounded limit start times := by
  have hfull := filled_full limit start
  refine ⟨fun k => ?_, fun i j hij hj => ?_, told_of_mem_verdicts hr hfull hwait⟩
  · exact filled_after hr hfull (times.take k)
  · have hi : i < times.length := Nat.lt_of_le_of_lt hij hj
    have hlen : j + 1 - i = j - i + 1 := by omega
    have hmiddle : (times.drop i).take (j + 1 - i) =
        times[i] :: (times.drop (i + 1)).take (j - i) := by
      rw [List.drop_eq_getElem_cons hi, hlen, List.take_succ_cons]
    have hupto (k : Nat) (hk : i ≤ k) : times.take (k + 1) =
        times.take i ++ (times.drop i).take (k + 1 - i) := by
      rw [← List.take_add]
      congr 1
      omega
    have hbound := admitted_stretch hr (filled_after hr hfull (times.take i)) times[i]
      ((times.drop (i + 1)).take (j - i))
    rw [← hmiddle, ← after_append, ← hupto j hij, latest_after_take] at hbound
    have hfirst : max (after limit (full limit start) (times.take i)).latest times[i] =
        latestSeen start times i := by
      rw [latestSeen, List.take_succ_eq_append_getElem hi, List.foldl_append, latest_after]
      rfl
    rw [hfirst] at hbound
    rw [verdicts_drop, verdicts_take]
    exact hbound

/-! ## A bucket of one token -/

/-- A bucket with less than a token admits nothing before the rest of it was added. -/
theorem added_of_mem_admitted (hone : limit.burst = 1) (hb : b.tokens < 1)
    {times : List Nat} {t : Nat} (ht : t ∈ admitted limit b times) :
    1 ≤ b.tokens + added limit b.latest t := by
  induction times generalizing b with
  | nil => cases ht
  | cons now times ih =>
    have hrest (b' : Bucket ℚ) (hle : b'.tokens ≤ found limit b now) (hlt : b'.tokens < 1)
        (hlatest : b'.latest = max b.latest now) (ht : t ∈ admitted limit b' times) :
        1 ≤ b.tokens + added limit b.latest t := by
      have hafter := ih hlt ht
      have hfound := found_le limit b now
      rw [hlatest] at hafter
      rw [← added_add limit b.latest (max b.latest now) t]
      linarith
    have hburst : found limit b now ≤ 1 := by
      have h := found_le_burst limit b now
      rw [hone] at h
      exact h.trans_eq Nat.cast_one
    have hcheck := check_checked limit b now
    rw [admitted_cons] at ht
    generalize b.check limit now = x at hcheck ht
    obtain ⟨v, b'⟩ := x
    cases hcheck with
    | refused hlt =>
      rw [if_neg Verdict.noConfusion] at ht
      exact hrest ⟨found limit b now, max b.latest now⟩ le_rfl hlt rfl ht
    | admitted hfound =>
      rw [if_pos rfl] at ht
      rcases List.mem_cons.1 ht with rfl | ht
      · have hle := hfound.trans (found_le limit b t)
        rcases Nat.le_total t b.latest with h | h
        · rw [Nat.max_eq_left h, added_self] at hle
          linarith
        · rwa [Nat.max_eq_right h] at hle
      · have hlt : found limit b now - 1 < 1 := by linarith
        exact hrest ⟨found limit b now - 1, max b.latest now⟩ (sub_le_self _ zero_le_one) hlt rfl ht

/-- The readings that are admitted lie so far apart that a token is added from each to the next. -/
theorem admitted_spaced (hr : 0 < limit.rate) (hone : limit.burst = 1) (b : Bucket ℚ)
    (times : List Nat) :
    (admitted limit b times).Pairwise fun s t => 1 ≤ added limit s t := by
  induction times generalizing b with
  | nil => exact .nil
  | cons now times ih =>
    have hcheck := check_checked limit b now
    have hrest := ih (b.check limit now).2
    rw [admitted_cons]
    generalize b.check limit now = x at hcheck hrest
    obtain ⟨v, b'⟩ := x
    cases hcheck with
    | refused _ =>
      rw [if_neg Verdict.noConfusion]
      exact hrest
    | admitted hfound =>
      rw [if_pos rfl]
      refine .cons (fun t ht => ?_) hrest
      have hburst := found_le_burst limit b now
      rw [hone] at hburst
      have hle : found limit b now - 1 ≤ 0 := sub_nonpos.2 (hburst.trans_eq Nat.cast_one)
      have hadded := added_of_mem_admitted hone (hle.trans_lt zero_lt_one) ht
      have hmono := added_mono hr (u := t) (Nat.le_max_right b.latest now)
      dsimp only at hadded
      linarith

theorem le_of_one_le_added (hr : 0 < limit.rate) {s t : Nat} (h : 1 ≤ added limit s t) : s ≤ t := by
  by_contra hlt
  have hback := added_nonneg hr (Nat.le_of_not_le hlt)
  have hsum := added_add limit s t s
  rw [added_self] at hsum
  linarith

/-- Times that lie so far apart are few in a window. -/
theorem length_le_of_spaced (hr : 0 < limit.rate) {l : List Nat} {s t : Nat} (hst : s ≤ t)
    (hl : l.Pairwise fun u v => 1 ≤ added limit u v) (hwindow : ∀ u ∈ l, s ≤ u ∧ u ≤ t) :
    (l.length : ℚ) ≤ 1 + added limit s t := by
  induction l generalizing s with
  | nil =>
    have h := added_nonneg hr hst
    simp only [List.length_nil, Nat.cast_zero]
    linarith
  | cons u l ih =>
    obtain ⟨hu, hl⟩ := List.pairwise_cons.1 hl
    obtain ⟨hsu, hut⟩ := hwindow u (.head l)
    cases l with
    | nil =>
      have h := added_nonneg hr hst
      simp only [List.length_singleton, Nat.cast_one]
      linarith
    | cons v l =>
      have huv := hu v (.head l)
      have hvt : v ≤ t := (hwindow v (.tail u (.head l))).2
      have hafter : ∀ w ∈ v :: l, v ≤ w ∧ w ≤ t := by
        intro w hw
        refine ⟨?_, (hwindow w (.tail u hw)).2⟩
        rcases List.mem_cons.1 hw with rfl | hw
        · exact Nat.le_refl w
        · exact le_of_one_le_added hr ((List.pairwise_cons.1 hl).1 w hw)
      have hrest := ih hvt hl hafter
      have hmono := added_mono hr (u := v) hsu
      have hsum := added_add limit s v t
      rw [List.length_cons, Nat.cast_succ]
      linarith

theorem rate_perMinute (n : UInt32) :
    (RateLimit.perMinute n : RateLimit ℚ).rate = max (n.toNat : ℚ) 1 / 60 := by
  have hmax : (((max n 1).toNat : Nat) : ℚ) = max (n.toNat : ℚ) 1 := by
    rw [UInt32.toNat_max, Nat.cast_max]
    rfl
  rw [← hmax]
  rfl

theorem rate_perMinute_pos (n : UInt32) : 0 < (RateLimit.perMinute n : RateLimit ℚ).rate := by
  have hmax : (0 : ℚ) < max (n.toNat : ℚ) 1 := lt_max_of_lt_right zero_lt_one
  rw [rate_perMinute]
  positivity

theorem added_perMinute (n : UInt32) (s t : Nat) : added (.perMinute n) s t =
    max (n.toNat : ℚ) 1 * (((t : ℚ) - s) / nanosPerSecond) / 60 := by
  rw [added, rate_perMinute]
  ring

/-- With so many requests in a minute, the readings of a window that are admitted are few. -/
theorem admitted_within (n : UInt32) (b : Bucket ℚ) (times : List Nat) {s t : Nat} (hst : s ≤ t) :
    (((admitted (.perMinute n) b times).filter fun u => s ≤ u ∧ u ≤ t).length : ℚ) ≤
      1 + max (n.toNat : ℚ) 1 * (((t : ℚ) - s) / nanosPerSecond) / 60 := by
  have hr := rate_perMinute_pos n
  rw [← added_perMinute]
  refine length_le_of_spaced hr hst ((admitted_spaced hr rfl b times).filter _) fun u hu => ?_
  simpa using (List.mem_filter.1 hu).2

end Exact

end Bucket

end Sluice
