import Mathlib.Algebra.Group.Nat.Defs
import Sluice.Proofs.Text.Ascii
import Sluice.Time.Rfc3339

/-!
# Timestamps read back

The text of every timestamp is read as that timestamp (`read_text`), leap seconds and years outside
of 0 to 9999 included.  Reading goes from part to part, so there is one lemma for each part with any
characters after it; all that has to be known of these is that they do not begin with a digit.
-/

namespace Sluice.Timestamp

/-! ## Digits -/

/-- The characters do not begin with a digit. -/
def NoDigit (cs : List Char) : Prop := ∀ c, cs.head? = some c → c.isDigit = false

theorem noDigit_cons {c : Char} (h : c.isDigit = false) (cs : List Char) : NoDigit (c :: cs) := by
  rintro d ⟨⟩
  exact h

theorem NoDigit.take {cs : List Char} (h : NoDigit cs) (k : Nat) : NoDigit (cs.take k) := by
  intro c hc
  cases k with
  | zero => cases hc
  | succ k =>
    cases cs with
    | nil => cases hc
    | cons d cs => exact h c hc

theorem digitsValue_eq (ds : List Char) : digitsValue ds = Nat.ofDigitChars 10 ds 0 := by
  unfold digitsValue Nat.ofDigitChars
  congr 1
  funext n d
  rw [Nat.mul_comm]
  rfl

theorem digitsValue_padded (width n : Nat) : digitsValue (padded width n) = n := by
  rw [digitsValue_eq, padded, Nat.ofDigitChars_append, Nat.ofDigitChars_replicate_zero,
    Nat.mul_zero, Nat.ofDigitChars_ten_toDigits]

theorem isDigit_of_mem_padded (width n : Nat) {c : Char} (h : c ∈ padded width n) :
    c.isDigit = true := by
  rcases List.mem_append.1 h with h | h
  · rw [List.eq_of_mem_replicate h]
    rfl
  · exact Nat.isDigit_of_mem_toDigits (by decide) (by decide) h

theorem length_padded {width n : Nat} (hw : 0 < width) (h : n < 10 ^ width) :
    (padded width n).length = width := by
  have hle := (Nat.length_toDigits_le_iff (by decide) hw).2 h
  rw [padded, List.length_append, List.length_replicate]
  omega

theorem padded_ne_nil (width n : Nat) : padded width n ≠ [] := fun h =>
  Nat.toDigits_ne_nil (List.append_eq_nil_iff.1 h).2

theorem not_isBlank_of_isDigit {c : Char} (h : c.isDigit = true) : Text.isBlank c = false := by
  have hc := Text.toNat_of_isDigit h
  rw [Bool.eq_false_iff]
  simp only [Text.isBlank, ne_eq, Bool.or_eq_true, Bool.and_eq_true, decide_eq_true_eq, beq_iff_eq]
  omega

/-- Digits are taken up to the first character that is none. -/
theorem takeWhile_digits {ds cs : List Char} (hd : ∀ c ∈ ds, c.isDigit = true) (hc : NoDigit cs) :
    (ds ++ cs).takeWhile Char.isDigit = ds := by
  rw [List.takeWhile_append_of_pos hd]
  cases cs with
  | nil => simp
  | cons c cs => simp [hc c rfl]

theorem numberOf_padded (width n : Nat) (cs : List Char) :
    numberOf (padded width n) (padded width n ++ cs) = .ok (n, cs) := by
  have hvalue := digitsValue_padded width n
  obtain ⟨d, ds, hds⟩ := List.exists_cons_of_ne_nil (padded_ne_nil width n)
  rw [hds] at hvalue ⊢
  rw [List.cons_append, numberOf, hvalue]
  simp

theorem number_padded {most width n : Nat} {cs : List Char} (hw : 0 < width) (hm : width ≤ most)
    (h : n < 10 ^ width) (hc : NoDigit cs) : number most (padded width n ++ cs) = .ok (n, cs) := by
  have htake : (padded width n ++ cs).take most = padded width n ++ cs.take (most - width) := by
    have hlen := length_padded hw h
    rw [List.take_append, hlen, List.take_of_length_le (by omega)]
  rw [number, htake, takeWhile_digits (fun c => isDigit_of_mem_padded width n) (hc.take _),
    numberOf_padded]

theorem longNumber_padded {width n : Nat} {cs : List Char} (hc : NoDigit cs) :
    longNumber (padded width n ++ cs) = .ok (n, cs) := by
  rw [longNumber, takeWhile_digits (fun c => isDigit_of_mem_padded width n) hc, numberOf_padded]

/-! ## Parts -/

theorem skipBlank_of_not_isBlank {c : Char} (h : Text.isBlank c = false) (cs : List Char) :
    skipBlank (c :: cs) = c :: cs := by
  rw [skipBlank, List.dropWhile_cons_of_neg (by simp [h])]

theorem skipBlank_padded (width n : Nat) (cs : List Char) :
    skipBlank (padded width n ++ cs) = padded width n ++ cs := by
  obtain ⟨d, ds, hds⟩ := List.exists_cons_of_ne_nil (padded_ne_nil width n)
  have hd : d.isDigit = true := isDigit_of_mem_padded width n (by simp [hds])
  rw [hds]
  exact skipBlank_of_not_isBlank (not_isBlank_of_isDigit hd) _

theorem part_padded {least most n : Nat} {cs : List Char} (hn : n < 100) (hl : least ≤ n)
    (hm : n ≤ most) (hc : NoDigit cs) : part least most (padded 2 n ++ cs) = .ok (n, cs) := by
  rw [part, skipBlank_padded, number_padded (by decide) (Nat.le_refl 2) hn hc]
  simp [hl, hm]

theorem mark_cons {c : Char} (h : Text.isBlank c = false) (cs : List Char) :
    mark c (c :: cs) = .ok cs := by
  rw [mark, skipBlank_of_not_isBlank h]
  simp

theorem separator_time (cs : List Char) : separator ('T' :: cs) = .ok cs := rfl

theorem year_padded {n : Nat} {cs : List Char} (hn : n ≤ 9999) (hc : NoDigit cs) :
    year (padded 4 n ++ cs) = .ok (n, cs) := by
  have hnumber : number 4 (padded 4 n ++ cs) = .ok (n, cs) :=
    number_padded (by decide) (Nat.le_refl 4) (by omega) hc
  obtain ⟨d, ds, hds⟩ := List.exists_cons_of_ne_nil (padded_ne_nil 4 n)
  have hd : d.isDigit = true := isDigit_of_mem_padded 4 n (by simp [hds])
  unfold year
  rw [skipBlank_padded]
  split
  · rename_i heq
    rw [hds] at heq
    cases heq
    cases hd
  · rename_i heq
    rw [hds] at heq
    cases heq
    cases hd
  · rw [hnumber]
    rfl

theorem year_signed {n : Nat} {cs : List Char} (hn : (n : Int) ≤ Int32.maxValue.toInt)
    (hc : NoDigit cs) : year ('-' :: padded 4 n ++ cs) = .ok (-(n : Int), cs) ∧
      year ('+' :: padded 4 n ++ cs) = .ok ((n : Int), cs) := by
  have hlong : longNumber (padded 4 n ++ cs) = .ok (n, cs) := longNumber_padded hc
  have hmax : Int32.maxValue.toInt = 2147483647 := by decide
  have hmin : Int32.minValue.toInt = -2147483648 := by decide
  constructor
  · unfold year
    rw [List.cons_append, skipBlank_of_not_isBlank (by decide)]
    simp only [hlong]
    rw [if_pos (by omega)]
    simp
  · unfold year
    rw [List.cons_append, skipBlank_of_not_isBlank (by decide)]
    simp only [hlong]
    rw [if_pos (by omega)]
    simp

theorem year_yearText {y : Int} {cs : List Char} (h : firstYear ≤ y ∧ y ≤ lastYear)
    (hc : NoDigit cs) : year (yearText y ++ cs) = .ok (y, cs) := by
  have hmax : Int32.maxValue.toInt = 2147483647 := by decide
  have hfirst : firstYear = -262143 := rfl
  have hlast : lastYear = 262142 := rfl
  unfold yearText
  split
  · rw [year_padded (by omega) hc]
    congr 2
    omega
  · split
    · rw [(year_signed (by omega) hc).1]
      congr 2
      omega
    · rw [(year_signed (by omega) hc).2]
      congr 2
      omega

theorem fraction_padded {width n m : Nat} (hw : 0 < width) (hm : width ≤ 9) (h : n < 10 ^ width)
    (heq : n * 10 ^ (9 - width) = m) (cs : List Char) :
    fraction ('.' :: padded width n ++ 'Z' :: cs) = .ok (m, 'Z' :: cs) := by
  have hlen : (padded width n ++ 'Z' :: cs).length - ('Z' :: cs).length = width := by
    rw [List.length_append, length_padded hw h, Nat.add_sub_cancel]
  rw [List.cons_append, fraction, number_padded hw hm h (noDigit_cons (by decide) cs)]
  dsimp only
  rw [hlen, List.dropWhile_cons_of_neg (by decide), ← heq]
  rfl

theorem fraction_fractionText {nanos : Nat} (h : nanos < nanosPerSecond) (cs : List Char) :
    fraction (fractionText nanos ++ 'Z' :: cs) = .ok (nanos, 'Z' :: cs) := by
  have hsecond : nanosPerSecond = 1000000000 := rfl
  unfold fractionText
  split
  · rename_i h0
    rw [h0]
    rfl
  · split
    · exact fraction_padded (by decide) (by decide) (by omega) (by omega) cs
    · split
      · exact fraction_padded (by decide) (by decide) (by omega) (by omega) cs
      · exact fraction_padded (by decide) (by decide) (by omega) (by omega) cs

/-! ## Whole timestamps -/

theorem atOffset_zero (t : Timestamp) :
    atOffset t.date t.hour t.minute t.second t.nanos 0 = some t := by
  obtain ⟨hh, hm, -⟩ := t.isTime
  have hlow : ¬((t.hour : Int) * 60 + t.minute - 0 < 0) := by omega
  have hhigh : (t.hour : Int) * 60 + t.minute - 0 < 1440 := by omega
  have hday : (((t.hour : Int) * 60 + t.minute - 0) % 1440).toNat = t.hour * 60 + t.minute := by
    omega
  have hhour : (t.hour * 60 + t.minute) / 60 = t.hour := by omega
  have hminute : (t.hour * 60 + t.minute) % 60 = t.minute := by omega
  unfold atOffset
  simp only [if_neg hlow, if_pos hhigh, hday, hhour, hminute, Option.bind_eq_bind,
    Option.bind_some]
  rw [Timestamp.of?, dif_pos t.isTime]

/-- The text of a timestamp is read as that timestamp. -/
theorem read_text (t : Timestamp) : read t.text = .ok t := by
  obtain ⟨hy, hy', hmonth, hmonth', hday, hday'⟩ := t.date.isDay
  obtain ⟨hh, hm, hs, hn⟩ := t.isTime
  have hmonthDays : daysIn t.date.year t.date.month ≤ 31 := by
    unfold daysIn
    split
    · split <;> omega
    · split <;> omega
  have hdate : Date.of? t.date.year t.date.month t.date.day = some t.date := by
    rw [Date.of?, dif_pos t.date.isDay]
  have hdash : Text.isBlank '-' = false := by decide
  have hcolon : Text.isBlank ':' = false := by decide
  have hfraction : NoDigit (fractionText t.nanos ++ ['Z']) := by
    unfold fractionText
    split
    · exact noDigit_cons (by decide) _
    · split
      · exact noDigit_cons (by decide) _
      · split <;> exact noDigit_cons (by decide) _
  have hz : offset (skipBlank ['Z']) = .ok (0, []) := rfl
  unfold read
  rw [text, String.toList_ofList, chars]
  simp only [List.append_assoc, List.cons_append]
  rw [year_yearText ⟨hy, hy'⟩ (noDigit_cons (by decide) _)]
  -- Each part is read off the front, and what follows it does not begin with a digit.
  simp (disch := first | omega | exact hfraction | exact noDigit_cons (by decide) _) only
    [bind, Except.bind, mark_cons hdash, mark_cons hcolon, part_padded, separator_time,
      fraction_fractionText, hz, hdate, atOffset_zero, Int.natAbs_zero]
  rfl

end Sluice.Timestamp
