import Mathlib.Tactic.SplitIfs
import Sluice.Text.Utf8

/-!
# The order of texts

Texts are ordered by their characters, one after the other.  UTF-8 is made so that this is the order
of their bytes too (`bytes_lt_iff`): of two characters the lesser one has the lesser byte where
their bytes first differ, whether or not they have the same number of bytes.
-/

namespace Sluice.Text

theorem bytes_eq_flatMap (s : String) : bytes s = s.toList.flatMap String.utf8EncodeChar := by
  rw [bytes, ← String.utf8Encode_toList, List.utf8Encode]
  simp

/-! ## Characters -/

section Digits

variable {a b k m : Nat}

theorem byte_lt_iff (hm : 0 < m) (h : m + k ≤ 256) :
    UInt8.ofNat (a % m + k) < UInt8.ofNat (b % m + k) ↔ a % m < b % m := by
  have ha := Nat.mod_lt a hm
  have hb := Nat.mod_lt b hm
  rw [UInt8.lt_iff_toNat_lt, UInt8.toNat_ofNat_of_lt' (by simp only [UInt8.size]; omega),
    UInt8.toNat_ofNat_of_lt' (by simp only [UInt8.size]; omega)]
  omega

theorem byte_eq_iff (hm : 0 < m) (h : m + k ≤ 256) :
    UInt8.ofNat (a % m + k) = UInt8.ofNat (b % m + k) ↔ a % m = b % m := by
  have ha := Nat.mod_lt a hm
  have hb := Nat.mod_lt b hm
  rw [← UInt8.toNat_inj, UInt8.toNat_ofNat_of_lt' (by simp only [UInt8.size]; omega),
    UInt8.toNat_ofNat_of_lt' (by simp only [UInt8.size]; omega)]
  omega

/-- The lesser of two numbers has the lesser digit to base 64 where they first differ. -/
theorem digits_lt (h : a < b) :
    a / 262144 < b / 262144 ∨ a / 262144 = b / 262144 ∧
      (a / 4096 % 64 < b / 4096 % 64 ∨ a / 4096 % 64 = b / 4096 % 64 ∧
        (a / 64 % 64 < b / 64 % 64 ∨ a / 64 % 64 = b / 64 % 64 ∧ a % 64 < b % 64)) := by
  omega

end Digits

/-- The bytes of the lesser character come first, whatever follows them. -/
theorem encode_lt {c d : Char} (h : c < d) (l m : List UInt8) :
    String.utf8EncodeChar c ++ l < String.utf8EncodeChar d ++ m := by
  have hcd : c.val.toNat < d.val.toNat := h
  have hd : d.val.toNat < 0x110000 := by
    obtain h | h := d.valid
    · exact Nat.lt_trans h (by decide)
    · exact h.2
  unfold String.utf8EncodeChar
  generalize c.val.toNat = a at hcd ⊢
  generalize d.val.toNat = b at hcd hd ⊢
  dsimp only
  split_ifs
  all_goals
    simp (disch := decide) only [List.cons_append, List.nil_append, List.cons_lt_cons_iff,
      byte_lt_iff, byte_eq_iff]
  -- What is left of the bytes belongs to characters with different numbers of them.
  any_goals
    simp only [UInt8.lt_iff_toNat_lt, ← UInt8.toNat_inj, UInt8.toNat_ofNat', Nat.reducePow]
  any_goals omega
  -- Four bytes on both sides are too many digits at once.
  obtain h | ⟨h, h' | ⟨h', h'' | ⟨h'', h'''⟩⟩⟩ := digits_lt hcd
  · omega
  · omega
  · omega
  · omega

/-! ## Texts -/

theorem flatMap_encode_lt {l m : List Char} (h : l < m) :
    l.flatMap String.utf8EncodeChar < m.flatMap String.utf8EncodeChar := by
  induction l generalizing m with
  | nil =>
    cases m with
    | nil => exact absurd h (List.lt_irrefl [])
    | cons d m =>
      have hne : String.utf8EncodeChar d ≠ [] := by
        intro hnil
        have hpos := d.utf8Size_pos
        rw [← String.length_utf8EncodeChar, hnil] at hpos
        exact absurd hpos (Nat.lt_irrefl 0)
      obtain ⟨b, r, hb⟩ := List.exists_cons_of_ne_nil hne
      rw [List.flatMap_nil, List.flatMap_cons, hb]
      exact List.nil_lt_cons b _
  | cons c l ih =>
    cases m with
    | nil => exact absurd h (List.not_lt_nil _)
    | cons d m =>
      rw [List.flatMap_cons, List.flatMap_cons]
      obtain hfirst | ⟨rfl, hrest⟩ := List.cons_lt_cons_iff.1 h
      · exact encode_lt hfirst _ _
      · exact List.append_left_lt (ih hrest)

theorem bytes_lt {s t : String} (h : s < t) : bytes s < bytes t := by
  rw [bytes_eq_flatMap, bytes_eq_flatMap]
  exact flatMap_encode_lt h

/-- Texts are in the order of their bytes. -/
theorem bytes_lt_iff {s t : String} : bytes s < bytes t ↔ s < t := by
  refine ⟨fun h => Decidable.by_contra fun hn => ?_, bytes_lt⟩
  by_cases he : s = t
  · rw [he] at h
    exact List.lt_irrefl _ h
  · have hle : t ≤ s := String.not_lt.1 hn
    have hts : t < s :=
      Decidable.by_contra fun hts => he (String.le_antisymm (String.not_lt.1 hts) hle)
    exact List.lt_asymm h (bytes_lt hts)

end Sluice.Text
