import Mathlib.Tactic.SplitIfs
import Sluice.Proofs.Text.Order

/-!
# ASCII in texts

A character of ASCII is one byte, the byte of its number, and all bytes of the other characters are
above ASCII; so a byte of ASCII in a text stands for its character wherever it is found.
-/

namespace Sluice.Text

/-- The byte of a character of ASCII. -/
def byteOf (c : Char) : UInt8 := UInt8.ofNat c.toNat

theorem toNat_byteOf {c : Char} (h : c.toNat < 0x80) : (byteOf c).toNat = c.toNat :=
  UInt8.toNat_ofNat_of_lt' (Nat.lt_trans h (by decide))

theorem byteOf_inj {c d : Char} (hc : c.toNat < 0x80) (hd : d.toNat < 0x80)
    (h : byteOf c = byteOf d) : c = d := by
  rw [← Char.ofNat_toNat c, ← Char.ofNat_toNat d, ← toNat_byteOf hc, ← toNat_byteOf hd, h]

theorem encode_of_lt {c : Char} (h : c.toNat < 0x80) : String.utf8EncodeChar c = [byteOf c] := by
  have hc : c.val.toNat = c.toNat := rfl
  unfold String.utf8EncodeChar
  simp only [hc]
  rw [if_pos (by omega)]
  rfl

theorem toNat_of_isDigit {c : Char} (h : c.isDigit = true) : 48 ≤ c.toNat ∧ c.toNat ≤ 57 := by
  simpa [Char.isDigit, UInt32.le_iff_toNat_le] using h

theorem lt_of_isDigit {c : Char} (h : c.isDigit = true) : c.toNat < 0x80 :=
  Nat.lt_of_le_of_lt (toNat_of_isDigit h).2 (by decide)

theorem toNat_ofNat_of_lt {n : Nat} (h : n < 0x80) : (Char.ofNat n).toNat = n := by
  unfold Char.ofNat
  rw [dif_pos (.inl (by omega))]
  rfl

theorem bytes_ofList {cs : List Char} (h : ∀ c ∈ cs, c.toNat < 0x80) :
    bytes (String.ofList cs) = cs.map byteOf := by
  rw [bytes_eq_flatMap, String.toList_ofList]
  induction cs with
  | nil => rfl
  | cons c cs ih =>
    rw [List.flatMap_cons, encode_of_lt (h c List.mem_cons_self),
      ih fun d hd => h d (List.mem_cons_of_mem c hd)]
    rfl

/-- Bytes of ASCII are those of the text of their characters. -/
theorem bytes_ofList_map {v : List UInt8} (h : ∀ b ∈ v, b < 0x80) :
    bytes (String.ofList (v.map fun b => Char.ofNat b.toNat)) = v := by
  have hchar : ∀ b ∈ v, (Char.ofNat b.toNat).toNat = b.toNat := fun b hb =>
    toNat_ofNat_of_lt (UInt8.lt_iff_toNat_lt.1 (h b hb))
  rw [bytes_ofList, List.map_map]
  · refine (List.map_congr_left fun b hb => ?_).trans (List.map_id v)
    rw [Function.comp_apply, byteOf, hchar b hb, UInt8.ofNat_toNat, id]
  · rintro c hc
    obtain ⟨b, hb, rfl⟩ := List.mem_map.1 hc
    rw [hchar b hb]
    exact UInt8.lt_iff_toNat_lt.1 (h b hb)

/-- A byte made from a digit and a mark above ASCII is above ASCII. -/
theorem le_byte {n k m : Nat} (hm : 0 < m) (hk : 0x80 ≤ k) (h : m + k ≤ 256) :
    0x80 ≤ UInt8.ofNat (n % m + k) := by
  have hn := Nat.mod_lt n hm
  rw [UInt8.le_iff_toNat_le, UInt8.toNat_ofNat_of_lt' (by simp only [UInt8.size]; omega)]
  exact Nat.le_trans hk (Nat.le_add_left k _)

theorem le_of_mem_encode {c : Char} (h : 0x80 ≤ c.toNat) :
    ∀ b ∈ String.utf8EncodeChar c, 0x80 ≤ b := by
  have hc : 0x80 ≤ c.val.toNat := h
  unfold String.utf8EncodeChar
  dsimp only
  split_ifs
  · omega
  -- Two, three and four bytes, each with a mark of its own.
  all_goals
    simp (disch := decide) only [List.forall_mem_cons, le_byte, List.not_mem_nil, true_and,
      false_imp_iff, implies_true]

end Sluice.Text
