import Sluice.Json.Value
import Sluice.Proofs.Text.Ascii

/-!
# Tokens read back

A string, as it is written, is read as that string (`bytes_writtenString`), and the digits of a
whole number as that number (`number_digits`), whatever stands after them; only a number must not go
on.  Strings are read character by character: each is written as it stands, or as one escape that
gives its bytes back.
-/

namespace Sluice.Json

/-! ## Strings -/

/-- The byte stands for itself in a string. -/
def IsPlain (b : UInt8) : Prop := b ≠ 0x22 ∧ b ≠ 0x5C ∧ ¬b < 0x20

theorem stringBytes_plain {b : List UInt8} (h : ∀ x ∈ b, IsPlain x) (read s : List UInt8) :
    stringBytes read (b ++ s) = stringBytes (b.reverse ++ read) s := by
  induction b generalizing read with
  | nil => rfl
  | cons x b ih =>
    obtain ⟨hquote, hslash, hcontrol⟩ := h x List.mem_cons_self
    rw [List.cons_append, stringBytes, if_neg hquote, if_neg hslash, if_neg hcontrol,
      ih (fun y hy => h y (List.mem_cons_of_mem x hy)), List.reverse_cons, List.append_assoc]
    rfl

theorem stringBytes_escape {b s t : List UInt8} (h : escape s = .ok (b, t)) (read : List UInt8) :
    stringBytes read (0x5C :: s) = stringBytes (b.reverse ++ read) t := by
  rw [stringBytes, if_neg (by decide), if_pos rfl]
  split
  · rename_i he
    rw [h] at he
    cases he
  · rename_i he
    rw [h] at he
    cases he
    rfl

theorem isPlain_of_mem_encode {c : Char} (hquote : c ≠ '\x22') (hslash : c ≠ '\\')
    (hcontrol : ¬c.toNat < 0x20) : ∀ b ∈ String.utf8EncodeChar c, IsPlain b := by
  intro b hb
  by_cases hc : c.toNat < 0x80
  · rw [Text.encode_of_lt hc, List.mem_singleton] at hb
    subst hb
    refine ⟨fun h => hquote ?_, fun h => hslash ?_, fun h => hcontrol ?_⟩
    · exact Text.byteOf_inj hc (by decide) h
    · exact Text.byteOf_inj hc (by decide) h
    · rwa [UInt8.lt_iff_toNat_lt, Text.toNat_byteOf hc] at h
  · have hle := UInt8.le_iff_toNat_le.1 (Text.le_of_mem_encode (Nat.le_of_not_lt hc) b hb)
    refine ⟨?_, ?_, fun h => ?_⟩
    · rintro rfl
      exact absurd hle (by decide)
    · rintro rfl
      exact absurd hle (by decide)
    · exact absurd (Nat.lt_of_le_of_lt hle (UInt8.lt_iff_toNat_lt.1 h)) (by decide)

/-- A hexadecimal digit is written as one byte, which has its value. -/
theorem encode_digitChar {n : Nat} (h : n < 16) :
    ∃ b, String.utf8EncodeChar (Nat.digitChar n) = [b] ∧ Text.hexValue? b = some n := by
  have key : ∀ n < 16, String.utf8EncodeChar (Nat.digitChar n) = [Text.byteOf (Nat.digitChar n)] ∧
      Text.hexValue? (Text.byteOf (Nat.digitChar n)) = some n := by decide
  exact ⟨_, key n h⟩

theorem escape_control {n : Nat} {high low : UInt8} (hn : n < 0x20)
    (hhigh : Text.hexValue? high = some (n / 16)) (hlow : Text.hexValue? low = some (n % 16))
    (s : List UInt8) :
    escape (0x75 :: 0x30 :: 0x30 :: high :: low :: s) = .ok (codeBytes n, s) := by
  have hzero : Text.hexValue? 0x30 = some 0 := rfl
  have hvalue : ((0 * 16 + 0) * 16 + n / 16) * 16 + n % 16 = n := by omega
  have hfour : fourHex (0x30 :: 0x30 :: high :: low :: s) = .ok (n, s) := by
    rw [fourHex]
    simp only [hzero, hhigh, hlow, hvalue]
  have hletter : letterEscape? 0x75 = none := rfl
  rw [escape, hletter]
  dsimp only
  rw [if_pos rfl, numberEscape, hfour]
  dsimp only
  rw [if_neg (by omega), if_pos (.inl (by omega))]

/-- A character is read as its bytes, in whatever way it is written. -/
theorem stringBytes_writtenChar (read : List UInt8) (c : Char) (s : List UInt8) :
    stringBytes read ((writtenChar c).flatMap String.utf8EncodeChar ++ s) =
      stringBytes ((String.utf8EncodeChar c).reverse ++ read) s := by
  unfold writtenChar
  iterate 7
    split
    · rename_i h
      subst h
      exact stringBytes_escape rfl read
  split
  · rename_i hc
    obtain ⟨high, hhigh, hhigh'⟩ := encode_digitChar (n := c.toNat / 16) (by omega)
    obtain ⟨low, hlow, hlow'⟩ := encode_digitChar (n := c.toNat % 16) (by omega)
    have hesc := escape_control hc hhigh' hlow' s
    rw [codeBytes, Char.ofNat_toNat] at hesc
    simp only [List.flatMap_cons, List.flatMap_nil, hhigh, hlow]
    exact stringBytes_escape hesc read
  · rename_i hquote hslash _ _ _ _ _ hc
    rw [List.flatMap_singleton]
    exact stringBytes_plain (isPlain_of_mem_encode hquote hslash hc) read s

theorem stringBytes_written (read : List UInt8) (cs : List Char) (s : List UInt8) :
    stringBytes read ((cs.flatMap writtenChar).flatMap String.utf8EncodeChar ++ 0x22 :: s) =
      .ok (read.reverse ++ cs.flatMap String.utf8EncodeChar, s) := by
  induction cs generalizing read with
  | nil =>
    rw [List.flatMap_nil, List.flatMap_nil, List.nil_append, stringBytes, if_pos rfl,
      List.append_nil]
  | cons c cs ih =>
    rw [List.flatMap_cons, List.flatMap_append, List.append_assoc, stringBytes_writtenChar, ih]
    simp

/-- The bytes of a written string: a quote and, after it, what is read as the string. -/
theorem bytes_writtenString (x : String) : ∃ b, Text.bytes (writtenString x) = 0x22 :: b ∧
    ∀ s, string (b ++ s) = .ok (x, s) := by
  have hquote : String.utf8EncodeChar '\x22' = [0x22] := rfl
  refine ⟨(x.toList.flatMap writtenChar).flatMap String.utf8EncodeChar ++ [0x22], ?_, fun s => ?_⟩
  · rw [Text.bytes_eq_flatMap, writtenString, String.toList_ofList, List.flatMap_append,
      List.flatMap_cons, hquote]
    simp [hquote]
  · rw [List.append_assoc, List.singleton_append, string, stringBytes_written, List.reverse_nil,
      List.nil_append, ← Text.bytes_eq_flatMap]
    dsimp only
    rw [Text.ofBytes?_bytes]

/-! ## Whole numbers -/

/-- A value may end before these bytes: there are none, or they begin with a comma or a closing
bracket. -/
def Closes (s : List UInt8) : Prop := ∀ b, s.head? = some b → b = 0x2C ∨ b = 0x5D ∨ b = 0x7D

theorem closes_nil : Closes [] := nofun

theorem closes_cons {b : UInt8} (h : b = 0x2C ∨ b = 0x5D ∨ b = 0x7D) (s : List UInt8) :
    Closes (b :: s) := by
  rintro c ⟨⟩
  exact h

theorem isDigit_byteOf {c : Char} (h : c.isDigit = true) : isDigit (Text.byteOf c) = true := by
  have hc := Text.toNat_of_isDigit h
  have h30 : (0x30 : UInt8).toNat = 48 := rfl
  have h39 : (0x39 : UInt8).toNat = 57 := rfl
  simp only [isDigit, Bool.and_eq_true, decide_eq_true_eq, UInt8.le_iff_toNat_le,
    Text.toNat_byteOf (Text.lt_of_isDigit h)]
  omega

theorem not_isDigit_of_closes {b : UInt8} (h : b = 0x2C ∨ b = 0x5D ∨ b = 0x7D) :
    isDigit b = false := by
  rcases h with rfl | rfl | rfl <;> rfl

theorem le_ofDigitChars (ds : List Char) (n : Nat) : n ≤ Nat.ofDigitChars 10 ds n := by
  have hpow : 0 < 10 ^ ds.length := Nat.pow_pos (by decide)
  rw [Nat.ofDigitChars_eq_ofDigitChars_zero]
  exact Nat.le_trans (Nat.le_mul_of_pos_left n hpow) (Nat.le_add_right _ _)

theorem digitsBelow_closes {s : List UInt8} (hs : Closes s) (limit n : Nat) :
    digitsBelow limit n s = (n, s) := by
  cases s with
  | nil => rfl
  | cons b s =>
    have hb := not_isDigit_of_closes (hs b rfl)
    simp [digitsBelow, hb]

/-- Digits are all taken in if their number fits. -/
theorem digitsBelow_digits {limit : Nat} {ds : List Char} {s : List UInt8} (n : Nat)
    (hd : ∀ c ∈ ds, c.isDigit = true) (hle : Nat.ofDigitChars 10 ds n ≤ limit) (hs : Closes s) :
    digitsBelow limit n (ds.map Text.byteOf ++ s) = (Nat.ofDigitChars 10 ds n, s) := by
  induction ds generalizing n with
  | nil => exact digitsBelow_closes hs limit n
  | cons c ds ih =>
    have hc := hd c List.mem_cons_self
    have hnext : n * 10 + ((Text.byteOf c).toNat - 0x30) = 10 * n + (c.toNat - '0'.toNat) := by
      rw [Text.toNat_byteOf (Text.lt_of_isDigit hc), Nat.mul_comm]
      rfl
    rw [Nat.ofDigitChars_cons] at hle ⊢
    have hfits := Nat.le_trans (le_ofDigitChars ds _) hle
    rw [List.map_cons, List.cons_append, digitsBelow, hnext, isDigit_byteOf hc, Bool.true_and,
      if_pos (decide_eq_true hfits)]
    exact ih _ (fun d h => hd d (List.mem_cons_of_mem c h)) hle

/-- A number that is not zero does not begin with the digit zero. -/
theorem toDigits_of_pos {n : Nat} (h : 0 < n) :
    ∃ d ds, Nat.toDigits 10 n = d :: ds ∧ d ≠ '0' := by
  induction n using Nat.strongRecOn with
  | ind n ih =>
    by_cases hn : n < 10
    · have hchar : ∀ m < 10, 0 < m → Nat.digitChar m ≠ '0' := by decide
      exact ⟨_, [], Nat.toDigits_of_lt_base hn, hchar n hn h⟩
    · obtain ⟨d, ds, hds, hd⟩ := ih (n / 10) (by omega) (by omega)
      refine ⟨d, ds ++ [Nat.digitChar (n % 10)], ?_, hd⟩
      rw [Nat.toDigits_of_base_le (by decide) (Nat.le_of_not_lt hn), hds]
      rfl

theorem afterWhole_closes {s : List UInt8} (hs : Closes s) (positive : Bool) (n : Nat) :
    afterWhole positive n s = .ok (afterWhole.wholeNumber positive n, s) := by
  cases s with
  | nil => rfl
  | cons b s => rcases hs b rfl with rfl | rfl | rfl <;> rfl

/-- The digits of a number of 64 bits are read as that number; its sign was read before. -/
theorem number_digits {n : Nat} {s : List UInt8} (hn : n ≤ wholeLimit) (hs : Closes s)
    (positive : Bool) : number positive ((Nat.toDigits 10 n).map Text.byteOf ++ s) =
      .ok (afterWhole.wholeNumber positive n, s) := by
  obtain rfl | hpos := Nat.eq_zero_or_pos n
  · have hzero : (Nat.toDigits 10 0).map Text.byteOf ++ s = 0x30 :: s := rfl
    rw [hzero]
    cases s with
    | nil => exact afterWhole_closes hs positive 0
    | cons b s =>
      rw [number.eq_def]
      dsimp only
      rw [if_pos rfl, not_isDigit_of_closes (hs b rfl)]
      exact afterWhole_closes hs positive 0
  · obtain ⟨d, ds, hds, hd⟩ := toDigits_of_pos hpos
    have hdigit : ∀ c ∈ d :: ds, c.isDigit = true := by
      rw [← hds]
      exact fun c => Nat.isDigit_of_mem_toDigits (by decide) (by decide)
    have hfirst := hdigit d List.mem_cons_self
    have hnotZero : Text.byteOf d ≠ 0x30 := fun h =>
      hd (Text.byteOf_inj (Text.lt_of_isDigit hfirst) (by decide) h)
    have hvalue : Nat.ofDigitChars 10 ds ((Text.byteOf d).toNat - 0x30) = n := by
      have h := Nat.ofDigitChars_ten_toDigits (n := n)
      rw [hds, Nat.ofDigitChars_cons, Nat.mul_zero, Nat.zero_add] at h
      rw [Text.toNat_byteOf (Text.lt_of_isDigit hfirst)]
      exact h
    have htaken : digitsBelow wholeLimit ((Text.byteOf d).toNat - 0x30) (ds.map Text.byteOf ++ s) =
        (n, s) := by
      rw [digitsBelow_digits _ (fun c hc => hdigit c (List.mem_cons_of_mem d hc)) (by rwa [hvalue])
        hs, hvalue]
    rw [hds, List.map_cons, List.cons_append, number.eq_def]
    dsimp only
    rw [if_neg hnotZero, if_pos (isDigit_byteOf hfirst), htaken]
    cases s with
    | nil => exact afterWhole_closes hs positive n
    | cons b s =>
      dsimp only
      rw [not_isDigit_of_closes (hs b rfl)]
      exact afterWhole_closes hs positive n

end Sluice.Json
