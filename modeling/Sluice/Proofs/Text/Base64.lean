import Sluice.Text.Base64

/-!
# Base64 read back

What is written in base64 is read as the bytes that were written (`decode_encode`).  Writing takes
three bytes at a time and reading four symbols, but for the last group, which is read in a way of
its own; so the induction goes by groups, with a lemma for each form of the last one.
-/

namespace Sluice.Text.Base64

/-! ## Symbols -/

theorem sextet?_symbol {n : Nat} (h : n < 64) : sextet? (symbol n) = some n := by
  decide +revert

theorem symbol_ne_pad {n : Nat} (h : n < 64) : symbol n ≠ pad := by
  decide +revert

theorem symbol_lt {n : Nat} (h : n < 64) : symbol n < 0x80 := by
  decide +revert

/-! ## Writing by groups -/

theorem encodeGroups_append (written before b : List UInt8) :
    encodeGroups (written ++ before) b = before.reverse ++ encodeGroups written b := by
  fun_induction encodeGroups written b with
  | case1 => simp [encodeGroups]
  | case2 => simp [encodeGroups]
  | case3 => simp [encodeGroups]
  | case4 written a b c r ih => exact ih

theorem encode_one (a : UInt8) :
    encode [a] = [symbol (a.toNat / 4), symbol (a.toNat % 4 * 16), pad, pad] := rfl

theorem encode_two (a b : UInt8) : encode [a, b] =
    [symbol (a.toNat / 4), symbol (a.toNat % 4 * 16 + b.toNat / 16), symbol (b.toNat % 16 * 4),
      pad] := rfl

/-- A whole group is four symbols before the others. -/
theorem encode_three (a b c : UInt8) (r : List UInt8) : encode (a :: b :: c :: r) =
    symbol (a.toNat / 4) :: symbol (a.toNat % 4 * 16 + b.toNat / 16) ::
      symbol (b.toNat % 16 * 4 + c.toNat / 64) :: symbol (c.toNat % 64) :: encode r :=
  encodeGroups_append [] _ r

/-! ## Reading the last group -/

section Last

variable {k l m n place : Nat}

theorem decodeLast_one (hk : k < 64) (hl : l < 64) (h0 : l % 16 = 0) :
    decodeLast place [symbol k, symbol l, pad, pad] = .ok [UInt8.ofNat (k * 4 + l / 16)] := by
  simp [decodeLast, lastSymbols, symbol_ne_pad, sextet?_symbol, hk, hl, h0]

theorem decodeLast_two (hk : k < 64) (hl : l < 64) (hm : m < 64) (h0 : m % 4 = 0) :
    decodeLast place [symbol k, symbol l, symbol m, pad] =
      .ok [UInt8.ofNat (k * 4 + l / 16), UInt8.ofNat (l % 16 * 16 + m / 4)] := by
  simp [decodeLast, lastSymbols, symbol_ne_pad, sextet?_symbol, hk, hl, hm, h0]

theorem decodeLast_three (hk : k < 64) (hl : l < 64) (hm : m < 64) (hn : n < 64) :
    decodeLast place [symbol k, symbol l, symbol m, symbol n] =
      .ok [UInt8.ofNat (k * 4 + l / 16), UInt8.ofNat (l % 16 * 16 + m / 4),
        UInt8.ofNat (m % 4 * 64 + n)] := by
  simp [decodeLast, lastSymbols, symbol_ne_pad, sextet?_symbol, hk, hl, hm, hn]

end Last

/-! ## The bits of a byte -/

section Bits

variable (a b c : UInt8)

theorem first_of_bits :
    UInt8.ofNat (a.toNat / 4 * 4 + (a.toNat % 4 * 16 + b.toNat / 16) / 16) = a := by
  have hb := b.toNat_lt
  have h : a.toNat / 4 * 4 + (a.toNat % 4 * 16 + b.toNat / 16) / 16 = a.toNat := by omega
  rw [h, UInt8.ofNat_toNat]

theorem second_of_bits :
    UInt8.ofNat ((a.toNat % 4 * 16 + b.toNat / 16) % 16 * 16 +
      (b.toNat % 16 * 4 + c.toNat / 64) / 4) = b := by
  have hb := b.toNat_lt
  have hc := c.toNat_lt
  have h : (a.toNat % 4 * 16 + b.toNat / 16) % 16 * 16 +
      (b.toNat % 16 * 4 + c.toNat / 64) / 4 = b.toNat := by omega
  rw [h, UInt8.ofNat_toNat]

theorem third_of_bits :
    UInt8.ofNat ((b.toNat % 16 * 4 + c.toNat / 64) % 4 * 64 + c.toNat % 64) = c := by
  have hc := c.toNat_lt
  have h : (b.toNat % 16 * 4 + c.toNat / 64) % 4 * 64 + c.toNat % 64 = c.toNat := by omega
  rw [h, UInt8.ofNat_toNat]

end Bits

/-! ## Reading by groups -/

theorem sextetAt_symbol {n : Nat} (h : n < 64) (place : Nat) :
    sextetAt (symbol n) place = .ok n := by
  rw [sextetAt, sextet?_symbol h]

/-- A group that has a byte after it is read as three bytes. -/
theorem decodeGroups_symbols {k l m n : Nat} (hk : k < 64) (hl : l < 64) (hm : m < 64)
    (hn : n < 64) (place : Nat) (read : List UInt8) (e : UInt8) (r : List UInt8) :
    decodeGroups place read (symbol k :: symbol l :: symbol m :: symbol n :: e :: r) =
      decodeGroups (place + 4) (UInt8.ofNat (m % 4 * 64 + n) ::
        UInt8.ofNat (l % 16 * 16 + m / 4) :: UInt8.ofNat (k * 4 + l / 16) :: read) (e :: r) := by
  rw [decodeGroups, sextetAt_symbol hk, sextetAt_symbol hl, sextetAt_symbol hm, sextetAt_symbol hn]
  rfl

theorem decodeGroups_last (place : Nat) (read : List UInt8) (w x y z : UInt8) :
    decodeGroups place read [w, x, y, z] =
      (decodeLast place [w, x, y, z]).map (read.reverse ++ ·) := by
  simp [decodeGroups]

theorem encode_ne_nil (a : UInt8) (r : List UInt8) : encode (a :: r) ≠ [] := by
  match r with
  | [] => simp [encode_one]
  | [b] => simp [encode_two]
  | b :: c :: r => simp [encode_three]

theorem decodeGroups_encode (place : Nat) (read b : List UInt8) :
    decodeGroups place read (encode b) = .ok (read.reverse ++ b) := by
  match b with
  | [] => simp [encode, encodeGroups, decodeGroups]
  | [a] =>
    have ha := a.toNat_lt
    have hfirst := first_of_bits a 0
    simp only [UInt8.toNat_zero, Nat.zero_div, Nat.add_zero] at hfirst
    rw [encode_one, decodeGroups_last, decodeLast_one (by omega) (by omega) (by omega), hfirst]
    rfl
  | [a, b] =>
    have ha := a.toNat_lt
    have hb := b.toNat_lt
    have hsecond := second_of_bits a b 0
    simp only [UInt8.toNat_zero, Nat.zero_div, Nat.add_zero] at hsecond
    rw [encode_two, decodeGroups_last, decodeLast_two (by omega) (by omega) (by omega) (by omega),
      first_of_bits, hsecond]
    rfl
  | [a, b, c] =>
    have ha := a.toNat_lt
    have hb := b.toNat_lt
    have hc := c.toNat_lt
    rw [encode_three, encode, encodeGroups, List.reverse_nil, decodeGroups_last,
      decodeLast_three (by omega) (by omega) (by omega) (by omega), first_of_bits, second_of_bits,
      third_of_bits]
    rfl
  | a :: b :: c :: d :: r =>
    have ha := a.toNat_lt
    have hb := b.toNat_lt
    have hc := c.toNat_lt
    obtain ⟨e, r', hr⟩ := List.exists_cons_of_ne_nil (encode_ne_nil d r)
    have ih := decodeGroups_encode (place + 4) (c :: b :: a :: read) (d :: r)
    rw [encode_three, hr, decodeGroups_symbols (by omega) (by omega) (by omega) (by omega),
      first_of_bits, second_of_bits, third_of_bits, ← hr, ih]
    simp

theorem length_encode_mod (b : List UInt8) : (encode b).length % 4 = 0 := by
  match b with
  | [] => rfl
  | [a] => simp [encode_one]
  | [a, b] => simp [encode_two]
  | a :: b :: c :: r =>
    have ih := length_encode_mod r
    rw [encode_three]
    simp only [List.length_cons]
    omega

/-- What was written is read as the bytes that were written. -/
theorem decode_encode (b : List UInt8) : decode (encode b) = .ok b := by
  have hstray : strayLast? (encode b) = none := by
    rw [strayLast?, length_encode_mod, if_neg (by decide)]
  rw [decode, hstray]
  exact decodeGroups_encode 0 [] b

theorem lt_of_mem_encode (b : List UInt8) : ∀ x ∈ encode b, x < 0x80 := by
  have hpad : pad < 0x80 := by decide
  match b with
  | [] =>
    intro x hx
    cases hx
  | [a] =>
    have ha := a.toNat_lt
    rw [encode_one]
    simp only [List.forall_mem_cons]
    exact ⟨symbol_lt (by omega), symbol_lt (by omega), hpad, hpad, nofun⟩
  | [a, b] =>
    have ha := a.toNat_lt
    have hb := b.toNat_lt
    rw [encode_two]
    simp only [List.forall_mem_cons]
    exact ⟨symbol_lt (by omega), symbol_lt (by omega), symbol_lt (by omega), hpad, nofun⟩
  | a :: b :: c :: r =>
    have ha := a.toNat_lt
    have hb := b.toNat_lt
    have hc := c.toNat_lt
    rw [encode_three]
    simp only [List.forall_mem_cons]
    exact ⟨symbol_lt (by omega), symbol_lt (by omega), symbol_lt (by omega), symbol_lt (by omega),
      lt_of_mem_encode r⟩

end Sluice.Text.Base64
