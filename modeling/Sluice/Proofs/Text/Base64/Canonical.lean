import Mathlib.Algebra.Group.Nat.Defs
import Sluice.Proofs.Text.Base64

/-!
# Base64 is read in one form

A text is read as some bytes only if it is what is written for them (`decode_eq_ok`).  Any text
that is read has the form of `Whole`: symbols in groups of four, of which the last may be filled up
by one pad or two, and no bits left over (`of_decode`).  Of such symbols bytes can be made that are
written by them (`exists_encode`), and these are read back.  So what was read can only have been
these bytes.

`Canonical` tells this form by the characters of a text, without a word on bits: symbols of the
alphabet and then pads (`canonical_iff_whole`).
-/

namespace Sluice.Text.Base64

/-! ## Symbols and pads -/

theorem symbol_of_sextet? {c : UInt8} {n : Nat} (h : sextet? c = some n) :
    n < 64 ∧ c = symbol n := by
  have hall : ∀ c : Fin 256, ∀ n ∈ sextet? (UInt8.ofFin c), n < 64 ∧ UInt8.ofFin c = symbol n := by
    decide +kernel
  exact hall c.toFin n h

/-- The text of some symbols, with some pads after them. -/
def padded (ns : List Nat) (pads : Nat) : List UInt8 := ns.map symbol ++ List.replicate pads pad

/-- Symbols that are whole bytes with so many pads in place of the rest. -/
structure Whole (ns : List Nat) (pads : Nat) : Prop where
  lt : ∀ n ∈ ns, n < 64
  /-- A byte takes at least two symbols. -/
  pads_le : pads ≤ 2
  /-- The groups are of four. -/
  groups : (ns.length + pads) % 4 = 0
  /-- The bits of the last symbol that are part of no byte are zero. -/
  zero : ∀ n ∈ ns.getLast?, n % 4 ^ pads = 0

section Whole

variable {i j k l pads : Nat} {ns : List Nat}

theorem Whole.group (h : Whole ns pads) (hi : i < 64) (hj : j < 64) (hk : k < 64) (hl : l < 64) :
    Whole (i :: j :: k :: l :: ns) pads := by
  obtain ⟨hlt, hpads, hgroups, hzero⟩ := h
  refine ⟨?_, hpads, by simp only [List.length_cons]; omega, fun n hn => ?_⟩
  · simp only [List.forall_mem_cons]
    exact ⟨hi, hj, hk, hl, hlt⟩
  cases ns with
  | nil =>
    have hnone : pads = 0 := by
      simp only [List.length_nil] at hgroups
      omega
    rw [hnone, Nat.pow_zero, Nat.mod_one]
  | cons m ns => exact hzero n hn

theorem Whole.rest (h : Whole (i :: j :: k :: l :: ns) pads) : Whole ns pads := by
  obtain ⟨hlt, hpads, hgroups, hzero⟩ := h
  simp only [List.forall_mem_cons] at hlt
  refine ⟨hlt.2.2.2.2, hpads, by simp only [List.length_cons] at hgroups; omega, fun n hn => ?_⟩
  refine hzero n ?_
  cases ns with
  | nil => cases hn
  | cons m ns => exact hn

end Whole

/-! ## Bytes of symbols -/

section Encode

variable {i j k l : Nat}

theorem toNat_first (hi : i < 64) (hj : j < 64) :
    (UInt8.ofNat (i * 4 + j / 16)).toNat = i * 4 + j / 16 :=
  UInt8.toNat_ofNat_of_lt' (by simp only [UInt8.size]; omega)

theorem toNat_second (hk : k < 64) :
    (UInt8.ofNat (j % 16 * 16 + k / 4)).toNat = j % 16 * 16 + k / 4 :=
  UInt8.toNat_ofNat_of_lt' (by simp only [UInt8.size]; omega)

theorem toNat_third (hl : l < 64) : (UInt8.ofNat (k % 4 * 64 + l)).toNat = k % 4 * 64 + l :=
  UInt8.toNat_ofNat_of_lt' (by simp only [UInt8.size]; omega)

theorem encode_byte (hi : i < 64) (hj : j < 64) (hzero : j % 16 = 0) :
    encode [UInt8.ofNat (i * 4 + j / 16)] = [symbol i, symbol j, pad, pad] := by
  have hfirst : (i * 4 + j / 16) / 4 = i := by omega
  have hsecond : (i * 4 + j / 16) % 4 * 16 = j := by omega
  rw [encode_one, toNat_first hi hj, hfirst, hsecond]

theorem encode_bytes (hi : i < 64) (hj : j < 64) (hk : k < 64) (hzero : k % 4 = 0) :
    encode [UInt8.ofNat (i * 4 + j / 16), UInt8.ofNat (j % 16 * 16 + k / 4)] =
      [symbol i, symbol j, symbol k, pad] := by
  have hfirst : (i * 4 + j / 16) / 4 = i := by omega
  have hsecond : (i * 4 + j / 16) % 4 * 16 + (j % 16 * 16 + k / 4) / 16 = j := by omega
  have hthird : (j % 16 * 16 + k / 4) % 16 * 4 = k := by omega
  rw [encode_two, toNat_first hi hj, toNat_second hk, hfirst, hsecond, hthird]

theorem encode_group (hi : i < 64) (hj : j < 64) (hk : k < 64) (hl : l < 64) (b : List UInt8) :
    encode (UInt8.ofNat (i * 4 + j / 16) :: UInt8.ofNat (j % 16 * 16 + k / 4) ::
        UInt8.ofNat (k % 4 * 64 + l) :: b) =
      symbol i :: symbol j :: symbol k :: symbol l :: encode b := by
  have hfirst : (i * 4 + j / 16) / 4 = i := by omega
  have hsecond : (i * 4 + j / 16) % 4 * 16 + (j % 16 * 16 + k / 4) / 16 = j := by omega
  have hthird : (j % 16 * 16 + k / 4) % 16 * 4 + (k % 4 * 64 + l) / 64 = k := by omega
  have hfourth : (k % 4 * 64 + l) % 64 = l := by omega
  rw [encode_three, toNat_first hi hj, toNat_second hk, toNat_third hl, hfirst, hsecond, hthird,
    hfourth]

end Encode

/-- Whole bytes are written by their symbols. -/
theorem exists_encode {ns : List Nat} {pads : Nat} (h : Whole ns pads) :
    ∃ b, encode b = padded ns pads := by
  have hpads := h.pads_le
  have hgroups := h.groups
  have hlt := h.lt
  have hzero := h.zero
  match ns with
  | [] =>
    simp only [List.length_nil] at hgroups
    obtain rfl : pads = 0 := by omega
    exact ⟨[], rfl⟩
  | [i] =>
    simp only [List.length_singleton] at hgroups
    omega
  | [i, j] =>
    simp only [List.length_cons, List.length_nil] at hgroups
    obtain rfl : pads = 2 := by omega
    exact ⟨_, encode_byte (hlt i (by simp)) (hlt j (by simp)) (hzero j (by simp))⟩
  | [i, j, k] =>
    simp only [List.length_cons, List.length_nil] at hgroups
    obtain rfl : pads = 1 := by omega
    exact ⟨_, encode_bytes (hlt i (by simp)) (hlt j (by simp)) (hlt k (by simp))
      (hzero k (by simp))⟩
  | i :: j :: k :: l :: ns =>
    obtain ⟨b, hb⟩ := exists_encode h.rest
    simp only [List.forall_mem_cons] at hlt
    refine ⟨_, (encode_group hlt.1 hlt.2.1 hlt.2.2.1 hlt.2.2.2.1 b).trans ?_⟩
    rw [hb]
    rfl

/-! ## What is read -/

/-- The last group is symbols and after them pads. -/
theorem of_lastSymbols {place taken : Nat} {symbols read : List (UInt8 × Nat)}
    {firstPad lastPad : Option Nat} {group : List UInt8}
    (h : lastSymbols place taken symbols firstPad group = .ok (read, lastPad)) :
    ∃ more pads, group = more.map (·.1) ++ List.replicate pads pad ∧
      read = symbols.reverse ++ more ∧ (∀ x ∈ more, sextet? x.1 = some x.2) ∧
      (firstPad.isSome → more = []) := by
  induction group generalizing place taken symbols firstPad with
  | nil =>
    cases h
    exact ⟨[], 0, rfl, (List.append_nil _).symm, nofun, fun _ => rfl⟩
  | cons c group ih =>
    unfold lastSymbols at h
    split at h
    · rename_i hpad
      split at h
      · cases h
      · obtain ⟨more, pads, hgroup, hread, -, hmore⟩ := ih h
        obtain rfl := hmore rfl
        refine ⟨[], pads + 1, ?_, hread, nofun, fun _ => rfl⟩
        rw [hpad, hgroup]
        rfl
    · split at h
      · cases h
      · cases h
      · rename_i n hn
        obtain ⟨more, pads, hgroup, hread, hmore, -⟩ := ih h
        refine ⟨(c, n) :: more, pads, ?_, ?_, List.forall_mem_cons.2 ⟨hn, hmore⟩, nofun⟩
        · rw [hgroup]
          rfl
        · rw [hread, List.reverse_cons, List.append_assoc]
          rfl

/-- Symbols with their bits are the symbols of these bits. -/
theorem map_symbol_of_sextet? {symbols : List (UInt8 × Nat)}
    (h : ∀ x ∈ symbols, sextet? x.1 = some x.2) :
    symbols.map (·.1) = (symbols.map (·.2)).map symbol := by
  rw [List.map_map]
  exact List.map_congr_left fun x hx => (symbol_of_sextet? (h x hx)).2

theorem of_decodeLast {place : Nat} {group b : List UInt8} (h : decodeLast place group = .ok b) :
    ∃ ns pads, Whole ns pads ∧ group = padded ns pads := by
  unfold decodeLast at h
  split at h
  · cases h
  rename_i symbols firstPad hlast
  obtain ⟨more, pads, hgroup, hread, hsymbols, -⟩ := of_lastSymbols hlast
  rw [List.reverse_nil, List.nil_append] at hread
  subst hread
  split at h
  · cases h
  rename_i htwo
  split at h
  · cases h
  rename_i hfour
  have hlength : symbols.length + pads = 4 := by
    rw [Decidable.not_not, hgroup] at hfour
    simpa using hfour
  have hzero : ∀ n ∈ (symbols.map (·.2)).getLast?, n % 4 ^ pads = 0 := by
    split at h
    · split at h
      · rename_i hbits
        obtain rfl : pads = 2 := Nat.add_left_cancel hlength
        rintro n ⟨⟩
        exact hbits
      · cases h
    · split at h
      · rename_i hbits
        obtain rfl : pads = 1 := Nat.add_left_cancel hlength
        rintro n ⟨⟩
        exact hbits
      · cases h
    · obtain rfl : pads = 0 := Nat.add_left_cancel hlength
      exact fun n _ => Nat.mod_one n
    · cases h
  refine ⟨symbols.map (·.2), pads, ⟨?_, by omega, ?_, hzero⟩, ?_⟩
  · rintro n hn
    obtain ⟨x, hx, rfl⟩ := List.mem_map.1 hn
    exact (symbol_of_sextet? (hsymbols x hx)).1
  · rw [List.length_map, hlength]
  · rw [hgroup, padded, map_symbol_of_sextet? hsymbols]

theorem of_sextetAt {c : UInt8} {place n : Nat} (h : sextetAt c place = .ok n) :
    n < 64 ∧ c = symbol n := by
  unfold sextetAt at h
  split at h
  · rename_i hn
    cases h
    exact symbol_of_sextet? hn
  · cases h

theorem of_decodeGroups {place : Nat} {read t b : List UInt8}
    (h : decodeGroups place read t = .ok b) : ∃ ns pads, Whole ns pads ∧ t = padded ns pads := by
  fun_induction decodeGroups place read t with
  | case1 place read w x y z e r ih =>
    simp only [bind, Except.bind] at h
    split at h
    · cases h
    rename_i i hw
    split at h
    · cases h
    rename_i j hx
    split at h
    · cases h
    rename_i k hy
    split at h
    · cases h
    rename_i l hz
    obtain ⟨ns, pads, hwhole, htext⟩ := ih i j k l h
    obtain ⟨hi, rfl⟩ := of_sextetAt hw
    obtain ⟨hj, rfl⟩ := of_sextetAt hx
    obtain ⟨hk, rfl⟩ := of_sextetAt hy
    obtain ⟨hl, rfl⟩ := of_sextetAt hz
    refine ⟨i :: j :: k :: l :: ns, pads, hwhole.group hi hj hk hl, ?_⟩
    rw [htext]
    rfl
  | case2 => exact ⟨[], 0, ⟨nofun, Nat.zero_le 2, rfl, nofun⟩, rfl⟩
  | case3 place read group =>
    cases hlast : decodeLast place group with
    | error e =>
      rw [hlast] at h
      cases h
    | ok last => exact of_decodeLast hlast

/-- Any text that is read is of whole bytes. -/
theorem of_decode {t b : List UInt8} (h : decode t = .ok b) :
    ∃ ns pads, Whole ns pads ∧ t = padded ns pads := by
  unfold decode at h
  split at h
  · cases h
  · exact of_decodeGroups h

/-- Some bytes are read of the text that is written for them, and of no other. -/
theorem decode_eq_ok {t b : List UInt8} : decode t = .ok b ↔ t = encode b := by
  constructor
  · intro h
    obtain ⟨ns, pads, hwhole, ht⟩ := of_decode h
    obtain ⟨b', hb'⟩ := exists_encode hwhole
    rw [ht, ← hb', decode_encode] at h
    cases h
    rw [ht, hb']
  · rintro rfl
    exact decode_encode b

/-! ## Canonical texts -/

/-- The symbols, each at the place of its bits. -/
def alphabet : String := "ABCDEFGHIJKLMNOPQRSTUVWXYZabcdefghijklmnopqrstuvwxyz0123456789+/"

/-- A text of some symbols and so many pads. -/
structure CanonicalAs (t : String) (symbols : List Char) (pads : Nat) : Prop where
  text : t.toList = symbols ++ List.replicate pads '='
  known : ∀ c ∈ symbols, c ∈ alphabet.toList
  pads_le : pads ≤ 2
  /-- The groups are of four. -/
  groups : t.length % 4 = 0
  /-- The bits of the last symbol that are part of no byte are zero. -/
  zero : ∀ c ∈ symbols.getLast?, alphabet.toList.idxOf c % 4 ^ pads = 0

/-- A text in canonical base64. -/
def Canonical (t : String) : Prop := ∃ symbols pads, CanonicalAs t symbols pads

/-- The character of some bits. -/
def symbolChar (n : Nat) : Char := Char.ofNat (symbol n).toNat

theorem alphabet_eq : alphabet.toList = (List.range 64).map symbolChar := by
  decide +kernel

theorem idxOf_symbolChar {n : Nat} (h : n < 64) : alphabet.toList.idxOf (symbolChar n) = n := by
  rw [alphabet_eq]
  decide +revert

theorem symbolChar_mem {n : Nat} (h : n < 64) : symbolChar n ∈ alphabet.toList := by
  rw [alphabet_eq]
  exact List.mem_map_of_mem (List.mem_range.2 h)

theorem symbolChar_idxOf {c : Char} (h : c ∈ alphabet.toList) :
    alphabet.toList.idxOf c < 64 ∧ symbolChar (alphabet.toList.idxOf c) = c := by
  rw [alphabet_eq] at h
  obtain ⟨n, hn, rfl⟩ := List.mem_map.1 h
  rw [idxOf_symbolChar (List.mem_range.1 hn)]
  exact ⟨List.mem_range.1 hn, rfl⟩

theorem canonical_iff_whole {t : String} : Canonical t ↔ ∃ ns pads, Whole ns pads ∧
    t.toList = ns.map symbolChar ++ List.replicate pads '=' := by
  constructor
  · rintro ⟨symbols, pads, htext, hknown, hpads, hgroups, hzero⟩
    have hsymbols : (symbols.map alphabet.toList.idxOf).map symbolChar = symbols := by
      rw [List.map_map]
      refine (List.map_congr_left fun c hc => ?_).trans (List.map_id symbols)
      exact (symbolChar_idxOf (hknown c hc)).2
    rw [← String.length_toList, htext] at hgroups
    refine ⟨symbols.map alphabet.toList.idxOf, pads, ⟨?_, hpads, ?_, ?_⟩, by rw [hsymbols, htext]⟩
    · simpa using fun c hc => (symbolChar_idxOf (hknown c hc)).1
    · simpa using hgroups
    · simpa using hzero
  · rintro ⟨ns, pads, hwhole, htext⟩
    refine ⟨ns.map symbolChar, pads, htext, ?_, hwhole.pads_le, ?_, ?_⟩
    · simpa using fun n hn => symbolChar_mem (hwhole.lt n hn)
    · rw [← String.length_toList, htext]
      simpa using hwhole.groups
    · rw [List.getLast?_map]
      rintro c hc
      obtain ⟨n, hn, rfl⟩ := Option.map_eq_some_iff.1 hc
      rw [idxOf_symbolChar (hwhole.lt n (List.mem_of_getLast? hn))]
      exact hwhole.zero n hn

end Sluice.Text.Base64
