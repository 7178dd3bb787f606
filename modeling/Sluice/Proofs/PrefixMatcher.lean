import Mathlib.Data.Finmap
import Sluice.PrefixMatcher
import Sluice.Proofs.Text.Boundary

/-!
# The finite map of a matcher

What a matcher holds is a finite map from texts to values, the last value put under each text
(`lastValues`).  `Holds` relates the trie to the map: a path has a value exactly if it is the bytes
of a text, and then the value is that of the text.  One `put` keeps it, and so a whole run does.

A search walks down the bytes of its text and keeps the last value that it saw; `longest_cases`
says which that is, whatever stands between.  By `Holds` the bytes walked down are those of a text
of the map, which is why they end where a character ends.
-/

namespace Sluice

/-! ## Walking down a trie -/

namespace Trie

variable {α : Type} {t : Trie α} {path : List UInt8}

/-- The longest path to a value that these bytes start with. -/
structure Longest (t : Trie α) (path found : List UInt8) (value : α) : Prop where
  /-- The value stands at its end. -/
  get?_eq : t.get? found = some value
  /-- The bytes start with it. -/
  isPrefix : found <+: path
  /-- A longer one has no value. -/
  length_le : ∀ other, other <+: path → (t.get? other).isSome → other.length ≤ found.length

section Branch

variable {b c : UInt8} {v : Option α} {below beside : Trie α} {r found other : List UInt8}
  {value : α}

theorem get?_branch_self :
    (branch c v below beside).get? (c :: r) = if r = [] then v else below.get? r := by
  simp only [get?, if_true]

/-- A branch for another byte is passed by. -/
theorem get?_branch_of_ne (h : b ≠ c) (ho : other <+: b :: r) :
    (branch c v below beside).get? other = beside.get? other := by
  obtain rfl | ⟨s, rfl, -⟩ := List.prefix_cons_iff.1 ho
  · rw [get?_nil, get?_nil]
  · simp only [get?, h, if_false]

theorem Longest.of_beside (h : beside.Longest (b :: r) found value) (hb : b ≠ c) :
    (branch c v below beside).Longest (b :: r) found value where
  get?_eq := (get?_branch_of_ne hb h.isPrefix).trans h.get?_eq
  isPrefix := h.isPrefix
  length_le other ho hs := by
    rw [get?_branch_of_ne hb ho] at hs
    exact h.length_le other ho hs

theorem Longest.of_below (h : below.Longest r found value) :
    (branch c v below beside).Longest (c :: r) (c :: found) value where
  get?_eq := by
    have hne : found ≠ [] := by
      rintro rfl
      have hnil := h.get?_eq
      rw [get?_nil] at hnil
      cases hnil
    rw [get?_branch_self, if_neg hne]
    exact h.get?_eq
  isPrefix := (List.prefix_cons_inj c).2 h.isPrefix
  length_le other ho hs := by
    obtain rfl | ⟨s, rfl, hr⟩ := List.prefix_cons_iff.1 ho
    · exact Nat.zero_le _
    · rw [get?_branch_self] at hs
      by_cases hnil : s = []
      · rw [hnil]
        exact Nat.succ_le_succ (Nat.zero_le _)
      · rw [if_neg hnil] at hs
        exact Nat.succ_le_succ (h.length_le s hr hs)

/-- The value of a branch is found when there is none below. -/
theorem longest_branch (h : ∀ other, other <+: r → below.get? other = none) :
    (branch c (some value) below beside).Longest (c :: r) [c] value where
  get?_eq := get?_branch_self
  isPrefix := (List.prefix_cons_inj c).2 List.nil_prefix
  length_le other ho hs := by
    obtain rfl | ⟨s, rfl, hr⟩ := List.prefix_cons_iff.1 ho
    · exact Nat.zero_le _
    · rw [get?_branch_self, h s hr] at hs
      by_cases hnil : s = []
      · rw [hnil]
      · rw [if_neg hnil] at hs
        cases hs

end Branch

/-- A walk ends with the longest path to a value, or there is none, and it keeps what it had. -/
theorem longest_cases (t : Trie α) (path : List UInt8) (depth : Nat) (best : Option (Nat × α)) :
    (∃ found value, t.Longest path found value ∧
      t.longest depth best path = some (depth + found.length, value)) ∨
    ((∀ other, other <+: path → t.get? other = none) ∧ t.longest depth best path = best) := by
  induction t generalizing path depth best with
  | leaf => exact .inr ⟨fun _ _ => rfl, by cases path <;> rfl⟩
  | branch c v below beside ihBelow ihBeside =>
    cases path with
    | nil => exact .inr ⟨fun other h => by rw [List.prefix_nil.1 h, get?_nil], rfl⟩
    | cons b r =>
      by_cases hb : b = c
      · subst hb
        -- The walk goes on below with the value of this branch, if it has one.
        have hbelow (kept : Option (Nat × α)) :
            (∃ found value, (branch b v below beside).Longest (b :: r) found value ∧
              below.longest (depth + 1) kept r = some (depth + found.length, value)) ∨
            ((∀ other, other <+: r → below.get? other = none) ∧
              below.longest (depth + 1) kept r = kept) := by
          refine (ihBelow r (depth + 1) kept).imp ?_ id
          rintro ⟨found, value, hf, hw⟩
          refine ⟨b :: found, value, hf.of_below, hw.trans ?_⟩
          rw [List.length_cons, Nat.add_assoc, Nat.add_comm 1]
        simp only [longest, if_true]
        cases v with
        | some x =>
          obtain hfound | ⟨hf, hw⟩ := hbelow (some (depth + 1, x))
          · exact .inl hfound
          · exact .inl ⟨[b], x, longest_branch hf, hw⟩
        | none =>
          obtain hfound | ⟨hf, hw⟩ := hbelow best
          · exact .inl hfound
          · refine .inr ⟨fun other ho => ?_, hw⟩
            obtain rfl | ⟨s, rfl, hr⟩ := List.prefix_cons_iff.1 ho
            · exact get?_nil _
            · rw [get?_branch_self, hf s hr, ite_self]
      · simp only [longest, hb, if_false]
        obtain ⟨found, value, hf, hw⟩ | ⟨hf, hw⟩ := ihBeside (b :: r) depth best
        · exact .inl ⟨found, value, hf.of_beside hb, hw⟩
        · exact .inr ⟨fun other ho => (get?_branch_of_ne hb ho).trans (hf other ho), hw⟩

end Trie

/-! ## The map -/

namespace PrefixMatcher

variable {α : Type} {m : PrefixMatcher α} {M : Finmap fun _ : String => α}

/-- The last value put under each text but the empty one. -/
def lastValues (puts : List (String × α)) : Finmap fun _ : String => α :=
  puts.foldl (fun M p => if p.1 = "" then M else M.insert p.1 p.2) ∅

theorem lastValues_append (puts : List (String × α)) (p : String × α) :
    lastValues (puts ++ [p]) =
      if p.1 = "" then lastValues puts else (lastValues puts).insert p.1 p.2 := by
  unfold lastValues
  rw [List.foldl_append]
  rfl

theorem lookup_lastValues (puts : List (String × α)) {s : String} (hs : s ≠ "") :
    (lastValues puts).lookup s = (puts.filter (·.1 = s)).getLast?.map (·.2) := by
  induction puts using List.reverseRecOn with
  | nil => exact Finmap.lookup_empty s
  | append_singleton puts p ih =>
    rw [lastValues_append, List.filter_append]
    by_cases hp : p.1 = s
    · have hlast : [p].filter (·.1 = s) = [p] := by simp [hp]
      rw [hlast, List.getLast?_append, hp, if_neg hs, Finmap.lookup_insert]
      rfl
    · have hlast : [p].filter (·.1 = s) = [] := by simp [hp]
      rw [hlast, List.append_nil, ← ih]
      by_cases he : p.1 = ""
      · rw [if_pos he]
      · rw [if_neg he, Finmap.lookup_insert_of_ne _ (Ne.symm hp)]

theorem lookup_lastValues_empty (puts : List (String × α)) :
    (lastValues puts).lookup "" = none := by
  induction puts using List.reverseRecOn with
  | nil => exact Finmap.lookup_empty ""
  | append_singleton puts p ih =>
    rw [lastValues_append]
    by_cases he : p.1 = ""
    · rw [if_pos he, ih]
    · rw [if_neg he, Finmap.lookup_insert_of_ne _ (Ne.symm he), ih]

theorem mem_lastValues {puts : List (String × α)} {s : String} :
    s ∈ lastValues puts ↔ s ≠ "" ∧ ∃ p ∈ puts, p.1 = s := by
  by_cases hs : s = ""
  · have hnone : s ∉ lastValues puts :=
      Finmap.lookup_eq_none.1 (hs ▸ lookup_lastValues_empty puts)
    exact ⟨fun h => absurd h hnone, fun h => absurd hs h.1⟩
  · rw [← Finmap.lookup_isSome, lookup_lastValues puts hs, Option.isSome_map, and_iff_right hs]
    simp

/-- The map does not change when puts under other texts come in another order. -/
theorem lastValues_congr {puts puts' : List (String × α)}
    (h : ∀ s ≠ "", puts'.filter (·.1 = s) = puts.filter (·.1 = s)) :
    lastValues puts' = lastValues puts := by
  refine Finmap.ext_lookup fun s => ?_
  by_cases hs : s = ""
  · rw [hs, lookup_lastValues_empty, lookup_lastValues_empty]
  · rw [lookup_lastValues _ hs, lookup_lastValues _ hs, h s hs]

/-- What a matcher holds is the map. -/
structure Holds (m : PrefixMatcher α) (M : Finmap fun _ : String => α) : Prop where
  /-- The value of a text stands at the end of its bytes. -/
  get?_eq : ∀ s, m.root.get? (Text.bytes s) = M.lookup s
  /-- A path to a value is the bytes of a text. -/
  exists_bytes : ∀ path, (m.root.get? path).isSome → ∃ s, Text.bytes s = path
  /-- The size is the number of texts. -/
  size_eq : m.size = M.keys.card

theorem put_fst (m : PrefixMatcher α) (s : String) (value : α) :
    (m.put s value).1 = m.root.get? (Text.bytes s) := by
  unfold put
  by_cases h : Text.bytes s = []
  · rw [dif_pos h, h, Trie.get?_nil]
  · rw [dif_neg h]
    exact Trie.put_fst value (Text.bytes s) m.root

theorem put_empty (m : PrefixMatcher α) (value : α) : m.put "" value = (none, m) := by
  unfold put
  rw [dif_pos (Text.bytes_eq_nil.2 rfl)]

theorem holds_empty : (empty : PrefixMatcher α).Holds ∅ where
  get?_eq _ := rfl
  exists_bytes _ h := by cases h
  size_eq := rfl

/-- A value put under a text is one put into the map. -/
theorem Holds.put (h : m.Holds M) {s : String} (hs : s ≠ "") (value : α) :
    (m.put s value).2.Holds (M.insert s value) := by
  have hpath : Text.bytes s ≠ [] := fun hnil => hs (Text.bytes_eq_nil.1 hnil)
  have hroot : (m.put s value).2.root = (m.root.put value (Text.bytes s)).2 := by
    unfold PrefixMatcher.put
    rw [dif_neg hpath]
  have hsize : (m.put s value).2.size =
      m.size + if (m.root.get? (Text.bytes s)).isNone then 1 else 0 := by
    unfold PrefixMatcher.put
    rw [dif_neg hpath, ← Trie.put_fst value]
  have hkeys : (M.insert s value).keys = Insert.insert s M.keys := by
    ext x
    simp [Finmap.mem_keys, Finmap.mem_insert]
  refine ⟨fun other => ?_, fun path hvalue => ?_, ?_⟩
  · rw [hroot, Trie.get?_put]
    by_cases ho : s = other
    · rw [if_pos ⟨congrArg Text.bytes ho, hpath⟩, ← ho, Finmap.lookup_insert]
    · rw [if_neg fun hb => ho (Text.bytes_injective hb.1), h.get?_eq,
        Finmap.lookup_insert_of_ne _ (Ne.symm ho)]
  · rw [hroot, Trie.get?_put] at hvalue
    by_cases hb : Text.bytes s = path
    · exact ⟨s, hb⟩
    · rw [if_neg fun hb' => hb hb'.1] at hvalue
      exact h.exists_bytes path hvalue
  · rw [hsize, hkeys, h.size_eq, h.get?_eq]
    by_cases hmem : s ∈ M
    · obtain ⟨x, hx⟩ := Finmap.mem_iff.1 hmem
      rw [Finset.insert_eq_of_mem (Finmap.mem_keys.2 hmem), hx]
      rfl
    · rw [Finset.card_insert_of_notMem fun hk => hmem (Finmap.mem_keys.1 hk),
        Finmap.lookup_eq_none.2 hmem]
      rfl

theorem Holds.isEmpty_iff (h : m.Holds M) : m.isEmpty = true ↔ M = ∅ := by
  unfold isEmpty
  rw [beq_iff_eq, h.size_eq, Finset.card_eq_zero]
  constructor
  · intro hkeys
    refine Finmap.ext_lookup fun s => ?_
    have hs : s ∉ M := fun hmem => by simpa [hkeys] using Finmap.mem_keys.2 hmem
    rw [Finmap.lookup_eq_none.2 hs, Finmap.lookup_empty]
  · rintro rfl
    exact Finmap.keys_empty

/-- Whatever was put, the matcher holds the last values. -/
theorem holds_ofList (puts : List (String × α)) : (ofList puts).Holds (lastValues puts) := by
  induction puts using List.reverseRecOn with
  | nil => exact holds_empty
  | append_singleton puts p ih =>
    unfold ofList lastValues
    rw [List.foldl_append, List.foldl_append]
    show ((ofList puts).put p.1 p.2).2.Holds
      (if p.1 = "" then lastValues puts else (lastValues puts).insert p.1 p.2)
    by_cases he : p.1 = ""
    · rw [if_pos he, he, put_empty]
      exact ih
    · rw [if_neg he]
      exact ih.put he p.2

/-! ## Finding -/

/-- The longest text of the map that `s` starts with, byte by byte. -/
structure LongestKey (M : Finmap fun _ : String => α) (s p : String) : Prop where
  /-- It is in the map. -/
  mem : p ∈ M
  /-- The text starts with it. -/
  isPrefix : Text.bytes p <+: Text.bytes s
  /-- A longer one is not in the map. -/
  length_le : ∀ q ∈ M, Text.bytes q <+: Text.bytes s →
    (Text.bytes q).length ≤ (Text.bytes p).length

theorem LongestKey.eq {s p q : String} (hp : LongestKey M s p) (hq : LongestKey M s q) : p = q := by
  have hpq := List.prefix_of_prefix_length_le hp.isPrefix hq.isPrefix
    (hq.length_le p hp.mem hp.isPrefix)
  exact Text.bytes_injective (hpq.eq_of_length_le (hp.length_le q hq.mem hq.isPrefix))

/-- A search finds the longest text of the map that there is. -/
theorem Holds.find_cases (h : m.Holds M) (s : String) :
    (∃ p value, LongestKey M s p ∧ M.lookup p = some value ∧
      m.longest? s = some ((Text.bytes p).length, value) ∧ m.find? s = some (p, value)) ∨
    ((∀ p ∈ M, ¬ Text.bytes p <+: Text.bytes s) ∧ m.longest? s = none ∧ m.find? s = none) := by
  unfold find?
  obtain ⟨found, value, hf, hw⟩ | ⟨hf, hw⟩ := m.root.longest_cases (Text.bytes s) 0 none
  · -- The bytes walked down are those of a text, so they can be read back.
    obtain ⟨p, rfl⟩ := h.exists_bytes found (by rw [hf.get?_eq]; rfl)
    have hlookup : M.lookup p = some value := (h.get?_eq p).symm.trans hf.get?_eq
    have hlongest : m.longest? s = some ((Text.bytes p).length, value) := by
      rw [Nat.zero_add] at hw
      exact hw
    have htake : (Text.bytes s).take (Text.bytes p).length = Text.bytes p :=
      (List.prefix_iff_eq_take.1 hf.isPrefix).symm
    refine .inl ⟨p, value, ⟨Finmap.mem_of_lookup_eq_some hlookup, hf.isPrefix, fun q hq hs => ?_⟩,
      hlookup, hlongest, ?_⟩
    · refine hf.length_le _ hs ?_
      rw [h.get?_eq]
      exact Finmap.lookup_isSome.2 hq
    · rw [hlongest]
      show (Text.ofBytes? ((Text.bytes s).take (Text.bytes p).length)).map _ = _
      rw [htake, Text.ofBytes?_bytes]
      rfl
  · have hlongest : m.longest? s = none := hw
    refine .inr ⟨fun p hp hs => ?_, hlongest, by rw [hlongest]; rfl⟩
    have hnone := hf _ hs
    rw [h.get?_eq, Finmap.lookup_eq_none] at hnone
    exact hnone hp

theorem Holds.find_eq_some_iff (h : m.Holds M) {s p : String} {value : α} :
    m.find? s = some (p, value) ↔ LongestKey M s p ∧ M.lookup p = some value := by
  obtain ⟨q, x, hq, hx, -, hfind⟩ | ⟨hnone, -, hfind⟩ := h.find_cases s
  · rw [hfind]
    constructor
    · intro he
      cases he
      exact ⟨hq, hx⟩
    · rintro ⟨hp, hvalue⟩
      obtain rfl := hp.eq hq
      rw [hx] at hvalue
      cases hvalue
      rfl
  · rw [hfind]
    constructor
    · intro he
      cases he
    · rintro ⟨hp, -⟩
      exact absurd hp.isPrefix (hnone p hp.mem)

theorem Holds.find_eq_none_iff (h : m.Holds M) {s : String} :
    m.find? s = none ↔ ∀ p ∈ M, ¬ Text.bytes p <+: Text.bytes s := by
  obtain ⟨q, x, hq, -, -, hfind⟩ | ⟨hnone, -, hfind⟩ := h.find_cases s
  · rw [hfind]
    constructor
    · intro he
      cases he
    · intro hnone
      exact absurd hq.isPrefix (hnone q hq.mem)
  · rw [hfind]
    exact ⟨fun _ => hnone, fun _ => rfl⟩

theorem Holds.hasPrefixOf_iff (h : m.Holds M) {s : String} :
    m.hasPrefixOf s = true ↔ ∃ p ∈ M, Text.bytes p <+: Text.bytes s := by
  unfold hasPrefixOf
  obtain ⟨q, x, hq, -, -, hfind⟩ | ⟨hnone, -, hfind⟩ := h.find_cases s
  · rw [hfind]
    exact ⟨fun _ => ⟨q, hq.mem, hq.isPrefix⟩, fun _ => rfl⟩
  · rw [hfind]
    constructor
    · intro he
      cases he
    · rintro ⟨p, hp, hs⟩
      exact absurd hs (hnone p hp)

/-- Where a search ends, a character ends, and what it takes is what is found. -/
theorem Holds.longest_isValid (h : m.Holds M) {s : String} {n : Nat} {value : α}
    (hs : m.longest? s = some (n, value)) :
    String.Pos.Raw.IsValid s ⟨n⟩ ∧
      ∃ p, Text.bytes p = (Text.bytes s).take n ∧ m.find? s = some (p, value) := by
  obtain ⟨p, x, hp, -, hlongest, hfind⟩ | ⟨-, hlongest, -⟩ := h.find_cases s
  · rw [hlongest] at hs
    cases hs
    refine ⟨?_, p, List.prefix_iff_eq_take.1 hp.isPrefix, hfind⟩
    rw [Text.length_bytes]
    exact Text.isValid_of_isPrefix hp.isPrefix
  · rw [hlongest] at hs
    cases hs

/-- Matchers that hold the same map answer alike. -/
theorem Holds.find_eq {m' : PrefixMatcher α} (h : m.Holds M) (h' : m'.Holds M) (s : String) :
    m'.find? s = m.find? s := by
  obtain ⟨p, x, hp, hx, -, hfind⟩ | ⟨hnone, -, hfind⟩ := h.find_cases s
  · rw [hfind]
    exact h'.find_eq_some_iff.2 ⟨hp, hx⟩
  · rw [hfind]
    exact h'.find_eq_none_iff.2 hnone

/-! ## Any puts -/

/-- After any puts a matcher is the map of their last values: `put` gives back and replaces the
value of a text, the size is the number of texts, and a search finds the longest text of the map
that there is and cuts no character.  The order of puts under different texts is all one. -/
theorem ofList_refines (puts : List (String × α)) :
    (∀ value, (ofList puts).put "" value = (none, ofList puts)) ∧
    (∀ s value, (ofList puts).put s value =
      ((lastValues puts).lookup s, ofList (puts ++ [(s, value)]))) ∧
    (ofList puts).size = (lastValues puts).keys.card ∧
    ((ofList puts).isEmpty = true ↔ lastValues puts = ∅) ∧
    (∀ s p value, (ofList puts).find? s = some (p, value) ↔
      LongestKey (lastValues puts) s p ∧ (lastValues puts).lookup p = some value) ∧
    (∀ s, (ofList puts).find? s = none ↔
      ∀ p ∈ lastValues puts, ¬ Text.bytes p <+: Text.bytes s) ∧
    (∀ s, (ofList puts).hasPrefixOf s = true ↔
      ∃ p ∈ lastValues puts, Text.bytes p <+: Text.bytes s) ∧
    (∀ s n value, (ofList puts).longest? s = some (n, value) → String.Pos.Raw.IsValid s ⟨n⟩ ∧
      ∃ p, Text.bytes p = (Text.bytes s).take n ∧ (ofList puts).find? s = some (p, value)) ∧
    ∀ puts', (∀ s ≠ "", puts'.filter (·.1 = s) = puts.filter (·.1 = s)) →
      (ofList puts').size = (ofList puts).size ∧ ∀ s,
        (∀ value, ((ofList puts').put s value).1 = ((ofList puts).put s value).1) ∧
        (ofList puts').find? s = (ofList puts).find? s := by
  have h := holds_ofList puts
  have hput (puts : List (String × α)) (s : String) (value : α) :
      ((ofList puts).put s value).1 = (lastValues puts).lookup s :=
    (put_fst _ s value).trans ((holds_ofList puts).get?_eq s)
  refine ⟨put_empty _, fun s value => Prod.ext (hput puts s value) ?_, h.size_eq,
    h.isEmpty_iff, fun s p value => h.find_eq_some_iff, fun s => h.find_eq_none_iff,
    fun s => h.hasPrefixOf_iff, fun s n value => h.longest_isValid, fun puts' hputs => ?_⟩
  · unfold ofList
    rw [List.foldl_append]
    rfl
  · have hmap := lastValues_congr hputs
    have h' := holds_ofList puts'
    rw [hmap] at h'
    refine ⟨h'.size_eq.trans h.size_eq.symm, fun s => ⟨fun value => ?_, h.find_eq h' s⟩⟩
    rw [hput, hput, hmap]

-- The two accents have their first byte in common.
example : (ofList [("caf", 1), ("café", 2)]).find? "cafè" = some ("caf", 1) := by decide

end PrefixMatcher

end Sluice
