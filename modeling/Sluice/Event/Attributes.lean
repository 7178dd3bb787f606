import Sluice.Time.Calendar

/-!
# Attributes of an event

An attribute is a name and a typed value.  `Attributes` holds them in the order of their names, each
name once, with the proof that they are in order; so two sets of attributes are equal exactly when
they have the same values under the same names (`Attributes.ext_get?`).

`get?_insert` says what putting a value under a name does to what is found there.
-/

namespace Sluice

inductive AttributeValue where
  | boolean (value : Bool)
  | bytes (value : List UInt8)
  | integer (value : Int32)
  | string (value : String)
  | timestamp (value : Timestamp)
  /-- A URI, which is not looked into. -/
  | uri (value : String)
  /-- A reference to a URI, which is not looked into. -/
  | uriReference (value : String)
deriving DecidableEq

/-- The text of a value that is one: a string, a URI or a reference. -/
def AttributeValue.text? : AttributeValue → Option String
  | .string s | .uri s | .uriReference s => some s
  | .boolean _ | .bytes _ | .integer _ | .timestamp _ => none

/-- Names and values, ascending by name. -/
abbrev Entries := List (String × AttributeValue)

/-- Every name comes before all later ones. -/
def Entries.Ascending (l : Entries) : Prop := l.Pairwise fun a b => a.1 < b.1

/-- The entries with a value put under a name, in place of any value there. -/
def Entries.insert (name : String) (value : AttributeValue) : Entries → Entries
  | [] => [(name, value)]
  | (k, v) :: r =>
    if name < k then (name, value) :: (k, v) :: r
    else if name = k then (name, value) :: r
    else (k, v) :: Entries.insert name value r

/-- The value under a name. -/
def Entries.get? (name : String) : Entries → Option AttributeValue
  | [] => none
  | (k, v) :: r => if k = name then some v else Entries.get? name r

theorem Entries.mem_insert {name : String} {value : AttributeValue} {l : Entries}
    {e : String × AttributeValue} (h : e ∈ l.insert name value) : e = (name, value) ∨ e ∈ l := by
  induction l with
  | nil => simpa [Entries.insert] using h
  | cons p r ih =>
    obtain ⟨k, v⟩ := p
    unfold Entries.insert at h
    split at h
    · simpa using h
    · split at h
      · rcases List.mem_cons.1 h with h | h
        · exact .inl h
        · exact .inr (List.mem_cons_of_mem _ h)
      · rcases List.mem_cons.1 h with h | h
        · exact .inr (h ▸ List.mem_cons_self)
        · exact (ih h).imp id (List.mem_cons_of_mem _)

theorem lt_of_not_lt {a b : String} (h : ¬a < b) (hne : a ≠ b) : b < a := by
  have hle : b ≤ a := String.not_lt.1 h
  refine Decidable.by_contra fun hba => hne ?_
  exact String.le_antisymm (String.not_lt.1 hba) hle

theorem Entries.ascending_insert {name : String} {value : AttributeValue} {l : Entries}
    (h : l.Ascending) : (l.insert name value).Ascending := by
  induction l with
  | nil => exact List.pairwise_singleton _ _
  | cons p r ih =>
    obtain ⟨k, v⟩ := p
    obtain ⟨hk, hr⟩ := List.pairwise_cons.1 h
    unfold Entries.insert
    split
    · rename_i hlt
      refine List.pairwise_cons.2 ⟨fun e he => ?_, h⟩
      rcases List.mem_cons.1 he with rfl | he
      · exact hlt
      · exact String.lt_trans hlt (hk e he)
    · split
      · rename_i heq
        exact List.pairwise_cons.2 ⟨fun e he => heq ▸ hk e he, hr⟩
      · rename_i hlt hne
        refine List.pairwise_cons.2 ⟨fun e he => ?_, ih hr⟩
        rcases Entries.mem_insert he with rfl | he
        · exact lt_of_not_lt hlt hne
        · exact hk e he

theorem Entries.get?_insert (name other : String) (value : AttributeValue) (l : Entries) :
    (l.insert name value).get? other = if name = other then some value else l.get? other := by
  induction l with
  | nil => simp [Entries.insert, Entries.get?]
  | cons p r ih =>
    obtain ⟨k, v⟩ := p
    unfold Entries.insert
    split
    · simp [Entries.get?]
    · split
      · rename_i heq
        subst heq
        by_cases h : name = other <;> simp [Entries.get?, h]
      · rename_i hne
        by_cases h : name = other
        · subst h
          simp [Entries.get?, Ne.symm hne, ih]
        · simp [Entries.get?, ih, h]

/-- The attributes of an event. -/
structure Attributes where
  entries : Entries
  ascending : entries.Ascending
deriving DecidableEq

def Attributes.empty : Attributes := ⟨[], List.Pairwise.nil⟩

/-- The attributes with a value put under a name, in place of any value there. -/
def Attributes.insert (a : Attributes) (name : String) (value : AttributeValue) : Attributes :=
  ⟨a.entries.insert name value, Entries.ascending_insert a.ascending⟩

/-- The value under a name. -/
def Attributes.get? (a : Attributes) (name : String) : Option AttributeValue := a.entries.get? name

def Attributes.size (a : Attributes) : Nat := a.entries.length

theorem Attributes.get?_empty (name : String) : Attributes.empty.get? name = none := rfl

theorem Attributes.get?_insert (a : Attributes) (name other : String) (value : AttributeValue) :
    (a.insert name value).get? other = if name = other then some value else a.get? other :=
  Entries.get?_insert name other value a.entries

theorem Entries.get?_eq_none {name : String} {l : Entries} (h : ∀ e ∈ l, name < e.1) :
    l.get? name = none := by
  induction l with
  | nil => rfl
  | cons p r ih =>
    obtain ⟨k, v⟩ := p
    have hk : name < k := h (k, v) List.mem_cons_self
    have hne : k ≠ name := fun e => String.lt_irrefl name (e ▸ hk)
    simp only [Entries.get?, hne, if_false]
    exact ih fun e he => h e (List.mem_cons_of_mem _ he)

theorem Entries.get?_eq_some_iff {l : Entries} (h : l.Ascending) {name : String}
    {v : AttributeValue} : l.get? name = some v ↔ (name, v) ∈ l := by
  induction l with
  | nil => simp [Entries.get?]
  | cons p r ih =>
    obtain ⟨k, w⟩ := p
    obtain ⟨hk, hr⟩ := List.pairwise_cons.1 h
    by_cases hn : k = name
    · subst hn
      have hnone : (k, v) ∉ r := fun hm => String.lt_irrefl k (hk (k, v) hm)
      simp [Entries.get?, hnone, eq_comm]
    · simp [Entries.get?, hn, Ne.symm hn, ih hr]

theorem Entries.ext_get? {l m : Entries} (hl : l.Ascending) (hm : m.Ascending)
    (h : ∀ name, l.get? name = m.get? name) : l = m := by
  induction l generalizing m with
  | nil =>
    cases m with
    | nil => rfl
    | cons q m =>
      have := h q.1
      simp [Entries.get?] at this
  | cons p l ih =>
    obtain ⟨k, v⟩ := p
    obtain ⟨hk, hl⟩ := List.pairwise_cons.1 hl
    cases m with
    | nil =>
      have := h k
      simp [Entries.get?] at this
    | cons q m =>
      obtain ⟨j, w⟩ := q
      obtain ⟨hj, hm'⟩ := List.pairwise_cons.1 hm
      have hkj : k = j := by
        refine Decidable.by_contra fun hne => ?_
        have hgk := h k
        have hgj := h j
        simp only [Entries.get?, if_true, Ne.symm hne, if_false] at hgk
        simp only [Entries.get?, if_true, hne, if_false] at hgj
        by_cases hlt : k < j
        · rw [Entries.get?_eq_none fun e he => String.lt_trans hlt (hj e he)] at hgk
          cases hgk
        · have hlt := lt_of_not_lt hlt hne
          rw [Entries.get?_eq_none fun e he => String.lt_trans hlt (hk e he)] at hgj
          cases hgj
      subst hkj
      have hv : v = w := by
        have := h k
        simpa [Entries.get?] using this
      subst hv
      have hrest : l = m := by
        refine ih hl hm' fun name => ?_
        by_cases hn : k = name
        · subst hn
          rw [Entries.get?_eq_none hk, Entries.get?_eq_none hj]
        · have := h name
          simpa [Entries.get?, hn] using this
      rw [hrest]

theorem Attributes.ext_get? {a b : Attributes} (h : ∀ name, a.get? name = b.get? name) : a = b := by
  obtain ⟨l, hl⟩ := a
  obtain ⟨m, hm⟩ := b
  have : l = m := Entries.ext_get? hl hm h
  subst this
  rfl

theorem Attributes.insert_insert (a : Attributes) (name : String) (v w : AttributeValue) :
    (a.insert name v).insert name w = a.insert name w := by
  refine Attributes.ext_get? fun other => ?_
  simp only [Attributes.get?_insert]
  split <;> rfl

end Sluice
