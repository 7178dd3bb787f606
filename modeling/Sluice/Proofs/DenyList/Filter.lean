import Sluice.DenyList.Filter

/-!
# Where a batch is cut off

A list cuts a batch off before the first event that it matches.  `DenyList.cutoff` is the number of
events before that one, and `filter_of_cutoff_eq_zero` and `filter_of_cutoff_ne_zero` say what the
filter makes of a batch in terms of it.
-/

namespace Sluice

namespace DenyList

variable (list : DenyList)

/-- The list matches an event. -/
def matchesEvent (e : Event) : Bool := (list.match? 0 e).isSome

/-- The number of events before the first that the list matches; all of them if it matches none. -/
def cutoff (events : List Event) : Nat := events.findIdx list.matchesEvent

variable {list}

theorem index_of_match? {i : Nat} {e : Event} {hit : DenyHit} (h : list.match? i e = some hit) :
    hit.index = i := by
  obtain ⟨k, -, hk⟩ := List.exists_of_findSome?_eq_some h
  obtain ⟨⟨rule, note⟩, -, rfl⟩ := Option.map_eq_some_iff.1 hk
  rfl

/-- Where an event stands in its batch is only reported. -/
theorem match?_eq_map (i : Nat) (e : Event) :
    list.match? i e = (list.match? 0 e).map fun hit => { hit with index := i } := by
  simp only [match?, List.map_findSome?, Function.comp_def, Option.map_map]

theorem match?_eq_none {i : Nat} {e : Event} (h : list.matchesEvent e = false) :
    list.match? i e = none := by
  have h0 : list.match? 0 e = none := by simpa [matchesEvent] using h
  rw [match?_eq_map, h0]
  rfl

theorem exists_match? {i : Nat} {e : Event} (h : list.matchesEvent e = true) :
    ∃ hit, list.match? i e = some hit := by
  obtain ⟨hit, hhit⟩ := Option.isSome_iff_exists.1 h
  exact ⟨{ hit with index := i }, by rw [match?_eq_map, hhit]; rfl⟩

theorem cutoff_le {events : List Event} : list.cutoff events ≤ events.length :=
  List.findIdx_le_length

theorem matchesEvent_cutoff {events : List Event} (h : list.cutoff events < events.length) :
    list.matchesEvent events[list.cutoff events] = true :=
  List.findIdx_getElem (w := h)

/-- The first match is that of the event at which the batch is cut off. -/
theorem firstMatch?_eq (i : Nat) (events : List Event) :
    list.firstMatch? i events =
      events[list.cutoff events]?.bind (list.match? (i + list.cutoff events)) := by
  induction events generalizing i with
  | nil => rfl
  | cons e r ih =>
    cases he : list.matchesEvent e with
    | true =>
      obtain ⟨hit, hhit⟩ := exists_match? (i := i) he
      simp [firstMatch?, cutoff, List.findIdx_cons, he, hhit]
    | false =>
      rw [firstMatch?, match?_eq_none he, Option.none_or, ih]
      simp [cutoff, List.findIdx_cons, he, Nat.add_assoc, Nat.add_comm 1]

theorem matchesEvent_of_mem_take {events : List Event} {e : Event}
    (h : e ∈ events.take (list.cutoff events)) : list.matchesEvent e = false := by
  obtain ⟨i, hi, rfl⟩ := List.mem_take_iff_getElem.1 h
  have hlt : i < events.findIdx list.matchesEvent := (Nat.lt_min.1 hi).1
  exact Bool.eq_false_iff.2 (by simpa using List.not_of_lt_findIdx hlt)

/-- A batch without a match is accepted.  Any other is taken apart at the first event that
matches. -/
theorem filter_cases (list : DenyList) (batch : List Event) :
    ((∀ e ∈ batch, list.match? 0 e = none) ∧ list.cutoff batch = batch.length ∧
      list.filter batch = .accept batch) ∨
    ∃ before e after hit, batch = before ++ e :: after ∧ list.cutoff batch = before.length ∧
      (∀ d ∈ before, list.match? 0 d = none) ∧ list.match? before.length e = some hit ∧
      list.filter batch = if before.length = 0 then .reject hit else .truncate before hit := by
  have hbefore : ∀ d ∈ batch.take (list.cutoff batch), list.match? 0 d = none :=
    fun d hd => match?_eq_none (matchesEvent_of_mem_take hd)
  have hfilter : list.firstMatch? 0 batch =
      batch[list.cutoff batch]?.bind (list.match? (list.cutoff batch)) := by
    rw [firstMatch?_eq, Nat.zero_add]
  by_cases hlt : list.cutoff batch < batch.length
  · obtain ⟨hit, hhit⟩ := exists_match? (i := list.cutoff batch) (matchesEvent_cutoff hlt)
    have hlen : (batch.take (list.cutoff batch)).length = list.cutoff batch := by
      rw [List.length_take, Nat.min_eq_left (Nat.le_of_lt hlt)]
    refine .inr ⟨_, batch[list.cutoff batch], batch.drop (list.cutoff batch + 1), hit, ?_,
      hlen.symm, hbefore, ?_, ?_⟩
    · rw [← List.drop_eq_getElem_cons hlt, List.take_append_drop]
    · rw [hlen]
      exact hhit
    · rw [filter, hfilter, List.getElem?_eq_getElem hlt, Option.bind_some, hhit, hlen]
      simp only [index_of_match? hhit]
  · have hlen : list.cutoff batch = batch.length := Nat.le_antisymm cutoff_le (Nat.le_of_not_lt hlt)
    rw [hlen, List.take_length] at hbefore
    rw [hlen, List.getElem?_eq_none (Nat.le_refl _), Option.bind_none] at hfilter
    exact .inl ⟨hbefore, hlen, by rw [filter, hfilter]⟩

/-- A batch whose first event matches is rejected with its match. -/
theorem filter_of_cutoff_eq_zero {first : Event} {rest : List Event}
    (h : list.cutoff (first :: rest) = 0) :
    ∃ hit, list.match? 0 first = some hit ∧ list.filter (first :: rest) = .reject hit := by
  obtain ⟨-, hlen, -⟩ | ⟨before, e, after, hit, heq, hlen, -, hmatch, hfilter⟩ :=
    filter_cases list (first :: rest)
  · rw [h] at hlen
    cases hlen
  · rw [h] at hlen
    rw [← hlen] at hmatch hfilter
    cases List.length_eq_zero_iff.1 hlen.symm
    cases heq
    exact ⟨hit, hmatch, hfilter⟩

/-- Of any other batch the events before the first match are let through. -/
theorem filter_of_cutoff_ne_zero {events : List Event} (h : list.cutoff events ≠ 0) :
    list.filter events = .accept (events.take (list.cutoff events)) ∨
      ∃ hit, list.filter events = .truncate (events.take (list.cutoff events)) hit := by
  obtain ⟨-, hlen, hfilter⟩ | ⟨before, e, after, hit, heq, hlen, -, -, hfilter⟩ :=
    filter_cases list events
  · rw [hlen, List.take_length]
    exact .inl hfilter
  · rw [← hlen, if_neg h] at hfilter
    rw [hfilter, hlen, heq, List.take_left]
    exact .inr ⟨hit, rfl⟩

end DenyList

end Sluice
