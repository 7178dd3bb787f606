import Sluice.Event.Body

/-!
# Bodies that are accepted and bodies that are refused

A body is accepted if it decodes and nothing in it is too long, and a batch also has to have a
number of events within the bounds (`event_eq_ok`, `batch_eq_ok`).  Any other body is refused with a
code of validation (`event_eq_error`, `batch_eq_error`).
-/

namespace Sluice.Body

/-! ## Lengths -/

theorem lengthFault?_eq_none_iff {index : Nat} {e : Event} :
    lengthFault? index e = none ↔ e.violations = [] := by
  cases hv : e.violations with
  | nil => simp [lengthFault?, hv]
  | cons v vs => simp [lengthFault?, hv]

theorem firstLengthFault?_eq_none_iff {index : Nat} {events : List Event} :
    firstLengthFault? index events = none ↔ ∀ e ∈ events, e.violations = [] := by
  induction events generalizing index with
  | nil => simp [firstLengthFault?]
  | cons e events ih =>
    rw [firstLengthFault?, Option.or_eq_none_iff, lengthFault?_eq_none_iff, ih,
      List.forall_mem_cons]

theorem lengthFault?_eq_some {index : Nat} {e : Event} {f : Fault}
    (h : lengthFault? index e = some f) : ∃ reason, f = .validation .invalidFormat reason := by
  unfold lengthFault? at h
  split at h
  · cases h
  · cases h
    exact ⟨_, rfl⟩

theorem firstLengthFault?_eq_some {index : Nat} {events : List Event} {f : Fault}
    (h : firstLengthFault? index events = some f) :
    ∃ reason, f = .validation .invalidFormat reason := by
  induction events generalizing index with
  | nil => cases h
  | cons e r ih =>
    obtain h | ⟨-, h⟩ := Option.or_eq_some_iff.1 h
    · exact lengthFault?_eq_some h
    · exact ih h

/-! ## Bodies -/

theorem event_eq_ok {body : List UInt8} {e : Event} :
    event body = .ok e ↔ Event.reader.decode body = .ok e ∧ e.violations = [] := by
  rw [event]
  cases Event.reader.decode body with
  | error r => simp
  | ok d =>
    dsimp only
    cases hd : lengthFault? 0 d with
    | none =>
      rw [lengthFault?_eq_none_iff] at hd
      constructor
      · rintro ⟨⟩
        exact ⟨rfl, hd⟩
      · rintro ⟨⟨⟩, -⟩
        rfl
    | some f =>
      constructor
      · rintro ⟨⟩
      · rintro ⟨⟨⟩, hv⟩
        rw [lengthFault?_eq_none_iff.2 hv] at hd
        cases hd

theorem batch_eq_ok {body : List UInt8} {events : List Event} :
    batch body = .ok events ↔ Batch.record.reader.decode body = .ok ⟨events⟩ ∧
      (1 ≤ events.length ∧ events.length ≤ batchLimit) ∧ ∀ e ∈ events, e.violations = [] := by
  rw [batch]
  cases Batch.record.reader.decode body with
  | error r => simp
  | ok d =>
    obtain ⟨es⟩ := d
    dsimp only
    constructor
    · intro h
      split at h
      · cases h
      rename_i hempty
      split at h
      · cases h
      rename_i hmost
      split at h
      · cases h
      rename_i hlength
      cases h
      refine ⟨rfl, ⟨?_, Nat.le_of_not_lt hmost⟩, firstLengthFault?_eq_none_iff.1 hlength⟩
      exact List.length_pos_iff.2 fun h => hempty (by simp [h])
    · rintro ⟨⟨⟩, ⟨hleast, hmost⟩, hlength⟩
      have hempty : events.isEmpty = false := by
        cases events with
        | nil => cases hleast
        | cons e events => rfl
      rw [hempty, if_neg (by decide), if_neg (Nat.not_lt.2 hmost),
        firstLengthFault?_eq_none_iff.2 hlength]

theorem violations_of_event {body : List UInt8} {e : Event} (h : event body = .ok e) :
    e.violations = [] :=
  (event_eq_ok.1 h).2

theorem violations_of_batch {body : List UInt8} {events : List Event}
    (h : batch body = .ok events) : ∀ e ∈ events, e.violations = [] :=
  (batch_eq_ok.1 h).2.2

theorem event_eq_error {body : List UInt8} {f : Fault} (h : event body = .error f) :
    ∃ code reason, f = .validation code reason := by
  unfold event at h
  split at h
  · cases h
    exact ⟨_, _, rfl⟩
  · split at h
    · rename_i hf
      cases h
      exact ⟨_, lengthFault?_eq_some hf⟩
    · cases h

theorem batch_eq_error {body : List UInt8} {f : Fault} (h : batch body = .error f) :
    ∃ code reason, f = .validation code reason := by
  unfold batch at h
  split at h
  · cases h
    exact ⟨_, _, rfl⟩
  · split at h
    · cases h
      exact ⟨_, _, rfl⟩
    · split at h
      · cases h
        exact ⟨_, _, rfl⟩
      · split at h
        · rename_i hf
          cases h
          exact ⟨_, firstLengthFault?_eq_some hf⟩
        · cases h

end Sluice.Body
