import Sluice.DenyList.Load
import Sluice.Proofs.Dialogue.Transcript

/-!
# What a load comes to

A load that succeeds has asked for its pages one after another, each after the last text of the one
before, and was given them all up to an empty one (`Paged`).  The list that it comes to is that of
all their rules (`start_ends`).
-/

namespace Sluice

namespace DenyLoad

open Dialogue

/-- The exchanges of a load from a cursor on that was given these pages, and then an empty one. -/
inductive Paged (size : UInt32) : String → Transcript store → List (List DenyRule) → Prop where
  | ended {cursor} : Paged size cursor [⟨⟨pageLimit size, cursor⟩, .ok []⟩] []
  /-- The next page comes after the last text of this one. -/
  | onward {cursor page last l pages} : page.getLast? = some last → Paged size last.text l pages →
    Paged size cursor (⟨⟨pageLimit size, cursor⟩, .ok page⟩ :: l) (page :: pages)

theorem foldl_take (list : DenyList) (pages : List (List DenyRule)) :
    pages.foldl take list = take list pages.flatten := by
  rw [take, List.foldl_flatten]
  rfl

/-- A list that starts from none is that of the rules. -/
theorem take_empty (rules : List DenyRule) : take .empty rules = DenyList.ofRules rules := by
  simp only [take, DenyList.ofRules, PrefixMatcher.ofList, List.foldl_map]

theorem next_empty (load : DenyLoad) : load.next (.ok []) = .complete load.list := rfl

/-- On any other page a load goes on after its last text, unless that does not come after the
cursor. -/
theorem next_page (load : DenyLoad) {page : List DenyRule} {last : DenyRule}
    (h : page.getLast? = some last) :
    load.next (.ok page) = .failed (stuck load.cursor) ∨
      load.next (.ok page) = .onward ⟨last.text, take load.list page⟩ := by
  simp only [next, h]
  split
  · exact .inl rfl
  · exact .inr rfl

theorem run_ends (size : UInt32) (budget : Nat) (load : DenyLoad) :
    (load.run size budget).Ends fun l r => ∀ list, r = some (.ok list) →
      ∃ pages, Paged size load.cursor l pages ∧ list = pages.foldl take load.list := by
  induction budget generalizing load with
  | zero =>
    rw [run, ends_pure]
    intro list h
    cases h
  | succ budget ih =>
    simp only [run, step, ends_bind, ends_question, ends_pure]
    intro x
    cases x with
    | error f =>
      rw [next, ends_pure]
      rintro list ⟨⟩
    | ok page =>
      cases hlast : page.getLast? with
      | none =>
        obtain rfl := List.getLast?_eq_none_iff.1 hlast
        rw [next_empty, ends_pure]
        rintro list ⟨⟩
        exact ⟨[], .ended, rfl⟩
      | some last =>
        obtain hnext | hnext := next_page load hlast
        · rw [hnext, ends_pure]
          rintro list ⟨⟩
        · rw [hnext]
          refine (ih _).mono fun l r hl list hr => ?_
          obtain ⟨pages, hp, rfl⟩ := hl list hr
          exact ⟨page :: pages, .onward hlast hp, rfl⟩

/-- A load from the start comes to the list of the rules of all its pages. -/
theorem start_ends (size : UInt32) (budget : Nat) :
    (start.run size budget).Ends fun l r => ∀ list, r = some (.ok list) →
      ∃ pages, Paged size "" l pages ∧ list = DenyList.ofRules pages.flatten := by
  refine (run_ends size budget start).mono fun l r hl list hr => ?_
  obtain ⟨pages, hp, rfl⟩ := hl list hr
  refine ⟨pages, hp, ?_⟩
  rw [foldl_take]
  exact take_empty _

end DenyLoad

end Sluice
