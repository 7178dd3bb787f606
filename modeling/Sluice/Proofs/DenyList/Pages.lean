import Mathlib.Algebra.Order.Floor.Div
import Mathlib.Data.List.Sort
import Sluice.Proofs.DenyList.Editing
import Sluice.Proofs.DenyList.Progress

/-!
# Loading in pages is loading at once

A store that keeps its rules serves them in the order of their texts, so many at a time.  What comes
after a page of it is what is left of the rules after that page (`after_last`), so a load takes in
all rules but the one with the empty text, each once and in order, and then is served an empty page.
`Proceeds.readsOn` says so from wherever a load stands: how often it asks, after which texts, and
what it comes to.  Texts stand in the order of their bytes (`Text.bytes_lt_iff`).

The list is the same for all sizes of pages.  In order or not, all at once, the rules give a list
that answers alike (`holds_sorted`), since each text is held once and the empty text matches
nothing.
-/

namespace Sluice

/-! ## Rules in order -/

/-- A store of rules with different texts. -/
def StoredRules.ofRules (rules : List DenyRule) (h : (rules.map (·.text)).Nodup) : StoredRules where
  rules := rules.mergeSort fun r t => r.text ≤ t.text
  ascending := by
    have hperm := List.mergeSort_perm rules fun r t => r.text ≤ t.text
    have hnodup : ((rules.mergeSort fun r t => r.text ≤ t.text).map (·.text)).Nodup :=
      (hperm.map _).nodup_iff.2 h
    have hsorted : (rules.mergeSort fun r t => r.text ≤ t.text).Pairwise fun r t =>
        decide (r.text ≤ t.text) = true := by
      refine List.pairwise_mergeSort (fun r s t hrs hst => ?_) (fun r t => ?_) rules
      · simp only [decide_eq_true_eq] at hrs hst ⊢
        exact String.le_trans hrs hst
      · simp only [Bool.or_eq_true, decide_eq_true_eq]
        exact String.le_total _ _
    refine (hsorted.and (List.pairwise_map.1 hnodup)).imp fun {r t} hrt => ?_
    refine lt_of_not_lt (fun htr => ?_) (Ne.symm hrt.2)
    exact String.not_le.2 htr (by simpa using hrt.1)

/-- The rules whose texts come after a cursor. -/
def StoredRules.after (s : StoredRules) (cursor : String) : List DenyRule :=
  s.rules.filter (cursor < ·.text)

namespace DenyLoad

open Dialogue

section After

variable {s : StoredRules} {q : PageRequest} {last : DenyRule}

/-- A page takes the first of the rules after its cursor, and what comes after it are the others. -/
theorem after_last (h : (pageOf s q).getLast? = some last) :
    s.after last.text = (s.after q.cursor).drop q.limit.toNat := by
  have hcursor : q.cursor < last.text := (mem_of_mem_pageOf (List.mem_of_getLast? h)).2
  have hboth : s.after last.text = (s.after q.cursor).filter (last.text < ·.text) := by
    rw [StoredRules.after, StoredRules.after, List.filter_filter]
    refine List.filter_congr fun r _ => ?_
    by_cases hr : last.text < r.text
    · simp [hr, String.lt_trans hcursor hr]
    · simp [hr]
  have hbefore : (pageOf s q).filter (last.text < ·.text) = [] := by
    refine List.filter_eq_nil_iff.2 fun r hr => ?_
    obtain rfl | hlt := le_last_of_mem_pageOf h hr
    · exact fun hgt => String.lt_irrefl r.text (of_decide_eq_true hgt)
    · simpa using fun hgt => String.lt_irrefl r.text (String.lt_trans hlt hgt)
  have hafter : ∀ r ∈ (s.after q.cursor).drop q.limit.toNat, last.text < r.text := by
    have hascending := s.ascending.filter (q.cursor < ·.text)
    rw [← List.take_append_drop q.limit.toNat (s.rules.filter _)] at hascending
    exact (List.pairwise_append.1 hascending).2.2 last (List.mem_of_getLast? h)
  calc s.after last.text
      = (pageOf s q ++ (s.after q.cursor).drop q.limit.toNat).filter (last.text < ·.text) := by
        rw [hboth, pageOf, ← StoredRules.after, List.take_append_drop]
    _ = (s.after q.cursor).drop q.limit.toNat := by
        rw [List.filter_append, hbefore, List.nil_append, List.filter_eq_self]
        exact fun r hr => by simpa using hafter r hr

end After

theorem pageLimit_pos (size : UInt32) : 0 < (pageLimit size).toNat := by
  have hlimit : (pageLimit size).toNat = max size.toNat 1 := UInt32.toNat_max _ _
  omega

/-- The pages that so many rules fill, the last perhaps in part. -/
def pagesOf (size : UInt32) (rules : List DenyRule) : Nat :=
  rules.length ⌈/⌉ max size.toNat 1

theorem pagesOf_nil (size : UInt32) : pagesOf size [] = 0 := zero_ceilDiv _

/-- One page less is left after a page. -/
theorem pagesOf_drop (size : UInt32) {rules : List DenyRule} (h : rules ≠ []) :
    pagesOf size (rules.drop (pageLimit size).toNat) + 1 = pagesOf size rules := by
  have hlimit : (pageLimit size).toNat = max size.toNat 1 := UInt32.toNat_max _ _
  have hp := pageLimit_pos size
  have hn : 0 < rules.length := List.length_pos_iff.2 h
  simp only [pagesOf, Nat.ceilDiv_eq_add_pred_div, List.length_drop, ← hlimit]
  generalize (pageLimit size).toNat = p at hp
  generalize rules.length = n at hn
  have hmore : n + p - 1 = n - 1 + p := by omega
  rw [hmore, Nat.add_div_right _ hp]
  by_cases hle : p ≤ n
  · have hrest : n - p + p - 1 = n - 1 := by omega
    rw [hrest]
  · rw [Nat.div_eq_of_lt (a := n - 1) (by omega), Nat.div_eq_of_lt (by omega)]

/-! ## A load from a store that keeps its rules -/

/-- A load within a number of pages makes no more requests than that. -/
theorem run_length_le (size : UInt32) (budget : Nat) (load : DenyLoad) :
    (load.run size budget).Ends fun l _ => l.length ≤ budget := by
  induction budget generalizing load with
  | zero =>
    rw [run, ends_pure]
    exact Nat.le_refl 0
  | succ budget ih =>
    simp only [run, step, ends_bind, ends_question, ends_pure]
    intro x
    cases load.next x with
    | onward load => exact (ih load).mono fun l _ h => Nat.succ_le_succ h
    | complete list =>
      rw [ends_pure]
      exact Nat.succ_le_succ (Nat.zero_le budget)
    | failed f =>
      rw [ends_pure]
      exact Nat.succ_le_succ (Nat.zero_le budget)

/-- The second request is made after the last text of the page that answers the first. -/
def Follows (x y : Exchange store) : Prop :=
  ∃ page last, x.answer = .ok page ∧ page.getLast? = some last ∧ y.question.cursor = last.text

/-- A load reads all rules after its cursor, page by page, and then an empty page, or it is not
pursued so far. -/
structure ReadsOn (s : StoredRules) (size : UInt32) (load : DenyLoad) (l : Transcript store)
    (r : Option (Except Fault DenyList)) : Prop where
  limit_eq : ∀ x ∈ l, x.question.limit = pageLimit size
  chained : l.IsChain Follows
  ended : r = some (.ok (take load.list (s.after load.cursor))) ∧
      l.length = pagesOf size (s.after load.cursor) + 1 ∨
    r = none ∧ l.length ≤ pagesOf size (s.after load.cursor)

theorem Proceeds.readsOn {s : StoredRules} {size : UInt32} {load : DenyLoad}
    {l : Transcript store} {r : Option (Except Fault DenyList)} (h : Proceeds size load l r)
    {i : Nat} (hs : Served (fun _ => s) i l) : ReadsOn s size load l r := by
  induction h generalizing i with
  | pending => exact ⟨by simp, .nil, .inr ⟨rfl, Nat.zero_le _⟩⟩
  | failed => cases hs
  | @complete load =>
    generalize hnil : ([] : List DenyRule) = page at hs
    cases hs
    have hnone : s.after load.cursor = [] :=
      (List.take_eq_nil_iff.1 hnil.symm).resolve_left (pageLimit_pos size).ne'
    refine ⟨by simp, .singleton _, .inl ?_⟩
    rw [hnone, pagesOf_nil, ← hnil]
    exact ⟨rfl, rfl⟩
  | @halted load page last hlast _ hle =>
    cases hs
    exact absurd hle (String.not_le.2 (mem_of_mem_pageOf (List.mem_of_getLast? hlast)).2)
  | @onward load page last l r hlast _ hrest ih =>
    cases hs with
    | cons hs =>
      obtain ⟨hlimit, hchain, hended⟩ := ih hs
      have hafter : s.after last.text = (s.after load.cursor).drop (pageLimit size).toNat :=
        after_last hlast
      have hne : s.after load.cursor ≠ [] := by
        intro hnil
        rw [pageOf, ← StoredRules.after, hnil, List.take_nil] at hlast
        cases hlast
      have htake : take (take load.list (pageOf s ⟨pageLimit size, load.cursor⟩))
          (s.after last.text) = take load.list (s.after load.cursor) := by
        rw [take, take, take, ← List.foldl_append, hafter, pageOf, ← StoredRules.after,
          List.take_append_drop]
      have hcount := pagesOf_drop size hne
      rw [← hafter] at hcount
      dsimp only at hended
      rw [htake] at hended
      refine ⟨?_, List.isChain_cons.2 ⟨fun y hy => ?_, hchain⟩, ?_⟩
      · rintro x (_ | ⟨_, hx⟩)
        · rfl
        · exact hlimit x hx
      · exact ⟨_, last, rfl, hlast, by rw [hrest.head_question y hy]⟩
      · rw [List.length_cons]
        exact hended.imp (fun h => ⟨h.1, by omega⟩) fun h => ⟨h.1, by omega⟩

/-! ## The list that comes of it -/

/-- Of rules with different texts one at most has a text, in whatever order they are. -/
theorem filter_text_eq {rules rules' : List DenyRule} (h : (rules.map (·.text)).Nodup)
    (hperm : rules'.Perm rules) (text : String) :
    rules'.filter (·.text = text) = rules.filter (·.text = text) := by
  have hone {l : List DenyRule} (hl : (l.map (·.text)).Nodup) :
      (l.filter (·.text = text)).Pairwise fun _ _ => False := by
    refine ((List.pairwise_map.1 hl).filter _).imp_of_mem fun {r t} hr ht hne => hne ?_
    have hr := (List.mem_filter.1 hr).2
    have ht := (List.mem_filter.1 ht).2
    simp only [decide_eq_true_eq] at hr ht
    rw [hr, ht]
  exact (hperm.filter _).eq_of_pairwise (fun _ _ _ _ hf => hf.elim)
    (hone ((hperm.map _).nodup_iff.2 h)) (hone h)

/-- Lists with the same rules of each text but the empty one hold the same. -/
theorem holds_of_filter_eq {rules rules' : List DenyRule}
    (h : ∀ text ≠ "", rules'.filter (·.text = text) = rules.filter (·.text = text)) :
    (DenyList.ofRules rules').Holds
      (PrefixMatcher.lastValues (rules.map fun r => (r.text, r.note))) := by
  have hfilter (l : List DenyRule) (text : String) :
      (l.map fun r => (r.text, r.note)).filter (·.1 = text) =
        (l.filter (·.text = text)).map fun r => (r.text, r.note) := by
    rw [List.filter_map]
    rfl
  have hmap : PrefixMatcher.lastValues (rules'.map fun r => (r.text, r.note)) =
      PrefixMatcher.lastValues (rules.map fun r => (r.text, r.note)) := by
    refine PrefixMatcher.lastValues_congr fun text hne => ?_
    rw [hfilter, hfilter, h text hne]
  rw [← hmap]
  exact PrefixMatcher.holds_ofList _

/-- The rules after the empty cursor, in order, are held as all of them are. -/
theorem holds_sorted (rules : List DenyRule) (h : (rules.map (·.text)).Nodup) :
    (DenyList.ofRules ((StoredRules.ofRules rules h).after "")).Holds
      (PrefixMatcher.lastValues (rules.map fun r => (r.text, r.note))) := by
  refine holds_of_filter_eq fun text hne => ?_
  rw [← filter_text_eq h (List.mergeSort_perm _ _) text, StoredRules.after, List.filter_filter]
  refine List.filter_congr fun r _ => ?_
  by_cases htext : r.text = text
  · simp [htext, empty_lt hne]
  · simp [htext]

/-- The number of rules after the empty cursor. -/
theorem length_after (rules : List DenyRule) (h : (rules.map (·.text)).Nodup) :
    ((StoredRules.ofRules rules h).after "").length = (rules.filter (·.text ≠ "")).length := by
  have hperm := (List.mergeSort_perm rules fun r t => r.text ≤ t.text).filter (·.text ≠ "")
  rw [← hperm.length_eq, StoredRules.after]
  refine congrArg List.length (List.filter_congr fun r _ => ?_)
  by_cases hr : r.text = ""
  · rw [hr]
    rfl
  · simp [hr, empty_lt hr]

/-- A load of rules that stay as they are: its requests with their answers, and what it comes to
within some number of pages. -/
def loadKept (rules : List DenyRule) (h : (rules.map (·.text)).Nodup) (size : UInt32)
    (budget : Nat) : Transcript store × Option (Except Fault DenyList) :=
  loadEdited (fun _ => .ofRules rules h) size budget

/-- The requests for so many rules in pages: each is for a full page, the first from the beginning,
and every other one from where the page before ended. -/
structure InPages (size : UInt32) (rules : Nat) (l : Transcript store) : Prop where
  /-- One empty page follows those that the rules fill. -/
  length_eq : l.length = rules ⌈/⌉ max size.toNat 1 + 1
  limit_eq : ∀ x ∈ l, x.question.limit.toNat = max size.toNat 1
  first_eq : ∀ x ∈ l.head?, x.question.cursor = ""
  chained : l.IsChain Follows

/-- Rules that stay as they are may be loaded in pages of any size: the load asks for every page
that they fill and once more, and comes to a list that is the same for all sizes and answers as that
of the rules taken all at once, in any order. -/
theorem paged_load_whole (rules : List DenyRule) (h : (rules.map (·.text)).Nodup) :
    ∃ list : DenyList,
      (∀ rules' : List DenyRule, rules'.Perm rules →
        list.size = (DenyList.ofRules rules').size ∧
          ∀ key, list.find? key = (DenyList.ofRules rules').find? key) ∧
      ∀ (size : UInt32) (budget : Nat),
        (budget ≤ (rules.filter (·.text ≠ "")).length ⌈/⌉ max size.toNat 1 →
          (loadKept rules h size budget).2 = none) ∧
        ((rules.filter (·.text ≠ "")).length ⌈/⌉ max size.toNat 1 < budget →
          (loadKept rules h size budget).2 = some (.ok list) ∧
          InPages size (rules.filter (·.text ≠ "")).length (loadKept rules h size budget).1) := by
  have hsorted := holds_sorted rules h
  refine ⟨DenyList.ofRules ((StoredRules.ofRules rules h).after ""), fun rules' hperm => ?_,
    fun size budget => ?_⟩
  · have hrules := holds_of_filter_eq fun text _ => filter_text_eq h hperm text
    exact ⟨hsorted.size_eq.trans hrules.size_eq.symm, fun key => hrules.find_eq hsorted key⟩
  · obtain ⟨hproceeds, hpending⟩ :=
      (run_proceeds size budget start).played (serving fun _ => .ofRules rules h)
    have hle := (run_length_le size budget start).played (serving fun _ => .ofRules rules h)
    obtain ⟨l, hl, hserved⟩ := play_served (fun _ => .ofRules rules h) (start.run size budget) []
    rw [List.nil_append] at hl
    rw [hl] at hproceeds hpending hle
    have hreads := hproceeds.readsOn hserved
    have hcount : pagesOf size ((StoredRules.ofRules rules h).after "") =
        (rules.filter (·.text ≠ "")).length ⌈/⌉ max size.toNat 1 := by
      rw [pagesOf, length_after]
    have hended := hreads.ended
    rw [show start.cursor = "" from rfl, show start.list = .empty from rfl, take_empty,
      hcount] at hended
    rw [loadKept, loadEdited, hl]
    refine ⟨fun hbudget => ?_, fun hbudget => ?_⟩
    · obtain ⟨-, hlength⟩ | ⟨hr, -⟩ := hended
      · omega
      · exact hr
    · obtain ⟨hr, hlength⟩ | ⟨hr, hlength⟩ := hended
      · refine ⟨hr, hlength, fun x hx => ?_, fun x hx => ?_, hreads.chained⟩
        · rw [hreads.limit_eq x hx]
          exact UInt32.toNat_max _ _
        · rw [hproceeds.head_question x hx]
          rfl
      · have hall := hpending hr
        omega

/-- Rules out of order, of which one is empty and one goes beyond ASCII. -/
def threeKept : List DenyRule := ["é", "", "z"].map ruleOf

/-- The two of these that are not empty take three requests one by one, for which the size 0 counts,
and two requests in a page for two. -/
theorem paged_load_whole_three :
    ∃ h : (threeKept.map (·.text)).Nodup, ∃ list : DenyList,
      list.size = (DenyList.ofRules threeKept).size ∧
        list.find? "école" = (DenyList.ofRules threeKept).find? "école" ∧
        (loadKept threeKept h 0 2).2 = none ∧
        (loadKept threeKept h 0 3).2 = some (.ok list) ∧
        (loadKept threeKept h 2 2).2 = some (.ok list) ∧
        InPages 2 2 (loadKept threeKept h 2 2).1 := by
  have h : (threeKept.map (·.text)).Nodup := by decide
  obtain ⟨list, hlist, hload⟩ := paged_load_whole threeKept h
  obtain ⟨hsize, hfind⟩ := hlist threeKept (.refl _)
  refine ⟨h, list, hsize, hfind "école", (hload 0 2).1 (by decide), ?_, (hload 2 2).2 (by decide)⟩
  exact ((hload 0 3).2 (by decide)).1

end DenyLoad

end Sluice
