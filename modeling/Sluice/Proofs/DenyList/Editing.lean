import Sluice.Proofs.DenyList.Load
import Sluice.Proofs.PrefixMatcher

/-!
# Loading rules while they are edited

A store that keeps to the order of its pages serves the first rules after the cursor, of those that
it holds at that moment (`pageOf`).  From one request of a load to the next it may hold any
others (`Served`): rules may come and go on both sides of the cursor, and the rule that the cursor
is taken from may go.

Such a load never stops short of the end (`run_succeeds`).  `Gathered` is what holds of the rules
that are read from a cursor on: their texts ascend, each was held at some request, and every rule
after the cursor that is held at all requests is among them.  For what a page leaves out comes after
its last rule, and so after the next cursor.

A rule with the empty text is never served, since no cursor comes before it.
-/

namespace Sluice

/-- The rules that a store holds at one moment, in the order of their texts. -/
structure StoredRules where
  rules : List DenyRule
  /-- Each text is held once. -/
  ascending : rules.Pairwise fun r s => r.text < s.text

namespace DenyLoad

open Dialogue

/-! ## Pages -/

section Page

variable {s : StoredRules} {q : PageRequest} {r last : DenyRule}

/-- The page that a store serves: the first rules after the cursor. -/
def pageOf (s : StoredRules) (q : PageRequest) : List DenyRule :=
  (s.rules.filter (q.cursor < ·.text)).take q.limit.toNat

theorem pageOf_ascending : (pageOf s q).Pairwise fun r t => r.text < t.text :=
  (s.ascending.filter _).sublist (List.take_sublist _ _)

theorem mem_of_mem_pageOf (h : r ∈ pageOf s q) : r ∈ s.rules ∧ q.cursor < r.text := by
  simpa using List.mem_filter.1 (List.mem_of_mem_take h)

theorem le_last_of_mem_pageOf (hlast : (pageOf s q).getLast? = some last) (h : r ∈ pageOf s q) :
    r = last ∨ r.text < last.text := by
  obtain ⟨before, hpage⟩ := List.getLast?_eq_some_iff.1 hlast
  have hascending := pageOf_ascending (s := s) (q := q)
  rw [hpage] at h hascending
  rcases List.mem_append.1 h with h | h
  · exact .inr ((List.pairwise_append.1 hascending).2.2 r h last (List.mem_singleton.2 rfl))
  · exact .inl (List.mem_singleton.1 h)

/-- What a page leaves out comes after its last rule. -/
theorem mem_pageOf (hlast : (pageOf s q).getLast? = some last) (hr : r ∈ s.rules)
    (hcursor : q.cursor < r.text) (hle : ¬ last.text < r.text) : r ∈ pageOf s q := by
  have hmem : r ∈ s.rules.filter (q.cursor < ·.text) :=
    List.mem_filter.2 ⟨hr, by simpa using hcursor⟩
  rw [← List.take_append_drop q.limit.toNat (s.rules.filter _)] at hmem
  refine (List.mem_append.1 hmem).resolve_right fun hdrop => hle ?_
  have hascending := s.ascending.filter (q.cursor < ·.text)
  rw [← List.take_append_drop q.limit.toNat (s.rules.filter _)] at hascending
  exact (List.pairwise_append.1 hascending).2.2 last (List.mem_of_getLast? hlast) r hdrop

/-- A page is empty only if nothing comes after the cursor. -/
theorem not_lt_of_pageOf_eq_nil {size : UInt32} {cursor : String}
    (hnil : pageOf s ⟨pageLimit size, cursor⟩ = []) (hr : r ∈ s.rules) : ¬ cursor < r.text := by
  intro hcursor
  have hlimit : (pageLimit size).toNat ≠ 0 := by
    have hle : (pageLimit size).toNat = max size.toNat 1 := UInt32.toNat_max _ _
    omega
  have hnone := (List.take_eq_nil_iff.1 hnil).resolve_left hlimit
  exact List.not_mem_nil (hnone ▸ List.mem_filter.2 ⟨hr, by simpa using hcursor⟩)

end Page

/-! ## A store that is edited -/

/-- The answers of a store that holds, from the request numbered `i` on, these rules one after
another. -/
inductive Served (stored : Nat → StoredRules) : Nat → Transcript store → Prop where
  | nil {i} : Served stored i []
  | cons {i q l} : Served stored (i + 1) l →
    Served stored i (⟨q, .ok (pageOf (stored i) q)⟩ :: l)

/-- How such a store answers: each request from the rules that it holds then. -/
def serving (stored : Nat → StoredRules) : Strategy store := fun past q =>
  .ok (pageOf (stored past.length) q)

theorem play_served {α : Type} (stored : Nat → StoredRules) (d : Dialogue store α)
    (past : Transcript store) : ∃ l, (d.play (serving stored) past).1 = past ++ l ∧
      Served stored past.length l := by
  induction d generalizing past with
  | done a => exact ⟨[], (List.append_nil past).symm, .nil⟩
  | ask q next ih =>
    obtain ⟨l, hl, hs⟩ := ih (serving stored past q) (past ++ [⟨q, serving stored past q⟩])
    rw [List.length_append] at hs
    exact ⟨⟨q, serving stored past q⟩ :: l, by simp [play, hl], .cons hs⟩

/-- Every page comes after the cursor that it was asked for. -/
theorem next_pageOf (load : DenyLoad) {s : StoredRules} {limit : UInt32} {last : DenyRule}
    (h : (pageOf s ⟨limit, load.cursor⟩).getLast? = some last) :
    load.next (.ok (pageOf s ⟨limit, load.cursor⟩)) =
      .onward ⟨last.text, take load.list (pageOf s ⟨limit, load.cursor⟩)⟩ := by
  have hlt : load.cursor < last.text := (mem_of_mem_pageOf (List.mem_of_getLast? h)).2
  simp only [next, h]
  rw [if_neg fun hstuck => String.not_le.2 hlt hstuck.2]

/-- A load from such a store does not fail. -/
theorem run_succeeds (stored : Nat → StoredRules) (size : UInt32) (budget : Nat) (load : DenyLoad)
    (i : Nat) : (load.run size budget).Ends fun l r => Served stored i l →
      ∀ f, r ≠ some (.error f) := by
  induction budget generalizing load i with
  | zero =>
    rw [run, ends_pure]
    rintro - f ⟨⟩
  | succ budget ih =>
    simp only [run, step, ends_bind, ends_question, ends_pure]
    intro x
    cases x with
    | error f =>
      rw [next, ends_pure]
      rintro ⟨⟩
    | ok page =>
      cases hlast : page.getLast? with
      | none =>
        rw [List.getLast?_eq_none_iff.1 hlast, next_empty, ends_pure]
        rintro - f ⟨⟩
      | some last =>
        obtain hnext | hnext := next_page load hlast
        · rw [hnext, ends_pure]
          rintro ⟨hs⟩
          rw [next_pageOf load hlast] at hnext
          cases hnext
        · rw [hnext]
          refine (ih _ (i + 1)).mono fun l r h hs => h ?_
          cases hs with
          | cons hs => exact hs

/-! ## What is read -/

/-- The rules of the pages that a store served. -/
def rulesRead (l : Transcript store) : List DenyRule :=
  l.flatMap fun
    | ⟨_, .ok page⟩ => page
    | ⟨_, .error _⟩ => []

theorem Paged.rulesRead_eq {size : UInt32} {cursor : String} {l : Transcript store}
    {pages : List (List DenyRule)} (h : Paged size cursor l pages) :
    rulesRead l = pages.flatten := by
  induction h with
  | ended => rfl
  | onward _ _ ih =>
    rw [List.flatten_cons, ← ih]
    rfl

/-- What holds of the rules that are read after a cursor, from the request numbered `i` on in `n`
requests. -/
structure Gathered (stored : Nat → StoredRules) (i n : Nat) (cursor : String)
    (rules : List DenyRule) : Prop where
  /-- No text is read twice. -/
  ascending : rules.Pairwise fun r s => r.text < s.text
  /-- They come after the cursor. -/
  after : ∀ r ∈ rules, cursor < r.text
  /-- Each was held when it was read. -/
  held : ∀ r ∈ rules, ∃ k, i ≤ k ∧ k < i + n ∧ r ∈ (stored k).rules
  /-- What is held all the time is read. -/
  lasting : ∀ r, cursor < r.text → (∀ k, i ≤ k → k < i + n → r ∈ (stored k).rules) → r ∈ rules

theorem Paged.gathered {stored : Nat → StoredRules} {size : UInt32} {cursor : String}
    {l : Transcript store} {pages : List (List DenyRule)} (h : Paged size cursor l pages) {i : Nat}
    (hs : Served stored i l) : Gathered stored i l.length cursor pages.flatten := by
  induction h generalizing i with
  | @ended cursor =>
    generalize hnil : ([] : List DenyRule) = page at hs
    cases hs
    refine ⟨.nil, fun r hr => ?_, fun r hr => ?_, fun r hr hlasting => ?_⟩
    · cases hr
    · cases hr
    · exact absurd hr (not_lt_of_pageOf_eq_nil hnil.symm (hlasting i (Nat.le_refl i) (by simp)))
  | @onward cursor page last l pages hlast _ ih =>
    cases hs with
    | cons hs =>
      obtain ⟨hascending, hafter, hheld, hlasting⟩ := ih hs
      have hcursor : cursor < last.text := (mem_of_mem_pageOf (List.mem_of_getLast? hlast)).2
      refine ⟨?_, fun r hr => ?_, fun r hr => ?_, fun r hr hall => ?_⟩
      · refine List.pairwise_append.2 ⟨pageOf_ascending, hascending, fun r hr t ht => ?_⟩
        obtain rfl | hlt := le_last_of_mem_pageOf hlast hr
        · exact hafter t ht
        · exact String.lt_trans hlt (hafter t ht)
      · rcases List.mem_append.1 hr with hr | hr
        · exact (mem_of_mem_pageOf hr).2
        · exact String.lt_trans hcursor (hafter r hr)
      · rcases List.mem_append.1 hr with hr | hr
        · exact ⟨i, Nat.le_refl i, by simp, (mem_of_mem_pageOf hr).1⟩
        · obtain ⟨k, hik, hk, hr⟩ := hheld r hr
          exact ⟨k, by omega, by simp only [List.length_cons]; omega, hr⟩
      · -- A rule that lasts is on this page or after its last rule, and then it still lasts.
        refine List.mem_append.2 ?_
        by_cases hlt : last.text < r.text
        · refine .inr (hlasting r hlt fun k hik hk => hall k (by omega) ?_)
          simp only [List.length_cons]
          omega
        · have hi : r ∈ (stored i).rules := hall i (Nat.le_refl i) (by simp)
          exact .inl (mem_pageOf hlast hi hr hlt)

/-! ## The list that comes of it -/

section List

variable {rules : List DenyRule} {r : DenyRule}

/-- The map of rules whose texts ascend has the note of each. -/
theorem lookup_of_ascending (h : rules.Pairwise fun r s => r.text < s.text) (hr : r ∈ rules)
    (hne : r.text ≠ "") :
    (PrefixMatcher.lastValues (rules.map fun r => (r.text, r.note))).lookup r.text =
      some r.note := by
  have hnodup : (rules.map (·.text)).Nodup := by
    refine List.pairwise_map.2 (h.imp fun {s t} hlt => ?_)
    intro heq
    exact String.lt_irrefl t.text (heq ▸ hlt)
  rw [PrefixMatcher.lookup_lastValues _ hne]
  have hmem : (r.text, r.note) ∈
      (rules.map fun r => (r.text, r.note)).filter (·.1 = r.text) :=
    List.mem_filter.2 ⟨List.mem_map.2 ⟨r, hr, rfl⟩, by simp⟩
  cases hlast : ((rules.map fun r => (r.text, r.note)).filter (·.1 = r.text)).getLast? with
  | none =>
    rw [List.getLast?_eq_none_iff.1 hlast] at hmem
    cases hmem
  | some p =>
    obtain ⟨hp, htext⟩ := List.mem_filter.1 (List.mem_of_getLast? hlast)
    obtain ⟨t, ht, rfl⟩ := List.mem_map.1 hp
    have heq : t = r := List.inj_on_of_nodup_map hnodup ht hr (by simpa using htext)
    rw [heq]
    rfl

/-- In the list of rules whose texts ascend each is found by its own text. -/
theorem find?_of_ascending (h : rules.Pairwise fun r s => r.text < s.text) (hr : r ∈ rules)
    (hne : r.text ≠ "") : (DenyList.ofRules rules).find? r.text = some (r.text, r.note) := by
  have hlookup := lookup_of_ascending h hr hne
  refine (PrefixMatcher.holds_ofList _).find_eq_some_iff.2 ⟨⟨?_, List.prefix_refl _, ?_⟩, hlookup⟩
  · exact Finmap.mem_of_lookup_eq_some hlookup
  · exact fun _ _ hprefix => hprefix.length_le

/-- What is found in the list of some rules is one of them. -/
theorem mem_of_find?_eq_some {key text : String} {note : DenyNote}
    (h : (DenyList.ofRules rules).find? key = some (text, note)) : ⟨text, note⟩ ∈ rules := by
  obtain ⟨hlongest, hlookup⟩ := (PrefixMatcher.holds_ofList _).find_eq_some_iff.1 h
  have hne : text ≠ "" := (PrefixMatcher.mem_lastValues.1 hlongest.mem).1
  rw [PrefixMatcher.lookup_lastValues _ hne] at hlookup
  obtain ⟨p, hlast, rfl⟩ := Option.map_eq_some_iff.1 hlookup
  obtain ⟨hp, htext⟩ := List.mem_filter.1 (List.mem_of_getLast? hlast)
  obtain ⟨r, hr, rfl⟩ := List.mem_map.1 hp
  obtain rfl : r.text = text := by simpa using htext
  exact hr

/-- A rule whose text was not put before takes the place of none. -/
theorem put_fst_eq_none (hnew : ∀ t ∈ rules, t.text ≠ r.text) :
    ((DenyList.ofRules rules).put r.text r.note).1 = none := by
  refine (PrefixMatcher.put_fst _ _ _).trans ?_
  refine ((PrefixMatcher.holds_ofList _).get?_eq r.text).trans ?_
  refine Finmap.lookup_eq_none.2 fun hmem => ?_
  obtain ⟨-, p, hp, htext⟩ := PrefixMatcher.mem_lastValues.1 hmem
  obtain ⟨t, ht, rfl⟩ := List.mem_map.1 hp
  exact hnew t ht htext

end List

/-- A load from a store that is edited: its requests with their answers, and what it comes to within
some number of pages. -/
def loadEdited (stored : Nat → StoredRules) (size : UInt32) (budget : Nat) :
    Transcript store × Option (Except Fault DenyList) :=
  (start.run size budget).play (serving stored) []

/-- A load from a store that is edited does not fail.  If it comes to its end, every rule that is
not empty and was held at all requests is in its list, every rule of the list was held at some
request, and no text was read twice, so that no value was put in place of another. -/
theorem load_while_edited (stored : Nat → StoredRules) (size : UInt32) (budget : Nat) :
    (∀ f, (loadEdited stored size budget).2 ≠ some (.error f)) ∧
    ∀ list, (loadEdited stored size budget).2 = some (.ok list) →
      (∀ r, r.text ≠ "" →
        (∀ k < (loadEdited stored size budget).1.length, r ∈ (stored k).rules) →
        list.find? r.text = some (r.text, r.note)) ∧
      (∀ key text note, list.find? key = some (text, note) →
        ∃ k < (loadEdited stored size budget).1.length, ⟨text, note⟩ ∈ (stored k).rules) ∧
      (rulesRead (loadEdited stored size budget).1).Pairwise (fun r s => r.text < s.text) ∧
      ∀ before r after, rulesRead (loadEdited stored size budget).1 = before ++ r :: after →
        ((DenyList.ofRules before).put r.text r.note).1 = none := by
  obtain ⟨l, hl, hserved⟩ := play_served stored (start.run size budget) []
  have hsucceeds := (run_succeeds stored size budget start 0).played (serving stored)
  have hends := (start_ends size budget).played (serving stored)
  unfold loadEdited
  rw [List.nil_append] at hl
  rw [hl] at hsucceeds hends ⊢
  refine ⟨hsucceeds hserved, fun list hlist => ?_⟩
  obtain ⟨pages, hpaged, rfl⟩ := hends list hlist
  obtain ⟨hascending, -, hheld, hlasting⟩ := hpaged.gathered hserved
  rw [hpaged.rulesRead_eq]
  refine ⟨fun r hne hall => ?_, fun key text note hfind => ?_, hascending, ?_⟩
  · have hcursor : "" < r.text := lt_of_not_lt (List.not_lt_nil _) hne
    have hr : r ∈ pages.flatten := hlasting r hcursor fun k _ hk => hall k (by simpa using hk)
    exact find?_of_ascending hascending hr hne
  · obtain ⟨k, -, hk, hmem⟩ := hheld _ (mem_of_find?_eq_some hfind)
    exact ⟨k, by simpa using hk, hmem⟩
  · intro before r after hsplit
    rw [hsplit] at hascending
    have hbefore := (List.pairwise_append.1 hascending).2.2
    refine put_fst_eq_none fun t ht heq => ?_
    exact String.lt_irrefl t.text (heq ▸ hbefore t ht r List.mem_cons_self)

/-! ## Two stores -/

/-- A rule with a text. -/
def ruleOf (text : String) : DenyRule := ⟨text, .epoch, ""⟩

/-- A store whose rules come and go: the second page is asked for after `b`, which is gone by then,
while `a` and `c` have come on both sides of it. -/
def changing : Nat → StoredRules
  | 0 => ⟨[ruleOf "b", ruleOf "d"], by decide⟩
  | 1 => ⟨[ruleOf "a", ruleOf "c", ruleOf "d"], by decide⟩
  | _ => ⟨[ruleOf "a", ruleOf "d"], by decide⟩

/-- The rule that is held all the time is found, and nothing is found for one that came too late. -/
theorem load_while_edited_changing :
    ∃ list, (loadEdited changing 1 4).2 = some (.ok list) ∧
      list.find? "d" = some ("d", ⟨.epoch, ""⟩) ∧ list.find? "a" = none :=
  ⟨_, rfl, ((load_while_edited changing 1 4).2 _ rfl).1 (ruleOf "d") (by decide) (by decide),
    by decide⟩

/-- A store that always holds a rule with the empty text. -/
def holdingEmpty (_ : Nat) : StoredRules := ⟨[ruleOf ""], by decide⟩

/-- The rule with the empty text is never served, so no list has it. -/
theorem lastingEmpty_not_loaded :
    (∀ k < (loadEdited holdingEmpty 1 1).1.length,
      ruleOf "" ∈ (holdingEmpty k).rules) ∧
    ∃ list, (loadEdited holdingEmpty 1 1).2 = some (.ok list) ∧
      list.size = 0 ∧ list.find? "" = none :=
  ⟨fun _ _ => List.mem_singleton.2 rfl, _, rfl, rfl, rfl⟩

end DenyLoad

end Sluice
