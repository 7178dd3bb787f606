import Mathlib.Data.Finset.Card
import Sluice.Proofs.DenyList.Load
import Sluice.Proofs.Text.Order

/-!
# How a load gets on

A store may serve anything: pages in any order, the same page again, pages that come before the
cursor.  `Proceeds` says what a load can do with it, page by page, and where it ends.  It *advances*
if its cursors ascend and a page that does not come after its cursor ends it with an error
(`Advances`).

A load does so from wherever its first page comes after its cursor (`Proceeds.advances`).  At the
start that is not a matter of course: every page is taken to come after the empty cursor, also one
that ends in the empty text (`EndsEmpty`), and then the same request is made again.  `load_advances`
says that this is the only exception.  A load that advances makes no more requests than the store
has texts, and one.
-/

namespace Sluice

namespace DenyLoad

open Dialogue

/-! ## What a load does -/

/-- What a load may ask and be answered from here on, and its end, if it comes to one. -/
inductive Proceeds (size : UInt32) :
    DenyLoad → Transcript store → Option (Except Fault DenyList) → Prop where
  /-- It is not pursued any further. -/
  | pending {load} : Proceeds size load [] none
  | failed {load f} :
    Proceeds size load [⟨⟨pageLimit size, load.cursor⟩, .error f⟩] (some (.error f))
  | complete {load} :
    Proceeds size load [⟨⟨pageLimit size, load.cursor⟩, .ok []⟩] (some (.ok load.list))
  /-- The page does not come after the cursor. -/
  | halted {load page last} : page.getLast? = some last → load.cursor ≠ "" →
    last.text ≤ load.cursor → Proceeds size load [⟨⟨pageLimit size, load.cursor⟩, .ok page⟩]
      (some (.error (stuck load.cursor)))
  /-- The page comes after the cursor, or the cursor is empty. -/
  | onward {load page last l r} : page.getLast? = some last →
    (load.cursor = "" ∨ load.cursor < last.text) →
    Proceeds size ⟨last.text, take load.list page⟩ l r →
    Proceeds size load (⟨⟨pageLimit size, load.cursor⟩, .ok page⟩ :: l) r

theorem run_proceeds (size : UInt32) (budget : Nat) (load : DenyLoad) :
    (load.run size budget).Ends fun l r =>
      Proceeds size load l r ∧ (r = none → l.length = budget) := by
  induction budget generalizing load with
  | zero =>
    rw [run, ends_pure]
    exact ⟨.pending, fun _ => rfl⟩
  | succ budget ih =>
    simp only [run, step, ends_bind, ends_question, ends_pure]
    intro x
    cases x with
    | error f =>
      rw [next, ends_pure]
      exact ⟨.failed, fun h => by cases h⟩
    | ok page =>
      cases hlast : page.getLast? with
      | none =>
        obtain rfl := List.getLast?_eq_none_iff.1 hlast
        rw [next_empty, ends_pure]
        exact ⟨.complete, fun h => by cases h⟩
      | some last =>
        by_cases hstuck : load.cursor ≠ "" ∧ last.text ≤ load.cursor
        · have hnext : load.next (.ok page) = .failed (stuck load.cursor) := by
            simp only [next, hlast]
            rw [if_pos hstuck]
          rw [hnext, ends_pure]
          exact ⟨.halted hlast hstuck.1 hstuck.2, fun h => by cases h⟩
        · have hnext : load.next (.ok page) = .onward ⟨last.text, take load.list page⟩ := by
            simp only [next, hlast]
            rw [if_neg hstuck]
          have hafter : load.cursor = "" ∨ load.cursor < last.text := by
            by_cases hempty : load.cursor = ""
            · exact .inl hempty
            · exact .inr (String.not_le.1 fun hle => hstuck ⟨hempty, hle⟩)
          rw [hnext]
          refine (ih _).mono fun l r h => ?_
          exact ⟨.onward hlast hafter h.1, fun hr => congrArg (· + 1) (h.2 hr)⟩

/-! ## Advancing -/

theorem not_lt_empty (s : String) : ¬ s < "" := List.not_lt_nil _

theorem empty_lt {s : String} (h : s ≠ "") : "" < s := lt_of_not_lt (not_lt_empty s) h

/-- The cursors of the requests. -/
def cursors (l : Transcript store) : List String := l.map (·.question.cursor)

/-- The answer is a page whose last text does not come after the cursor. -/
def Stays (x : Exchange store) : Prop :=
  ∃ page last, x.answer = .ok page ∧ page.getLast? = some last ∧
    ¬ Text.bytes x.question.cursor < Text.bytes last.text

/-- From request to request a load gets on, or it fails. -/
structure Advances (l : Transcript store) (r : Option (Except Fault DenyList)) : Prop where
  /-- The bytes of each cursor come after those of the ones before it. -/
  ascending : (cursors l).Pairwise fun c d => Text.bytes c < Text.bytes d
  /-- A page that does not come after its cursor is the last, and an error. -/
  halted : ∀ before x after, l = before ++ x :: after → Stays x →
    after = [] ∧ r = some (.error (stuck x.question.cursor))

section Advances

variable {l : Transcript store} {x : Exchange store} {r : Option (Except Fault DenyList)}

theorem advances_nil : Advances [] r where
  ascending := .nil
  halted before x after hl := absurd hl (by simp)

theorem advances_singleton (h : Stays x → r = some (.error (stuck x.question.cursor))) :
    Advances [x] r where
  ascending := List.pairwise_singleton _ _
  halted before y after hl hy := by
    obtain ⟨rfl, rfl, rfl⟩ : before = [] ∧ x = y ∧ after = [] := by
      cases before <;> simp_all
    exact ⟨rfl, h hy⟩

theorem Advances.cons (h : Advances l r) (hx : ¬ Stays x)
    (hlt : ∀ c ∈ cursors l, Text.bytes x.question.cursor < Text.bytes c) :
    Advances (x :: l) r where
  ascending := List.pairwise_cons.2 ⟨hlt, h.ascending⟩
  halted before y after hl hy := by
    cases before with
    | nil =>
      obtain ⟨rfl, rfl⟩ := List.cons.inj hl
      exact absurd hy hx
    | cons z before =>
      obtain ⟨rfl, rfl⟩ := List.cons.inj hl
      exact h.halted before y after rfl hy

end Advances

section Proceeds

variable {size : UInt32} {load : DenyLoad} {l : Transcript store}
  {r : Option (Except Fault DenyList)}

/-- Wherever a load goes on, its cursors are the one that it stands at and later ones. -/
theorem Proceeds.cursor_le (h : Proceeds size load l r) : ∀ c ∈ cursors l, load.cursor ≤ c := by
  induction h with
  | pending => exact fun c hc => absurd hc List.not_mem_nil
  | failed | complete | halted =>
    intro c hc
    obtain rfl := List.mem_singleton.1 hc
    exact String.le_refl _
  | @onward load page last l r _ hafter _ ih =>
    intro c hc
    obtain rfl | hc := List.mem_cons.1 hc
    · exact String.le_refl _
    · have hle : load.cursor ≤ last.text := by
        obtain hempty | hlt := hafter
        · rw [hempty]
          exact String.not_lt.1 (not_lt_empty _)
        · exact Std.le_of_lt hlt
      exact String.le_trans hle (ih c hc)

/-- The cursors are the first one and texts that were served. -/
theorem Proceeds.mem_cursors {served : String → Prop} (h : Proceeds size load l r)
    (hserved : ∀ x ∈ l, ∀ page, x.answer = .ok page → ∀ rule ∈ page, served rule.text) :
    ∀ c ∈ cursors l, c = load.cursor ∨ served c := by
  induction h with
  | pending => exact fun c hc => absurd hc List.not_mem_nil
  | failed | complete | halted => exact fun c hc => .inl (List.mem_singleton.1 hc)
  | @onward load page last l r hlast _ _ ih =>
    intro c hc
    obtain rfl | hc := List.mem_cons.1 hc
    · exact .inl rfl
    · obtain rfl | hc := ih (fun x hx => hserved x (.tail _ hx)) c hc
      · exact .inr (hserved _ (.head _) page rfl last (List.mem_of_getLast? hlast))
      · exact .inr hc

/-- Whatever is served, a load may stay at the empty cursor for a while, and from there it
advances. -/
theorem Proceeds.idle_then_advances (h : Proceeds size load l r) :
    ∃ idle rest, l = idle ++ rest ∧ (∀ x ∈ idle, x.question.cursor = "" ∧ Stays x) ∧
      Advances rest r := by
  induction h with
  | pending => exact ⟨[], [], rfl, by simp, advances_nil⟩
  | failed =>
    exact ⟨[], _, rfl, by simp, advances_singleton fun ⟨_, _, hpage, _⟩ => nomatch hpage⟩
  | complete =>
    refine ⟨[], _, rfl, by simp, advances_singleton fun ⟨page, last, hpage, hlast, _⟩ => ?_⟩
    cases hpage
    cases hlast
  | halted => exact ⟨[], _, rfl, by simp, advances_singleton fun _ => rfl⟩
  | @onward load page last l r hlast hafter hrest ih =>
    obtain ⟨idle, rest, rfl, hidle, hadvances⟩ := ih
    by_cases hlt : load.cursor < last.text
    · -- Nothing that follows is at the empty cursor.
      obtain rfl : idle = [] := by
        refine List.eq_nil_iff_forall_not_mem.2 fun x hx => ?_
        have hle := hrest.cursor_le _ (List.mem_map_of_mem (List.mem_append_left rest hx))
        rw [(hidle x hx).1] at hle
        exact not_lt_empty _ (Std.lt_of_lt_of_le hlt hle)
      refine ⟨[], _, rfl, by simp, hadvances.cons ?_ fun c hc => ?_⟩
      · rintro ⟨_, last', ⟨⟩, hlast', hstays⟩
        obtain rfl := Option.some.inj (hlast.symm.trans hlast')
        exact hstays (Text.bytes_lt_iff.2 hlt)
      · exact Text.bytes_lt_iff.2 (Std.lt_of_lt_of_le hlt (hrest.cursor_le c hc))
    · have hcursor : load.cursor = "" := hafter.resolve_right hlt
      refine ⟨⟨⟨pageLimit size, load.cursor⟩, .ok page⟩ :: idle, rest, rfl, ?_, hadvances⟩
      rintro x (_ | ⟨_, hx⟩)
      · exact ⟨hcursor, page, last, rfl, hlast, fun h => hlt (Text.bytes_lt_iff.1 h)⟩
      · exact hidle x hx

/-- A load advances, unless it stays at the empty cursor. -/
theorem Proceeds.advances (h : Proceeds size load l r)
    (hstart : ∀ x ∈ l.head?, x.question.cursor = "" → ¬ Stays x) : Advances l r := by
  obtain ⟨idle, rest, rfl, hidle, hadvances⟩ := h.idle_then_advances
  cases idle with
  | nil => exact hadvances
  | cons x idle =>
    obtain ⟨hcursor, hstays⟩ := hidle x (.head _)
    exact absurd hstays (hstart x rfl hcursor)

end Proceeds

/-! ## From the start -/

/-- The exchanges of a load from the start within some number of pages, and its end. -/
def loadFrom (σ : Strategy store) (size : UInt32) (budget : Nat) :
    Transcript store × Option (Except Fault DenyList) :=
  (start.run size budget).play σ []

/-- The first page that the store serves ends in the empty text. -/
def EndsEmpty (σ : Strategy store) (size : UInt32) : Prop :=
  ∃ page last, σ [] ⟨pageLimit size, ""⟩ = .ok page ∧ page.getLast? = some last ∧ last.text = ""

/-- Every rule that the store serves has one of the texts. -/
def ServesFrom (σ : Strategy store) (texts : Finset String) : Prop :=
  ∀ past q page, σ past q = .ok page → ∀ rule ∈ page, rule.text ∈ texts

section Start

variable {σ : Strategy store} {size : UInt32} {budget : Nat} {texts : Finset String}

theorem loadFrom_answers {before after : Transcript store} {x : Exchange store}
    (h : (loadFrom σ size budget).1 = before ++ x :: after) : x.answer = σ before x.question := by
  obtain ⟨l, hl, hσ⟩ := play_answers (start.run size budget) σ []
  rw [List.nil_append] at hl
  exact hσ before x after (hl.symm.trans h)

theorem loadFrom_proceeds : Proceeds size start (loadFrom σ size budget).1
      (loadFrom σ size budget).2 ∧
    ((loadFrom σ size budget).2 = none → (loadFrom σ size budget).1.length = budget) :=
  (run_proceeds size budget start).played σ

/-- The first request is that of the empty cursor. -/
theorem Proceeds.head_question {load : DenyLoad} {l : Transcript store}
    {r : Option (Except Fault DenyList)} (h : Proceeds size load l r) :
    ∀ x ∈ l.head?, x.question = ⟨pageLimit size, load.cursor⟩ := by
  intro x hx
  cases h <;> cases hx <;> rfl

theorem loadFrom_advances (h : ¬ EndsEmpty σ size) :
    Advances (loadFrom σ size budget).1 (loadFrom σ size budget).2 := by
  refine loadFrom_proceeds.1.advances fun x hx _ hstays => h ?_
  obtain ⟨page, last, hpage, hlast, hle⟩ := hstays
  have hq : x.question = ⟨pageLimit size, ""⟩ := loadFrom_proceeds.1.head_question x hx
  obtain ⟨after, hsplit⟩ := List.head?_eq_some_iff.1 hx
  have hanswer : x.answer = σ [] x.question := loadFrom_answers hsplit
  rw [hanswer] at hpage
  obtain ⟨q, a⟩ := x
  obtain rfl : q = ⟨pageLimit size, ""⟩ := hq
  refine ⟨page, last, hpage, hlast, ?_⟩
  by_contra hne
  exact hle (Text.bytes_lt_iff.2 (empty_lt hne))

theorem next_start {page : List DenyRule} {last : DenyRule} (h : page.getLast? = some last) :
    start.next (.ok page) = .onward ⟨last.text, take start.list page⟩ := by
  simp only [next, h]
  rw [if_neg fun hstuck => hstuck.1 rfl]

theorem play_run (load : DenyLoad) (past : Transcript store) :
    (load.run size (budget + 1)).play σ past =
      (match load.next (σ past ⟨pageLimit size, load.cursor⟩) with
        | .onward load => load.run size budget
        | .complete list => pure (some (.ok list))
        | .failed f => pure (some (.error f)) :
          Dialogue store (Option (Except Fault DenyList))).play σ
        (past ++ [⟨⟨pageLimit size, load.cursor⟩, σ past ⟨pageLimit size, load.cursor⟩⟩]) := rfl

/-- After a first page that ends in the empty text the same request is made again. -/
theorem loadFrom_repeats (h : EndsEmpty σ size) : cursors (loadFrom σ size 2).1 = ["", ""] := by
  obtain ⟨page, last, hpage, hlast, hempty⟩ := h
  have hnext := next_start hlast
  rw [hempty] at hnext
  have hcursor : start.cursor = "" := rfl
  rw [loadFrom, play_run, hcursor, hpage, hnext]
  dsimp only
  rw [play_run]
  cases next _ _ <;> rfl

/-- The requests of a load that advance are no more than there are texts, and one. -/
theorem length_le_of_advances {rest : Transcript store} (hserved : ServesFrom σ texts)
    (hrest : rest ⊆ (loadFrom σ size budget).1)
    (h : Advances rest (loadFrom σ size budget).2) : rest.length ≤ texts.card + 1 := by
  have hnodup : (cursors rest).Nodup := by
    refine List.nodup_iff_pairwise_ne.2 (h.ascending.imp ?_)
    rintro c d hlt rfl
    exact List.lt_irrefl _ hlt
  have hsub : (cursors rest).toFinset ⊆ insert "" texts := by
    intro c hc
    refine Finset.mem_insert.2 (loadFrom_proceeds.1.mem_cursors (fun x hx => ?_) c
      (List.map_subset _ hrest (List.mem_toFinset.1 hc)))
    obtain ⟨before, after, hsplit⟩ := List.append_of_mem hx
    intro page hpage
    rw [loadFrom_answers hsplit] at hpage
    exact hserved before x.question page hpage
  calc rest.length
      = (cursors rest).length := (List.length_map _).symm
    _ = (cursors rest).toFinset.card := (List.toFinset_card_of_nodup hnodup).symm
    _ ≤ (insert "" texts).card := Finset.card_le_card hsub
    _ ≤ texts.card + 1 := Finset.card_insert_le _ _

end Start

/-- Whatever a store serves, a load may repeat its first request for a while, and from there it
advances.  It advances throughout if and only if its first page does not end in the empty text, and
then it comes to its end after no more requests than the store has texts, and one. -/
theorem load_advances (σ : Strategy store) (size : UInt32) :
    (∀ budget, ∃ idle rest, (loadFrom σ size budget).1 = idle ++ rest ∧
        (∀ x ∈ idle, x.question.cursor = "" ∧ Stays x) ∧
        Advances rest (loadFrom σ size budget).2 ∧
        ∀ texts, ServesFrom σ texts → rest.length ≤ texts.card + 1) ∧
      ((∀ budget, Advances (loadFrom σ size budget).1 (loadFrom σ size budget).2) ↔
        ¬ EndsEmpty σ size) ∧
      (¬ EndsEmpty σ size → ∀ texts, ServesFrom σ texts → ∀ budget, texts.card + 1 < budget →
        (loadFrom σ size budget).2.isSome ∧
          (loadFrom σ size budget).1.length ≤ texts.card + 1) := by
  refine ⟨fun budget => ?_, ⟨fun h hempty => ?_, fun h budget => loadFrom_advances h⟩,
    fun h texts hserved budget hb => ?_⟩
  · obtain ⟨idle, rest, hl, hidle, hadvances⟩ := loadFrom_proceeds.1.idle_then_advances
    have hrest : rest ⊆ (loadFrom σ size budget).1 := hl ▸ List.subset_append_right idle rest
    exact ⟨idle, rest, hl, hidle, hadvances, fun texts hserved =>
      length_le_of_advances hserved hrest hadvances⟩
  · have hascending := (h 2).ascending
    rw [loadFrom_repeats hempty] at hascending
    exact List.lt_irrefl _ (List.rel_of_pairwise_cons hascending (List.mem_singleton.2 rfl))
  · have hadvances : Advances (loadFrom σ size budget).1 (loadFrom σ size budget).2 :=
      loadFrom_advances h
    have hlength := length_le_of_advances hserved (List.Subset.refl _) hadvances
    refine ⟨?_, hlength⟩
    by_contra hnone
    have hbudget := loadFrom_proceeds.2 (Option.not_isSome_iff_eq_none.1 hnone)
    omega

/-! ## A store that is never left -/

/-- A store that always serves one rule, with the empty text. -/
def emptyServed : Strategy store := fun _ _ => .ok [⟨"", ⟨.epoch, ""⟩⟩]

theorem run_emptyServed (size : UInt32) (budget : Nat) (load : DenyLoad)
    (past : Transcript store) (h : load.cursor = "") :
    ((load.run size budget).play emptyServed past).2 = none ∧
      cursors ((load.run size budget).play emptyServed past).1 =
        cursors past ++ List.replicate budget "" := by
  induction budget generalizing load past with
  | zero => exact ⟨rfl, (List.append_nil _).symm⟩
  | succ budget ih =>
    have hnext : load.next (.ok [⟨"", ⟨.epoch, ""⟩⟩]) =
        .onward ⟨"", take load.list [⟨"", ⟨.epoch, ""⟩⟩]⟩ :=
      if_neg fun hstuck => hstuck.1 h
    rw [play_run, emptyServed, hnext]
    have hrest := ih ⟨"", take load.list [⟨"", ⟨.epoch, ""⟩⟩]⟩
      (past ++ [⟨⟨pageLimit size, load.cursor⟩, .ok [⟨"", ⟨.epoch, ""⟩⟩]⟩]) rfl
    refine ⟨hrest.1, hrest.2.trans ?_⟩
    simp [cursors, h, List.replicate_succ]

/-- Its load makes the same request again and again, and never comes to an end. -/
theorem emptyServed_never_left :
    ServesFrom emptyServed {""} ∧
      (∀ budget, cursors (loadFrom emptyServed 1 budget).1 = List.replicate budget "" ∧
        (loadFrom emptyServed 1 budget).2 = none) ∧
      ¬ Advances (loadFrom emptyServed 1 2).1 (loadFrom emptyServed 1 2).2 := by
  have hrepeats (budget : Nat) : cursors (loadFrom emptyServed 1 budget).1 =
      List.replicate budget "" ∧ (loadFrom emptyServed 1 budget).2 = none :=
    (run_emptyServed 1 budget start [] rfl).symm
  refine ⟨fun past q page hpage rule hrule => ?_, hrepeats, fun h => ?_⟩
  · cases hpage
    rw [List.mem_singleton.1 hrule]
    exact Finset.mem_singleton_self _
  · have hascending := h.ascending
    rw [(hrepeats 2).1] at hascending
    exact List.lt_irrefl _ (List.rel_of_pairwise_cons hascending (List.mem_singleton.2 rfl))

end DenyLoad

end Sluice
