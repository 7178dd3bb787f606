import Mathlib.Data.List.Induction
import Mathlib.Logic.Relation
import Sluice.Proofs.Dialogue.Transcript

/-!
# Courses side by side

A *course* is a dialogue under way.  A *pool* holds any number of courses and a state that they
share, and takes one step at a time: a course begins, the question at which a course stands is
answered, or a course is abandoned and stands there for good.  `Rules` say how courses begin, when
they may, and what an answer has to do with the state.  The order of the steps is open, and so are
the answers as far as the rules leave them open.

Whatever the order, each course is a run of its own dialogue (`Pool.Sound`); every step keeps that
(`Step.sound`), so it holds of every pool that can be reached (`Reachable.sound`).  Where the rules
leave everything open, nothing else holds of them (`Sound.reachable`).

Where the state itself gives the answers, a pool can be computed: `Pool.begun` begins a course, and
`Pool.turn` answers one for a while.
-/

namespace Sluice

/-- A dialogue under way. -/
structure Course (P : Protocol) (ι α : Type) where
  /-- What it was begun for. -/
  origin : ι
  /-- What was asked and answered. -/
  past : Transcript P
  rest : Dialogue P α
  /-- It goes no further. -/
  abandoned : Bool

/-- Courses, and the state that they share. -/
structure Pool (P : Protocol) (ι α σ : Type) where
  state : σ
  courses : List (Course P ι α)

/-- What may happen in a pool. -/
structure Rules (P : Protocol) (ι α σ : Type) where
  /-- The dialogue that a course is. -/
  dialogue : ι → Dialogue P α
  /-- A course may begin now. -/
  mayBegin : Pool P ι α σ → ι → Prop
  /-- A question may be answered like this, and change the state to that. -/
  answers : σ → (q : P.Question) → P.Answer q → σ → Prop

variable {P : Protocol} {ι α σ : Type} {R : Rules P ι α σ}

/-- What stands in a list with one place changed, stands in that place or was there before. -/
theorem mem_middle {β : Type} {before after : List β} {new z : β} (old : β)
    (h : z ∈ before ++ new :: after) : z = new ∨ z ∈ before ++ old :: after := by
  rcases List.mem_append.1 h with h | h
  · exact .inr (List.mem_append_left _ h)
  · rcases List.mem_cons.1 h with h | h
    · exact .inl h
    · exact .inr (List.mem_append_right _ (List.mem_cons_of_mem _ h))

namespace Course

/-- The questions put so far, answered or not. -/
def asked (c : Course P ι α) : List P.Question :=
  c.past.map (·.question) ++ c.rest.asking.toList

/-- The course after an answer. -/
def told (c : Course P ι α) (q : P.Question) (a : P.Answer q) (rest : Dialogue P α) :
    Course P ι α :=
  { c with past := c.past ++ [⟨q, a⟩], rest }

/-- The course after so many more answers, each given by the state, as far as it goes on, and the
state then. -/
def led (answer : (q : P.Question) → σ → P.Answer q × σ) :
    Nat → Course P ι α → σ → Course P ι α × σ
  | 0, c, s => (c, s)
  | n + 1, c, s =>
    match c.abandoned, c.rest with
    | false, .ask q next =>
      (c.told q (answer q s).1 (next (answer q s).1)).led answer n (answer q s).2
    | _, _ => (c, s)

/-- Where the course is brought to its end, what it asked was asked in this order. -/
theorem asked_part {c : Course P ι α} {l : Transcript P} {a : α}
    (h : c.rest.Reaches l (.done a)) : c.asked <+: (c.past ++ l).map (·.question) := by
  rw [List.map_append]
  exact (List.prefix_append_right_inj _).2 h.asking_first

end Course

namespace Pool

inductive Step (R : Rules P ι α σ) : Pool P ι α σ → Pool P ι α σ → Prop where
  | begins {p i} : R.mayBegin p i →
      Step R p { p with courses := p.courses ++ [⟨i, [], R.dialogue i, false⟩] }
  | answered {s s' before c after q next a} : c.abandoned = false → c.rest = .ask q next →
      R.answers s q a s' →
      Step R ⟨s, before ++ c :: after⟩ ⟨s', before ++ c.told q a (next a) :: after⟩
  | abandoned {s before c after} :
      Step R ⟨s, before ++ c :: after⟩ ⟨s, before ++ { c with abandoned := true } :: after⟩

/-- What comes of a pool by any number of steps. -/
abbrev Reachable (R : Rules P ι α σ) : Pool P ι α σ → Pool P ι α σ → Prop :=
  Relation.ReflTransGen (Step R)

/-- Every course is a run of its dialogue. -/
def Sound (R : Rules P ι α σ) (p : Pool P ι α σ) : Prop :=
  ∀ c ∈ p.courses, (R.dialogue c.origin).Reaches c.past c.rest

theorem Step.sound {p p' : Pool P ι α σ} (h : Step R p p') (hs : p.Sound R) : p'.Sound R := by
  cases h with
  | begins =>
    intro c hc
    rcases List.mem_append.1 hc with hc | hc
    · exact hs c hc
    · cases List.mem_singleton.1 hc
      exact .here
  | @answered s s' before c after q next a _ hq _ =>
    intro d hd
    obtain rfl | hd := mem_middle c hd
    · have hc := hs c (by simp)
      rw [hq] at hc
      exact hc.snoc a
    · exact hs d hd
  | @abandoned s before c after =>
    intro d hd
    obtain rfl | hd := mem_middle c hd
    · exact hs c (by simp)
    · exact hs d hd

theorem Reachable.sound {p p' : Pool P ι α σ} (h : Reachable R p p') (hs : p.Sound R) :
    p'.Sound R := by
  induction h with
  | refl => exact hs
  | tail _ h ih => exact h.sound ih

/-- The answers of a transcript may be given one after the other, and take one state to another. -/
inductive Allowed (R : Rules P ι α σ) : σ → Transcript P → σ → Prop where
  | nil {s} : Allowed R s [] s
  | cons {s s' s'' q a l} : R.answers s q a s' → Allowed R s' l s'' →
    Allowed R s (⟨q, a⟩ :: l) s''

/-- The last course of a pool gets as far as answers that may be given lead it. -/
theorem reachable_of_allowed {s s' : σ} {i : ι} {d e : Dialogue P α} {l : Transcript P}
    (h : d.Reaches l e) (hl : Allowed R s l s') (before : List (Course P ι α))
    (past : Transcript P) :
    Reachable R ⟨s, before ++ [⟨i, past, d, false⟩]⟩
      ⟨s', before ++ [⟨i, past ++ l, e, false⟩]⟩ := by
  induction h generalizing s past with
  | here =>
    cases hl
    rw [List.append_nil]
  | @onward q next a l e _ ih =>
    cases hl with
    | @cons _ s₁ _ _ _ _ ha hl =>
      have hstep : Step R ⟨s, before ++ [⟨i, past, .ask q next, false⟩]⟩
          ⟨s₁, before ++ [⟨i, past ++ [⟨q, a⟩], next a, false⟩]⟩ :=
        Step.answered rfl rfl ha
      have hrest := ih hl (past ++ [⟨q, a⟩])
      rw [List.append_assoc] at hrest
      exact .head hstep hrest

/-- A course that may begin gets to its end, before anything else happens. -/
theorem Reachable.ended {p₀ p : Pool P ι α σ} (h : Reachable R p₀ p) {i : ι} (hi : R.mayBegin p i)
    {l : Transcript P} {a : α} {s : σ} (hl : (R.dialogue i).Reaches l (.done a))
    (hs : Allowed R p.state l s) : Reachable R p₀ ⟨s, p.courses ++ [⟨i, l, .done a, false⟩]⟩ :=
  (h.tail (.begins hi)).trans (reachable_of_allowed hl hs p.courses [])

/-! ### Courses answered by the state -/

/-- The pool with one more course. -/
def begun (R : Rules P ι α σ) (i : ι) (p : Pool P ι α σ) : Pool P ι α σ :=
  { p with courses := p.courses ++ [⟨i, [], R.dialogue i, false⟩] }

theorem Reachable.begun {p₀ p : Pool P ι α σ} (h : Reachable R p₀ p) {i : ι}
    (hi : R.mayBegin p i) : Reachable R p₀ (p.begun R i) :=
  h.tail (.begins hi)

section Led

variable {answer : (q : P.Question) → σ → P.Answer q × σ}

theorem Reachable.led (ha : ∀ s q, R.answers s q (answer q s).1 (answer q s).2)
    {p₀ : Pool P ι α σ} {s : σ} {before after : List (Course P ι α)} {c : Course P ι α} (n : Nat)
    (h : Reachable R p₀ ⟨s, before ++ c :: after⟩) :
    Reachable R p₀ ⟨(c.led answer n s).2, before ++ (c.led answer n s).1 :: after⟩ := by
  induction n generalizing c s with
  | zero => exact h
  | succ n ih =>
    rw [Course.led]
    split
    · rename_i hgoes hrest
      exact ih (h.tail (.answered hgoes hrest (ha s _)))
    · exact h

/-- The pool after so many more answers to the course at a place. -/
def turn (answer : (q : P.Question) → σ → P.Answer q × σ) (place n : Nat) (p : Pool P ι α σ) :
    Pool P ι α σ :=
  match p.courses[place]? with
  | none => p
  | some c => ⟨(c.led answer n p.state).2, p.courses.set place (c.led answer n p.state).1⟩

theorem Reachable.turn (ha : ∀ s q, R.answers s q (answer q s).1 (answer q s).2)
    {p₀ p : Pool P ι α σ} (place n : Nat) (h : Reachable R p₀ p) :
    Reachable R p₀ (p.turn answer place n) := by
  unfold Pool.turn
  split
  · exact h
  · rename_i c hc
    obtain ⟨hlt, rfl⟩ := List.getElem?_eq_some_iff.1 hc
    rw [List.set_eq_take_append_cons_drop, if_pos hlt]
    refine Reachable.led ha n ?_
    rwa [← List.drop_eq_getElem_cons hlt, List.take_append_drop]

end Led

/-! ### Rules that leave everything open -/

theorem allowed_of_open (ha : ∀ s q a, R.answers s q a s) (s : σ) (l : Transcript P) :
    Allowed R s l s := by
  induction l with
  | nil => exact .nil
  | cons x l ih => exact .cons (ha s x.question x.answer) ih

/-- Every pool of sound courses can be reached. -/
theorem Sound.reachable (hb : ∀ p i, R.mayBegin p i) (ha : ∀ s q a, R.answers s q a s)
    {p : Pool P ι α σ} (h : p.Sound R) : Reachable R ⟨p.state, []⟩ p := by
  obtain ⟨s, courses⟩ := p
  -- Each course in turn begins and gets as far as it is to get, before the next begins.
  induction courses using List.reverseRecOn with
  | nil => exact .refl
  | append_singleton before c ih =>
    have hbefore := ih fun d hd => h d (List.mem_append_left _ hd)
    have hc := h c (by simp)
    obtain ⟨i, past, rest, abandoned⟩ := c
    have hrest := (hbefore.tail (.begins (hb _ i))).trans
      (reachable_of_allowed hc (allowed_of_open ha s past) before [])
    cases abandoned with
    | false => exact hrest
    | true => exact hrest.tail Step.abandoned

end Pool

end Sluice
