import Sluice.Proofs.Dialogue.Transcript

/-!
# Answering by dialogues

The questions of a dialogue may be answered by dialogues of their own, which ask others.
`Always.run` is how to speak of such a run.  A *view* relates what the first dialogue was told to
what was asked and answered below; whoever shows that each answer keeps the view has it at the end,
together with the transcript that the first dialogue saw (`Answered`).

`Asks` says of what kind the questions of a dialogue are, whatever the answers.  It is all that is
needed of a part that leaves something alone, as `Asks.always` has it: an invariant that no question
of the kind breaks is there at every question and at the end.
-/

namespace Sluice

namespace Dialogue

variable {P Q : Protocol} {α β : Type}

/-! ## Kinds of questions -/

/-- Whatever the answers, every question is of the kind. -/
inductive Asks (kind : P.Question → Prop) : Dialogue P α → Prop where
  | done {a} : Asks kind (.done a)
  | ask {q next} : kind q → (∀ a, Asks kind (next a)) → Asks kind (.ask q next)

section Asks

variable {kind kind' : P.Question → Prop} {d : Dialogue P α}

@[simp] theorem asks_pure {a : α} : (pure a : Dialogue P α).Asks kind := .done

@[simp] theorem asks_question {q : P.Question} :
    Asks (α := no_index (P.Answer q)) kind (question q) ↔ kind q := by
  constructor
  · intro h
    cases h with
    | ask hq _ => exact hq
  · intro hq
    exact .ask hq fun _ => .done

theorem Asks.bind {e : Dialogue P β} {f : β → Dialogue P α} (h : e.Asks kind)
    (hf : ∀ b, (f b).Asks kind) : (e >>= f).Asks kind := by
  induction h with
  | done => exact hf _
  | ask hq _ ih => exact .ask hq ih

theorem Asks.map {e : Dialogue P β} {f : β → α} (h : e.Asks kind) : (f <$> e).Asks kind :=
  h.bind fun _ => .done

theorem Asks.mono (h : d.Asks kind) (hk : ∀ q, kind q → kind' q) : d.Asks kind' := by
  induction h with
  | done => exact .done
  | ask hq _ ih => exact .ask (hk _ hq) ih

/-- An invariant that no question of the kind breaks holds throughout. -/
theorem Asks.always (h : d.Asks kind) {I : Transcript P → Prop}
    (hI : ∀ l q a, kind q → I l → I (l ++ [⟨q, a⟩])) {past : Transcript P} (h0 : I past) :
    d.Always (fun l q => kind q ∧ I l) (fun l _ => I l) past := by
  induction h generalizing past with
  | done => exact always_done.2 h0
  | ask hq _ ih => exact always_ask.2 ⟨⟨hq, h0⟩, fun a => ih a (hI _ _ a hq h0)⟩

theorem Asks.run (h : d.Asks kind) {answer : (q : P.Question) → Dialogue Q (P.Answer q)}
    {below : Q.Question → Prop} (hb : ∀ q, kind q → (answer q).Asks below) :
    (d.run answer).Asks below := by
  induction h with
  | done => exact .done
  | ask hq _ ih => exact (hb _ hq).bind ih

/-- Every question of a whole course is of the kind. -/
theorem Asks.ends (h : d.Asks kind) : d.Ends fun l _ => ∀ x ∈ l, kind x.question := by
  induction h with
  | done => exact ends_pure.2 (by simp)
  | @ask q next hq _ ih =>
    have hnext : (question q >>= next).Ends fun l _ => ∀ x ∈ l, kind x.question := by
      rw [ends_bind, ends_question]
      refine fun a => (ih a).mono fun l _ hl => ?_
      rintro x (_ | ⟨_, hx⟩)
      · exact hq
      · exact hl x hx
    exact hnext

end Asks

/-- The questions of whole courses are all the questions there are, where each can be answered. -/
theorem Ends.asks {kind : P.Question → Prop} {d : Dialogue P α}
    (σ : (q : P.Question) → P.Answer q) (h : d.Ends fun l _ => ∀ x ∈ l, kind x.question) :
    d.Asks kind := by
  induction d with
  | done a => exact .done
  | ask q next ih =>
    have hnext (a : P.Answer q) :
        (next a).Ends fun l _ => ∀ x ∈ ⟨q, a⟩ :: l, kind x.question := by
      have h : (question q >>= next).Ends fun l _ => ∀ x ∈ l, kind x.question := h
      rw [ends_bind] at h
      exact ends_question.1 h a
    refine .ask ?_ fun a => ih a ((hnext a).mono fun l _ hl x hx => hl x (.tail _ hx))
    obtain ⟨l, a, hr, -⟩ := exists_end σ (next (σ q))
    exact (hnext (σ q)).of_reaches hr _ (.head l)

/-! ## Views -/

/-- The second transcript is that of the dialogues that gave the answers of the first. -/
inductive Answered (answer : (q : P.Question) → Dialogue Q (P.Answer q)) :
    Transcript P → Transcript Q → Prop where
  | nil : Answered answer [] []
  | snoc {k l q a l'} : Answered answer k l → (answer q).Reaches l' (.done a) →
    Answered answer (k ++ [⟨q, a⟩]) (l ++ l')

/-- The end of a dialogue is reached by what was asked and answered on the way. -/
theorem always_reaches (d : Dialogue P α) (past : Transcript P) :
    d.Always (fun _ _ => True) (fun l a => ∃ l', l = past ++ l' ∧ d.Reaches l' (.done a)) past := by
  induction d generalizing past with
  | done a => exact always_done.2 ⟨[], (List.append_nil past).symm, .here⟩
  | ask q next ih =>
    refine always_ask.2 ⟨trivial, fun a => (ih a _).mono (fun _ _ => id) fun l b hl => ?_⟩
    obtain ⟨l', rfl, hr⟩ := hl
    exact ⟨⟨q, a⟩ :: l', by simp, .onward hr⟩

/-- A view that every answer keeps is there at the end. -/
theorem Always.run {d : Dialogue P α} {answer : (q : P.Question) → Dialogue Q (P.Answer q)}
    {asked : Transcript P → P.Question → Prop} {ended : Transcript P → α → Prop}
    {below : Transcript Q → Q.Question → Prop} {view : Transcript P → Transcript Q → Prop}
    (hstep : ∀ k l q, view k l → asked k q →
      (answer q).Always below (fun l' a => view (k ++ [⟨q, a⟩]) l') l)
    {k : Transcript P} {l : Transcript Q} (h : d.Always asked ended k) (hk : Answered answer k l)
    (hv : view k l) :
    (d.run answer).Always below
      (fun l' a => ∃ k', Answered answer k' l' ∧ view k' l' ∧ ended k' a) l := by
  induction d generalizing k l with
  | done a => exact always_done.2 ⟨k, hk, hv, always_done.1 h⟩
  | ask q next ih =>
    obtain ⟨hq, hnext⟩ := always_ask.1 h
    rw [run_ask, always_bind]
    have hanswer := (hstep k l q hv hq).and (always_reaches (answer q) l)
    refine hanswer.mono (fun _ _ hq' => hq'.1) fun l' a hl => ?_
    obtain ⟨hv', l', rfl, hr⟩ := hl
    exact ih a (hnext a) (.snoc hk hr) hv'

/-- Whatever answers it, a dialogue ends as it always does. -/
theorem Ends.run {d : Dialogue P α} {spec : Transcript P → α → Prop} (h : d.Ends spec)
    (answer : (q : P.Question) → Dialogue Q (P.Answer q)) :
    (d.run answer).Ends fun l a => ∃ k, Answered answer k l ∧ spec k a := by
  have hstep (k : Transcript P) (l : Transcript Q) (q : P.Question) (_ : True) (_ : True) :
      (answer q).Always (fun _ _ => True) (fun _ _ => True) l :=
    (always_reaches (answer q) l).mono (fun _ _ => id) fun _ _ _ => trivial
  refine ⟨(h.always.run hstep .nil trivial).mono (fun _ _ => id) fun l a hl => ?_⟩
  obtain ⟨k, hk, -, ha⟩ := hl
  exact ⟨k, hk, ha⟩

theorem run_map {m : Type → Type} [Monad m] [LawfulMonad m] (f : α → β) (d : Dialogue P α)
    (answer : (q : P.Question) → m (P.Answer q)) :
    (f <$> d).run answer = f <$> d.run answer := by
  rw [map_eq_pure_bind, run_bind, map_eq_pure_bind]
  rfl

/-- Answers that are answered in turn. -/
theorem run_run {m : Type → Type} [Monad m] [LawfulMonad m] (d : Dialogue P α)
    (answer : (q : P.Question) → Dialogue Q (P.Answer q))
    (reply : (q : Q.Question) → m (Q.Answer q)) :
    (d.run answer).run reply = d.run fun q => (answer q).run reply := by
  induction d with
  | done a => rfl
  | ask q next ih =>
    rw [run_ask, run_bind, run_ask]
    exact bind_congr ih

end Dialogue

end Sluice
