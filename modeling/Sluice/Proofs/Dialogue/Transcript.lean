import Sluice.Dialogue

/-!
# Transcripts

A *transcript* is a list of questions with their answers, oldest first.  `d.Reaches l e` says that
`d` stands at `e` once it was told the answers of `l`; a dialogue that stands at `.done a` has come
to its end.

`Always` is what proofs about dialogues go through.  It follows the dialogue question by question,
for all answers at once, and composes along `>>=` (`always_bind`), so each function has one such
lemma and its callers cite that.  `Always.reached` carries it over to every place that can be
reached, and `Always.played` to the whole course under one strategy of answering.  `Ends` is the
part of it that speaks of whole courses only.
-/

namespace Sluice

/-- A question with its answer. -/
structure Exchange (P : Protocol) where
  question : P.Question
  answer : P.Answer question

/-- Questions with their answers, oldest first. -/
abbrev Transcript (P : Protocol) := List (Exchange P)

namespace Dialogue

variable {P Q : Protocol} {α β : Type}

/-! ## Where a dialogue gets to -/

/-- Once it was told the answers of the transcript, the first dialogue stands at the second. -/
inductive Reaches : Dialogue P α → Transcript P → Dialogue P α → Prop where
  | here {d} : Reaches d [] d
  | onward {q next a l e} : Reaches (next a) l e → Reaches (.ask q next) (⟨q, a⟩ :: l) e

theorem Reaches.trans {d e f : Dialogue P α} {l k : Transcript P} (h : d.Reaches l e)
    (h' : e.Reaches k f) : d.Reaches (l ++ k) f := by
  induction h with
  | here => exact h'
  | onward _ ih => exact .onward (ih h')

theorem Reaches.snoc {d : Dialogue P α} {l : Transcript P} {q : P.Question}
    {next : P.Answer q → Dialogue P α} (h : d.Reaches l (.ask q next)) (a : P.Answer q) :
    d.Reaches (l ++ [⟨q, a⟩]) (next a) :=
  h.trans (.onward .here)

/-- On the way a dialogue stood at each question of its transcript. -/
theorem Reaches.split {d e : Dialogue P α} {l r : Transcript P} {x : Exchange P}
    (h : d.Reaches (l ++ x :: r) e) :
    ∃ next, d.Reaches l (.ask x.question next) ∧ (next x.answer).Reaches r e := by
  induction l generalizing d with
  | nil =>
    cases h with
    | onward hr => exact ⟨_, .here, hr⟩
  | cons y l ih =>
    cases h with
    | onward hr =>
      obtain ⟨next, hl, hr⟩ := ih hr
      exact ⟨next, .onward hl, hr⟩

/-- The question at which a dialogue stands. -/
def asking : Dialogue P α → Option P.Question
  | .done _ => none
  | .ask q _ => some q

/-- The value of a dialogue that has come to its end. -/
def value? : Dialogue P α → Option α
  | .done a => some a
  | .ask _ _ => none

theorem value?_eq_some {d : Dialogue P α} {a : α} : d.value? = some a ↔ d = .done a := by
  cases d <;> simp [value?]

/-- What a dialogue that stands at a question asks next, is that question. -/
theorem Reaches.asking_first {d : Dialogue P α} {l : Transcript P} {a : α}
    (h : d.Reaches l (.done a)) : d.asking.toList <+: l.map (·.question) := by
  cases h with
  | here => exact List.nil_prefix
  | onward _ => exact List.prefix_cons_inj _ |>.2 List.nil_prefix

/-! ## For all answers -/

/-- Whatever the answers, `asked` holds of every question and what came before it, and `ended` of
the whole transcript and the value at the end.  The transcript given comes before all that. -/
def Always : Dialogue P α → (asked : Transcript P → P.Question → Prop) →
    (ended : Transcript P → α → Prop) → Transcript P → Prop
  | .done a, _, ended, past => ended past a
  | .ask q next, asked, ended, past =>
    asked past q ∧ ∀ a, (next a).Always asked ended (past ++ [⟨q, a⟩])

section Always

variable {asked asked' : Transcript P → P.Question → Prop} {ended ended' : Transcript P → α → Prop}
  {past : Transcript P}

@[simp] theorem always_done {a : α} :
    (Dialogue.done a : Dialogue P α).Always asked ended past ↔ ended past a := Iff.rfl

@[simp] theorem always_pure {a : α} :
    (pure a : Dialogue P α).Always asked ended past ↔ ended past a := Iff.rfl

@[simp] theorem always_ask {q : P.Question} {next : P.Answer q → Dialogue P α} :
    (Dialogue.ask q next).Always asked ended past ↔
      asked past q ∧ ∀ a, (next a).Always asked ended (past ++ [⟨q, a⟩]) := Iff.rfl

@[simp] theorem always_question {q : P.Question} {ended : Transcript P → P.Answer q → Prop} :
    Always (α := no_index (P.Answer q)) (question q) asked ended past ↔
      asked past q ∧ ∀ a, ended (past ++ [⟨q, a⟩]) a :=
  Iff.rfl

@[simp] theorem always_bind {d : Dialogue P β} {f : β → Dialogue P α} :
    (d >>= f).Always asked ended past ↔
      d.Always asked (fun l b => (f b).Always asked ended l) past := by
  induction d generalizing past with
  | done b => exact Iff.rfl
  | ask q next ih => exact and_congr_right fun _ => forall_congr' fun _ => ih _

@[simp] theorem always_map {d : Dialogue P β} {f : β → α} :
    (f <$> d).Always asked ended past ↔ d.Always asked (fun l b => ended l (f b)) past :=
  always_bind

theorem Always.mono {d : Dialogue P α} (h : d.Always asked ended past)
    (ha : ∀ l q, asked l q → asked' l q) (he : ∀ l a, ended l a → ended' l a) :
    d.Always asked' ended' past := by
  induction d generalizing past with
  | done a => exact he _ _ h
  | ask q next ih => exact ⟨ha _ _ h.1, fun a => ih a (h.2 a)⟩

theorem Always.and {ended₂ : Transcript P → α → Prop} {d : Dialogue P α}
    (h : d.Always asked ended past) (h' : d.Always asked' ended₂ past) :
    d.Always (fun l q => asked l q ∧ asked' l q) (fun l a => ended l a ∧ ended₂ l a) past := by
  induction d generalizing past with
  | done a => exact ⟨h, h'⟩
  | ask q next ih => exact ⟨⟨h.1, h'.1⟩, fun a => ih a (h.2 a) (h'.2 a)⟩

/-- What holds for all answers holds at every place that is reached. -/
theorem Always.reached {d e : Dialogue P α} {l : Transcript P} (h : d.Always asked ended past)
    (hr : d.Reaches l e) : e.Always asked ended (past ++ l) := by
  induction hr generalizing past with
  | here => simpa using h
  | onward _ ih => simpa using ih (h.2 _)

theorem Always.asked_of_reaches {d : Dialogue P α} {l : Transcript P} {q : P.Question}
    {next : P.Answer q → Dialogue P α} (h : d.Always asked ended [])
    (hr : d.Reaches l (.ask q next)) : asked l q := by
  simpa using (h.reached hr).1

/-- Each question of a transcript was asked after what came before it. -/
theorem Always.asked_of_split {d e : Dialogue P α} {l r : Transcript P} {x : Exchange P}
    (h : d.Always asked ended []) (hr : d.Reaches (l ++ x :: r) e) : asked l x.question := by
  obtain ⟨next, hl, -⟩ := hr.split
  exact h.asked_of_reaches hl

/-- What every exchange keeps holds wherever a dialogue gets to. -/
theorem Always.invariant {d e : Dialogue P α} {l : Transcript P} (h : d.Always asked ended past)
    (hr : d.Reaches l e) {I : Transcript P → Prop}
    (hI : ∀ l q a, asked l q → I l → I (l ++ [⟨q, a⟩])) (h0 : I past) : I (past ++ l) := by
  induction hr generalizing past with
  | here => simpa using h0
  | @onward q next a l e _ ih =>
    have hnext := ih (h.2 a) (hI past q a h.1 h0)
    rwa [List.append_assoc] at hnext

theorem Always.ended_of_reaches {d : Dialogue P α} {l : Transcript P} {a : α}
    (h : d.Always asked ended []) (hr : d.Reaches l (.done a)) : ended l a := by
  simpa using h.reached hr

end Always

/-- What is asked of a transcript may be asked of the part that is still to come. -/
theorem always_append (asked : Transcript P → P.Question → Prop) (ended : Transcript P → α → Prop)
    (past l : Transcript P) {d : Dialogue P α} :
    d.Always asked ended (past ++ l) ↔
      d.Always (fun k => asked (past ++ k)) (fun k => ended (past ++ k)) l := by
  induction d generalizing l with
  | done a => exact Iff.rfl
  | ask q next ih =>
    refine and_congr_right fun _ => forall_congr' fun a => ?_
    rw [List.append_assoc]
    exact ih a _

/-! ## Answering by a strategy -/

/-- How questions are answered, by what came before them. -/
abbrev Strategy (P : Protocol) := Transcript P → (q : P.Question) → P.Answer q

/-- The transcript and the value at the end when questions are answered by a strategy. -/
def play : Dialogue P α → Strategy P → Transcript P → Transcript P × α
  | .done a, _, past => (past, a)
  | .ask q next, σ, past => (next (σ past q)).play σ (past ++ [⟨q, σ past q⟩])

theorem Always.played {asked : Transcript P → P.Question → Prop} {ended : Transcript P → α → Prop}
    {past : Transcript P} {d : Dialogue P α} (h : d.Always asked ended past) (σ : Strategy P) :
    ended (d.play σ past).1 (d.play σ past).2 := by
  induction d generalizing past with
  | done a => exact h
  | ask q next ih => exact ih _ (h.2 _)

/-- Under a strategy every dialogue comes to its end. -/
theorem play_reaches (d : Dialogue P α) (σ : Strategy P) (past : Transcript P) :
    ∃ l, (d.play σ past).1 = past ++ l ∧ d.Reaches l (.done (d.play σ past).2) := by
  induction d generalizing past with
  | done a => exact ⟨[], by simp [play], .here⟩
  | ask q next ih =>
    obtain ⟨l, hl, hr⟩ := ih (σ past q) (past ++ [⟨q, σ past q⟩])
    exact ⟨⟨q, σ past q⟩ :: l, by simp [play, hl], .onward hr⟩

theorem reaches_play (d : Dialogue P α) (σ : Strategy P) :
    d.Reaches (d.play σ []).1 (.done (d.play σ []).2) := by
  obtain ⟨l, hl, hr⟩ := play_reaches d σ []
  rw [List.nil_append] at hl
  rwa [hl]

/-- Each answer is the one of the strategy after what came before. -/
theorem play_answers (d : Dialogue P α) (σ : Strategy P) (past : Transcript P) :
    ∃ l, (d.play σ past).1 = past ++ l ∧
      ∀ before x after, l = before ++ x :: after → x.answer = σ (past ++ before) x.question := by
  induction d generalizing past with
  | done a => exact ⟨[], by simp [play], fun before x after hl => absurd hl (by simp)⟩
  | ask q next ih =>
    obtain ⟨l, hl, hσ⟩ := ih (σ past q) (past ++ [⟨q, σ past q⟩])
    refine ⟨⟨q, σ past q⟩ :: l, by simp [play, hl], fun before x after hsplit => ?_⟩
    cases before with
    | nil =>
      obtain ⟨rfl, -⟩ := List.cons.inj hsplit
      rw [List.append_nil]
    | cons y before =>
      obtain ⟨rfl, htail⟩ := List.cons.inj hsplit
      simpa using hσ before x after htail

theorem play_map (f : α → β) (d : Dialogue P α) (σ : Strategy P) (past : Transcript P) :
    (f <$> d).play σ past = ((d.play σ past).1, f (d.play σ past).2) := by
  induction d generalizing past with
  | done a => rfl
  | ask q next ih => exact ih (σ past q) (past ++ [⟨q, σ past q⟩])

/-- From every place a dialogue can be brought to its end, with the answers given beforehand. -/
theorem exists_end (σ : (q : P.Question) → P.Answer q) (d : Dialogue P α) :
    ∃ l a, d.Reaches l (.done a) ∧ ∀ x ∈ l, x.answer = σ x.question := by
  induction d with
  | done a => exact ⟨[], a, .here, by simp⟩
  | ask q next ih =>
    obtain ⟨l, a, hr, hl⟩ := ih (σ q)
    refine ⟨⟨q, σ q⟩ :: l, a, .onward hr, ?_⟩
    rintro x (_ | ⟨_, hx⟩)
    · rfl
    · exact hl x hx

/-! ## Whole courses -/

/-- Whatever the answers, the whole transcript and the value at the end are as specified. -/
structure Ends (d : Dialogue P α) (spec : Transcript P → α → Prop) : Prop where
  /-- They are so at every end. -/
  always : d.Always (fun _ _ => True) spec []

section Ends

variable {spec spec' : Transcript P → α → Prop}

theorem ends_iff {d : Dialogue P α} : d.Ends spec ↔ d.Always (fun _ _ => True) spec [] :=
  ⟨Ends.always, .mk⟩

@[simp] theorem ends_pure {a : α} : (pure a : Dialogue P α).Ends spec ↔ spec [] a := ends_iff

@[simp] theorem ends_question {q : P.Question} {spec : Transcript P → P.Answer q → Prop} :
    Ends (α := no_index (P.Answer q)) (question q) spec ↔ ∀ a, spec [⟨q, a⟩] a := by
  simp [ends_iff]

@[simp] theorem ends_bind {d : Dialogue P β} {f : β → Dialogue P α} :
    (d >>= f).Ends spec ↔ d.Ends fun l b => (f b).Ends fun k a => spec (l ++ k) a := by
  have h (l : Transcript P) (b : β) := always_append (fun _ _ => True) spec l [] (d := f b)
  simp only [List.append_nil] at h
  simp only [ends_iff, always_bind, h]

theorem Ends.mono {d : Dialogue P α} (h : d.Ends spec) (he : ∀ l a, spec l a → spec' l a) :
    d.Ends spec' :=
  ⟨h.always.mono (fun _ _ => id) he⟩

theorem Ends.and {d : Dialogue P α} (h : d.Ends spec) (h' : d.Ends spec') :
    d.Ends fun l a => spec l a ∧ spec' l a :=
  ⟨(h.always.and h'.always).mono (fun _ _ _ => trivial) fun _ _ => id⟩

theorem Ends.of_reaches {d : Dialogue P α} {l : Transcript P} {a : α} (h : d.Ends spec)
    (hr : d.Reaches l (.done a)) : spec l a :=
  h.always.ended_of_reaches hr

theorem Ends.played {d : Dialogue P α} (h : d.Ends spec) (σ : Strategy P) :
    spec (d.play σ []).1 (d.play σ []).2 :=
  h.always.played σ

end Ends

-- From here on `Always` is opened by its lemmas only; unfolding it would run the dialogue.
attribute [irreducible] Always

end Dialogue

end Sluice
