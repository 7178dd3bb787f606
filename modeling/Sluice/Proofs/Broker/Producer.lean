import Mathlib.Data.List.Forall2
import Sluice.Broker.Producer
import Sluice.Proofs.Dialogue.Answering

/-!
# What the producer does

The producer connects to the addresses of its settings, counts what it writes itself, and counts
nothing else (`produce_asks`, `produce_counted`).  It hands over nothing, or one batch with a record
of each event, in order, that tells the path of the events (`produce_ends`).
-/

namespace Sluice.Broker

open Dialogue

/-! ## What it asks -/

/-- The producer connects to the addresses of its settings, and its counters are its own. -/
def Apart (s : BrokerSettings) : Question → Prop
  | .connect addresses credentials => addresses = bootstrap s ∧ credentials = s.credentials
  | .count c _ => c ≠ .denyListReloads
  | _ => True

/-- Nothing is counted either. -/
def Silent (s : BrokerSettings) : Question → Prop
  | .count _ _ => False
  | q => Apart s q

theorem Silent.apart {s : BrokerSettings} {q : Question} (h : Silent s q) : Apart s q := by
  cases q <;> first | exact h | exact h.elim

theorem connect_asks (s : BrokerSettings) : (connect s).Asks (Silent s) :=
  (asks_question.2 ⟨rfl, rfl⟩).bind fun _ => asks_pure

theorem isReachable_asks (s : BrokerSettings) : (isReachable s).Asks (Apart s) := by
  refine ((connect_asks s).mono fun _ => Silent.apart).bind fun x => ?_
  cases x with
  | error _ => exact asks_pure
  | ok _ => exact (asks_question.2 trivial).bind fun _ => asks_pure

theorem newClient_asks (s : BrokerSettings) : (newClient s).Asks (Silent s) := by
  refine (connect_asks s).bind fun x => ?_
  cases x with
  | error _ => exact asks_pure
  | ok connection =>
    refine (asks_question.2 trivial).bind fun found => ?_
    cases found <;> exact asks_pure

theorem keep_asks (s : BrokerSettings) (client : Option Client) : (keep client).Asks (Silent s) :=
  asks_question.2 trivial

theorem clientFor_asks (s : BrokerSettings) : (clientFor s).Asks (Silent s) := by
  refine (asks_question.2 trivial).bind fun kept => ?_
  cases kept with
  | some c => exact asks_pure
  | none =>
    refine (asks_question.2 trivial).bind fun kept => ?_
    cases kept with
    | some c => exact asks_pure
    | none =>
      refine (newClient_asks s).bind fun x => ?_
      cases x with
      | error _ => exact asks_pure
      | ok c => exact (keep_asks s _).bind fun _ => asks_pure

theorem records_asks (s : BrokerSettings) (origin : Origin) (events : List Event) :
    (records origin events).Asks (Silent s) := by
  induction events with
  | nil => exact asks_pure
  | cons e r ih =>
    exact (asks_question.2 trivial).bind fun _ => ih.bind fun _ => asks_pure

theorem write_asks (s : BrokerSettings) (client : Client) (l : List Record) :
    (write s client l).Asks (Apart s) := by
  refine (asks_question.2 trivial).bind fun _ => (asks_question.2 trivial).bind fun produced => ?_
  refine (asks_question.2 trivial).bind fun _ => (asks_question.2 trivial).bind fun _ => ?_
  have hcount (c : Counter) (n : UInt64) (h : c ≠ .denyListReloads) :
      Asks (Apart s) (question (P := protocol) (.count c n)) := asks_question.2 h
  have hkeep : (keep none).Asks (Apart s) := (keep_asks s none).mono fun _ => Silent.apart
  cases produced with
  | written offsets => exact (hcount _ _ (by decide)).bind fun _ => asks_pure
  | failed reason => exact (hcount _ _ (by decide)).bind fun _ => hkeep.bind fun _ => asks_pure
  | late => exact (hcount _ _ (by decide)).bind fun _ => hkeep.bind fun _ => asks_pure

theorem produce_asks (s : BrokerSettings) (origin : Origin) (events : List Event) :
    (produce s origin events).Asks (Apart s) := by
  unfold produce
  split
  · exact asks_pure
  · refine ((records_asks s origin events).mono fun _ => Silent.apart).bind fun l =>
      ((clientFor_asks s).mono fun _ => Silent.apart).bind fun x => ?_
    cases x with
    | error _ => exact asks_pure
    | ok client => exact write_asks s client l

/-! ### How much -/

/-- What was added to the counters. -/
def counted (l : Transcript protocol) : List (Counter × UInt64) :=
  l.filterMap fun
    | ⟨.count c n, _⟩ => some (c, n)
    | _ => none

@[simp] theorem counted_nil : counted [] = [] := rfl

@[simp] theorem counted_append (l k : Transcript protocol) :
    counted (l ++ k) = counted l ++ counted k := List.filterMap_append

@[simp] theorem counted_cons_count (c : Counter) (n : UInt64) (a : Unit)
    (l : Transcript protocol) : counted (⟨.count c n, a⟩ :: l) = (c, n) :: counted l := rfl

theorem counted_cons_of_silent {s : BrokerSettings} {x : Exchange protocol}
    (h : Silent s x.question)
    (l : Transcript protocol) : counted (x :: l) = counted l := by
  obtain ⟨q, a⟩ := x
  cases q <;> first | rfl | exact absurd h id

theorem counted_of_silent {s : BrokerSettings} {l : Transcript protocol}
    (h : ∀ x ∈ l, Silent s x.question) :
    counted l = [] := by
  induction l with
  | nil => rfl
  | cons x l ih =>
    rw [counted_cons_of_silent (h x (.head l)), ih fun y hy => h y (.tail x hy)]

/-! ## What it hands over -/

/-- The records that a question hands over. -/
def handed? : Question → Option (List Record)
  | .produce _ batch _ => some batch.records
  | _ => none

/-- The records handed over, whatever became of them. -/
def handedRecords (l : List Question) : List Record := (l.filterMap handed?).flatten

@[simp] theorem handedRecords_nil : handedRecords [] = [] := rfl

@[simp] theorem handedRecords_append (l k : List Question) :
    handedRecords (l ++ k) = handedRecords l ++ handedRecords k := by
  simp [handedRecords]

@[simp] theorem handedRecords_cons (q : Question) (l : List Question) :
    handedRecords (q :: l) = (handed? q).getD [] ++ handedRecords l := by
  cases h : handed? q <;> simp [handedRecords, h]

theorem handedRecords_mono {l k : List Question} (h : l <+: k) :
    handedRecords l <+: handedRecords k := by
  obtain ⟨k, rfl⟩ := h
  rw [handedRecords_append]
  exact List.prefix_append _ _

/-- The records are those of the events by a path, in order. -/
def RecordsOf (origin : Origin) : List Event → List Record → Prop :=
  List.Forall₂ fun e x => ∃ made, x = Record.ofEvent e origin made

theorem records_ends (origin : Origin) (events : List Event) :
    (records origin events).Ends fun l x =>
      handedRecords (l.map (·.question)) = [] ∧ RecordsOf origin events x := by
  induction events with
  | nil =>
    rw [records, ends_pure]
    exact ⟨rfl, .nil⟩
  | cons e r ih =>
    simp only [records, ends_bind, ends_question, ends_pure]
    intro now
    refine ih.mono fun l x h => ?_
    obtain ⟨hl, hx⟩ := h
    exact ⟨by simp [handed?, hl], .cons ⟨now, rfl⟩ hx⟩

/-- Connecting hands nothing over. -/
theorem clientFor_ends (s : BrokerSettings) :
    (clientFor s).Ends fun l _ => handedRecords (l.map (·.question)) = [] := by
  have hconnect : (connect s).Ends fun l _ => handedRecords (l.map (·.question)) = [] := by
    simp only [connect, ends_bind, ends_question, ends_pure]
    exact fun _ => rfl
  have hnew : (newClient s).Ends fun l _ => handedRecords (l.map (·.question)) = [] := by
    simp only [newClient, ends_bind]
    refine hconnect.mono fun l x hl => ?_
    cases x with
    | error f => simpa using hl
    | ok connection =>
      simp only [ends_bind, ends_question]
      intro found
      cases found <;> simpa [handed?] using hl
  simp only [clientFor, ends_bind, ends_question]
  intro kept
  cases kept with
  | some c => simp [handed?]
  | none =>
    simp only [ends_bind, ends_question]
    intro kept
    cases kept with
    | some c => simp [handed?]
    | none =>
      simp only [ends_bind]
      refine hnew.mono fun l x hl => ?_
      cases x with
      | error f => simpa [handed?] using hl
      | ok c =>
        simp only [keep, ends_bind, ends_question, ends_pure]
        exact fun _ => by simpa [handed?] using hl

theorem write_ends (s : BrokerSettings) (client : Client) (x : List Record) :
    (write s client x).Ends fun l _ => handedRecords (l.map (·.question)) = x := by
  simp only [write, ends_bind, ends_question]
  intro start produced finish _
  cases produced with
  | written offsets =>
    simp only [ends_bind, ends_question, ends_pure]
    exact fun _ => by simp [handed?]
  | failed reason =>
    simp only [keep, ends_bind, ends_question, ends_pure]
    exact fun _ _ => by simp [handed?]
  | late =>
    simp only [keep, ends_bind, ends_question, ends_pure]
    exact fun _ _ => by simp [handed?]

/-- Nothing is handed over, or a record of each event. -/
theorem produce_ends (s : BrokerSettings) (origin : Origin) (events : List Event) :
    (produce s origin events).Ends fun l _ => handedRecords (l.map (·.question)) = [] ∨
      RecordsOf origin events (handedRecords (l.map (·.question))) := by
  unfold produce
  split
  · simp
  · simp only [ends_bind]
    refine (records_ends origin events).mono fun l x h => (clientFor_ends s).mono fun k c hk => ?_
    obtain ⟨hl, hx⟩ := h
    cases c with
    | error f => simp [hl, hk]
    | ok client =>
      refine (write_ends s client x).mono fun m _ hm => .inr ?_
      simpa [hl, hk, hm] using hx

/-! ## What it counts of that -/

/-- What the producer adds to the counters for a number of events: as many as have places, if they
were written, and a failure, if it came to writing. -/
inductive Counted (n : Nat) : Except Fault UInt32 → List (Counter × UInt64) → Prop where
  /-- There was nothing to write. -/
  | idle {k} : Counted n (.ok k) []
  | written {places k} : places ≤ n →
    Counted n (.ok k) [(.eventsForwarded, UInt64.ofNat places)]
  /-- There was no client. -/
  | unconnected {f} : Counted n (.error f) []
  | failed {f} : Counted n (.error f) [(.sinkErrors, 1)]

theorem write_counted (s : BrokerSettings) (client : Client) (x : List Record) :
    (write s client x).Ends fun l r => Counted x.length r (counted l) := by
  simp only [write, ends_bind, ends_question]
  intro start produced finish _
  cases produced with
  | written offsets =>
    have hplaces : (UInt32.ofNat (min offsets x.length)).toNat ≤ x.length := by
      rw [UInt32.toNat_ofNat']
      exact Nat.le_trans (Nat.mod_le _ _) (Nat.min_le_right _ _)
    have hwritten := Counted.written (k := UInt32.ofNat (min offsets x.length)) hplaces
    rw [UInt64.ofNat_uInt32ToNat] at hwritten
    simp only [ends_bind, ends_question, ends_pure]
    exact fun _ => hwritten
  | failed reason =>
    simp only [keep, ends_bind, ends_question, ends_pure]
    exact fun _ _ => .failed
  | late =>
    simp only [keep, ends_bind, ends_question, ends_pure]
    exact fun _ _ => .failed

theorem produce_counted (s : BrokerSettings) (origin : Origin) (events : List Event) :
    (produce s origin events).Ends fun l r => Counted events.length r (counted l) := by
  unfold produce
  split
  · exact ends_pure.2 .idle
  · simp only [ends_bind]
    have hrecords := (records_ends origin events).and (records_asks s origin events).ends
    refine hrecords.mono fun l x h => (clientFor_asks s).ends.mono fun k c hk => ?_
    obtain ⟨⟨-, hx⟩, hl⟩ := h
    cases c with
    | error f =>
      rw [ends_pure]
      simpa [counted_of_silent hl, counted_of_silent hk] using Counted.unconnected
    | ok client =>
      refine (write_counted s client x).mono fun m r hm => ?_
      rw [hx.length_eq]
      simpa [counted_of_silent hl, counted_of_silent hk] using hm

end Sluice.Broker
