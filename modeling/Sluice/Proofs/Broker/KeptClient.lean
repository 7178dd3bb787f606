import Mathlib.Algebra.BigOperators.Group.List.Basic
import Mathlib.Algebra.Ring.Nat
import Sluice.Proofs.Broker.Producer

/-!
# The client that is kept

The calls of one producer come one after another, each to its end, and each finds the client that
the one before it left (`Run`).  Whatever the broker answers, one call takes one of four courses
(`Course`): there is nothing to write, no client can be made, the batch is written, or it is lost.
`produce_course` is the step; everything about runs is an induction over it.

What the brokers see of a run is a list of connections, partitions looked up and batches, each with
the client that it is about (`history`).  `Moves` says which of them may come when: a batch goes
over the client that is ready and takes the client with it if it is lost, and a connection is made
only when there is none.  `Path` is the same for lists, from which it follows which clients are used
again and which never.  `client_kept` gathers what holds of all runs.
-/

namespace Sluice.Broker

open Dialogue

/-! ## The client through a course -/

/-- A question that has nothing to do with the client that is kept. -/
def Elsewhere : Question → Prop
  | .client | .keep _ => False
  | _ => True

/-- The answers fit the client that is kept: a look finds it, and what is to be kept is found from
then on.  Everything else may be answered in any way. -/
inductive Kept : Option Client → Transcript protocol → Option Client → Prop where
  | nil {c} : Kept c [] c
  | look {c d l} (h : Kept c l d) : Kept c (⟨.client, c⟩ :: l) d
  | keep {b c d l} (h : Kept c l d) : Kept b (⟨.keep c, ()⟩ :: l) d
  | elsewhere {c d x l} (hx : Elsewhere x.question) (h : Kept c l d) : Kept c (x :: l) d

section Kept

variable {b c d : Option Client} {l k : Transcript protocol}

@[simp] theorem kept_nil : Kept c [] d ↔ c = d := by
  constructor
  · rintro ⟨⟩
    rfl
  · rintro rfl
    exact .nil

@[simp] theorem kept_look {a : Option Client} :
    Kept c (⟨.client, a⟩ :: l) d ↔ a = c ∧ Kept c l d := by
  constructor
  · rintro (_ | h | _ | ⟨hx, _⟩)
    · exact ⟨rfl, h⟩
    · exact absurd hx id
  · rintro ⟨rfl, h⟩
    exact .look h

@[simp] theorem kept_keep {u : Unit} : Kept b (⟨.keep c, u⟩ :: l) d ↔ Kept c l d := by
  constructor
  · rintro (_ | _ | h | ⟨hx, _⟩)
    · exact h
    · exact absurd hx id
  · exact .keep

theorem kept_elsewhere {q : Question} {a : protocol.Answer q} (hq : Elsewhere q) :
    Kept c (⟨q, a⟩ :: l) d ↔ Kept c l d := by
  constructor
  · rintro (_ | _ | _ | ⟨_, h⟩)
    · exact absurd hq id
    · exact absurd hq id
    · exact h
  · exact .elsewhere hq

@[simp] theorem kept_append : Kept b (l ++ k) d ↔ ∃ c, Kept b l c ∧ Kept c k d := by
  constructor
  · intro h
    induction l generalizing b with
    | nil => exact ⟨b, .nil, h⟩
    | cons x l ih =>
      cases h with
      | look h =>
        obtain ⟨c, hl, hk⟩ := ih h
        exact ⟨c, .look hl, hk⟩
      | keep h =>
        obtain ⟨c, hl, hk⟩ := ih h
        exact ⟨c, .keep hl, hk⟩
      | elsewhere hx h =>
        obtain ⟨c, hl, hk⟩ := ih h
        exact ⟨c, .elsewhere hx hl, hk⟩
  · rintro ⟨c, hl, hk⟩
    induction hl with
    | nil => exact hk
    | look _ ih => exact .look (ih hk)
    | keep _ ih => exact .keep (ih hk)
    | elsewhere hx _ ih => exact .elsewhere hx (ih hk)

theorem kept_of_elsewhere (h : ∀ x ∈ l, Elsewhere x.question) : Kept c l d ↔ c = d := by
  induction l with
  | nil => exact kept_nil
  | cons x l ih =>
    obtain ⟨q, a⟩ := x
    rw [kept_elsewhere (h ⟨q, a⟩ (.head l)), ih fun y hy => h y (.tail _ hy)]

theorem kept_keep_last {u : Unit} (h : ∀ x ∈ l, Elsewhere x.question) :
    Kept b (l ++ [⟨.keep c, u⟩]) d ↔ c = d := by
  simp [kept_of_elsewhere h]

end Kept

/-! ## What the brokers see -/

/-- What the brokers see of a call. -/
inductive Act where
  | connects (answer : Except String Connection)
  | looksUp (client : Client) (answer : Except String Unit)
  | sends (client : Client) (batch : Batch) (produced : Produced)

def act? : Exchange protocol → Option Act
  | ⟨.connect _ _, answer⟩ => some (.connects answer)
  | ⟨.lookUp client, answer⟩ => some (.looksUp client answer)
  | ⟨.produce client batch _, produced⟩ => some (.sends client batch produced)
  | _ => none

def acts (l : Transcript protocol) : List Act := l.filterMap act?

@[simp] theorem acts_nil : acts [] = [] := rfl

@[simp] theorem acts_append (l k : Transcript protocol) : acts (l ++ k) = acts l ++ acts k :=
  List.filterMap_append

@[simp] theorem acts_cons (x : Exchange protocol) (l : Transcript protocol) :
    acts (x :: l) = (act? x).toList ++ acts l := by
  cases h : act? x <;> simp [acts, h]

/-- The brokers took nothing of a batch: they refused it, or did not answer in time. -/
def Lost : Produced → Prop
  | .written _ => False
  | .failed _ | .late => True

instance : DecidablePred Lost
  | .written _ => .isFalse id
  | .failed _ => .isTrue trivial
  | .late => .isTrue trivial

/-- A call fails by it: there is no connection, the partition is not found, or the batch is lost. -/
def Act.Fails : Act → Prop
  | .connects answer => answer.toOption = none
  | .looksUp _ answer => answer.toOption = none
  | .sends _ _ produced => Lost produced

def Act.outcome? : Act → Option (Client × Produced)
  | .sends client _ produced => some (client, produced)
  | _ => none

/-- What became of the batches, one after the other, and over which client each of them went. -/
def outcomes (l : List Act) : List (Client × Produced) := l.filterMap Act.outcome?

@[simp] theorem outcomes_append (l k : List Act) : outcomes (l ++ k) = outcomes l ++ outcomes k :=
  List.filterMap_append

def Act.connection? : Act → Option Connection
  | .connects answer => answer.toOption
  | _ => none

/-- The connections that were made, one after the other. -/
def connections (l : List Act) : List Connection := l.filterMap Act.connection?

@[simp] theorem connections_append (l k : List Act) :
    connections (l ++ k) = connections l ++ connections k := List.filterMap_append

/-! ## One call -/

/-- What has to be done to have a client: nothing if it is kept, else a connection over which its
partition is found. -/
inductive Opened (client : Client) : Option Client → List Act → Prop where
  | kept : Opened client (some client) []
  | connected :
    Opened client none [.connects (.ok client.connection), .looksUp client (.ok ())]

/-- No client can be had. -/
inductive Refused : List Act → Prop where
  | connection {reason} : Refused [.connects (.error reason)]
  | partition {client reason} :
    Refused [.connects (.ok client.connection), .looksUp client (.error reason)]

/-- The ways that a call may take: the client found, the questions and answers, the result and the
client left. -/
inductive Course (events : List Event) :
    Option Client → Transcript protocol → Except Fault UInt32 → Option Client → Prop where
  | idle {c} (hempty : events = []) : Course events c [] (.ok 0) c
  /-- There is no client, and none can be made. -/
  | unconnected {l reason} (hevents : events ≠ []) (hrefused : Refused (acts l))
      (hcounted : counted l = []) : Course events none l (.error (.forwardingFailed reason)) none
  | written {c client l opening batch offsets} (hevents : events ≠ [])
      (hopened : Opened client c opening)
      (hacts : acts l = opening ++ [.sends client batch (.written offsets)])
      (hcounted : counted l =
        [(.eventsForwarded, (UInt32.ofNat (min offsets events.length)).toUInt64)]) :
      Course events c l (.ok (UInt32.ofNat (min offsets events.length))) (some client)
  | lost {c client l opening batch produced reason} (hevents : events ≠ [])
      (hopened : Opened client c opening) (hlost : Lost produced)
      (hacts : acts l = opening ++ [.sends client batch produced])
      (hcounted : counted l = [(.sinkErrors, 1)]) :
      Course events c l (.error (.forwardingFailed reason)) none

/-- The question for the time that a record is made at. -/
def Dates : Question → Prop
  | .wallClock => True
  | _ => False

theorem records_dates (origin : Origin) (events : List Event) :
    (records origin events).Asks Dates := by
  induction events with
  | nil => exact asks_pure
  | cons e r ih => exact (asks_question.2 trivial).bind fun _ => ih.bind fun _ => asks_pure

theorem acts_of_dates {l : Transcript protocol} (h : ∀ x ∈ l, Dates x.question) : acts l = [] := by
  refine List.filterMap_eq_nil_iff.2 fun x hx => ?_
  have hdates := h x hx
  obtain ⟨q, a⟩ := x
  cases q <;> first | rfl | exact absurd hdates id

theorem Dates.elsewhere {q : Question} (h : Dates q) : Elsewhere q := by
  cases q <;> trivial

/-- A client is made over one connection, or none is made. -/
inductive Made : Transcript protocol → Except Fault Client → Prop where
  | made {l client} (hopened : Opened client none (acts l)) : Made l (.ok client)
  | refused {l reason} (hrefused : Refused (acts l)) : Made l (.error (.forwardingFailed reason))

theorem newClient_course (s : BrokerSettings) :
    (newClient s).Ends fun l x => Made l x ∧ ∀ y ∈ l, Elsewhere y.question := by
  simp only [newClient, connect, ends_bind, ends_question, ends_pure]
  intro answer
  cases answer with
  | error reason => exact ends_pure.2 ⟨.refused .connection, by simp [Elsewhere]⟩
  | ok connection =>
    simp only [Except.mapError, ends_bind, ends_question]
    intro found
    cases found with
    | error reason =>
      have hrefused := @Refused.partition (clientOver s connection) reason
      exact ends_pure.2 ⟨.refused hrefused, by simp [Elsewhere]⟩
    | ok =>
      have hopened := @Opened.connected (clientOver s connection)
      exact ends_pure.2 ⟨.made hopened, by simp [Elsewhere]⟩

/-- How a call comes to a client: the client found, the questions and answers, the client it goes on
with and the one kept from then on. -/
inductive Found :
    Option Client → Transcript protocol → Except Fault Client → Option Client → Prop where
  | opened {c client l} (hopened : Opened client c (acts l)) : Found c l (.ok client) (some client)
  | refused {l reason} (hrefused : Refused (acts l)) :
      Found none l (.error (.forwardingFailed reason)) none

theorem clientFor_course (s : BrokerSettings) :
    (clientFor s).Ends fun l x => ∀ {c d}, Kept c l d → Found c l x d := by
  simp only [clientFor, ends_bind, ends_question]
  intro first
  cases first with
  | some client =>
    simp only [ends_pure]
    intro c d h
    obtain ⟨rfl, rfl⟩ : some client = c ∧ c = d := by simpa using h
    exact .opened .kept
  | none =>
    simp only [ends_bind, ends_question]
    intro second
    cases second with
    | some client =>
      simp only [ends_pure]
      intro c d h
      obtain ⟨hfirst, hsecond, -⟩ : none = c ∧ some client = c ∧ c = d := by simpa using h
      cases hfirst.trans hsecond.symm
    | none =>
      simp only [ends_bind]
      refine (newClient_course s).mono fun l x h => ?_
      obtain ⟨hmade, helse⟩ := h
      cases hmade with
      | refused hrefused =>
        simp only [ends_pure]
        intro c d h
        obtain ⟨rfl, rfl⟩ : none = c ∧ c = d := by simpa [kept_of_elsewhere helse] using h
        exact .refused (by simpa [act?] using hrefused)
      | made hopened =>
        simp only [keep, ends_bind, ends_question, ends_pure]
        intro _ c d h
        obtain ⟨rfl, rfl⟩ : none = c ∧ some _ = d := by simpa [kept_of_elsewhere helse] using h
        exact .opened (by simpa [act?] using hopened)

/-- How a batch fares over a client: the client kept before, the questions and answers, the result
and the client kept after. -/
inductive Sent (client : Client) (n : Nat) :
    Option Client → Transcript protocol → Except Fault UInt32 → Option Client → Prop where
  | written {c l batch offsets} (hacts : acts l = [.sends client batch (.written offsets)])
      (hcounted : counted l = [(.eventsForwarded, (UInt32.ofNat (min offsets n)).toUInt64)]) :
      Sent client n c l (.ok (UInt32.ofNat (min offsets n))) c
  | lost {c l batch produced reason} (hlost : Lost produced)
      (hacts : acts l = [.sends client batch produced])
      (hcounted : counted l = [(.sinkErrors, 1)]) :
      Sent client n c l (.error (.forwardingFailed reason)) none

theorem write_course (s : BrokerSettings) (client : Client) (x : List Record) :
    (write s client x).Ends fun l r => ∀ {c d}, Kept c l d → Sent client x.length c l r d := by
  simp only [write, ends_bind, ends_question]
  intro start produced finish _
  cases produced with
  | written offsets =>
    simp only [ends_bind, ends_question, ends_pure]
    intro _ c d h
    obtain rfl := (kept_of_elsewhere (by simp [Elsewhere])).1 h
    exact .written rfl rfl
  | failed reason =>
    simp only [keep, ends_bind, ends_question, ends_pure]
    intro _ _ c d h
    obtain rfl := (kept_keep_last (l := [_, _, _, _, _]) (by simp [Elsewhere])).1 h
    have hlost : Lost (.failed reason) := trivial
    exact .lost hlost rfl rfl
  | late =>
    simp only [keep, ends_bind, ends_question, ends_pure]
    intro _ _ c d h
    obtain rfl := (kept_keep_last (l := [_, _, _, _, _]) (by simp [Elsewhere])).1 h
    have hlost : Lost .late := trivial
    exact .lost hlost rfl rfl

/-- Every call takes one of the courses. -/
theorem produce_course (s : BrokerSettings) (origin : Origin) (events : List Event) :
    (produce s origin events).Ends fun l r => ∀ {c d}, Kept c l d → Course events c l r d := by
  unfold produce
  split
  · rename_i hempty
    rw [ends_pure]
    intro c d h
    obtain rfl := kept_nil.1 h
    exact .idle (List.isEmpty_iff.1 hempty)
  · rename_i hevents
    replace hevents : events ≠ [] := fun h => hevents (List.isEmpty_iff.2 h)
    simp only [ends_bind]
    have hrecords := (records_ends origin events).and
      ((records_asks s origin events).ends.and (records_dates origin events).ends)
    have hclient := (clientFor_course s).and (clientFor_asks s).ends
    refine hrecords.mono fun l x h => hclient.mono fun k found hk => ?_
    obtain ⟨⟨-, hx⟩, hsilent, hdates⟩ := h
    obtain ⟨hfound, hksilent⟩ := hk
    have hacts := acts_of_dates hdates
    have helse : ∀ x ∈ l, Elsewhere x.question := fun x hx => (hdates x hx).elsewhere
    have hlength : events.length = x.length := hx.length_eq
    cases found with
    | error f =>
      rw [ends_pure]
      intro c d h
      obtain ⟨_, rfl, h⟩ : ∃ b, c = b ∧ Kept b k d := by
        simpa [kept_of_elsewhere helse] using h
      cases hfound h with
      | refused hk =>
        exact .unconnected hevents (by simpa [hacts] using hk)
          (by simp [counted_of_silent hsilent, counted_of_silent hksilent])
    | ok client =>
      refine (write_course s client x).mono fun m r hm => ?_
      intro c d h
      obtain ⟨_, rfl, e, hke, hmd⟩ : ∃ b, c = b ∧ ∃ e, Kept b k e ∧ Kept e m d := by
        simpa [kept_of_elsewhere helse] using h
      cases hfound hke with
      | opened hopened =>
        cases hm hmd with
        | written hsent hcounted =>
          rw [← hlength] at hcounted ⊢
          exact .written hevents hopened (by rw [acts_append, acts_append, hacts, hsent]; rfl)
            (by simpa [counted_of_silent hsilent, counted_of_silent hksilent] using hcounted)
        | lost hlost hsent hcounted =>
          exact .lost hevents hopened hlost (by rw [acts_append, acts_append, hacts, hsent]; rfl)
            (by simpa [counted_of_silent hsilent, counted_of_silent hksilent] using hcounted)

/-! ## Runs -/

/-- A call that came to its end. -/
structure Call where
  origin : Origin
  events : List Event
  /-- The client kept before it. -/
  found : Option Client
  exchanges : Transcript protocol
  result : Except Fault UInt32
  /-- The client kept after it. -/
  left : Option Client

/-- What the brokers see of a call. -/
def Call.acts (call : Call) : List Act := Broker.acts call.exchanges

/-- Calls of one producer, one after the other, from a client that is kept or none.  What is asked
of the client is answered by what was kept last, all else in any way. -/
inductive Run (s : BrokerSettings) : Option Client → List Call → Prop where
  | nil {c} : Run s c []
  | cons {call : Call} {calls}
      (hcourse : (produce s call.origin call.events).Reaches call.exchanges (.done call.result))
      (hkept : Kept call.found call.exchanges call.left) (hrest : Run s call.left calls) :
      Run s call.found (call :: calls)

/-- What the brokers see of some calls. -/
def history (calls : List Call) : List Act := calls.flatMap (·.acts)

@[simp] theorem history_nil : history [] = [] := rfl

@[simp] theorem history_cons (call : Call) (calls : List Call) :
    history (call :: calls) = call.acts ++ history calls := rfl

section Run

variable {s : BrokerSettings} {c d : Option Client} {calls before after : List Call}

theorem Run.taken (h : Run s c calls) : ∀ call ∈ calls,
    Course call.events call.found call.exchanges call.result call.left := by
  induction h with
  | nil => exact List.forall_mem_nil _
  | cons hcourse hkept _ ih =>
    exact List.forall_mem_cons.2 ⟨(produce_course s _ _).of_reaches hcourse hkept, ih⟩

/-- Each call finds the client that the one before it left. -/
theorem Run.next {call next : Call} (h : Run s c (before ++ call :: next :: after)) :
    next.found = call.left := by
  induction before generalizing c with
  | nil =>
    cases h with
    | cons _ _ hrest =>
      generalize call.left = d at hrest
      cases hrest
      rfl
  | cons _ before ih =>
    cases h with
    | cons _ _ hrest => exact ih hrest

/-! ### What a call does -/

section Course

variable {client : Client} {opening : List Act} {events : List Event} {l : Transcript protocol}
  {r : Except Fault UInt32}

theorem Opened.outcomes_eq (h : Opened client c opening) : outcomes opening = [] := by
  cases h <;> rfl

theorem Opened.connects_iff (h : Opened client c opening) :
    (∃ answer, .connects answer ∈ opening) ↔ c = none := by
  cases h <;> simp

theorem Opened.not_fails (h : Opened client c opening) : ∀ act ∈ opening, ¬act.Fails := by
  cases h <;> simp [Act.Fails, Except.toOption]

theorem Refused.outcomes_eq {k : List Act} (h : Refused k) : outcomes k = [] := by
  cases h <;> rfl

theorem Refused.connects {k : List Act} (h : Refused k) : ∃ answer, .connects answer ∈ k := by
  cases h <;> exact ⟨_, .head _⟩

theorem Refused.fails {k : List Act} (h : Refused k) : ∃ act ∈ k, act.Fails := by
  cases h <;> simp [Act.Fails, Except.toOption]

theorem Course.connects_iff (h : Course events c l r d) :
    (∃ answer, .connects answer ∈ Broker.acts l) ↔ events ≠ [] ∧ c = none := by
  cases h with
  | idle hempty => simp [hempty]
  | unconnected hevents hrefused => simp [hrefused.connects, hevents]
  | written hevents hopened hacts => simp [hacts, hopened.connects_iff, hevents]
  | lost hevents hopened _ hacts => simp [hacts, hopened.connects_iff, hevents]

/-- Of a call that sends a batch the brokers see how it comes to its client, and the batch. -/
theorem Opened.of_sends (h : Opened client c opening) {client' : Client} {batch batch' : Batch}
    {produced produced' : Produced}
    (hsends : .sends client' batch' produced' ∈ opening ++ [.sends client batch produced]) :
    client' = client ∧ batch' = batch ∧ produced' = produced := by
  rcases List.mem_append.1 hsends with hmem | hmem
  · cases h <;> simp at hmem
  · obtain ⟨⟩ := List.mem_singleton.1 hmem
    exact ⟨rfl, rfl, rfl⟩

theorem Course.opened_of_sends (h : Course events c l r d) {batch : Batch} {produced : Produced}
    (hsends : .sends client batch produced ∈ Broker.acts l) :
    ∃ opening, Opened client c opening ∧
      Broker.acts l = opening ++ [.sends client batch produced] := by
  cases h with
  | idle => cases hsends
  | unconnected _ hrefused =>
    generalize Broker.acts l = k at hsends hrefused
    cases hrefused <;> simp at hsends
  | written _ hopened hacts | lost _ hopened _ hacts =>
    rw [hacts] at hsends
    obtain ⟨rfl, rfl, rfl⟩ := hopened.of_sends hsends
    exact ⟨_, hopened, hacts⟩

theorem Course.fails_iff (h : Course events c l r d) :
    (∃ f, r = .error f) ↔ ∃ act ∈ Broker.acts l, act.Fails := by
  cases h with
  | idle => simp
  | unconnected _ hrefused => simp [hrefused.fails]
  | written _ hopened hacts =>
    simpa [hacts, or_imp, forall_and, Act.Fails, Lost] using hopened.not_fails
  | lost _ _ hlost hacts => simp [hacts, Act.Fails, hlost]

theorem Course.left_of_fails (h : Course events c l r d)
    (hfails : ∃ act ∈ Broker.acts l, act.Fails) : d = none := by
  obtain ⟨f, hf⟩ := h.fails_iff.2 hfails
  cases h with
  | idle | written => cases hf
  | unconnected | lost => rfl

theorem Course.fault (h : Course events c l r d) {f : Fault} (hr : r = .error f) :
    ∃ reason, f = .forwardingFailed reason := by
  cases h with
  | idle | written => cases hr
  | unconnected | lost =>
    cases hr
    exact ⟨_, rfl⟩

theorem Course.writes (h : Course events c l r d) (hevents : events ≠ [])
    (hfails : ∀ act ∈ Broker.acts l, ¬act.Fails) :
    ∃ client batch offsets, .sends client batch (.written offsets) ∈ Broker.acts l := by
  cases h with
  | idle hempty => exact absurd hempty hevents
  | unconnected _ hrefused =>
    obtain ⟨act, hact, hfail⟩ := hrefused.fails
    exact absurd hfail (hfails act hact)
  | @written _ client _ opening batch offsets _ _ hacts =>
    refine ⟨client, batch, offsets, ?_⟩
    rw [hacts]
    exact List.mem_append_right opening (.head _)
  | @lost _ client _ opening batch produced _ _ _ hlost hacts =>
    have hsends : .sends client batch produced ∈ Broker.acts l := by
      rw [hacts]
      exact List.mem_append_right opening (.head _)
    exact absurd hlost (hfails _ hsends)

theorem Course.count (h : Course events c l r d) {batch : Batch} {offsets : Nat}
    (hsends : .sends client batch (.written offsets) ∈ Broker.acts l) :
    r = .ok (UInt32.ofNat (min offsets events.length)) := by
  cases h with
  | idle => cases hsends
  | unconnected _ hrefused =>
    generalize Broker.acts l = k at hsends hrefused
    cases hrefused <;> simp at hsends
  | written _ hopened hacts =>
    rw [hacts] at hsends
    obtain ⟨-, -, ⟨⟩⟩ := hopened.of_sends hsends
    rfl
  | lost _ hopened hlost hacts =>
    rw [hacts] at hsends
    obtain ⟨-, -, rfl⟩ := hopened.of_sends hsends
    exact absurd hlost id

theorem Course.idle_of (h : Course events c l r d) (hevents : events = []) :
    l = [] ∧ r = .ok 0 ∧ d = c := by
  cases h with
  | idle => exact ⟨rfl, rfl, rfl⟩
  | unconnected h | written h | lost h => exact absurd hevents h

end Course

/-! ### Which client is kept -/

/-- Of all batches the last one was written, and it went over this client. -/
def LastWritten (client : Client) (l : List Act) : Prop :=
  ∃ offsets, (outcomes l).getLast? = some (client, .written offsets)

theorem getLast?_outcomes (l : List Act) (client : Client) (batch : Batch) (produced : Produced) :
    (outcomes (l ++ [.sends client batch produced])).getLast? = some (client, produced) := by
  rw [outcomes_append]
  exact List.getLast?_concat

/-- Where the client kept is the one that the last batch was written over, it is so after one more
call. -/
theorem Course.left_iff {events : List Event} {l : Transcript protocol} {r : Except Fault UInt32}
    (h : Course events c l r d) {past : List Act}
    (hc : ∀ client, c = some client ↔ LastWritten client past) (client : Client) :
    d = some client ↔ LastWritten client (past ++ Broker.acts l) := by
  cases h with
  | idle => simpa using hc client
  | unconnected _ hrefused =>
    rw [LastWritten, outcomes_append, hrefused.outcomes_eq, List.append_nil]
    exact hc client
  | written _ _ hacts =>
    rw [hacts, LastWritten, ← List.append_assoc, getLast?_outcomes]
    simp
  | lost _ _ hlost hacts =>
    rw [hacts, LastWritten, ← List.append_assoc, getLast?_outcomes]
    simp only [reduceCtorEq, Option.some.injEq, Prod.mk.injEq, false_iff, not_exists, not_and]
    rintro offsets - rfl
    exact hlost

theorem Run.left_iff {call : Call} (h : Run s c (before ++ call :: after)) {past : List Act}
    (hc : ∀ client, c = some client ↔ LastWritten client past) (client : Client) :
    call.left = some client ↔ LastWritten client (past ++ history (before ++ [call])) := by
  induction before generalizing c past with
  | nil =>
    cases h with
    | cons hcourse hkept _ =>
      have hleft := ((produce_course s _ _).of_reaches hcourse hkept).left_iff hc client
      simpa [Call.acts] using hleft
  | cons first before ih =>
    cases h with
    | cons hcourse hkept hrest =>
      have hleft := ((produce_course s _ _).of_reaches hcourse hkept).left_iff hc
      have hcall := ih hrest hleft
      rwa [List.append_assoc] at hcall

/-! ### Over which client -/

/-- How far a producer has come to a client. -/
inductive Stage where
  | apart
  /-- There is a connection, over which no partition was looked up. -/
  | connected (connection : Connection)
  | ready (client : Client)

/-- The stage at which a client is kept, or none. -/
def Stage.of : Option Client → Stage
  | none => .apart
  | some client => .ready client

/-- What may come at a stage, and the stage then.  A batch goes over the client that is ready, which
is lost with the batch. -/
inductive Moves : Stage → Act → Stage → Prop where
  | unconnected {reason} : Moves .apart (.connects (.error reason)) .apart
  | connects {connection} : Moves .apart (.connects (.ok connection)) (.connected connection)
  | unknown {client reason} :
    Moves (.connected client.connection) (.looksUp client (.error reason)) .apart
  | finds {client} : Moves (.connected client.connection) (.looksUp client (.ok ())) (.ready client)
  | writes {client batch offsets} :
    Moves (.ready client) (.sends client batch (.written offsets)) (.ready client)
  | loses {client batch produced} (hlost : Lost produced) :
    Moves (.ready client) (.sends client batch produced) .apart

/-- What may come from one stage to another. -/
inductive Path : Stage → List Act → Stage → Prop where
  | nil {x} : Path x [] x
  | cons {x y z act l} (h : Moves x act y) (hl : Path y l z) : Path x (act :: l) z

section Path

variable {x y z : Stage} {l k m : List Act} {client : Client} {batch : Batch}
  {produced : Produced}

theorem Path.append (hl : Path x l y) (hk : Path y k z) : Path x (l ++ k) z := by
  induction hl with
  | nil => exact hk
  | cons h _ ih => exact .cons h (ih hk)

theorem Path.split (h : Path x (l ++ k) z) : ∃ y, Path x l y ∧ Path y k z := by
  induction l generalizing x with
  | nil => exact ⟨x, .nil, h⟩
  | cons act l ih =>
    cases h with
    | cons hact h =>
      obtain ⟨y, hl, hk⟩ := ih h
      exact ⟨y, .cons hact hl, hk⟩

/-- A batch goes over the client that is ready. -/
theorem Path.at_sends (h : Path x (l ++ .sends client batch produced :: k) z) :
    Path x l (.ready client) ∧ (Lost produced ∧ Path .apart k z ∨
      (∃ offsets, produced = .written offsets) ∧ Path (.ready client) k z) := by
  obtain ⟨y, hl, hk⟩ := h.split
  cases hk with
  | cons hsends hk =>
    cases hsends with
    | writes => exact ⟨hl, .inr ⟨⟨_, rfl⟩, hk⟩⟩
    | loses hlost => exact ⟨hl, .inl ⟨hlost, hk⟩⟩

/-- A client that was not ready is made over a new connection. -/
theorem Path.renews (h : Path x l z) (hz : z = .ready client) :
    x = .ready client ∨ .looksUp client (.ok ()) ∈ l ∧
      (x = .connected client.connection ∨ .connects (.ok client.connection) ∈ l) := by
  induction h with
  | nil => exact .inl hz
  | cons hact _ ih =>
    rcases ih hz with rfl | ⟨hlooksUp, rfl | hconnects⟩
    · cases hact with
      | finds => exact .inr ⟨.head _, .inl rfl⟩
      | writes => exact .inl rfl
    · cases hact with
      | connects => exact .inr ⟨.tail _ hlooksUp, .inr (.head _)⟩
    · exact .inr ⟨.tail _ hlooksUp, .inr (.tail _ hconnects)⟩

theorem Path.renews_apart (h : Path .apart l (.ready client)) :
    .connects (.ok client.connection) ∈ l ∧ .looksUp client (.ok ()) ∈ l := by
  rcases h.renews rfl with h | ⟨hlooksUp, h | hconnects⟩
  · cases h
  · cases h
  · exact ⟨hconnects, hlooksUp⟩

/-- A client that is ready stays so until a batch is lost, and all batches go over it. -/
theorem Path.reuses (h : Path (.ready client) (m ++ k) z)
    (hm : ∀ client' batch produced, .sends client' batch produced ∈ m → ¬Lost produced) :
    Path (.ready client) k z ∧ ∀ act ∈ m, ∃ batch produced, act = .sends client batch produced := by
  induction m with
  | nil => exact ⟨h, nofun⟩
  | cons act m ih =>
    cases h with
    | cons hact h =>
      cases hact with
      | writes =>
        obtain ⟨hk, hover⟩ := ih h fun _ _ _ hmem => hm _ _ _ (.tail _ hmem)
        exact ⟨hk, List.forall_mem_cons.2 ⟨⟨_, _, rfl⟩, hover⟩⟩
      | loses hlost => exact absurd hlost (hm _ _ _ (.head _))

theorem mem_connections {connection : Connection} (h : .connects (.ok connection) ∈ l) :
    connection ∈ connections l := List.mem_filterMap.2 ⟨_, h, rfl⟩

/-- Where every connection is a new one, nothing goes over a connection any more after a batch that
went over it was lost. -/
theorem Path.drops (h : Path .apart (l ++ .sends client batch produced :: k) z)
    (hnodup : (connections (l ++ .sends client batch produced :: k)).Nodup) (hlost : Lost produced)
    {client' : Client} {batch' : Batch} {produced' : Produced}
    (hsends : .sends client' batch' produced' ∈ k) : client'.connection ≠ client.connection := by
  obtain ⟨hl, ⟨-, hk⟩ | ⟨⟨offsets, rfl⟩, -⟩⟩ := h.at_sends
  · obtain ⟨m, k, rfl⟩ := List.append_of_mem hsends
    have hfirst := mem_connections hl.renews_apart.1
    have hsecond := mem_connections hk.at_sends.1.renews_apart.1
    have hdisjoint := (List.nodup_append.1 (connections_append l _ ▸ hnodup)).2.2 _ hfirst
    intro heq
    refine hdisjoint _ ?_ heq.symm
    rw [← List.singleton_append, connections_append, connections_append]
    exact List.mem_append_right _ (List.mem_append_left _ hsecond)
  · exact absurd hlost id

end Path

theorem Opened.path {client : Client} {opening : List Act} (h : Opened client c opening) :
    Path (.of c) opening (.ready client) := by
  cases h with
  | kept => exact .nil
  | connected => exact .cons .connects (.cons .finds .nil)

theorem Refused.path {k : List Act} (h : Refused k) : Path .apart k .apart := by
  cases h with
  | connection => exact .cons .unconnected .nil
  | partition => exact .cons .connects (.cons .unknown .nil)

theorem Course.path {events : List Event} {l : Transcript protocol} {r : Except Fault UInt32}
    (h : Course events c l r d) : Path (.of c) (Broker.acts l) (.of d) := by
  cases h with
  | idle => exact .nil
  | unconnected _ hrefused => exact hrefused.path
  | written _ hopened hacts =>
    rw [hacts]
    exact hopened.path.append (.cons .writes .nil)
  | lost _ hopened hlost hacts =>
    rw [hacts]
    exact hopened.path.append (.cons (.loses hlost) .nil)

theorem Run.path (h : Run s c calls) : ∃ d, Path (.of c) (history calls) (.of d) := by
  induction h with
  | @nil c => exact ⟨c, .nil⟩
  | cons hcourse hkept _ ih =>
    obtain ⟨d, hrest⟩ := ih
    exact ⟨d, ((produce_course s _ _).of_reaches hcourse hkept).path.append hrest⟩

/-! ### What is counted -/

/-- How much was added to a counter. -/
def added (c : Counter) (l : List (Counter × UInt64)) : Nat :=
  ((l.filter (·.1 = c)).map (·.2.toNat)).sum

@[simp] theorem added_append (c : Counter) (l k : List (Counter × UInt64)) :
    added c (l ++ k) = added c l + added c k := by
  simp [added]

/-- The events that a call says have places. -/
def acknowledged : Except Fault UInt32 → Nat
  | .ok n => n.toNat
  | .error _ => 0

/-- The batches that were lost. -/
def lostBatches (l : List Act) : Nat := (outcomes l).countP fun x => Lost x.2

theorem Course.counts {events : List Event} {l : Transcript protocol} {r : Except Fault UInt32}
    (h : Course events c l r d) :
    added .eventsForwarded (counted l) = acknowledged r ∧
      added .sinkErrors (counted l) = lostBatches (Broker.acts l) := by
  cases h with
  | idle => exact ⟨rfl, rfl⟩
  | unconnected _ hrefused hcounted =>
    rw [hcounted, lostBatches, hrefused.outcomes_eq]
    exact ⟨rfl, rfl⟩
  | written _ hopened hacts hcounted =>
    rw [hacts, hcounted, lostBatches, outcomes_append, hopened.outcomes_eq]
    exact ⟨by simp [added, acknowledged], rfl⟩
  | lost _ hopened hlost hacts hcounted =>
    rw [hacts, hcounted, lostBatches, outcomes_append, hopened.outcomes_eq]
    exact ⟨rfl, by simp [added, outcomes, Act.outcome?, hlost]⟩

/-- What the calls of a run added to the counters, one after the other. -/
def Run.additions (calls : List Call) : List (Counter × UInt64) :=
  calls.flatMap fun call => counted call.exchanges

theorem Run.counts (h : Run s c calls) :
    added .eventsForwarded (additions calls) =
        (calls.map fun call => acknowledged call.result).sum ∧
      added .sinkErrors (additions calls) = lostBatches (history calls) := by
  induction h with
  | nil => exact ⟨rfl, rfl⟩
  | cons hcourse hkept _ ih =>
    obtain ⟨hforwarded, herrors⟩ := ih
    obtain ⟨hforwarded', herrors'⟩ :=
      ((produce_course s _ _).of_reaches hcourse hkept).counts
    simp only [additions, List.flatMap_cons, added_append, List.map_cons, List.sum_cons,
      history_cons, lostBatches, outcomes_append, List.countP_append] at *
    exact ⟨by rw [hforwarded, hforwarded'], by rw [herrors, herrors']; rfl⟩

end Run

/-! ## The main statement -/

/-- What holds of the calls of a producer, from the first one on. -/
structure Cached (calls : List Call) : Prop where
  /-- A call connects exactly if it has something to write and finds no client. -/
  connects_iff : ∀ call ∈ calls,
    (∃ answer, .connects answer ∈ call.acts) ↔ call.events ≠ [] ∧ call.found = none
  /-- What a call leaves is found by the next. -/
  next_found : ∀ before call next after, calls = before ++ call :: next :: after →
    next.found = call.left
  /-- A batch goes over the client that is found, without a connection, or over a new one. -/
  sent_over : ∀ call ∈ calls, ∀ client batch produced, .sends client batch produced ∈ call.acts →
    ∃ opening, Opened client call.found opening ∧
      call.acts = opening ++ [.sends client batch produced]
  /-- A client is kept after a call exactly if the last batch was written over it. -/
  left_iff : ∀ before call after, calls = before ++ call :: after → ∀ client,
    call.left = some client ↔ LastWritten client (history (before ++ [call]))
  /-- After a batch that was lost, the next one goes over a new connection. -/
  renewed : ∀ l client batch produced m client' batch' produced' k,
    history calls =
      l ++ .sends client batch produced :: (m ++ .sends client' batch' produced' :: k) →
    Lost produced → .connects (.ok client'.connection) ∈ m ∧ .looksUp client' (.ok ()) ∈ m
  /-- Nothing is sent any more over a connection over which a batch was lost, if no two connections
  are one. -/
  dropped : (connections (history calls)).Nodup → ∀ l client batch produced k,
    history calls = l ++ .sends client batch produced :: k → Lost produced →
    ∀ client' batch' produced', .sends client' batch' produced' ∈ k →
    client'.connection ≠ client.connection
  /-- After a batch that was written, until one is lost, there are only batches over the same
  client, and no connection. -/
  reused : ∀ l client batch offsets m act k,
    history calls = l ++ .sends client batch (.written offsets) :: (m ++ act :: k) →
    (∀ client' batch' produced', .sends client' batch' produced' ∈ m → ¬Lost produced') →
    ∃ batch' produced', act = .sends client batch' produced'
  /-- A call fails exactly if the brokers fail it. -/
  fails_iff : ∀ call ∈ calls, (∃ f, call.result = .error f) ↔ ∃ act ∈ call.acts, act.Fails
  /-- Every failure is one of the sink. -/
  fault : ∀ call ∈ calls, ∀ f, call.result = .error f → ∃ reason, f = .forwardingFailed reason
  /-- A call that fails leaves no client. -/
  emptied : ∀ call ∈ calls, (∃ act ∈ call.acts, act.Fails) → call.left = none
  /-- After a call that failed, the next that has something to write connects. -/
  tries_again : ∀ before call next after, calls = before ++ call :: next :: after →
    (∃ act ∈ call.acts, act.Fails) → next.events ≠ [] → ∃ answer, .connects answer ∈ next.acts
  /-- A call that does not fail has its events written. -/
  writes : ∀ call ∈ calls, call.events ≠ [] → (∀ act ∈ call.acts, ¬act.Fails) →
    ∃ client batch offsets, .sends client batch (.written offsets) ∈ call.acts
  /-- The count is that of the places, and no more than there were events. -/
  count : ∀ call ∈ calls, ∀ client batch offsets,
    .sends client batch (.written offsets) ∈ call.acts →
    call.result = .ok (UInt32.ofNat (min offsets call.events.length))
  /-- What is counted as forwarded are the counts. -/
  forwarded : added .eventsForwarded (Run.additions calls) =
    (calls.map fun call => acknowledged call.result).sum
  /-- Each batch that was lost is counted once. -/
  errors : added .sinkErrors (Run.additions calls) = lostBatches (history calls)
  /-- A call with nothing to write does nothing. -/
  idle : ∀ call ∈ calls, call.events = [] →
    call.exchanges = [] ∧ call.result = .ok 0 ∧ call.left = call.found

/-- From a producer that keeps no client yet on, its calls keep one as they should. -/
theorem client_kept {s : BrokerSettings} {calls : List Call} (h : Run s none calls) :
    Cached calls where
  connects_iff call hcall := (h.taken call hcall).connects_iff
  next_found := by
    rintro before call next after rfl
    exact h.next
  sent_over call hcall _ _ _ := (h.taken call hcall).opened_of_sends
  left_iff := by
    rintro before call after rfl client
    have hstart (client : Client) : (none : Option Client) = some client ↔
        LastWritten client [] := by
      simp [LastWritten, outcomes]
    simpa using h.left_iff hstart client
  renewed l client batch produced m client' batch' produced' k hhistory hlost := by
    obtain ⟨d, hpath⟩ := h.path
    rw [hhistory] at hpath
    obtain ⟨-, ⟨-, hrest⟩ | ⟨⟨offsets, rfl⟩, -⟩⟩ := hpath.at_sends
    · exact hrest.at_sends.1.renews_apart
    · exact absurd hlost id
  dropped hnodup l client batch produced k hhistory hlost _ _ _ := by
    obtain ⟨d, hpath⟩ := h.path
    rw [hhistory] at hpath hnodup
    exact hpath.drops hnodup hlost
  reused l client batch offsets m act k hhistory hm := by
    obtain ⟨d, hpath⟩ := h.path
    rw [hhistory] at hpath
    obtain ⟨-, ⟨hlost, -⟩ | ⟨-, hrest⟩⟩ := hpath.at_sends
    · exact absurd hlost id
    · cases (hrest.reuses hm).1 with
      | cons hact _ => cases hact <;> exact ⟨_, _, rfl⟩
  fails_iff call hcall := (h.taken call hcall).fails_iff
  fault call hcall _ := (h.taken call hcall).fault
  emptied call hcall := (h.taken call hcall).left_of_fails
  tries_again := by
    rintro before call next after rfl hfails hevents
    have hleft := (h.taken call (by simp)).left_of_fails hfails
    exact (h.taken next (by simp)).connects_iff.2 ⟨hevents, h.next.trans hleft⟩
  writes call hcall := (h.taken call hcall).writes
  count call hcall _ _ _ := (h.taken call hcall).count
  forwarded := h.counts.1
  errors := h.counts.2
  idle call hcall := (h.taken call hcall).idle_of

/-! ### Runs for given answers -/

/-- The client kept after some questions. -/
def keptAfter (c : Option Client) : Transcript protocol → Option Client
  | [] => c
  | ⟨.keep d, _⟩ :: l => keptAfter d l
  | _ :: l => keptAfter c l

/-- Answers of the surroundings, with a memory for the client. -/
def remembering (c : Option Client) (σ : (q : Question) → protocol.Answer q) : Strategy protocol
  | past, .client => keptAfter c past
  | _, .keep _ => ()
  | _, q => σ q

theorem keptAfter_append (c : Option Client) (l k : Transcript protocol) :
    keptAfter c (l ++ k) = keptAfter (keptAfter c l) k := by
  induction l generalizing c with
  | nil => rfl
  | cons x l ih =>
    obtain ⟨q, a⟩ := x
    cases q <;> exact ih _

/-- Under such answers the client kept is the one remembered. -/
theorem play_kept {α : Type} (d : Dialogue protocol α) (c : Option Client)
    (σ : (q : Question) → protocol.Answer q) {past : Transcript protocol}
    (h : Kept c past (keptAfter c past)) : Kept c (d.play (remembering c σ) past).1
      (keptAfter c (d.play (remembering c σ) past).1) := by
  induction d generalizing past with
  | done a => exact h
  | ask q next ih =>
    refine ih _ (kept_append.2 ⟨_, h, ?_⟩)
    rw [keptAfter_append]
    cases q with
    | client => exact .look .nil
    | keep => exact .keep .nil
    | _ => exact .elsewhere trivial .nil

/-- The calls for given events and answers, one after the other. -/
def callsFor (s : BrokerSettings) : Option Client →
    List (Origin × List Event × ((q : Question) → protocol.Answer q)) → List Call
  | _, [] => []
  | c, (origin, events, σ) :: rest =>
    let (exchanges, result) := (produce s origin events).play (remembering c σ) []
    let left := keptAfter c exchanges
    ⟨origin, events, c, exchanges, result, left⟩ :: callsFor s left rest

/-- Whatever the events and the answers, there is a run. -/
theorem callsFor_run (s : BrokerSettings) (c : Option Client)
    (l : List (Origin × List Event × ((q : Question) → protocol.Answer q))) :
    Run s c (callsFor s c l) := by
  induction l generalizing c with
  | nil => exact .nil
  | cons x l ih =>
    obtain ⟨origin, events, σ⟩ := x
    have hreaches := reaches_play (produce s origin events) (remembering c σ)
    have hkept := play_kept (produce s origin events) c σ .nil
    exact @Run.cons s ⟨origin, events, c, _, _, _⟩ _ hreaches hkept (ih _)

/-- Brokers that answer, with this connection, and do this to a batch. -/
def answering (connection : Nat) (produced : Produced) : (q : Question) → protocol.Answer q
  | .connect _ _ => .ok ⟨connection⟩
  | .topics _ => .ok [BrokerSettings.default.topic]
  | .lookUp _ => .ok ()
  | .produce _ _ _ => produced
  | .wallClock => .epoch
  | .clock => 0
  | .count _ _ | .observe _ | .keep _ => ()
  | .client => none

/-- Brokers that cannot be reached. -/
def unreachable : (q : Question) → protocol.Answer q
  | .connect _ _ => .error "down"
  | q => answering 0 .late q

/-- Brokers that do not know the partition. -/
def unknowing (connection : Nat) : (q : Question) → protocol.Answer q
  | .lookUp _ => .error "unknown partition"
  | q => answering connection .late q

/-- A call without events, one that cannot connect, one that does not find the partition, two that
are written, one on the other path that comes too late, and one that is written again. -/
def sevenCalls : List Call :=
  let event := Event.make "e" "s" "t"
  callsFor .default none
    [(.metered, [], unreachable), (.metered, [event], unreachable),
      (.internal, [event], unknowing 1), (.metered, [event, event], answering 2 (.written 1)),
      (.metered, [event], answering 3 (.written 1)), (.internal, [event], answering 4 .late),
      (.metered, [event], answering 5 (.written 5))]

/-- The second client is made only after a batch was lost over the first one. -/
theorem client_kept_sevenCalls : Run .default none sevenCalls ∧ Cached sevenCalls ∧
    connections (history sevenCalls) = [⟨1⟩, ⟨2⟩, ⟨5⟩] ∧
    (outcomes (history sevenCalls)).map (fun x => (x.1.connection.id, x.2)) =
      [(2, .written 1), (2, .written 1), (2, .late), (5, .written 5)] ∧
    sevenCalls.map (fun call => (call.left.map (·.connection.id), acknowledged call.result)) =
      [(none, 0), (none, 0), (none, 0), (some 2, 1), (some 2, 1), (none, 0), (some 5, 1)] :=
  ⟨callsFor_run _ _ _, client_kept (callsFor_run _ _ _), by decide, by decide, by decide⟩

end Sluice.Broker
