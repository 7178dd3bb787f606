import Sluice.Proofs.Gateway.Bystanders
import Sluice.Proofs.Gateway.Publishing

/-!
# What requests read and decide

A request reads the deny-list once at most (`Steady`).  One that holds a batch reads it exactly
once, before anything goes to the quota authority or the sink (`Decided`), and the batch comes to
what `Published` says of the list that was read (`handle_always`).
-/

namespace Sluice.Gateway

open Dialogue

/-! ## Reading the list -/

/-- A request may ask this: to read the deny-list for the first time, or what leaves it alone. -/
def Steady (past : Transcript protocol) : Question → Prop
  | .access .denyList => consulted past = []
  | q => q.Apart

/-- Nothing goes to the quota authority or the sink before the deny-list was read. -/
def Decided (past : Transcript protocol) (q : Question) : Prop :=
  ∀ o, q = .outside o → o.isCall = true → ∃ list, consulted past = [list]

theorem steady_of_apart {past : Transcript protocol} {q : Question} (h : q.Apart) :
    Steady past q := by
  cases q with
  | outside o => exact h
  | access a => cases a <;> first | exact h | exact absurd h id

theorem consulted_snoc_of_apart {q : Question} (h : q.Apart) (l : Transcript protocol)
    (a : protocol.Answer q) : consulted (l ++ [⟨q, a⟩]) = consulted l := by
  have hq : consulted [⟨q, a⟩] = [] := by
    cases q with
    | outside o => rfl
    | access s => cases s <;> first | rfl | exact absurd h id
  rw [consulted_append, hq, List.append_nil]

/-- What leaves the list alone does so whatever was read before. -/
theorem always_of_apart {α : Type} {d : Action α} (h : d.Asks Question.Apart)
    {past : Transcript protocol} {lists : List DenyList} (hp : consulted past = lists) :
    d.Always (fun l q => Steady l q ∧ consulted l = lists) (fun l _ => consulted l = lists) past :=
  (h.always (fun l _ a hq hl => (consulted_snoc_of_apart hq l a).trans hl) hp).mono
    (fun _ _ hq => ⟨steady_of_apart hq.1, hq.2⟩) fun _ _ => id

theorem steady_of_asks {α : Type} {d : Action α} (h : d.Asks Question.Apart)
    (past : Transcript protocol) : d.Always Steady (fun _ _ => True) past :=
  (always_of_apart h rfl).mono (fun _ _ hq => hq.1) fun _ _ _ => trivial

/-! ## Publishing -/

theorem publishAllowed_decided (who : Principal) (start : Nat) (events : List Event)
    {past : Transcript protocol} {list : DenyList} (hp : consulted past = [list]) :
    (publishAllowed who start events).Always (fun l q => Steady l q ∧ Decided l q)
      (fun _ _ => True) past :=
  (always_of_apart (publishAllowed_asks who start events) hp).mono
    (fun _ _ hq => ⟨hq.1, fun _ _ _ => ⟨list, hq.2⟩⟩) fun _ _ _ => trivial

theorem decided_access (past : Transcript protocol) (a : Access) : Decided past (.access a) :=
  fun _ h => by cases h

theorem decided_clock (past : Transcript protocol) : Decided past (.outside .clock) :=
  fun o h hcall => by
    cases h
    cases hcall

theorem publish_decided (who : Principal) (events : List Event) :
    (publish who events).Always (fun l q => Steady l q ∧ Decided l q) (fun _ _ => True) [] := by
  simp only [publish, clock, count, denyList, always_bind, always_question]
  refine ⟨⟨trivial, decided_clock _⟩, fun start => ⟨⟨?_, decided_access _ _⟩, fun _ =>
    ⟨⟨?_, decided_access _ _⟩, fun _ => ⟨⟨rfl, decided_access _ _⟩, fun list => ?_⟩⟩⟩⟩
  · exact Counter.noConfusion
  · exact Counter.noConfusion
  cases list.filter events with
  | reject hit =>
    simp only [always_bind, always_question, always_pure]
    exact ⟨⟨Counter.noConfusion, decided_access _ _⟩, fun _ => trivial⟩
  | truncate allowed hit =>
    simp only [always_bind, always_question]
    exact ⟨⟨Counter.noConfusion, decided_access _ _⟩, fun _ =>
      publishAllowed_decided who start allowed rfl⟩
  | accept allowed => exact publishAllowed_decided who start allowed rfl

/-! ## Requests -/

theorem publishRequest_steady (s : InternalSettings) (route : Route) (r : Request) :
    (publishRequest s route r).Always Steady (fun _ _ => True) [] := by
  unfold publishRequest
  split
  · exact always_pure.2 trivial
  · rename_i who _
    split
    · exact always_pure.2 trivial
    · split
      · exact steady_of_asks (publishInternalBody_asks s who r.body) []
      · unfold publishBody
        split
        · exact always_pure.2 trivial
        · rename_i events _
          simp only [always_bind, always_pure]
          exact (publish_decided who events).mono (fun _ _ hq => hq.1) fun _ _ _ => trivial

theorem answer_steady (s : InternalSettings) (r : Request) (route : Route) :
    (route.answer s r).Always Steady (fun _ _ => True) [] := by
  cases route with
  | event => exact publishRequest_steady s .event r
  | batch => exact publishRequest_steady s .batch r
  | internal => exact publishRequest_steady s .internal r
  | health =>
    simp only [Route.answer, healthRequest, health, denyList, wallClock, metrics, always_bind,
      always_question, always_pure]
    exact ⟨trivial, fun _ => ⟨rfl, fun _ => ⟨trivial, fun _ => ⟨trivial, fun _ => trivial⟩⟩⟩⟩
  | ready =>
    simp only [Route.answer, health, always_bind, always_question, always_pure]
    exact ⟨trivial, fun _ => trivial⟩
  | live =>
    simp only [Route.answer, health, always_bind, always_question, always_pure]
    exact ⟨trivial, fun _ => trivial⟩

/-- Every request reads the deny-list once at most. -/
theorem handle_steady (s : InternalSettings) (r : Request) :
    (handle s r).Always Steady (fun _ _ => True) [] := by
  unfold handle
  split
  · exact always_pure.2 trivial
  · dsimp only
    split
    · exact always_pure.2 trivial
    · rename_i route _
      split
      · simp only [always_bind, always_pure]
        exact answer_steady s r route
      · exact always_pure.2 trivial

/-! ## Batches -/

/-- What is posted to a route that publishes is answered there, for pages of any origin. -/
theorem handle_of_post (s : InternalSettings) {r : Request} {route : Route}
    (hpath : Route.ofPath? r.path = some route) (hpost : r.method = "POST")
    (hmethods : route.methods = ["POST"]) :
    handle s r = (fun a : Response => { a with headers := anyOrigin :: a.headers }) <$>
      route.answer s r := by
  have hcontains : route.methods.contains r.method = true := by
    rw [hmethods, hpost]
    rfl
  have hoptions : r.method ≠ "OPTIONS" := by
    rw [hpost]
    decide
  have hhead : r.method ≠ "HEAD" := by
    rw [hpost]
    decide
  unfold handle
  simp only [if_neg hoptions, if_neg hhead, hpath, hcontains, if_true, map_eq_pure_bind]

/-- The routes of publishers are not the internal one. -/
theorem ne_internal_of_public {route : Route} (h : route = .event ∨ route = .batch) :
    route ≠ .internal := by
  rintro rfl
  obtain h | h := h <;> cases h

/-- What is posted to a route of publishers is published. -/
theorem handle_of_public (s : InternalSettings) {r : Request} {route : Route}
    (hpath : Route.ofPath? r.path = some route) (hpost : r.method = "POST")
    (hroute : route = .event ∨ route = .batch) :
    handle s r = (fun a : Response => { a with headers := anyOrigin :: a.headers }) <$>
      publishRequest s route r := by
  have hanswer : route.answer s r = publishRequest s route r ∧ route.methods = ["POST"] := by
    obtain rfl | rfl := hroute
    · exact ⟨rfl, rfl⟩
    · exact ⟨rfl, rfl⟩
  rw [handle_of_post s hpath hpost hanswer.2, hanswer.1]

/-- The request holds a batch of a publisher, whose events are checked. -/
structure Holds (r : Request) (who : Principal) (events : List Event) : Prop where
  method_eq : r.method = "POST"
  /-- One of two routes takes it. -/
  route : ∃ route, Route.ofPath? r.path = some route ∧ (route = .event ∨ route = .batch) ∧
    eventsOf route r.body = .ok events
  principal_eq : r.principal = .ok who
  length_le : r.body.length ≤ bufferLimit

section Holds

variable {r : Request} {who : Principal} {events : List Event}

theorem Holds.not_internal (h : Holds r who events) : Route.ofPath? r.path ≠ some .internal := by
  obtain ⟨route, hpath, hroute, -⟩ := h.route
  rw [hpath]
  exact fun heq => ne_internal_of_public hroute (Option.some.inj heq)

/-- Such a request publishes its batch, and is answered with what that comes to. -/
theorem handle_of_holds (s : InternalSettings) (h : Holds r who events) :
    handle s r = (fun x => { Response.ofResult x with
      headers := anyOrigin :: (Response.ofResult x).headers }) <$> publish who events := by
  obtain ⟨route, hpath, hroute, hevents⟩ := h.route
  have hrequest : publishRequest s route r = Response.ofResult <$> publish who events := by
    unfold publishRequest
    simp only [h.principal_eq, if_neg (Nat.not_lt.2 h.length_le),
      if_neg (ne_internal_of_public hroute), publishBody, hevents, map_eq_pure_bind]
  rw [handle_of_public s hpath h.method_eq hroute, hrequest, Functor.map_map]

theorem Holds.unique {who' : Principal} {events' : List Event} (h : Holds r who events)
    (h' : Holds r who' events') : who = who' ∧ events = events' := by
  obtain ⟨route, hpath, -, hevents⟩ := h.route
  obtain ⟨route', hpath', -, hevents'⟩ := h'.route
  have hwho := h.principal_eq
  rw [h'.principal_eq] at hwho
  rw [hpath] at hpath'
  cases hpath'
  rw [hevents] at hevents'
  cases hwho
  cases hevents'
  exact ⟨rfl, rfl⟩

end Holds

/-- A request reads the list once at most.  One that holds a batch reads it before anything goes to
the quota authority or the sink, and its batch comes to what is published under that list. -/
theorem handle_always (s : InternalSettings) (r : Request) :
    (handle s r).Always
      (fun l q => Steady l q ∧ ∀ who events, Holds r who events → Decided l q)
      (fun l _ => ∀ who events, Holds r who events →
        ∃ list x, consulted l = [list] ∧ Published who list events l x) [] := by
  have hsteady := handle_steady s r
  by_cases hex : ∃ who events, Holds r who events
  · obtain ⟨who, events, h⟩ := hex
    have hhandle := handle_of_holds s h
    obtain ⟨first, rest, rfl⟩ : ∃ first rest, events = first :: rest := by
      obtain ⟨route, -, -, hevents⟩ := h.route
      exact List.exists_cons_of_length_pos (length_eventsOf hevents).1
    have hpublish := (publish_decided who (first :: rest)).and (publish_ends who first rest).always
    rw [hhandle] at hsteady ⊢
    rw [always_map] at hsteady ⊢
    refine (hsteady.and hpublish).mono (fun l q hq => ⟨hq.1, fun who' events' h' => ?_⟩)
      fun l x hl who' events' h' => ?_
    · exact hq.2.1.2
    · obtain ⟨rfl, rfl⟩ := h.unique h'
      obtain ⟨list, hlist, hp⟩ := hl.2.2
      exact ⟨list, x, hlist, hp⟩
  · exact hsteady.mono (fun l q hq => ⟨hq, fun who events h => absurd ⟨who, events, h⟩ hex⟩)
      fun l x _ who events h => absurd ⟨who, events, h⟩ hex

end Sluice.Gateway
