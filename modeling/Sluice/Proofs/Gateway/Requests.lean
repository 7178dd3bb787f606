import Sluice.Proofs.Gateway.Routes

/-!
# What a request calls for

`Handled` says of any request which calls it makes from its beginning to its end.  There are two
ways to make any: it posts a batch, and then the calls are those of an admission of the stamped
events before the first that matches the deny-list; or it posts an event by the internal path and
has a token, and then this event is forwarded and nothing else is called for.
`publishRequest_cases` tells what a request to publish comes to, and `handle_ends_of` goes through
all methods and routes, once for whatever is to be shown of a request.
-/

namespace Sluice.Gateway

open Dialogue

/-- The request posts an event of a publisher by the internal path. -/
structure HoldsInternal (r : Request) (who : Principal) (e : Event) : Prop where
  method_eq : r.method = "POST"
  route_eq : Route.ofPath? r.path = some .internal
  principal_eq : r.principal = .ok who
  event_eq : eventOf r.body = .ok e

/-- What a request calls for. -/
inductive Handled (s : InternalSettings) (r : Request) (k : Transcript protocol) : Prop where
  /-- Nothing. -/
  | quiet : calls k = [] → Handled s r k
  /-- The admission of the first events of its batch. -/
  | admitted {who first rest n before now counts x} : Holds r who (first :: rest) →
    (first :: rest).take n = first :: before →
    Admitted who (stamp who now first) (before.map (stamp who now)) (calls k) counts x →
    Handled s r k
  /-- The event of the internal path, for which a token was given. -/
  | internal {who e time now x} : HoldsInternal r who e →
    ⟨.access (.token time), .admitted⟩ ∈ k →
    calls k = [⟨.forward .internal [stamp who now (mark s e)], x⟩] → Handled s r k

/-! ## Requests to publish -/

/-- No fault is answered as a success. -/
theorem status_ofFault_ne (f : Fault) : (Rejection.ofFault f).status ≠ 200 := by
  cases f <;> simp [Rejection.ofFault, Rejection.validation, Rejection.rateLimited,
    Rejection.plain, Fault.status]

theorem status_ofRejection (f : Rejection) : (Response.ofRejection f).status = f.status := by
  unfold Response.ofRejection
  split <;> rfl

/-- A request to publish is refused at once, or it comes by the internal path, or it holds a batch,
which is published. -/
theorem publishRequest_cases (s : InternalSettings) {r : Request} {route : Route}
    (hpost : r.method = "POST") (hpath : Route.ofPath? r.path = some route)
    (hroute : route = .event ∨ route = .batch ∨ route = .internal) :
    (∃ a : Response, a.status ≠ 200 ∧ publishRequest s route r = pure a) ∨
      (∃ who, Route.ofPath? r.path = some .internal ∧ r.principal = .ok who ∧
        publishRequest s route r = publishInternalBody s who r.body) ∨
      ∃ who events, Holds r who events ∧
        publishRequest s route r = Response.ofResult <$> publish who events := by
  have hrefused (f : Fault) : (Response.ofRejection (.ofFault f)).status ≠ 200 := by
    rw [status_ofRejection]
    exact status_ofFault_ne f
  unfold publishRequest
  cases hwho : r.principal with
  | error f => exact .inl ⟨_, hrefused f, rfl⟩
  | ok who =>
    by_cases hlen : bufferLimit < r.body.length
    · simp only [if_pos hlen]
      exact .inl ⟨_, by simp [Response.text], rfl⟩
    · by_cases hinternal : route = .internal
      · subst hinternal
        simp only [if_neg hlen, if_true]
        exact .inr (.inl ⟨who, hpath, rfl, rfl⟩)
      · simp only [if_neg hlen, if_neg hinternal, publishBody]
        cases hevents : eventsOf route r.body with
        | error f => exact .inl ⟨_, hrefused f, rfl⟩
        | ok events =>
          have htakes : route = .event ∨ route = .batch :=
            hroute.imp_right fun h => h.resolve_right hinternal
          exact .inr (.inr ⟨who, events,
            ⟨hpost, ⟨route, hpath, htakes, hevents⟩, hwho, Nat.le_of_not_lt hlen⟩,
            (map_eq_pure_bind _ _).symm⟩)

/-! ## The internal path -/

/-- An event of the internal path is forwarded with its marker and the stamp of the time that was
read, and the result is what the sink says. -/
theorem publishInternal_ends (s : InternalSettings) (who : Principal) (e : Event) :
    (publishInternal s who e).Ends fun k r => ∃ now x, ⟨.outside .wallClock, now⟩ ∈ k ∧
      calls k = [⟨.forward .internal [stamp who now (mark s e)], x⟩] ∧
      r = x.mapError Fault.asForwarding := by
  simp only [publishInternal, count, wallClock, forward, ends_bind, ends_question, ends_pure]
  intro _ now x
  exact ⟨now, x, by simp, rfl, rfl⟩

/-- What the internal route calls for, and its answer. -/
theorem publishInternalBody_ends (s : InternalSettings) (who : Principal) (body : List UInt8) :
    (publishInternalBody s who body).Ends fun k a =>
      (calls k = [] ∧ ∃ f, a = .ofRejection f ∧ f.status ≠ 200) ∨
      ∃ e time now x, eventOf body = .ok e ∧ ⟨.access (.token time), .admitted⟩ ∈ k ∧
        calls k = [⟨.forward .internal [stamp who now (mark s e)], x⟩] ∧
        a = .ofResult (x.mapError Fault.asForwarding) := by
  simp only [publishInternalBody, clock, token, ends_bind, ends_question]
  intro time verdict
  cases verdict with
  | refused wait =>
    simp only [count, ends_bind, ends_question, ends_pure]
    exact fun _ => .inl ⟨rfl, _, rfl, by simp [Rejection.rateLimited]⟩
  | admitted =>
    dsimp only
    cases he : eventOf body with
    | error f =>
      rw [ends_pure]
      exact .inl ⟨rfl, _, rfl, status_ofFault_ne f⟩
    | ok e =>
      simp only [ends_bind, ends_pure]
      refine (publishInternal_ends s who e).mono fun k r h => ?_
      obtain ⟨now, x, -, hk, rfl⟩ := h
      refine .inr ⟨e, time, now, x, rfl, by simp, ?_, rfl⟩
      simpa [Outside.isCall] using hk

/-! ## Any request -/

/-- The question reads the state or the time, and nothing else. -/
def Question.Reads : Question → Prop
  | .outside .wallClock | .access .health | .access .denyList | .access .metrics => True
  | _ => False

theorem calls_of_reads {k : Transcript protocol} (h : ∀ x ∈ k, x.question.Reads) :
    calls k = [] := by
  refine List.filterMap_eq_nil_iff.2 fun x hx => ?_
  obtain ⟨q | a, y⟩ := x
  · cases q <;> first | rfl | exact absurd (h _ hx) id
  · rfl

section Handle

variable {s : InternalSettings} {r : Request} {spec : Transcript protocol → Prop}
  (hreads : ∀ k, (∀ x ∈ k, x.question.Reads) → spec k)
  (hbatch : ∀ who events, Holds r who events → (publish who events).Ends fun k _ => spec k)
  (hinternal : ∀ who, r.method = "POST" → Route.ofPath? r.path = some .internal →
    r.principal = .ok who → (publishInternalBody s who r.body).Ends fun k _ => spec k)

include hreads hbatch hinternal

theorem publishRequest_ends {route : Route} (hpost : r.method = "POST")
    (hpath : Route.ofPath? r.path = some route)
    (hroute : route = .event ∨ route = .batch ∨ route = .internal) :
    (publishRequest s route r).Ends fun k _ => spec k := by
  obtain ⟨a, -, ha⟩ | ⟨who, hinternalPath, hwho, ha⟩ | ⟨who, events, hholds, ha⟩ :=
    publishRequest_cases s hpost hpath hroute
  · rw [ha, ends_pure]
    exact hreads [] (by simp)
  · rw [ha]
    exact hinternal who hpost hinternalPath hwho
  · rw [ha, map_eq_pure_bind]
    simp only [ends_bind, ends_pure, List.append_nil]
    exact hbatch who events hholds

theorem answer_ends {route : Route} (hpath : Route.ofPath? r.path = some route)
    (hmethod : route.methods.contains r.method = true) :
    (route.answer s r).Ends fun k _ => spec k := by
  have hpost (h : route.methods = ["POST"]) : r.method = "POST" := by
    rw [h] at hmethod
    simpa using hmethod
  cases route with
  | event =>
    rw [Route.answer]
    exact publishRequest_ends hreads hbatch hinternal (hpost rfl) hpath (.inl rfl)
  | batch =>
    rw [Route.answer]
    exact publishRequest_ends hreads hbatch hinternal (hpost rfl) hpath (.inr (.inl rfl))
  | internal =>
    rw [Route.answer]
    exact publishRequest_ends hreads hbatch hinternal (hpost rfl) hpath (.inr (.inr rfl))
  | health =>
    simp only [Route.answer, healthRequest, health, denyList, wallClock, metrics, ends_bind,
      ends_question, ends_pure]
    exact fun _ _ _ _ => hreads _ (by simp [Question.Reads])
  | ready =>
    simp only [Route.answer, health, ends_bind, ends_question, ends_pure]
    exact fun _ => hreads _ (by simp [Question.Reads])
  | live =>
    simp only [Route.answer, health, ends_bind, ends_question, ends_pure]
    exact fun _ => hreads _ (by simp [Question.Reads])

/-- What holds of all that a request may do, holds of any request: it reads only, or it publishes
the batch that it holds, or it comes by the internal path. -/
theorem handle_ends_of : (handle s r).Ends fun k _ => spec k := by
  have hquiet : spec [] := hreads [] (by simp)
  unfold handle
  split
  · exact ends_pure.2 hquiet
  · dsimp only
    split
    · simp only [ends_bind, ends_pure]
      exact hquiet
    · rename_i route hpath
      split
      · rename_i hmethod
        simp only [ends_bind, ends_pure, List.append_nil]
        exact answer_ends hreads hbatch hinternal hpath hmethod
      · simp only [ends_bind, ends_pure]
        exact hquiet

end Handle

theorem Holds.exists_cons {r : Request} {who : Principal} {events : List Event}
    (h : Holds r who events) :
    ∃ first rest, events = first :: rest ∧ events.length ≤ Body.batchLimit := by
  obtain ⟨route, -, -, hevents⟩ := h.route
  obtain ⟨hpos, hle⟩ := length_eventsOf hevents
  obtain ⟨first, rest, hcons⟩ := List.exists_cons_of_length_pos hpos
  exact ⟨first, rest, hcons, hle⟩

variable {s : InternalSettings} {r : Request}

/-- What any request calls for, whatever it is answered. -/
theorem handle_ends (s : InternalSettings) (r : Request) :
    (handle s r).Ends fun k _ => Handled s r k := by
  refine handle_ends_of (fun k hk => .quiet (calls_of_reads hk)) (fun who events hholds => ?_)
    fun who hpost hpath hwho => ?_
  · obtain ⟨first, rest, rfl, -⟩ := hholds.exists_cons
    refine (publish_admitted who first rest).mono fun k x h => ?_
    obtain ⟨list, -, ⟨-, hk, -⟩ | ⟨before, now, counts, htake, -, ha⟩⟩ := h
    · exact .quiet hk
    · exact .admitted hholds htake ha
  · refine (publishInternalBody_ends s who r.body).mono fun k _ h => ?_
    obtain ⟨hk, -⟩ | ⟨e, time, now, x, he, htoken, hk, -⟩ := h
    · exact .quiet hk
    · exact .internal ⟨hpost, hpath, hwho, he⟩ htoken hk

/-- A request of the internal route is answered with what its body comes to. -/
theorem handle_of_holdsInternal {who : Principal} {e : Event} (h : HoldsInternal r who e)
    (hlen : r.body.length ≤ bufferLimit) :
    handle s r = (fun a : Response => { a with headers := anyOrigin :: a.headers }) <$>
      publishInternalBody s who r.body := by
  have hanswer : Route.answer s r .internal = publishInternalBody s who r.body := by
    rw [Route.answer, publishRequest]
    simp only [h.principal_eq, if_neg (Nat.not_lt.2 hlen), if_true]
  rw [handle_of_post s h.route_eq h.method_eq rfl, hanswer]

/-! ## Two requests and a world -/

/-- A request of a group that posts one event, as a list of its fields. -/
def onePosted : Request where
  method := "POST"
  target := "/v1/events?x"
  headers := [("X-Group-Id", Text.bytes " group")]
  body := Text.bytes "[\"1\",\"1.0\",\"s\",\"t\"]"

theorem onePosted_holds : Holds onePosted ⟨"group", ""⟩ [.make "1" "s" "t"] := by
  have hpath : Route.ofPath? onePosted.path = some .event := by decide +kernel
  have hevents : eventsOf .event onePosted.body = .ok [.make "1" "s" "t"] := by decide +kernel
  have hgroup : onePosted.header? "x-group-id" = some " group" := by decide +kernel
  have huser : onePosted.header? "x-user-id" = none := by decide +kernel
  have hwho : onePosted.principal = .ok ⟨"group", ""⟩ := by
    rw [Request.principal, hgroup, huser]
    rfl
  exact ⟨rfl, ⟨.event, hpath, .inl rfl, hevents⟩, hwho, by decide⟩

/-- A request that posts the same event by the internal path. -/
def oneInternal : Request := { onePosted with target := "/v1/events/internal" }

theorem oneInternal_holds : HoldsInternal oneInternal ⟨"group", ""⟩ (.make "1" "s" "t") where
  method_eq := rfl
  route_eq := by decide +kernel
  principal_eq := onePosted_holds.principal_eq
  event_eq := by decide +kernel

/-- A world in which no server answers. -/
def secluded : (q : World) → world.Answer q
  | .call _ => none
  | .connect _ _ => .error ""
  | .topics _ => .error ""
  | .lookUp _ => .error ""
  | .produce _ _ _ => .late
  | .freshId => "id"
  | .wallClock => .epoch
  | .clock => (0 : Nat)
  | .listen _ => .ok ()

end Sluice.Gateway
