import Sluice.Proofs.Event.Body
import Sluice.Proofs.Gateway.Requests

/-!
# What an answer tells

A client knows of its batch what the answer says.  `Told` lists the answers to a request that posts
events, each with the calls that were made before it: a refusal for the publisher, the body or the
deny-list comes before any call, and after the request for a permit the answer tells what became of
the units (`ToldOfPermit`).  So a client that is told to try again published nothing that was
acknowledged, and one that is given a count has that count on the books.

`answer_tells` is the main statement.  It goes through the stages at which a request can fail, each
of which has its own kind of fault, and through `Admitted` for the calls.
-/

namespace Sluice.Gateway

open Dialogue

/-! ## Answers -/

/-- The answer is a refusal with a status and a code. -/
def Refuses (a : Response) (status : Nat) (code : String) : Prop :=
  a.status = status ∧
    ∃ body : ErrorBody, body.code = code ∧ a.body = Text.bytes body.toJson.render

/-- The answer gives the number of events acknowledged. -/
def Acknowledges (a : Response) (k : UInt32) : Prop :=
  a.status = 200 ∧ a.body = Text.bytes (Acknowledged.toJson ⟨k⟩).render

/-- What an answer tells of a permit for `n` events of a publisher, with the calls made for them. -/
inductive ToldOfPermit (who : Principal) (source : String) (n : UInt32) (a : Response) :
    Transcript outside → Prop where
  | unavailable {f} : (∀ reason, f ≠ .quotaInvalidRequest reason) → Refuses a 503 "QUOTA_001" →
    ToldOfPermit who source n a [⟨.allocate who .publishEvents n, .error f⟩]
  /-- The quota authority does not accept the request. -/
  | unaccepted {reason} : Refuses a 400 "QUOTA_002" →
    ToldOfPermit who source n a
      [⟨.allocate who .publishEvents n, .error (.quotaInvalidRequest reason)⟩]
  | exhausted {p notice counts} : p.granted = 0 → Notified who p source notice counts →
    Refuses a 429 "QUOTA_003" →
    ToldOfPermit who source n a (⟨.allocate who .publishEvents n, .ok p⟩ :: notice)
  /-- The sink fails, and the whole permit goes back. -/
  | failed {p notice counts batch f x} : p.granted ≠ 0 → Notified who p source notice counts →
    batch.length = min n.toNat p.granted.toNat → Refuses a 502 "SINK_001" →
    ToldOfPermit who source n a (⟨.allocate who .publishEvents n, .ok p⟩ :: (notice ++
      [⟨.forward .metered batch, .error f⟩,
        ⟨.release who.groupId p.owner .publishEvents p.granted, x⟩]))
  /-- The sink takes nothing, and the whole permit goes back. -/
  | untaken {p notice counts batch x} : p.granted ≠ 0 → Notified who p source notice counts →
    batch.length = min n.toNat p.granted.toNat → Refuses a 503 "SINK_002" →
    ToldOfPermit who source n a (⟨.allocate who .publishEvents n, .ok p⟩ :: (notice ++
      [⟨.forward .metered batch, .ok 0⟩,
        ⟨.release who.groupId p.owner .publishEvents p.granted, x⟩]))
  /-- The sink takes some events, and what is left of the permit goes back. -/
  | taken {p notice counts batch said k units release} : 0 < k.toNat →
    k.toNat = min said.toNat batch.length → units.toNat + k.toNat = p.granted.toNat →
    Notified who p source notice counts → batch.length = min n.toNat p.granted.toNat →
    Released who p units release → Acknowledges a k →
    ToldOfPermit who source n a (⟨.allocate who .publishEvents n, .ok p⟩ :: (notice ++
      ⟨.forward .metered batch, .ok said⟩ :: release))

/-- What an answer tells, with the deny-lists that were read and the calls that were made. -/
inductive Told (r : Request) (a : Response) : List DenyList → Transcript outside → Prop where
  /-- The request does not say who it is from. -/
  | anonymous {reason} : r.principal = .error (.auth reason) → Refuses a 401 "AUTH_001" →
    Told r a [] []
  /-- The publisher is none that there can be. -/
  | misnamed {code reason} : r.principal = .error (.validation code reason) →
    Refuses a 400 code.text → Told r a [] []
  | malformed {who route code reason} : r.principal = .ok who →
    Route.ofPath? r.path = some route → eventsOf route r.body = .error (.validation code reason) →
    Refuses a 400 code.text → Told r a [] []
  /-- The first event matches a rule. -/
  | denied {who events list} : Holds r who events → list.cutoff events = 0 →
    Refuses a 403 "DENY_001" → Told r a [list] []
  /-- A permit is asked for the events before the first that matches. -/
  | submitted {who first rest list n l} : Holds r who (first :: rest) → n ≠ 0 →
    n.toNat = list.cutoff (first :: rest) → ToldOfPermit who first.source n a l → Told r a [list] l

theorem refuses_ofRejection (r : Rejection) :
    Refuses (.ofRejection r) r.status r.body.code := by
  refine ⟨status_ofRejection r, r.body, rfl, ?_⟩
  unfold Response.ofRejection
  split <;> rfl

theorem refuses_ofResult {f : Fault} {status : Nat} {code : String}
    (hs : (Rejection.ofFault f).status = status) (hc : (Rejection.ofFault f).body.code = code) :
    Refuses (.ofResult (.error f)) status code := by
  subst hs hc
  exact refuses_ofRejection _

theorem refuses_ofCount_zero : Refuses (.ofCount 0) 503 "SINK_002" :=
  refuses_ofRejection .nothingAccepted

theorem acknowledges_ofCount {k : UInt32} (h : k ≠ 0) : Acknowledges (.ofCount k) k := by
  unfold Response.ofCount
  rw [if_neg h]
  exact ⟨rfl, rfl⟩

/-! ## What may go wrong before any call -/

theorem principal_eq_error {r : Request} {f : Fault} (h : r.principal = .error f) :
    (∃ reason, f = .auth reason) ∨ ∃ reason, f = .validation .invalidFormat reason := by
  unfold Request.principal Principal.ofHeaders at h
  dsimp only at h
  split at h
  · cases h
    exact .inl ⟨_, rfl⟩
  · split at h
    · cases h
      exact .inr ⟨_, rfl⟩
    · cases h

/-- A body is only ever refused for its form. -/
theorem eventsOf_eq_error {route : Route} {body : List UInt8} {f : Fault}
    (h : eventsOf route body = .error f) : ∃ code reason, f = .validation code reason := by
  have single (h : (do return [← Body.event body]) = Except.error f) :
      ∃ code reason, f = .validation code reason := by
    cases he : Body.event body with
    | error g =>
      rw [he] at h
      cases h
      exact Body.event_eq_error he
    | ok e =>
      rw [he] at h
      cases h
  unfold eventsOf Body.checkSize at h
  split at h
  · cases h
    exact ⟨_, _, rfl⟩
  · cases route with
    | batch => exact Body.batch_eq_error h
    | event => exact single h
    | internal => exact single h
    | health => exact single h
    | ready => exact single h
    | live => exact single h

/-! ## What becomes of a permit -/

section Admitted

variable {who : Principal} {first : Event} {rest : List Event} {l : Transcript outside}
  {counts : List (Counter × UInt64)} {x : Except Fault UInt32}

/-- A permit covers so many of the events that it was asked for. -/
theorem length_granted (p : Permit) (events : List Event) :
    (events.take p.granted.toNat).length =
      min (requestedCount events).toNat p.granted.toNat := by
  have hp := p.granted.toNat_lt
  rw [List.length_take, toNat_requestedCount]
  omega

theorem Released.full {p : Permit} {units : UInt32} (h : Released who p units l)
    (hu : units ≠ 0) : ∃ x, l = [⟨.release who.groupId p.owner subject units, x⟩] := by
  cases h with
  | nothing h0 => exact absurd h0 hu
  | once _ => exact ⟨_, rfl⟩

theorem Admitted.told (h : Admitted who first rest l counts x) :
    ToldOfPermit who first.source (requestedCount (first :: rest)) (.ofResult x) l := by
  cases h with
  | @refused f =>
    cases f with
    | quotaInvalidRequest reason => exact .unaccepted (refuses_ofResult rfl rfl)
    | _ => exact .unavailable (fun _ => Fault.noConfusion) (refuses_ofResult rfl rfl)
  | exhausted hn h0 => exact .exhausted h0 hn (refuses_ofResult rfl rfl)
  | @failed p _ _ f _ hn h0 hr =>
    obtain ⟨y, rfl⟩ := hr.full h0
    have hstatus : (Rejection.ofFault f.asForwarding).status = 502 := by cases f <;> rfl
    have hcode : (Rejection.ofFault f.asForwarding).body.code = "SINK_001" := by cases f <;> rfl
    exact .failed h0 hn (length_granted p _) (refuses_ofResult hstatus hcode)
  | @acknowledged p _ _ n k _ hn h0 hk hr =>
    have hlen := length_granted p (first :: rest)
    have hkn : k.toNat = min n.toNat ((first :: rest).take p.granted.toNat).length := by
      rw [hk, UInt32.toNat_min, toNat_covered]
    have hle := length_covered_le p (first :: rest)
    have hunits := toNat_unused p k (by omega)
    have hpos : 0 < ((first :: rest).take p.granted.toNat).length := by
      have hg : p.granted.toNat ≠ 0 := fun h => h0 (UInt32.toNat_inj.1 h)
      rw [List.length_take, List.length_cons]
      omega
    by_cases hk0 : k = 0
    · subst hk0
      have hn0 : n = 0 := by
        rw [← UInt32.toNat_inj]
        change 0 = _ at hkn
        show n.toNat = 0
        omega
      have hfull : unused p 0 = p.granted := UInt32.toNat_inj.1 hunits
      rw [hfull] at hr
      obtain ⟨y, rfl⟩ := hr.full h0
      subst hn0
      exact .untaken h0 hn hlen refuses_ofCount_zero
    · have hk1 : k.toNat ≠ 0 := fun h => hk0 (UInt32.toNat_inj.1 h)
      exact .taken (Nat.pos_of_ne_zero hk1) hkn hunits hn hlen hr (acknowledges_ofCount hk0)

end Admitted

/-! ## Whole requests -/

theorem ToldOfPermit.withHeaders {who : Principal} {source : String} {n : UInt32} {a : Response}
    {l : Transcript outside} (h : ToldOfPermit who source n a l)
    (headers : List (String × String)) : ToldOfPermit who source n { a with headers } l := by
  cases h with
  | unavailable hf ha => exact .unavailable hf ha
  | unaccepted ha => exact .unaccepted ha
  | exhausted h0 hn ha => exact .exhausted h0 hn ha
  | failed h0 hn hlen ha => exact .failed h0 hn hlen ha
  | untaken h0 hn hlen ha => exact .untaken h0 hn hlen ha
  | taken hk hkn hunits hn hlen hr ha => exact .taken hk hkn hunits hn hlen hr ha

theorem ToldOfPermit.status_mem {who : Principal} {source : String} {n : UInt32} {a : Response}
    {l : Transcript outside} (h : ToldOfPermit who source n a l) :
    a.status ∈ [200, 400, 401, 403, 429, 502, 503] := by
  cases h with
  | unavailable _ ha => simp [ha.1]
  | unaccepted ha => simp [ha.1]
  | exhausted _ _ ha => simp [ha.1]
  | failed _ _ _ ha => simp [ha.1]
  | untaken _ _ _ ha => simp [ha.1]
  | taken _ _ _ _ _ _ ha => simp [ha.1]

section Told

variable {r : Request} {a : Response} {lists : List DenyList} {l : Transcript outside}

theorem Told.withHeaders (h : Told r a lists l) (headers : List (String × String)) :
    Told r { a with headers } lists l := by
  cases h with
  | anonymous hwho ha => exact .anonymous hwho ha
  | misnamed hwho ha => exact .misnamed hwho ha
  | malformed hwho hpath hevents ha => exact .malformed hwho hpath hevents ha
  | denied hholds h0 ha => exact .denied hholds h0 ha
  | submitted hholds h0 hn hp => exact .submitted hholds h0 hn (hp.withHeaders headers)

theorem Told.status_mem (h : Told r a lists l) :
    a.status ∈ [200, 400, 401, 403, 429, 502, 503] := by
  cases h with
  | anonymous _ ha => simp [ha.1]
  | misnamed _ ha => simp [ha.1]
  | malformed _ _ _ ha => simp [ha.1]
  | denied _ _ ha => simp [ha.1]
  | submitted _ _ _ hp => exact hp.status_mem

end Told

variable {r : Request} {who : Principal}

theorem publishRequest_told (s : InternalSettings) {route : Route}
    (hpath : Route.ofPath? r.path = some route) (hroute : route = .event ∨ route = .batch)
    (hpost : r.method = "POST") (hlen : r.body.length ≤ bufferLimit) :
    (publishRequest s route r).Ends fun l a => Told r a (consulted l) (calls l) := by
  unfold publishRequest
  cases hwho : r.principal with
  | error f =>
    simp only [ends_pure]
    obtain ⟨reason, rfl⟩ | ⟨reason, rfl⟩ := principal_eq_error hwho
    · exact .anonymous hwho (refuses_ofRejection _)
    · exact .misnamed hwho (refuses_ofRejection _)
  | ok who =>
    simp only [if_neg (Nat.not_lt.2 hlen), if_neg (ne_internal_of_public hroute), publishBody]
    cases hevents : eventsOf route r.body with
    | error f =>
      simp only [ends_pure]
      obtain ⟨code, reason, rfl⟩ := eventsOf_eq_error hevents
      exact .malformed hwho hpath hevents (refuses_ofRejection _)
    | ok events =>
      obtain ⟨first, rest, rfl⟩ := List.exists_cons_of_length_pos (length_eventsOf hevents).1
      have hholds : Holds r who (first :: rest) :=
        ⟨hpost, ⟨route, hpath, hroute, hevents⟩, hwho, hlen⟩
      simp only [ends_bind, ends_pure, List.append_nil]
      refine (publish_admitted who first rest).mono fun l x h => ?_
      obtain ⟨list, hlist, ⟨h0, hl, hit, -, rfl⟩ | ⟨before, now, counts, htake, -, ha⟩⟩ := h
      · rw [hlist, hl]
        exact .denied hholds h0 (refuses_ofResult rfl rfl)
      · have hj : (first :: before).length = list.cutoff (first :: rest) := by
          rw [← htake]
          exact List.length_take_of_le DenyList.cutoff_le
        have hle : list.cutoff (first :: rest) ≤ (first :: rest).length := DenyList.cutoff_le
        have hmost : (first :: rest).length ≤ 1000 := (length_eventsOf hevents).2
        have hn : (requestedCount (stamp who now first :: before.map (stamp who now))).toNat =
            list.cutoff (first :: rest) := by
          rw [toNat_requestedCount, ← List.map_cons, List.length_map]
          omega
        rw [hlist]
        refine .submitted hholds (fun h0 => ?_) hn ha.told
        rw [h0, ← hj] at hn
        cases hn

/-- What is posted is answered by what becomes of it: whatever the quota authority and the sink
answer, the client is told which of them was asked what, and with which result. -/
theorem answer_tells (s : InternalSettings) (r : Request) (hpost : r.method = "POST")
    (hpath : r.path = "/v1/events" ∨ r.path = "/v1/events/batch")
    (hlen : r.body.length ≤ Body.byteLimit) (σ : Strategy protocol) :
    Told r ((handle s r).play σ []).2 (consulted ((handle s r).play σ []).1)
        (calls ((handle s r).play σ []).1) ∧
      ((handle s r).play σ []).2.status ∈ [200, 400, 401, 403, 429, 502, 503] := by
  obtain ⟨route, hof, hroute⟩ : ∃ route, Route.ofPath? r.path = some route ∧
      (route = .event ∨ route = .batch) := by
    obtain hpath | hpath := hpath
    · exact ⟨.event, by rw [hpath]; rfl, .inl rfl⟩
    · exact ⟨.batch, by rw [hpath]; rfl, .inr rfl⟩
  have hanswer : route.answer s r = publishRequest s route r ∧ route.methods = ["POST"] := by
    obtain rfl | rfl := hroute
    · exact ⟨rfl, rfl⟩
    · exact ⟨rfl, rfl⟩
  have hends : (handle s r).Ends fun l a => Told r a (consulted l) (calls l) := by
    rw [handle_of_post s hof hpost hanswer.2, hanswer.1, map_eq_pure_bind]
    simp only [ends_bind, ends_pure, List.append_nil]
    refine (publishRequest_told s hof hroute hpost ?_).mono fun l a h => h.withHeaders _
    exact Nat.le_trans hlen (by decide)
  exact ⟨hends.played σ, (hends.played σ).status_mem⟩

/-- Answers that permit five events and acknowledge one. -/
def permitting : (q : Question) → protocol.Answer q
  | .outside (.allocate _ _ _) => .ok fivePermitted
  | .outside (.forward _ _) => .ok 1
  | q => refusing q

/-- The event of a group is published, and the answer tells so. -/
theorem answer_tells_onePosted :
    onePosted.method = "POST" ∧ onePosted.path = "/v1/events" ∧
      onePosted.body.length ≤ Body.byteLimit ∧
      Holds onePosted ⟨"group", ""⟩ [.make "1" "s" "t"] ∧
      Told onePosted ((handle .default onePosted).play (fun _ => permitting) []).2
        (consulted ((handle .default onePosted).play (fun _ => permitting) []).1)
        (calls ((handle .default onePosted).play (fun _ => permitting) []).1) :=
  have hpath : onePosted.path = "/v1/events" := by decide +kernel
  have hlen : onePosted.body.length ≤ Body.byteLimit := by decide
  ⟨rfl, hpath, hlen, onePosted_holds,
    (answer_tells .default onePosted rfl (.inl hpath) hlen fun _ => permitting).1⟩

end Sluice.Gateway
