import Sluice.Proofs.Gateway.Answers
import Sluice.Proofs.Gateway.Marking

/-!
# What an answer counts

On the routes that publish, an answer with the status 200 counts the events that were acknowledged,
one at least.  `Counted` tells where its number comes from: which events of the request were handed
to a sink, and what the sink said of them.

Of a batch no more are counted than were handed over, whatever the sink says.  Of an event of the
internal path so many are counted as the sink says, whatever that is.  So the number is bounded by
the events handed over unless the sink of the internal path speaks of more than one
(`Counted.le_or`).
-/

namespace Sluice.Gateway

open Dialogue

/-! ## Answers with a number -/

/-- A result that is answered with the status 200 is a number of events, and the answer gives it. -/
theorem acknowledges_ofResult {x : Except Fault UInt32} (h : (Response.ofResult x).status = 200) :
    ∃ n, x = .ok n ∧ 0 < n.toNat ∧ Acknowledges (.ofResult x) n := by
  cases x with
  | error f =>
    rw [Response.ofResult, status_ofRejection] at h
    exact absurd h (status_ofFault_ne f)
  | ok n =>
    by_cases h0 : n = 0
    · subst h0
      rw [Response.ofResult, refuses_ofCount_zero.1] at h
      cases h
    · have hne : n.toNat ≠ 0 := fun hn => h0 (UInt32.toNat_inj.1 hn)
      exact ⟨n, rfl, Nat.pos_of_ne_zero hne, acknowledges_ofCount h0⟩

/-! ## Where the number comes from -/

/-- A route has one path. -/
theorem path_of_ofPath? {path : String} {route : Route} (h : Route.ofPath? path = some route) :
    route.path = path := by
  simpa using List.find?_some h

/-- So many events of a request were handed to a sink, and so many are counted of them. -/
inductive Counted (s : InternalSettings) (r : Request) (k : Transcript protocol) :
    Nat → UInt32 → Prop where
  /-- The first events of its batch were handed over at once, and no more than these are counted. -/
  | metered {who events now batch said n} : Holds r who events →
    meteredBatches ((calls k).map (·.question)) = [batch] →
    List.Forall₂ (Stamped who now) (events.take batch.length) batch →
    ⟨.forward .metered batch, .ok said⟩ ∈ calls k → n.toNat = min said.toNat batch.length →
    Counted s r k batch.length n
  /-- Its event was handed over on the internal path, and what the sink says is counted. -/
  | internal {who e now e' n} : HoldsInternal r who e → Marked s who now e e' →
    calls k = [⟨.forward .internal [e'], .ok n⟩] → Counted s r k 1 n

section Counted

variable {s : InternalSettings} {r : Request} {k : Transcript protocol} {handed : Nat} {n : UInt32}

/-- No more events are counted than were handed over, unless the sink of the internal path says
so. -/
theorem Counted.le_or (h : Counted s r k handed n) :
    n.toNat ≤ handed ∨ r.path = "/v1/events/internal" ∧ handed = 1 ∧ 1 < n.toNat ∧
      ∃ e', calls k = [⟨.forward .internal [e'], .ok n⟩] := by
  cases h with
  | metered _ _ _ _ hn =>
    rw [hn]
    exact .inl (Nat.min_le_right _ _)
  | internal hholds _ hk =>
    obtain hlt | hle := Nat.lt_or_ge 1 n.toNat
    · exact .inr ⟨(path_of_ofPath? hholds.route_eq).symm, rfl, hlt, _, hk⟩
    · exact .inl hle

end Counted

theorem stamped_take (who : Principal) (now : Timestamp) (events : List Event) (j : Nat) :
    List.Forall₂ (Stamped who now)
      (events.take ((events.take j).map (stamp who now)).length)
      ((events.take j).map (stamp who now)) := by
  rw [List.length_map, List.length_take, ← List.take_take, List.take_length]
  exact stamped_map who now _

/-- An admission whose result is a number handed over what the permit covers, and the number is what
the sink said of it, but no more than that. -/
theorem Admitted.counted {who : Principal} {first : Event} {rest : List Event}
    {l : Transcript outside} {counts : List (Counter × UInt64)} {n : UInt32}
    (h : Admitted who first rest l counts (.ok n)) :
    ∃ granted said, Gateway.meteredBatches (l.map (·.question)) = [(first :: rest).take granted] ∧
      ⟨.forward .metered ((first :: rest).take granted), .ok said⟩ ∈ l ∧
      n.toNat = min said.toNat ((first :: rest).take granted).length := by
  cases h with
  | @acknowledged p _ _ said _ _ hn _ hk hr =>
    refine ⟨p.granted.toNat, said, meteredBatches_forward hn hr,
      List.mem_cons_of_mem _ (List.mem_append_right _ List.mem_cons_self), ?_⟩
    rw [hk, UInt32.toNat_min, toNat_covered]

/-! ## Requests -/

variable {s : InternalSettings} {r : Request}

/-- What a batch is answered with, if it is answered with a number. -/
theorem publish_counted (s : InternalSettings) {who : Principal} {events : List Event}
    (h : Holds r who events) :
    (publish who events).Ends fun k x => ∀ n, x = .ok n →
      ∃ handed, Counted s r k handed n := by
  obtain ⟨first, rest, rfl, -⟩ := h.exists_cons
  refine (publish_admitted who first rest).mono fun k x hx n hn => ?_
  subst hn
  obtain ⟨list, -, ⟨-, -, hit, -, hx⟩ | ⟨before, now, counts, htake, -, ha⟩⟩ := hx
  · cases hx
  · obtain ⟨granted, said, hbatch, hsaid, hcount⟩ := ha.counted
    have hevents : (stamp who now first :: before.map (stamp who now)).take granted =
        ((first :: rest).take (min granted (list.cutoff (first :: rest)))).map (stamp who now) := by
      rw [← List.take_take, htake, List.map_take, List.map_cons]
    rw [hevents] at hbatch hsaid hcount
    exact ⟨_, .metered h hbatch (stamped_take who now _ _) hsaid hcount⟩

/-- What an event of the internal path is answered with, if it is answered with the status 200. -/
theorem publishInternalBody_counted (s : InternalSettings) {who : Principal}
    (hpost : r.method = "POST") (hpath : Route.ofPath? r.path = some .internal)
    (hwho : r.principal = .ok who) :
    (publishInternalBody s who r.body).Ends fun k a => a.status = 200 →
      ∃ handed n, Acknowledges a n ∧ 0 < n.toNat ∧ Counted s r k handed n := by
  refine (publishInternalBody_ends s who r.body).mono fun k a ha hstatus => ?_
  obtain ⟨-, f, rfl, hne⟩ | ⟨e, -, now, x, he, -, hk, rfl⟩ := ha
  · rw [status_ofRejection] at hstatus
    exact absurd hstatus hne
  · obtain ⟨n, hx, hpos, hack⟩ := acknowledges_ofResult hstatus
    obtain rfl : x = .ok n := by
      cases x with
      | error f => cases hx
      | ok m => exact hx
    exact ⟨1, n, hack, hpos,
      .internal ⟨hpost, hpath, hwho, he⟩ (marked_stamp_mark s who now e) hk⟩

/-- What a request to publish is answered with, if it is answered with the status 200. -/
theorem publishRequest_counted (s : InternalSettings) {route : Route}
    (hpath : Route.ofPath? r.path = some route)
    (hroute : route = .event ∨ route = .batch ∨ route = .internal) (hpost : r.method = "POST") :
    (publishRequest s route r).Ends fun k a => a.status = 200 →
      ∃ handed n, Acknowledges a n ∧ 0 < n.toNat ∧ Counted s r k handed n := by
  obtain ⟨a, hne, ha⟩ | ⟨who, hinternal, hwho, ha⟩ | ⟨who, events, hholds, ha⟩ :=
    publishRequest_cases s hpost hpath hroute
  · rw [ha, ends_pure]
    exact fun hstatus => absurd hstatus hne
  · rw [ha]
    exact publishInternalBody_counted s hpost hinternal hwho
  · rw [ha, map_eq_pure_bind]
    simp only [ends_bind, ends_pure, List.append_nil]
    refine (publish_counted s hholds).mono fun k x hx hstatus => ?_
    obtain ⟨n, rfl, hpos, hack⟩ := acknowledges_ofResult hstatus
    obtain ⟨handed, hcounted⟩ := hx n rfl
    exact ⟨handed, n, hack, hpos, hcounted⟩

/-- Nothing but a post is taken where events are published, apart from the question what may be
sent. -/
theorem handle_of_not_post (s : InternalSettings) {route : Route}
    (hpath : Route.ofPath? r.path = some route) (hmethods : route.methods = ["POST"])
    (hpost : r.method ≠ "POST") :
    (handle s r).Ends fun k a => calls k = [] ∧ a.body = [] ∧
      (r.method ≠ "OPTIONS" → a.status = 405) := by
  unfold handle
  by_cases hoptions : r.method = "OPTIONS"
  · simp only [if_pos hoptions, ends_pure]
    exact ⟨rfl, rfl, fun h => absurd hoptions h⟩
  · have hcontains : route.methods.contains r.method = false := by
      rw [hmethods]
      simpa using hpost
    simp only [if_neg hoptions, hpath, hcontains, Bool.false_eq_true, if_false, ends_bind,
      ends_pure]
    exact ⟨rfl, ite_self _, fun _ => trivial⟩

/-- Whatever the sinks say, an answer with the status 200 on a route that publishes gives a number
of events, one at least, and no more than were handed over, unless the sink of the internal path
spoke of more.  There is none to count only if it was asked what may be sent. -/
theorem acknowledged_count (s : InternalSettings) (r : Request)
    (hpath : r.path = "/v1/events" ∨ r.path = "/v1/events/batch" ∨ r.path = "/v1/events/internal")
    (σ : Strategy protocol) (hstatus : ((handle s r).play σ []).2.status = 200) :
    (r.method = "OPTIONS" ∧ ((handle s r).play σ []).2.body = [] ∧
        calls ((handle s r).play σ []).1 = []) ∨
      ∃ handed n, Acknowledges ((handle s r).play σ []).2 n ∧ 0 < n.toNat ∧
        Counted s r ((handle s r).play σ []).1 handed n ∧
        (n.toNat ≤ handed ∨ r.path = "/v1/events/internal" ∧ handed = 1 ∧ 1 < n.toNat ∧
          ∃ e', calls ((handle s r).play σ []).1 = [⟨.forward .internal [e'], .ok n⟩]) := by
  obtain ⟨route, hof, hroute, hanswer, hmethods⟩ : ∃ route, Route.ofPath? r.path = some route ∧
      (route = .event ∨ route = .batch ∨ route = .internal) ∧
      route.answer s r = publishRequest s route r ∧ route.methods = ["POST"] := by
    obtain hpath | hpath | hpath := hpath
    · exact ⟨.event, by rw [hpath]; rfl, .inl rfl, rfl, rfl⟩
    · exact ⟨.batch, by rw [hpath]; rfl, .inr (.inl rfl), rfl, rfl⟩
    · exact ⟨.internal, by rw [hpath]; rfl, .inr (.inr rfl), rfl, rfl⟩
  by_cases hpost : r.method = "POST"
  · have hends : (handle s r).Ends fun k a => a.status = 200 →
        ∃ handed n, Acknowledges a n ∧ 0 < n.toNat ∧ Counted s r k handed n := by
      rw [handle_of_post s hof hpost hmethods, hanswer, map_eq_pure_bind]
      simp only [ends_bind, ends_pure, List.append_nil]
      exact publishRequest_counted s hof hroute hpost
    obtain ⟨handed, n, hack, hpos, hcounted⟩ := hends.played σ hstatus
    exact .inr ⟨handed, n, hack, hpos, hcounted, hcounted.le_or⟩
  · obtain ⟨hcalls, hbody, hother⟩ := (handle_of_not_post s hof hmethods hpost).played σ
    by_cases hoptions : r.method = "OPTIONS"
    · exact .inl ⟨hoptions, hbody, hcalls⟩
    · rw [hother hoptions] at hstatus
      cases hstatus

/-- The event of a group is published, and one event is counted. -/
theorem acknowledged_count_onePosted :
    onePosted.path = "/v1/events" ∧
      ((handle .default onePosted).play (fun _ => permitting) []).2.status = 200 ∧
      ∃ handed n, Acknowledges ((handle .default onePosted).play (fun _ => permitting) []).2 n ∧
        Counted .default onePosted ((handle .default onePosted).play (fun _ => permitting) []).1
          handed n ∧ 0 < n.toNat ∧ n.toNat ≤ handed := by
  have hpath : onePosted.path = "/v1/events" := by decide +kernel
  have hstatus : ((handle .default onePosted).play (fun _ => permitting) []).2.status = 200 := by
    rw [handle_of_holds .default onePosted_holds, play_map]
    rfl
  obtain ⟨hoptions, -⟩ | ⟨handed, n, hack, hpos, hcounted, hle | ⟨hinternal, -⟩⟩ :=
    acknowledged_count .default onePosted (.inl hpath) (fun _ => permitting) hstatus
  · exact absurd hoptions (by decide)
  · exact ⟨hpath, hstatus, handed, n, hack, hcounted, hpos, hle⟩
  · rw [hpath] at hinternal
    exact absurd hinternal (by decide)

/-- Answers that admit any event of the internal path, and count five for it. -/
def overcounting : (q : Question) → protocol.Answer q
  | .access (.token _) => .admitted
  | .outside (.forward .internal _) => .ok 5
  | q => refusing q

/-- One event is handed over on the internal path, and five are counted. -/
theorem oneInternal_overcounted :
    HoldsInternal oneInternal ⟨"group", ""⟩ (.make "1" "s" "t") ∧
      Acknowledges ((handle .default oneInternal).play (fun _ => overcounting) []).2 5 ∧
      ∃ e', calls ((handle .default oneInternal).play (fun _ => overcounting) []).1 =
        [⟨.forward .internal [e'], .ok 5⟩] := by
  rw [handle_of_holdsInternal oneInternal_holds (by decide), play_map]
  simp only [publishInternalBody, oneInternal_holds.event_eq]
  exact ⟨oneInternal_holds, ⟨rfl, rfl⟩, _, rfl⟩

end Sluice.Gateway
