import Mathlib.Algebra.Order.BigOperators.Group.List
import Sluice.Proofs.Dialogue.Pool
import Sluice.Proofs.Gateway.Requests
import Sluice.Proofs.Throttle

/-!
# What the internal route hands over

Any number of requests go on side by side and share one bucket, which counts exactly; everything
else they ask is answered in any way (`throttled`).  Each takes its reading of the clock before its
token, so the bucket sees the readings in any order.

A request of the internal route hands its event over once and only with a token
(`internal_of_reaches`), and the tokens that were given are those that the bucket admitted
(`givenTimes_perm`).  So few events are handed over for the readings of any window, as
`internal_route_throttled` says.
-/

namespace Sluice.Gateway

open Dialogue

/-! ## Tokens and events -/

/-- The reading for which an exchange gives a token. -/
def tokenTime? : Exchange protocol → Option Nat
  | ⟨.access (.token now), .admitted⟩ => some now
  | _ => none

/-- The readings for which tokens were given. -/
def tokenTimes (l : Transcript protocol) : List Nat := l.filterMap tokenTime?

/-- The events that a question hands over by the internal path. -/
def internalEventsIn : Question → List Event
  | .outside (.forward .internal events) => events
  | _ => []

/-- The events handed over by the internal path. -/
def internalEvents (l : List Question) : List Event := l.flatMap internalEventsIn

/-- How fast the bucket of the internal route fills. -/
def internalLimit (s : InternalSettings) : RateLimit ℚ := .perMinute s.perMinute

/-- The bucket of the internal route after checks at some times. -/
def internalBucket (s : InternalSettings) (start : Nat) (checked : List Nat) : Bucket ℚ :=
  Bucket.after (internalLimit s) (.full (internalLimit s) start) checked

/-- Requests that share the bucket of the internal route; the state is the times of its checks. -/
def throttled (s : InternalSettings) (start : Nat) :
    Rules protocol Request Response (List Nat) where
  dialogue := handle s
  mayBegin _ _ := True
  answers
    | checked, .access (.token now), verdict, checked' =>
      verdict = ((internalBucket s start checked).check (internalLimit s) now).1 ∧
        checked' = checked ++ [now]
    | checked, _, _, checked' => checked' = checked

@[simp] theorem tokenTimes_nil : tokenTimes [] = [] := rfl

@[simp] theorem tokenTimes_append (l k : Transcript protocol) :
    tokenTimes (l ++ k) = tokenTimes l ++ tokenTimes k :=
  List.filterMap_append

theorem mem_tokenTimes {l : Transcript protocol} {time : Nat}
    (h : ⟨.access (.token time), .admitted⟩ ∈ l) : time ∈ tokenTimes l :=
  List.mem_filterMap.2 ⟨_, h, rfl⟩

theorem internalEvents_append (l k : List Question) :
    internalEvents (l ++ k) = internalEvents l ++ internalEvents k :=
  List.flatMap_append

/-- What is handed over is handed over by calls. -/
theorem internalEvents_eq (l : Transcript protocol) : internalEvents (l.map (·.question)) =
    (calls l).flatMap fun x => internalEventsIn (.outside x.question) := by
  induction l with
  | nil => rfl
  | cons x l ih =>
    obtain ⟨q | a, x⟩ := x
    · cases q <;> exact congrArg (_ ++ ·) ih
    · exact ih

/-! ## One request -/

section Course

variable {s : InternalSettings} {c : Course protocol Request Response}

/-- Answers that give neither permits nor tokens. -/
def withoutTokens : (q : Question) → protocol.Answer q
  | .access (.token _) => .refused none
  | q => refusing q

theorem not_admitted_of_withoutTokens {l : Transcript protocol}
    (h : ∀ x ∈ l, x.answer = withoutTokens x.question) (time : Nat) :
    ⟨.access (.token time), .admitted⟩ ∉ l :=
  fun hmem => by cases h _ hmem

/-- A request of the internal route hands nothing over, or its event and with a token. -/
theorem internal_of_reaches (h : (handle s c.origin).Reaches c.past c.rest)
    (hpath : Route.ofPath? c.origin.path = some .internal) :
    internalEvents c.asked = [] ∨ ∃ time ∈ tokenTimes c.past, ∃ who e now,
      HoldsInternal c.origin who e ∧ internalEvents c.asked = [stamp who now (mark s e)] := by
  -- From here on no token is given: those there are were given before.
  obtain ⟨l, a, hl, hans⟩ := exists_end withoutTokens c.rest
  have hpart : internalEvents c.asked <+:
      internalEvents ((c.past ++ l).map (·.question)) := by
    obtain ⟨k, hk⟩ := Course.asked_part hl
    rw [← hk, internalEvents_append]
    exact List.prefix_append _ _
  rw [internalEvents_eq] at hpart
  cases (handle_ends s c.origin).of_reaches (h.trans hl) with
  | quiet hcalls =>
    rw [hcalls] at hpart
    exact .inl (List.prefix_nil.1 hpart)
  | admitted hholds _ _ => exact absurd hpath hholds.not_internal
  | @internal who e time now x hholds htoken hcalls =>
    rw [hcalls] at hpart
    have hmem := (List.mem_append.1 htoken).resolve_right (not_admitted_of_withoutTokens hans time)
    by_cases hnil : internalEvents c.asked = []
    · exact .inl hnil
    · have hone := hpart.eq_of_length_le (List.length_pos_iff.2 hnil)
      exact .inr ⟨time, mem_tokenTimes hmem, who, e, now, hholds, hone⟩

end Course

/-! ## All requests together -/

section Pool

variable {s : InternalSettings} {start : Nat} {p p' : Pool protocol Request Response (List Nat)}

/-- The readings that the bucket of the internal route admitted. -/
def admittedTimes (s : InternalSettings) (start : Nat) (checked : List Nat) : List Nat :=
  Bucket.admitted (internalLimit s) (.full (internalLimit s) start) checked

theorem admittedTimes_of_answers {checked checked' : List Nat} {q : Question}
    {a : protocol.Answer q} (h : (throttled s start).answers checked q a checked') :
    admittedTimes s start checked' = admittedTimes s start checked ++ tokenTimes [⟨q, a⟩] := by
  have hother (hone : tokenTimes [⟨q, a⟩] = []) (heq : checked' = checked) :
      admittedTimes s start checked' =
        admittedTimes s start checked ++ tokenTimes [⟨q, a⟩] := by
    rw [hone, heq, List.append_nil]
  cases q with
  | outside o => exact hother rfl h
  | access step =>
    cases step with
    | token now =>
      obtain ⟨rfl, rfl⟩ := h
      have hlast (verdict : Verdict) : tokenTimes [⟨.access (.token now), verdict⟩] =
          if verdict = .admitted then [now] else [] := by
        cases verdict <;> rfl
      rw [admittedTimes, Bucket.admitted_append, Bucket.admitted_cons, hlast]
      rfl
    | _ => exact hother rfl h

/-- The readings for which requests were given tokens. -/
def givenTimes (p : Pool protocol Request Response (List Nat)) : List Nat :=
  p.courses.flatMap fun c => tokenTimes c.past

/-- The tokens that requests were given are those that the bucket admitted. -/
theorem givenTimes_perm (h : Pool.Reachable (throttled s start) ⟨[], []⟩ p) :
    (givenTimes p).Perm (admittedTimes s start p.state) := by
  induction h with
  | refl => exact .nil
  | tail _ hstep ih =>
    cases hstep with
    | begins _ => simpa [givenTimes] using ih
    | @answered checked checked' before c after q next a _ _ ha =>
      rw [admittedTimes_of_answers ha]
      refine .trans ?_ (ih.append_right _)
      simp only [givenTimes, Course.told, List.flatMap_append, List.flatMap_cons,
        tokenTimes_append, List.append_assoc]
      exact List.perm_append_comm.append_left _ |>.append_left _
    | abandoned => simpa [givenTimes] using ih

/-- How many events a request of the internal route handed over for a token whose reading lies in a
window. -/
def handedWithin (t u : Nat) (c : Course protocol Request Response) : Nat :=
  if Route.ofPath? c.origin.path = some .internal ∧ ∃ v ∈ tokenTimes c.past, t ≤ v ∧ v ≤ u then
    (internalEvents c.asked).length
  else 0

/-- What a request handed over for a window is paid for by its tokens of the window. -/
theorem handedWithin_le {c : Course protocol Request Response}
    (h : (handle s c.origin).Reaches c.past c.rest) (t u : Nat) :
    handedWithin t u c ≤ ((tokenTimes c.past).filter fun v => t ≤ v ∧ v ≤ u).length := by
  unfold handedWithin
  split
  · rename_i hwindow
    obtain ⟨hpath, v, hv, hvw⟩ := hwindow
    have hpos : 0 < ((tokenTimes c.past).filter fun v => t ≤ v ∧ v ≤ u).length :=
      List.length_pos_of_mem (List.mem_filter.2 ⟨hv, by simpa using hvw⟩)
    obtain hnil | ⟨_, _, _, _, _, _, hone⟩ := internal_of_reaches h hpath
    · rw [hnil]
      exact Nat.zero_le _
    · rw [hone]
      exact hpos
  · exact Nat.zero_le _

theorem sum_handedWithin_le (h : Pool.Reachable (throttled s start) ⟨[], []⟩ p) (t u : Nat) :
    (p.courses.map (handedWithin t u)).sum ≤
      ((admittedTimes s start p.state).filter fun v => t ≤ v ∧ v ≤ u).length := by
  have hsound : p.Sound (throttled s start) := Pool.Reachable.sound h fun c hc => by cases hc
  have hgiven := ((givenTimes_perm h).filter fun v => t ≤ v ∧ v ≤ u).length_eq
  rw [← hgiven, givenTimes, List.filter_flatMap, List.length_flatMap]
  exact List.sum_le_sum fun c hc => handedWithin_le (hsound c hc) t u

end Pool

/-- However clocks are read, the bucket bounds what it admits.  What the internal route hands over
for the readings of any window is bounded too, whatever goes on side by side: at most one event, and
as many more as the configured rate allows for in the length of the window. -/
theorem internal_route_throttled (limit : RateLimit ℚ) (hr : 0 < limit.rate)
    (hwait : (TokenNumber.nanoseconds? (1 / limit.rate)).isSome) (start : Nat) (times : List Nat) :
    Bucket.Bounded limit start times ∧
      ∀ (s : InternalSettings) (p : Pool protocol Request Response (List Nat)),
        Pool.Reachable (throttled s start) ⟨[], []⟩ p →
          (∀ c ∈ p.courses, Route.ofPath? c.origin.path = some .internal →
            internalEvents c.asked = [] ∨
              ∃ time ∈ tokenTimes c.past, ∃ e, internalEvents c.asked = [e]) ∧
          ∀ t u, t ≤ u → ((p.courses.map (handedWithin t u)).sum : ℚ) ≤
            1 + max (s.perMinute.toNat : ℚ) 1 * (((u : ℚ) - t) / nanosPerSecond) / 60 := by
  refine ⟨Bucket.bounded_of_wait hr hwait start times, fun s p hp => ⟨fun c hc hpath => ?_, ?_⟩⟩
  · have hsound : p.Sound (throttled s start) := Pool.Reachable.sound hp fun c hc => by cases hc
    obtain hnil | ⟨time, htime, _, _, _, _, hone⟩ := internal_of_reaches (hsound c hc) hpath
    · exact .inl hnil
    · exact .inr ⟨time, htime, _, hone⟩
  · intro t u htu
    have hsum : ((p.courses.map (handedWithin t u)).sum : ℚ) ≤
        (((admittedTimes s start p.state).filter fun v => t ≤ v ∧ v ≤ u).length : ℚ) := by
      exact_mod_cast sum_handedWithin_le hp t u
    exact hsum.trans (Bucket.admitted_within s.perMinute _ p.state htu)

/-- Three readings, of which the second is older than the first. -/
def unordered : List Nat := [5000000000, 3000000000, 65000000000]

/-- Answers that give a token and have an event acknowledged. -/
def withToken : (q : Question) → protocol.Answer q
  | .access (.token _) => .admitted
  | .outside (.forward _ _) => .ok 1
  | q => refusing q

/-- What a request of the internal route was answered to its end. -/
def tokenRun : Transcript protocol × Response :=
  (handle .default oneInternal).play (fun _ => withToken) []

/-- That request alone, and the bucket that was checked once. -/
def onlyInternal : Pool protocol Request Response (List Nat) :=
  ⟨[0], [⟨oneInternal, tokenRun.1, .done tokenRun.2, false⟩]⟩

theorem past_tokenRun : tokenRun.1 = ((publishInternalBody .default ⟨"group", ""⟩
    oneInternal.body).play (fun _ => withToken) []).1 := by
  have hanswer := handle_of_holdsInternal (s := .default) oneInternal_holds (by decide)
  rw [tokenRun, hanswer, play_map]

theorem allowed_tokenRun : Pool.Allowed (throttled .default 0) [] tokenRun.1 [0] := by
  have hfirst : Verdict.admitted =
      ((internalBucket .default 0 []).check (internalLimit .default) 0).1 := by
    decide +kernel
  rw [past_tokenRun]
  simp only [publishInternalBody, oneInternal_holds.event_eq]
  exact .cons rfl (.cons ⟨hfirst, rfl⟩ (.cons rfl (.cons rfl (.cons rfl .nil))))

theorem onlyInternal_reachable : Pool.Reachable (throttled .default 0) ⟨[], []⟩ onlyInternal :=
  Pool.Reachable.ended .refl trivial (reaches_play _ _) allowed_tokenRun

theorem handedWithin_onlyInternal : onlyInternal.courses.map (handedWithin 0 0) = [1] := by
  have hpath := oneInternal_holds.route_eq
  have hpast := past_tokenRun
  simp only [publishInternalBody, oneInternal_holds.event_eq] at hpast
  have htimes : tokenTimes tokenRun.1 = [0] := by
    rw [hpast]
    rfl
  have hevents : (internalEvents (Course.asked
      ⟨oneInternal, tokenRun.1, .done tokenRun.2, false⟩)).length = 1 := by
    rw [hpast]
    rfl
  simp [onlyInternal, handedWithin, hpath, htimes, hevents]

/-- With one request in a minute, the older reading is refused and the one a minute later is
admitted; of the internal route one event is handed over at the start. -/
theorem internal_route_throttled_unordered :
    Bucket.verdicts (.perMinute 1) (.full (.perMinute 1) 0 : Bucket ℚ) unordered =
        [.admitted, .refused (some 60), .admitted] ∧
      Bucket.Bounded (.perMinute 1) 0 unordered ∧
      Pool.Reachable (throttled .default 0) ⟨[], []⟩ onlyInternal ∧
      onlyInternal.courses.map (handedWithin 0 0) = [1] ∧
      ((onlyInternal.courses.map (handedWithin 0 0)).sum : ℚ) ≤ 1 := by
  have hr : (0 : ℚ) < (RateLimit.perMinute 1).rate := Bucket.rate_perMinute_pos 1
  have hwait : (TokenNumber.nanoseconds? (1 / (RateLimit.perMinute 1 : RateLimit ℚ).rate)).isSome :=
    by decide +kernel
  obtain ⟨hbounded, hroute⟩ := internal_route_throttled (.perMinute 1) hr hwait 0 unordered
  refine ⟨by decide +kernel, hbounded, onlyInternal_reachable, handedWithin_onlyInternal, ?_⟩
  simpa using (hroute .default onlyInternal onlyInternal_reachable).2 0 0 (Nat.le_refl 0)

end Sluice.Gateway
