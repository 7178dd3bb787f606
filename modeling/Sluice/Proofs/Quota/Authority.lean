import Sluice.Proofs.Dialogue.Answering
import Sluice.Quota.Authority

/-!
# What the client of the quota authority does

The client gives a permit only when the authority answered with one, and never for more than was
asked for (`allocate_ends`).  It counts what it does itself, and nothing else (`Apart`): every
request and every release once, and every failure of one (`allocate_tallied`, `release_tallied`).
-/

namespace Sluice.Authority

open Dialogue

/-! ## Permits -/

/-- The authority answered a call with this permit. -/
def Answered (l : Transcript protocol) (said : Permit) : Prop :=
  ∃ call reply, ⟨.call call, some reply⟩ ∈ l ∧ reply.json Permit.record.reader = some said

theorem answer_of_answerFrom {url : Http.Url} {x : Option Http.Reply} {r : Http.Reply}
    (h : Http.answerFrom url x = .ok r) : x = some r := by
  unfold Http.answerFrom at h
  split at h
  · rename_i hx
    cases h
    exact (Option.filter_eq_some_iff.1 hx).1
  · cases h

theorem of_accepted {r reply : Http.Reply} (h : accepted r = .ok reply) : reply = r := by
  unfold accepted at h
  split at h
  · cases h
    rfl
  · split at h <;> cases h

theorem call_ends (c : Http.Call) :
    (call c).Ends fun l x => ∀ r, x = .ok r → l = [⟨.call c, some r⟩] := by
  simp only [call, ends_bind, ends_question, ends_pure]
  intro x r hr
  rw [answer_of_answerFrom hr]
  rfl

theorem post_ends (s : QuotaSettings) (path : String) (body : Json.Value) :
    (post s path body).Ends fun l x =>
      ∀ reply, x = .ok reply → ∃ call, ⟨.call call, some reply⟩ ∈ l := by
  unfold post
  split
  · rw [ends_pure]
    rintro reply ⟨⟩
  · rename_i url _
    rw [ends_bind]
    refine (call_ends (.post url body)).mono fun l x hx => ?_
    cases x with
    | error f =>
      rw [ends_pure]
      rintro reply ⟨⟩
    | ok r =>
      rw [ends_pure]
      intro reply hr
      obtain rfl := of_accepted hr
      exact ⟨.post url body, by simp [hx]⟩

theorem allocate_ends (s : QuotaSettings) (who : Principal) (subject : Subject) (n : UInt32) :
    (allocate s who subject n).Ends fun l x =>
      ∀ permit, x = .ok permit → ∃ said, Answered l said ∧ permit = capped n said := by
  simp only [allocate, tally, ends_bind, ends_question]
  intro _
  refine (post_ends s "/v1/permits/allocate" (allocateBody who subject n)).mono fun l x hl => ?_
  cases x with
  | error f =>
    simp only [ends_bind, ends_question, ends_pure]
    rintro _ permit ⟨⟩
  | ok reply =>
    obtain ⟨call, hc⟩ := hl reply rfl
    cases hs : reply.json Permit.record.reader with
    | none =>
      simp only [hs, ends_bind, ends_question, ends_pure]
      rintro _ permit ⟨⟩
    | some said =>
      simp only [hs, ends_pure]
      rintro permit ⟨⟩
      exact ⟨said, ⟨call, reply, by simp [hc], hs⟩, rfl⟩

/-- An authority at an address that can be called. -/
def loopback : QuotaSettings := ⟨"http://[::1]", 5000⟩

/-! ## What it counts -/

/-- The counters of the client are its own. -/
def Apart : Question → Prop
  | .call _ => True
  | .count c => c ≠ .denyListReloads

/-- Nothing is counted. -/
def Silent : Question → Prop
  | .call _ => True
  | .count _ => False

theorem Silent.apart {q : Question} (h : Silent q) : Apart q := by
  cases q with
  | call c => trivial
  | count c => exact absurd h id

theorem call_asks (c : Http.Call) : (call c).Asks Silent :=
  (asks_question.2 trivial).bind fun _ => asks_pure

theorem post_asks (s : QuotaSettings) (path : String) (body : Json.Value) :
    (post s path body).Asks Silent := by
  unfold post
  split
  · exact asks_pure
  · refine (call_asks _).bind fun x => ?_
    cases x <;> exact asks_pure

theorem tally_asks {c : Counter} (h : c ≠ .denyListReloads) : (tally c).Asks Apart :=
  asks_question.2 h

theorem allocate_asks (s : QuotaSettings) (who : Principal) (subject : Subject) (n : UInt32) :
    (allocate s who subject n).Asks Apart := by
  refine (tally_asks (by decide)).bind fun _ =>
    ((post_asks _ _ _).mono fun _ => Silent.apart).bind fun x => ?_
  cases x with
  | error f => exact (tally_asks (by decide)).bind fun _ => asks_pure
  | ok r =>
    cases hr : r.json Permit.record.reader with
    | none =>
      simp only [hr]
      exact (tally_asks (by decide)).bind fun _ => asks_pure
    | some p =>
      simp only [hr]
      exact asks_pure

theorem release_asks (s : QuotaSettings) (groupId owner : String) (subject : Subject)
    (n : UInt32) : (release s groupId owner subject n).Asks Apart := by
  refine (tally_asks (by decide)).bind fun _ =>
    ((post_asks _ _ _).mono fun _ => Silent.apart).bind fun x => ?_
  cases x with
  | error f => exact (tally_asks (by decide)).bind fun _ => asks_pure
  | ok _ => exact asks_pure

theorem isHealthy_asks (s : QuotaSettings) : (isHealthy s).Asks Apart := by
  unfold isHealthy
  split
  · exact asks_pure
  · refine ((call_asks _).mono fun _ => Silent.apart).bind fun x => ?_
    cases x <;> exact asks_pure

/-! ### How often -/

/-- The counters that are counted up. -/
def tallied (l : Transcript protocol) : List Counter :=
  l.filterMap fun
    | ⟨.count c, _⟩ => some c
    | _ => none

@[simp] theorem tallied_nil : tallied [] = [] := rfl

@[simp] theorem tallied_append (l k : Transcript protocol) :
    tallied (l ++ k) = tallied l ++ tallied k := List.filterMap_append

@[simp] theorem tallied_cons_count (c : Counter) (a : Unit) (l : Transcript protocol) :
    tallied (⟨.count c, a⟩ :: l) = c :: tallied l := rfl

theorem tallied_of_silent {l : Transcript protocol} (h : ∀ x ∈ l, Silent x.question) :
    tallied l = [] := by
  refine List.filterMap_eq_nil_iff.2 fun x hx => ?_
  obtain ⟨q, a⟩ := x
  cases q with
  | call c => rfl
  | count c => exact absurd (h _ hx) id

theorem post_tallied (s : QuotaSettings) (path : String) (body : Json.Value) :
    (post s path body).Ends fun l _ => tallied l = [] :=
  (post_asks s path body).ends.mono fun _ _ => tallied_of_silent

/-- A request for a permit is counted, and its failure too. -/
theorem allocate_tallied (s : QuotaSettings) (who : Principal) (subject : Subject) (n : UInt32) :
    (allocate s who subject n).Ends fun l x => tallied l = .permitsRequested ::
      match x with
      | .ok _ => []
      | .error _ => [.permitErrors] := by
  simp only [allocate, tally, ends_bind, ends_question]
  intro _
  refine (post_tallied s _ _).mono fun l x hl => ?_
  cases x with
  | error f =>
    simp only [ends_bind, ends_question, ends_pure]
    exact fun _ => by simp [hl]
  | ok reply =>
    cases hs : reply.json Permit.record.reader with
    | none =>
      simp only [hs, ends_bind, ends_question, ends_pure]
      exact fun _ => by simp [hl]
    | some said =>
      simp only [hs, ends_pure]
      simp [hl]

/-- A release is counted, and its failure too. -/
theorem release_tallied (s : QuotaSettings) (groupId owner : String) (subject : Subject)
    (n : UInt32) :
    (release s groupId owner subject n).Ends fun l x => tallied l = .releases ::
      match x with
      | .ok _ => []
      | .error _ => [.releaseErrors] := by
  simp only [release, tally, ends_bind, ends_question]
  intro _
  refine (post_tallied s _ _).mono fun l x hl => ?_
  cases x with
  | error f =>
    simp only [ends_bind, ends_question, ends_pure]
    exact fun _ => by simp [hl]
  | ok _ =>
    rw [ends_pure]
    simp [hl]

end Sluice.Authority
