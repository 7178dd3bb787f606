import Sluice.Gateway.Process
import Sluice.Proofs.Broker.Producer
import Sluice.Proofs.Gateway.Admission
import Sluice.Proofs.Quota.Authority

/-!
# What leaves the deny-list alone

The deny-list in force, the counter of its loads and its health are set by loads only.  No
collaborator and no step of a request touches them, and a request reads the list once at most:
`Apart` is the kind of step that does neither, and `Steady` allows one reading.
-/

namespace Sluice

open Dialogue

/-! ## Kinds of steps -/

namespace Gateway

/-- The step neither reads the deny-list nor sets what its loads set. -/
def Access.Apart : Access → Prop
  | .denyList | .install _ => False
  | .count c _ => c ≠ .denyListReloads
  | .note c _ => c ≠ .denyList
  | _ => True

/-- The question does not go to the deny-list. -/
def Question.Apart : Question → Prop
  | .outside _ => True
  | .access a => a.Apart

/-- The errand does not go to the deny-list, and nobody listens for requests. -/
def Errand.Apart : Errand → Prop
  | .world (.listen _) => False
  | .world _ => True
  | .access a => a.Apart

end Gateway

/-! ## Collaborators -/

namespace Gateway

theorem authorityAnswer_asks {q : Authority.Question} (h : Authority.Apart q) :
    (authorityAnswer q : Task _).Asks Errand.Apart := by
  cases q with
  | call c => exact asks_question.2 trivial
  | count c => exact asks_question.2 h

theorem brokerAnswer_asks {s : BrokerSettings} {q : Broker.Question} (h : Broker.Apart s q) :
    (brokerAnswer q : Task _).Asks Errand.Apart := by
  cases q with
  | count c n => exact asks_question.2 h
  | _ => exact asks_question.2 trivial

theorem collaborator_asks (s : Settings) (q : Outside) :
    (collaborator s q : Task _).Asks Errand.Apart := by
  cases q with
  | allocate who subject n =>
    exact (Authority.allocate_asks _ who subject n).run fun _ => authorityAnswer_asks
  | release groupId owner subject n =>
    exact (Authority.release_asks _ groupId owner subject n).run fun _ => authorityAnswer_asks
  | forward origin events =>
    exact (Broker.produce_asks _ origin events).run fun _ => brokerAnswer_asks
  | freshId => exact asks_question.2 trivial
  | wallClock => exact asks_question.2 trivial
  | clock => exact asks_question.2 trivial

theorem probe_asks (s : Settings) : (probe s : Task Unit).Asks Errand.Apart := by
  refine ((Broker.isReachable_asks s.broker).run fun _ => brokerAnswer_asks).bind fun _ => ?_
  refine (asks_question.2 ?_).bind fun _ => ?_
  · exact Component.noConfusion
  refine ((Authority.isHealthy_asks s.quota).run fun _ => authorityAnswer_asks).bind fun _ => ?_
  exact asks_question.2 Component.noConfusion

/-! ## Requests -/

/-- The question goes to a collaborator, or adds to a counter other than that of the loads. -/
def Question.Bills : Question → Prop
  | .outside _ => True
  | .access (.count c _) => c ≠ .denyListReloads
  | _ => False

theorem Question.Bills.apart {q : Question} (h : q.Bills) : q.Apart := by
  cases q with
  | outside o => trivial
  | access a => cases a <;> first | exact h | exact absurd h id

theorem count_asks {c : Counter} {n : UInt64} (h : c ≠ .denyListReloads) :
    (count c n).Asks Question.Bills :=
  asks_question.2 h

theorem forward_asks (origin : Origin) (events : List Event) :
    (forward origin events).Asks Question.Bills :=
  asks_question.2 trivial

theorem notifyOwner_asks (who : Principal) (permit : Permit) (source : String) :
    (notifyOwner who permit source).Asks Question.Bills := by
  unfold notifyOwner
  split
  · refine (asks_question.2 trivial).bind fun _ => (forward_asks _ _).bind fun x => ?_
    cases x with
    | ok _ => exact count_asks (by decide)
    | error _ => exact count_asks (by decide)
  · exact asks_pure

theorem releaseUnused_asks (who : Principal) (permit : Permit) (units : UInt32) :
    (releaseUnused who permit units).Asks Question.Bills := by
  unfold releaseUnused
  split
  · exact asks_pure
  · exact (asks_question.2 trivial).bind fun _ => asks_pure

theorem forwardCovered_asks (who : Principal) (permit : Permit) (events : List Event) :
    (forwardCovered who permit events).Asks Question.Bills := by
  refine (forward_asks _ _).bind fun x => ?_
  cases x with
  | error _ => exact (releaseUnused_asks _ _ _).bind fun _ => asks_pure
  | ok _ => exact (releaseUnused_asks _ _ _).bind fun _ => asks_pure

theorem forwardGranted_asks (who : Principal) (permit : Permit) (events : List Event) :
    (forwardGranted who permit events).Asks Question.Bills := by
  unfold forwardGranted
  split
  · exact (count_asks (by decide)).bind fun _ => forwardCovered_asks _ _ _
  · exact forwardCovered_asks _ _ _

theorem admitBatch_asks (who : Principal) (events : List Event) :
    (admitBatch who events).Asks Question.Bills := by
  cases events with
  | nil => exact asks_pure
  | cons first rest =>
    refine ((asks_question.2 trivial).bind fun _ => asks_pure).bind fun x => ?_
    cases x with
    | error _ => exact asks_pure
    | ok permit =>
      refine (notifyOwner_asks _ _ _).bind fun _ => ?_
      split
      · exact (count_asks (by decide)).bind fun _ =>
          (count_asks (by decide)).bind fun _ => asks_pure
      · exact forwardGranted_asks _ _ _

theorem publishAllowed_asks (who : Principal) (start : Nat) (events : List Event) :
    (publishAllowed who start events).Asks Question.Apart :=
  (asks_question.2 trivial).bind fun _ =>
    ((admitBatch_asks _ _).mono fun _ => Question.Bills.apart).bind fun _ =>
    (asks_question.2 trivial).bind fun _ => (asks_question.2 trivial).bind fun _ => asks_pure

theorem publishInternal_asks (s : InternalSettings) (who : Principal) (e : Event) :
    (publishInternal s who e).Asks Question.Bills :=
  (count_asks (by decide)).bind fun _ => (asks_question.2 trivial).bind fun _ =>
    (forward_asks _ _).bind fun _ => asks_pure

theorem publishInternalBody_asks (s : InternalSettings) (who : Principal) (body : List UInt8) :
    (publishInternalBody s who body).Asks Question.Apart := by
  refine (asks_question.2 trivial).bind fun _ => (asks_question.2 trivial).bind fun verdict => ?_
  cases verdict with
  | refused wait =>
    exact ((count_asks (by decide)).mono fun _ => Question.Bills.apart).bind fun _ => asks_pure
  | admitted =>
    dsimp only
    split
    · exact asks_pure
    · exact ((publishInternal_asks _ _ _).mono fun _ => Question.Bills.apart).bind fun _ =>
        asks_pure

end Gateway

end Sluice
