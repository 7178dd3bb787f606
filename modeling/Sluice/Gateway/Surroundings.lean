import Sluice.Broker.Producer
import Sluice.DenyList.Filter
import Sluice.Dialogue
import Sluice.Health
import Sluice.Metrics.Basic
import Sluice.Quota.Principal
import Sluice.Throttle

/-!
# What serving a request asks for

Serving a request asks the collaborators of the gateway (`Outside`): the quota authority, the sink
and the clocks.  It also asks for and changes the state that all requests share (`State`): the
deny-list in force, the counters, the health of the components, the bucket of the internal route
and the client of the sink.  Every question is one step, between which other requests may take
theirs.

`State.access` takes a step on the state, `State.answer` answers the questions of a request that
is served alone.
-/

namespace Sluice.Gateway

/-! ## Questions -/

/-- The questions to the collaborators. -/
inductive Outside where
  /-- A permit for so many units. -/
  | allocate (who : Principal) (subject : Subject) (count : UInt32)
  /-- The release of so many units of an owner in a group. -/
  | release (groupId owner : String) (subject : Subject) (count : UInt32)
  /-- To forward events to the sink by one of its paths; the answer is how many it acknowledged. -/
  | forward (origin : Origin) (events : List Event)
  /-- An identity that was never used. -/
  | freshId
  | wallClock
  /-- Nanoseconds of a clock that never goes back. -/
  | clock
deriving DecidableEq

/-- The questions to the collaborators and their answers. -/
abbrev outside : Protocol where
  Question := Outside
  Answer
    | .allocate _ _ _ => Except Fault Permit
    | .release _ _ _ _ => Except Fault Unit
    | .forward _ _ => Except Fault UInt32
    | .freshId => String
    | .wallClock => Timestamp
    | .clock => Nat

/-- One step on the state that all requests share. -/
inductive Access where
  /-- To add to a counter. -/
  | count (counter : Counter) (n : UInt64)
  /-- To note the milliseconds of a batch. -/
  | observe (time : UInt64)
  /-- To note the milliseconds of a write to the sink. -/
  | observeSink (time : UInt64)
  /-- The deny-list in force. -/
  | denyList
  /-- To put a deny-list that was loaded in force. -/
  | install (list : DenyList)
  /-- A token of the internal route at a time. -/
  | token (now : Nat)
  /-- The health of the components. -/
  | health
  /-- To note the health of a component. -/
  | note (component : Component) (state : ComponentState)
  | metrics
  /-- The client of the sink, if one is kept. -/
  | client
  /-- To keep this client of the sink from now on, or none. -/
  | keep (client : Option Broker.Client)

/-- What a step on the state answers. -/
abbrev Access.Answer : Access → Type
  | .denyList => DenyList
  | .token _ => Verdict
  | .health => Health
  | .metrics => Metrics
  | .client => Option Broker.Client
  | .count _ _ | .observe _ | .observeSink _ | .install _ | .note _ _ | .keep _ => Unit

/-- The questions of a request. -/
inductive Question where
  /-- A question to a collaborator. -/
  | outside (question : Outside)
  /-- A step on the state. -/
  | access (step : Access)

/-- The questions of a request and their answers. -/
abbrev protocol : Protocol where
  Question := Question
  Answer
    | .outside q => outside.Answer q
    | .access a => a.Answer

/-- What a request does. -/
abbrev Action (α : Type) := Dialogue protocol α

/-! ## Asking -/

/-- A permit for so many units. -/
def allocate (who : Principal) (subject : Subject) (count : UInt32) :
    Action (Except Fault Permit) :=
  .question (P := protocol) (.outside (.allocate who subject count))

/-- The release of so many units. -/
def release (groupId owner : String) (subject : Subject) (count : UInt32) :
    Action (Except Fault Unit) :=
  .question (P := protocol) (.outside (.release groupId owner subject count))

/-- Events forwarded to the sink. -/
def forward (origin : Origin) (events : List Event) : Action (Except Fault UInt32) :=
  .question (P := protocol) (.outside (.forward origin events))

/-- An identity that was never used. -/
def freshId : Action String := .question (P := protocol) (.outside .freshId)

def wallClock : Action Timestamp := .question (P := protocol) (.outside .wallClock)

/-- Nanoseconds of a clock that never goes back. -/
def clock : Action Nat := .question (P := protocol) (.outside .clock)

/-- Adds to a counter. -/
def count (c : Counter) (n : UInt64) : Action Unit :=
  .question (P := protocol) (.access (.count c n))

/-- Notes the milliseconds of a batch. -/
def observe (time : UInt64) : Action Unit :=
  .question (P := protocol) (.access (.observe time))

/-- The deny-list in force. -/
def denyList : Action DenyList := .question (P := protocol) (.access .denyList)

/-- A token of the internal route. -/
def token (now : Nat) : Action Verdict := .question (P := protocol) (.access (.token now))

/-- The health of the components. -/
def health : Action Health := .question (P := protocol) (.access .health)

def metrics : Action Metrics := .question (P := protocol) (.access .metrics)

/-- The number of some events, as it is counted. -/
def countOf (events : List Event) : UInt64 := UInt64.ofNat events.length

/-! ## The state -/

/-- The state that all requests share. -/
structure State where
  /-- The deny-list in force. -/
  denyList : DenyList
  metrics : Metrics
  /-- The health of the components. -/
  health : Health
  /-- How fast the bucket of the internal route fills. -/
  limit : RateLimit Float
  /-- The bucket of the internal route. -/
  bucket : Bucket Float
  /-- The client of the sink, if one is kept. -/
  client : Option Broker.Client

namespace State

/-- The state of a gateway that has done nothing yet, with so many internal requests a minute. -/
def initial (denyList : DenyList) (perMinute : UInt32) (now : Nat) : State :=
  ⟨denyList, .zero, .unknown, .perMinute perMinute, .full (.perMinute perMinute) now, none⟩

/-- The state with more on a counter. -/
def tally (s : State) (c : Counter) (n : UInt64) : State :=
  { s with metrics := s.metrics.add c n }

/-- The state with a deny-list that was loaded. -/
def install (s : State) (list : DenyList) : State :=
  { s with
    denyList := list
    metrics := s.metrics.add .denyListReloads 1
    health := s.health.set .denyList .working }

/-- A step on the state: its answer, and the state after it. -/
def access : (a : Access) → State → a.Answer × State
  | .count c n, s => ((), s.tally c n)
  | .observe time, s => ((), { s with metrics := s.metrics.observePublish time })
  | .observeSink time, s => ((), { s with metrics := s.metrics.observeSink time })
  | .denyList, s => (s.denyList, s)
  | .install list, s => ((), s.install list)
  | .token now, s =>
    let (verdict, bucket) := s.bucket.check s.limit now
    (verdict, { s with bucket })
  | .health, s => (s.health, s)
  | .note c state, s => ((), { s with health := s.health.set c state })
  | .metrics, s => (s.metrics, s)
  | .client, s => (s.client, s)
  | .keep client, s => ((), { s with client })

/-- The answers to the questions of a request; those to collaborators are answered by `ask`, which
may change the state too. -/
def answer {m : Type → Type} [Monad m] (ask : (q : Outside) → StateT State m (outside.Answer q)) :
    (q : Question) → StateT State m (protocol.Answer q)
  | .outside q => ask q
  | .access a => fun s => pure (s.access a)

end State

end Sluice.Gateway
