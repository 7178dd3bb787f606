import Sluice.DenyList.Refresh
import Sluice.Environment.File
import Sluice.Gateway.Routes
import Sluice.Settings.Load

/-!
# The gateway as a process

A process starts in this order: it takes variables from a file, loads its settings, loads the
deny-list, looks whether the sink and the quota authority can be reached, and listens.  It serves
only if the settings, the deny-list and the address are good; the sink and the authority may come
later.

Everything that it needs of the world is a question (`World`): calls to servers, the brokers of
the sink, clocks, and a place to listen.

What the process does is written for any `Host`, a monad that asks the world and takes steps on
the state.  There are two: in a `Task` every question is one step, between which other tasks may
take theirs, and `Running` is a process that does one thing at a time.
-/

namespace Sluice.Gateway

/-! ## The world -/

/-- The questions to the world. -/
inductive World where
  /-- The answer to a call, if there is one. -/
  | call (call : Http.Call)
  /-- To connect to the brokers at one of some addresses; the answer is the connection. -/
  | connect (addresses : List String) (credentials : Option (String × String))
  /-- The names of all topics of the users, over a connection to the brokers. -/
  | topics (connection : Broker.Connection)
  /-- To look up the partition of a client over its connection. -/
  | lookUp (client : Broker.Client)
  /-- To write a batch over a client within some milliseconds. -/
  | produce (client : Broker.Client) (batch : Broker.Batch) (timeoutMs : UInt64)
  /-- An identity that was never used. -/
  | freshId
  | wallClock
  /-- Nanoseconds of a clock that never goes back. -/
  | clock
  /-- To listen at an address; the answer may be why that cannot be. -/
  | listen (address : Http.Socket)
deriving DecidableEq

/-- The questions to the world and their answers. -/
abbrev world : Protocol where
  Question := World
  Answer
    | .call _ => Option Http.Reply
    | .connect _ _ => Except String Broker.Connection
    | .topics _ => Except String (List String)
    | .lookUp _ => Except String Unit
    | .produce _ _ _ => Broker.Produced
    | .freshId => String
    | .wallClock => Timestamp
    | .clock => Nat
    | .listen _ => Except String Unit

/-! ## Hosts -/

/-- What asks the world, and takes steps on the state. -/
class Host (m : Type → Type) where
  /-- A question to the world. -/
  ask : (q : World) → m (world.Answer q)
  /-- A step on the state. -/
  access : (a : Access) → m a.Answer

/-- The questions of a task. -/
inductive Errand where
  /-- A question to the world. -/
  | world (question : World)
  /-- A step on the state. -/
  | access (step : Access)

/-- The questions of a task and their answers. -/
abbrev errands : Protocol where
  Question := Errand
  Answer
    | .world q => world.Answer q
    | .access a => a.Answer

/-- What is done beside other tasks. -/
abbrev Task := Dialogue errands

instance : Host Task where
  ask q := .question (P := errands) (.world q)
  access a := .question (P := errands) (.access a)

/-- What a process does that does one thing at a time. -/
abbrev Running := StateT State (Dialogue world)

instance : Host Running where
  ask q := StateT.lift (Dialogue.question (P := world) q)
  access a := fun s => pure (s.access a)

/-- The answers to a task that nothing interrupts. -/
def Errand.answer : (q : Errand) → Running (errands.Answer q)
  | .world q => Host.ask q
  | .access a => Host.access a

/-- A task that nothing interrupts. -/
def Task.alone {α : Type} (t : Task α) : Running α := t.run Errand.answer

open Host (ask access)

variable {m : Type → Type} [Monad m] [Host m]

/-! ## The collaborators -/

/-- The answers to what the client of the quota authority asks. -/
def authorityAnswer : (q : Authority.Question) → m (Authority.protocol.Answer q)
  | .call c => ask (.call c)
  | .count c => access (.count c 1)

/-- The answers to what the producer asks. -/
def brokerAnswer : (q : Broker.Question) → m (Broker.protocol.Answer q)
  | .connect addresses credentials => ask (.connect addresses credentials)
  | .topics connection => ask (.topics connection)
  | .lookUp client => ask (.lookUp client)
  | .produce client batch timeoutMs => ask (.produce client batch timeoutMs)
  | .wallClock => ask .wallClock
  | .clock => ask .clock
  | .count c n => access (.count c n)
  | .observe time => access (.observeSink time)
  | .client => access .client
  | .keep client => access (.keep client)

/-- Events written to the sink. -/
def forwardBy (s : BrokerSettings) (origin : Origin) (events : List Event) :
    m (Except Fault UInt32) :=
  (Broker.produce s origin events).run brokerAnswer

/-- The answers of the collaborators. -/
def collaborator (s : Settings) : (q : Outside) → m (outside.Answer q)
  | .allocate who subject n => (Authority.allocate s.quota who subject n).run authorityAnswer
  | .release groupId owner subject n =>
    (Authority.release s.quota groupId owner subject n).run authorityAnswer
  | .forward origin events => forwardBy s.broker origin events
  | .freshId => ask .freshId
  | .wallClock => ask .wallClock
  | .clock => ask .clock

/-- The answers to what a request asks. -/
def requestAnswer (s : Settings) : (q : Question) → m (protocol.Answer q)
  | .outside q => collaborator s q
  | .access a => access a

/-- The answer to a request. -/
def serve (s : Settings) (r : Request) : m Response :=
  (handle s.internal r).run (requestAnswer s)

/-! ## The deny-list -/

/-- The answer to a request for a page of the deny-list. -/
def pageAnswer (s : DenyListSettings) (q : DenyLoad.PageRequest) : m (DenyLoad.store.Answer q) :=
  (DenyStore.page s q).run fun call => ask (.call call)

/-- Loads the deny-list within some number of pages, if it has an end by then.  A list that was
loaded takes the place of the one in force; after a fault that one stays. -/
def reload (s : DenyListSettings) (pages : Nat) : m (Option (Except Fault Nat)) := do
  match ← (DenyLoad.start.run s.pageSize pages).run (pageAnswer s) with
  | none => return none
  | some (.error f) => return some (.error f)
  | some (.ok list) =>
    access (.install list)
    return some (.ok list.size)

/-- The clock that is due when the deny-list is to be loaded again, from now on. -/
def refreshTicker (s : DenyListSettings) (now : Nat) : Ticker :=
  .start now (s.refreshSecs.toNat * nanosPerSecond)

/-! ## Starting -/

/-- Why a process does not start. -/
inductive StartFailure where
  /-- The settings cannot be loaded. -/
  | settings (failure : Settings.LoadFailure)
  /-- The deny-list cannot be loaded. -/
  | denyList (fault : Fault)
  /-- The deny-list has no end. -/
  | endlessDenyList
  /-- The address to listen at is none. -/
  | address
  /-- It cannot listen at the address. -/
  | listening (reason : String)

/-- The text of a failure. -/
def StartFailure.message : StartFailure → String
  | .settings f => f.message
  | .denyList f => "Failed to load deny-list: " ++ f.message
  | .endlessDenyList => "Failed to load deny-list"
  | .address => "Invalid server address: invalid socket address syntax"
  | .listening reason => "Failed to bind to address: " ++ reason

/-- The settings, with the variables of a file for those that are not set. -/
def settingsOf (e : Environment) (files : Settings.Files) :
    Except Settings.LoadFailure Settings :=
  let e :=
    match files.lookup ".env" with
    | some text => Environment.File.load text e
    | none => e
  Settings.load e files

/-- Looks whether the sink and the quota authority can be reached. -/
def probe (s : Settings) : m Unit := do
  let sink ← (Broker.isReachable s.broker).run brokerAnswer
  access (.note .sink (if sink then .working else .failing "Connection failed"))
  let quota ← (Authority.isHealthy s.quota).run authorityAnswer
  access (.note .quota (if quota then .working else .failing "Health probe failed"))

/-- The address to listen at. -/
def addressOf? (s : Settings) : Option Http.Socket :=
  Http.Socket.read (s.host ++ ":" ++ toString s.port.toNat)

/-- Gets ready to serve; the deny-list is loaded within some number of pages. -/
def prepare (s : Settings) (pages : Nat) : m (Except StartFailure Unit) := do
  match ← reload s.denyList pages with
  | none => return .error .endlessDenyList
  | some (.error f) => return .error (.denyList f)
  | some (.ok _) =>
    probe s
    match addressOf? s with
    | none => return .error .address
    | some address => return (← ask (.listen address)).mapError .listening

/-- A process that serves. -/
structure Process where
  settings : Settings
  /-- The state that all requests share. -/
  state : State

/-- Starts a process. -/
def start (e : Environment) (files : Settings.Files) (pages : Nat) :
    Dialogue world (Except StartFailure Process) := do
  match settingsOf e files with
  | .error f => return .error (.settings f)
  | .ok s =>
    let now : Nat ← Dialogue.question (P := world) .clock
    let ready : Running (Except StartFailure Unit) := prepare s pages
    let (ready, state) ← ready.run (.initial .empty s.internal.perMinute now)
    return ready.map fun _ => ⟨s, state⟩

end Sluice.Gateway
