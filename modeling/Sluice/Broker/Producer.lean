import Sluice.Broker.Record
import Sluice.Dialogue
import Sluice.Fault
import Sluice.Metrics.Basic

/-!
# Writing to the broker

A producer writes events to one partition.  It connects when it has something to write and no
client is kept, keeps the new client at once, and drops it when a write fails or takes too long, so
that the next write connects again.  Only a client that found its partition is kept.

Connecting answers with a connection, and everything that is asked of the brokers after it says over
which connection: the brokers may answer over each as they like.

`isReachable` is the check of the connection: the brokers answer and know the topic.
-/

namespace Sluice.Broker

/-- A connection to the brokers, by its identity. -/
structure Connection where
  id : Nat
deriving DecidableEq, Repr

/-- What became of a batch. -/
inductive Produced where
  /-- So many records have places in the partition. -/
  | written (offsets : Nat)
  /-- The broker refused it. -/
  | failed (reason : String)
  /-- There was no answer in time. -/
  | late
deriving DecidableEq, Repr

/-- A connection with the partition that it writes to. -/
structure Client where
  connection : Connection
  topic : String
  partition : Int32
deriving DecidableEq, Repr

/-- What the producer asks its surroundings. -/
inductive Question where
  /-- To connect to one of some addresses; the answer is the connection. -/
  | connect (addresses : List String) (credentials : Option (String × String))
  /-- The names of all topics of the users, over a connection. -/
  | topics (connection : Connection)
  /-- To look up the partition of a client over its connection. -/
  | lookUp (client : Client)
  /-- To write a batch over a client within some milliseconds. -/
  | produce (client : Client) (batch : Batch) (timeoutMs : UInt64)
  | wallClock
  /-- Nanoseconds of a clock that never goes back. -/
  | clock
  /-- To add to a counter. -/
  | count (counter : Counter) (n : UInt64)
  /-- To note the milliseconds of a write. -/
  | observe (time : UInt64)
  /-- The client that is kept, if there is one. -/
  | client
  /-- To keep this client from now on, or none. -/
  | keep (client : Option Client)
deriving DecidableEq

/-- The questions of the producer and their answers. -/
abbrev protocol : Protocol where
  Question := Question
  Answer
    | .connect _ _ => Except String Connection
    | .topics _ => Except String (List String)
    | .lookUp _ => Except String Unit
    | .produce _ _ _ => Produced
    | .wallClock => Timestamp
    | .clock => Nat
    | .count _ _ => Unit
    | .observe _ => Unit
    | .client => Option Client
    | .keep _ => Unit

/-! ## Connecting -/

/-- The addresses that a connection starts from. -/
def bootstrap (s : BrokerSettings) : List String := [s.brokerText]

/-- A new connection. -/
def connect (s : BrokerSettings) : Dialogue protocol (Except Fault Connection) := do
  let connection : Except String Connection ←
    Dialogue.question (P := protocol) (.connect (bootstrap s) s.credentials)
  return connection.mapError fun reason =>
    .forwardingFailed ("failed to connect to Redpanda: " ++ reason)

/-- The brokers answer, and know the topic. -/
def isReachable (s : BrokerSettings) : Dialogue protocol Bool := do
  match ← connect s with
  | .error _ => return false
  | .ok connection =>
    let topics : Except String (List String) ←
      Dialogue.question (P := protocol) (.topics connection)
    return match topics with
      | .error _ => false
      | .ok names => names.contains s.topic

/-! ## The client of a partition -/

/-- The client of the partition over a connection. -/
def clientOver (s : BrokerSettings) (connection : Connection) : Client :=
  ⟨connection, s.topic, s.partition⟩

/-- The client over a new connection, if the partition is found there. -/
def newClient (s : BrokerSettings) : Dialogue protocol (Except Fault Client) := do
  match ← connect s with
  | .error f => return .error f
  | .ok connection =>
    let found : Except String Unit ←
      Dialogue.question (P := protocol) (.lookUp (clientOver s connection))
    match found with
    | .error reason =>
      return .error (.forwardingFailed ("failed to get partition client: " ++ reason))
    | .ok () => return .ok (clientOver s connection)

/-- Keeps this client from now on, or none. -/
def keep (client : Option Client) : Dialogue protocol Unit :=
  Dialogue.question (P := protocol) (.keep client)

/-- The client kept, or a new one, which is kept then.  Before it connects it looks once more, since
another write may have connected meanwhile. -/
def clientFor (s : BrokerSettings) : Dialogue protocol (Except Fault Client) := do
  let kept : Option Client ← Dialogue.question (P := protocol) .client
  match kept with
  | some c => return .ok c
  | none =>
    let kept : Option Client ← Dialogue.question (P := protocol) .client
    match kept with
    | some c => return .ok c
    | none =>
      match ← newClient s with
      | .error f => return .error f
      | .ok c =>
        keep (some c)
        return .ok c

/-! ## Writing -/

/-- The records of some events. -/
def records (origin : Origin) : List Event → Dialogue protocol (List Record)
  | [] => pure []
  | e :: r => do
    let now : Timestamp ← Dialogue.question (P := protocol) .wallClock
    return Record.ofEvent e origin now :: (← records origin r)

/-- A batch written over a client: the count of events that have places.  A client that failed is
not kept. -/
def write (s : BrokerSettings) (client : Client) (records : List Record) :
    Dialogue protocol (Except Fault UInt32) := do
  let start : Nat ← Dialogue.question (P := protocol) .clock
  let batch : Batch := ⟨Codec.ofName s.compression, records⟩
  let produced : Produced ←
    Dialogue.question (P := protocol) (.produce client batch s.timeoutMs)
  let finish : Nat ← Dialogue.question (P := protocol) .clock
  Dialogue.question (P := protocol) (.observe (millisecondsBetween start finish))
  match produced with
  | .written offsets =>
    let count := UInt32.ofNat (min offsets records.length)
    Dialogue.question (P := protocol) (.count .eventsForwarded count.toUInt64)
    return .ok count
  | .failed reason =>
    Dialogue.question (P := protocol) (.count .sinkErrors 1)
    keep none
    return .error (.forwardingFailed ("failed to produce: " ++ reason))
  | .late =>
    Dialogue.question (P := protocol) (.count .sinkErrors 1)
    keep none
    return .error (.forwardingFailed "produce timed out")

/-- Events written: the count of them that have places. -/
def produce (s : BrokerSettings) (origin : Origin) (events : List Event) :
    Dialogue protocol (Except Fault UInt32) :=
  if events.isEmpty then pure (.ok 0)
  else do
    let records ← records origin events
    match ← clientFor s with
    | .error f => return .error f
    | .ok client => write s client records

end Sluice.Broker
