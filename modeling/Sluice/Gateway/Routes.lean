import Sluice.Event.Body
import Sluice.Gateway.Publishing
import Sluice.Gateway.Reply

/-!
# Routes

Three routes publish: a single event, a batch, and an event of the internal path, which takes a
token of its bucket first.  Three routes tell about health.  `handle` is the answer to any
request.

A request to publish is looked at in this order: who it is from, whether its body is too long to be
taken at all, and then what its route asks for.  A page of any origin may read every answer, and may
send any request.

The bodies of answers are those that are made here.  On the way out they may be compressed, if the
client takes that; neither that nor the headers that come with it are told of.
-/

namespace Sluice.Gateway

open Json (Value)

/-! ## Requests -/

/-- A request of a client. -/
structure Request where
  method : String
  /-- What is asked for: a path with its query, or a whole address. -/
  target : String
  /-- The headers by their names, in order. -/
  headers : List (String × List UInt8)
  body : List UInt8
deriving DecidableEq

/-- The text of a header value in printed ASCII, blanks and tabs; any other value has none. -/
def headerText? (value : List UInt8) : Option String :=
  if value.all fun b => (0x20 ≤ b && b < 0x7F) || b == 0x09 then
    some (String.ofList (value.map fun b => Char.ofNat b.toNat))
  else none

/-- The text of the first header of a name, in any letter case. -/
def Request.header? (r : Request) (name : String) : Option String :=
  (r.headers.find? fun h => h.1.map Char.toLower == name).bind fun h => headerText? h.2

/-- What follows the authority of a whole address. -/
def afterAuthority? (cs : List Char) : Option (List Char) :=
  match cs.span fun c => c.isAlphanum || "+-.".toList.contains c with
  | (_, ':' :: '/' :: '/' :: r) => some (r.dropWhile fun c => !"/?#".toList.contains c)
  | _ => none

/-- The path without the query. -/
def Request.path (r : Request) : String :=
  let cs := r.target.toList
  String.ofList (((afterAuthority? cs).getD cs).takeWhile fun c => !"?#".toList.contains c)

/-- Who a request is from. -/
def Request.principal (r : Request) : Except Fault Principal :=
  Principal.ofHeaders (r.header? "x-group-id") (r.header? "x-user-id")

/-- The most bytes of a body that is taken at all. -/
def bufferLimit : Nat := 2 * 1024 * 1024

/-! ## Routes -/

/-- A place that can be asked. -/
inductive Route where
  | event
  | batch
  /-- Publishes one event by the internal path. -/
  | internal
  /-- Tells everything about health. -/
  | health
  /-- Tells whether the gateway can publish. -/
  | ready
  /-- Tells whether the gateway runs. -/
  | live
deriving DecidableEq, Repr

namespace Route

/-- The path of a route. -/
def path : Route → String
  | .event => "/v1/events"
  | .batch => "/v1/events/batch"
  | .internal => "/v1/events/internal"
  | .health => "/health"
  | .ready => "/health/ready"
  | .live => "/health/live"

/-- The route of a path. -/
def ofPath? (path : String) : Option Route :=
  [event, batch, internal, health, ready, live].find? fun r => r.path == path

/-- The methods of a route. -/
def methods : Route → List String
  | .event | .batch | .internal => ["POST"]
  | .health | .ready | .live => ["GET", "HEAD"]

end Route

/-! ## Publishing -/

/-- The events of a body of at most the limit. -/
def eventsOf (route : Route) (body : List UInt8) : Except Fault (List Event) := do
  Body.checkSize body
  match route with
  | .batch => Body.batch body
  | _ => return [← Body.event body]

/-- The answer to a batch. -/
def publishBody (route : Route) (who : Principal) (body : List UInt8) : Action Response :=
  match eventsOf route body with
  | .error f => pure (.ofResult (.error f))
  | .ok events => return .ofResult (← publish who events)

/-- The event of a body of at most the limit. -/
def eventOf (body : List UInt8) : Except Fault Event := do
  Body.checkSize body
  Body.event body

/-- The answer to an event of the internal path. -/
def publishInternalBody (s : InternalSettings) (who : Principal) (body : List UInt8) :
    Action Response := do
  match ← token (← clock) with
  | .refused wait =>
    count .rateLimitedRequests 1
    return .ofRejection (.rateLimited "internal publish rate exceeded" wait)
  | .admitted =>
    match eventOf body with
    | .error f => return .ofResult (.error f)
    | .ok e => return .ofResult (← publishInternal s who e)

/-- The answer to a request to publish. -/
def publishRequest (s : InternalSettings) (route : Route) (r : Request) : Action Response :=
  match r.principal with
  | .error f => pure (.ofRejection (.ofFault f))
  | .ok who =>
    if bufferLimit < r.body.length then
      pure (.text 413 "Failed to buffer the request body: length limit exceeded")
    else if route = .internal then publishInternalBody s who r.body
    else publishBody route who r.body

/-! ## Health -/

/-- Everything about health. -/
def healthBody (h : Health) (entries : Nat) (m : Metrics) (now : Timestamp) : Value :=
  .object [("status", .string h.status.name), ("redpanda_connected", .boolean h.sink.healthy),
    ("quota_connected", .boolean h.quota.healthy),
    ("deny_list_loaded", .boolean h.denyList.healthy), ("deny_list_entries", .whole entries),
    ("metrics", m.report now)]

/-- The status of a condition. -/
def statusOf (condition : Bool) : Nat := if condition then 200 else 503

/-- The answer to a question about health. -/
def healthRequest : Action Response := do
  let h ← health
  let list ← denyList
  let now ← wallClock
  return .json 200 (healthBody h list.size (← metrics) now)

/-! ## All requests -/

/-- What a route answers. -/
def Route.answer (s : InternalSettings) (r : Request) : Route → Action Response
  | .event => publishRequest s .event r
  | .batch => publishRequest s .batch r
  | .internal => publishRequest s .internal r
  | .health => healthRequest
  | .ready => return .empty (statusOf (← Gateway.health).isReady)
  | .live => return .empty (statusOf (← Gateway.health).isAlive)

/-- The methods of a route as a header. -/
def Route.allow (route : Route) : String × String := ("allow", ",".intercalate route.methods)

/-- The header that lets pages of any origin read an answer. -/
def anyOrigin : String × String := ("access-control-allow-origin", "*")

/-- The answer to a question about what may be sent. -/
def preflight (route : Option Route) : Response :=
  ⟨200, anyOrigin ::
    [("access-control-allow-methods", "*"), ("access-control-allow-headers", "*")] ++
      (route.map Route.allow).toList, []⟩

/-- The answer to a request, as it is before it may be compressed. -/
def handle (s : InternalSettings) (r : Request) : Action Response :=
  let route := Route.ofPath? r.path
  if r.method = "OPTIONS" then pure (preflight route)
  else do
    let answer ←
      match route with
      | none => pure (Response.empty 404)
      | some route =>
        if route.methods.contains r.method then route.answer s r
        else pure ⟨405, [route.allow], []⟩
    let body := if r.method = "HEAD" then [] else answer.body
    return { answer with headers := anyOrigin :: answer.headers, body }

end Sluice.Gateway
