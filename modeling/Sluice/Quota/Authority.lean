import Sluice.Dialogue
import Sluice.Http.Client
import Sluice.Metrics.Basic
import Sluice.Quota.Principal

/-!
# The quota authority

Permits are asked for and released with JSON over HTTP.  An answer that tells of a bad request
means that the request was wrong; everything else that goes wrong means that the authority cannot
be asked.  A permit is never taken for more than was asked for.
-/

namespace Sluice

open Json (Reader Value Field Record)

/-! ## Settings -/

/-- Where the authority is, and how long it may take. -/
structure QuotaSettings where
  /-- The address that the paths of requests are added to. -/
  url : String
  /-- The most milliseconds of a request. -/
  timeoutMs : UInt64
deriving DecidableEq, Repr

namespace QuotaSettings

/-- The settings that hold unless others are given. -/
def default : QuotaSettings := ⟨"http://usage:8080", 5000⟩

/-- The fields of the settings. -/
def record : Record QuotaSettings where
  title := "struct QuotaConfig"
  blank := default
  fields :=
    [.defaulted "url" Reader.string fun v s => { s with url := v },
      .defaulted "timeout_ms" Reader.uint64 fun v s => { s with timeoutMs := v }]

def toJson (s : QuotaSettings) : Value :=
  .object [("url", .string s.url), ("timeout_ms", .whole s.timeoutMs.toNat)]

end QuotaSettings

/-! ## The client -/

namespace Authority

/-- What the client of the authority asks its surroundings. -/
inductive Question where
  /-- The answer to a call, if there is one. -/
  | call (call : Http.Call)
  /-- To count one more. -/
  | count (counter : Counter)
deriving DecidableEq

/-- The questions of the client and their answers. -/
abbrev protocol : Protocol where
  Question := Question
  Answer
    | .call _ => Option Http.Reply
    | .count _ => Unit

/-- Counts one more. -/
def tally (c : Counter) : Dialogue protocol Unit := .question (P := protocol) (.count c)

/-- The answer to a call, or why there is none. -/
def call (c : Http.Call) : Dialogue protocol (Except Http.CallFailure Http.Reply) := do
  let reply : Option Http.Reply ← Dialogue.question (P := protocol) (.call c)
  return Http.answerFrom c.url reply

/-- The address of a path at the authority. -/
def address (s : QuotaSettings) (path : String) : String := Http.trimSlashes s.url ++ path

/-- An answer that tells success; any other is a fault. -/
def accepted (r : Http.Reply) : Except Fault Http.Reply :=
  if Http.isSuccess r.status then .ok r
  else if r.status = 400 then .error (.quotaInvalidRequest r.text)
  else
    .error (.quotaUnavailable
      ("usage service returned " ++ Http.statusText r.status ++ ": " ++ r.text))

/-- The fault of a call without an answer. -/
def unreachable (f : Http.CallFailure) : Fault :=
  .quotaUnavailable ("usage service unreachable: " ++ f.message)

/-- The answer to a JSON body posted to a path. -/
def post (s : QuotaSettings) (path : String) (body : Value) :
    Dialogue protocol (Except Fault Http.Reply) :=
  match Http.callUrl (address s path) [] with
  | .error f => pure (.error (unreachable f))
  | .ok url => do
    match ← call (.post url body) with
    | .error f => return .error (unreachable f)
    | .ok r => return accepted r

/-- The body of a request for a permit. -/
def allocateBody (who : Principal) (subject : Subject) (count : UInt32) : Value :=
  .object [("groupId", .string who.groupId), ("userId", .string who.userId),
    ("subject", subject.toJson), ("count", .whole count.toNat)]

/-- The body of a release. -/
def releaseBody (groupId owner : String) (subject : Subject) (count : UInt32) : Value :=
  .object [("groupId", .string groupId), ("ownerId", .string owner),
    ("subject", subject.toJson), ("count", .whole count.toNat)]

/-- A permit for at most what was asked for. -/
def capped (count : UInt32) (p : Permit) : Permit := { p with granted := min p.granted count }

/-- A permit for so many units. -/
def allocate (s : QuotaSettings) (who : Principal) (subject : Subject) (count : UInt32) :
    Dialogue protocol (Except Fault Permit) := do
  tally .permitsRequested
  match ← post s "/v1/permits/allocate" (allocateBody who subject count) with
  | .error f =>
    tally .permitErrors
    return .error f
  | .ok r =>
    match r.json Permit.record.reader with
    | none =>
      tally .permitErrors
      return .error (.quotaUnavailable ("invalid permit response: " ++ Http.unreadableBody))
    | some p => return .ok (capped count p)

/-- The release of units that were not used. -/
def release (s : QuotaSettings) (groupId owner : String) (subject : Subject) (count : UInt32) :
    Dialogue protocol (Except Fault Unit) := do
  tally .releases
  match ← post s "/v1/permits/release" (releaseBody groupId owner subject count) with
  | .error f =>
    tally .releaseErrors
    return .error f
  | .ok _ => return .ok ()

/-- Whether the authority answers that it works. -/
def isHealthy (s : QuotaSettings) : Dialogue protocol Bool :=
  match Http.callUrl (address s "/health") [] with
  | .error _ => pure false
  | .ok url => do
    match ← call (.get url) with
    | .error _ => return false
    | .ok r => return Http.isSuccess r.status

end Authority

end Sluice
