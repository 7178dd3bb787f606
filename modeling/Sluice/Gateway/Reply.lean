import Sluice.Fault
import Sluice.Json.Value

/-!
# Answers to clients

A published batch is answered with the number of events acknowledged.  What is refused is answered
with a text, a code that stays the same across versions, perhaps some details, and perhaps the
seconds to wait.  `Rejection.ofFault` says how every fault is answered.
-/

namespace Sluice.Gateway

open Json (Reader Value Field Record)

/-! ## Bodies -/

/-- The answer to a published batch. -/
structure Acknowledged where
  /-- The number of events acknowledged. -/
  count : UInt32
deriving DecidableEq, Repr

/-- The fields of the answer. -/
def Acknowledged.record : Record Acknowledged where
  title := "struct PublishResponse"
  blank := ⟨0⟩
  fields := [.needed "ackCount" Reader.uint32 fun v _ => ⟨v⟩]

def Acknowledged.toJson (a : Acknowledged) : Value := .object [("ackCount", .whole a.count.toNat)]

/-- The answer to what is refused. -/
structure ErrorBody where
  /-- The text. -/
  error : String
  code : String
  details : Option (List String)
deriving DecidableEq, Repr

/-- The fields of the answer. -/
def ErrorBody.record : Record ErrorBody where
  title := "struct ErrorResponse"
  blank := ⟨"", "", none⟩
  fields :=
    [.needed "error" Reader.string fun v b => { b with error := v },
      .needed "code" Reader.string fun v b => { b with code := v },
      .optional "details" Reader.string.list.orNull fun v b => { b with details := v }]

/-- The answer as JSON; details that are not given are left out. -/
def ErrorBody.toJson (b : ErrorBody) : Value :=
  .object <|
    [("error", .string b.error), ("code", .string b.code)] ++
    match b.details with
    | some l => [("details", .list (l.map .string))]
    | none => []

/-! ## Rejections -/

/-- A refusal to be answered. -/
structure Rejection where
  status : Nat
  body : ErrorBody
  /-- The seconds to wait. -/
  retryAfter : Option UInt64
deriving DecidableEq, Repr

namespace Rejection

/-- A refusal with a code and a text. -/
def plain (status : Nat) (code error : String) : Rejection := ⟨status, ⟨error, code, none⟩, none⟩

/-- The refusal of one request too many. -/
def rateLimited (error : String) (retryAfter : Option UInt64) : Rejection :=
  ⟨429, ⟨error, "RATE_001", none⟩, retryAfter⟩

/-- The refusal of a body that is not accepted, with what is wrong with it. -/
def validation (code : String) (details : List String) : Rejection :=
  ⟨400, ⟨"Validation failed", code, some details⟩, none⟩

/-- The refusal of a batch of which the sink took nothing although it did not fail. -/
def nothingAccepted : Rejection := plain 503 "SINK_002" "was unable to submit, retry later"

/-- The refusal of a request with a fault. -/
def ofFault : Fault → Rejection
  | .validation c reason => validation c.text [reason]
  | .rateLimit reason retryAfter => rateLimited reason retryAfter
  | .auth reason => plain 401 "AUTH_001" reason
  | f => plain f.status f.code f.message

end Rejection

/-! ## Whole answers -/

structure Response where
  status : Nat
  headers : List (String × String)
  body : List UInt8
deriving DecidableEq

namespace Response

/-- An answer without a body. -/
def empty (status : Nat) : Response := ⟨status, [], []⟩

/-- An answer in plain text. -/
def text (status : Nat) (body : String) : Response :=
  ⟨status, [("content-type", "text/plain; charset=utf-8")], Text.bytes body⟩

/-- An answer in JSON. -/
def json (status : Nat) (body : Value) : Response :=
  ⟨status, [("content-type", "application/json")], Text.bytes body.render⟩

/-- An answer with one more header. -/
def withHeader (r : Response) (name value : String) : Response :=
  { r with headers := r.headers ++ [(name, value)] }

/-- The answer to what is refused. -/
def ofRejection (r : Rejection) : Response :=
  let answer := json r.status r.body.toJson
  match r.retryAfter with
  | some secs => answer.withHeader "retry-after" (toString secs.toNat)
  | none => answer

/-- The answer to a published batch; of a batch that was not taken at all the client is told to try
again. -/
def ofCount (count : UInt32) : Response :=
  if count = 0 then ofRejection .nothingAccepted else json 200 (Acknowledged.toJson ⟨count⟩)

/-- The answer to the result of publishing. -/
def ofResult : Except Fault UInt32 → Response
  | .ok count => ofCount count
  | .error f => ofRejection (.ofFault f)

end Response

end Sluice.Gateway
