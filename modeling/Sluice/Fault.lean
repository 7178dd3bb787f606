import Sluice.Json.Failure

/-!
# What can go wrong

A `Fault` is a reason why a request is not served.  Each has a text (`Fault.message`), a code that
stays the same across versions (`Fault.code`) and the status of the answer (`Fault.status`).
-/

namespace Sluice

/-- The kinds of bodies that are not accepted. -/
inductive ValidationCode where
  /-- The body has the wrong form. -/
  | invalidFormat
  /-- The batch has too many events or too many bytes. -/
  | batchTooLarge
  /-- The batch has no events. -/
  | emptyBatch
deriving DecidableEq, Repr

/-- The code of a kind. -/
def ValidationCode.text : ValidationCode → String
  | .invalidFormat => "VALID_001"
  | .batchTooLarge => "VALID_002"
  | .emptyBatch => "VALID_003"

/-- A reason why a request is not served. -/
inductive Fault where
  /-- The request does not say who it is from. -/
  | auth (reason : String)
  /-- The body is not accepted. -/
  | validation (code : ValidationCode) (reason : String)
  /-- The quota authority cannot be asked. -/
  | quotaUnavailable (reason : String)
  /-- The quota authority does not accept the request. -/
  | quotaInvalidRequest (reason : String)
  /-- The allowance of this owner is used up. -/
  | quotaExhausted (owner : String)
  /-- The first event matches a rule of the deny-list. -/
  | rejected (rule dimension value : String)
  | forwardingFailed (reason : String)
  | rateLimit (reason : String) (retryAfter : Option UInt64)
  /-- A text that is no JSON of the type wanted. -/
  | serialization (refusal : Json.Refusal)
  /-- Anything else. -/
  | internal (reason : String)
deriving DecidableEq, Repr

namespace Fault

/-- The code of a fault. -/
def code : Fault → String
  | .auth _ => "AUTH_001"
  | .validation c _ => c.text
  | .quotaUnavailable _ => "QUOTA_001"
  | .quotaInvalidRequest _ => "QUOTA_002"
  | .quotaExhausted _ => "QUOTA_003"
  | .rejected _ _ _ => "DENY_001"
  | .forwardingFailed _ => "SINK_001"
  | .rateLimit _ _ => "RATE_001"
  | .serialization _ => "VALID_001"
  | .internal _ => "INTERNAL"

/-- The status of the answer to a request with a fault. -/
def status : Fault → Nat
  | .auth _ => 401
  | .validation _ _ => 400
  | .quotaUnavailable _ => 503
  | .quotaInvalidRequest _ => 400
  | .quotaExhausted _ => 429
  | .rejected _ _ _ => 403
  | .forwardingFailed _ => 502
  | .rateLimit _ _ => 429
  | .serialization _ => 400
  | .internal _ => 500

/-- A reason after the code of its fault. -/
def coded (code reason : String) : String := "[" ++ code ++ "] " ++ reason

/-- The text of a fault. -/
def message : Fault → String
  | .auth r => coded "AUTH_001" r
  | .validation c r => coded c.text r
  | .quotaUnavailable r => "quota unavailable: " ++ r
  | .quotaInvalidRequest r => "quota request invalid: " ++ r
  | .quotaExhausted owner => "publishing limit reached for owner " ++ Text.quoted owner
  | .rejected rule _ _ => "forbidden by prefix: " ++ rule
  | .forwardingFailed r => "forwarding failed: " ++ r
  | .rateLimit r _ => coded "RATE_001" r
  | .serialization r => "serialization error: " ++ r.message
  | .internal r => "internal error: " ++ r

/-- The fault of a body of the wrong form. -/
def invalidFormat (reason : String) : Fault := .validation .invalidFormat reason

/-- A failure of the sink stays what it is; any other fault of a sink becomes one. -/
def asForwarding : Fault → Fault
  | .forwardingFailed r => .forwardingFailed r
  | other => .forwardingFailed other.message

/-- A fault of the quota authority stays what it is; any other means that it cannot be asked. -/
def asQuota : Fault → Fault
  | .quotaUnavailable r => .quotaUnavailable r
  | .quotaInvalidRequest r => .quotaInvalidRequest r
  | other => .quotaUnavailable other.message

end Fault

end Sluice
