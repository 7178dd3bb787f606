import Sluice.Dialogue
import Sluice.Http.Status
import Sluice.Http.Url
import Sluice.Json.Value

/-!
# Asking servers

A `Call` is a request to a server, a `Reply` is its answer.  A call is made only to an address that
can be read, whose scheme is `http` or `https`, and that is not too long; `CallFailure.message`
tells what went wrong.
-/

namespace Sluice.Http

/-- A request to a server. -/
structure Call where
  method : String
  url : Url
  /-- The type of the body. -/
  contentType : Option String
  body : List UInt8
deriving DecidableEq

/-- The answer of a server. -/
structure Reply where
  status : Nat
  body : List UInt8
deriving DecidableEq

/-- Calls and their answers, if they have any. -/
abbrev calls : Protocol where
  Question := Call
  Answer _ := Option Reply

/-- Why a call has no answer. -/
inductive CallFailure where
  /-- The address cannot be read. -/
  | noUrl
  /-- Calls are not made to the address. -/
  | notCalled (url : Url)
  /-- The server did not answer. -/
  | noReply (url : Url)
deriving DecidableEq

/-- The text of a failure. -/
def CallFailure.message : CallFailure → String
  | .noUrl => "builder error"
  | .notCalled url => "builder error for url (" ++ url.text ++ ")"
  | .noReply url => "error sending request for url (" ++ url.text ++ ")"

/-- The text of a failure to read the body of an answer. -/
def unreadableBody : String := "error decoding response body"

/-- An address that calls are made to; `fields` are added to its query. -/
def callUrl (address : String) (fields : List (String × String)) : Except CallFailure Url :=
  match Url.read address with
  | none => .error .noUrl
  | some url =>
    if !url.hasHost then .error (.notCalled url)
    else
      let url := url.withoutUser
      let url := if fields.isEmpty then url else url.withFields fields
      if ["http", "https"].contains url.scheme && url.isCallable then .ok url
      else .error (.notCalled url)

/-- A call without a body. -/
def Call.get (url : Url) : Call := ⟨"GET", url, none, []⟩

/-- A call with a JSON body. -/
def Call.post (url : Url) (body : Json.Value) : Call :=
  ⟨"POST", url, some "application/json", Text.bytes body.render⟩

namespace Reply

/-- An answer that ends a call: its status has three digits, and it is none of those that only
announce another, as every status below 200 does but the change of the protocol. -/
def endsCall (r : Reply) : Bool := r.status == 101 || (200 ≤ r.status && r.status < 1000)

/-- The body that is read: some answers have none whatever follows them. -/
def content (r : Reply) : List UInt8 := if [101, 204, 304].contains r.status then [] else r.body

/-- The body as a text. -/
def text (r : Reply) : String := Text.readable r.content

/-- The value of a body that is JSON. -/
def json {α : Type} (r : Reply) (reader : Json.Reader α) : Option α :=
  (reader.decode r.content).toOption

end Reply

/-- The answer that ends the call to an address, if there is one. -/
def answerFrom (url : Url) (reply : Option Reply) : Except CallFailure Reply :=
  match reply.filter Reply.endsCall with
  | some r => .ok r
  | none => .error (.noReply url)

/-- An address without the slashes at its end. -/
def trimSlashes (address : String) : String :=
  String.ofList (address.toList.reverse.dropWhile (· == '/')).reverse

end Sluice.Http
