import Sluice.Proofs.Gateway.Answers
import Sluice.Proofs.Json.Scan

/-!
# Bodies that are too long

There are two limits.  A body above `Body.byteLimit` is refused by the route, in JSON and with the
code of a batch that is too large.  A body above `bufferLimit` never gets there: it is not even
taken in, and the answer is a line of plain text.  Neither asks anything of the surroundings.

So a body that is too long is refused in one way exactly as long as it can be taken in
(`oversized_body`).  That the refusal of a body within the limits never speaks of its size rests on
the texts: what an error says can be read off its bytes (`errorBody_inj`), and no other fault begins
like the one of the size.
-/

namespace Sluice.Json

/-! ## Lists of strings -/

/-- A written string tells where it ends. -/
theorem writtenString_append_inj {x y : String} {s t : List UInt8}
    (h : Text.bytes (writtenString x) ++ s = Text.bytes (writtenString y) ++ t) :
    x = y ∧ s = t := by
  obtain ⟨b, hb, hx⟩ := bytes_writtenString x
  obtain ⟨c, hc, hy⟩ := bytes_writtenString y
  rw [hb, hc, List.cons_append, List.cons_append] at h
  have hread := hx s
  rw [(List.cons.inj h).2, hy] at hread
  cases hread
  exact ⟨rfl, rfl⟩

/-- What follows the first of some strings in a list. -/
def moreStrings : List String → List UInt8
  | [] => []
  | x :: l => 0x2C :: Text.bytes (renderItems ((x :: l).map .string))

theorem bytes_strings (x : String) (l : List String) :
    Text.bytes (renderItems ((x :: l).map .string)) =
      Text.bytes (writtenString x) ++ moreStrings l := by
  have hcomma : Text.bytes "," = [0x2C] := rfl
  cases l with
  | nil => simp [renderItems, Value.render, moreStrings]
  | cons y l =>
    rw [List.map_cons, List.map_cons, renderItems, Value.render, Text.bytes_append,
      Text.bytes_append, hcomma, moreStrings]
    simp

theorem strings_inj {l k : List String} {s t : List UInt8}
    (h : Text.bytes (renderItems (l.map .string)) ++ 0x5D :: s =
      Text.bytes (renderItems (k.map .string)) ++ 0x5D :: t) : l = k := by
  have hnil : Text.bytes (renderItems []) = [] := rfl
  induction l generalizing k with
  | nil =>
    cases k with
    | nil => rfl
    | cons y k =>
      obtain ⟨c, hc, -⟩ := bytes_writtenString y
      rw [bytes_strings, hc, List.map_nil, hnil] at h
      cases h
  | cons x l ih =>
    cases k with
    | nil =>
      obtain ⟨b, hb, -⟩ := bytes_writtenString x
      rw [bytes_strings, hb, List.map_nil, hnil] at h
      cases h
    | cons y k =>
      rw [bytes_strings, bytes_strings, List.append_assoc, List.append_assoc] at h
      obtain ⟨rfl, hmore⟩ := writtenString_append_inj h
      cases l with
      | nil =>
        cases k with
        | nil => rfl
        | cons z k => cases hmore
      | cons w l =>
        cases k with
        | nil => cases hmore
        | cons z k => rw [ih (List.cons.inj hmore).2]

end Sluice.Json

namespace Sluice.Gateway

open Dialogue
open Json (writtenString_append_inj)

/-! ## The text of an error -/

/-- The bytes after the code of an error. -/
def detailsBytes : Option (List String) → List UInt8
  | none => [0x7D]
  | some l =>
    Text.bytes ",\"details\":[" ++ (Text.bytes (Json.renderItems (l.map .string)) ++ [0x5D, 0x7D])

theorem bytes_errorBody (b : ErrorBody) :
    Text.bytes b.toJson.render = Text.bytes "\x7b\"error\":" ++
      (Text.bytes (Json.writtenString b.error) ++ (Text.bytes ",\"code\":" ++
        (Text.bytes (Json.writtenString b.code) ++ detailsBytes b.details))) := by
  have hopen : Text.bytes "\x7b\"error\":" =
      Text.bytes "\x7b" ++ (Text.bytes (Json.writtenString "error") ++ Text.bytes ":") := rfl
  have hcode : Text.bytes ",\"code\":" =
      Text.bytes "," ++ (Text.bytes (Json.writtenString "code") ++ Text.bytes ":") := rfl
  have hdetails : Text.bytes ",\"details\":[" = Text.bytes "," ++
      (Text.bytes (Json.writtenString "details") ++ (Text.bytes ":" ++ Text.bytes "[")) := rfl
  have hclose : Text.bytes "\x7d" = [0x7D] := rfl
  have hend : Text.bytes "]" = [0x5D] := rfl
  obtain ⟨error, code, details⟩ := b
  cases details with
  | none =>
    simp [ErrorBody.toJson, Json.Value.render, Json.renderMembers, detailsBytes, hopen, hcode,
      hclose, Text.bytes_append]
  | some l =>
    simp [ErrorBody.toJson, Json.Value.render, Json.renderMembers, detailsBytes, hopen, hcode,
      hdetails, hclose, hend, Text.bytes_append]

/-- The text of an error tells all about it. -/
theorem errorBody_inj {b c : ErrorBody}
    (h : Text.bytes b.toJson.render = Text.bytes c.toJson.render) : b = c := by
  rw [bytes_errorBody, bytes_errorBody] at h
  obtain ⟨herror, h⟩ := writtenString_append_inj (List.append_cancel_left h)
  obtain ⟨hcode, h⟩ := writtenString_append_inj (List.append_cancel_left h)
  obtain ⟨error, code, details⟩ := b
  obtain ⟨error', code', details'⟩ := c
  have hcomma : Text.bytes ",\"details\":[" = 0x2C :: Text.bytes "\"details\":[" := rfl
  have hdetails : details = details' := by
    cases details with
    | none =>
      cases details' with
      | none => rfl
      | some l =>
        simp only [detailsBytes, hcomma] at h
        cases h
    | some l =>
      cases details' with
      | none =>
        simp only [detailsBytes, hcomma] at h
        cases h
      | some k => rw [Json.strings_inj (List.append_cancel_left h)]
  cases herror
  cases hcode
  cases hdetails
  rfl

/-! ## Speaking of the size -/

/-- The text that tells that a body of so many bytes is too long. -/
def sizeText (n : Nat) : String :=
  "Payload size " ++ toString (n / 1024) ++ "KB exceeds " ++ toString (Body.byteLimit / 1024) ++
    "KB limit"

theorem checkSize_of_lt {body : List UInt8} (h : Body.byteLimit < body.length) :
    Body.checkSize body = .error (.validation .batchTooLarge (sizeText body.length)) := if_pos h

theorem checkSize_of_le {body : List UInt8} (h : body.length ≤ Body.byteLimit) :
    Body.checkSize body = .ok () := if_neg (Nat.not_lt.2 h)

/-- The answer is an error whose details tell that a body is too long. -/
def TellsSize (a : Response) : Prop :=
  ∃ (b : ErrorBody) (l : List String) (n : Nat), b.details = some l ∧ sizeText n ∈ l ∧
    a.body = Text.bytes b.toJson.render

/-- Headers have no part in it. -/
theorem TellsSize.of_headers {a : Response} {headers : List (String × String)}
    (h : TellsSize { a with headers := headers }) : TellsSize a := h

/-- The fault is that a body is too long. -/
def OfSize (f : Fault) : Prop := ∃ code n, f = .validation code (sizeText n)

theorem body_ofRejection (r : Rejection) :
    (Response.ofRejection r).body = Text.bytes r.body.toJson.render := by
  unfold Response.ofRejection
  split <;> rfl

/-- What tells the size of a body is the answer to that fault. -/
theorem ofSize_of_tellsSize {f : Fault} (h : TellsSize (.ofRejection (.ofFault f))) : OfSize f := by
  obtain ⟨b, l, n, hb, hn, hbody⟩ := h
  rw [body_ofRejection] at hbody
  obtain rfl := errorBody_inj hbody
  cases f with
  | validation code reason =>
    cases hb
    rw [List.mem_singleton] at hn
    exact ⟨code, n, by rw [hn]⟩
  | _ => cases hb

theorem not_tellsSize_ofCount (k : UInt32) : ¬TellsSize (.ofCount k) := by
  rintro ⟨b, l, n, hb, -, hbody⟩
  unfold Response.ofCount at hbody
  split at hbody
  · rw [body_ofRejection] at hbody
    obtain rfl := errorBody_inj hbody
    cases hb
  · -- The first key is another one.
    have hopen : Text.bytes "\x7b\"error\":" =
        Text.bytes "\x7b" ++ (Text.bytes (Json.writtenString "error") ++ Text.bytes ":") := rfl
    simp only [Response.json, Acknowledged.toJson, Json.Value.render, Json.renderMembers,
      bytes_errorBody, hopen, Text.bytes_append, List.append_assoc] at hbody
    obtain ⟨hkey, -⟩ := writtenString_append_inj (List.append_cancel_left hbody)
    exact absurd hkey (by decide)

/-! ## What is within the limit -/

/-- A fault with a text that begins otherwise is not that of the size. -/
theorem not_ofSize_of_head {code : ValidationCode} {reason : String} {c : Char}
    (h : reason.toList.head? = some c) (hc : c ≠ 'P') : ¬OfSize (.validation code reason) := by
  rintro ⟨code, n, heq⟩
  have hsize : (sizeText n).toList.head? = some 'P' := by
    delta sizeText
    simp [String.toList_append]
  rw [← (Fault.validation.inj heq).2, h] at hsize
  exact hc (Option.some.inj hsize)

theorem principal_not_ofSize {r : Request} {f : Fault} (h : r.principal = .error f) :
    ¬OfSize f := by
  unfold Request.principal Principal.ofHeaders at h
  dsimp only at h
  split at h
  · cases h
    rintro ⟨code, n, hauth⟩
    cases hauth
  · split at h
    · cases h
      exact not_ofSize_of_head (c := 'p') (by simp [String.toList_append]) (by decide)
    · cases h

theorem lengthFault?_not_ofSize {index : Nat} {e : Event} {f : Fault}
    (h : Body.lengthFault? index e = some f) : ¬OfSize f := by
  unfold Body.lengthFault? at h
  split at h
  · cases h
  · cases h
    exact not_ofSize_of_head (c := 'e') (by simp [String.toList_append]) (by decide)

theorem firstLengthFault?_not_ofSize {index : Nat} {events : List Event} {f : Fault}
    (h : Body.firstLengthFault? index events = some f) : ¬OfSize f := by
  induction events generalizing index with
  | nil => cases h
  | cons e r ih =>
    obtain h | ⟨-, h⟩ := Option.or_eq_some_iff.1 h
    · exact lengthFault?_not_ofSize h
    · exact ih h

theorem event_not_ofSize {body : List UInt8} {f : Fault} (h : Body.event body = .error f) :
    ¬OfSize f := by
  unfold Body.event at h
  split at h
  · cases h
    exact not_ofSize_of_head (c := 'i') (by simp [String.toList_append]) (by decide)
  · split at h
    · rename_i hf
      cases h
      exact lengthFault?_not_ofSize hf
    · cases h

theorem batch_not_ofSize {body : List UInt8} {f : Fault} (h : Body.batch body = .error f) :
    ¬OfSize f := by
  unfold Body.batch at h
  split at h
  · cases h
    exact not_ofSize_of_head (c := 'i') (by simp [String.toList_append]) (by decide)
  · split at h
    · cases h
      exact not_ofSize_of_head (c := 'b') rfl (by decide)
    · split at h
      · cases h
        exact not_ofSize_of_head (c := 'b') (by simp [String.toList_append]) (by decide)
      · split at h
        · rename_i hf
          cases h
          exact firstLengthFault?_not_ofSize hf
        · cases h

/-- A body within the limit is refused for other reasons than its size. -/
theorem eventsOf_not_ofSize {route : Route} {body : List UInt8} {f : Fault}
    (hlen : body.length ≤ Body.byteLimit) (h : eventsOf route body = .error f) : ¬OfSize f := by
  unfold eventsOf at h
  rw [checkSize_of_le hlen] at h
  have single (h : (do return [← Body.event body]) = Except.error f) : ¬OfSize f := by
    cases he : Body.event body with
    | error g =>
      rw [he] at h
      cases h
      exact event_not_ofSize he
    | ok e =>
      rw [he] at h
      cases h
  cases route with
  | batch => exact batch_not_ofSize h
  | event | internal | health | ready | live => exact single h

/-- No fault of a collaborator becomes one of the body. -/
theorem Admitted.not_ofSize {who : Principal} {first : Event} {rest : List Event}
    {l : Transcript outside} {counts : List (Counter × UInt64)} {f : Fault}
    (h : Admitted who first rest l counts (.error f)) : ¬OfSize f := by
  rintro ⟨code, n, rfl⟩
  generalize hx : (Except.error (Fault.validation code (sizeText n)) : Except Fault UInt32) = x at h
  cases h with
  | @refused f => cases f <;> cases hx
  | exhausted => cases hx
  | @failed p _ _ f => cases f <;> cases hx
  | acknowledged => cases hx

theorem ofResult_not_tellsSize {x : Except Fault UInt32} (h : ∀ f, x = .error f → ¬OfSize f) :
    ¬TellsSize (.ofResult x) := by
  cases x with
  | ok k => exact not_tellsSize_ofCount k
  | error f => exact fun ht => h f rfl (ofSize_of_tellsSize ht)

/-! ## Requests -/

/-- The refusal of a body of so many bytes: it is in JSON, with the code of a batch that is too
large, and tells the size. -/
structure RefusedForSize (n : Nat) (a : Response) : Prop where
  status_eq : a.status = 400
  isJson : ("content-type", "application/json") ∈ a.headers
  body_eq : a.body =
    Text.bytes (ErrorBody.toJson ⟨"Validation failed", "VALID_002", some [sizeText n]⟩).render

/-- The answer to a body that is not taken in. -/
def untaken : Response :=
  ⟨413, [anyOrigin, ("content-type", "text/plain; charset=utf-8")],
    Text.bytes "Failed to buffer the request body: length limit exceeded"⟩

variable {s : InternalSettings} {r : Request} {route : Route}

/-- What is posted with a body within the limit is answered without a word on its size. -/
theorem publishRequest_within (s : InternalSettings) (hroute : route = .event ∨ route = .batch)
    (hlen : r.body.length ≤ Body.byteLimit) :
    (publishRequest s route r).Ends fun _ a => ¬TellsSize a := by
  have htaken : ¬bufferLimit < r.body.length := by
    have hlimits : Body.byteLimit ≤ bufferLimit := by decide
    omega
  unfold publishRequest
  cases hwho : r.principal with
  | error f =>
    rw [ends_pure]
    exact fun h => principal_not_ofSize hwho (ofSize_of_tellsSize h)
  | ok who =>
    simp only [if_neg htaken, if_neg (ne_internal_of_public hroute), publishBody]
    cases hevents : eventsOf route r.body with
    | error f =>
      rw [ends_pure]
      exact fun h => eventsOf_not_ofSize hlen hevents (ofSize_of_tellsSize h)
    | ok events =>
      obtain ⟨first, rest, rfl⟩ := List.exists_cons_of_length_pos (length_eventsOf hevents).1
      simp only [ends_bind, ends_pure]
      refine (publish_admitted who first rest).mono fun l x h => ofResult_not_tellsSize ?_
      rintro f rfl
      obtain ⟨list, -, ⟨-, -, hit, -, hx⟩ | ⟨before, now, counts, -, -, ha⟩⟩ := h
      · rintro ⟨code, n, rfl⟩
        cases hx
      · exact ha.not_ofSize

/-- What is posted with a body above the limit is refused at once. -/
theorem publishRequest_above (s : InternalSettings) {who : Principal} (hwho : r.principal = .ok who)
    (hroute : route = .event ∨ route = .batch) (hlen : Body.byteLimit < r.body.length) :
    publishRequest s route r =
      if bufferLimit < r.body.length then
        pure (.text 413 "Failed to buffer the request body: length limit exceeded")
      else pure (.ofRejection (.validation "VALID_002" [sizeText r.body.length])) := by
  have hevents : eventsOf route r.body =
      .error (.validation .batchTooLarge (sizeText r.body.length)) := by
    unfold eventsOf
    rw [checkSize_of_lt hlen]
    rfl
  unfold publishRequest
  simp only [hwho, if_neg (ne_internal_of_public hroute), publishBody, hevents]
  rfl

/-- A body above the limit is refused for its size, whatever it holds and before anything is asked
or counted, exactly if it can be taken in; if not, the answer is no error of the gateway at all.  No
answer to a body within the limit speaks of its size. -/
theorem oversized_body (s : InternalSettings) (r : Request) (hpost : r.method = "POST")
    (hpath : r.path = "/v1/events" ∨ r.path = "/v1/events/batch") (σ : Strategy protocol) :
    (r.body.length ≤ Body.byteLimit → ¬TellsSize ((handle s r).play σ []).2) ∧
      ∀ who, r.principal = .ok who → Body.byteLimit < r.body.length →
        ((handle s r).play σ []).1 = [] ∧
          (RefusedForSize r.body.length ((handle s r).play σ []).2 ↔ r.body.length ≤ bufferLimit) ∧
          (bufferLimit < r.body.length → ((handle s r).play σ []).2 = untaken) := by
  obtain ⟨route, hof, hroute⟩ : ∃ route, Route.ofPath? r.path = some route ∧
      (route = .event ∨ route = .batch) := by
    obtain hpath | hpath := hpath
    · exact ⟨.event, by rw [hpath]; rfl, .inl rfl⟩
    · exact ⟨.batch, by rw [hpath]; rfl, .inr rfl⟩
  rw [handle_of_public s hof hpost hroute, play_map]
  refine ⟨fun hlen => ?_, fun who hwho hlen => ?_⟩
  · exact mt TellsSize.of_headers ((publishRequest_within s hroute hlen).played σ)
  rw [publishRequest_above s hwho hroute hlen]
  by_cases htaken : bufferLimit < r.body.length
  · rw [if_pos htaken]
    refine ⟨rfl, ⟨fun h => ?_, fun h => absurd htaken (Nat.not_lt.2 h)⟩, fun _ => rfl⟩
    cases h.status_eq
  · rw [if_neg htaken]
    refine ⟨rfl, ⟨fun _ => Nat.le_of_not_lt htaken, fun _ => ⟨rfl, ?_, rfl⟩⟩,
      fun h => absurd h htaken⟩
    exact List.mem_cons_of_mem _ List.mem_cons_self

/-- A request of a group that posts so many blanks. -/
def blanksPosted (n : Nat) : Request := { onePosted with body := List.replicate n 0x20 }

theorem blanksPosted_path (n : Nat) : (blanksPosted n).path = "/v1/events" := by
  have hpath : onePosted.path = "/v1/events" := by decide +kernel
  exact hpath

theorem blanksPosted_principal (n : Nat) : (blanksPosted n).principal = .ok ⟨"group", ""⟩ :=
  onePosted_holds.principal_eq

/-- One byte too many is refused for its size. -/
theorem oversized_body_oneByte :
    (blanksPosted 1048577).method = "POST" ∧ (blanksPosted 1048577).path = "/v1/events" ∧
      (blanksPosted 1048577).principal = .ok ⟨"group", ""⟩ ∧
      Body.byteLimit < (blanksPosted 1048577).body.length ∧
      RefusedForSize 1048577
        ((handle .default (blanksPosted 1048577)).play (fun _ => refusing) []).2 := by
  have hlength : (blanksPosted 1048577).body.length = 1048577 := List.length_replicate
  have hlimit : Body.byteLimit < (blanksPosted 1048577).body.length := by
    rw [hlength]
    decide
  have hrefused := ((oversized_body .default (blanksPosted 1048577) rfl (.inl (blanksPosted_path _))
    fun _ => refusing).2 _ (blanksPosted_principal _) hlimit).2.1
  rw [hlength] at hrefused
  exact ⟨rfl, blanksPosted_path _, blanksPosted_principal _, hlimit, hrefused.2 (by decide)⟩

/-- A body of one byte more than can be taken in gets another answer. -/
theorem overlong_answered_plain :
    (blanksPosted 2097153).path = "/v1/events" ∧
      (blanksPosted 2097153).principal = .ok ⟨"group", ""⟩ ∧
      Body.byteLimit < (blanksPosted 2097153).body.length ∧
      ((handle .default (blanksPosted 2097153)).play (fun _ => refusing) []).2 = untaken ∧
      ¬RefusedForSize 2097153
        ((handle .default (blanksPosted 2097153)).play (fun _ => refusing) []).2 := by
  have hlength : (blanksPosted 2097153).body.length = 2097153 := List.length_replicate
  have hlimit : Body.byteLimit < (blanksPosted 2097153).body.length := by
    rw [hlength]
    decide
  have hroute : Route.ofPath? (blanksPosted 2097153).path = some .event := by
    rw [blanksPosted_path]
    rfl
  have hanswer : ((handle .default (blanksPosted 2097153)).play (fun _ => refusing) []).2 =
      untaken := by
    rw [handle_of_public .default hroute rfl (.inl rfl),
      publishRequest_above .default (blanksPosted_principal _) (.inl rfl) hlimit, hlength,
      if_pos (by decide), play_map]
    rfl
  refine ⟨blanksPosted_path _, blanksPosted_principal _, hlimit, hanswer, fun h => ?_⟩
  rw [hanswer] at h
  cases h.status_eq

end Sluice.Gateway
