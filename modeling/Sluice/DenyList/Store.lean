import Sluice.DenyList.Load
import Sluice.Http.Client

/-!
# The store of the deny-list

The store serves pages of rules as JSON over HTTP.
-/

namespace Sluice

open Json (Reader Value Field Record)

/-- Where the store is, and how it is read. -/
structure DenyListSettings where
  /-- The address that the path of requests is added to. -/
  url : String
  /-- The most rules of a page. -/
  pageSize : UInt32
  /-- The seconds between loads; zero means that there is only the first. -/
  refreshSecs : UInt64
  /-- The most milliseconds of a request. -/
  timeoutMs : UInt64
deriving DecidableEq, Repr

namespace DenyListSettings

/-- The settings that hold unless others are given. -/
def default : DenyListSettings := ⟨"http://denylist:8080", 100, 0, 5000⟩

/-- The fields of the settings. -/
def record : Record DenyListSettings where
  title := "struct DenyListConfig"
  blank := default
  fields :=
    [.defaulted "url" Reader.string fun v s => { s with url := v },
      .defaulted "page_size" Reader.uint32 fun v s => { s with pageSize := v },
      .defaulted "refresh_interval_secs" Reader.uint64 fun v s => { s with refreshSecs := v },
      .defaulted "timeout_ms" Reader.uint64 fun v s => { s with timeoutMs := v }]

def toJson (s : DenyListSettings) : Value :=
  .object [("url", .string s.url), ("page_size", .whole s.pageSize.toNat),
    ("refresh_interval_secs", .whole s.refreshSecs.toNat),
    ("timeout_ms", .whole s.timeoutMs.toNat)]

end DenyListSettings

namespace DenyStore

/-- The fault of a call without an answer. -/
def unreachable (f : Http.CallFailure) : Fault :=
  .internal ("deny-list store unreachable: " ++ f.message)

/-- The rules in an answer. -/
def rules (r : Http.Reply) : Except Fault (List DenyRule) :=
  if Http.isSuccess r.status then
    match r.json DenyPage.record.reader with
    | some page => .ok page.rules
    | none => .error (.internal ("invalid deny-list page: " ++ Http.unreadableBody))
  else
    .error (.internal ("deny-list store returned " ++ Http.statusText r.status ++ ": " ++ r.text))

/-- The address of a page. -/
def pageUrl (s : DenyListSettings) (q : DenyLoad.PageRequest) : Except Http.CallFailure Http.Url :=
  Http.callUrl (Http.trimSlashes s.url ++ "/v1/denylist")
    [("limit", toString q.limit.toNat), ("cursor", q.cursor)]

/-- A page of the store. -/
def page (s : DenyListSettings) (q : DenyLoad.PageRequest) :
    Dialogue Http.calls (Except Fault (List DenyRule)) :=
  match pageUrl s q with
  | .error f => pure (.error (unreachable f))
  | .ok url => do
    let reply : Option Http.Reply ← Dialogue.question (P := Http.calls) (.get url)
    return match Http.answerFrom url reply with
      | .error f => .error (unreachable f)
      | .ok r => rules r

end DenyStore

end Sluice
