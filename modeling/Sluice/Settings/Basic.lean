import Sluice.Broker.Settings
import Sluice.DenyList.Store
import Sluice.Gateway.Publishing
import Sluice.Quota.Authority
import Sluice.Settings.Reading

/-!
# The settings of the gateway

Where the gateway listens, and the settings of its parts.
-/

namespace Sluice

open Json (Value)

/-- The settings of the gateway. -/
structure Settings where
  /-- The address to listen at. -/
  host : String
  /-- The port to listen at. -/
  port : UInt16
  broker : BrokerSettings
  quota : QuotaSettings
  /-- The store of the deny-list. -/
  denyList : DenyListSettings
  /-- The internal path. -/
  internal : Gateway.InternalSettings
deriving DecidableEq

namespace Settings

/-- The settings that hold unless others are given. -/
def default : Settings := ⟨"0.0.0.0", 8080, .default, .default, .default, .default⟩

def toJson (s : Settings) : Value :=
  .object [("host", .string s.host), ("port", .whole s.port.toNat),
    ("redpanda", s.broker.toJson), ("quota", s.quota.toJson),
    ("deny_list", s.denyList.toJson), ("internal", s.internal.toJson)]

/-! ## As a layer -/

mutual

/-- A JSON value as a value of settings that was given nowhere. -/
def Tree.ofJson : Value → Tree
  | .null => .scalar .nothing .builtIn
  | .boolean b => .scalar (.boolean b) .builtIn
  | .number (.whole n) => .scalar (.integer (Int64.ofInt n)) .builtIn
  | .number (.fraction t) => .scalar (.text t) .builtIn
  | .string s => .scalar (.text s) .builtIn
  | .list l => .list (Tree.ofJsonItems l) .builtIn
  | .object m => .table (Tree.ofJsonMembers m) .builtIn

/-- The items of a list as values of settings. -/
def Tree.ofJsonItems : List Value → List Tree
  | [] => []
  | v :: r => Tree.ofJson v :: Tree.ofJsonItems r

/-- The members of an object as values of settings. -/
def Tree.ofJsonMembers : List (String × Value) → List (String × Tree)
  | [] => []
  | (k, v) :: r => (k, Tree.ofJson v) :: Tree.ofJsonMembers r

end

/-! ## From a tree -/

/-- The settings of the sink. -/
def brokerSection : Section BrokerSettings where
  title := BrokerSettings.record.title
  blank := .default
  fields :=
    [⟨"brokers", true, fun t s => (t.readList Tree.readText).map fun v => { s with brokers := v }⟩,
      .of "topic" Tree.readText fun v s => { s with topic := v },
      .of "partition" Tree.readInt32 fun v s => { s with partition := v },
      .of "compression" Tree.readText fun v s => { s with compression := v },
      .of "request_timeout_ms" Tree.readUnsigned fun v s => { s with timeoutMs := v },
      .of "sasl_username" (Tree.readOptional Tree.readText) fun v s => { s with username := v },
      .of "sasl_password" (Tree.readOptional Tree.readText) fun v s => { s with password := v }]

/-- The settings of the quota authority. -/
def quotaSection : Section QuotaSettings where
  title := QuotaSettings.record.title
  blank := .default
  fields :=
    [.of "url" Tree.readText fun v s => { s with url := v },
      .of "timeout_ms" Tree.readUnsigned fun v s => { s with timeoutMs := v }]

/-- The settings of the store of the deny-list. -/
def denyListSection : Section DenyListSettings where
  title := DenyListSettings.record.title
  blank := .default
  fields :=
    [.of "url" Tree.readText fun v s => { s with url := v },
      .of "page_size" (Tree.readNatural 32) fun v s => { s with pageSize := UInt32.ofNat v },
      .of "refresh_interval_secs" Tree.readUnsigned fun v s => { s with refreshSecs := v },
      .of "timeout_ms" Tree.readUnsigned fun v s => { s with timeoutMs := v }]

/-- The settings of the internal path. -/
def internalSection : Section Gateway.InternalSettings where
  title := Gateway.InternalSettings.record.title
  blank := .default
  fields :=
    [.of "marker_name" Tree.readText fun v s => { s with markerName := v },
      .of "marker_value" Tree.readInt32 fun v s => { s with markerValue := v },
      .of "rate_per_minute" (Tree.readNatural 32) fun v s => { s with perMinute := UInt32.ofNat v }]

def rootSection : Section Settings where
  title := "struct Config"
  blank := default
  fields :=
    [.of "host" Tree.readText fun v s => { s with host := v },
      .of "port" (Tree.readNatural 16) fun v s => { s with port := UInt16.ofNat v },
      .of "redpanda" brokerSection.read fun v s => { s with broker := v },
      .of "quota" quotaSection.read fun v s => { s with quota := v },
      .of "deny_list" denyListSection.read fun v s => { s with denyList := v },
      .of "internal" internalSection.read fun v s => { s with internal := v }]

end Settings

end Sluice
