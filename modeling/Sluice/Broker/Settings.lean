import Sluice.Json.Value

/-!
# Settings of the sink

Where the brokers are, and which topic and partition events are written to.
-/

namespace Sluice

open Json (Reader Value Field Record)

/-- How the records of a batch are compressed. -/
inductive Codec where
  | none
  | gzip
  | snappy
  | lz4
  | zstd
deriving DecidableEq, Repr

/-- The name of a codec. -/
def Codec.name : Codec → String
  | .none => "none"
  | .gzip => "gzip"
  | .snappy => "snappy"
  | .lz4 => "lz4"
  | .zstd => "zstd"

/-- The codec of a name; a name that is not known means no compression. -/
def Codec.ofName (name : String) : Codec :=
  ([Codec.gzip, .snappy, .lz4, .zstd].find? (·.name == name)).getD .none

/-- The settings of the sink. -/
structure BrokerSettings where
  /-- The addresses of the brokers. -/
  brokers : List String
  topic : String
  partition : Int32
  /-- The name of the codec. -/
  compression : String
  /-- The most milliseconds of a batch. -/
  timeoutMs : UInt64
  /-- The name of the user. -/
  username : Option String
  /-- The password of the user. -/
  password : Option String
deriving DecidableEq

namespace BrokerSettings

/-- The settings that hold unless others are given. -/
def default : BrokerSettings := ⟨["localhost:9092"], "published", 0, "lz4", 10000, none, none⟩

/-- The addresses of the brokers as one text. -/
def brokerText (s : BrokerSettings) : String := ",".intercalate s.brokers

/-- The user and the password, when both are given. -/
def credentials (s : BrokerSettings) : Option (String × String) :=
  match s.username, s.password with
  | some user, some password => some (user, password)
  | _, _ => none

/-- The fields of the settings. -/
def record : Record BrokerSettings where
  title := "struct RedpandaConfig"
  blank := default
  fields :=
    [.needed "brokers" Reader.string.list fun v s => { s with brokers := v },
      .defaulted "topic" Reader.string fun v s => { s with topic := v },
      .defaulted "partition" Reader.int32 fun v s => { s with partition := v },
      .defaulted "compression" Reader.string fun v s => { s with compression := v },
      .defaulted "request_timeout_ms" Reader.uint64 fun v s => { s with timeoutMs := v },
      .defaulted "sasl_username" Reader.string.orNull fun v s => { s with username := v },
      .defaulted "sasl_password" Reader.string.orNull fun v s => { s with password := v }]

def toJson (s : BrokerSettings) : Value :=
  .object [("brokers", .list (s.brokers.map .string)), ("topic", .string s.topic),
    ("partition", .whole s.partition.toInt), ("compression", .string s.compression),
    ("request_timeout_ms", .whole s.timeoutMs.toNat),
    ("sasl_username", .orNull .string s.username), ("sasl_password", .orNull .string s.password)]

end BrokerSettings

end Sluice
