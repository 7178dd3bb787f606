import Sluice.Event.Basic
import Sluice.Json.Value
import Sluice.Text.Base64
import Sluice.Time.Rfc3339

/-!
# Events as JSON

An event is an object with the fields `id`, `specVersion`, `source`, `type`, `attributes` and
`textData`, the last only if there is a text.  An attribute value is an object with its kind as the
only key.  Reading also takes the spellings with underscores, fields left out other than `id`, and
an event as the list of its fields.
-/

namespace Sluice

open Json (Reader Value Cause Field Record Alternative)

/-! ## Attribute values -/

def Timestamp.reader : Reader Timestamp :=
  (Reader.stringAs "an RFC 3339 formatted date and time string").accept fun s =>
    (Timestamp.read s).mapError fun e => .refused e.message

/-- A reader of bytes in base64. -/
def base64Reader : Reader (List UInt8) :=
  Reader.string.acceptWithin fun s =>
    (Text.Base64.decode (Text.bytes s)).mapError fun e => .refused e.message

/-- Bytes in base64. -/
def base64Text (b : List UInt8) : String :=
  String.ofList ((Text.Base64.encode b).map fun b => Char.ofNat b.toNat)

namespace AttributeValue

/-- The name of the kind of a value. -/
def kindName : AttributeValue → String
  | .boolean _ => "ceBoolean"
  | .bytes _ => "ceBytes"
  | .integer _ => "ceInteger"
  | .string _ => "ceString"
  | .timestamp _ => "ceTimestamp"
  | .uri _ => "ceUri"
  | .uriReference _ => "ceUriRef"

/-- A value without its kind, as JSON. -/
def content : AttributeValue → Value
  | .boolean b => .boolean b
  | .bytes b => .string (base64Text b)
  | .integer n => .whole n.toInt
  | .string s => .string s
  | .timestamp t => .string t.text
  | .uri s => .string s
  | .uriReference s => .string s

def toJson (v : AttributeValue) : Value := .object [(v.kindName, v.content)]

/-- An alternative with two spellings of its name. -/
def alternative {α : Type} (name other : String) (r : Reader α) (f : α → AttributeValue) :
    Alternative AttributeValue :=
  ⟨[name, other], none, r.map f⟩

/-- The kinds of values. -/
def alternatives : List (Alternative AttributeValue) :=
  [alternative "ceBoolean" "ce_boolean" Reader.boolean .boolean,
    alternative "ceBytes" "ce_bytes" base64Reader .bytes,
    alternative "ceInteger" "ce_integer" Reader.int32 .integer,
    alternative "ceString" "ce_string" Reader.string .string,
    alternative "ceTimestamp" "ce_timestamp" Timestamp.reader .timestamp,
    alternative "ceUri" "ce_uri" Reader.string .uri,
    alternative "ceUriRef" "ce_uri_ref" Reader.string .uriReference]

def reader : Reader AttributeValue := .tagged alternatives

end AttributeValue

/-! ## Events -/

def Attributes.toJson (a : Attributes) : Value :=
  .object (a.entries.map fun (name, v) => (name, v.toJson))

/-- A reader of attributes; of two values under one name the later stays. -/
def Attributes.reader : Reader Attributes :=
  .members "a map" ⟨fun a name => .ok (AttributeValue.reader.map (a.insert name))⟩ .empty .ok

namespace Event

def toJson (e : Event) : Value :=
  .object <|
    [("id", .string e.id), ("specVersion", .string e.specVersion), ("source", .string e.source),
      ("type", .string e.type), ("attributes", e.attributes.toJson)] ++
    match e.text with
    | some t => [("textData", .string t)]
    | none => []

/-- The compact text of an event. -/
def wire (e : Event) : String := e.toJson.render

/-- The fields of an event. -/
def record : Record Event where
  title := "struct Event"
  blank := ⟨"", "", "", "", .empty, none⟩
  fields :=
    [.needed "id" Reader.string fun v e => { e with id := v },
      (Field.defaulted "specVersion" Reader.string fun v e => { e with specVersion := v }).alsoNamed
        "spec_version",
      .defaulted "source" Reader.string fun v e => { e with source := v },
      .defaulted "type" Reader.string fun v e => { e with type := v },
      .defaulted "attributes" Attributes.reader fun v e => { e with attributes := v },
      (Field.defaulted "textData" Reader.string.orNull fun v e => { e with text := v }).alsoNamed
        "text_data"]

def reader : Reader Event := record.reader

end Event

end Sluice
