import TelemetryHub.Text

/-!
# JSON values

`serde_json::Value`, its readers, and the conversions `json!` performs. What the
hub takes from outside its own crates and from the machine is collected in
`Host`: number formatting and parsing, the calendar, base64 and CSV.
-/

namespace TelemetryHub

/-- `serde_json::Number`. -/
inductive Number where
  | int (n : Int)
  | float (x : Float)

/-- `serde_json::Value`; an object is the list of its entries. -/
inductive Value where
  | null
  | bool (b : Bool)
  | number (n : Number)
  | string (s : String)
  | array (items : List Value)
  | object (fields : List (String × Value))

/-- One reading of the wall clock: `timestamp_millis` and the RFC 3339 text. -/
structure Instant where
  timestampMillis : Int
  rfc3339 : String
  deriving DecidableEq

/-- The functions of the crates and of the machine the hub relies on. -/
class Host where
  /-- `Number::to_string` of a floating-point number. -/
  floatText : Float → String
  /-- `str::parse::<f64>`. -/
  parseFloat : String → Option Float
  /-- `DateTime::parse_from_rfc3339(..).timestamp()`. -/
  parseRfc3339 : String → Option Int
  /-- `DateTime::from_timestamp_millis(..).to_rfc3339_opts(AutoSi, true)`. -/
  millisText : Int → Option String
  /-- `BASE64_STANDARD.decode`. -/
  base64Decode : String → Option (List UInt8)
  /-- `decode_utf8_ignoring_errors`. -/
  decodeUtf8 : List UInt8 → String
  /-- `csv::Reader::records`: the rows up to the first error, and its text. -/
  csvRecords : String → List (List String) × Option String
  /-- `Path::file_stem` as a string. -/
  fileStem : String → Option String
  /-- `RECENT_ANNOUNCE_WINDOW_MS` of the delivery crate. -/
  recentAnnounceWindowMs : Int
  /-- `Value::to_string`: the serialised text. -/
  valueText : Value → String
  /-- The MECP keywords of a log text: `append_mecp_keywords` on no keywords. -/
  mecpKeywords : String → List String
  /-- `mecp_log_entry_value`. -/
  mecpLogEntryValue : String → Value

/-- A host whose formatters and parsers know the Unix epoch and nothing else. -/
@[reducible] def Host.blank : Host where
  floatText _ := ""
  parseFloat _ := none
  parseRfc3339 text := if text = "1970-01-01T00:00:00Z" then some 0 else none
  millisText millis := if millis = 0 then some "1970-01-01T00:00:00Z" else none
  base64Decode _ := none
  decodeUtf8 _ := ""
  csvRecords _ := ([], none)
  fileStem _ := none
  recentAnnounceWindowMs := 3600000
  valueText _ := ""
  mecpKeywords _ := []
  mecpLogEntryValue _ := .null

namespace Value

/-- `Value::as_object`. -/
def asObject : Value → Option (List (String × Value))
  | object fields => some fields
  | _ => none

/-- `Value::is_object`. -/
def isObject (v : Value) : Bool := v.asObject.isSome

/-- `Value::as_array`. -/
def asArray : Value → Option (List Value)
  | array items => some items
  | _ => none

/-- `Value::as_str`. -/
def asStr : Value → Option String
  | string s => some s
  | _ => none

/-- `Value::as_bool`. -/
def asBool : Value → Option Bool
  | bool b => some b
  | _ => none

/-- `Value::is_null`. -/
def isNull : Value → Bool
  | null => true
  | _ => false

/-- `Value::as_i64`. -/
def asI64 : Value → Option Int
  | number (.int n) => if inI64 n then some n else none
  | _ => none

/-- `Value::as_f64`. -/
def asF64 : Value → Option Float
  | number (.int n) => some (Float.ofInt n)
  | number (.float x) => some x
  | _ => none

/-- `Value::get` with a key. -/
def get (v : Value) (key : String) : Option Value := v.asObject.bind fun fields => fields.lookup key

/-- `object.contains_key`, and false of what is no object. -/
def containsKey (v : Value) (key : String) : Bool := (v.get key).isSome

/-- `value[key] = item` on an object. -/
def insert (v : Value) (key : String) (item : Value) : Value :=
  match v with
  | object fields =>
    object (if fields.any (fun f => f.1 == key) then
      fields.map fun f => if f.1 == key then (key, item) else f
    else fields ++ [(key, item)])
  | _ => v

end Value

/-- What `json!` accepts as a value. -/
class ToValue (α : Type) where
  toValue : α → Value

export ToValue (toValue)

instance : ToValue Value := ⟨id⟩
instance : ToValue String := ⟨.string⟩
instance : ToValue Bool := ⟨.bool⟩
instance : ToValue Int := ⟨fun n => .number (.int n)⟩
instance : ToValue Nat := ⟨fun n => .number (.int n)⟩
instance : ToValue Float := ⟨fun x => .number (.float x)⟩
instance {α : Type} [ToValue α] : ToValue (Option α) := ⟨fun o => o.elim .null toValue⟩
instance {α : Type} [ToValue α] : ToValue (List α) := ⟨fun l => .array (l.map toValue)⟩

section Readers

variable [Host]

/-- `value_as_str`. -/
def valueAsStr : Value → Option String
  | .string s => some s
  | .number (.int n) => some (toString n)
  | .number (.float x) => some (Host.floatText x)
  | .bool b => some (toString b)
  | .null | .array _ | .object _ => none

/-- `value_as_i64`. -/
def valueAsI64 (v : Value) : Option Int := v.asI64.or (v.asStr.bind parseI64)

/-- `value_as_f64`. -/
def valueAsF64 (v : Value) : Option Float := v.asF64.or (v.asStr.bind Host.parseFloat)

/-- `millis_to_rfc3339`. -/
def millisToRfc3339 (timestampMs : Int) : String :=
  (Host.millisText timestampMs).getD "1970-01-01T00:00:00Z"

end Readers
end TelemetryHub
