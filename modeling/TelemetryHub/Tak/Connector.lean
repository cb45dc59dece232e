import TelemetryHub.Lib.Calendar
import TelemetryHub.Lib.Protobuf
import TelemetryHub.Lib.Xml
import TelemetryHub.Server.Envelope

/-!
# The TAK connector

The events it builds as XML, and the frame it sends in place of the XML where `tak_proto` is
chosen: the XML is parsed again, and what it says is encoded as a protocol buffer.
-/

namespace TelemetryHub

open Lib

/-! ## Times -/

/-- `DateTime<Utc>`: seconds since the epoch and nanoseconds, a thousand million and more of
these in a leap second. -/
structure DateTimeUtc where
  seconds : Int
  nanosecond : Nat
  nanosecond_lt : nanosecond < 2000000000

namespace DateTimeUtc

variable (t : DateTimeUtc)

/-- `timestamp.year()`. -/
def year : Int := (Calendar.civilOf (t.seconds / 86400)).year

/-- `timestamp.month()`. -/
def month : Nat := (Calendar.civilOf (t.seconds / 86400)).month.toNat

/-- `timestamp.day()`. -/
def day : Nat := (Calendar.civilOf (t.seconds / 86400)).day.toNat

/-- `timestamp.hour()`. -/
def hour : Nat := (t.seconds % 86400).toNat / 3600

/-- `timestamp.minute()`. -/
def minute : Nat := (t.seconds % 86400).toNat / 60 % 60

/-- `timestamp.second()`. -/
def second : Nat := (t.seconds % 86400).toNat % 60

/-- The last second of `DateTime::<Utc>::MAX_UTC`. -/
def lastSecond : Int := Calendar.daysOf { year := 262142, month := 12, day := 31 } * 86400 + 86399

/-- `timestamp + duration`, of a second or more; past the last second it panics. A leap second
counts as the one before it. -/
def plus (nanoseconds : Nat) : Option DateTimeUtc :=
  let total := (if t.nanosecond < 1000000000 then t.nanosecond else t.nanosecond - 1000000000) + nanoseconds
  let seconds := t.seconds + (total / 1000000000 : Nat)
  if seconds ≤ lastSecond then
    some { seconds, nanosecond := total % 1000000000, nanosecond_lt := by omega }
  else none

end DateTimeUtc

/-- `{:04}` of a year. -/
def paddedYear (year : Int) : List Char :=
  if year < 0 then '-' :: Calendar.padded 3 year.natAbs else Calendar.padded 4 year.toNat

/-- What the three formats begin with. -/
def formatCotDate (t : DateTimeUtc) : List Char :=
  paddedYear t.year ++ '-' :: (Calendar.padded 2 t.month ++ '-' :: (Calendar.padded 2 t.day ++ 'T' ::
    (Calendar.padded 2 t.hour ++ ':' :: (Calendar.padded 2 t.minute ++ ':' :: Calendar.padded 2 t.second))))

/-- `format_cot_seconds`. -/
def formatCotSeconds (t : DateTimeUtc) : String := String.ofList (formatCotDate t ++ ['Z'])

/-- `format_cot_millis`. -/
def formatCotMillis (t : DateTimeUtc) : String :=
  String.ofList (formatCotDate t ++ '.' :: (Calendar.padded 3 (t.nanosecond / 1000000) ++ ['Z']))

/-- `format_cot_micros`. -/
def formatCotMicros (t : DateTimeUtc) : String :=
  String.ofList (formatCotDate t ++ '.' :: (Calendar.padded 6 (t.nanosecond / 1000) ++ ['Z']))

/-! ## Messages -/

/-- `TakProtoDetail`. -/
structure TakProtoDetail where
  xmlDetail : String
  deriving DecidableEq

/-- `TakProtoCotEvent`. -/
structure TakProtoCotEvent (F : Type) where
  type : String
  access : String
  qos : String
  opex : String
  uid : String
  sendTime : Nat
  startTime : Nat
  staleTime : Nat
  how : String
  lat : F
  lon : F
  hae : F
  ce : F
  le : F
  detail : Option TakProtoDetail

/-- `TakProtoMessage`. -/
structure TakProtoMessage (F : Type) where
  cotEvent : Option (TakProtoCotEvent F)

/-- What the connector takes from the standard library's floats and from other crates. -/
class TakHost (F : Type) where
  /-- `f64::is_finite`. -/
  finite : F → Bool
  /-- `==` of floats. -/
  same : F → F → Prop
  same_self : ∀ {x}, finite x = true → same x x
  /-- `value.fract() == 0.0`. -/
  whole : F → Bool
  /-- `{value:.1}`. -/
  displayTenths : F → String
  /-- `value.to_string()`. -/
  display : F → String
  /-- `text.parse::<f64>()`. -/
  parseFloat : String → Option F
  parse_displayTenths : ∀ {x}, finite x = true → whole x = true → parseFloat (displayTenths x) = some x
  parse_display : ∀ {x}, finite x = true → parseFloat (display x) = some x
  displayTenths_chars : ∀ x, ∀ c ∈ (displayTenths x).toList, Xml.nameChar c = true
  display_chars : ∀ x, ∀ c ∈ (display x).toList, Xml.nameChar c = true
  /-- `0.0`. -/
  zero : F
  zero_finite : finite zero = true
  parse_zero : parseFloat "0.0" = some zero
  /-- `9999999.0`. -/
  unknown : F
  unknown_finite : finite unknown = true
  parse_unknown : parseFloat "9999999.0" = some unknown
  /-- `seconds.max(1.0) * 2.0`. -/
  staleDelta : F → F
  /-- `std::time::Duration::from_secs_f64`, in nanoseconds; where there is none it panics. -/
  fromSecs : F → Option Nat
  /-- What `quick_xml` reads of a text. -/
  xmlEvents : List Char → List (Option Xml.Event)
  xmlEvents_reads : Xml.Reads xmlEvents
  /-- `chrono::DateTime::parse_from_rfc3339`, in milliseconds since the epoch. -/
  parseFromRfc3339 : List Char → Option Int
  parseFromRfc3339_text : ∀ {seconds digits},
    0 ≤ (Calendar.civilOf (seconds / 86400)).year ∧ (Calendar.civilOf (seconds / 86400)).year ≤ 9999 →
    (∀ c ∈ digits, Char.isDigit c = true) →
    parseFromRfc3339 (Calendar.secondsText seconds ++ (Calendar.fractionText digits ++ ['Z'])) =
      some (seconds * 1000 + Calendar.fractionMillis digits)
  /-- `prost::Message::encode`, and `decode`. -/
  encode : TakProtoMessage F → List UInt8
  decode : List UInt8 → Option (TakProtoMessage F)
  decode_encode : ∀ cot : TakProtoCotEvent F,
    cot.sendTime < 2 ^ 64 ∧ cot.startTime < 2 ^ 64 ∧ cot.staleTime < 2 ^ 64 →
    (finite cot.lat = true ∧ finite cot.lon = true ∧ finite cot.hae = true ∧ finite cot.ce = true ∧ finite cot.le = true) →
    ∃ lat lon hae ce le, decode (encode { cotEvent := some cot }) = some { cotEvent := some { cot with lat, lon, hae, ce, le } } ∧
      same lat cot.lat ∧ same lon cot.lon ∧ same hae cot.hae ∧ same ce cot.ce ∧ same le cot.le

/-! ## Configuration and labels -/

/-- `TakConnectionConfig`, what the events take of it. -/
structure TakConnectionConfig (F : Type) where
  cotUrl : String
  callsign : String
  pollIntervalSeconds : F

/-- `EVENT_TYPE_LOCATION`. -/
def eventTypeLocation : String := "a-f-G-U-C"

/-- `EVENT_HOW`. -/
def eventHow : String := "h-g-i-g-o"

/-- `CHAT_LINK_TYPE`. -/
def chatLinkType : String := "a-f-G-U-C-I"

/-- `CHAT_EVENT_TYPE`. -/
def chatEventType : String := "b-t-f"

/-- `TAKV_VERSION`. -/
def takvVersion : String := "0.44.0"

/-- `TAKV_PLATFORM`. -/
def takvPlatform : String := "RetTAK"

/-- `TAKV_OS`. -/
def takvOs : String := "ubuntu"

/-- `TAKV_DEVICE`. -/
def takvDevice : String := "not your business"

/-- `GROUP_NAME`. -/
def groupName : String := "Yellow"

/-- `GROUP_ROLE`. -/
def groupRole : String := "Team Member"

/-- `KEEPALIVE_EVENT_TYPE`. -/
def keepaliveEventType : String := "t-x-d-d"

/-- `KEEPALIVE_HOW`. -/
def keepaliveHow : String := "m-g"

/-- `PING_UID`. -/
def pingUid : String := "takPing"

/-- `PONG_UID`. -/
def pongUid : String := "takPong"

/-- `DEFAULT_COT_VALUE`. -/
def defaultCotValue : String := "9999999.0"

/-- `str::replace` of a character. -/
def replaceChar (c : Char) (replacement : String) (text : String) : String :=
  String.ofList (text.toList.flatMap fun other => if other = c then replacement.toList else [other])

/-- `normalize_hash` of the connector. -/
def normalizePeerHash (peerHash : Option String) : String := replaceChar ':' "" (trim (peerHash.getD ""))

/-- `uid_from_hash`. -/
def uidFromHash (peerHash : Option String) (fallbackCallsign : String) : String :=
  let normalized := normalizePeerHash peerHash
  if normalized.isEmpty then fallbackCallsign else normalized

/-- Where a text begins in another. -/
def findChars (sought : List Char) : List Char → Option Nat
  | [] => if sought.isEmpty then some 0 else none
  | c :: text => if sought.isPrefixOf (c :: text) then some 0 else (findChars sought text).map (· + 1)

/-- `CotUrl::parse`: the scheme, and the host with its port. -/
def parseCotUrl (cotUrl : String) : Option (String × String) :=
  (findChars "://".toList cotUrl.toList).bind fun index =>
    let scheme := String.ofList (cotUrl.toList.take index)
    let hostPortPath := ((splitChars '/' (cotUrl.toList.drop (index + 3))).head?).getD []
    let hostPort := trim (String.ofList (((splitChars '@' hostPortPath).getLast?).getD hostPortPath))
    if scheme.isEmpty || hostPort.isEmpty then none else some (toAsciiLowercase scheme, hostPort)

/-- `cot_endpoint`. -/
def cotEndpoint (cotUrl : String) : Option String :=
  (parseCotUrl cotUrl).map fun (scheme, hostPort) => hostPort ++ ":" ++ scheme

/-- `escape_attr`. -/
def escapeAttr (value : String) : String :=
  replaceChar '>' "&gt;" (replaceChar '<' "&lt;" (replaceChar '"' "&quot;" (replaceChar '&' "&amp;" value)))

/-- `escape_text`. -/
def escapeText (value : String) : String := replaceChar '>' "&gt;" (replaceChar '<' "&lt;" (replaceChar '&' "&amp;" value))

/-- `sanitize_flow_tag_name`. -/
def sanitizeFlowTagName (value : String) : String :=
  let sanitized := String.ofList (value.toList.map fun ch =>
    if ch.isAlphanum || ch == '_' || ch == '-' || ch == '.' then ch else '-')
  if sanitized.isEmpty then "R3AKT" else sanitized

/-! ## Events -/

/-- `LocationSnapshot`. -/
structure LocationSnapshot (F : Type) where
  latitude : F
  longitude : F
  altitude : F
  speed : F
  bearing : F
  accuracy : F
  updatedAt : DateTimeUtc
  peerHash : Option String

/-- `ChatEventInput`. -/
structure ChatEventInput where
  content : String
  senderLabel : String
  topicId : Option String
  sourceHash : Option String
  timestamp : DateTimeUtc
  messageUuid : Option String

section Host

variable {F : Type} [TakHost F]

/-- `format_float`. -/
def formatFloat (value : F) : String := if TakHost.whole value then TakHost.displayTenths value else TakHost.display value

namespace TakConnectionConfig

variable (config : TakConnectionConfig F)

/-- Until when a location built now is good. -/
def locationStale (now : DateTimeUtc) : Option DateTimeUtc :=
  (TakHost.fromSecs (TakHost.staleDelta config.pollIntervalSeconds)).bind fun nanoseconds =>
    -- `chrono::Duration::from_std`, two seconds past the largest one
    now.plus (if nanoseconds ≤ (2 ^ 63 - 1) * 1000000 then nanoseconds else 2000000000)

/-- The callsign a location is shown under. -/
def locationCallsign (snapshot : LocationSnapshot F) (identityLabel : Option String) : String :=
  ((identityLabel.map trim).filter fun value => !value.isEmpty).getD (uidFromHash snapshot.peerHash config.callsign)

/-- The endpoint among the attributes of a contact. -/
def endpointAttr : String :=
  ((cotEndpoint config.cotUrl).map fun value => " endpoint=\"" ++ escapeAttr value ++ "\"").getD ""

/-- `build_location_xml`. -/
def buildLocationXml (snapshot : LocationSnapshot F) (now : DateTimeUtc) (identityLabel : Option String) : Option String :=
  let uid := uidFromHash snapshot.peerHash config.callsign
  let callsign := config.locationCallsign snapshot identityLabel
  (config.locationStale now).map fun stale =>
    "<event version=\"2.0\" uid=\"" ++ escapeAttr uid ++ "\" type=\"" ++ eventTypeLocation ++ "\" how=\"" ++ eventHow ++
      "\" time=\"" ++ formatCotSeconds now ++ "\" start=\"" ++ formatCotSeconds snapshot.updatedAt ++ "\" stale=\"" ++
      formatCotSeconds stale ++ "\">" ++
    ("<point lat=\"" ++ formatFloat snapshot.latitude ++ "\" lon=\"" ++ formatFloat snapshot.longitude ++ "\" hae=\"" ++
      formatFloat snapshot.altitude ++ "\" ce=\"" ++ formatFloat snapshot.accuracy ++ "\" le=\"" ++
      formatFloat snapshot.accuracy ++ "\" />") ++
    "<detail>" ++
    ("<takv version=\"" ++ takvVersion ++ "\" platform=\"" ++ takvPlatform ++ "\" os=\"" ++ takvOs ++ "\" device=\"" ++
      takvDevice ++ "\" />") ++
    ("<contact callsign=\"" ++ escapeAttr callsign ++ "\"" ++ config.endpointAttr ++ " />") ++
    ("<__group name=\"" ++ groupName ++ "\" role=\"" ++ groupRole ++ "\" />") ++
    ("<track course=\"" ++ formatFloat snapshot.bearing ++ "\" speed=\"" ++ formatFloat snapshot.speed ++ "\" />") ++
    ("<uid Droid=\"" ++ escapeAttr callsign ++ "\" />") ++
    -- `STATUS_BATTERY`
    ("<status battery=\"" ++ formatFloat (TakHost.zero : F) ++ "\" />") ++
    "</detail></event>"

omit [TakHost F] in
/-- `build_chat_xml`; a message without an id draws one. -/
def buildChatXml (input : ChatEventInput) (fresh : Uuid) : Option String :=
  let content := trim input.content
  if content.isEmpty then none
  else
    let chatroom := input.topicId.getD "All Chat Rooms"
    let senderUid := uidFromHash input.sourceHash config.callsign
    let messageId := input.messageUuid.getD fresh.hyphenated
    let eventUid := "GeoChat." ++ senderUid ++ "." ++ chatroom ++ "." ++ messageId
    let remarksSource := if senderUid.isEmpty then "LXMF.CLIENT" else "LXMF.CLIENT." ++ senderUid
    (input.timestamp.plus (24 * 3600 * 1000000000)).map fun stale =>
      "<event version=\"2.0\" uid=\"" ++ escapeAttr eventUid ++ "\" type=\"" ++ chatEventType ++ "\" how=\"" ++ eventHow ++
        "\" time=\"" ++ formatCotMillis input.timestamp ++ "\" start=\"" ++ formatCotMillis input.timestamp ++
        "\" stale=\"" ++ formatCotMillis stale ++ "\" access=\"Undefined\">" ++
      "<point lat=\"0.0\" lon=\"0.0\" hae=\"9999999.0\" ce=\"9999999.0\" le=\"9999999.0\" />" ++
      "<detail>" ++
      ("<__chat id=\"" ++ escapeAttr chatroom ++ "\" chatroom=\"" ++ escapeAttr chatroom ++ "\" senderCallsign=\"" ++
        escapeAttr input.senderLabel ++ "\" groupOwner=\"false\" messageId=\"" ++ escapeAttr messageId ++ "\">") ++
      ("<chatgrp id=\"" ++ escapeAttr chatroom ++ "\" uid0=\"" ++ escapeAttr senderUid ++ "\" uid1=\"" ++
        escapeAttr chatroom ++ "\" />") ++
      "</__chat>" ++
      ("<link uid=\"" ++ escapeAttr senderUid ++ "\" type=\"" ++ chatLinkType ++ "\" relation=\"p-p\" />") ++
      ("<remarks source=\"" ++ escapeAttr remarksSource ++ "\" sourceID=\"" ++ escapeAttr senderUid ++ "\" to=\"" ++
        escapeAttr chatroom ++ "\" time=\"" ++ formatCotMillis input.timestamp ++ "\">" ++ escapeText content ++
        "</remarks>") ++
      "<marti><dest /></marti><__serverdestination /></detail></event>"

omit [TakHost F] in
/-- `build_ping_xml`. -/
def buildPingXml (now : DateTimeUtc) : Option String :=
  let flowTagName := sanitizeFlowTagName config.callsign ++ "-v0.0.0"
  (now.plus (120 * 1000000000)).map fun stale =>
    "<?xml version=\"1.0\" encoding=\"UTF-8\" standalone=\"yes\" ?>\n" ++
    ("<event version=\"2.0\" type=\"" ++ keepaliveEventType ++ "\" uid=\"" ++ pingUid ++ "\" how=\"" ++ keepaliveHow ++
      "\" time=\"" ++ formatCotMicros now ++ "\" start=\"" ++ formatCotMicros now ++ "\" stale=\"" ++
      formatCotMicros stale ++ "\">") ++
    ("<point lat=\"0.0\" lon=\"0.0\" le=\"" ++ defaultCotValue ++ "\" hae=\"" ++ defaultCotValue ++ "\" ce=\"" ++
      defaultCotValue ++ "\" />") ++
    "<detail>" ++
    ("<_flow-tags_ " ++ flowTagName ++ "=\"" ++ formatCotMicros now ++ "\" />") ++
    "</detail></event>"

end TakConnectionConfig

omit [TakHost F] in
/-- `build_keepalive_xml`. -/
def buildKeepaliveXml (now : DateTimeUtc) : Option String :=
  (now.plus (3600 * 1000000000)).map fun stale =>
    "<event version=\"2.0\" type=\"" ++ keepaliveEventType ++ "\" uid=\"" ++ pongUid ++ "\" how=\"" ++ keepaliveHow ++
      "\" time=\"" ++ formatCotMicros now ++ "\" start=\"" ++ formatCotMicros now ++ "\" stale=\"" ++
      formatCotMicros stale ++ "\" />"

/-! ## Reading an event -/

/-- `TakInboundCotPoint`. -/
structure TakInboundCotPoint (F : Type) where
  lat : F
  lon : F
  hae : F
  ce : F
  le : F

/-- `TakInboundCotEvent`. -/
structure TakInboundCotEvent (F : Type) where
  version : String
  uid : String
  eventType : String
  how : String
  time : String
  start : String
  stale : String
  access : Option String
  point : TakInboundCotPoint F

omit [TakHost F] in
/-- `xml_attr`: the value of an attribute, or none; an attribute that is malformed before it
is found is an error. -/
def xmlAttr (key : String) : List Xml.Attribute → Option (Option String)
  | [] => some none
  | none :: _ => none
  | some (name, value) :: attributes =>
    if name = key.toList then value.map fun value => some (String.ofList value) else xmlAttr key attributes

/-- `TakInboundCotPoint::default`. -/
def TakInboundCotPoint.default : TakInboundCotPoint F :=
  { lat := TakHost.zero, lon := TakHost.zero, hae := TakHost.zero, ce := TakHost.zero, le := TakHost.zero }

/-- `event_from_xml_start`. -/
def eventFromXmlStart (attributes : List Xml.Attribute) : Option (TakInboundCotEvent F) := do
  let version ← xmlAttr "version" attributes
  let uid ← xmlAttr "uid" attributes
  let eventType ← xmlAttr "type" attributes
  let how ← xmlAttr "how" attributes
  let time ← xmlAttr "time" attributes
  let start ← xmlAttr "start" attributes
  let stale ← xmlAttr "stale" attributes
  let access ← xmlAttr "access" attributes
  return {
    version := version.getD "", uid := uid.getD "", eventType := eventType.getD "", how := how.getD ""
    time := time.getD "", start := start.getD "", stale := stale.getD "", access, point := .default }

/-- One coordinate of a point. -/
def coordinate (key : String) (attributes : List Xml.Attribute) : Option F :=
  (xmlAttr key attributes).bind fun value => TakHost.parseFloat (value.getD "0")

/-- `point_from_xml_start`. -/
def pointFromXmlStart (attributes : List Xml.Attribute) : Option (TakInboundCotPoint F) := do
  let lat ← coordinate "lat" attributes
  let lon ← coordinate "lon" attributes
  let hae ← coordinate "hae" attributes
  let ce ← coordinate "ce" attributes
  let le ← coordinate "le" attributes
  return { lat, lon, hae, ce, le }

/-- The variables of `parse_inbound_cot_event`. -/
structure ParseState (F : Type) where
  event : Option (TakInboundCotEvent F) := none
  rootDepth : Option Nat := none
  depth : Nat := 0

/-- What a tag that opens at a depth makes of the event. -/
def ParseState.tag (s : ParseState F) (depth : Nat) (name : List Char) (attributes : List Xml.Attribute) :
    Option (ParseState F) :=
  match s.event with
  | none => (eventFromXmlStart attributes).map fun event => { s with event := some event, rootDepth := some depth }
  | some event =>
    if (s.rootDepth.any fun root => depth == root + 1) && name == "point".toList then
      (pointFromXmlStart attributes).map fun point => { s with event := some { event with point } }
    else some s

/-- One event of the reader. -/
def ParseState.step (s : ParseState F) : Xml.Event → Option (ParseState F)
  | .start name attributes =>
    let depth := s.depth + 1
    ParseState.tag { s with depth } depth name attributes
  | .empty name attributes => s.tag (s.depth + 1) name attributes
  | .stop => some { s with depth := s.depth - 1 }
  | .other => some s

/-- The loop of `parse_inbound_cot_event`. -/
def parseEvents (s : ParseState F) : List (Option Xml.Event) → Option (TakInboundCotEvent F)
  | [] => s.event
  | none :: _ => none
  | some event :: events => (s.step event).bind fun s => parseEvents s events

/-- `parse_inbound_cot_event`. -/
def parseInboundCotEvent (raw : String) : Option (TakInboundCotEvent F) :=
  parseEvents {} (TakHost.xmlEvents F raw.toList)

/-! ## The frame -/

variable (F) in
/-- `parse_cot_timestamp_millis`. -/
def parseCotTimestampMillis (value : String) : Option Nat :=
  (TakHost.parseFromRfc3339 F value.toList).bind fun millis => if millis < 0 then none else some millis.toNat

omit [TakHost F] in
/-- `cot_detail_xml`. -/
def cotDetailXml (xml : String) : Option String :=
  let text := xml.toList
  (findChars "<detail".toList text).bind fun detailStart =>
    (findChars ['>'] (text.drop detailStart)).bind fun index =>
      let contentStart := index + detailStart + 1
      (findChars "</detail>".toList (text.drop contentStart)).bind fun length =>
        let detail := trimChars ((text.drop contentStart).take length)
        if detail.isEmpty then none else some (String.ofList detail)

omit [TakHost F] in
/-- `encode_u64_varint`. -/
def encodeU64Varint (value : Nat) : List UInt8 :=
  if value / 128 ≠ 0 then UInt8.ofNat (value % 128 + 128) :: encodeU64Varint (value / 128) else [UInt8.ofNat (value % 128)]
termination_by value
decreasing_by omega

variable (F) in
/-- The message of the frame. -/
def takProtoCotEvent (xml : String) : Option (TakProtoCotEvent F) := do
  let event ← parseInboundCotEvent xml
  let sendTime ← parseCotTimestampMillis F event.time
  let startTime ← parseCotTimestampMillis F event.start
  let staleTime ← parseCotTimestampMillis F event.stale
  return {
    type := event.eventType, access := event.access.getD "", qos := "", opex := "", uid := event.uid
    sendTime, startTime, staleTime, how := event.how
    lat := event.point.lat, lon := event.point.lon, hae := event.point.hae, ce := event.point.ce, le := event.point.le
    detail := (cotDetailXml xml).map fun xmlDetail => { xmlDetail } }

variable (F) in
/-- `cot_xml_to_tak_proto_frame`. -/
def cotXmlToTakProtoFrame (xml : String) : Option (List UInt8) :=
  (takProtoCotEvent F xml).map fun cot =>
    let protoPayload := TakHost.encode { cotEvent := some cot }
    -- `TAK_PROTO_MAGIC_BYTE`
    0xbf :: (encodeU64Varint protoPayload.length ++ protoPayload)

variable (F) in
/-- `encode_outbound_cot_payload`. -/
def encodeOutboundCotPayload (xml : String) (takProto : Nat) : List UInt8 :=
  if takProto = 0 then xml.toUTF8.toList else (cotXmlToTakProtoFrame F xml).getD xml.toUTF8.toList

end Host

end TelemetryHub
