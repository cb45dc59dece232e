import TelemetryHub.Tak.Encodings
import TelemetryHub.Tak.Host

/-!
# The events as documents

Every event the connector builds is written from a document, so its frame says what the
document says.
-/

namespace TelemetryHub

open Lib

/-! ## Writing a document -/

/-- The names and values of some attributes. -/
def attributesOf (entries : List (String × String)) : List (List Char × List Char) :=
  entries.map fun entry => (entry.1.toList, entry.2.toList)

theorem said_attributesOf (entries : List (String × String)) (key : String) :
    said (attributesOf entries) key = (entries.lookup key).map fun value => String.ofList (Xml.normalizeValue value.toList) := by
  unfold said attributesOf
  induction entries with
  | nil => rfl
  | cons entry entries ih =>
    rw [List.map_cons, List.lookup_cons, List.lookup_cons]
    by_cases same : key = entry.1
    · rw [beq_iff_eq.2 same, beq_iff_eq.2 (congrArg String.toList same)]
      rfl
    · rw [beq_eq_false_iff_ne.2 same, beq_eq_false_iff_ne.2 fun equal => same (String.toList_inj.1 equal)]
      exact ih

theorem said_isSome {entries : List (String × String)} {key : String} (there : (entries.lookup key).isSome = true) :
    (said (attributesOf entries) key).isSome = true := by
  rw [said_attributesOf, Option.isSome_map]
  exact there

/-- A plain value is said as it is. -/
theorem said_plain {entries : List (String × String)} {key text : String} (there : entries.lookup key = some text)
    (plain : ∀ c ∈ text.toList, plainChar c = true) : said (attributesOf entries) key = some text := by
  rw [said_attributesOf, there, Option.map_some, normalizeValue_of_plain plain, String.ofList_toList]

/-- A tag with these names of attributes. -/
theorem isTag_attributesOf {name : List Char} {entries : List (String × String)} (names : List String)
    (same : entries.map Prod.fst = names) (ok : Xml.IsTag name (attributesOf (names.map (·, "")))) :
    Xml.IsTag name (attributesOf entries) := by
  subst same
  have keys : (attributesOf ((entries.map Prod.fst).map (·, ""))).map Prod.fst = (attributesOf entries).map Prod.fst := by
    simp [attributesOf]
  obtain ⟨isName, others, nodup⟩ := ok
  rw [keys] at nodup
  refine ⟨isName, fun entry mem => ?_, nodup⟩
  have key : entry.1 ∈ (attributesOf ((entries.map Prod.fst).map (·, ""))).map Prod.fst := by
    rw [keys]
    exact List.mem_map_of_mem mem
  obtain ⟨other, there, equal⟩ := List.mem_map.1 key
  rw [← equal]
  exact others other there

theorem escapeValue_cons (c : Char) (value : List Char) :
    Xml.escapeValue (c :: value) = Xml.escapeChar c ++ Xml.escapeValue value := rfl

theorem escapeValue_nil : Xml.escapeValue [] = [] := rfl

theorem escapeValue_formatCotSeconds (t : DateTimeUtc) :
    Xml.escapeValue (formatCotSeconds t).toList = (formatCotSeconds t).toList := by
  rw [toList_formatCotSeconds]
  exact escapeValue_of_plain (timeText_plain nofun)

theorem escapeValue_formatCotMillis (t : DateTimeUtc) :
    Xml.escapeValue (formatCotMillis t).toList = (formatCotMillis t).toList := by
  rw [toList_formatCotMillis]
  exact escapeValue_of_plain (timeText_plain Calendar.padded_digits)

theorem escapeValue_formatCotMicros (t : DateTimeUtc) :
    Xml.escapeValue (formatCotMicros t).toList = (formatCotMicros t).toList := by
  rw [toList_formatCotMicros]
  exact escapeValue_of_plain (timeText_plain Calendar.padded_digits)

section Host

variable {F : Type} [TakHost F]

theorem escapeValue_formatFloat (value : F) : Xml.escapeValue (formatFloat value).toList = (formatFloat value).toList :=
  escapeValue_of_plain (formatFloat_plain value)

/-! ## Documents -/

omit [TakHost F] in
/-- The document of a keepalive. -/
def keepaliveDocument (now stale : DateTimeUtc) : CotXml where
  attributes := attributesOf [("version", "2.0"), ("type", keepaliveEventType), ("uid", pongUid), ("how", keepaliveHow),
    ("time", formatCotMicros now), ("start", formatCotMicros now), ("stale", formatCotMicros stale)]
  body := none

namespace TakConnectionConfig

variable (config : TakConnectionConfig F)

omit [TakHost F] in
/-- The document of a ping. -/
def pingDocument (now stale : DateTimeUtc) : CotXml where
  prolog := [.instruction "xml version=\"1.0\" encoding=\"UTF-8\" standalone=\"yes\" ".toList, .text ['\n']]
  attributes := attributesOf [("version", "2.0"), ("type", keepaliveEventType), ("uid", pingUid), ("how", keepaliveHow),
    ("time", formatCotMicros now), ("start", formatCotMicros now), ("stale", formatCotMicros stale)]
  body := some (
    attributesOf [("lat", "0.0"), ("lon", "0.0"), ("le", defaultCotValue), ("hae", defaultCotValue), ("ce", defaultCotValue)],
    [.empty "_flow-tags_".toList (attributesOf [(sanitizeFlowTagName config.callsign ++ "-v0.0.0", formatCotMicros now)])])

omit [TakHost F] in
/-- The document of a chat message. -/
def chatDocument (input : ChatEventInput) (fresh : Uuid) (stale : DateTimeUtc) : CotXml :=
  let chatroom := input.topicId.getD "All Chat Rooms"
  let senderUid := uidFromHash input.sourceHash config.callsign
  let messageId := input.messageUuid.getD fresh.hyphenated
  { attributes := attributesOf [("version", "2.0"), ("uid", "GeoChat." ++ senderUid ++ "." ++ chatroom ++ "." ++ messageId),
      ("type", chatEventType), ("how", eventHow), ("time", formatCotMillis input.timestamp),
      ("start", formatCotMillis input.timestamp), ("stale", formatCotMillis stale), ("access", "Undefined")]
    body := some (
      attributesOf [("lat", "0.0"), ("lon", "0.0"), ("hae", "9999999.0"), ("ce", "9999999.0"), ("le", "9999999.0")],
      [.opening "__chat".toList (attributesOf [("id", chatroom), ("chatroom", chatroom), ("senderCallsign", input.senderLabel),
        ("groupOwner", "false"), ("messageId", messageId)]),
      .empty "chatgrp".toList (attributesOf [("id", chatroom), ("uid0", senderUid), ("uid1", chatroom)]),
      .closing "__chat".toList,
      .empty "link".toList (attributesOf [("uid", senderUid), ("type", chatLinkType), ("relation", "p-p")]),
      .opening "remarks".toList (attributesOf [
        ("source", if senderUid.isEmpty then "LXMF.CLIENT" else "LXMF.CLIENT." ++ senderUid), ("sourceID", senderUid),
        ("to", chatroom), ("time", formatCotMillis input.timestamp)]),
      .text (trim input.content).toList,
      .closing "remarks".toList,
      .opening "marti".toList [], .empty "dest".toList [], .closing "marti".toList,
      .empty "__serverdestination".toList []]) }

/-- The document of a location. -/
def locationDocument (snapshot : LocationSnapshot F) (now stale : DateTimeUtc) (identityLabel : Option String) : CotXml :=
  let uid := uidFromHash snapshot.peerHash config.callsign
  let callsign := config.locationCallsign snapshot identityLabel
  { attributes := attributesOf [("version", "2.0"), ("uid", uid), ("type", eventTypeLocation), ("how", eventHow),
      ("time", formatCotSeconds now), ("start", formatCotSeconds snapshot.updatedAt), ("stale", formatCotSeconds stale)]
    body := some (
      attributesOf [("lat", formatFloat snapshot.latitude), ("lon", formatFloat snapshot.longitude),
        ("hae", formatFloat snapshot.altitude), ("ce", formatFloat snapshot.accuracy), ("le", formatFloat snapshot.accuracy)],
      [.empty "takv".toList (attributesOf [("version", takvVersion), ("platform", takvPlatform), ("os", takvOs),
        ("device", takvDevice)]),
      .empty "contact".toList (attributesOf (("callsign", callsign) :: ((cotEndpoint config.cotUrl).map ("endpoint", ·)).toList)),
      .empty "__group".toList (attributesOf [("name", groupName), ("role", groupRole)]),
      .empty "track".toList (attributesOf [("course", formatFloat snapshot.bearing), ("speed", formatFloat snapshot.speed)]),
      .empty "uid".toList (attributesOf [("Droid", callsign)]),
      .empty "status".toList (attributesOf [("battery", formatFloat (TakHost.zero : F))])]) }

set_option maxRecDepth 20000 in
omit [TakHost F] in
theorem buildPingXml_document {now : DateTimeUtc} {xml : String} (built : config.buildPingXml now = some xml) :
    ∃ stale, now.plus (120 * 1000000000) = some stale ∧
      xml.toList = Xml.render (config.pingDocument now stale).pieces := by
  obtain ⟨stale, isStale, rfl⟩ := Option.map_eq_some_iff.1 built
  refine ⟨stale, isStale, ?_⟩
  simp [pingDocument, CotXml.pieces, CotXml.inner, Xml.render, Xml.Piece.render, Xml.Piece.tag, attributesOf, Xml.renderAttributes,
    escapeValue_formatCotMicros, escapeValue_cons, escapeValue_nil, Xml.escapeChar, keepaliveEventType, pingUid, keepaliveHow,
    defaultCotValue, Xml.escapeText]

set_option maxRecDepth 20000 in
omit [TakHost F] in
theorem buildChatXml_document {input : ChatEventInput} {fresh : Uuid} {xml : String}
    (built : config.buildChatXml input fresh = some xml) :
    ∃ stale, (trim input.content).isEmpty = false ∧ input.timestamp.plus (24 * 3600 * 1000000000) = some stale ∧
      xml.toList = Xml.render (config.chatDocument input fresh stale).pieces := by
  unfold buildChatXml at built
  by_cases empty : (trim input.content).isEmpty = true
  · rw [if_pos empty] at built
    cases built
  rw [if_neg empty] at built
  obtain ⟨stale, isStale, rfl⟩ := Option.map_eq_some_iff.1 built
  refine ⟨stale, Bool.eq_false_iff.2 empty, isStale, ?_⟩
  simp [chatDocument, CotXml.pieces, CotXml.inner, Xml.render, Xml.Piece.render, Xml.Piece.tag, attributesOf, Xml.renderAttributes,
    escapeValue_formatCotMillis, escapeValue_cons, escapeValue_nil, Xml.escapeChar, chatEventType, eventHow, chatLinkType,
    toList_escapeAttr, toList_escapeText]

set_option maxRecDepth 20000 in
theorem buildLocationXml_document {snapshot : LocationSnapshot F} {now : DateTimeUtc} {identityLabel : Option String}
    {xml : String} (built : config.buildLocationXml snapshot now identityLabel = some xml) :
    ∃ stale, config.locationStale now = some stale ∧
      xml.toList = Xml.render (config.locationDocument snapshot now stale identityLabel).pieces := by
  obtain ⟨stale, isStale, rfl⟩ := Option.map_eq_some_iff.1 built
  refine ⟨stale, isStale, ?_⟩
  cases endpoint : cotEndpoint config.cotUrl <;>
  simp [locationDocument, CotXml.pieces, CotXml.inner, Xml.render, Xml.Piece.render, Xml.Piece.tag, attributesOf, Xml.renderAttributes,
    escapeValue_formatCotSeconds, escapeValue_formatFloat, escapeValue_cons, escapeValue_nil, Xml.escapeChar, eventTypeLocation,
    eventHow, takvVersion, takvPlatform, takvOs, takvDevice, groupName, groupRole, toList_escapeAttr, endpointAttr, endpoint]

end TakConnectionConfig

set_option maxRecDepth 20000 in
omit [TakHost F] in
theorem buildKeepaliveXml_document {now : DateTimeUtc} {xml : String} (built : buildKeepaliveXml now = some xml) :
    ∃ stale, now.plus (3600 * 1000000000) = some stale ∧ xml.toList = Xml.render (keepaliveDocument now stale).pieces := by
  obtain ⟨stale, isStale, rfl⟩ := Option.map_eq_some_iff.1 built
  refine ⟨stale, isStale, ?_⟩
  simp [keepaliveDocument, CotXml.pieces, Xml.render, Xml.Piece.render, Xml.Piece.tag, attributesOf, Xml.renderAttributes,
    escapeValue_formatCotMicros, escapeValue_cons, escapeValue_nil, Xml.escapeChar, keepaliveEventType, pongUid, keepaliveHow]

end Host

/-! ## The documents are complete -/

/-- No instruction stands in content, so what is sought must be the beginning of a tag. -/
theorem content_passed {sought : List Char} {pieces : List Xml.Piece} (content : Xml.Content pieces)
    (other : ∀ piece ∈ pieces, ∀ rest, ¬ sought <+: piece.tag ++ '>' :: rest) : ∀ piece ∈ pieces, PassedOver sought piece := by
  have tags : ∀ piece ∈ pieces, ∀ content, piece ≠ .instruction content := by
    clear other
    induction content with
    | nil => exact nofun
    | text value later ih => exact List.forall_mem_cons.2 ⟨fun content same => (nomatch same), ih⟩
    | empty tag later ih => exact List.forall_mem_cons.2 ⟨fun content same => (nomatch same), ih⟩
    | element tag content later inside behind =>
      refine List.forall_mem_cons.2 ⟨fun content same => (nomatch same), fun piece mem => ?_⟩
      obtain within | after := List.mem_append.1 mem
      · exact inside piece within
      · exact List.forall_mem_cons.2 ⟨fun content same => (nomatch same), behind⟩ piece after
  exact fun piece mem => tag_passed piece (content.valid piece mem) (tags piece mem) (other piece mem)

/-- Content that begins and ends with a tag has no white space about it. -/
theorem render_trimmed {pieces : List Xml.Piece} {last : Xml.Piece} (head : (Xml.render pieces).head? = some '<')
    (isLast : pieces.getLast? = some last) (bracket : last.render = '<' :: (last.tag ++ ['>'])) :
    Xml.render pieces ≠ [] ∧ Trimmed (Xml.render pieces) := by
  have final : (Xml.render pieces).getLast? = some '>' := by
    obtain ⟨front, rfl⟩ := List.getLast?_eq_some_iff.1 isLast
    have written : Xml.render (front ++ [last]) = (Xml.render front ++ '<' :: last.tag) ++ ['>'] := by
      rw [Xml.render, List.flatMap_append, List.flatMap_singleton, bracket, List.append_assoc]
      rfl
    rw [written, List.getLast?_concat]
  refine ⟨fun empty => ?_, fun c mem => ?_, fun c mem => ?_⟩
  · rw [empty] at head
    cases head
  · rw [head] at mem
    rw [← Option.some.inj mem]
    decide
  · rw [final] at mem
    rw [← Option.some.inj mem]
    decide

/-- An element with one piece in it. -/
theorem content_one {name : List Char} {attributes : List (List Char × List Char)} (tag : Xml.IsTag name attributes)
    {piece : Xml.Piece} {rest : List Xml.Piece} (content : Xml.Content [piece]) (later : Xml.Content rest) :
    Xml.Content (.opening name attributes :: piece :: .closing name :: rest) := .element tag content later

/-- A time of an event, as a text. -/
def IsTime (text : String) : Prop :=
  ∃ t digits, DateTimeUtc.InRange t ∧ (∀ c ∈ digits, c.isDigit = true) ∧ text = String.ofList (timeText t digits)

theorem isTime_formatCotSeconds {t : DateTimeUtc} (range : t.InRange) : IsTime (formatCotSeconds t) :=
  ⟨t, [], range, nofun, by rw [← toList_formatCotSeconds, String.ofList_toList]⟩

theorem isTime_formatCotMillis {t : DateTimeUtc} (range : t.InRange) : IsTime (formatCotMillis t) :=
  ⟨t, _, range, Calendar.padded_digits, by rw [← toList_formatCotMillis, String.ofList_toList]⟩

theorem isTime_formatCotMicros {t : DateTimeUtc} (range : t.InRange) : IsTime (formatCotMicros t) :=
  ⟨t, _, range, Calendar.padded_digits, by rw [← toList_formatCotMicros, String.ofList_toList]⟩

theorem said_isTime {entries : List (String × String)} {key text : String} (there : entries.lookup key = some text)
    (time : IsTime text) : ∃ t digits, DateTimeUtc.InRange t ∧ (∀ c ∈ digits, c.isDigit = true) ∧
      said (attributesOf entries) key = some (String.ofList (timeText t digits)) := by
  obtain ⟨t, digits, range, all, rfl⟩ := time
  refine ⟨t, digits, range, all, said_plain there ?_⟩
  rw [String.toList_ofList]
  exact timeText_plain all

section Host

variable {F : Type} [TakHost F]

/-- A number of a point, as a text. -/
def IsNumber (F : Type) [TakHost F] (text : String) : Prop :=
  (∀ c ∈ text.toList, plainChar c = true) ∧ ∃ value : F, TakHost.parseFloat text = some value ∧ TakHost.finite value = true

theorem isNumber_formatFloat {value : F} (finite : TakHost.finite value = true) : IsNumber F (formatFloat value) :=
  ⟨formatFloat_plain value, value, parse_formatFloat finite, finite⟩

theorem isNumber_zero : IsNumber F "0.0" := ⟨List.all_eq_true.1 (by decide), TakHost.zero, TakHost.parse_zero, TakHost.zero_finite⟩

theorem isNumber_unknown : IsNumber F "9999999.0" := ⟨List.all_eq_true.1 (by decide), TakHost.unknown, TakHost.parse_unknown, TakHost.unknown_finite⟩

theorem coordinate_isNumber {doc : CotXml} {entries : List (String × String)} {detail : List Xml.Piece} {key text : String}
    (body : doc.body = some (attributesOf entries, detail)) (there : entries.lookup key = some text) (number : IsNumber F text) :
    ∃ value : F, doc.coordinate key = some value ∧ TakHost.finite value = true := by
  obtain ⟨plain, value, parsed, finite⟩ := number
  refine ⟨value, ?_, finite⟩
  rw [CotXml.coordinate, body]
  dsimp only
  rw [said_plain there plain, Option.bind_some, parsed]

theorem keepaliveDocument_complete {now stale : DateTimeUtc} (range : now.InRange) (good : stale.InRange) :
    (keepaliveDocument now stale).Complete F where
  valid := {
    prolog := .none
    event := isTag_attributesOf ["version", "type", "uid", "how", "time", "start", "stale"] rfl (by decide)
    body := nofun }
  tidy := { prolog := nofun, inside := nofun }
  texts := by
    simp only [List.forall_mem_cons]
    exact ⟨said_isSome rfl, said_isSome rfl, said_isSome rfl, nofun⟩
  times := by
    simp only [List.forall_mem_cons]
    exact ⟨said_isTime rfl (isTime_formatCotMicros range), said_isTime rfl (isTime_formatCotMicros range),
      said_isTime rfl (isTime_formatCotMicros good), nofun⟩
  point := fun key mem => ⟨TakHost.zero, rfl, TakHost.zero_finite⟩

namespace TakConnectionConfig

variable (config : TakConnectionConfig F)

omit [TakHost F] in
theorem flowTag_isName : Xml.IsName (sanitizeFlowTagName config.callsign ++ "-v0.0.0").toList := by
  rw [String.toList_append]
  refine ⟨fun empty => absurd (List.append_eq_nil_iff.1 empty).2 (by decide), fun c mem => ?_⟩
  obtain inTag | version := List.mem_append.1 mem
  · unfold sanitizeFlowTagName at inTag
    dsimp only at inTag
    split at inTag
    · exact List.all_eq_true.1 (by decide : "R3AKT".toList.all Xml.nameChar = true) c inTag
    · rw [String.toList_ofList] at inTag
      obtain ⟨other, -, rfl⟩ := List.mem_map.1 inTag
      split
      · assumption
      · decide
  · exact List.all_eq_true.1 (by decide : "-v0.0.0".toList.all Xml.nameChar = true) c version

omit [TakHost F] in
theorem pingDocument_valid {now stale : DateTimeUtc} : (config.pingDocument now stale).Valid where
  prolog := .of_all (by decide) (by decide)
  event := isTag_attributesOf ["version", "type", "uid", "how", "time", "start", "stale"] rfl (by decide)
  body := by
    rintro point detail ⟨⟩
    refine ⟨isTag_attributesOf ["lat", "lon", "le", "hae", "ce"] rfl (by decide), .empty ?_ .nil⟩
    exact ⟨by decide, by simpa [attributesOf] using config.flowTag_isName, by simp [attributesOf]⟩

theorem pingDocument_complete {now stale : DateTimeUtc} (range : now.InRange) (good : stale.InRange) :
    (config.pingDocument now stale).Complete F := by
  refine {
    valid := config.pingDocument_valid
    tidy := { prolog := ?_, inside := ?_ }
    texts := ?_
    times := ?_
    point := ?_ }
  · simp only [pingDocument, List.forall_mem_cons]
    have plain := (List.all_eq_true (p := fun c => c != '<')).1
      (by decide : (Xml.Piece.instruction "xml version=\"1.0\" encoding=\"UTF-8\" standalone=\"yes\" ".toList).tag.all (· != '<') = true)
    refine ⟨⟨by simpa using plain, fun rest => ?_⟩, ⟨List.forall_mem_nil _, fun rest => ?_⟩, List.forall_mem_nil _⟩
    · simp [Xml.Piece.tag]
    · simp [Xml.Piece.tag]
  · intro point detail body
    have inside := (config.pingDocument_valid.body point detail body).2
    cases body
    refine ⟨content_passed inside ?_, render_trimmed rfl rfl rfl⟩
    simp [Xml.Piece.tag]
  · simp only [List.forall_mem_cons]
    exact ⟨said_isSome rfl, said_isSome rfl, said_isSome rfl, List.forall_mem_nil _⟩
  · simp only [List.forall_mem_cons]
    exact ⟨said_isTime rfl (isTime_formatCotMicros range), said_isTime rfl (isTime_formatCotMicros range),
      said_isTime rfl (isTime_formatCotMicros good), List.forall_mem_nil _⟩
  · simp only [List.forall_mem_cons]
    exact ⟨coordinate_isNumber rfl rfl isNumber_zero, coordinate_isNumber rfl rfl isNumber_zero,
      coordinate_isNumber rfl rfl isNumber_unknown, coordinate_isNumber rfl rfl isNumber_unknown,
      coordinate_isNumber rfl rfl isNumber_unknown, List.forall_mem_nil _⟩

omit [TakHost F] in
theorem chatDocument_valid {input : ChatEventInput} {fresh : Uuid} {stale : DateTimeUtc} :
    (config.chatDocument input fresh stale).Valid where
  prolog := .none
  event := isTag_attributesOf ["version", "uid", "type", "how", "time", "start", "stale", "access"] rfl (by decide)
  body := by
    rintro point detail ⟨⟩
    refine ⟨isTag_attributesOf ["lat", "lon", "hae", "ce", "le"] rfl (by decide), ?_⟩
    exact content_one (isTag_attributesOf ["id", "chatroom", "senderCallsign", "groupOwner", "messageId"] rfl (by decide))
      (.empty (isTag_attributesOf ["id", "uid0", "uid1"] rfl (by decide)) .nil)
      (.empty (isTag_attributesOf ["uid", "type", "relation"] rfl (by decide))
        (content_one (isTag_attributesOf ["source", "sourceID", "to", "time"] rfl (by decide)) (.text _ .nil)
          (content_one (by decide) (.empty (by decide) .nil) (.empty (by decide) .nil))))

theorem chatDocument_complete {input : ChatEventInput} {fresh : Uuid} {stale : DateTimeUtc} (range : input.timestamp.InRange)
    (good : stale.InRange) : (config.chatDocument input fresh stale).Complete F := by
  refine {
    valid := config.chatDocument_valid
    tidy := { prolog := List.forall_mem_nil _, inside := fun point detail body => ?_ }
    texts := ?_
    times := ?_
    point := ?_ }
  · have inside := (config.chatDocument_valid.body point detail body).2
    cases body
    refine ⟨content_passed inside ?_, render_trimmed rfl rfl rfl⟩
    simp [Xml.Piece.tag]
  · simp only [List.forall_mem_cons]
    exact ⟨said_isSome rfl, said_isSome rfl, said_isSome rfl, List.forall_mem_nil _⟩
  · simp only [List.forall_mem_cons]
    exact ⟨said_isTime rfl (isTime_formatCotMillis range), said_isTime rfl (isTime_formatCotMillis range),
      said_isTime rfl (isTime_formatCotMillis good), List.forall_mem_nil _⟩
  · simp only [List.forall_mem_cons]
    exact ⟨coordinate_isNumber rfl rfl isNumber_zero, coordinate_isNumber rfl rfl isNumber_zero,
      coordinate_isNumber rfl rfl isNumber_unknown, coordinate_isNumber rfl rfl isNumber_unknown,
      coordinate_isNumber rfl rfl isNumber_unknown, List.forall_mem_nil _⟩

theorem locationDocument_valid {snapshot : LocationSnapshot F} {now stale : DateTimeUtc} {identityLabel : Option String} :
    (config.locationDocument snapshot now stale identityLabel).Valid where
  prolog := .none
  event := isTag_attributesOf ["version", "uid", "type", "how", "time", "start", "stale"] rfl (by decide)
  body := by
    rintro point detail ⟨⟩
    have contact : Xml.IsTag "contact".toList (attributesOf (("callsign", config.locationCallsign snapshot identityLabel) ::
        ((cotEndpoint config.cotUrl).map ("endpoint", ·)).toList)) := by
      cases cotEndpoint config.cotUrl with
      | none => exact isTag_attributesOf ["callsign"] rfl (by decide)
      | some endpoint => exact isTag_attributesOf ["callsign", "endpoint"] rfl (by decide)
    refine ⟨isTag_attributesOf ["lat", "lon", "hae", "ce", "le"] rfl (by decide), ?_⟩
    exact .empty (isTag_attributesOf ["version", "platform", "os", "device"] rfl (by decide)) (.empty contact
      (.empty (isTag_attributesOf ["name", "role"] rfl (by decide))
        (.empty (isTag_attributesOf ["course", "speed"] rfl (by decide))
          (.empty (isTag_attributesOf ["Droid"] rfl (by decide))
            (.empty (isTag_attributesOf ["battery"] rfl (by decide)) .nil)))))

theorem locationDocument_complete {snapshot : LocationSnapshot F} {now stale : DateTimeUtc} {identityLabel : Option String}
    (range : now.InRange) (updated : snapshot.updatedAt.InRange) (good : stale.InRange)
    (finite : ∀ value ∈ [snapshot.latitude, snapshot.longitude, snapshot.altitude, snapshot.accuracy],
      TakHost.finite value = true) : (config.locationDocument snapshot now stale identityLabel).Complete F := by
  simp only [List.forall_mem_cons] at finite
  obtain ⟨latitude, longitude, altitude, accuracy, -⟩ := finite
  refine {
    valid := config.locationDocument_valid
    tidy := { prolog := List.forall_mem_nil _, inside := fun point detail body => ?_ }
    texts := ?_
    times := ?_
    point := ?_ }
  · have inside := (config.locationDocument_valid.body point detail body).2
    cases body
    refine ⟨content_passed inside ?_, render_trimmed rfl rfl rfl⟩
    simp [Xml.Piece.tag]
  · simp only [List.forall_mem_cons]
    exact ⟨said_isSome rfl, said_isSome rfl, said_isSome rfl, List.forall_mem_nil _⟩
  · simp only [List.forall_mem_cons]
    exact ⟨said_isTime rfl (isTime_formatCotSeconds range), said_isTime rfl (isTime_formatCotSeconds updated),
      said_isTime rfl (isTime_formatCotSeconds good), List.forall_mem_nil _⟩
  · simp only [List.forall_mem_cons]
    exact ⟨coordinate_isNumber rfl rfl (isNumber_formatFloat latitude),
      coordinate_isNumber rfl rfl (isNumber_formatFloat longitude), coordinate_isNumber rfl rfl (isNumber_formatFloat altitude),
      coordinate_isNumber rfl rfl (isNumber_formatFloat accuracy), coordinate_isNumber rfl rfl (isNumber_formatFloat accuracy),
      List.forall_mem_nil _⟩

end TakConnectionConfig

/-! ## Every event -/

/-- An event the connector builds. -/
inductive BuiltEvent (F : Type) where
  | location (snapshot : LocationSnapshot F) (now : DateTimeUtc) (identityLabel : Option String)
  | chat (input : ChatEventInput) (fresh : Uuid)
  | ping (now : DateTimeUtc)
  | keepalive (now : DateTimeUtc)

namespace BuiltEvent

variable (config : TakConnectionConfig F)

/-- The XML of an event. -/
def xml : BuiltEvent F → Option String
  | .location snapshot now identityLabel => config.buildLocationXml snapshot now identityLabel
  | .chat input fresh => config.buildChatXml input fresh
  | .ping now => config.buildPingXml now
  | .keepalive now => buildKeepaliveXml now

/-- The times an event tells: when it was built, from when it holds, and until when. -/
def times : BuiltEvent F → List DateTimeUtc
  | .location snapshot now _ => now :: snapshot.updatedAt :: (config.locationStale now).toList
  | .chat input _ => input.timestamp :: (input.timestamp.plus (24 * 3600 * 1000000000)).toList
  | .ping now => now :: (now.plus (120 * 1000000000)).toList
  | .keepalive now => now :: (now.plus (3600 * 1000000000)).toList

omit [TakHost F] in
/-- The coordinates an event tells. -/
def coordinates : BuiltEvent F → List F
  | .location snapshot _ _ => [snapshot.latitude, snapshot.longitude, snapshot.altitude, snapshot.accuracy]
  | .chat _ _ => []
  | .ping _ => []
  | .keepalive _ => []

/-- The XML of an event is a complete document. -/
theorem document {event : BuiltEvent F} {xml : String} (built : event.xml config = some xml)
    (range : ∀ t ∈ event.times config, t.InRange) (finite : ∀ value ∈ event.coordinates, TakHost.finite value = true) :
    ∃ doc : CotXml, xml.toList = Xml.render doc.pieces ∧ doc.Complete F := by
  cases event with
  | location snapshot now identityLabel =>
    obtain ⟨stale, isStale, written⟩ := config.buildLocationXml_document built
    rw [times, isStale] at range
    simp only [Option.toList_some, List.forall_mem_cons] at range
    exact ⟨_, written, config.locationDocument_complete range.1 range.2.1 range.2.2.1 finite⟩
  | chat input fresh =>
    obtain ⟨stale, -, isStale, written⟩ := config.buildChatXml_document built
    rw [times, isStale] at range
    simp only [Option.toList_some, List.forall_mem_cons] at range
    exact ⟨_, written, config.chatDocument_complete range.1 range.2.1⟩
  | ping now =>
    obtain ⟨stale, isStale, written⟩ := config.buildPingXml_document built
    rw [times, isStale] at range
    simp only [Option.toList_some, List.forall_mem_cons] at range
    exact ⟨_, written, config.pingDocument_complete range.1 range.2.1⟩
  | keepalive now =>
    obtain ⟨stale, isStale, written⟩ := buildKeepaliveXml_document built
    rw [times, isStale] at range
    simp only [Option.toList_some, List.forall_mem_cons] at range
    exact ⟨_, written, keepaliveDocument_complete range.1 range.2.1⟩

end BuiltEvent

/-- Whatever the connector builds, its XML is a document, its frame is the magic byte, the
length of the payload and the payload, the message in it says what the document says, and
with a version of the protocol chosen this frame is what is sent. -/
theorem encodings_agree (config : TakConnectionConfig F) (event : BuiltEvent F) {xml : String}
    (built : event.xml config = some xml) (range : ∀ t ∈ event.times config, t.InRange)
    (finite : ∀ value ∈ event.coordinates, TakHost.finite value = true) :
    ∃ doc : CotXml, xml.toList = Xml.render doc.pieces ∧ Xml.Document doc.pieces ∧
      ∃ payload cot, cotXmlToTakProtoFrame F xml = some (0xbf :: (encodeU64Varint payload.length ++ payload)) ∧
        Protobuf.readVarint (encodeU64Varint payload.length ++ payload) = some (payload.length, payload) ∧
        TakHost.decode payload = some { cotEvent := some cot } ∧ Agrees (F := F) doc cot ∧
        ∀ takProto, takProto ≠ 0 →
          encodeOutboundCotPayload F xml takProto = 0xbf :: (encodeU64Varint payload.length ++ payload) := by
  obtain ⟨doc, written, complete⟩ := event.document config built range finite
  obtain ⟨payload, cot, frame, decoded, agrees⟩ := complete.frame
  rw [← written, String.ofList_toList, ← encodeU64Varint_eq] at frame
  refine ⟨doc, written, complete.valid.document, payload, cot, frame, ?_, decoded, agrees, fun takProto chosen => ?_⟩
  · rw [encodeU64Varint_eq, Protobuf.readVarint_varint]
  · rw [encodeOutboundCotPayload, if_neg chosen, frame, Option.getD_some]

end Host

/-- A minute of 2024, and the hour it is good for. -/
def sampleTime : DateTimeUtc := { seconds := 1704067200, nanosecond := 250000000, nanosecond_lt := by decide }

/-- A keepalive is framed. -/
theorem sample_agrees : ∃ doc : CotXml,
    ("<event version=\"2.0\" type=\"t-x-d-d\" uid=\"takPong\" how=\"m-g\" time=\"2024-01-01T00:00:00.250000Z\" " ++
      "start=\"2024-01-01T00:00:00.250000Z\" stale=\"2024-01-01T01:00:00.250000Z\" />").toList = Xml.render doc.pieces ∧
    ∃ payload cot, TakHost.decode payload = some { cotEvent := some cot } ∧ Agrees (F := Int) doc cot := by
  have built : buildKeepaliveXml sampleTime = some
      ("<event version=\"2.0\" type=\"t-x-d-d\" uid=\"takPong\" how=\"m-g\" time=\"2024-01-01T00:00:00.250000Z\" " ++
        "start=\"2024-01-01T00:00:00.250000Z\" stale=\"2024-01-01T01:00:00.250000Z\" />") := by
    decide +kernel
  obtain ⟨doc, written, -, payload, cot, -, -, decoded, agrees, -⟩ :=
    encodings_agree { cotUrl := "tcp://127.0.0.1:8087", callsign := "RetTAK", pollIntervalSeconds := (30 : Int) }
      (.keepalive sampleTime) built (by decide) nofun
  exact ⟨doc, written, payload, cot, decoded, agrees⟩

end TelemetryHub
