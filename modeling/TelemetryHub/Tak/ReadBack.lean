import TelemetryHub.Lib.XmlReader
import TelemetryHub.Tak.Built

/-!
# Events that are read back

A reader finds in the XML of an event the strings that were put in, and the elements and the
attributes of every event of the kind, as long as the strings have no tab and no line end and
the name made of the callsign begins as a name does.
-/

namespace TelemetryHub

open Lib

/-! ## Strings that are kept -/

/-- A string that an attribute keeps: characters of XML, and no tab and no line end. -/
def AttrKeeps (text : String) : Prop := Xml.ValueKept text.toList

instance (text : String) : Decidable (AttrKeeps text) :=
  decidable_of_iff (text.toList.all fun c => Xml.isChar c && c != '\t' && c != '\n' && c != '\r') (by
    simp [AttrKeeps, Xml.ValueKept, and_assoc])

theorem isChar_of_range {c : Char} (low : 0x20 ≤ c.toNat) (high : c.toNat ≤ 0x7f) : Xml.isChar c = true := by
  simp only [Xml.isChar, Xml.inRanges, List.any_cons, List.any_nil, Bool.or_eq_true, Bool.and_eq_true, decide_eq_true_eq]
  omega

theorem isAlphanum_range {c : Char} (alphanum : c.isAlphanum = true) : 0x30 ≤ c.toNat ∧ c.toNat ≤ 0x7a := by
  rw [isAlphanum_iff] at alphanum
  omega

theorem keeps_of_plain {text : List Char} (plain : ∀ c ∈ text, plainChar c = true) : Xml.ValueKept text := by
  intro c mem
  obtain ⟨-, -, -, -, tab, line, carriage⟩ := plainChar_iff (plain c mem)
  refine ⟨?_, tab, line, carriage⟩
  have char := plain c mem
  simp only [plainChar, Xml.nameChar, Bool.or_eq_true, beq_iff_eq] at char
  obtain ((((alphanum | rfl) | rfl) | rfl) | rfl) | rfl := char
  · have range := isAlphanum_range alphanum
    exact isChar_of_range (by omega) (by omega)
  all_goals decide

theorem keeps_of_all {text : String} (all : text.toList.all plainChar = true) : AttrKeeps text :=
  keeps_of_plain (List.all_eq_true.1 all)

theorem keeps_append (a b : String) : AttrKeeps (a ++ b) ↔ AttrKeeps a ∧ AttrKeeps b := by
  simp only [AttrKeeps, Xml.ValueKept, String.toList_append, List.forall_mem_append]

theorem keeps_formatCotSeconds (t : DateTimeUtc) : AttrKeeps (formatCotSeconds t) := by
  rw [AttrKeeps, toList_formatCotSeconds]
  exact keeps_of_plain (timeText_plain nofun)

theorem keeps_formatCotMillis (t : DateTimeUtc) : AttrKeeps (formatCotMillis t) := by
  rw [AttrKeeps, toList_formatCotMillis]
  exact keeps_of_plain (timeText_plain Calendar.padded_digits)

theorem keeps_formatCotMicros (t : DateTimeUtc) : AttrKeeps (formatCotMicros t) := by
  rw [AttrKeeps, toList_formatCotMicros]
  exact keeps_of_plain (timeText_plain Calendar.padded_digits)

theorem keeps_formatFloat {F : Type} [TakHost F] (value : F) : AttrKeeps (formatFloat value) := keeps_of_plain (formatFloat_plain value)

theorem isLowerHex_plain {c : Char} (hex : isLowerHex c = true) : plainChar c = true := by
  have alphanum : c.isAlphanum = true := by
    simp only [isLowerHex, Bool.or_eq_true, Bool.and_eq_true, decide_eq_true_eq] at hex
    change (48 ≤ c.toNat ∧ c.toNat ≤ 57) ∨ (97 ≤ c.toNat ∧ c.toNat ≤ 102) at hex
    rw [isAlphanum_iff]
    omega
  simp [plainChar, Xml.nameChar, alphanum]

theorem keeps_hyphenated (u : Uuid) : AttrKeeps u.hyphenated := by
  apply keeps_of_plain
  intro c mem
  rw [Uuid.hyphenated, String.toList_ofList] at mem
  have digit (there : c ∈ u.digits) : plainChar c = true := isLowerHex_plain (u.hex c there)
  simp only [List.mem_append, List.mem_singleton] at mem
  obtain (((((((mem | rfl) | mem) | rfl) | mem) | rfl) | mem) | rfl) | mem := mem
  · exact digit (List.mem_of_mem_take mem)
  · decide
  · exact digit (List.mem_of_mem_drop (List.mem_of_mem_take mem))
  · decide
  · exact digit (List.mem_of_mem_drop (List.mem_of_mem_take mem))
  · decide
  · exact digit (List.mem_of_mem_drop (List.mem_of_mem_take mem))
  · decide
  · exact digit (List.mem_of_mem_drop mem)

/-! ## Tags that are kept -/

/-- A tag whose names begin as names do is kept where its values are. -/
theorem entries_kept {entries : List (String × String)} (proper : entries.all (fun entry => Xml.Proper entry.1.toList) = true) :
    (∀ entry ∈ attributesOf entries, Xml.Proper entry.1 = true ∧ Xml.ValueKept entry.2) ↔ ∀ entry ∈ entries, AttrKeeps entry.2 := by
  rw [attributesOf, List.forall_mem_map]
  rw [List.all_eq_true] at proper
  exact forall₂_congr fun entry mem => and_iff_right (proper entry mem)

section

variable {name : String} {entries : List (String × String)}

theorem opening_kept (isProper : Xml.Proper name.toList = true)
    (proper : entries.all (fun entry => Xml.Proper entry.1.toList) = true) :
    (Xml.Piece.opening name.toList (attributesOf entries)).Kept ↔ ∀ entry ∈ entries, AttrKeeps entry.2 :=
  (and_iff_right isProper).trans (entries_kept proper)

theorem empty_kept (isProper : Xml.Proper name.toList = true)
    (proper : entries.all (fun entry => Xml.Proper entry.1.toList) = true) :
    (Xml.Piece.empty name.toList (attributesOf entries)).Kept ↔ ∀ entry ∈ entries, AttrKeeps entry.2 :=
  (and_iff_right isProper).trans (entries_kept proper)

theorem closing_kept (isProper : Xml.Proper name.toList = true) : (Xml.Piece.closing name.toList).Kept ↔ True :=
  iff_true_intro isProper

theorem text_kept (text : String) : (Xml.Piece.text text.toList).Kept ↔ Xml.TextKept text.toList := Iff.rfl

theorem bare_opening_kept (isProper : Xml.Proper name.toList = true) : (Xml.Piece.opening name.toList []).Kept ↔ True :=
  iff_true_intro ⟨isProper, nofun⟩

theorem bare_empty_kept (isProper : Xml.Proper name.toList = true) : (Xml.Piece.empty name.toList []).Kept ↔ True :=
  iff_true_intro ⟨isProper, nofun⟩

end

variable {doc : CotXml}

/-- An event without a declaration is read as it was written where each piece is. -/
theorem CotXml.Valid.parse_iff (valid : doc.Valid) {point : List (List Char × List Char)} {detail : List Xml.Piece}
    (bare : doc.prolog = []) (body : doc.body = some (point, detail)) (apart : Xml.Apart (CotXml.inner point detail)) :
    Xml.parseDocument (Xml.render doc.pieces) = some doc.pieces ↔ ∀ piece ∈ doc.pieces, piece.Kept := by
  obtain ⟨tag, content⟩ := valid.body point detail body
  have inside : Xml.Content (CotXml.inner point detail) := .empty tag (.element (by decide) content .nil)
  have element : doc.pieces = Xml.element "event".toList doc.attributes (CotXml.inner point detail) := by
    rw [CotXml.pieces, body, bare]
    rfl
  rw [element]
  exact Xml.parseDocument_element valid.event inside apart

section Host

variable {F : Type} [TakHost F] (config : TakConnectionConfig F)

namespace TakConnectionConfig

/-- The strings of a location an attribute keeps. -/
def LocationKept (snapshot : LocationSnapshot F) (identityLabel : Option String) : Prop :=
  AttrKeeps (uidFromHash snapshot.peerHash config.callsign) ∧ (∀ label, identityLabel = some label → AttrKeeps (trim label)) ∧
    ∀ endpoint, cotEndpoint config.cotUrl = some endpoint → AttrKeeps endpoint

/-- The strings of a chat message an attribute keeps, and its text. -/
def ChatKept (input : ChatEventInput) : Prop :=
  AttrKeeps (uidFromHash input.sourceHash config.callsign) ∧ (∀ topicId, input.topicId = some topicId → AttrKeeps topicId) ∧
    (∀ messageUuid, input.messageUuid = some messageUuid → AttrKeeps messageUuid) ∧ AttrKeeps input.senderLabel ∧
    Xml.TextKept (trim input.content).toList

/-- A callsign that begins as a name does, or is not there. -/
def PingKept : Prop := ∀ c ∈ config.callsign.toList.head?, c.isAlpha = true ∨ c = '_'

omit [TakHost F] in
theorem locationCallsign_kept {snapshot : LocationSnapshot F} {identityLabel : Option String}
    (uid : AttrKeeps (uidFromHash snapshot.peerHash config.callsign)) :
    AttrKeeps (config.locationCallsign snapshot identityLabel) ↔ ∀ label, identityLabel = some label → AttrKeeps (trim label) := by
  unfold locationCallsign
  cases identityLabel with
  | none => simpa using uid
  | some label =>
    by_cases empty : trim label = ""
    · have nothing : AttrKeeps "" := nofun
      simp [empty, uid, nothing, Option.filter]
    · simp [Option.filter, empty]

theorem location_kept {snapshot : LocationSnapshot F} {now stale : DateTimeUtc} {identityLabel : Option String} :
    (∀ piece ∈ (config.locationDocument snapshot now stale identityLabel).pieces, piece.Kept) ↔
      config.LocationKept snapshot identityLabel := by
  have endpointKept : (∀ entry ∈ ((cotEndpoint config.cotUrl).map ("endpoint", ·)).toList, AttrKeeps entry.2) ↔
      ∀ endpoint, cotEndpoint config.cotUrl = some endpoint → AttrKeeps endpoint := by
    cases cotEndpoint config.cotUrl <;> simp
  have contact : (Xml.Piece.empty "contact".toList (attributesOf (("callsign", config.locationCallsign snapshot identityLabel) ::
      ((cotEndpoint config.cotUrl).map ("endpoint", ·)).toList))).Kept ↔ AttrKeeps (config.locationCallsign snapshot identityLabel) ∧
        ∀ endpoint, cotEndpoint config.cotUrl = some endpoint → AttrKeeps endpoint := by
    rw [empty_kept (by decide) (by cases cotEndpoint config.cotUrl <;> simp +decide), List.forall_mem_cons, endpointKept]
  simp only [locationDocument, CotXml.pieces, CotXml.inner, List.nil_append, List.cons_append, List.forall_mem_cons, contact]
  simp (disch := simp +decide) only [opening_kept, empty_kept, closing_kept, bare_opening_kept, List.forall_mem_cons]
  simp (disch := decide) only [keeps_of_all, keeps_formatCotSeconds, keeps_formatFloat, true_and, and_true,
    List.not_mem_nil, false_implies, implies_true]
  constructor
  · rintro ⟨uid, ⟨callsign, endpoint⟩, -⟩
    exact ⟨uid, (config.locationCallsign_kept uid).mp callsign, endpoint⟩
  · rintro ⟨uid, label, endpoint⟩
    have callsign := (config.locationCallsign_kept uid).mpr label
    exact ⟨uid, ⟨callsign, endpoint⟩, callsign⟩

omit [TakHost F] in
theorem chat_kept {input : ChatEventInput} {fresh : Uuid} {stale : DateTimeUtc} :
    (∀ piece ∈ (config.chatDocument input fresh stale).pieces, piece.Kept) ↔ config.ChatKept input := by
  have chatroom : AttrKeeps (input.topicId.getD "All Chat Rooms") ↔ ∀ topicId, input.topicId = some topicId → AttrKeeps topicId := by
    cases input.topicId with
    | none =>
      have plain : AttrKeeps "All Chat Rooms" := keeps_of_all (by decide)
      simpa using plain
    | some topicId => simp
  have messageId : AttrKeeps (input.messageUuid.getD fresh.hyphenated) ↔
      ∀ messageUuid, input.messageUuid = some messageUuid → AttrKeeps messageUuid := by
    cases input.messageUuid with
    | none => simpa using keeps_hyphenated fresh
    | some messageUuid => simp
  have source : AttrKeeps (if (uidFromHash input.sourceHash config.callsign).isEmpty then "LXMF.CLIENT"
      else "LXMF.CLIENT." ++ uidFromHash input.sourceHash config.callsign) ↔ AttrKeeps (uidFromHash input.sourceHash config.callsign) := by
    split
    · rename_i empty
      have nothing : AttrKeeps (uidFromHash input.sourceHash config.callsign) := by
        rw [String.isEmpty_iff.mp empty]
        exact List.forall_mem_nil _
      exact iff_of_true (keeps_of_all (by decide)) nothing
    · rw [keeps_append]
      exact and_iff_right (keeps_of_all (by decide))
  simp only [chatDocument, CotXml.pieces, CotXml.inner, List.nil_append, List.cons_append, List.forall_mem_cons]
  simp (disch := simp +decide) only [opening_kept, empty_kept, closing_kept, bare_opening_kept, bare_empty_kept, text_kept,
    List.forall_mem_cons, keeps_append, chatroom, messageId, source]
  simp (disch := decide) only [keeps_of_all, keeps_formatCotMillis, true_and, and_true,
    List.not_mem_nil, false_implies, implies_true]
  constructor
  · rintro ⟨⟨⟨uid, topic⟩, message⟩, ⟨-, -, sender, -⟩, -, -, -, text⟩
    exact ⟨uid, topic, message, sender, text⟩
  · rintro ⟨uid, topic, message, sender, text⟩
    exact ⟨⟨⟨uid, topic⟩, message⟩, ⟨topic, topic, sender, message⟩, ⟨topic, uid, topic⟩, uid, ⟨uid, uid, topic⟩, text⟩

/-- Of the characters a name is made of, letters and the underscore begin one. -/
theorem nameStartChar_iff {c : Char} (name : Xml.nameChar c = true) : Xml.nameStartChar c = true ↔ c.isAlpha = true ∨ c = '_' := by
  simp only [Xml.nameChar, Bool.or_eq_true, beq_iff_eq] at name
  obtain ((alphanum | rfl) | rfl) | rfl := name
  · have range := isAlphanum_range alphanum
    have colon : c ≠ ':' := by
      rintro rfl
      revert alphanum
      decide
    have outside : Xml.inRanges [(0xc0, 0xd6), (0xd8, 0xf6), (0xf8, 0x2ff), (0x370, 0x37d), (0x37f, 0x1fff),
        (0x200c, 0x200d), (0x2070, 0x218f), (0x2c00, 0x2fef), (0x3001, 0xd7ff), (0xf900, 0xfdcf), (0xfdf0, 0xfffd),
        (0x10000, 0xeffff)] c = false := by
      simp only [Xml.inRanges, List.any_cons, List.any_nil, Bool.or_eq_false_iff, Bool.and_eq_false_iff, decide_eq_false_iff_not,
        and_true]
      omega
    simp [Xml.nameStartChar, colon, outside]
  all_goals simp +decide

omit [TakHost F] in
theorem flowTag_proper : Xml.Proper (sanitizeFlowTagName config.callsign ++ "-v0.0.0").toList = true ↔ config.PingKept := by
  unfold sanitizeFlowTagName PingKept
  dsimp only
  rcases chars : config.callsign.toList with _ | ⟨c, rest⟩
  · rw [if_pos (by simp)]
    exact iff_of_true (by decide) nofun
  · rw [if_neg (by simp)]
    simp only [String.toList_append, String.toList_ofList, List.map_cons, List.cons_append, Xml.Proper, List.head?_cons,
      Option.any_some, Option.mem_some_iff, forall_eq']
    by_cases name : Xml.nameChar c = true
    · have same : (c.isAlphanum || c == '_' || c == '-' || c == '.') = true := name
      rw [if_pos same, nameStartChar_iff name]
    · have other : ¬(c.isAlphanum || c == '_' || c == '-' || c == '.') = true := name
      rw [if_neg other]
      simp only [Bool.or_eq_true, beq_iff_eq, not_or] at other
      simp +decide [Char.isAlphanum] at other ⊢
      tauto

/-- The point of a ping. -/
def pingPoint : List (String × String) :=
  [("lat", "0.0"), ("lon", "0.0"), ("le", defaultCotValue), ("hae", defaultCotValue), ("ce", defaultCotValue)]

omit [TakHost F] in
theorem ping_kept {now stale : DateTimeUtc} :
    (∀ piece ∈ Xml.element "event".toList (config.pingDocument now stale).attributes (CotXml.inner (attributesOf pingPoint)
        [.empty "_flow-tags_".toList (attributesOf [(sanitizeFlowTagName config.callsign ++ "-v0.0.0", formatCotMicros now)])]),
      piece.Kept) ↔ config.PingKept := by
  have flowTag : (Xml.Piece.empty "_flow-tags_".toList
      (attributesOf [(sanitizeFlowTagName config.callsign ++ "-v0.0.0", formatCotMicros now)])).Kept ↔ config.PingKept := by
    have time : Xml.ValueKept (formatCotMicros now).toList := keeps_formatCotMicros now
    rw [← config.flowTag_proper]
    simp +decide [Xml.Piece.Kept, attributesOf, time]
  simp only [pingDocument, pingPoint, Xml.element, CotXml.inner, List.nil_append, List.cons_append, List.forall_mem_cons, flowTag]
  simp (disch := simp +decide) only [opening_kept, empty_kept, closing_kept, bare_opening_kept, List.forall_mem_cons]
  simp (disch := decide) only [keeps_of_all, keeps_formatCotMicros, true_and, and_true,
    List.not_mem_nil, false_implies, implies_true]

end TakConnectionConfig

/-! ## Events that are found -/

omit [TakHost F] in
theorem said_entries {entries : List (String × String)} (kept : ∀ entry ∈ entries, AttrKeeps entry.2) (key : String) :
    said (attributesOf entries) key = entries.lookup key := by
  rw [said_attributesOf]
  cases there : entries.lookup key with
  | none => rfl
  | some text =>
    obtain ⟨before, after, same, -⟩ := List.lookup_eq_some_iff.mp there
    have textKept := kept (key, text) (by simp [same])
    rw [Option.map_some, Xml.normalizeValue_self fun c mem => (textKept c mem).2, String.ofList_toList]

/-- The point with these coordinates, as texts. -/
def pointOf (lat lon hae ce le : String) : Option (TakInboundCotPoint F) := do
  let lat ← TakHost.parseFloat lat
  let lon ← TakHost.parseFloat lon
  let hae ← TakHost.parseFloat hae
  let ce ← TakHost.parseFloat ce
  let le ← TakHost.parseFloat le
  return { lat, lon, hae, ce, le }

/-- A point says its coordinates. -/
theorem pointFromXmlStart_entries {entries : List (String × String)} (kept : ∀ entry ∈ entries, AttrKeeps entry.2) :
    pointFromXmlStart (F := F) (Xml.readAttributes (attributesOf entries)) =
      pointOf ((entries.lookup "lat").getD "0") ((entries.lookup "lon").getD "0") ((entries.lookup "hae").getD "0")
        ((entries.lookup "ce").getD "0") ((entries.lookup "le").getD "0") := by
  simp only [pointFromXmlStart, pointOf, TelemetryHub.coordinate, xmlAttr_said, said_entries kept, Option.bind_some]

namespace TakConnectionConfig

/-- The event found in a location. -/
def locationInbound (snapshot : LocationSnapshot F) (now stale : DateTimeUtc) : Option (TakInboundCotEvent F) :=
  (pointOf (formatFloat snapshot.latitude) (formatFloat snapshot.longitude) (formatFloat snapshot.altitude)
    (formatFloat snapshot.accuracy) (formatFloat snapshot.accuracy)).map fun point => {
      version := "2.0", uid := uidFromHash snapshot.peerHash config.callsign, eventType := eventTypeLocation, how := eventHow
      time := formatCotSeconds now, start := formatCotSeconds snapshot.updatedAt, stale := formatCotSeconds stale
      access := none, point }

/-- A finite location is found as it was. -/
theorem locationInbound_finite {snapshot : LocationSnapshot F} {now stale : DateTimeUtc}
    (finite : ∀ value ∈ [snapshot.latitude, snapshot.longitude, snapshot.altitude, snapshot.accuracy], TakHost.finite value = true) :
    (config.locationInbound snapshot now stale).map TakInboundCotEvent.point = some {
      lat := snapshot.latitude, lon := snapshot.longitude, hae := snapshot.altitude, ce := snapshot.accuracy
      le := snapshot.accuracy } := by
  simp only [List.forall_mem_cons] at finite
  obtain ⟨latitude, longitude, altitude, accuracy, -⟩ := finite
  simp [locationInbound, pointOf, parse_formatFloat latitude, parse_formatFloat longitude, parse_formatFloat altitude,
    parse_formatFloat accuracy]

/-- The event found in a chat message. -/
def chatInbound (input : ChatEventInput) (fresh : Uuid) (stale : DateTimeUtc) : TakInboundCotEvent F where
  version := "2.0"
  uid := "GeoChat." ++ uidFromHash input.sourceHash config.callsign ++ "." ++ input.topicId.getD "All Chat Rooms" ++ "." ++
    input.messageUuid.getD fresh.hyphenated
  eventType := chatEventType
  how := eventHow
  time := formatCotMillis input.timestamp
  start := formatCotMillis input.timestamp
  stale := formatCotMillis stale
  access := some "Undefined"
  point := { lat := TakHost.zero, lon := TakHost.zero, hae := TakHost.unknown, ce := TakHost.unknown, le := TakHost.unknown }

end TakConnectionConfig

/-- The event found in a ping. -/
def pingInbound (now stale : DateTimeUtc) : TakInboundCotEvent F where
  version := "2.0"
  uid := pingUid
  eventType := keepaliveEventType
  how := keepaliveHow
  time := formatCotMicros now
  start := formatCotMicros now
  stale := formatCotMicros stale
  access := none
  point := { lat := TakHost.zero, lon := TakHost.zero, hae := TakHost.unknown, ce := TakHost.unknown, le := TakHost.unknown }

theorem pointOf_unknown : pointOf (F := F) "0.0" "0.0" "9999999.0" "9999999.0" "9999999.0" = some {
    lat := TakHost.zero, lon := TakHost.zero, hae := TakHost.unknown, ce := TakHost.unknown, le := TakHost.unknown } := by
  simp [pointOf, TakHost.parse_zero, TakHost.parse_unknown]

/-! ## Every event of a kind has the same names -/

/-- A piece without what was put in. -/
def pieceShape : Xml.Piece → Xml.Piece
  | .opening name attributes => .opening name (attributes.map fun entry => (entry.1, []))
  | .empty name attributes => .empty name (attributes.map fun entry => (entry.1, []))
  | .closing name => .closing name
  | .text _ => .text []
  | .instruction content => .instruction content

/-- Attributes, by their names. -/
def namesOf (names : List String) : List (List Char × List Char) := names.map fun name => (name.toList, [])

omit [TakHost F] in
theorem pieceShape_opening (name : List Char) (entries : List (String × String)) :
    pieceShape (.opening name (attributesOf entries)) = .opening name (namesOf (entries.map Prod.fst)) := by
  simp [pieceShape, attributesOf, namesOf]

omit [TakHost F] in
theorem pieceShape_empty (name : List Char) (entries : List (String × String)) :
    pieceShape (.empty name (attributesOf entries)) = .empty name (namesOf (entries.map Prod.fst)) := by
  simp [pieceShape, attributesOf, namesOf]

/-- The names of a location, with an endpoint or without. -/
def locationShape (endpoint : Bool) : List Xml.Piece :=
  [.opening "event".toList (namesOf ["version", "uid", "type", "how", "time", "start", "stale"]),
    .empty "point".toList (namesOf ["lat", "lon", "hae", "ce", "le"]),
    .opening "detail".toList [],
    .empty "takv".toList (namesOf ["version", "platform", "os", "device"]),
    .empty "contact".toList (namesOf (if endpoint then ["callsign", "endpoint"] else ["callsign"])),
    .empty "__group".toList (namesOf ["name", "role"]),
    .empty "track".toList (namesOf ["course", "speed"]),
    .empty "uid".toList (namesOf ["Droid"]),
    .empty "status".toList (namesOf ["battery"]),
    .closing "detail".toList,
    .closing "event".toList]

/-- The names of a chat message. -/
def chatShape : List Xml.Piece :=
  [.opening "event".toList (namesOf ["version", "uid", "type", "how", "time", "start", "stale", "access"]),
    .empty "point".toList (namesOf ["lat", "lon", "hae", "ce", "le"]),
    .opening "detail".toList [],
    .opening "__chat".toList (namesOf ["id", "chatroom", "senderCallsign", "groupOwner", "messageId"]),
    .empty "chatgrp".toList (namesOf ["id", "uid0", "uid1"]),
    .closing "__chat".toList,
    .empty "link".toList (namesOf ["uid", "type", "relation"]),
    .opening "remarks".toList (namesOf ["source", "sourceID", "to", "time"]),
    .text [],
    .closing "remarks".toList,
    .opening "marti".toList [], .empty "dest".toList [], .closing "marti".toList,
    .empty "__serverdestination".toList [],
    .closing "detail".toList,
    .closing "event".toList]

/-- The names of a ping, with that of its flow tag. -/
def pingShape (flowTagName : String) : List Xml.Piece :=
  [.instruction "xml version=\"1.0\" encoding=\"UTF-8\" standalone=\"yes\" ".toList, .text [],
    .opening "event".toList (namesOf ["version", "type", "uid", "how", "time", "start", "stale"]),
    .empty "point".toList (namesOf ["lat", "lon", "le", "hae", "ce"]),
    .opening "detail".toList [],
    .empty "_flow-tags_".toList (namesOf [flowTagName]),
    .closing "detail".toList,
    .closing "event".toList]

/-- A text is a well-formed document: a reader finds in it the pieces it was written from, with
the strings that were put in and names that do not hang on them, and the connector's own reader
the event. -/
structure ReadsBack (xml : String) (pieces names : List Xml.Piece) (event : Option (TakInboundCotEvent F)) : Prop where
  document : Xml.parseDocument xml.toList = some pieces
  names : pieces.map pieceShape = names
  event : parseInboundCotEvent xml = event

/-- A document that was written is read back where its pieces are. -/
theorem readsBack_iff {xml : String} {names : List Xml.Piece} {event : Option (TakInboundCotEvent F)} {kept : Prop}
    (written : xml.toList = Xml.render doc.pieces) (same : doc.pieces.map pieceShape = names)
    (parsed : Xml.parseDocument (Xml.render doc.pieces) = some doc.pieces ↔ kept) (valid : doc.Valid)
    (found : kept → doc.event = event) : ReadsBack xml doc.pieces names event ↔ kept := by
  constructor
  · intro back
    exact parsed.mp (written ▸ back.document)
  · intro isKept
    refine ⟨written ▸ parsed.mpr isKept, same, ?_⟩
    rw [← String.ofList_toList (s := xml), written, parse_cotXml valid]
    exact found isKept

namespace TakConnectionConfig

theorem location_reads_back {snapshot : LocationSnapshot F} {now : DateTimeUtc} {identityLabel : Option String} {xml : String}
    (built : config.buildLocationXml snapshot now identityLabel = some xml) :
    ∃ stale, config.locationStale now = some stale ∧
      (ReadsBack xml (config.locationDocument snapshot now stale identityLabel).pieces
        (locationShape (cotEndpoint config.cotUrl).isSome) (config.locationInbound snapshot now stale) ↔
        config.LocationKept snapshot identityLabel) := by
  obtain ⟨stale, isStale, written⟩ := config.buildLocationXml_document built
  have valid : (config.locationDocument snapshot now stale identityLabel).Valid := config.locationDocument_valid
  have names : (config.locationDocument snapshot now stale identityLabel).pieces.map pieceShape =
      locationShape (cotEndpoint config.cotUrl).isSome := by
    simp only [locationDocument, CotXml.pieces, CotXml.inner, List.nil_append, List.cons_append, List.map_cons, List.map_nil,
      pieceShape_opening, pieceShape_empty]
    cases cotEndpoint config.cotUrl <;> rfl
  have found (kept : ∀ piece ∈ (config.locationDocument snapshot now stale identityLabel).pieces, piece.Kept) :
      (config.locationDocument snapshot now stale identityLabel).event = config.locationInbound snapshot now stale := by
    simp only [locationDocument, CotXml.pieces, CotXml.inner, List.nil_append, List.cons_append, List.forall_mem_cons] at kept
    have event := (opening_kept (by decide) (by simp +decide)).mp kept.1
    have point := (empty_kept (by decide) (by simp +decide)).mp kept.2.1
    simp only [locationDocument, CotXml.event, pointFromXmlStart_entries point, saidEvent, said_entries event]
    simp [locationInbound, List.lookup_cons]
  exact ⟨stale, isStale, (readsBack_iff written names (valid.parse_iff rfl rfl trivial) valid found).trans config.location_kept⟩

theorem chat_reads_back {input : ChatEventInput} {fresh : Uuid} {xml : String} (built : config.buildChatXml input fresh = some xml) :
    ∃ stale, input.timestamp.plus (24 * 3600 * 1000000000) = some stale ∧
      (ReadsBack xml (config.chatDocument input fresh stale).pieces chatShape (some (config.chatInbound input fresh stale)) ↔
        config.ChatKept input) := by
  obtain ⟨stale, content, isStale, written⟩ := config.buildChatXml_document built
  have valid : (config.chatDocument input fresh stale).Valid := config.chatDocument_valid
  have names : (config.chatDocument input fresh stale).pieces.map pieceShape = chatShape := by
    simp only [chatDocument, CotXml.pieces, CotXml.inner, List.nil_append, List.cons_append, List.map_cons, List.map_nil,
      pieceShape_opening, pieceShape_empty]
    rfl
  have found (kept : ∀ piece ∈ (config.chatDocument input fresh stale).pieces, piece.Kept) :
      (config.chatDocument input fresh stale).event = some (config.chatInbound input fresh stale) := by
    simp only [chatDocument, CotXml.pieces, CotXml.inner, List.nil_append, List.cons_append, List.forall_mem_cons] at kept
    have event := (opening_kept (by decide) (by simp +decide)).mp kept.1
    have point := (empty_kept (by decide) (by simp +decide)).mp kept.2.1
    simp only [chatDocument, CotXml.event, pointFromXmlStart_entries point, saidEvent, said_entries event]
    simp [chatInbound, List.lookup_cons, pointOf_unknown]
  have parsed := valid.parse_iff rfl rfl (by
    have some_text : (trim input.content).toList ≠ [] := by simpa using content
    simp [CotXml.inner, Xml.Apart, some_text])
  exact ⟨stale, isStale, (readsBack_iff written names parsed valid found).trans config.chat_kept⟩

/-- What stands in the element of a ping. -/
def pingInner (now : DateTimeUtc) : List Xml.Piece :=
  CotXml.inner (attributesOf pingPoint)
    [.empty "_flow-tags_".toList (attributesOf [(sanitizeFlowTagName config.callsign ++ "-v0.0.0", formatCotMicros now)])]

omit [TakHost F] in
theorem pingInner_content {now : DateTimeUtc} : Xml.Content (config.pingInner now) := by
  have valid : (config.pingDocument now now).Valid := config.pingDocument_valid
  obtain ⟨pointTag, content⟩ := valid.body _ _ rfl
  exact .empty pointTag (.element (by decide) content .nil)

omit [TakHost F] in
/-- A ping under a callsign that does not begin as a name does is no document. -/
theorem ping_refused {now : DateTimeUtc} {xml : String} (built : config.buildPingXml now = some xml) (unkept : ¬config.PingKept) :
    Xml.parseDocument xml.toList = none := by
  obtain ⟨stale, isStale, written⟩ := config.buildPingXml_document built
  have unread : (Xml.Piece.empty "_flow-tags_".toList
      (attributesOf [(sanitizeFlowTagName config.callsign ++ "-v0.0.0", formatCotMicros now)])).back = none := by
    rw [← config.flowTag_proper, Bool.not_eq_true] at unkept
    have improper : Xml.attributeBack ((sanitizeFlowTagName config.callsign ++ "-v0.0.0").toList, (formatCotMicros now).toList) =
        none := by
      rw [Xml.attributeBack, unkept]
      rfl
    have isProper : Xml.Proper "_flow-tags_".toList = true := by decide
    have refused : (attributesOf [(sanitizeFlowTagName config.callsign ++ "-v0.0.0", formatCotMicros now)]).mapM Xml.attributeBack =
        none := Xml.mapM_none (List.mem_singleton_self _) improper
    rw [Xml.Piece.back, if_pos isProper, refused]
    rfl
  have mem : Xml.Piece.empty "_flow-tags_".toList
      (attributesOf [(sanitizeFlowTagName config.callsign ++ "-v0.0.0", formatCotMicros now)]) ∈
        Xml.element "event".toList (config.pingDocument now stale).attributes (config.pingInner now) := by
    simp [Xml.element, pingInner, CotXml.inner]
  rw [written]
  exact Xml.parseDocument_refused (by decide) (by decide) (by decide) config.pingDocument_valid.event config.pingInner_content trivial
    mem unread

theorem ping_reads_back {now : DateTimeUtc} {xml : String} (built : config.buildPingXml now = some xml) :
    ∃ stale, now.plus (120 * 1000000000) = some stale ∧
      (ReadsBack (F := F) xml (config.pingDocument now stale).pieces (pingShape (sanitizeFlowTagName config.callsign ++ "-v0.0.0"))
        (some (pingInbound now stale)) ↔ config.PingKept) := by
  obtain ⟨stale, isStale, written⟩ := config.buildPingXml_document built
  have valid : (config.pingDocument now stale).Valid := config.pingDocument_valid
  have parsed : Xml.parseDocument (Xml.render (config.pingDocument now stale).pieces) = some (config.pingDocument now stale).pieces ↔
      config.PingKept := by
    have line : Xml.TextKept ['\n'] := by
      intro c mem
      rw [List.mem_singleton.mp mem]
      decide
    exact (Xml.parseDocument_declared (by decide) (by decide) (by decide) (by decide) line valid.event config.pingInner_content
      trivial).trans config.ping_kept
  have names : (config.pingDocument now stale).pieces.map pieceShape = pingShape (sanitizeFlowTagName config.callsign ++ "-v0.0.0") := by
    simp only [pingDocument, CotXml.pieces, CotXml.inner, List.nil_append, List.cons_append, List.map_cons, List.map_nil,
      pieceShape_opening, pieceShape_empty]
    rfl
  have found : (config.pingDocument now stale).event = some (pingInbound (F := F) now stale) := by
    have event : ∀ entry ∈ [("version", "2.0"), ("type", keepaliveEventType), ("uid", pingUid), ("how", keepaliveHow),
        ("time", formatCotMicros now), ("start", formatCotMicros now), ("stale", formatCotMicros stale)], AttrKeeps entry.2 := by
      simp (disch := decide) only [List.forall_mem_cons, keeps_of_all, keeps_formatCotMicros, true_and, List.not_mem_nil,
        false_implies, implies_true]
    have point : ∀ entry ∈ pingPoint, AttrKeeps entry.2 := by
      simp (disch := decide) only [pingPoint, List.forall_mem_cons, keeps_of_all, true_and, List.not_mem_nil, false_implies,
        implies_true]
    have atPoint := pointFromXmlStart_entries (F := F) point
    simp only [pingPoint] at atPoint
    simp only [pingDocument, CotXml.event, atPoint, saidEvent, said_entries event]
    simp [pingInbound, List.lookup_cons, pointOf_unknown, defaultCotValue]
  exact ⟨stale, isStale, readsBack_iff written names parsed valid fun _ => found⟩

end TakConnectionConfig

/-- **Events are read back.** Whatever is put in a location, a chat message or a ping, the XML is
read back exactly where the strings are kept. -/
theorem events_read_back :
    (∀ (snapshot : LocationSnapshot F) (now : DateTimeUtc) (identityLabel : Option String) (xml : String),
      config.buildLocationXml snapshot now identityLabel = some xml →
        ∃ stale, config.locationStale now = some stale ∧
          (ReadsBack xml (config.locationDocument snapshot now stale identityLabel).pieces
            (locationShape (cotEndpoint config.cotUrl).isSome) (config.locationInbound snapshot now stale) ↔
            config.LocationKept snapshot identityLabel)) ∧
    (∀ (input : ChatEventInput) (fresh : Uuid) (xml : String), config.buildChatXml input fresh = some xml →
      ∃ stale, input.timestamp.plus (24 * 3600 * 1000000000) = some stale ∧
        (ReadsBack xml (config.chatDocument input fresh stale).pieces chatShape (some (config.chatInbound input fresh stale)) ↔
          config.ChatKept input)) ∧
    ∀ (now : DateTimeUtc) (xml : String), config.buildPingXml now = some xml →
      ∃ stale, now.plus (120 * 1000000000) = some stale ∧
        (ReadsBack (F := F) xml (config.pingDocument now stale).pieces (pingShape (sanitizeFlowTagName config.callsign ++ "-v0.0.0"))
          (some (pingInbound now stale)) ↔ config.PingKept) := by
  exact ⟨fun _ _ _ _ => config.location_reads_back, fun _ _ _ => config.chat_reads_back, fun _ _ => config.ping_reads_back⟩

end Host

/-- A place on the map at the sample time. -/
def sampleSnapshot : LocationSnapshot Int :=
  { latitude := 52, longitude := 13, altitude := 34, speed := 0, bearing := 0, accuracy := 5, updatedAt := sampleTime
    peerHash := some "a1:b2" }

/-- The connector with a callsign. -/
def connectorOf (callsign : String) : TakConnectionConfig Int :=
  { cotUrl := "tcp://127.0.0.1:8087", callsign, pollIntervalSeconds := 30 }

/-- A label of all the characters that are escaped is read back. -/
theorem events_read_back_escaped :
    ∃ xml stale, (connectorOf "RetTAK").buildLocationXml sampleSnapshot sampleTime (some "\"/><x a='&") = some xml ∧
      ReadsBack xml ((connectorOf "RetTAK").locationDocument sampleSnapshot sampleTime stale (some "\"/><x a='&")).pieces
        (locationShape true) ((connectorOf "RetTAK").locationInbound sampleSnapshot sampleTime stale) := by
  have built : ((connectorOf "RetTAK").buildLocationXml sampleSnapshot sampleTime (some "\"/><x a='&")).isSome = true := by
    decide +kernel
  obtain ⟨xml, built⟩ := Option.isSome_iff_exists.mp built
  obtain ⟨stale, -, back⟩ := (events_read_back (connectorOf "RetTAK")).1 _ _ _ _ built
  refine ⟨xml, stale, built, back.mpr ⟨by decide +kernel, ?_, ?_⟩⟩
  · intro label same
    cases same
    decide +kernel
  · intro endpoint same
    have isEndpoint : cotEndpoint "tcp://127.0.0.1:8087" = some "127.0.0.1:8087:tcp" := by decide +kernel
    obtain rfl := Option.some.inj (isEndpoint.symm.trans same)
    decide +kernel

/-- A ping under a callsign that begins with a digit is no document, and a label with a tab is
not read back. -/
theorem not_read_back :
    (∃ xml, (connectorOf "7th").buildPingXml sampleTime = some xml ∧ Xml.parseDocument xml.toList = none) ∧
    ∃ xml stale, (connectorOf "RetTAK").buildLocationXml sampleSnapshot sampleTime (some "A\tB") = some xml ∧
      (connectorOf "RetTAK").locationStale sampleTime = some stale ∧
      ¬ReadsBack xml ((connectorOf "RetTAK").locationDocument sampleSnapshot sampleTime stale (some "A\tB")).pieces
        (locationShape true) ((connectorOf "RetTAK").locationInbound sampleSnapshot sampleTime stale) := by
  constructor
  · have built : ((connectorOf "7th").buildPingXml sampleTime).isSome = true := by decide +kernel
    obtain ⟨xml, built⟩ := Option.isSome_iff_exists.mp built
    refine ⟨xml, built, (connectorOf "7th").ping_refused built fun kept => ?_⟩
    exact absurd (kept '7' rfl) (by decide)
  · have built : ((connectorOf "RetTAK").buildLocationXml sampleSnapshot sampleTime (some "A\tB")).isSome = true := by
      decide +kernel
    obtain ⟨xml, built⟩ := Option.isSome_iff_exists.mp built
    obtain ⟨stale, isStale, back⟩ := (connectorOf "RetTAK").location_reads_back built
    refine ⟨xml, stale, built, isStale, fun read => ?_⟩
    exact absurd ((back.mp read).2.1 "A\tB" rfl) (by decide +kernel)

end TelemetryHub
