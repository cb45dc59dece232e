import Mathlib.Data.List.Basic
import TelemetryHub.Core.Normal
import TelemetryHub.Tak.Connector

/-!
# Both encodings say the same

Every event the connector builds is a document of XML, and the frame that may stand in its
place holds a message with what the document says.
-/

namespace TelemetryHub

open Lib

/-! ## Texts in a document -/

/-- A character a document writes and reads as itself. -/
def plainChar (c : Char) : Bool := Xml.nameChar c || c == ':' || c == ' '

theorem plainChar_iff {c : Char} (plain : plainChar c = true) :
    c ≠ '&' ∧ c ≠ '"' ∧ c ≠ '<' ∧ c ≠ '>' ∧ c ≠ '\t' ∧ c ≠ '\n' ∧ c ≠ '\r' := by
  refine ⟨?_, ?_, ?_, ?_, ?_, ?_, ?_⟩ <;> rintro rfl <;> revert plain <;> decide

theorem escapeValue_of_plain {text : List Char} (plain : ∀ c ∈ text, plainChar c = true) : Xml.escapeValue text = text := by
  have each : ∀ c ∈ text, Xml.escapeChar c = [c] := by
    intro c mem
    obtain ⟨amp, quot, lt, gt, -⟩ := plainChar_iff (plain c mem)
    rw [Xml.escapeChar, if_neg amp, if_neg quot, if_neg lt, if_neg gt]
  rw [Xml.escapeValue, List.flatMap_congr each, List.flatMap_singleton']

theorem normalizeValue_of_plain {text : List Char} (plain : ∀ c ∈ text, plainChar c = true) : Xml.normalizeValue text = text := by
  induction text with
  | nil => rfl
  | cons c text ih =>
    obtain ⟨-, -, -, -, tab, line, carriage⟩ := plainChar_iff (plain c List.mem_cons_self)
    rw [Xml.normalizeValue, ih fun c mem => plain c (List.mem_cons_of_mem _ mem), if_neg (by simp [tab, line, carriage])]
    exact fun rest same => absurd same carriage

/-- `str::replace` one character after another. -/
theorem replaced_escape (c : Char) :
    (((if c = '&' then "&amp;".toList else [c]).flatMap fun c => if c = '"' then "&quot;".toList else [c]).flatMap
      fun c => if c = '<' then "&lt;".toList else [c]).flatMap (fun c => if c = '>' then "&gt;".toList else [c]) =
    Xml.escapeChar c := by
  unfold Xml.escapeChar
  by_cases amp : c = '&'
  · subst amp
    rfl
  rw [if_neg amp, if_neg amp]
  by_cases quot : c = '"'
  · subst quot
    rfl
  by_cases lt : c = '<'
  · subst lt
    rfl
  by_cases gt : c = '>'
  · subst gt
    rfl
  simp [quot, lt, gt]

theorem toList_escapeAttr (value : String) : (escapeAttr value).toList = Xml.escapeValue value.toList := by
  simp only [escapeAttr, replaceChar, String.toList_ofList, List.flatMap_assoc]
  apply List.flatMap_congr
  intro c mem
  rw [← replaced_escape]
  simp only [List.flatMap_assoc]

theorem toList_escapeText (value : String) : (escapeText value).toList = Xml.escapeText value.toList := by
  simp only [escapeText, replaceChar, String.toList_ofList, List.flatMap_assoc]
  apply List.flatMap_congr
  intro c mem
  by_cases quot : c = '"'
  · subst quot
    rfl
  rw [if_neg quot, ← replaced_escape]
  simp only [List.flatMap_assoc]
  by_cases amp : c = '&'
  · subst amp
    rfl
  · simp [amp, quot]

/-! ## Times in a document -/

theorem isDigit_plain {c : Char} (digit : c.isDigit = true) : plainChar c = true := by
  simp [plainChar, Xml.nameChar, Char.isAlphanum, digit]

theorem padded_plain {width n : Nat} {c : Char} (mem : c ∈ Calendar.padded width n) : plainChar c = true :=
  isDigit_plain (Calendar.padded_digits c mem)

theorem formatCotDate_plain {t : DateTimeUtc} {c : Char} (mem : c ∈ formatCotDate t) : plainChar c = true := by
  simp only [formatCotDate, paddedYear, List.mem_append, List.mem_cons] at mem
  obtain year | rfl | month | rfl | day | rfl | hour | rfl | minute | rfl | second := mem
  · split at year
    · obtain rfl | year := List.mem_cons.1 year
      · rfl
      · exact padded_plain year
    · exact padded_plain year
  · rfl
  · exact padded_plain month
  · rfl
  · exact padded_plain day
  · rfl
  · exact padded_plain hour
  · rfl
  · exact padded_plain minute
  · rfl
  · exact padded_plain second

/-- A time from 1970 to 9999. -/
def DateTimeUtc.InRange (t : DateTimeUtc) : Prop := 1970 ≤ t.year ∧ t.year ≤ 9999

instance (t : DateTimeUtc) : Decidable t.InRange := inferInstanceAs (Decidable (_ ∧ _))

/-- The text of a time with the digits of its fraction. -/
def timeText (t : DateTimeUtc) (digits : List Char) : List Char :=
  formatCotDate t ++ (Calendar.fractionText digits ++ ['Z'])

theorem toList_formatCotSeconds (t : DateTimeUtc) : (formatCotSeconds t).toList = timeText t [] := String.toList_ofList

theorem fractionText_padded {width n : Nat} : Calendar.fractionText (Calendar.padded width n) = '.' :: Calendar.padded width n := by
  cases digits : Calendar.padded width n with
  | nil => exact absurd (List.append_eq_nil_iff.1 digits).2 Nat.toDigits_ne_nil
  | cons digit rest => rfl

theorem toList_formatCotMillis (t : DateTimeUtc) :
    (formatCotMillis t).toList = timeText t (Calendar.padded 3 (t.nanosecond / 1000000)) := by
  rw [formatCotMillis, String.toList_ofList, timeText, fractionText_padded]
  rfl

theorem toList_formatCotMicros (t : DateTimeUtc) :
    (formatCotMicros t).toList = timeText t (Calendar.padded 6 (t.nanosecond / 1000)) := by
  rw [formatCotMicros, String.toList_ofList, timeText, fractionText_padded]
  rfl

theorem timeText_plain {t : DateTimeUtc} {digits : List Char} (all : ∀ c ∈ digits, c.isDigit = true) :
    ∀ c ∈ timeText t digits, plainChar c = true := by
  intro c mem
  obtain date | mem := List.mem_append.1 mem
  · exact formatCotDate_plain date
  obtain fraction | zone := List.mem_append.1 mem
  · cases digits with
    | nil => cases fraction
    | cons digit digits =>
      obtain rfl | digit := List.mem_cons.1 fraction
      · rfl
      · exact isDigit_plain (all c digit)
  · rw [List.mem_singleton.1 zone]
    rfl

/-- A time from 1970 to 9999 is at or after the epoch, and its milliseconds fit. -/
theorem DateTimeUtc.InRange.seconds {t : DateTimeUtc} (range : t.InRange) : 0 ≤ t.seconds ∧ t.seconds < 253407484800 := by
  constructor
  · by_contra before
    have days : t.seconds / 86400 < 0 := by omega
    have year := Calendar.civilOf_year_lt days
    exact absurd range.1 (not_le.2 year)
  · have days := Calendar.days_lt_of_year range.2
    omega

theorem formatCotDate_eq {t : DateTimeUtc} (range : t.InRange) : formatCotDate t = Calendar.secondsText t.seconds := by
  have year : ¬ t.year < 0 := by
    have := range.1
    omega
  unfold formatCotDate paddedYear
  rw [if_neg year]
  rfl

section Host

variable {F : Type} [TakHost F]

/-- The text of a time is read as the milliseconds it says. -/
theorem parse_timeText {t : DateTimeUtc} {digits : List Char} (range : t.InRange) (all : ∀ c ∈ digits, c.isDigit = true) :
    TakHost.parseFromRfc3339 F (timeText t digits) = some (t.seconds * 1000 + Calendar.fractionMillis digits) := by
  have year : 0 ≤ (Calendar.civilOf (t.seconds / 86400)).year ∧ (Calendar.civilOf (t.seconds / 86400)).year ≤ 9999 := by
    have low : 1970 ≤ (Calendar.civilOf (t.seconds / 86400)).year := range.1
    exact ⟨by omega, range.2⟩
  rw [timeText, formatCotDate_eq range]
  exact TakHost.parseFromRfc3339_text year all

/-- The text of a time has its milliseconds in the message. -/
theorem parseCot_timeText {t : DateTimeUtc} {digits : List Char} (range : t.InRange)
    (all : ∀ c ∈ digits, c.isDigit = true) :
    ∃ millis, parseCotTimestampMillis F (String.ofList (timeText t digits)) = some millis ∧ millis < 2 ^ 64 ∧
      TakHost.parseFromRfc3339 F (timeText t digits) = some (millis : Int) := by
  have seconds := range.seconds
  have fraction := Calendar.fractionMillis_lt all
  have read := parse_timeText (F := F) range all
  refine ⟨(t.seconds * 1000 + Calendar.fractionMillis digits).toNat, ?_, by omega, ?_⟩
  · rw [parseCotTimestampMillis, String.toList_ofList, read, Option.bind_some, if_neg (by omega)]
  · rw [read, Int.toNat_of_nonneg (by omega)]

theorem formatFloat_plain (value : F) : ∀ c ∈ (formatFloat value).toList, plainChar c = true := by
  intro c mem
  have name : Xml.nameChar c = true := by
    unfold formatFloat at mem
    split at mem
    · exact TakHost.displayTenths_chars value c mem
    · exact TakHost.display_chars value c mem
  simp [plainChar, name]

/-- A finite number is read back. -/
theorem parse_formatFloat {value : F} (finite : TakHost.finite value = true) :
    TakHost.parseFloat (formatFloat value) = some value := by
  unfold formatFloat
  split
  · exact TakHost.parse_displayTenths finite ‹_›
  · exact TakHost.parse_display finite

end Host

/-! ## Documents of events -/

/-- An event as a document: what stands before it, its attributes, and, where it is not empty,
its point and the content of its detail. -/
structure CotXml where
  prolog : List Xml.Piece := []
  attributes : List (List Char × List Char)
  body : Option (List (List Char × List Char) × List Xml.Piece)

namespace CotXml

/-- What stands between the tags of an event. -/
def inner (point : List (List Char × List Char)) (detail : List Xml.Piece) : List Xml.Piece :=
  .empty "point".toList point :: .opening "detail".toList [] :: (detail ++ [.closing "detail".toList])

/-- The pieces of the document. -/
def pieces (doc : CotXml) : List Xml.Piece :=
  match doc.body with
  | none => doc.prolog ++ [.empty "event".toList doc.attributes]
  | some (point, detail) =>
    doc.prolog ++ .opening "event".toList doc.attributes :: (inner point detail ++ [.closing "event".toList])

/-- The names of the document are names, and its detail is content. -/
structure Valid (doc : CotXml) : Prop where
  prolog : Xml.Prolog doc.prolog
  event : Xml.IsTag "event".toList doc.attributes
  body : ∀ point detail, doc.body = some (point, detail) → Xml.IsTag "point".toList point ∧ Xml.Content detail

variable {doc : CotXml}

theorem Valid.document (valid : doc.Valid) : Xml.Document doc.pieces := by
  obtain ⟨prolog, attributes, body⟩ := doc
  cases body with
  | none => exact .empty valid.prolog valid.event
  | some body =>
    obtain ⟨tag, content⟩ := valid.body body.1 body.2 rfl
    exact .element valid.prolog valid.event (.empty tag (.element (by decide) content .nil))

end CotXml

/-- What the attribute of a tag says. -/
def said (attributes : List (List Char × List Char)) (key : String) : Option String :=
  (attributes.lookup key.toList).map fun value => String.ofList (Xml.normalizeValue value)

theorem xmlAttr_said (attributes : List (List Char × List Char)) (key : String) :
    xmlAttr key (Xml.readAttributes attributes) = some (said attributes key) := by
  unfold said
  induction attributes with
  | nil => rfl
  | cons entry attributes ih =>
    obtain ⟨name, value⟩ := entry
    show (if name = key.toList then _ else _) = _
    rw [List.lookup_cons]
    by_cases same : name = key.toList
    · rw [if_pos same, beq_iff_eq.2 same.symm]
      rfl
    · rw [if_neg same, beq_eq_false_iff_ne.2 (Ne.symm same)]
      exact ih

section Host

variable {F : Type} [TakHost F]

/-- The event the attributes say. -/
def saidEvent (attributes : List (List Char × List Char)) : TakInboundCotEvent F where
  version := (said attributes "version").getD ""
  uid := (said attributes "uid").getD ""
  eventType := (said attributes "type").getD ""
  how := (said attributes "how").getD ""
  time := (said attributes "time").getD ""
  start := (said attributes "start").getD ""
  stale := (said attributes "stale").getD ""
  access := said attributes "access"
  point := .default

theorem eventFromXmlStart_said (attributes : List (List Char × List Char)) :
    eventFromXmlStart (Xml.readAttributes attributes) = some (saidEvent attributes : TakInboundCotEvent F) := by
  simp only [eventFromXmlStart, xmlAttr_said, bind, Option.bind_some]
  rfl

theorem parseEvents_tags (s : ParseState F) (events : List (Option Xml.Event)) :
    parseEvents s (Xml.tags events) = parseEvents s events := by
  induction events generalizing s with
  | nil => rfl
  | cons event events ih =>
    cases event with
    | none => rfl
    | some event =>
      by_cases other : event = .other
      · subst other
        rw [Xml.tags_cons_other, ih]
        rfl
      · rw [Xml.tags_cons other, parseEvents, parseEvents]
        exact Option.bind_congr fun s _ => ih s

/-- The events of some pieces. -/
def events (pieces : List Xml.Piece) : List (Option Xml.Event) := (pieces.filterMap Xml.Piece.event).map some

theorem events_append {pieces more : List Xml.Piece} : events (pieces ++ more) = events pieces ++ events more := by
  rw [events, List.filterMap_append, List.map_append]
  rfl

/-- A tag below the children of the root says nothing of the event. -/
theorem ParseState.tag_below (event : TakInboundCotEvent F) {depth at' : Nat} (deep : 3 ≤ at') (name : List Char)
    (attributes : List Xml.Attribute) :
    ParseState.tag { event := some event, rootDepth := some 1, depth } at' name attributes =
      some { event := some event, rootDepth := some 1, depth } := by
  have below : at' ≠ 2 := by omega
  simp [ParseState.tag, below]

/-- Content below the children of the root says nothing of the event. -/
theorem parseEvents_content {pieces : List Xml.Piece} (content : Xml.Content pieces) {event : TakInboundCotEvent F}
    {depth : Nat} (deep : 2 ≤ depth) (rest : List (Option Xml.Event)) :
    parseEvents { event := some event, rootDepth := some 1, depth } (events pieces ++ rest) =
      parseEvents { event := some event, rootDepth := some 1, depth } rest := by
  induction content generalizing depth rest with
  | nil => rfl
  | text value later ih => exact ih deep rest
  | @empty name attributes tag others later ih =>
    have split : events (.empty name attributes :: others) ++ rest =
        some (.empty name (Xml.readAttributes attributes)) :: (events others ++ rest) := rfl
    rw [split, parseEvents, ParseState.step, ParseState.tag_below event (by dsimp only; omega), Option.bind_some]
    exact ih deep rest
  | @element name attributes tag inner others content later inside behind =>
    have split : events (.opening name attributes :: (inner ++ .closing name :: others)) ++ rest =
        some (.start name (Xml.readAttributes attributes)) ::
          (events inner ++ (some .stop :: (events others ++ rest))) := by
      show some (Xml.Event.start name (Xml.readAttributes attributes)) :: (events (inner ++ _) ++ rest) = _
      rw [events_append, List.append_assoc]
      rfl
    rw [split, parseEvents, ParseState.step]
    dsimp only
    rw [ParseState.tag_below event (by omega), Option.bind_some, inside (by omega), parseEvents, ParseState.step,
      Option.bind_some, Nat.add_sub_cancel]
    exact behind deep rest

/-- Nothing before the root is a tag. -/
theorem events_prolog {pieces : List Xml.Piece} (before : Xml.Prolog pieces) : events pieces = [] := by
  cases before <;> rfl

/-- The event a document says. -/
def CotXml.event (doc : CotXml) : Option (TakInboundCotEvent F) :=
  match doc.body with
  | none => some (saidEvent doc.attributes)
  | some (point, _) =>
    (pointFromXmlStart (Xml.readAttributes point)).map fun point => { saidEvent (F := F) doc.attributes with point }

/-- What the parser makes of a document. -/
theorem parse_cotXml {doc : CotXml} (valid : doc.Valid) :
    parseInboundCotEvent (F := F) (String.ofList (Xml.render doc.pieces)) = doc.event := by
  have prolog := events_prolog valid.prolog
  rw [parseInboundCotEvent, String.toList_ofList, ← parseEvents_tags, TakHost.xmlEvents_reads _ valid.document]
  change parseEvents {} (events doc.pieces) = _
  obtain ⟨before, attributes, body⟩ := doc
  cases body with
  | none =>
    have split : events (CotXml.pieces { prolog := before, attributes, body := none }) =
        events before ++ [some (.empty "event".toList (Xml.readAttributes attributes))] := events_append
    dsimp only at prolog
    rw [split, prolog, List.nil_append, parseEvents, ParseState.step, ParseState.tag]
    dsimp only
    rw [eventFromXmlStart_said]
    rfl
  | some body =>
    obtain ⟨point, detail⟩ := body
    have content := (valid.body point detail rfl).2
    have split : events (CotXml.pieces { prolog := before, attributes, body := some (point, detail) }) =
        events before ++ (some (.start "event".toList (Xml.readAttributes attributes)) ::
          some (.empty "point".toList (Xml.readAttributes point)) :: some (.start "detail".toList []) ::
          (events detail ++ [some .stop, some .stop])) := by
      show events (before ++ _) = _
      rw [events_append]
      show events before ++ (_ :: _ :: _ :: events ((detail ++ _) ++ _)) = _
      rw [events_append, events_append, List.append_assoc]
      rfl
    have below : ∀ event : TakInboundCotEvent F,
        parseEvents { event := some event, rootDepth := some 1, depth := 1 }
          (some (.start "detail".toList []) :: (events detail ++ [some .stop, some .stop])) = some event := by
      intro event
      have opened : ParseState.step { event := some event, rootDepth := some 1, depth := 1 } (.start "detail".toList []) =
          some { event := some event, rootDepth := some 1, depth := 2 } := rfl
      rw [parseEvents, opened, Option.bind_some, parseEvents_content content (Nat.le_refl 2)]
      rfl
    dsimp only at prolog
    rw [split, prolog, List.nil_append, parseEvents, ParseState.step, ParseState.tag]
    dsimp only
    rw [eventFromXmlStart_said, Option.map_some, Option.bind_some, parseEvents, ParseState.step, ParseState.tag]
    dsimp only
    rw [if_pos (by decide), CotXml.event]
    dsimp only
    cases pointFromXmlStart (F := F) (Xml.readAttributes point) with
    | none => rfl
    | some point => exact below _

end Host

/-! ## The content of the detail -/

theorem findChars_self (sought rest : List Char) : findChars sought (sought ++ rest) = some 0 := by
  cases sought with
  | nil => cases rest <;> rfl
  | cons c sought =>
    rw [List.cons_append, findChars, if_pos]
    exact List.isPrefixOf_iff_prefix.2 (List.prefix_append _ _)

theorem findChars_cons {sought text : List Char} {c : Char} (other : ¬ sought <+: c :: text) :
    findChars sought (c :: text) = (findChars sought text).map (· + 1) := by
  rw [findChars, if_neg (by rwa [List.isPrefixOf_iff_prefix])]

/-- Characters that are not the first one sought are passed over. -/
theorem findChars_skip {first : Char} {more front : List Char} (other : ∀ c ∈ front, c ≠ first) (rest : List Char) :
    findChars (first :: more) (front ++ rest) = (findChars (first :: more) rest).map (· + front.length) := by
  induction front with
  | nil => simp
  | cons c front ih =>
    have here : ¬ (first :: more) <+: c :: (front ++ rest) :=
      fun begins => other c List.mem_cons_self (List.cons_prefix_cons.1 begins).1.symm
    rw [List.cons_append, findChars_cons here, ih fun c mem => other c (List.mem_cons_of_mem _ mem), Option.map_map]
    congr 1

/-- A piece that is passed over where the text after a bracket is sought. -/
def PassedOver (sought : List Char) (piece : Xml.Piece) : Prop :=
  (∀ c ∈ piece.tag, c ≠ '<') ∧ ∀ rest, ¬ sought <+: piece.tag ++ '>' :: rest

theorem findChars_piece {sought : List Char} {piece : Xml.Piece} (passed : PassedOver sought piece) (rest : List Char) :
    findChars ('<' :: sought) (piece.render ++ rest) = (findChars ('<' :: sought) rest).map (· + piece.render.length) := by
  have tagged : findChars ('<' :: sought) ('<' :: (piece.tag ++ ['>']) ++ rest) =
      (findChars ('<' :: sought) rest).map (· + ('<' :: (piece.tag ++ ['>'])).length) := by
    have plain : ∀ c ∈ piece.tag ++ ['>'], c ≠ '<' := by
      intro c mem
      obtain inTag | last := List.mem_append.1 mem
      · exact passed.1 c inTag
      · rw [List.mem_singleton.1 last]
        decide
    have here : ¬ ('<' :: sought) <+: '<' :: (piece.tag ++ ['>'] ++ rest) := by
      rw [List.cons_prefix_cons, List.append_assoc]
      exact fun begins => passed.2 rest begins.2
    rw [List.cons_append, findChars_cons here, findChars_skip plain, Option.map_map]
    congr 1
  cases piece with
  | text value => exact findChars_skip (fun c mem => Xml.escapeText_plain mem) rest
  | instruction content => exact tagged
  | opening name attributes => exact tagged
  | empty name attributes => exact tagged
  | closing name => exact tagged

theorem findChars_render {sought : List Char} {pieces : List Xml.Piece} (passed : ∀ piece ∈ pieces, PassedOver sought piece)
    (rest : List Char) :
    findChars ('<' :: sought) (Xml.render pieces ++ rest) =
      (findChars ('<' :: sought) rest).map (· + (Xml.render pieces).length) := by
  induction pieces with
  | nil => simp [Xml.render]
  | cons piece pieces ih =>
    have written : Xml.render (piece :: pieces) = piece.render ++ Xml.render pieces := rfl
    rw [written, List.append_assoc, findChars_piece (passed piece List.mem_cons_self),
      ih fun piece mem => passed piece (List.mem_cons_of_mem _ mem), Option.map_map, List.length_append]
    congr 1
    funext at'
    show at' + _ + _ = _
    omega

/-- What stands before the detail is passed over, and so is what stands in it; the content
has no white space about it. -/
structure CotXml.Tidy (doc : CotXml) : Prop where
  prolog : ∀ piece ∈ doc.prolog, PassedOver "detail".toList piece
  inside : ∀ point detail, doc.body = some (point, detail) →
    (∀ piece ∈ detail, PassedOver "/detail>".toList piece) ∧ Xml.render detail ≠ [] ∧ Trimmed (Xml.render detail)

/-- The content of the detail. -/
def CotXml.detail (doc : CotXml) : Option String := doc.body.map fun body => String.ofList (Xml.render body.2)

theorem tag_passed {sought : List Char} (piece : Xml.Piece) (valid : piece.Valid)
    (tag : ∀ content, piece ≠ .instruction content) (other : ∀ rest, ¬ sought <+: piece.tag ++ '>' :: rest) :
    PassedOver sought piece := by
  refine ⟨fun c mem => ?_, other⟩
  obtain plain | ⟨content, same⟩ := valid.tag_plain mem
  · exact plain.2
  · exact absurd same (tag content)

/-- The root, and a point, are no detail. -/
theorem root_passed {doc : CotXml} (valid : doc.Valid) :
    PassedOver "detail".toList (.opening "event".toList doc.attributes) ∧
      PassedOver "detail".toList (.empty "event".toList doc.attributes) := by
  constructor
  · apply tag_passed (.opening _ _) valid.event (fun content same => by cases same)
    intro rest
    simp [Xml.Piece.tag]
  · apply tag_passed (.empty _ _) valid.event (fun content same => by cases same)
    intro rest
    simp [Xml.Piece.tag]

theorem point_passed {point : List (List Char × List Char)} (tag : Xml.IsTag "point".toList point) :
    PassedOver "detail".toList (.empty "point".toList point) := by
  apply tag_passed (.empty _ _) tag fun content same => nomatch same
  intro rest
  simp [Xml.Piece.tag]

/-- What stands between the tags of the detail is cut out where these are the first found. -/
theorem cotDetailXml_between {front inner after : List Char} (content : inner ≠ []) (trimmed : Trimmed inner)
    (start : findChars "<detail".toList (front ++ ("<detail".toList ++ '>' :: (inner ++ ("</detail>".toList ++ after)))) =
      some front.length)
    (finish : findChars "</detail>".toList (inner ++ ("</detail>".toList ++ after)) = some inner.length) :
    cotDetailXml (String.ofList (front ++ ("<detail".toList ++ '>' :: (inner ++ ("</detail>".toList ++ after))))) =
      some (String.ofList inner) := by
  have bracket : findChars ['>'] ("<detail".toList ++ '>' :: (inner ++ ("</detail>".toList ++ after))) = some 7 := by
    rw [findChars_skip (by simp)]
    rfl
  have skipped : (front ++ ("<detail".toList ++ '>' :: (inner ++ ("</detail>".toList ++ after)))).drop (7 + front.length + 1) =
      inner ++ ("</detail>".toList ++ after) := by
    have opened : (front ++ ("<detail".toList ++ ['>'])).length = 7 + front.length + 1 := by
      simp only [List.length_append, List.length_cons, List.length_nil]
      have seven : "<detail".toList.length = 7 := rfl
      omega
    rw [← opened]
    have split : front ++ ("<detail".toList ++ '>' :: (inner ++ ("</detail>".toList ++ after))) =
        (front ++ ("<detail".toList ++ ['>'])) ++ (inner ++ ("</detail>".toList ++ after)) := by
      simp only [List.append_assoc, List.singleton_append]
    rw [split, List.drop_left]
  have written : ∀ text : List Char, (String.ofList text).toList = text := fun text => String.toList_ofList
  unfold cotDetailXml
  rw [written]
  dsimp only
  rw [start, Option.bind_some, List.drop_left, bracket, Option.bind_some, skipped, finish, Option.bind_some, List.take_left,
    trimChars_of_trimmed trimmed, if_neg (by rwa [List.isEmpty_iff])]

/-- The detail is cut out as it is. -/
theorem cotDetailXml_cotXml {doc : CotXml} (valid : doc.Valid) (tidy : doc.Tidy) :
    cotDetailXml (String.ofList (Xml.render doc.pieces)) = doc.detail := by
  have root := root_passed valid
  obtain ⟨before, attributes, body⟩ := doc
  cases body with
  | none =>
    have passed : ∀ piece ∈ before ++ [.empty "event".toList attributes], PassedOver "detail".toList piece := by
      intro piece mem
      obtain early | last := List.mem_append.1 mem
      · exact tidy.prolog piece early
      · rw [List.mem_singleton.1 last]
        exact root.2
    have written : ∀ text : List Char, (String.ofList text).toList = text := fun text => String.toList_ofList
    have absent := findChars_render passed []
    rw [List.append_nil] at absent
    unfold cotDetailXml
    rw [written]
    change (findChars ('<' :: "detail".toList) (Xml.render (before ++ [.empty "event".toList attributes]))).bind _ = _
    rw [absent]
    rfl
  | some body =>
    obtain ⟨point, detail⟩ := body
    obtain ⟨inside, content, trimmed⟩ := tidy.inside point detail rfl
    have passed : ∀ piece ∈ before ++ [.opening "event".toList attributes, .empty "point".toList point],
        PassedOver "detail".toList piece := by
      intro piece mem
      obtain early | late := List.mem_append.1 mem
      · exact tidy.prolog piece early
      · have tag := (valid.body point detail rfl).1
        exact List.forall_mem_cons.2 ⟨root.1, List.forall_mem_singleton.2 (point_passed tag)⟩ piece late
    have text : Xml.render (CotXml.pieces { prolog := before, attributes, body := some (point, detail) }) =
        Xml.render (before ++ [.opening "event".toList attributes, .empty "point".toList point]) ++
          ("<detail".toList ++ '>' :: (Xml.render detail ++ ("</detail>".toList ++ "</event>".toList))) := by
      simp [CotXml.pieces, CotXml.inner, Xml.render, Xml.Piece.render, Xml.Piece.tag, Xml.renderAttributes]
    rw [text]
    apply cotDetailXml_between content trimmed
    · refine (findChars_render passed _).trans ?_
      change (findChars "<detail".toList _).map _ = _
      rw [findChars_self, Option.map_some, Nat.zero_add]
    · refine (findChars_render inside _).trans ?_
      change (findChars "</detail>".toList _).map _ = _
      rw [findChars_self, Option.map_some, Nat.zero_add]

/-! ## The message -/

section Host

variable {F : Type} [TakHost F]

/-- The coordinates of a message, under the names they have in a point. -/
def TakProtoCotEvent.coordinates (cot : TakProtoCotEvent F) : List (String × F) :=
  [("lat", cot.lat), ("lon", cot.lon), ("hae", cot.hae), ("ce", cot.ce), ("le", cot.le)]

/-- A coordinate of a document; without a point it is zero. -/
def CotXml.coordinate (doc : CotXml) (key : String) : Option F :=
  match doc.body with
  | none => some TakHost.zero
  | some (point, _) => (said point key).bind TakHost.parseFloat

/-- A message says what a document says. -/
structure Agrees (doc : CotXml) (cot : TakProtoCotEvent F) : Prop where
  texts : ∀ entry ∈ [("type", cot.type), ("uid", cot.uid), ("how", cot.how)], said doc.attributes entry.1 = some entry.2
  access : cot.access = (said doc.attributes "access").getD ""
  unset : cot.qos = "" ∧ cot.opex = ""
  times : ∀ entry ∈ [("time", cot.sendTime), ("start", cot.startTime), ("stale", cot.staleTime)],
    (said doc.attributes entry.1).bind (fun text => TakHost.parseFromRfc3339 F text.toList) = some (entry.2 : Int)
  point : ∀ entry ∈ cot.coordinates, ∃ value, doc.coordinate entry.1 = some value ∧ TakHost.same entry.2 value
  detail : cot.detail.map (·.xmlDetail) = doc.detail

variable (F) in
/-- A document with the texts, the times and the coordinates of an event. -/
structure CotXml.Complete (doc : CotXml) : Prop where
  valid : doc.Valid
  tidy : doc.Tidy
  texts : ∀ key ∈ ["type", "uid", "how"], (said doc.attributes key).isSome
  times : ∀ key ∈ ["time", "start", "stale"], ∃ t digits, DateTimeUtc.InRange t ∧ (∀ c ∈ digits, c.isDigit = true) ∧
    said doc.attributes key = some (String.ofList (timeText t digits))
  point : ∀ key ∈ ["lat", "lon", "hae", "ce", "le"], ∃ value : F, doc.coordinate key = some value ∧ TakHost.finite value = true

theorem coordinate_said {point : List (List Char × List Char)} {key : String} {value : F}
    (there : (said point key).bind TakHost.parseFloat = some value) :
    coordinate key (Xml.readAttributes point) = some value := by
  rw [coordinate, xmlAttr_said, Option.bind_some]
  cases text : said point key with
  | none =>
    rw [text] at there
    cases there
  | some text =>
    rw [text] at there
    exact there

/-- The event of a complete document has the point of the document. -/
theorem CotXml.Complete.event {doc : CotXml} (complete : doc.Complete F) :
    ∃ point : TakInboundCotPoint F, doc.event = some { saidEvent (F := F) doc.attributes with point } ∧
      ∀ entry ∈ [("lat", point.lat), ("lon", point.lon), ("hae", point.hae), ("ce", point.ce), ("le", point.le)],
        doc.coordinate entry.1 = some entry.2 ∧ TakHost.finite entry.2 = true := by
  have places := complete.point
  obtain ⟨before, attributes, body⟩ := doc
  cases body with
  | none =>
    refine ⟨.default, rfl, ?_⟩
    simp only [List.forall_mem_cons]
    exact ⟨⟨rfl, TakHost.zero_finite⟩, ⟨rfl, TakHost.zero_finite⟩, ⟨rfl, TakHost.zero_finite⟩, ⟨rfl, TakHost.zero_finite⟩,
      ⟨rfl, TakHost.zero_finite⟩, nofun⟩
  | some body =>
    obtain ⟨point, detail⟩ := body
    simp only [List.forall_mem_cons] at places
    obtain ⟨⟨lat, isLat, latFinite⟩, ⟨lon, isLon, lonFinite⟩, ⟨hae, isHae, haeFinite⟩, ⟨ce, isCe, ceFinite⟩,
      ⟨le, isLe, leFinite⟩, -⟩ := places
    refine ⟨{ lat, lon, hae, ce, le }, ?_, ?_⟩
    · have read : pointFromXmlStart (Xml.readAttributes point) = some ({ lat, lon, hae, ce, le } : TakInboundCotPoint F) := by
        simp only [pointFromXmlStart, coordinate_said isLat, coordinate_said isLon, coordinate_said isHae, coordinate_said isCe,
          coordinate_said isLe, bind, Option.bind_some]
        rfl
      rw [CotXml.event]
      dsimp only
      rw [read]
      rfl
    · simp only [List.forall_mem_cons]
      exact ⟨⟨isLat, latFinite⟩, ⟨isLon, lonFinite⟩, ⟨isHae, haeFinite⟩, ⟨isCe, ceFinite⟩, ⟨isLe, leFinite⟩, nofun⟩

/-- A time of a complete document is read into the message. -/
theorem CotXml.Complete.time {doc : CotXml} (complete : doc.Complete F) (key : String) (mem : key ∈ ["time", "start", "stale"]) :
    ∃ millis, parseCotTimestampMillis F ((said doc.attributes key).getD "") = some millis ∧ millis < 2 ^ 64 ∧
      (said doc.attributes key).bind (fun text => TakHost.parseFromRfc3339 F text.toList) = some (millis : Int) := by
  obtain ⟨t, digits, range, all, text⟩ := complete.times key mem
  obtain ⟨millis, parsed, fits, read⟩ := parseCot_timeText (F := F) range all
  refine ⟨millis, ?_, fits, ?_⟩
  · rw [text, Option.getD_some, parsed]
  · rw [text, Option.bind_some, String.toList_ofList, read]

/-- What is read of a complete document is what it says. -/
theorem CotXml.Complete.cot {doc : CotXml} (complete : doc.Complete F) :
    ∃ cot, takProtoCotEvent F (String.ofList (Xml.render doc.pieces)) = some cot ∧ Agrees doc cot ∧
      (cot.sendTime < 2 ^ 64 ∧ cot.startTime < 2 ^ 64 ∧ cot.staleTime < 2 ^ 64) ∧
      ∀ entry ∈ cot.coordinates, doc.coordinate entry.1 = some entry.2 ∧ TakHost.finite entry.2 = true := by
  obtain ⟨point, event, places⟩ := complete.event
  obtain ⟨send, parsedSend, sendFits, readSend⟩ := complete.time "time" (by decide)
  obtain ⟨start, parsedStart, startFits, readStart⟩ := complete.time "start" (by decide)
  obtain ⟨stale, parsedStale, staleFits, readStale⟩ := complete.time "stale" (by decide)
  have parsed := parse_cotXml (F := F) complete.valid
  rw [event] at parsed
  have cut := cotDetailXml_cotXml complete.valid complete.tidy
  have there : ∀ key ∈ ["type", "uid", "how"], said doc.attributes key = some ((said doc.attributes key).getD "") := by
    intro key mem
    obtain ⟨text, isText⟩ := Option.isSome_iff_exists.1 (complete.texts key mem)
    rw [isText]
    rfl
  refine ⟨{
    type := (said doc.attributes "type").getD "", access := (said doc.attributes "access").getD "", qos := "", opex := ""
    uid := (said doc.attributes "uid").getD "", sendTime := send, startTime := start, staleTime := stale
    how := (said doc.attributes "how").getD "", lat := point.lat, lon := point.lon, hae := point.hae, ce := point.ce
    le := point.le, detail := doc.detail.map fun xmlDetail => { xmlDetail } }, ?_, ?_, ⟨sendFits, startFits, staleFits⟩, ?_⟩
  · simp only [takProtoCotEvent, parsed, bind, Option.bind_some, saidEvent, parsedSend, parsedStart, parsedStale, cut]
    rfl
  · constructor
    · simp only [List.forall_mem_cons]
      exact ⟨there "type" (by decide), there "uid" (by decide), there "how" (by decide), nofun⟩
    · rfl
    · exact ⟨rfl, rfl⟩
    · simp only [List.forall_mem_cons]
      exact ⟨readSend, readStart, readStale, nofun⟩
    · intro entry mem
      obtain ⟨isValue, finite⟩ := places entry mem
      exact ⟨entry.2, isValue, TakHost.same_self finite⟩
    · rw [Option.map_map]
      exact Option.map_id'
  · exact places

omit [TakHost F] in
theorem encodeU64Varint_eq (value : Nat) : encodeU64Varint value = Protobuf.varint value := by
  induction value using Nat.strongRecOn with
  | ind value ih =>
    unfold encodeU64Varint Protobuf.varint
    by_cases small : value < 128
    · rw [if_neg (by omega), if_pos small, Nat.mod_eq_of_lt small]
    · rw [if_pos (by omega), if_neg small, ih (value / 128) (by omega)]

/-- The frame of a complete document is the magic byte, the length of a payload and the
payload, and the message in the payload says what the document says. -/
theorem CotXml.Complete.frame {doc : CotXml} (complete : doc.Complete F) :
    ∃ payload cot, cotXmlToTakProtoFrame F (String.ofList (Xml.render doc.pieces)) =
        some (0xbf :: (Protobuf.varint payload.length ++ payload)) ∧
      TakHost.decode payload = some { cotEvent := some cot } ∧ Agrees (F := F) doc cot := by
  obtain ⟨cot, read, agrees, fits, places⟩ := complete.cot
  have finite : TakHost.finite cot.lat = true ∧ TakHost.finite cot.lon = true ∧ TakHost.finite cot.hae = true ∧
      TakHost.finite cot.ce = true ∧ TakHost.finite cot.le = true := by
    simp only [TakProtoCotEvent.coordinates, List.forall_mem_cons] at places
    obtain ⟨⟨-, lat⟩, ⟨-, lon⟩, ⟨-, hae⟩, ⟨-, ce⟩, ⟨-, le⟩, -⟩ := places
    exact ⟨lat, lon, hae, ce, le⟩
  obtain ⟨lat, lon, hae, ce, le, decoded, sameLat, sameLon, sameHae, sameCe, sameLe⟩ := TakHost.decode_encode cot fits finite
  refine ⟨TakHost.encode { cotEvent := some cot }, { cot with lat, lon, hae, ce, le }, ?_, decoded, ?_⟩
  · rw [cotXmlToTakProtoFrame, read, Option.map_some]
    dsimp only
    rw [encodeU64Varint_eq]
  · refine { agrees with point := ?_ }
    simp only [TakProtoCotEvent.coordinates, List.forall_mem_cons] at places ⊢
    obtain ⟨⟨isLat, -⟩, ⟨isLon, -⟩, ⟨isHae, -⟩, ⟨isCe, -⟩, ⟨isLe, -⟩, -⟩ := places
    exact ⟨⟨_, isLat, sameLat⟩, ⟨_, isLon, sameLon⟩, ⟨_, isHae, sameHae⟩, ⟨_, isCe, sameCe⟩, ⟨_, isLe, sameLe⟩, nofun⟩

end Host

end TelemetryHub
