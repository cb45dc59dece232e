import Mathlib.Data.List.Nodup

/-!
# Documents of XML

A document is a sequence of pieces: tags with their attributes, and character data. Rendered
it escapes what it carries; read, it gives the tags in their order, and the values of their
attributes with white space in place of line ends and tabs.
-/

namespace TelemetryHub.Lib.Xml

/-! ## Character data -/

/-- A character of an attribute value, as a document writes it. -/
def escapeChar (c : Char) : List Char :=
  if c = '&' then ['&', 'a', 'm', 'p', ';'] else if c = '"' then ['&', 'q', 'u', 'o', 't', ';']
  else if c = '<' then ['&', 'l', 't', ';'] else if c = '>' then ['&', 'g', 't', ';'] else [c]

/-- An attribute value, as a document writes it. -/
def escapeValue (value : List Char) : List Char := value.flatMap escapeChar

/-- Character data, as a document writes it. -/
def escapeText (value : List Char) : List Char := value.flatMap fun c => if c = '"' then [c] else escapeChar c

/-- An attribute value, as it is read: a line end or a tab is a space. -/
def normalizeValue : List Char → List Char
  | '\r' :: '\n' :: rest => ' ' :: normalizeValue rest
  | c :: rest => (if c = '\t' ∨ c = '\n' ∨ c = '\r' then ' ' else c) :: normalizeValue rest
  | [] => []

theorem plain_of_all {text : List Char} (all : text.all (fun d => d != '<' && d != '>' && d != '"') = true) {d : Char}
    (mem : d ∈ text) : d ≠ '<' ∧ d ≠ '>' ∧ d ≠ '"' := by
  simpa [and_assoc] using List.all_eq_true.1 all d mem

/-- What a document writes of a character has no delimiter of a tag or a value. -/
theorem escapeChar_plain {c d : Char} (mem : d ∈ escapeChar c) : d ≠ '<' ∧ d ≠ '>' ∧ d ≠ '"' := by
  unfold escapeChar at mem
  by_cases amp : c = '&'
  · rw [if_pos amp] at mem
    exact plain_of_all (by decide) mem
  rw [if_neg amp] at mem
  by_cases quot : c = '"'
  · rw [if_pos quot] at mem
    exact plain_of_all (by decide) mem
  rw [if_neg quot] at mem
  by_cases lt : c = '<'
  · rw [if_pos lt] at mem
    exact plain_of_all (by decide) mem
  rw [if_neg lt] at mem
  by_cases gt : c = '>'
  · rw [if_pos gt] at mem
    exact plain_of_all (by decide) mem
  rw [if_neg gt] at mem
  rw [List.mem_singleton.1 mem]
  exact ⟨lt, gt, quot⟩

theorem escapeValue_plain {value : List Char} {d : Char} (mem : d ∈ escapeValue value) : d ≠ '<' ∧ d ≠ '>' ∧ d ≠ '"' := by
  obtain ⟨c, -, there⟩ := List.mem_flatMap.1 mem
  exact escapeChar_plain there

theorem escapeText_plain {value : List Char} {d : Char} (mem : d ∈ escapeText value) : d ≠ '<' := by
  obtain ⟨c, -, there⟩ := List.mem_flatMap.1 mem
  by_cases quot : c = '"'
  · rw [if_pos quot, List.mem_singleton, quot] at there
    rw [there]
    decide
  · rw [if_neg quot] at there
    exact (escapeChar_plain there).1

/-! ## Documents -/

/-- A piece of a document. -/
inductive Piece where
  | instruction (content : List Char)
  | opening (name : List Char) (attributes : List (List Char × List Char))
  | empty (name : List Char) (attributes : List (List Char × List Char))
  | closing (name : List Char)
  | text (value : List Char)

/-- The attributes of a tag. -/
def renderAttributes (attributes : List (List Char × List Char)) : List Char :=
  attributes.flatMap fun (name, value) => ' ' :: (name ++ '=' :: '"' :: (escapeValue value ++ ['"']))

/-- What stands between the brackets of a tag. -/
def Piece.tag : Piece → List Char
  | .instruction content => '?' :: (content ++ ['?'])
  | .opening name attributes => name ++ renderAttributes attributes
  | .empty name attributes => name ++ (renderAttributes attributes ++ [' ', '/'])
  | .closing name => '/' :: name
  | .text _ => []

/-- A piece, written. -/
def Piece.render : Piece → List Char
  | .text value => escapeText value
  | piece => '<' :: (piece.tag ++ ['>'])

/-- A document, written. -/
def render (pieces : List Piece) : List Char := pieces.flatMap Piece.render

/-- A character of a name. -/
def nameChar (c : Char) : Bool := c.isAlphanum || c == '_' || c == '-' || c == '.'

/-- A name. -/
def IsName (name : List Char) : Prop := name ≠ [] ∧ ∀ c ∈ name, nameChar c = true

instance (name : List Char) : Decidable (IsName name) :=
  decidable_of_iff (name ≠ [] ∧ name.all nameChar = true) (by rw [IsName, List.all_eq_true])

/-- The names of a tag are names, and no two attributes have one. -/
def IsTag (name : List Char) (attributes : List (List Char × List Char)) : Prop :=
  IsName name ∧ (∀ entry ∈ attributes, IsName entry.1) ∧ (attributes.map Prod.fst).Nodup

instance (name : List Char) (attributes : List (List Char × List Char)) : Decidable (IsTag name attributes) :=
  inferInstanceAs (Decidable (_ ∧ _))

/-- What stands between the tags of an element. -/
inductive Content : List Piece → Prop
  | nil : Content []
  | text (value : List Char) {rest : List Piece} (later : Content rest) : Content (.text value :: rest)
  | empty {name : List Char} {attributes : List (List Char × List Char)} (tag : IsTag name attributes) {rest : List Piece}
    (later : Content rest) : Content (.empty name attributes :: rest)
  | element {name : List Char} {attributes : List (List Char × List Char)} (tag : IsTag name attributes)
    {inner rest : List Piece} (content : Content inner) (later : Content rest) :
    Content (.opening name attributes :: (inner ++ .closing name :: rest))

/-- What may stand before the root: nothing, or a declaration and white space. -/
inductive Prolog : List Piece → Prop
  | none : Prolog []
  | declared (content white : List Char) (plain : ∀ c ∈ content, c ≠ '?' ∧ c ≠ '>')
    (space : ∀ c ∈ white, c = ' ' ∨ c = '\n' ∨ c = '\r' ∨ c = '\t') : Prolog [.instruction content, .text white]

/-- A declaration before the root, its characters checked. -/
theorem Prolog.of_all {content white : List Char} (plain : content.all (fun c => c != '?' && c != '>') = true)
    (space : white.all (fun c => c == ' ' || c == '\n' || c == '\r' || c == '\t') = true) :
    Prolog [.instruction content, .text white] :=
  .declared content white (by simpa using List.all_eq_true.1 plain) (by simpa [or_assoc] using List.all_eq_true.1 space)

/-- A document with one root. -/
inductive Document : List Piece → Prop
  | empty {prolog : List Piece} (before : Prolog prolog) {name : List Char} {attributes : List (List Char × List Char)}
    (tag : IsTag name attributes) : Document (prolog ++ [.empty name attributes])
  | element {prolog : List Piece} (before : Prolog prolog) {name : List Char} {attributes : List (List Char × List Char)}
    (tag : IsTag name attributes) {inner : List Piece} (content : Content inner) :
    Document (prolog ++ .opening name attributes :: (inner ++ [.closing name]))

/-! ## Events -/

/-- An attribute as a reader gives it: none where it is malformed, and no value where that is. -/
abbrev Attribute : Type := Option (List Char × Option (List Char))

/-- An event of a reader: a tag, or something else. -/
inductive Event where
  | start (name : List Char) (attributes : List Attribute)
  | empty (name : List Char) (attributes : List Attribute)
  | stop
  | other
  deriving DecidableEq

/-- The attributes of a tag, as they are read. -/
def readAttributes (attributes : List (List Char × List Char)) : List Attribute :=
  attributes.map fun (name, value) => some (name, some (normalizeValue value))

/-- The event of a piece that is a tag. -/
def Piece.event : Piece → Option Event
  | .opening name attributes => some (.start name (readAttributes attributes))
  | .empty name attributes => some (.empty name (readAttributes attributes))
  | .closing _ => some .stop
  | .instruction _ => none
  | .text _ => none

/-- The events of the tags among what a reader gives, and its errors. -/
def tags (events : List (Option Event)) : List (Option Event) := events.filter fun event => decide (event ≠ some .other)

/-- A reader gives the tags of every document. -/
def Reads (read : List Char → List (Option Event)) : Prop :=
  ∀ pieces, Document pieces → tags (read (render pieces)) = (pieces.filterMap Piece.event).map some

/-! ## A reader -/

/-- Read an attribute value. -/
def decodeValue : List Char → Option (List Char)
  | '&' :: 'a' :: 'm' :: 'p' :: ';' :: rest => (decodeValue rest).map ('&' :: ·)
  | '&' :: 'q' :: 'u' :: 'o' :: 't' :: ';' :: rest => (decodeValue rest).map ('"' :: ·)
  | '&' :: 'l' :: 't' :: ';' :: rest => (decodeValue rest).map ('<' :: ·)
  | '&' :: 'g' :: 't' :: ';' :: rest => (decodeValue rest).map ('>' :: ·)
  | '&' :: _ => none
  | '\r' :: '\n' :: rest => (decodeValue rest).map (' ' :: ·)
  | c :: rest => (decodeValue rest).map ((if c = '\t' ∨ c = '\n' ∨ c = '\r' then ' ' else c) :: ·)
  | [] => some []

theorem escapeValue_head {value : List Char} (mem : (escapeValue value).head? = some '\n') : value.head? = some '\n' := by
  cases value with
  | nil => exact mem
  | cons c value =>
    unfold escapeValue escapeChar at mem
    rw [List.flatMap_cons] at mem
    by_cases amp : c = '&'
    · rw [if_pos amp] at mem
      cases mem
    rw [if_neg amp] at mem
    by_cases quot : c = '"'
    · rw [if_pos quot] at mem
      cases mem
    rw [if_neg quot] at mem
    by_cases lt : c = '<'
    · rw [if_pos lt] at mem
      cases mem
    rw [if_neg lt] at mem
    by_cases gt : c = '>'
    · rw [if_pos gt] at mem
      cases mem
    rw [if_neg gt] at mem
    exact mem

/-- An attribute value is read as it was, with spaces for its line ends and tabs. -/
theorem decodeValue_escapeValue (value : List Char) : decodeValue (escapeValue value) = some (normalizeValue value) := by
  induction value using normalizeValue.induct with
  | case1 rest ih =>
    have written : escapeValue ('\r' :: '\n' :: rest) = '\r' :: '\n' :: escapeValue rest := rfl
    rw [written, decodeValue, ih, normalizeValue]
    rfl
  | case2 c rest plain ih =>
    have written : escapeValue (c :: rest) = escapeChar c ++ escapeValue rest := rfl
    have normal : normalizeValue (c :: rest) =
        (if c = '\t' ∨ c = '\n' ∨ c = '\r' then ' ' else c) :: normalizeValue rest := by
      rw [normalizeValue]
      exact plain
    rw [written, normal, escapeChar]
    by_cases amp : c = '&'
    · subst amp
      show decodeValue ('&' :: 'a' :: 'm' :: 'p' :: ';' :: escapeValue rest) = _
      rw [decodeValue, ih]
      rfl
    rw [if_neg amp]
    by_cases quot : c = '"'
    · subst quot
      show decodeValue ('&' :: 'q' :: 'u' :: 'o' :: 't' :: ';' :: escapeValue rest) = _
      rw [decodeValue, ih]
      rfl
    rw [if_neg quot]
    by_cases lt : c = '<'
    · subst lt
      show decodeValue ('&' :: 'l' :: 't' :: ';' :: escapeValue rest) = _
      rw [decodeValue, ih]
      rfl
    rw [if_neg lt]
    by_cases gt : c = '>'
    · subst gt
      show decodeValue ('&' :: 'g' :: 't' :: ';' :: escapeValue rest) = _
      rw [decodeValue, ih]
      rfl
    rw [if_neg gt, List.singleton_append, decodeValue, ih]
    · rfl
    · exact fun _ same _ => amp same
    · exact fun _ same _ => amp same
    · exact fun _ same _ => amp same
    · exact fun _ same _ => amp same
    · exact amp
    · intro behind same starts
      have first : (escapeValue rest).head? = some '\n' := by rw [starts]; rfl
      have head := escapeValue_head first
      cases rest with
      | nil => cases head
      | cons first rest => exact plain rest same (congrArg (· :: rest) (Option.some.inj head))
  | case3 => rfl

/-- Read the attributes of a tag, so many at most. -/
def scanAttributes : Nat → List Char → List Attribute
  | 0, _ => []
  | count + 1, text =>
    match text.dropWhile (· == ' ') with
    | [] => []
    | first :: text =>
      let name := (first :: text).takeWhile (· != '=')
      match (first :: text).drop name.length with
      | '=' :: '"' :: rest =>
        let value := rest.takeWhile (· != '"')
        match rest.drop value.length with
        | _ :: rest => some (name, decodeValue value) :: scanAttributes count rest
        | [] => [none]
      | _ => [none]

/-- The event of what stands between brackets. -/
def tagEvent (tag : List Char) : Event :=
  match tag with
  | '?' :: _ => .other
  | '/' :: _ => .stop
  | tag =>
    let name := tag.takeWhile nameChar
    let rest := tag.drop name.length
    if tag.getLast? = some '/' then .empty name (scanAttributes tag.length rest.dropLast)
    else .start name (scanAttributes tag.length rest)

/-- Read a document, so many characters at most. -/
def scanUpTo : Nat → List Char → List (Option Event)
  | _, [] => []
  | 0, _ :: _ => [none]
  | count + 1, '<' :: text =>
    let tag := text.takeWhile (· != '>')
    match text.drop tag.length with
    | [] => [none]
    | _ :: rest => some (tagEvent tag) :: scanUpTo count rest
  | count + 1, _ :: text => some .other :: scanUpTo count text

/-- Read a document. -/
def scan (text : List Char) : List (Option Event) := scanUpTo text.length text

theorem takeWhile_until {p : Char → Bool} {front rest : List Char} {stop : Char} (all : ∀ c ∈ front, p c = true)
    (ends : p stop = false) : (front ++ stop :: rest).takeWhile p = front := by
  rw [List.takeWhile_append_of_pos all, List.takeWhile_cons, ends, if_neg Bool.false_ne_true, List.append_nil]

theorem nameChar_plain {c : Char} (name : nameChar c = true) : c ≠ ' ' ∧ c ≠ '=' ∧ c ≠ '/' ∧ c ≠ '?' ∧ c ≠ '<' ∧ c ≠ '>' := by
  refine ⟨?_, ?_, ?_, ?_, ?_, ?_⟩ <;> rintro rfl <;> revert name <;> decide

/-- The attributes of a tag are read, a space behind them or not. -/
theorem scanAttributes_render {count : Nat} (attributes : List (List Char × List Char)) (behind : List Char)
    (space : behind = [] ∨ behind = [' ']) (names : ∀ entry ∈ attributes, IsName entry.1) (enough : attributes.length ≤ count) :
    scanAttributes count (renderAttributes attributes ++ behind) = readAttributes attributes := by
  induction attributes generalizing count with
  | nil =>
    cases count with
    | zero => rfl
    | succ count => obtain rfl | rfl := space <;> rfl
  | cons entry attributes ih =>
    obtain ⟨name, value⟩ := entry
    have isName : IsName name := names (name, value) List.mem_cons_self
    obtain ⟨some', chars⟩ := isName
    cases count with
    | zero => cases enough
    | succ count =>
      have later := ih (fun entry mem => names entry (List.mem_cons_of_mem _ mem)) (Nat.le_of_succ_le_succ enough)
      have written : renderAttributes ((name, value) :: attributes) ++ behind =
          ' ' :: (name ++ '=' :: '"' :: (escapeValue value ++ '"' :: (renderAttributes attributes ++ behind))) := by
        simp [renderAttributes]
      obtain ⟨first, others, split⟩ := List.exists_cons_of_ne_nil some'
      have start : (' ' :: (name ++ '=' :: '"' :: (escapeValue value ++ '"' :: (renderAttributes attributes ++ behind)))).dropWhile
          (· == ' ') = name ++ '=' :: '"' :: (escapeValue value ++ '"' :: (renderAttributes attributes ++ behind)) := by
        have plain := (nameChar_plain (chars first (by rw [split]; exact List.mem_cons_self))).1
        rw [split, List.dropWhile_cons, if_pos (by decide), List.cons_append, List.dropWhile_cons,
          if_neg (by simpa using plain)]
      have named : (name ++ '=' :: '"' :: (escapeValue value ++ '"' :: (renderAttributes attributes ++ behind))).takeWhile
          (· != '=') = name :=
        takeWhile_until (fun c mem => by simpa using (nameChar_plain (chars c mem)).2.1) (by decide)
      have valued : (escapeValue value ++ '"' :: (renderAttributes attributes ++ behind)).takeWhile (· != '"') =
          escapeValue value :=
        takeWhile_until (fun c mem => by simpa using (escapeValue_plain mem).2.2) (by decide)
      rw [written, scanAttributes, start, split, List.cons_append]
      dsimp only
      rw [← List.cons_append, ← split, named, List.drop_left' rfl]
      show (match List.drop _ (escapeValue value ++ '"' :: (renderAttributes attributes ++ behind)) with
        | _ :: rest => _ :: scanAttributes count rest
        | [] => [none]) = _
      rw [valued, List.drop_left' rfl, decodeValue_escapeValue]
      exact congrArg _ later

/-- The pieces a reader can tell apart. -/
def Piece.Valid : Piece → Prop
  | .instruction content => ∀ c ∈ content, c ≠ '?' ∧ c ≠ '>'
  | .opening name attributes => IsTag name attributes
  | .empty name attributes => IsTag name attributes
  | .closing name => IsName name
  | .text _ => True

theorem Content.valid {pieces : List Piece} (content : Content pieces) : ∀ piece ∈ pieces, piece.Valid := by
  induction content with
  | nil => exact nofun
  | text value later ih => exact List.forall_mem_cons.2 ⟨trivial, ih⟩
  | empty tag later ih => exact List.forall_mem_cons.2 ⟨tag, ih⟩
  | element tag content later inside behind =>
    refine List.forall_mem_cons.2 ⟨tag, fun piece mem => ?_⟩
    obtain within | after := List.mem_append.1 mem
    · exact inside piece within
    · obtain rfl | later := List.mem_cons.1 after
      · exact tag.1
      · exact behind piece later

theorem Prolog.valid {pieces : List Piece} (prolog : Prolog pieces) : ∀ piece ∈ pieces, piece.Valid := by
  cases prolog with
  | none => exact nofun
  | declared content white plain space =>
    exact List.forall_mem_cons.2 ⟨plain, List.forall_mem_cons.2 ⟨trivial, nofun⟩⟩

theorem Document.valid {pieces : List Piece} (document : Document pieces) : ∀ piece ∈ pieces, piece.Valid := by
  intro piece mem
  cases document with
  | empty before tag =>
    obtain within | after := List.mem_append.1 mem
    · exact before.valid piece within
    · rw [List.mem_singleton.1 after]
      exact tag
  | element before tag content =>
    obtain within | after := List.mem_append.1 mem
    · exact before.valid piece within
    · exact (Content.element tag content .nil).valid piece after

theorem renderAttributes_plain {attributes : List (List Char × List Char)} (names : ∀ entry ∈ attributes, IsName entry.1)
    {c : Char} (mem : c ∈ renderAttributes attributes) : c ≠ '>' ∧ c ≠ '<' := by
  obtain ⟨entry, there, written⟩ := List.mem_flatMap.1 mem
  simp only [List.mem_cons, List.mem_append, List.not_mem_nil, or_false] at written
  obtain rfl | inName | rfl | rfl | inValue | rfl := written
  · decide
  · have plain := nameChar_plain ((names entry there).2 c inName)
    exact ⟨plain.2.2.2.2.2, plain.2.2.2.2.1⟩
  · decide
  · decide
  · have plain := escapeValue_plain inValue
    exact ⟨plain.2.1, plain.1⟩
  · decide

/-- No bracket stands within a tag. -/
theorem Piece.Valid.tag_plain {piece : Piece} (valid : piece.Valid) {c : Char} (mem : c ∈ piece.tag) : c ≠ '>' ∧ c ≠ '<' ∨
    ∃ content, piece = .instruction content := by
  cases piece with
  | instruction content => exact .inr ⟨content, rfl⟩
  | opening name attributes =>
    left
    obtain inName | inAttributes := List.mem_append.1 mem
    · have plain := nameChar_plain (valid.1.2 c inName)
      exact ⟨plain.2.2.2.2.2, plain.2.2.2.2.1⟩
    · exact renderAttributes_plain valid.2.1 inAttributes
  | empty name attributes =>
    left
    simp only [Piece.tag, List.mem_append, List.mem_cons, List.not_mem_nil, or_false] at mem
    obtain inName | inAttributes | rfl | rfl := mem
    · have plain := nameChar_plain (valid.1.2 c inName)
      exact ⟨plain.2.2.2.2.2, plain.2.2.2.2.1⟩
    · exact renderAttributes_plain valid.2.1 inAttributes
    · decide
    · decide
  | closing name =>
    left
    obtain rfl | inName := List.mem_cons.1 mem
    · decide
    · have plain := nameChar_plain (valid.2 c inName)
      exact ⟨plain.2.2.2.2.2, plain.2.2.2.2.1⟩
  | text value => cases mem

theorem Piece.Valid.tag_closed {piece : Piece} (valid : piece.Valid) {c : Char} (mem : c ∈ piece.tag) : c ≠ '>' := by
  obtain plain | ⟨content, rfl⟩ := valid.tag_plain mem
  · exact plain.1
  · obtain rfl | inContent := List.mem_cons.1 mem
    · decide
    · obtain inContent | last := List.mem_append.1 inContent
      · exact (valid c inContent).2
      · rw [List.mem_singleton.1 last]
        decide

theorem length_renderAttributes (attributes : List (List Char × List Char)) :
    attributes.length ≤ (renderAttributes attributes).length := by
  induction attributes with
  | nil => exact Nat.zero_le _
  | cons entry attributes ih =>
    simp only [renderAttributes, List.flatMap_cons, List.length_append, List.length_cons] at ih ⊢
    omega

/-- The name a tag begins with. -/
theorem takeWhile_name {name rest : List Char} (chars : ∀ c ∈ name, nameChar c = true)
    (ends : ∀ c ∈ rest.head?, nameChar c = false) : (name ++ rest).takeWhile nameChar = name := by
  cases rest with
  | nil => rw [List.takeWhile_append_of_pos chars, List.takeWhile_nil, List.append_nil]
  | cons first rest => exact takeWhile_until chars (ends first rfl)

theorem renderAttributes_head (attributes : List (List Char × List Char)) (behind : List Char)
    (space : ∀ c ∈ behind.head?, nameChar c = false) : ∀ c ∈ (renderAttributes attributes ++ behind).head?, nameChar c = false := by
  cases attributes with
  | nil => exact space
  | cons entry attributes =>
    intro c mem
    obtain rfl : ' ' = c := Option.some.inj mem
    rfl

/-- What does not open a declaration or an end tag is a tag by its last character. -/
theorem tagEvent_name {name rest : List Char} (isName : IsName name) :
    tagEvent (name ++ rest) =
      if (name ++ rest).getLast? = some '/' then
        .empty ((name ++ rest).takeWhile nameChar) (scanAttributes (name ++ rest).length
          ((name ++ rest).drop ((name ++ rest).takeWhile nameChar).length).dropLast)
      else .start ((name ++ rest).takeWhile nameChar) (scanAttributes (name ++ rest).length
        ((name ++ rest).drop ((name ++ rest).takeWhile nameChar).length)) := by
  obtain ⟨some', chars⟩ := isName
  obtain ⟨first, others, split⟩ := List.exists_cons_of_ne_nil some'
  have plain := nameChar_plain (chars first (by rw [split]; exact List.mem_cons_self))
  unfold tagEvent
  rw [split, List.cons_append]
  split
  · rename_i same
    exact absurd (List.cons.inj same).1 plain.2.2.2.1
  · rename_i same
    exact absurd (List.cons.inj same).1 plain.2.2.1
  · rfl

theorem opening_last {name : List Char} {attributes : List (List Char × List Char)} (isName : IsName name) :
    (name ++ renderAttributes attributes).getLast? ≠ some '/' := by
  obtain rfl | ⟨before, entry, rfl⟩ := List.eq_nil_or_concat attributes
  · intro last
    rw [renderAttributes, List.flatMap_nil, List.append_nil] at last
    exact (nameChar_plain (isName.2 '/' (List.mem_of_getLast? last))).2.2.1 rfl
  · have written : name ++ renderAttributes (before ++ [entry]) =
        (name ++ (renderAttributes before ++ ' ' :: (entry.1 ++ '=' :: '"' :: escapeValue entry.2))) ++ ['"'] := by
      simp [renderAttributes]
    rw [List.concat_eq_append, written, List.getLast?_concat]
    decide

theorem tagEvent_opening {name : List Char} {attributes : List (List Char × List Char)} (tag : IsTag name attributes) :
    tagEvent (name ++ renderAttributes attributes) = .start name (readAttributes attributes) := by
  have head := renderAttributes_head attributes [] nofun
  rw [List.append_nil] at head
  have enough : attributes.length ≤ (name ++ renderAttributes attributes).length := by
    have := length_renderAttributes attributes
    rw [List.length_append]
    omega
  have read := scanAttributes_render attributes [] (.inl rfl) tag.2.1 enough
  rw [List.append_nil] at read
  rw [tagEvent_name tag.1, if_neg (opening_last tag.1), takeWhile_name tag.1.2 head, List.drop_left' rfl, read]

theorem tagEvent_empty {name : List Char} {attributes : List (List Char × List Char)} (tag : IsTag name attributes) :
    tagEvent (name ++ (renderAttributes attributes ++ [' ', '/'])) = .empty name (readAttributes attributes) := by
  have head := renderAttributes_head attributes [' ', '/'] fun c first => by cases first; decide
  have enough : attributes.length ≤ (name ++ (renderAttributes attributes ++ [' ', '/'])).length := by
    have := length_renderAttributes attributes
    simp only [List.length_append]
    omega
  have read := scanAttributes_render attributes [' '] (.inr rfl) tag.2.1 enough
  have last : (name ++ (renderAttributes attributes ++ [' ', '/'])).getLast? = some '/' := by simp
  have inner : (renderAttributes attributes ++ [' ', '/']).dropLast = renderAttributes attributes ++ [' '] := by
    rw [List.dropLast_append_of_ne_nil (by simp)]
    rfl
  rw [tagEvent_name tag.1, if_pos last, takeWhile_name tag.1.2 head, List.drop_left' rfl, inner, read]

/-! ## The reader reads -/

theorem tags_cons_other {events : List (Option Event)} : tags (some .other :: events) = tags events := rfl

theorem tags_cons {event : Event} {events : List (Option Event)} (tag : event ≠ .other) :
    tags (some event :: events) = some event :: tags events := by
  unfold tags
  rw [List.filter_cons, if_pos (by simpa using tag)]

/-- Character data has no tags. -/
theorem scanUpTo_text {count : Nat} {data : List Char} (rest : List Char) (plain : ∀ c ∈ data, c ≠ '<')
    (enough : (data ++ rest).length ≤ count) :
    ∃ left, rest.length ≤ left ∧ tags (scanUpTo count (data ++ rest)) = tags (scanUpTo left rest) := by
  induction data generalizing count with
  | nil => exact ⟨count, enough, rfl⟩
  | cons c data ih =>
    cases count with
    | zero => cases enough
    | succ count =>
      obtain ⟨left, room, same⟩ := ih (fun c mem => plain c (List.mem_cons_of_mem _ mem)) (Nat.le_of_succ_le_succ enough)
      refine ⟨left, room, ?_⟩
      rw [List.cons_append, scanUpTo, tags_cons_other, same]
      exact plain c List.mem_cons_self

/-- A tag is one event. -/
theorem scanUpTo_tag {count : Nat} {tag : List Char} (rest : List Char) (closed : ∀ c ∈ tag, c ≠ '>')
    (enough : ('<' :: (tag ++ '>' :: rest)).length ≤ count) :
    ∃ left, rest.length ≤ left ∧ scanUpTo count ('<' :: (tag ++ '>' :: rest)) = some (tagEvent tag) :: scanUpTo left rest := by
  cases count with
  | zero => cases enough
  | succ count =>
    refine ⟨count, ?_, ?_⟩
    · simp only [List.length_cons, List.length_append] at enough
      omega
    · have within : (tag ++ '>' :: rest).takeWhile (· != '>') = tag :=
        takeWhile_until (fun c mem => by simpa using closed c mem) (by decide)
      rw [scanUpTo, within, List.drop_left' rfl]

theorem scanUpTo_render {count : Nat} {pieces : List Piece} (valid : ∀ piece ∈ pieces, piece.Valid)
    (enough : (render pieces).length ≤ count) :
    tags (scanUpTo count (render pieces)) = (pieces.filterMap Piece.event).map some := by
  induction pieces generalizing count with
  | nil => cases count <;> rfl
  | cons piece pieces ih =>
    have first := valid piece List.mem_cons_self
    have others : ∀ {left : Nat}, (render pieces).length ≤ left →
        tags (scanUpTo left (render pieces)) = (pieces.filterMap Piece.event).map some :=
      ih fun piece mem => valid piece (List.mem_cons_of_mem _ mem)
    have tagged : ∀ event, piece.render = '<' :: (piece.tag ++ ['>']) → tagEvent piece.tag = event →
        ∃ left, (render pieces).length ≤ left ∧
          scanUpTo count (render (piece :: pieces)) = some event :: scanUpTo left (render pieces) := by
      rintro event written rfl
      have text : render (piece :: pieces) = '<' :: (piece.tag ++ '>' :: render pieces) := by
        rw [render, List.flatMap_cons, written]
        simp [render]
      rw [text] at enough ⊢
      exact scanUpTo_tag _ (fun c mem => first.tag_closed mem) enough
    cases piece with
    | text value =>
      obtain ⟨left, room, same⟩ := scanUpTo_text (render pieces) (fun c mem => escapeText_plain mem) enough
      exact same.trans (others room)
    | instruction content =>
      obtain ⟨left, room, same⟩ := tagged .other rfl rfl
      rw [same, tags_cons_other]
      exact others room
    | closing name =>
      obtain ⟨left, room, same⟩ := tagged .stop rfl rfl
      rw [same, tags_cons (by decide), others room]
      rfl
    | opening name attributes =>
      obtain ⟨left, room, same⟩ := tagged _ rfl (tagEvent_opening first)
      rw [same, tags_cons (by intro same; cases same), others room]
      rfl
    | empty name attributes =>
      obtain ⟨left, room, same⟩ := tagged _ rfl (tagEvent_empty first)
      rw [same, tags_cons (by intro same; cases same), others room]
      rfl

/-- The reader gives the tags of every document. -/
theorem scan_reads : Reads scan := fun _ document => scanUpTo_render document.valid (Nat.le_refl _)

end TelemetryHub.Lib.Xml
