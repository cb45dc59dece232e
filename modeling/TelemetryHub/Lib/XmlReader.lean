import Mathlib.Data.List.Infix
import Mathlib.Data.List.TakeWhile
import TelemetryHub.Lib.Xml

/-!
# A strict reader

A text is read into the pieces of a document, or refused where it is no well-formed one. The
reader knows no document type, comments, sections of character data, numeric references, or
instructions but the declaration: a rendered document has none of them.
-/

namespace TelemetryHub.Lib.Xml

/-! ## Characters and names -/

/-- A character is in one of some ranges. -/
def inRanges (ranges : List (Nat × Nat)) (c : Char) : Bool := ranges.any fun (low, high) => low ≤ c.toNat && c.toNat ≤ high

/-- `Char`. -/
def isChar (c : Char) : Bool := inRanges [(0x9, 0xa), (0xd, 0xd), (0x20, 0xd7ff), (0xe000, 0xfffd), (0x10000, 0x10ffff)] c

/-- `S`. -/
def isSpace (c : Char) : Bool := c == ' ' || c == '\t' || c == '\n' || c == '\r'

/-- `NameStartChar`. -/
def nameStartChar (c : Char) : Bool :=
  c.isAlpha || c == ':' || c == '_' || inRanges [(0xc0, 0xd6), (0xd8, 0xf6), (0xf8, 0x2ff), (0x370, 0x37d), (0x37f, 0x1fff),
    (0x200c, 0x200d), (0x2070, 0x218f), (0x2c00, 0x2fef), (0x3001, 0xd7ff), (0xf900, 0xfdcf), (0xfdf0, 0xfffd), (0x10000, 0xeffff)] c

/-- `NameChar`. -/
def nameNextChar (c : Char) : Bool :=
  nameStartChar c || c.isDigit || c == '-' || c == '.' || inRanges [(0xb7, 0xb7), (0x300, 0x36f), (0x203f, 0x2040)] c

/-- `Name`, and what is behind it. -/
def parseName : List Char → Option (List Char × List Char)
  | [] => none
  | c :: text =>
    if nameStartChar c then some ((c :: text).takeWhile nameNextChar, (c :: text).dropWhile nameNextChar) else none

/-! ## Values and character data -/

/-- Character data, as it is read: a line end is a line feed. -/
def normalizeText : List Char → List Char
  | '\r' :: '\n' :: rest => '\n' :: normalizeText rest
  | c :: rest => (if c = '\r' then '\n' else c) :: normalizeText rest
  | [] => []

/-- Read character data. -/
def decodeText : List Char → Option (List Char)
  | '&' :: 'a' :: 'm' :: 'p' :: ';' :: rest => (decodeText rest).map ('&' :: ·)
  | '&' :: 'q' :: 'u' :: 'o' :: 't' :: ';' :: rest => (decodeText rest).map ('"' :: ·)
  | '&' :: 'l' :: 't' :: ';' :: rest => (decodeText rest).map ('<' :: ·)
  | '&' :: 'g' :: 't' :: ';' :: rest => (decodeText rest).map ('>' :: ·)
  | '&' :: _ => none
  | '\r' :: '\n' :: rest => (decodeText rest).map ('\n' :: ·)
  | c :: rest => (decodeText rest).map ((if c = '\r' then '\n' else c) :: ·)
  | [] => some []

/-- `AttValue`, without its quotes. -/
def parseValue (raw : List Char) : Option (List Char) :=
  if raw.all fun c => isChar c && c != '<' then decodeValue raw else none

/-- `CharData` and references. -/
def parseText (raw : List Char) : Option (List Char) :=
  if raw.all isChar && !decide ("]]>".toList <:+: raw) then decodeText raw else none

/-! ## Tags -/

/-- `Attribute`, and what is behind it. -/
def parseAttribute (text : List Char) : Option ((List Char × List Char) × List Char) :=
  (parseName text).bind fun (name, rest) =>
    match rest.dropWhile isSpace with
    | [] => none
    | equals :: rest =>
      match rest.dropWhile isSpace with
      | [] => none
      | quote :: rest =>
        let raw := rest.takeWhile (· != quote)
        -- a quotation mark or an apostrophe
        if equals = '=' ∧ (quote.toNat = 0x22 ∨ quote.toNat = 0x27) then
          match rest.drop raw.length with
          | _ :: rest => (parseValue raw).map fun value => ((name, value), rest)
          | [] => none
        else none

/-- The attributes of a tag, so many less one at most, and the end of the tag. -/
def parseAttributes : Nat → List Char → Option (List (List Char × List Char) × List Char)
  | 0, _ => none
  | count + 1, text =>
    match text.dropWhile isSpace with
    | [] => none
    | c :: rest =>
      if c = '>' ∨ c = '/' ∨ c = '?' then some ([], c :: rest)
      -- white space stands before an attribute
      else if (text.head?.any isSpace) = false then none
      else
        (parseAttribute (c :: rest)).bind fun (first, rest) =>
          (parseAttributes count rest).map fun (attributes, rest) => (first :: attributes, rest)

/-- The end of a tag says which it is. -/
def closeTag (name : List Char) (attributes : List (List Char × List Char)) : List Char → Option (Piece × List Char)
  | '>' :: rest => some (.opening name attributes, rest)
  | '/' :: '>' :: rest => some (.empty name attributes, rest)
  | _ => none

/-- `STag` or `EmptyElemTag` behind its first character, and what is behind it. -/
def parseTag (text : List Char) : Option (Piece × List Char) :=
  (parseName text).bind fun (name, rest) =>
    (parseAttributes (rest.length + 1) rest).bind fun (attributes, rest) =>
      if (attributes.map Prod.fst).Nodup then closeTag name attributes rest else none

/-- `ETag` behind its first two characters, and what is behind it. -/
def parseEndTag (text : List Char) : Option (Piece × List Char) :=
  (parseName text).bind fun (name, rest) =>
    match rest.dropWhile isSpace with
    | '>' :: rest => some (.closing name, rest)
    | _ => none

/-- The pieces of a text, so many at most. -/
def parsePieces : Nat → List Char → Option (List Piece)
  | _, [] => some []
  | 0, _ :: _ => none
  | count + 1, '<' :: '/' :: text =>
    (parseEndTag text).bind fun (piece, rest) => (parsePieces count rest).map (piece :: ·)
  | count + 1, '<' :: text =>
    (parseTag text).bind fun (piece, rest) => (parsePieces count rest).map (piece :: ·)
  | count + 1, c :: text =>
    let raw := (c :: text).takeWhile (· != '<')
    (parseText raw).bind fun value => (parsePieces count ((c :: text).drop raw.length)).map (.text value :: ·)

/-! ## Documents -/

/-- Elements are closed as they were opened, and one of them holds all others and the text. -/
def nests (seen : Bool) : List (List Char) → List Piece → Bool
  | [], [] => seen
  | _ :: _, [] => false
  | [], .text value :: rest => value.all isSpace && nests seen [] rest
  | top :: opened, .text _ :: rest => nests seen (top :: opened) rest
  | opened, .opening name _ :: rest => (!opened.isEmpty || !seen) && nests true (name :: opened) rest
  | opened, .empty _ _ :: rest => (!opened.isEmpty || !seen) && nests true opened rest
  | top :: opened, .closing name :: rest => top == name && nests seen opened rest
  | [], .closing _ :: _ => false
  | _, .instruction _ :: _ => false

/-- `XMLDecl`, without its brackets. -/
def isDeclaration (content : List Char) : Bool :=
  match content with
  | 'x' :: 'm' :: 'l' :: rest =>
    match parseAttributes (rest.length + 1) (rest ++ ['?']) with
    | some (version :: others, ['?']) =>
      version == ("version".toList, "1.0".toList) && (others.map Prod.fst).isSublist ["encoding".toList, "standalone".toList]
    | _ => false
  | _ => false

/-- What stands behind a declaration. -/
def parseRoot (text : List Char) : Option (List Piece) :=
  (parsePieces text.length text).filter (nests false [])

/-- `document`. -/
def parseDocument (text : List Char) : Option (List Piece) :=
  match text with
  | '<' :: '?' :: rest =>
    let content := rest.takeWhile (· != '?')
    match rest.drop content.length with
    | '?' :: '>' :: rest => if isDeclaration content then (parseRoot rest).map (.instruction content :: ·) else none
    | _ => none
  | _ => parseRoot text

/-! ## Values that were written -/

theorem escapeChar_all (c : Char) : (escapeChar c).all (fun c => isChar c && c != '<') = isChar c := by
  unfold escapeChar
  by_cases amp : c = '&'
  · rw [if_pos amp, amp]
    decide
  rw [if_neg amp]
  by_cases quot : c = '"'
  · rw [if_pos quot, quot]
    decide
  rw [if_neg quot]
  by_cases lt : c = '<'
  · rw [if_pos lt, lt]
    decide
  rw [if_neg lt]
  by_cases gt : c = '>'
  · rw [if_pos gt, gt]
    decide
  rw [if_neg gt]
  simp [lt]

theorem escapeValue_all (value : List Char) : (escapeValue value).all (fun c => isChar c && c != '<') = value.all isChar := by
  induction value with
  | nil => rfl
  | cons c value ih =>
    rw [escapeValue, List.flatMap_cons, List.all_append, escapeChar_all, List.all_cons, ← ih]
    rfl

/-- A value is read with spaces for its line ends and tabs, where its characters are allowed. -/
theorem parseValue_escapeValue (value : List Char) :
    parseValue (escapeValue value) = if value.all isChar then some (normalizeValue value) else none := by
  rw [parseValue, escapeValue_all, decodeValue_escapeValue]

theorem escapeText_cons (c : Char) (value : List Char) :
    escapeText (c :: value) = (if c = '"' then [c] else escapeChar c) ++ escapeText value := rfl

theorem escapeText_closed {value : List Char} {d : Char} (mem : d ∈ escapeText value) : d ≠ '<' ∧ d ≠ '>' := by
  refine ⟨escapeText_plain mem, ?_⟩
  obtain ⟨c, -, there⟩ := List.mem_flatMap.1 mem
  by_cases quot : c = '"'
  · rw [if_pos quot, List.mem_singleton, quot] at there
    rw [there]
    decide
  · rw [if_neg quot] at there
    exact (escapeChar_plain there).2.1

theorem escapeText_all (value : List Char) : (escapeText value).all isChar = value.all isChar := by
  induction value with
  | nil => rfl
  | cons c value ih =>
    rw [escapeText_cons, List.all_append, ih, List.all_cons]
    congr 1
    by_cases quot : c = '"'
    · rw [if_pos quot, List.all_cons, List.all_nil, Bool.and_true]
    · rw [if_neg quot, ← escapeChar_all c]
      rw [Bool.eq_iff_iff, List.all_eq_true, List.all_eq_true]
      exact forall₂_congr fun d mem => by simp [(escapeChar_plain mem).1]

theorem escapeText_head {value : List Char} (mem : (escapeText value).head? = some '\n') : value.head? = some '\n' := by
  cases value with
  | nil => exact mem
  | cons c value =>
    rw [escapeText_cons] at mem
    by_cases quot : c = '"'
    · rw [if_pos quot] at mem
      exact mem
    · rw [if_neg quot] at mem
      have starts : (escapeValue (c :: value)).head? = some '\n' → (c :: value).head? = some '\n' := escapeValue_head
      refine starts ?_
      rw [escapeValue, List.flatMap_cons]
      unfold escapeChar at mem ⊢
      split_ifs at mem ⊢ <;> exact mem

/-- Character data is read as it was, with line feeds for its line ends. -/
theorem decodeText_escapeText (value : List Char) : decodeText (escapeText value) = some (normalizeText value) := by
  induction value using normalizeText.induct with
  | case1 rest ih =>
    have written : escapeText ('\r' :: '\n' :: rest) = '\r' :: '\n' :: escapeText rest := rfl
    rw [written, decodeText, ih, normalizeText]
    rfl
  | case2 c rest plain ih =>
    have normal : normalizeText (c :: rest) = (if c = '\r' then '\n' else c) :: normalizeText rest := by
      rw [normalizeText]
      exact plain
    have behind : ∀ others, c = '\r' → escapeText rest = '\n' :: others → False := by
      intro others same starts
      have head : rest.head? = some '\n' := escapeText_head (by rw [starts]; rfl)
      cases rest with
      | nil => cases head
      | cons first rest => exact plain rest same (congrArg (· :: rest) (Option.some.inj head))
    rw [escapeText_cons, normal]
    by_cases quot : c = '"'
    · subst quot
      rw [if_pos rfl, List.singleton_append, decodeText, ih]
      · rfl
      all_goals exact nofun
    rw [if_neg quot, escapeChar]
    by_cases amp : c = '&'
    · subst amp
      show decodeText ('&' :: 'a' :: 'm' :: 'p' :: ';' :: escapeText rest) = _
      rw [decodeText, ih]
      rfl
    rw [if_neg amp, if_neg quot]
    by_cases lt : c = '<'
    · subst lt
      show decodeText ('&' :: 'l' :: 't' :: ';' :: escapeText rest) = _
      rw [decodeText, ih]
      rfl
    rw [if_neg lt]
    by_cases gt : c = '>'
    · subst gt
      show decodeText ('&' :: 'g' :: 't' :: ';' :: escapeText rest) = _
      rw [decodeText, ih]
      rfl
    rw [if_neg gt, List.singleton_append, decodeText, ih]
    · rfl
    · exact fun _ same _ => amp same
    · exact fun _ same _ => amp same
    · exact fun _ same _ => amp same
    · exact fun _ same _ => amp same
    · exact amp
    · exact fun others same starts => behind others same starts
  | case3 => rfl

/-- Character data is read with line feeds for its line ends, where its characters are allowed. -/
theorem parseText_escapeText (value : List Char) :
    parseText (escapeText value) = if value.all isChar then some (normalizeText value) else none := by
  have closed : ¬ "]]>".toList <:+: escapeText value := fun inside =>
    (escapeText_closed (inside.subset (by decide : '>' ∈ "]]>".toList))).2 rfl
  rw [parseText, escapeText_all, decodeText_escapeText, decide_eq_false closed, Bool.not_false, Bool.and_true]

/-! ## Tags that were written -/

/-- A name begins as it should. -/
def Proper (name : List Char) : Bool := name.head?.any nameStartChar

theorem nameNextChar_of_nameChar {c : Char} (name : nameChar c = true) : nameNextChar c = true := by
  unfold nameChar Char.isAlphanum at name
  unfold nameNextChar nameStartChar
  simp only [Bool.or_eq_true] at name ⊢
  tauto

/-- A name is read up to a character that is none of a name's, where it begins as it should. -/
theorem parseName_name {name rest : List Char} (isName : IsName name) (ends : ∀ c ∈ rest.head?, nameNextChar c = false) :
    parseName (name ++ rest) = if Proper name then some (name, rest) else none := by
  obtain ⟨first, others, rfl⟩ := List.exists_cons_of_ne_nil isName.1
  have all : ∀ c ∈ first :: others, nameNextChar c = true := fun c mem => nameNextChar_of_nameChar (isName.2 c mem)
  have behind : rest.takeWhile nameNextChar = [] ∧ rest.dropWhile nameNextChar = rest := by
    cases rest with
    | nil => exact ⟨rfl, rfl⟩
    | cons c rest => simp [ends c rfl]
  rw [List.cons_append, parseName, ← List.cons_append, List.takeWhile_append_of_pos all, List.dropWhile_append_of_pos all,
    behind.1, behind.2, List.append_nil]
  rfl

/-- An attribute, as it is read. -/
def attributeBack (entry : List Char × List Char) : Option (List Char × List Char) :=
  if Proper entry.1 && entry.2.all isChar then some (entry.1, normalizeValue entry.2) else none

theorem parseAttribute_render {name value rest : List Char} (isName : IsName name) :
    parseAttribute (name ++ '=' :: '"' :: (escapeValue value ++ '"' :: rest)) =
      (attributeBack (name, value)).map fun entry => (entry, rest) := by
  have raw : (escapeValue value ++ '"' :: rest).takeWhile (· != '"') = escapeValue value :=
    takeWhile_until (fun c mem => by simpa using (escapeValue_plain mem).2.2) (by decide)
  rw [parseAttribute, parseName_name isName fun c first => by cases first; decide, attributeBack]
  cases proper : Proper name with
  | false => rfl
  | true =>
    rw [if_pos rfl, Option.bind_some]
    dsimp only
    rw [List.dropWhile_cons_of_neg (by decide)]
    dsimp only
    rw [List.dropWhile_cons_of_neg (by decide)]
    dsimp only
    rw [if_pos (by decide), raw, List.drop_left' rfl, parseValue_escapeValue, Bool.true_and]
    cases value.all isChar <;> rfl

theorem parseAttributes_render {count : Nat} {attributes : List (List Char × List Char)} {stop : Char} (white rest : List Char)
    (names : ∀ entry ∈ attributes, IsName entry.1) (enough : attributes.length < count) (space : white = [] ∨ white = [' '])
    (stops : stop = '>' ∨ stop = '/' ∨ stop = '?') :
    parseAttributes count (renderAttributes attributes ++ (white ++ stop :: rest)) =
      (attributes.mapM attributeBack).map fun read => (read, stop :: rest) := by
  have stop_plain : isSpace stop = false := by obtain rfl | rfl | rfl := stops <;> decide
  induction attributes generalizing count with
  | nil =>
    cases count with
    | zero => omega
    | succ count =>
      have start : (white ++ stop :: rest).dropWhile isSpace = stop :: rest := by
        obtain rfl | rfl := space
        · simp [stop_plain]
        · rw [List.cons_append, List.dropWhile_cons_of_pos (by decide)]
          simp [stop_plain]
      show parseAttributes (count + 1) (white ++ stop :: rest) = _
      rw [parseAttributes, start]
      dsimp only
      rw [if_pos stops]
      rfl
  | cons entry attributes ih =>
    obtain ⟨name, value⟩ := entry
    have isName : IsName name := names (name, value) List.mem_cons_self
    cases count with
    | zero => omega
    | succ count =>
      have fewer : attributes.length < count := by
        simp only [List.length_cons] at enough
        omega
      have later := ih (fun entry mem => names entry (List.mem_cons_of_mem _ mem)) fewer
      have written : renderAttributes ((name, value) :: attributes) ++ (white ++ stop :: rest) =
          ' ' :: (name ++ '=' :: '"' :: (escapeValue value ++ '"' :: (renderAttributes attributes ++ (white ++ stop :: rest)))) := by
        simp [renderAttributes]
      obtain ⟨first, others, rfl⟩ := List.exists_cons_of_ne_nil isName.1
      have plain := nameChar_plain (isName.2 first List.mem_cons_self)
      have first_space : isSpace first = false := by
        have name_char := isName.2 first List.mem_cons_self
        unfold isSpace
        simp only [Bool.or_eq_false_iff, beq_eq_false_iff_ne]
        refine ⟨⟨⟨?_, ?_⟩, ?_⟩, ?_⟩ <;> rintro rfl <;> revert name_char <;> decide
      rw [written, parseAttributes, List.dropWhile_cons_of_pos (by decide), List.cons_append, List.dropWhile_cons_of_neg (by simp [first_space])]
      dsimp only
      rw [if_neg (by rintro (rfl | rfl | rfl) <;> simp at plain), if_neg (by simp [isSpace]), ← List.cons_append,
        parseAttribute_render isName, List.mapM_cons]
      cases attributeBack (first :: others, value) with
      | none => rfl
      | some entry =>
        rw [Option.map_some, Option.bind_some]
        dsimp only
        rw [later]
        cases attributes.mapM attributeBack <;> rfl

theorem attributesBack_names {attributes read : List (List Char × List Char)} (back : attributes.mapM attributeBack = some read) :
    read.map Prod.fst = attributes.map Prod.fst := by
  induction attributes generalizing read with
  | nil =>
    obtain rfl : [] = read := by simpa using back
    rfl
  | cons entry attributes ih =>
    rw [List.mapM_cons] at back
    obtain ⟨first, firstBack, back⟩ := Option.bind_eq_some_iff.1 back
    obtain ⟨others, othersBack, back⟩ := Option.bind_eq_some_iff.1 back
    obtain rfl := Option.some.inj back
    rw [List.map_cons, List.map_cons, ih othersBack]
    unfold attributeBack at firstBack
    split at firstBack
    · rw [← Option.some.inj firstBack]
    · cases firstBack

/-- A piece, as it is read. -/
def Piece.back : Piece → Option Piece
  | .opening name attributes => if Proper name then (attributes.mapM attributeBack).map (.opening name) else none
  | .empty name attributes => if Proper name then (attributes.mapM attributeBack).map (.empty name) else none
  | .closing name => if Proper name then some (.closing name) else none
  | .text value => if value.all isChar then some (.text (normalizeText value)) else none
  | .instruction _ => none

/-- A tag is read up to its end. -/
theorem parseTag_render {name : List Char} {attributes : List (List Char × List Char)} {white : List Char} {stop : Char}
    (rest : List Char) (tag : IsTag name attributes) (space : white = [] ∨ white = [' '])
    (stops : stop = '>' ∨ stop = '/' ∨ stop = '?') :
    parseTag (name ++ (renderAttributes attributes ++ (white ++ stop :: rest))) =
      if Proper name then (attributes.mapM attributeBack).bind fun read => closeTag name read (stop :: rest) else none := by
  have ends : ∀ c ∈ (renderAttributes attributes ++ (white ++ stop :: rest)).head?, nameNextChar c = false := by
    cases attributes with
    | cons entry attributes => exact fun c first => by cases first; decide
    | nil =>
      obtain rfl | rfl := space
      · rintro c ⟨⟩
        obtain rfl | rfl | rfl := stops <;> decide
      · exact fun c first => by cases first; decide
  have room : attributes.length < (renderAttributes attributes ++ (white ++ stop :: rest)).length + 1 := by
    have := length_renderAttributes attributes
    simp only [List.length_append]
    omega
  rw [parseTag, parseName_name tag.1 ends]
  cases Proper name with
  | false => rfl
  | true =>
    rw [if_pos rfl, if_pos rfl, Option.bind_some]
    dsimp only
    rw [parseAttributes_render white rest tag.2.1 room space stops]
    cases back : attributes.mapM attributeBack with
    | none => rfl
    | some read =>
      have nodup : (read.map Prod.fst).Nodup := by
        rw [attributesBack_names back]
        exact tag.2.2
      rw [Option.map_some, Option.bind_some, Option.bind_some, if_pos nodup]

theorem parseEndTag_render {name : List Char} (rest : List Char) (isName : IsName name) :
    parseEndTag (name ++ '>' :: rest) = if Proper name then some (.closing name, rest) else none := by
  rw [parseEndTag, parseName_name isName fun c first => by cases first; decide]
  cases Proper name with
  | false => rfl
  | true =>
    rw [if_pos rfl, if_pos rfl, Option.bind_some]
    dsimp only
    rw [List.dropWhile_cons_of_neg (by decide)]
    rfl

/-! ## Documents that were written -/

/-- No piece is an instruction, and character data stands apart from other character data. -/
def Apart : List Piece → Prop
  | [] => True
  | .instruction _ :: _ => False
  | .text value :: rest => value ≠ [] ∧ (∀ other, .text other ∉ rest.head?) ∧ Apart rest
  | _ :: rest => Apart rest

theorem escapeText_ne_nil {value : List Char} (some' : value ≠ []) : escapeText value ≠ [] := by
  obtain ⟨first, others, rfl⟩ := List.exists_cons_of_ne_nil some'
  rw [escapeText_cons]
  unfold escapeChar
  split_ifs <;> simp

/-- What stands behind character data is a tag, or nothing. -/
theorem render_head {pieces : List Piece} (no_text : ∀ other, .text other ∉ pieces.head?) :
    ∀ c ∈ (render pieces).head?, c = '<' := by
  cases pieces with
  | nil => exact nofun
  | cons piece pieces =>
    cases piece with
    | text value => exact absurd rfl (no_text value)
    | _ => exact fun c first => by cases first; rfl

/-- A start tag is the next piece. -/
theorem parsePieces_tag {count : Nat} {name text : List Char} (isName : IsName name) :
    parsePieces (count + 1) ('<' :: (name ++ text)) =
      (parseTag (name ++ text)).bind fun (piece, rest) => (parsePieces count rest).map (piece :: ·) := by
  obtain ⟨first, others, rfl⟩ := List.exists_cons_of_ne_nil isName.1
  have plain := nameChar_plain (isName.2 first List.mem_cons_self)
  rw [List.cons_append, parsePieces]
  exact fun text same => plain.2.2.1 (List.cons.inj same).1

/-- Character data up to the next tag is the next piece. -/
theorem parsePieces_text {count : Nat} {data rest : List Char} (some' : data ≠ []) (plain : ∀ c ∈ data, c ≠ '<')
    (next : ∀ c ∈ rest.head?, c = '<') :
    parsePieces (count + 1) (data ++ rest) =
      (parseText data).bind fun value => (parsePieces count rest).map (.text value :: ·) := by
  obtain ⟨first, others, rfl⟩ := List.exists_cons_of_ne_nil some'
  have raw : (first :: others ++ rest).takeWhile (· != '<') = first :: others := by
    have all : ∀ c ∈ first :: others, (c != '<') = true := fun c mem => by simpa using plain c mem
    cases rest with
    | nil => rw [List.append_nil, List.takeWhile_eq_self_iff.2 all]
    | cons c rest => exact takeWhile_until all (by simp [next c rfl])
  have first_plain := plain first List.mem_cons_self
  rw [List.cons_append, parsePieces, ← List.cons_append, raw, List.drop_left' rfl]
  · exact fun text same _ => first_plain same
  · exact fun same => first_plain same

/-- What was written is read piece by piece. -/
theorem parsePieces_render {count : Nat} {pieces : List Piece} (valid : ∀ piece ∈ pieces, piece.Valid) (apart : Apart pieces)
    (enough : pieces.length ≤ count) : parsePieces count (render pieces) = pieces.mapM Piece.back := by
  induction pieces generalizing count with
  | nil => cases count <;> rfl
  | cons piece pieces ih =>
    have first := valid piece List.mem_cons_self
    obtain ⟨count, rfl⟩ : ∃ n, count = n + 1 := ⟨count - 1, by simp at enough; omega⟩
    have later (apart : Apart pieces) : parsePieces count (render pieces) = pieces.mapM Piece.back :=
      ih (fun piece mem => valid piece (List.mem_cons_of_mem _ mem)) apart (by simpa using enough)
    rw [List.mapM_cons]
    cases piece with
    | instruction content => exact apart.elim
    | text value =>
      obtain ⟨some', no_text, apart⟩ := apart
      show parsePieces (count + 1) (escapeText value ++ render pieces) = _
      rw [parsePieces_text (escapeText_ne_nil some') (fun c mem => escapeText_plain mem) (render_head no_text), parseText_escapeText,
        later apart, Piece.back]
      split
      · cases pieces.mapM Piece.back <;> rfl
      · rfl
    | opening name attributes =>
      have written : render (.opening name attributes :: pieces) =
          '<' :: (name ++ (renderAttributes attributes ++ ([] ++ '>' :: render pieces))) := by
        simp [render, Piece.render, Piece.tag]
      rw [written, parsePieces_tag first.1, parseTag_render _ first (.inl rfl) (.inl rfl), Piece.back]
      split
      · cases attributes.mapM attributeBack with
        | none => rfl
        | some read =>
          rw [Option.bind_some, closeTag, Option.bind_some]
          dsimp only
          rw [later apart]
          cases pieces.mapM Piece.back <;> rfl
      · rfl
    | empty name attributes =>
      have written : render (.empty name attributes :: pieces) =
          '<' :: (name ++ (renderAttributes attributes ++ ([' '] ++ '/' :: '>' :: render pieces))) := by
        simp [render, Piece.render, Piece.tag]
      rw [written, parsePieces_tag first.1, parseTag_render _ first (.inr rfl) (.inr (.inl rfl)), Piece.back]
      split
      · cases attributes.mapM attributeBack with
        | none => rfl
        | some read =>
          rw [Option.bind_some, closeTag, Option.bind_some]
          dsimp only
          rw [later apart]
          cases pieces.mapM Piece.back <;> rfl
      · rfl
    | closing name =>
      have written : render (.closing name :: pieces) = '<' :: '/' :: (name ++ '>' :: render pieces) := by
        simp [render, Piece.render, Piece.tag]
      rw [written, parsePieces, parseEndTag_render _ first, Piece.back]
      split
      · rw [Option.bind_some]
        dsimp only
        rw [later apart]
        cases pieces.mapM Piece.back <;> rfl
      · rfl

/-! ## What is read as it was written -/

/-- An attribute value that is read as it was written. -/
def ValueKept (value : List Char) : Prop := ∀ c ∈ value, isChar c = true ∧ c ≠ '\t' ∧ c ≠ '\n' ∧ c ≠ '\r'

/-- Character data that is read as it was written. -/
def TextKept (value : List Char) : Prop := ∀ c ∈ value, isChar c = true ∧ c ≠ '\r'

/-- A piece that is read as it was written. -/
def Piece.Kept : Piece → Prop
  | .opening name attributes => Proper name = true ∧ ∀ entry ∈ attributes, Proper entry.1 = true ∧ ValueKept entry.2
  | .empty name attributes => Proper name = true ∧ ∀ entry ∈ attributes, Proper entry.1 = true ∧ ValueKept entry.2
  | .closing name => Proper name = true
  | .text value => TextKept value
  | .instruction _ => False

theorem normalizeValue_plain (value : List Char) : ∀ c ∈ normalizeValue value, c ≠ '\t' ∧ c ≠ '\n' ∧ c ≠ '\r' := by
  induction value using normalizeValue.induct with
  | case1 rest ih =>
    rw [normalizeValue, List.forall_mem_cons]
    exact ⟨by decide, ih⟩
  | case2 c rest plain ih =>
    rw [normalizeValue, List.forall_mem_cons]
    · refine ⟨?_, ih⟩
      split
      · decide
      case isFalse other => exact ⟨fun same => other (.inl same), fun same => other (.inr (.inl same)), fun same => other (.inr (.inr same))⟩
    · exact plain
  | case3 => exact List.forall_mem_nil _

theorem normalizeValue_self {value : List Char} (plain : ∀ c ∈ value, c ≠ '\t' ∧ c ≠ '\n' ∧ c ≠ '\r') :
    normalizeValue value = value := by
  induction value with
  | nil => rfl
  | cons c value ih =>
    obtain ⟨first, others⟩ := List.forall_mem_cons.1 plain
    rw [normalizeValue, ih others, if_neg (by simp [first])]
    exact fun rest same _ => first.2.2 same

theorem normalizeText_plain (value : List Char) : ∀ c ∈ normalizeText value, c ≠ '\r' := by
  induction value using normalizeText.induct with
  | case1 rest ih =>
    rw [normalizeText, List.forall_mem_cons]
    exact ⟨by decide, ih⟩
  | case2 c rest plain ih =>
    rw [normalizeText, List.forall_mem_cons]
    · refine ⟨?_, ih⟩
      split
      · decide
      · assumption
    · exact plain
  | case3 => exact nofun

theorem normalizeText_self {value : List Char} (plain : ∀ c ∈ value, c ≠ '\r') : normalizeText value = value := by
  induction value with
  | nil => rfl
  | cons c value ih =>
    obtain ⟨first, others⟩ := List.forall_mem_cons.1 plain
    rw [normalizeText, ih others, if_neg first]
    exact fun rest same _ => first same

theorem valueKept_iff (value : List Char) : ValueKept value ↔ value.all isChar = true ∧ normalizeValue value = value := by
  constructor
  · exact fun kept => ⟨List.all_eq_true.2 fun c mem => (kept c mem).1, normalizeValue_self fun c mem => (kept c mem).2⟩
  · rintro ⟨all, same⟩ c mem
    exact ⟨List.all_eq_true.1 all c mem, normalizeValue_plain value c (by rwa [same])⟩

theorem textKept_iff (value : List Char) : TextKept value ↔ value.all isChar = true ∧ normalizeText value = value := by
  constructor
  · exact fun kept => ⟨List.all_eq_true.2 fun c mem => (kept c mem).1, normalizeText_self fun c mem => (kept c mem).2⟩
  · rintro ⟨all, same⟩ c mem
    exact ⟨List.all_eq_true.1 all c mem, normalizeText_plain value c (by rwa [same])⟩

theorem attributeBack_iff (entry : List Char × List Char) :
    attributeBack entry = some entry ↔ Proper entry.1 = true ∧ ValueKept entry.2 := by
  rw [valueKept_iff, attributeBack]
  by_cases read : (Proper entry.1 && entry.2.all isChar) = true
  · obtain ⟨proper, all⟩ := Bool.and_eq_true_iff.1 read
    simp [proper, all, Prod.ext_iff]
  · rw [if_neg read]
    refine ⟨nofun, fun kept => absurd (Bool.and_eq_true_iff.2 ⟨kept.1, kept.2.1⟩) read⟩

/-- A list is read as it was written where each of its elements is. -/
theorem mapM_self {α : Type} {f : α → Option α} (l : List α) : l.mapM f = some l ↔ ∀ x ∈ l, f x = some x := by
  induction l with
  | nil => simp
  | cons x l ih =>
    rw [List.mapM_cons, List.forall_mem_cons, ← ih]
    cases first : f x with
    | none => simp
    | some y => cases others : l.mapM f <;> simp

theorem mapM_none {α β : Type} {f : α → Option β} {l : List α} {x : α} (mem : x ∈ l) (unread : f x = none) : l.mapM f = none := by
  induction l with
  | nil => cases mem
  | cons first l ih =>
    rw [List.mapM_cons]
    obtain rfl | mem := List.mem_cons.1 mem
    · rw [unread]
      rfl
    · rw [ih mem]
      cases f first <;> rfl

theorem Piece.back_iff (piece : Piece) : piece.back = some piece ↔ piece.Kept := by
  cases piece with
  | instruction content => exact ⟨nofun, False.elim⟩
  | opening name attributes | empty name attributes =>
    rw [Piece.back, Piece.Kept]
    by_cases proper : Proper name = true
    · have entries : attributes.mapM attributeBack = some attributes ↔ ∀ entry ∈ attributes, Proper entry.1 = true ∧ ValueKept entry.2 := by
        simp only [mapM_self, attributeBack_iff]
      rw [if_pos proper, Option.map_eq_some_iff, ← entries]
      refine ⟨fun ⟨read, back, same⟩ => ⟨proper, ?_⟩, fun ⟨_, back⟩ => ⟨attributes, back, rfl⟩⟩
      injection same with _ same
      rw [back, same]
    · rw [if_neg proper]
      exact ⟨nofun, fun kept => absurd kept.1 proper⟩
  | closing name => simp [Piece.back, Piece.Kept]
  | text value =>
    rw [Piece.back, Piece.Kept, textKept_iff]
    by_cases all : value.all isChar = true
    · rw [if_pos all, Option.some.injEq, Piece.text.injEq]
      exact (and_iff_right all).symm
    · rw [if_neg all]
      exact ⟨nofun, fun kept => absurd kept.1 all⟩

/-! ## Roots -/

theorem Apart.append {pieces more : List Piece} (apart : Apart pieces) (behind : Apart more)
    (no_text : ∀ other, .text other ∉ more.head?) : Apart (pieces ++ more) := by
  induction pieces with
  | nil => exact behind
  | cons piece pieces ih =>
    cases piece with
    | instruction content => exact apart.elim
    | text value =>
      obtain ⟨some', next, apart⟩ := apart
      refine ⟨some', fun other => ?_, ih apart⟩
      cases pieces with
      | nil => exact no_text other
      | cons first others => exact next other
    | opening | empty | closing => exact ih apart

theorem length_le_render {pieces : List Piece} (apart : Apart pieces) : pieces.length ≤ (render pieces).length := by
  induction pieces with
  | nil => exact Nat.zero_le _
  | cons piece pieces ih =>
    rw [render, List.flatMap_cons, List.length_append, List.length_cons]
    cases piece with
    | instruction content => exact apart.elim
    | text value =>
      have later := ih apart.2.2
      have := List.length_pos_iff.2 (escapeText_ne_nil apart.1)
      unfold render at later
      simp only [Piece.render]
      omega
    | opening | empty | closing =>
      have later := ih apart
      unfold render at later
      simp only [Piece.render, List.length_cons]
      omega

/-- The content of an element closes what it opens. -/
theorem Content.closed {pieces : List Piece} (content : Content pieces) (top : List Char) (opened : List (List Char)) (rest : List Piece) :
    nests true (top :: opened) (pieces ++ rest) = nests true (top :: opened) rest := by
  induction content generalizing top opened rest with
  | nil => rfl
  | text value later ih => exact ih top opened rest
  | empty tag later ih => exact ih top opened rest
  | @element name attributes tag inner others content later inside behind =>
    have split : nests true (top :: opened) (.opening name attributes :: (inner ++ .closing name :: others) ++ rest) =
        nests true (name :: top :: opened) (inner ++ (.closing name :: others ++ rest)) := by
      rw [List.cons_append, List.append_assoc]
      rfl
    have closes : nests true (name :: top :: opened) (.closing name :: others ++ rest) = nests true (top :: opened) (others ++ rest) := by
      show (name == name && nests true (top :: opened) (others ++ rest)) = _
      rw [beq_self_eq_true, Bool.true_and]
    rw [split, inside, closes, behind]

/-- An element and its content. -/
def element (name : List Char) (attributes : List (List Char × List Char)) (inner : List Piece) : List Piece :=
  .opening name attributes :: (inner ++ [.closing name])

theorem element_nests {name : List Char} {attributes : List (List Char × List Char)} {inner : List Piece} (content : Content inner) :
    nests false [] (element name attributes inner) = true := by
  show nests true [name] (inner ++ [.closing name]) = true
  rw [content.closed]
  show (name == name && true) = true
  rw [beq_self_eq_true, Bool.true_and]

/-- What stands behind a declaration is read as it was written where each piece is. -/
theorem parseRoot_render {pieces : List Piece} (valid : ∀ piece ∈ pieces, piece.Valid) (apart : Apart pieces)
    (nested : nests false [] pieces = true) : parseRoot (render pieces) = some pieces ↔ ∀ piece ∈ pieces, piece.Kept := by
  rw [parseRoot, parsePieces_render valid apart (length_le_render apart), Option.filter_eq_some_iff]
  rw [mapM_self]
  simp only [Piece.back_iff, nested, and_true]

/-- A document without a declaration is read as it was written where each piece is. -/
theorem parseDocument_element {name : List Char} {attributes : List (List Char × List Char)} {inner : List Piece}
    (tag : IsTag name attributes) (content : Content inner) (apart : Apart inner) :
    parseDocument (render (element name attributes inner)) = some (element name attributes inner) ↔
      ∀ piece ∈ element name attributes inner, piece.Kept := by
  have valid : ∀ piece ∈ element name attributes inner, piece.Valid := (Content.element tag content .nil).valid
  have together : Apart (element name attributes inner) := apart.append trivial nofun
  rw [← parseRoot_render valid together (element_nests content)]
  obtain ⟨first, others, rfl⟩ := List.exists_cons_of_ne_nil tag.1.1
  have plain := nameChar_plain (tag.1.2 first List.mem_cons_self)
  have written : render (element (first :: others) attributes inner) = '<' :: first :: (others ++ renderAttributes attributes ++
      '>' :: render (inner ++ [.closing (first :: others)])) := by
    simp [element, render, Piece.render, Piece.tag]
  rw [written, parseDocument]
  exact fun rest same => plain.2.2.2.1 (List.cons.inj (List.cons.inj same).2).1

/-- A declaration is read, and then what stands behind it. -/
theorem parseDocument_declaration {declaration : List Char} {pieces : List Piece} (declared : isDeclaration declaration = true)
    (plain : declaration.all (· != '?') = true) :
    parseDocument (render (.instruction declaration :: pieces)) = (parseRoot (render pieces)).map (.instruction declaration :: ·) := by
  have written : render (.instruction declaration :: pieces) = '<' :: '?' :: (declaration ++ '?' :: '>' :: render pieces) := by
    simp [render, Piece.render, Piece.tag]
  have raw : (declaration ++ '?' :: '>' :: render pieces).takeWhile (· != '?') = declaration :=
    takeWhile_until (List.all_eq_true.1 plain) (by decide)
  rw [written, parseDocument, raw, List.drop_left' rfl]
  exact if_pos declared

section

variable {declaration white name : List Char} {attributes : List (List Char × List Char)} {inner : List Piece}

theorem declared_valid (tag : IsTag name attributes) (content : Content inner) :
    ∀ piece ∈ .text white :: element name attributes inner, piece.Valid :=
  List.forall_mem_cons.2 ⟨trivial, (Content.element tag content .nil).valid⟩

theorem declared_apart (some' : white ≠ []) (apart : Apart inner) : Apart (.text white :: element name attributes inner) :=
  ⟨some', nofun, apart.append trivial nofun⟩

/-- A document with a declaration is read as it was written where each piece behind it is. -/
theorem parseDocument_declared (declared : isDeclaration declaration = true) (plain : declaration.all (· != '?') = true)
    (some' : white ≠ []) (space : white.all isSpace = true) (kept : TextKept white) (tag : IsTag name attributes)
    (content : Content inner) (apart : Apart inner) :
    parseDocument (render (.instruction declaration :: .text white :: element name attributes inner)) =
        some (.instruction declaration :: .text white :: element name attributes inner) ↔
      ∀ piece ∈ element name attributes inner, piece.Kept := by
  have nested : nests false [] (.text white :: element name attributes inner) = true := by
    show (white.all isSpace && nests false [] (element name attributes inner)) = true
    rw [space, element_nests content, Bool.and_true]
  have root := parseRoot_render (declared_valid tag content) (declared_apart some' apart) nested
  rw [List.forall_mem_cons] at root
  rw [parseDocument_declaration declared plain, Option.map_eq_some_iff]
  refine ⟨fun ⟨pieces, read, same⟩ => (root.1 (by rw [read, (List.cons.inj same).2])).2, fun all => ⟨_, root.2 ⟨kept, all⟩, rfl⟩⟩

/-- Where a piece cannot be read, the document is refused. -/
theorem parseDocument_refused (declared : isDeclaration declaration = true) (plain : declaration.all (· != '?') = true)
    (some' : white ≠ []) (tag : IsTag name attributes) (content : Content inner) (apart : Apart inner) {piece : Piece}
    (mem : piece ∈ element name attributes inner) (unread : piece.back = none) :
    parseDocument (render (.instruction declaration :: .text white :: element name attributes inner)) = none := by
  have together : Apart (.text white :: element name attributes inner) := declared_apart some' apart
  rw [parseDocument_declaration declared plain, parseRoot,
    parsePieces_render (declared_valid tag content) together (length_le_render together),
    mapM_none (List.mem_cons_of_mem _ mem) unread]
  rfl

end

end TelemetryHub.Lib.Xml
