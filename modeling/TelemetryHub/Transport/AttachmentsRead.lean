import TelemetryHub.Transport.Attachments

/-!
# What is read of attachments

The attachments of a message are the ones given exactly when each is readable: an entry is
compared with what is read of it, a list entry by entry.
-/

namespace TelemetryHub

open Lib

/-! ## Base64 texts -/

/-- Where the characters are. -/
theorem range_base64 {c : Char} (base64 : isBase64AttachmentChar c = true) :
    c.toNat = 43 ∨ 47 ≤ c.toNat ∧ c.toNat ≤ 57 ∨ c.toNat = 61 ∨ 65 ≤ c.toNat ∧ c.toNat ≤ 90 ∨ 97 ≤ c.toNat ∧ c.toNat ≤ 122 := by
  simp only [isBase64AttachmentChar, Bool.or_eq_true, isAlphanum_iff, beq_iff_eq] at base64
  rcases base64 with (((((upper | lower) | digit) | rfl) | rfl) | rfl)
  · omega
  · omega
  · omega
  all_goals decide

theorem utf8Size_base64 {c : Char} (base64 : isBase64AttachmentChar c = true) : c.utf8Size = 1 := by
  have range := range_base64 base64
  have small : c.val.toNat ≤ 127 := show c.toNat ≤ 127 by omega
  rw [Char.utf8Size, if_pos (UInt32.le_iff_toNat_le.2 small)]

theorem not_whitespace_base64 {c : Char} (base64 : isBase64AttachmentChar c = true) : isWhitespace c = false := by
  have range := range_base64 base64
  simp only [isWhitespace, Bool.or_eq_false_iff, Bool.and_eq_false_iff, decide_eq_false_iff_not, beq_eq_false_iff_ne]
  omega

theorem utf8ByteSize_base64 {cs : List Char} (all : ∀ c ∈ cs, isBase64AttachmentChar c = true) :
    (String.ofList cs).utf8ByteSize = cs.length := by
  induction cs with
  | nil => rfl
  | cons c cs ih =>
    have split : String.ofList (c :: cs) = String.singleton c ++ String.ofList cs := by
      apply String.toList_inj.1
      simp
    rw [split, String.utf8ByteSize_append, String.utf8ByteSize_singleton, utf8Size_base64 (all c List.mem_cons_self),
      ih fun d there => all d (List.mem_cons_of_mem c there), List.length_cons]
    omega

theorem length_textBytes (text : String) : (textBytes text).length = text.utf8ByteSize := Array.length_toList

/-- A separator with a character that is nowhere is nowhere. -/
theorem behind_none {sep cs : List Char} {c : Char} (inside : c ∈ sep) (nowhere : c ∉ cs) : behind sep cs = none := by
  induction cs with
  | nil => rfl
  | cons d cs ih =>
    have other : sep.isPrefixOf (d :: cs) = false := by
      rw [Bool.eq_false_iff, Ne, List.isPrefixOf_iff_prefix]
      exact fun opens => nowhere (opens.subset inside)
    rw [behind, other]
    exact ih fun there => nowhere (List.mem_cons_of_mem d there)

theorem startsWith_false {text start : String} {c : Char} (inside : c ∈ start.toList) (nowhere : c ∉ text.toList) :
    startsWith text start = false := by
  rw [startsWith, Bool.eq_false_iff, Ne, List.isPrefixOf_iff_prefix]
  exact fun opens => nowhere (opens.subset inside)

/-! ## Lists -/

/-- Of lists of one length, one that may leave out entries is the other where it leaves out none
and each is the other's. -/
theorem filterMap_eq_map_iff {α β γ : Type} {f : β → Option γ} {h : α → γ} {p : α → Prop} {given : List α} {entries : List β}
    (each : List.Forall₂ (fun g entry => f entry = some (h g) ↔ p g) given entries) :
    entries.filterMap f = given.map h ↔ ∀ g ∈ given, p g := by
  induction each with
  | nil => simp
  | @cons g entry given entries first rest ih =>
    rw [List.forall_mem_cons, ← first, ← ih, List.map_cons]
    cases read : f entry with
    | none =>
      have shorter := List.length_filterMap_le f entries
      have sized := rest.length_eq
      rw [List.filterMap_cons_none read]
      simp only [reduceCtorEq, false_and, iff_false]
      intro same
      have lengths := congrArg List.length same
      simp only [List.length_cons, List.length_map] at lengths
      omega
    | some a =>
      rw [List.filterMap_cons_some read, List.cons.injEq, Option.some.injEq]

theorem append_eq_append_iff_of_le {α : Type} {a b a' b' : List α} (first : a.length ≤ a'.length)
    (second : b.length ≤ b'.length) : a ++ b = a' ++ b' ↔ a = a' ∧ b = b' := by
  constructor
  · intro same
    have lengths := congrArg List.length same
    simp only [List.length_append] at lengths
    exact List.append_inj same (by omega)
  · rintro ⟨rfl, rfl⟩
    rfl

section

variable [AttachmentHost]

namespace GivenAttachment

variable (g : GivenAttachment)

theorem text_chars : ∀ c ∈ g.text.toList, isBase64AttachmentChar c = true := AttachmentHost.base64Encode_chars g.bytes

theorem notMem_text {c : Char} (other : isBase64AttachmentChar c = false) : c ∉ g.text.toList := by
  intro inside
  rw [g.text_chars c inside] at other
  cases other

theorem compactText_text : compactText g.text = g.text := by
  rw [compactText, List.filter_eq_self.2 fun c inside => by simp [not_whitespace_base64 (g.text_chars c inside)],
    String.ofList_toList]

theorem trim_text : trim g.text = g.text := by
  have whole : trimChars g.text.toList = g.text.toList := by
    have front : ∀ {cs : List Char}, (∀ c ∈ cs, isBase64AttachmentChar c = true) → cs.dropWhile isWhitespace = cs := by
      intro cs all
      cases cs with
      | nil => rfl
      | cons c cs =>
        rw [List.dropWhile_cons_of_neg]
        simp [not_whitespace_base64 (all c List.mem_cons_self)]
    rw [trimChars, front g.text_chars, front fun c inside => g.text_chars c (List.mem_reverse.1 inside), List.reverse_reverse]
  rw [trim, whole, String.ofList_toList]

theorem utf8ByteSize_text : g.text.utf8ByteSize = (g.bytes.length + 2) / 3 * 4 := by
  have size := utf8ByteSize_base64 g.text_chars
  rw [String.ofList_toList] at size
  exact size.trans (AttachmentHost.base64Encode_length g.bytes)

/-- A text is decoded where it is seen to be base64. -/
theorem shouldDecode_text : shouldDecodeBase64Attachment g.text = true ↔ g.TextSeen := by
  have unprefixed : startsWith g.text "data:" = false :=
    startsWith_false (c := ':') (by decide) (g.notMem_text (by decide))
  have length : g.text.toList.length = (g.bytes.length + 2) / 3 * 4 := AttachmentHost.base64Encode_length g.bytes
  have fours : ((g.bytes.length + 2) / 3 * 4 % 4 == 0) = true := by
    rw [beq_iff_eq]
    omega
  have all : g.text.toList.all isBase64AttachmentChar = true := List.all_eq_true.2 g.text_chars
  unfold shouldDecodeBase64Attachment TextSeen
  simp only [g.compactText_text, unprefixed, fours, all, Bool.false_and, Bool.false_or, Bool.and_true, Bool.or_eq_true,
    List.any_eq_true, beq_iff_eq, decide_eq_true_eq, g.utf8ByteSize_text, length, or_assoc]

theorem decodeAttachmentText_text : decodeAttachmentText g.text =
    if shouldDecodeBase64Attachment g.text then g.bytes else textBytes g.text := by
  have unprefixed : startsWith g.text "base64:" = false :=
    startsWith_false (c := ':') (by decide) (g.notMem_text (by decide))
  have whole : behind "base64,".toList g.text.toList = none :=
    behind_none (c := ',') (by decide) (g.notMem_text (by decide))
  have decoded : decodeBase64Attachment g.text = some g.bytes := by
    rw [decodeBase64Attachment, g.compactText_text]
    exact AttachmentHost.base64Decode_encode g.bytes
  unfold decodeAttachmentText
  simp only [g.trim_text, unprefixed, whole, decoded, Bool.false_eq_true, ↓reduceIte, Option.none_or, Option.bind_none,
    Option.getD_some]

/-- The letters of the text are more than the bytes. -/
theorem decode_text_iff (some_ : g.bytes ≠ []) : decodeAttachmentText g.text = g.bytes ↔ g.TextSeen := by
  rw [decodeAttachmentText_text, ← shouldDecode_text]
  cases shouldDecodeBase64Attachment g.text with
  | true => simp
  | false =>
    simp only [Bool.false_eq_true, ↓reduceIte, iff_false]
    intro same
    have lengths := congrArg List.length same
    rw [length_textBytes, utf8ByteSize_text] at lengths
    have positive := List.length_pos_iff.2 some_
    omega

theorem attachmentDataBytes_data : attachmentDataBytes g.data = if g.encoded then decodeAttachmentText g.text else g.bytes := by
  unfold data
  cases g.encoded with
  | true => rfl
  | false =>
    have bytes : ∀ bytes : List UInt8, (bytes.map fun byte => Value.number (.int byte.toNat)).mapM asByte = some bytes := by
      intro bytes
      induction bytes with
      | nil => rfl
      | cons byte bytes ih =>
        have small := byte.toNat_lt
        have read : asByte (.number (.int byte.toNat)) = some byte := by
          simp only [asByte]
          rw [if_pos (by omega)]
          simp
        rw [List.map_cons, List.mapM_cons, read, ih]
        rfl
    simp only [attachmentDataBytes, Bool.false_eq_true, ↓reduceIte, bytes, Option.getD_some]

/-! ## Entries -/

variable {g} {category : String} {entry : Value}

omit [AttachmentHost] in
theorem filledAttachment_iff (filled : g.Filled) {name : String} {data : List UInt8} {mediaType : Option String} :
    filledAttachment category name data mediaType = some (g.attachment category) ↔
      name = g.name ∧ data = g.bytes ∧ mediaType = g.mediaType := by
  unfold filledAttachment attachment
  split
  · next empty =>
    simp only [reduceCtorEq, false_iff, not_and]
    rintro - rfl
    exact absurd (List.isEmpty_iff.1 empty) filled.bytes
  · simp [TopicAttachment.mk.injEq]

/-- An object is read with its name and media type trimmed. -/
theorem object_read_iff (filled : g.Filled) (form : g.form = .object) {fields : List (String × Value)}
    (name : optionalFieldValue fields attachmentNameKeys = some (.string g.name))
    (data : optionalFieldValue fields attachmentDataKeys = some g.data)
    (mediaType : optionalFieldValue fields attachmentMediaTypeKeys = g.mediaType.map .string) :
    parseAttachmentEntry category (.object fields) = some (g.attachment category) ↔ g.Readable category := by
  have named : optionalFieldString fields attachmentNameKeys = some (trim g.name) := by
    rw [optionalFieldString, name]
    simp [Value.asStr, filled.name]
  have typed : optionalFieldString fields attachmentMediaTypeKeys = g.mediaType.map trim := by
    rw [optionalFieldString, mediaType]
    cases typed : g.mediaType with
    | none => rfl
    | some mediaType => simp [Value.asStr, filled.mediaType mediaType typed]
  have trimmed : g.mediaType.map trim = g.mediaType ↔ ∀ mediaType ∈ g.mediaType, trim mediaType = mediaType := by
    cases g.mediaType <;> simp
  have bytes : attachmentDataBytes g.data = g.bytes ↔ (g.encoded = true → g.TextSeen) := by
    rw [attachmentDataBytes_data]
    cases g.encoded with
    | true => simp [decode_text_iff g filled.bytes]
    | false => simp
  rw [parseAttachmentEntry, data, Option.bind_some, named, typed, filledAttachment_iff filled, bytes, trimmed]
  simp only [Option.getD_some, Readable, form]
  tauto

omit [AttachmentHost] in
theorem decode_default [Host] (category : String) :
    decodeAttachmentText (defaultAttachmentName category) = textBytes (defaultAttachmentName category) := by
  unfold defaultAttachmentName
  split
  · rfl
  · rfl

omit [AttachmentHost] in
theorem length_default (category : String) : (textBytes (defaultAttachmentName category)).length % 3 ≠ 0 := by
  unfold defaultAttachmentName
  split
  · decide
  · decide

omit [AttachmentHost] in
/-- A media type has no padding in it. -/
theorem pad_notMem_mediaType {value : String} (looks : looksLikeMediaType value = true) : '=' ∉ value.toList := by
  unfold looksLikeMediaType at looks
  split at looks
  · cases looks
  · next slash right split =>
    simp only [Bool.and_eq_true, List.all_eq_true] at looks
    obtain ⟨⟨-, left⟩, right'⟩ := looks
    have opens : slash = '/' := by
      have first := List.head?_dropWhile_not (fun c : Char => decide (c ≠ '/')) value.toList
      rw [split] at first
      simpa using first
    rw [← List.takeWhile_append_dropWhile (p := fun c : Char => decide (c ≠ '/')) (l := value.toList), split, opens]
    simp only [List.mem_append, List.mem_cons, not_or]
    refine ⟨fun inside => ?_, by decide, fun inside => ?_⟩
    · exact absurd (left '=' inside) (by decide)
    · exact absurd ( right' '=' inside) (by decide)

variable (g) in
/-- The texts of an array besides its name. -/
def arrayTexts : List String := (if g.encoded then [g.text] else []) ++ g.mediaType.toList.map trim

/-- An array gives its name for the data. -/
theorem array_parsed (filled : g.Filled) :
    parseAttachmentArrayEntry (.string g.name :: g.data :: g.mediaType.toList.map .string) category = some
      { name := (g.arrayTexts.find? fun value => g.arrayTexts.find? looksLikeMediaType ≠ some value).getD
          (defaultAttachmentName category)
        data := decodeAttachmentText g.name
        mediaType := g.arrayTexts.find? looksLikeMediaType } := by
  have textual : g.text.isEmpty = false := by
    rw [Bool.eq_false_iff, Ne, String.isEmpty_iff_utf8ByteSize_eq_zero, g.utf8ByteSize_text]
    have positive := List.length_pos_iff.2 filled.bytes
    omega
  have first : isBinaryAttachmentCandidate (.string g.name) = true := by
    simp [isBinaryAttachmentCandidate, Value.asStr, filled.name]
  have data : ((g.data.asStr.map trim).filter fun value => !value.isEmpty) = if g.encoded then some g.text else none := by
    unfold GivenAttachment.data
    cases g.encoded with
    | true => simp only [↓reduceIte, Value.asStr, Option.map_some, g.trim_text, Option.filter_some, textual, Bool.not_false]
    | false => rfl
  have texts : (((.string g.name :: g.data :: g.mediaType.toList.map .string) : List Value).zipIdx.filterMap fun item =>
      if item.2 ≠ 0 then (item.1.asStr.map trim).filter fun value => !value.isEmpty else none) = g.arrayTexts := by
    rw [arrayTexts, List.zipIdx_cons, List.filterMap_cons_none (by rfl), List.zipIdx_cons, List.filterMap_cons]
    simp only [Nat.zero_add, ne_eq, one_ne_zero, not_false_eq_true, ↓reduceIte, data]
    cases typed : g.mediaType with
    | none => cases g.encoded <;> rfl
    | some mediaType =>
      have told : (((Value.string mediaType).asStr.map trim).filter fun value => !value.isEmpty) = some (trim mediaType) := by
        simp only [Value.asStr, Option.map_some, Option.filter_some, filled.mediaType mediaType typed, Bool.not_false,
          ↓reduceIte]
      simp only [Option.toList_some, List.map_singleton, List.zipIdx_singleton, List.filterMap_cons, List.filterMap_nil,
        told]
      cases g.encoded <;> rfl
  unfold parseAttachmentArrayEntry
  rw [List.findIdx?_cons, first]
  simp only [List.all_cons, isNumber, Bool.false_and, Bool.false_eq_true, ↓reduceIte, Option.getD_some,
    List.getElem?_cons_zero, Option.map_some, texts]
  rfl

/-- Of numbers, an array gives the name's letters under the default name. -/
theorem numbers_read_iff (plain : g.encoded = false) :
    ((g.arrayTexts.find? fun value => g.arrayTexts.find? looksLikeMediaType ≠ some value).getD
        (defaultAttachmentName category) = g.name ∧ decodeAttachmentText g.name = g.bytes ∧
      g.arrayTexts.find? looksLikeMediaType = g.mediaType) ↔
    (∀ mediaType ∈ g.mediaType, trim mediaType = mediaType ∧ looksLikeMediaType mediaType = true) ∧
      g.name = defaultAttachmentName category ∧ g.bytes = textBytes (defaultAttachmentName category) := by
  have letters : defaultAttachmentName category = g.name → (decodeAttachmentText g.name = g.bytes ↔
      g.bytes = textBytes (defaultAttachmentName category)) := by
    intro same
    rw [← same, decode_default]
    exact eq_comm
  cases typed : g.mediaType with
  | none =>
    simp only [arrayTexts, plain, typed, Bool.false_eq_true, ↓reduceIte, Option.toList_none, List.map_nil, List.append_nil,
      List.find?_nil, Option.getD_none, and_true]
    constructor
    · rintro ⟨same, read⟩
      exact ⟨nofun, same.symm, (letters same).1 read⟩
    · rintro ⟨-, same, read⟩
      exact ⟨same.symm, (letters same.symm).2 read⟩
  | some mediaType =>
    simp only [arrayTexts, plain, typed, Bool.false_eq_true, ↓reduceIte, Option.toList_some, List.map_singleton,
      List.nil_append, List.find?_singleton]
    cases looks : looksLikeMediaType (trim mediaType) with
    | false =>
      simp only [Bool.false_eq_true, ↓reduceIte, reduceCtorEq, and_false, false_iff]
      rintro ⟨told, -⟩
      obtain ⟨bare, looks'⟩ := told mediaType rfl
      rw [bare, looks'] at looks
      cases looks
    | true =>
      simp only [↓reduceIte, ne_eq, not_true_eq_false, decide_false, Bool.false_eq_true, Option.getD_none,
        Option.some.injEq]
      constructor
      · rintro ⟨same, read, bare⟩
        refine ⟨?_, same.symm, (letters same).1 read⟩
        rintro _ ⟨⟩
        exact ⟨bare, bare ▸ looks⟩
      · rintro ⟨told, same, read⟩
        exact ⟨same.symm, (letters same.symm).2 read, (told mediaType rfl).1⟩

/-- Of a text, an array gives the name's bytes under the text for a name. -/
theorem text_read_iff (filled : g.Filled) (encoded : g.encoded = true) :
    ((g.arrayTexts.find? fun value => g.arrayTexts.find? looksLikeMediaType ≠ some value).getD
        (defaultAttachmentName category) = g.name ∧ decodeAttachmentText g.name = g.bytes ∧
      g.arrayTexts.find? looksLikeMediaType = g.mediaType) ↔
    (∀ mediaType ∈ g.mediaType, trim mediaType = mediaType ∧ looksLikeMediaType mediaType = true) ∧
      g.name = g.text ∧ looksLikeMediaType g.text = false ∧ g.TextSeen := by
  have read : g.text = g.name → (decodeAttachmentText g.name = g.bytes ↔ g.TextSeen) := by
    intro same
    rw [← same]
    exact decode_text_iff g filled.bytes
  cases looks : looksLikeMediaType g.text with
  | true =>
    -- the text would be the media type, and the default name's letters the bytes, which are padded
    simp only [Bool.true_eq_false, false_and, and_false, iff_false]
    have found : g.arrayTexts.find? looksLikeMediaType = some g.text := by
      rw [arrayTexts, encoded, if_pos rfl, List.singleton_append, List.find?_cons_of_pos looks]
    rw [found]
    rintro ⟨name, bytes, typed⟩
    have unnamed : (g.arrayTexts.find? fun value => some g.text ≠ some value) = none := by
      rw [arrayTexts, encoded, ← typed, List.find?_eq_none]
      simp [g.trim_text]
    rw [unnamed, Option.getD_none] at name
    rw [← name, decode_default] at bytes
    have padded := AttachmentHost.base64Encode_padded g.bytes (bytes ▸ length_default category)
    exact pad_notMem_mediaType looks padded
  | false =>
    simp only [true_and]
    cases typed : g.mediaType with
    | none =>
      have texts : g.arrayTexts = [g.text] := by simp [arrayTexts, encoded, typed]
      simp only [texts, List.find?_singleton, looks, Bool.false_eq_true, ↓reduceIte, ne_eq, reduceCtorEq,
        not_false_eq_true, decide_true, Option.getD_some, and_true]
      constructor
      · rintro ⟨same, bytes⟩
        exact ⟨nofun, same.symm, (read same).1 bytes⟩
      · rintro ⟨-, same, seen⟩
        exact ⟨same.symm, (read same.symm).2 seen⟩
    | some mediaType =>
      have texts : g.arrayTexts = [g.text, trim mediaType] := by simp [arrayTexts, encoded, typed]
      rw [texts]
      cases looks' : looksLikeMediaType (trim mediaType) with
      | false =>
        have none_ : [g.text, trim mediaType].find? looksLikeMediaType = none := by simp [looks, looks']
        rw [none_]
        simp only [reduceCtorEq, and_false, false_iff]
        rintro ⟨told, -⟩
        obtain ⟨bare, looks''⟩ := told mediaType rfl
        rw [bare, looks''] at looks'
        cases looks'
      | true =>
        have other : trim mediaType ≠ g.text := by
          intro same
          rw [same, looks] at looks'
          cases looks'
        have found : [g.text, trim mediaType].find? looksLikeMediaType = some (trim mediaType) := by
          rw [List.find?_cons_of_neg (by simp [looks]), List.find?_singleton, looks', if_pos rfl]
        rw [found, List.find?_cons_of_pos (by simpa using other)]
        simp only [Option.getD_some, Option.some.injEq]
        constructor
        · rintro ⟨same, bytes, bare⟩
          refine ⟨?_, same.symm, (read same).1 bytes⟩
          rintro _ ⟨⟩
          exact ⟨bare, bare ▸ looks'⟩
        · rintro ⟨told, same, seen⟩
          exact ⟨same.symm, (read same.symm).2 seen, (told mediaType rfl).1⟩

/-- An entry is read as it is given exactly when it is readable. -/
theorem entry_read_iff (filled : g.Filled) (given : g.Entry entry) :
    parseAttachmentEntry category entry = some (g.attachment category) ↔ g.Readable category := by
  cases given with
  | object fields form name data mediaType => exact object_read_iff filled form name data mediaType
  | array form =>
    rw [parseAttachmentEntry, array_parsed filled, Option.bind_some, filledAttachment_iff filled]
    unfold Readable
    rw [form]
    cases encoded : g.encoded with
    | true => simpa using text_read_iff filled encoded
    | false => simpa using numbers_read_iff encoded

end GivenAttachment

/-! ## Fields -/

/-- A field is read entry by entry. -/
theorem field_read (category : String) {fields : List (String × Value)} {keys : List String} {given : List GivenAttachment}
    (gives : FieldGives fields keys given) :
    let read := ((optionalFieldValue fields keys).map (parseAttachmentPayload category)).getD []
    read.length ≤ given.length ∧
      (read = given.map (GivenAttachment.attachment category) ↔ ∀ g ∈ given, g.Readable category) := by
  obtain ⟨absent, rfl⟩ | ⟨entries, found, each⟩ := gives
  · rw [absent]
    simp
  · rw [found]
    have listed : parseAttachmentPayload category (.array entries) = entries.filterMap (parseAttachmentEntry category) := by
      cases each with
      | nil => rfl
      | cons first _ =>
        obtain ⟨entry, -⟩ := first
        cases entry with
        | object | array => rfl
    simp only [Option.map_some, Option.getD_some, listed]
    constructor
    · rw [each.length_eq]
      exact List.length_filterMap_le _ _
    · exact filterMap_eq_map_iff (each.imp fun g entry given => GivenAttachment.entry_read_iff given.2 given.1)

/-- The attachments of a message are the ones given exactly when each is readable. -/
theorem attachments_kept_iff (fields : List (String × Value)) (files images : List GivenAttachment)
    (filesGiven : FieldGives fields fileAttachmentKeys files) (imagesGiven : FieldGives fields imageAttachmentKeys images) :
    directLxmfAttachments (some fields) = files.map (GivenAttachment.attachment "file") ++
        images.map (GivenAttachment.attachment "image") ↔
      (∀ g ∈ files, g.Readable "file") ∧ ∀ g ∈ images, g.Readable "image" := by
  obtain ⟨fewer, first⟩ := field_read "file" filesGiven
  obtain ⟨fewer', second⟩ := field_read "image" imagesGiven
  unfold directLxmfAttachments
  simp only [List.flatMap_cons, List.flatMap_nil, List.append_nil]
  rw [append_eq_append_iff_of_le (by rwa [List.length_map]) (by rwa [List.length_map]), first, second]

end

/-! ## Two messages -/

/-- A host with the standard alphabet. -/
@[reducible] def AttachmentHost.standard : AttachmentHost where
  toHost := { Host.blank with base64Decode := fun text => Base64.decode text.toList }
  base64Encode bytes := String.ofList (Base64.encode bytes)
  base64Decode_encode bytes := by
    change Base64.decode (String.ofList (Base64.encode bytes)).toList = some bytes
    rw [String.toList_ofList, Base64.decode_encode]
  base64Encode_chars bytes c inside := by
    rw [String.toList_ofList] at inside
    have all : ∀ c ∈ Base64.alphabet, isBase64AttachmentChar c = true := List.all_eq_true.1 (by decide)
    obtain there | rfl := Base64.mem_encode inside
    · exact all c there
    · rfl
  base64Encode_length bytes := by rw [String.toList_ofList, Base64.length_encode]
  base64Encode_padded bytes left := by
    rw [String.toList_ofList]
    exact Base64.pad_mem_encode left

/-- A file whose bytes are told in base64. -/
def directFile : GivenAttachment :=
  { form := .object, name := "direct.txt", bytes := [1, 2, 3, 4], encoded := true, mediaType := some "text/plain" }

/-- A triple. -/
def photo : GivenAttachment :=
  { form := .array, name := "photo.jpg", bytes := [1, 2, 3], encoded := false, mediaType := some "image/jpeg" }

/-- A file of three bytes, whose text has no padding. -/
def shortFile : GivenAttachment := { form := .object, name := "key", bytes := [1, 2, 3], encoded := true, mediaType := none }

/-- The fields with an entry. -/
def oneAttachment (entry : Value) : List (String × Value) := [("attachments", .array [entry])]

def directEntry : Value :=
  .object [("name", .string "direct.txt"), ("data", .string "AQIDBA=="), ("media_type", .string "text/plain")]

def photoEntry : Value :=
  .array [.string "photo.jpg", .array [.number (.int 1), .number (.int 2), .number (.int 3)], .string "image/jpeg"]

def shortEntry : Value := .object [("name", .string "key"), ("data", .string "AQID")]

theorem direct_kept :
    letI := AttachmentHost.standard
    directLxmfAttachments (some (oneAttachment directEntry)) =
      [directFile].map (GivenAttachment.attachment "file") ++ [].map (GivenAttachment.attachment "image") := by
  let := AttachmentHost.standard
  have given : FieldGives (oneAttachment directEntry) fileAttachmentKeys [directFile] := by
    refine .inr ⟨_, rfl, .cons ⟨.object _ rfl rfl rfl rfl, ?_⟩ .nil⟩
    exact ⟨by decide, by decide, fun _ told => Option.some.inj told ▸ by decide⟩
  refine (attachments_kept_iff _ [directFile] [] given (.inl ⟨rfl, rfl⟩)).2 ⟨?_, nofun⟩
  rintro g there
  obtain rfl := List.mem_singleton.1 there
  refine ⟨by decide, fun _ told => Option.some.inj told ▸ by decide, fun _ => .inl ⟨'=', ?_, .inl rfl⟩⟩
  decide +kernel

/-- A triple is given, and its name is stored for its content; three bytes are told in base64,
and their text is stored. -/
theorem name_for_content :
    letI := AttachmentHost.standard
    (photo.Filled ∧ photo.Entry photoEntry ∧
      directLxmfAttachments (some (oneAttachment photoEntry)) ≠ [photo].map (GivenAttachment.attachment "file") ∧
      directLxmfAttachments (some (oneAttachment photoEntry)) =
        [{ name := "attachment", data := textBytes "photo.jpg", mediaType := some "image/jpeg", category := "file" }]) ∧
    shortFile.Filled ∧ shortFile.Entry shortEntry ∧
      directLxmfAttachments (some (oneAttachment shortEntry)) ≠ [shortFile].map (GivenAttachment.attachment "file") ∧
      directLxmfAttachments (some (oneAttachment shortEntry)) =
        [{ name := "key", data := textBytes "AQID", mediaType := none, category := "file" }] := by
  let := AttachmentHost.standard
  have read : directLxmfAttachments (some (oneAttachment photoEntry)) =
      [{ name := "attachment", data := textBytes "photo.jpg", mediaType := some "image/jpeg", category := "file" }] := rfl
  have read' : directLxmfAttachments (some (oneAttachment shortEntry)) =
      [{ name := "key", data := textBytes "AQID", mediaType := none, category := "file" }] := rfl
  refine ⟨⟨⟨by decide, by decide, fun _ told => Option.some.inj told ▸ by decide⟩, .array rfl, ?_, read⟩,
    ⟨by decide, by decide, nofun⟩, .object _ rfl rfl rfl rfl, ?_, read'⟩
  · rw [read]
    intro same
    exact absurd (congrArg TopicAttachment.name (List.cons.inj same).1) (by decide)
  · rw [read']
    intro same
    exact absurd (congrArg TopicAttachment.data (List.cons.inj same).1) (by decide)

end TelemetryHub
