import Mathlib.Data.List.Forall2
import TelemetryHub.Lib.Base64
import TelemetryHub.Server.Batches

/-!
# Attachments of a message

A message has its attachments in a field, as objects or as arrays of a name, the data and a
media type. Which value of an array is which is guessed from the values, and so is whether a
text is base64.
-/

namespace TelemetryHub

open Lib

/-- `is_base64_attachment_char`. -/
def isBase64AttachmentChar (value : Char) : Bool := value.isAlphanum || value == '+' || value == '/' || value == '='

/-- What attachments take from the base64 crate. -/
class AttachmentHost extends Host where
  /-- `BASE64_STANDARD.encode`. -/
  base64Encode : List UInt8 → String
  base64Decode_encode : ∀ bytes, base64Decode (base64Encode bytes) = some bytes
  base64Encode_chars : ∀ bytes, ∀ c ∈ (base64Encode bytes).toList, isBase64AttachmentChar c = true
  base64Encode_length : ∀ bytes, (base64Encode bytes).toList.length = (bytes.length + 2) / 3 * 4
  base64Encode_padded : ∀ bytes, bytes.length % 3 ≠ 0 → '=' ∈ (base64Encode bytes).toList

/-! ## Texts -/

/-- `text.split_whitespace().collect::<String>()`. -/
def compactText (text : String) : String := String.ofList (text.toList.filter fun c => !isWhitespace c)

/-- `text.as_bytes()`. -/
def textBytes (text : String) : List UInt8 := text.toUTF8.data.toList

/-- `text.split_once(sep)`, what is behind the separator. -/
def behind (sep : List Char) : List Char → Option (List Char)
  | [] => none
  | c :: cs => if sep.isPrefixOf (c :: cs) then some ((c :: cs).drop sep.length) else behind sep cs

/-- `should_decode_base64_attachment`. -/
def shouldDecodeBase64Attachment (text : String) : Bool :=
  let compact := compactText text
  (startsWith compact "data:" && (behind "base64,".toList compact.toList).isSome) ||
    compact.toList.any (fun value => value == '=' || value == '+' || value == '/') ||
    (12 ≤ compact.utf8ByteSize && compact.utf8ByteSize % 4 == 0 && compact.toList.all isBase64AttachmentChar)

/-- `is_media_type_char`. -/
def isMediaTypeChar (value : Char) : Bool := value.isAlphanum || "!#$&^_.+-".toList.contains value

/-- `looks_like_media_type`. -/
def looksLikeMediaType (value : String) : Bool :=
  match value.toList.dropWhile (· ≠ '/') with
  | [] => false
  | _ :: right =>
    let left := value.toList.takeWhile (· ≠ '/')
    !left.isEmpty && !right.isEmpty && left.all isMediaTypeChar && right.all isMediaTypeChar

/-- `default_attachment_name`. -/
def defaultAttachmentName (category : String) : String := if category = "image" then "image" else "attachment"

section Host

variable [Host]

/-- `decode_base64_attachment`. -/
def decodeBase64Attachment (text : String) : Option (List UInt8) := Host.base64Decode (compactText text)

/-- `decode_attachment_text`. -/
def decodeAttachmentText (text : String) : List UInt8 :=
  let trimmed := trim text
  let encoded : Option (List Char) :=
    (if startsWith trimmed "base64:" then some (trimmed.toList.drop 7) else none).or
      (behind "base64,".toList trimmed.toList)
  match encoded.bind fun encoded => decodeBase64Attachment (String.ofList encoded) with
  | some bytes => bytes
  | none =>
    if shouldDecodeBase64Attachment trimmed then (decodeBase64Attachment trimmed).getD (textBytes trimmed)
    else textBytes trimmed

/-! ## Values -/

omit [Host] in
/-- `Value::is_number`. -/
def isNumber : Value → Bool
  | .number _ => true
  | _ => false

omit [Host] in
/-- A value as a byte: `as_u64` and `u8::try_from`. -/
def asByte : Value → Option UInt8
  | .number (.int n) => if 0 ≤ n ∧ n < 256 then some (UInt8.ofNat n.toNat) else none
  | _ => none

/-- `attachment_data_bytes`. -/
def attachmentDataBytes : Value → List UInt8
  | .string text => decodeAttachmentText text
  | .array items => (items.mapM asByte).getD []
  | _ => []

omit [Host] in
/-- `is_single_attachment_array`. -/
def isSingleAttachmentArray (items : List Value) : Bool :=
  items.all isNumber || items.head?.any fun value => !value.isObject && value.asArray.isNone

omit [Host] in
/-- `is_binary_attachment_candidate`. -/
def isBinaryAttachmentCandidate (value : Value) : Bool :=
  (value.asStr.any fun text => !(trim text).isEmpty) || value.asArray.any fun items => !items.isEmpty && items.all isNumber

/-- `ParsedAttachmentArray`. -/
structure ParsedAttachmentArray where
  name : String
  data : List UInt8
  mediaType : Option String

/-- `parse_attachment_array_entry`. -/
def parseAttachmentArrayEntry (items : List Value) (category : String) : Option ParsedAttachmentArray :=
  if items.all isNumber then
    some { name := defaultAttachmentName category, data := attachmentDataBytes (.array items), mediaType := none }
  else
    let dataIndex := (items.findIdx? isBinaryAttachmentCandidate).getD (if 2 ≤ items.length then 1 else 0)
    items[dataIndex]?.map fun data =>
      let strings := items.zipIdx.filterMap fun item =>
        if item.2 ≠ dataIndex then (item.1.asStr.map trim).filter fun value => !value.isEmpty else none
      let mediaType := strings.find? looksLikeMediaType
      { name := (strings.find? fun value => mediaType ≠ some value).getD (defaultAttachmentName category)
        data := attachmentDataBytes data
        mediaType }

omit [Host] in
def attachmentNameKeys : List String := ["name", "filename", "file_name", "title"]

omit [Host] in
def attachmentDataKeys : List String := ["data", "bytes", "content", "blob"]

omit [Host] in
def attachmentMediaTypeKeys : List String := ["media_type", "mime", "mime_type", "type"]

/-- The end of `parse_attachment_entry`: an attachment without bytes is none. -/
def filledAttachment (category name : String) (data : List UInt8) (mediaType : Option String) : Option TopicAttachment :=
  if data.isEmpty then none else some { name, data, mediaType, category }

/-- `parse_attachment_entry`. -/
def parseAttachmentEntry (category : String) : Value → Option TopicAttachment
  | .object fields =>
    (optionalFieldValue fields attachmentDataKeys).bind fun data =>
      filledAttachment category ((optionalFieldString fields attachmentNameKeys).getD "attachment")
        (attachmentDataBytes data) (optionalFieldString fields attachmentMediaTypeKeys)
  | .array items =>
    (parseAttachmentArrayEntry items category).bind fun parsed =>
      filledAttachment category parsed.name parsed.data parsed.mediaType
  | entry => filledAttachment category (defaultAttachmentName category) (attachmentDataBytes entry) none

/-- `parse_attachment_payload`. -/
def parseAttachmentPayload (category : String) : Value → List TopicAttachment
  | .null | .object [] | .array [] => []
  | .array items =>
    if isSingleAttachmentArray items then (parseAttachmentEntry category (.array items)).toList
    else items.filterMap (parseAttachmentEntry category)
  | value => (parseAttachmentEntry category value).toList

omit [Host] in
def fileAttachmentKeys : List String := ["attachments", "file_attachments", "files", "5"]

omit [Host] in
def imageAttachmentKeys : List String := ["image", "images", "6"]

/-- `direct_lxmf_attachments`. -/
def directLxmfAttachments : Option (List (String × Value)) → List TopicAttachment
  | none => []
  | some fields =>
    [(fileAttachmentKeys, "file"), (imageAttachmentKeys, "image")].flatMap fun field =>
      ((optionalFieldValue fields field.1).map (parseAttachmentPayload field.2)).getD []

end Host

/-! ## What a field gives -/

/-- An entry is an object or an array. -/
inductive EntryForm where
  | object
  | array

/-- An attachment that is given: its bytes stand as numbers, or as base64 text. -/
structure GivenAttachment where
  form : EntryForm
  name : String
  bytes : List UInt8
  encoded : Bool
  mediaType : Option String

section Given

variable [AttachmentHost]

namespace GivenAttachment

/-- The text of its bytes. -/
def text (g : GivenAttachment) : String := AttachmentHost.base64Encode g.bytes

/-- The data of its entry. -/
def data (g : GivenAttachment) : Value :=
  if g.encoded then .string g.text else .array (g.bytes.map fun byte => .number (.int byte.toNat))

omit [AttachmentHost] in
/-- The attachment it is to be. -/
def attachment (category : String) (g : GivenAttachment) : TopicAttachment :=
  { name := g.name, data := g.bytes, mediaType := g.mediaType, category }

/-- Its entry: an object with a name and data, or a pair or a triple of the name, the data and the
media type. -/
inductive Entry (g : GivenAttachment) : Value → Prop where
  | object (fields : List (String × Value)) (form : g.form = .object)
    (name : optionalFieldValue fields attachmentNameKeys = some (.string g.name))
    (data : optionalFieldValue fields attachmentDataKeys = some g.data)
    (mediaType : optionalFieldValue fields attachmentMediaTypeKeys = g.mediaType.map .string) : Entry g (.object fields)
  | array (form : g.form = .array) : Entry g (.array (.string g.name :: g.data :: g.mediaType.toList.map .string))

omit [AttachmentHost] in
/-- Its name is not blank, nor its media type, and it has bytes. -/
structure Filled (g : GivenAttachment) : Prop where
  name : (trim g.name).isEmpty = false
  bytes : g.bytes ≠ []
  mediaType : ∀ mediaType ∈ g.mediaType, (trim mediaType).isEmpty = false

/-- A base64 text that is seen to be one. -/
def TextSeen (g : GivenAttachment) : Prop :=
  (∃ c ∈ g.text.toList, c = '=' ∨ c = '+' ∨ c = '/') ∨ 12 ≤ g.text.toList.length

/-- The attachments that are read as they are given. An array takes the name for the data, which
shows in all but the default name over its own letters, and a name that is the base64 text of
the data. -/
def Readable (category : String) (g : GivenAttachment) : Prop :=
  match g.form with
  | .object => trim g.name = g.name ∧ (∀ mediaType ∈ g.mediaType, trim mediaType = mediaType) ∧ (g.encoded = true → g.TextSeen)
  | .array => (∀ mediaType ∈ g.mediaType, trim mediaType = mediaType ∧ looksLikeMediaType mediaType = true) ∧
    if g.encoded then g.name = g.text ∧ looksLikeMediaType g.text = false ∧ g.TextSeen
    else g.name = defaultAttachmentName category ∧ g.bytes = textBytes (defaultAttachmentName category)

end GivenAttachment

/-- A field gives attachments: it is not there and gives none, or is the list of their entries. -/
def FieldGives (fields : List (String × Value)) (keys : List String) (given : List GivenAttachment) : Prop :=
  optionalFieldValue fields keys = none ∧ given = [] ∨
    ∃ entries, optionalFieldValue fields keys = some (.array entries) ∧ List.Forall₂ (fun g entry => g.Entry entry ∧ g.Filled) given entries

end Given

end TelemetryHub
