import TelemetryHub.Server.Announces
import TelemetryHub.Server.Tables

/-!
# Inbound attachments

The files that come with a topic message are written under a free name, and a row is
kept of each.
-/

namespace TelemetryHub

open Lib ServerM

section

variable [ServerHost]

/-- `normalized_inbound_attachment_category`. -/
def normalizedInboundAttachmentCategory (category : String) : String :=
  if eqIgnoreAsciiCase category "image" then "image" else "file"

/-- `sanitize_attachment_filename`. -/
def sanitizeAttachmentFilename (filename : String) : String :=
  let safe := trim ((ServerHost.fileName filename).getD "upload.bin")
  if safe.isEmpty then "upload.bin" else safe

/-- `infer_inbound_image_media_type`. -/
def inferInboundImageMediaType (data : List UInt8) : Option String :=
  if [0x89, 0x50, 0x4e, 0x47, 0x0d, 0x0a, 0x1a, 0x0a].isPrefixOf data then some "image/png"
  else if [0xff, 0xd8, 0xff].isPrefixOf data then some "image/jpeg"
  else if [0x47, 0x49, 0x46, 0x38, 0x37, 0x61].isPrefixOf data || [0x47, 0x49, 0x46, 0x38, 0x39, 0x61].isPrefixOf data then
    some "image/gif"
  else if [0x42, 0x4d].isPrefixOf data then some "image/bmp"
  else if [0x52, 0x49, 0x46, 0x46].isPrefixOf data && [0x57, 0x45, 0x42, 0x50].isPrefixOf (data.drop 8) then
    some "image/webp"
  else none

/-- `guess_inbound_attachment_media_type`. -/
def guessInboundAttachmentMediaType (name category : String) : String :=
  match lookupRow [
      (["txt", "log", "csv"], "text/plain"), (["json"], "application/json"), (["png"], "image/png"),
      (["jpg", "jpeg"], "image/jpeg"), (["gif"], "image/gif"), (["bmp"], "image/bmp"), (["webp"], "image/webp")]
      (((ServerHost.fileExtension name).map toAsciiLowercase).getD "") with
  | some mediaType => mediaType
  | none => if category = "image" then "image/octet-stream" else "application/octet-stream"

/-- `inbound_media_type_extension`. -/
def inboundMediaTypeExtension (mediaType : String) : Option String :=
  lookupRow [
    (["image/png"], ".png"), (["image/jpeg"], ".jpg"), (["image/gif"], ".gif"), (["image/bmp"], ".bmp"),
    (["image/webp"], ".webp"), (["text/plain"], ".txt"), (["application/json"], ".json")]
    (toAsciiLowercase (trim mediaType))

/-- `append_inbound_attachment_media_extension`. -/
def appendInboundAttachmentMediaExtension (name mediaType : String) : String :=
  if (ServerHost.fileExtension name).isSome then name
  else name ++ (inboundMediaTypeExtension mediaType).getD ""

/-- `base_path.join(name)` of a file's name. -/
def joinPath (basePath name : String) : String := basePath ++ "/" ++ name

/-- `unique_inbound_attachment_path`: one of the numbered names is free, as there are
more of them than files. -/
def uniqueInboundAttachmentPath (files : List String) (basePath name : String) : ServerM String := do
  let candidate := joinPath basePath name
  if !files.contains candidate then return candidate
  let stem := ((Host.fileStem name).filter fun value => !value.isEmpty).getD "attachment"
  let suffix := ((ServerHost.fileExtension name).map fun value => "." ++ value).getD ""
  let numbered := (List.range (files.length + 1)).map fun index =>
    joinPath basePath (stem ++ "_" ++ toString (index + 1) ++ suffix)
  match numbered.find? fun path => !files.contains path with
  | some path => return path
  | none => return joinPath basePath (stem ++ "_" ++ (← newEventId) ++ suffix)

/-- The name and the media type an attachment is stored under. -/
def inboundAttachmentName (attachment : TopicAttachment) : ServerM (String × String) := do
  let category := normalizedInboundAttachmentCategory attachment.category
  let rawName ←
    if (trim attachment.name).isEmpty then do
      let id ← newEventId
      pure (category ++ "-" ++ id ++ ".bin")
    else pure attachment.name
  let safeName := sanitizeAttachmentFilename rawName
  let mediaType :=
    ((normalizeOptionalText attachment.mediaType).or
      (if category = "image" then inferInboundImageMediaType attachment.data else none)).getD
      (guessInboundAttachmentMediaType safeName category)
  return (appendInboundAttachmentMediaExtension safeName mediaType, mediaType)

/-- One round of the loop of `store_inbound_topic_attachments`. -/
def storeInboundTopicAttachment (topicId : String) (stored : List ChatAttachmentRecord)
    (attachment : TopicAttachment) : ServerM (List ChatAttachmentRecord) := do
  if attachment.data.isEmpty then return stored
  let category := normalizedInboundAttachmentCategory attachment.category
  let (safeName, mediaType) ← inboundAttachmentName attachment
  let targetPath ←
    uniqueInboundAttachmentPath (← state).files (ServerHost.attachmentStoragePath category) safeName
  update fun s => { s with files := s.files ++ [targetPath] }
  let now ← unixNowMs
  let record ← insertFileAttachmentRow {
    fileId := 0
    name := safeName
    path := targetPath
    category
    size := attachment.data.length
    mediaType := some mediaType
    topicId := normalizeTopicId topicId
    createdTsMs := now
    updatedTsMs := now }
  return stored ++ [⟨record.fileId, record.category, record.name, record.size, record.mediaType⟩]

/-- `store_inbound_topic_attachments`. -/
def storeInboundTopicAttachments (topicId : String) (attachments : List TopicAttachment) :
    ServerM (List ChatAttachmentRecord) := do
  if attachments.isEmpty || (← state).sqlite.isNone then return []
  attachments.foldlM (storeInboundTopicAttachment topicId) []

end
end TelemetryHub
