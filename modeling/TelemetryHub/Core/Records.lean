import TelemetryHub.Json

/-!
# Records

The rows of the hub's registry, field by field as the core crate declares them.
-/

namespace TelemetryHub

/-- `RchCoreError`. -/
inductive RchCoreError where
  | delivery (text : String)
  | invalidPayload (text : String)
  | forbidden (text : String)
  | topicNotFound
  | missionNotFound
  | teamNotFound
  | teamMemberNotFound
  | assetNotFound
  | skillNotFound
  | assignmentNotFound
  | eamNotFound
  | unsupportedCommand (commandType : String)
  | encode (text : String)
  | decode (text : String)
  | sqlite (text : String)
  deriving DecidableEq

/-- `RchCoreError::reason_code`. -/
def RchCoreError.reasonCode : RchCoreError → String
  | delivery _ | invalidPayload _ => "invalid_payload"
  | forbidden _ => "forbidden"
  | topicNotFound | missionNotFound | teamNotFound | teamMemberNotFound | assetNotFound
  | skillNotFound | assignmentNotFound | eamNotFound => "not_found"
  | unsupportedCommand _ => "unknown_command"
  | encode _ | decode _ | sqlite _ => "internal_error"

/-- The `Display` text of an error. -/
def RchCoreError.text : RchCoreError → String
  | delivery t => "delivery contract violation: " ++ t
  | invalidPayload t => "invalid command payload: " ++ t
  | forbidden t => "forbidden: " ++ t
  | topicNotFound => "topic not found"
  | missionNotFound => "mission not found"
  | teamNotFound => "team not found"
  | teamMemberNotFound => "team member not found"
  | assetNotFound => "asset not found"
  | skillNotFound => "skill not found"
  | assignmentNotFound => "assignment not found"
  | eamNotFound => "emergency action message not found"
  | unsupportedCommand t => "unsupported command: " ++ t
  | encode t => "RCH state encode failed: " ++ t
  | decode t => "RCH state decode failed: " ++ t
  | sqlite t => "sqlite operation failed: " ++ t

inductive RetentionPolicy where
  | ephemeral
  | persistent
  deriving DecidableEq

inductive Visibility where
  | isPublic
  | restricted
  deriving DecidableEq

inductive DeliveryMode where
  | targeted
  | fanout
  | broadcast
  deriving DecidableEq

structure TopicRecord where
  topicId : String
  topicName : String
  topicPath : String
  topicDescription : String
  retention : RetentionPolicy
  visibility : Visibility
  createdTsMs : Int
  lastActivityTsMs : Int
  deriving DecidableEq

structure SubscriberRecord where
  nodeId : String
  topicId : String
  firstSeenTsMs : Int
  lastSeenTsMs : Int
  rejectTests : Option Int
  metadata : Value

structure ChatAttachmentRecord where
  fileId : Nat
  category : String
  name : String
  size : Nat
  mediaType : Option String
  deriving DecidableEq

structure MessageRecord where
  messageId : String
  topicId : Option String
  destination : Option String
  sender : String
  content : String
  deliveryMode : DeliveryMode
  deliveryMethod : String
  deliveryPolicyReason : String
  deliveryState : String
  deliveryMetadata : Value
  createdTsMs : Int
  attachments : List ChatAttachmentRecord

structure ClientRecord where
  identity : String
  firstSeenTsMs : Int
  lastSeenTsMs : Int
  nickname : Option String
  role : String
  paused : Bool
  textOnly : Bool
  lastChatTsMs : Option Int
  deriving DecidableEq

structure IdentityAnnounceRecord where
  destinationHash : String
  announcedIdentityHash : Option String
  displayName : Option String
  sourceInterface : Option String
  announceCapabilities : List String
  clientType : String
  firstSeenTsMs : Int
  lastSeenTsMs : Int
  deriving DecidableEq

structure IdentityStateRecord where
  identity : String
  isBanned : Bool
  isBlackholed : Bool
  updatedTsMs : Int
  deriving DecidableEq

structure IdentityRemModeRecord where
  identity : String
  mode : String
  updatedTsMs : Int
  deriving DecidableEq

structure MissionAuditEvent where
  eventId : String
  eventType : String
  commandType : String
  commandId : String
  sourceIdentity : String
  timestampMs : Int
  payload : Value

structure SystemEventRecord where
  eventId : String
  eventType : String
  message : String
  timestampMs : Int
  metadata : Value

structure TelemetryRecord where
  peerDestination : String
  timestampS : Int
  telemetry : Value
  displayName : Option String
  identityLabel : Option String

structure MarkerRecord where
  localId : String
  objectDestinationHash : String
  originRch : String
  markerType : String
  symbol : String
  name : String
  category : String
  lat : Float
  lon : Float
  notes : Option String
  createdTsMs : Int
  updatedTsMs : Int

/-- A vertex, over any scalar; the hub's are floats. -/
structure ZonePoint (F : Type) where
  lat : F
  lon : F

abbrev ZonePointRecord := ZonePoint Float

structure ZoneRecord where
  zoneId : String
  name : String
  points : List ZonePointRecord
  createdTsMs : Int
  updatedTsMs : Int

structure MissionRecord where
  uid : String
  missionName : String
  description : String
  topicId : Option String
  path : Option String
  classification : Option String
  tool : Option String
  keywords : List String
  parentUid : Option String
  feeds : List String
  passwordHash : Option String
  defaultRole : Option String
  missionPriority : Option Int
  missionStatus : String
  ownerRole : Option String
  token : Option String
  inviteOnly : Bool
  expiration : Option String
  missionRdeRole : Option String
  createdTsMs : Int
  updatedTsMs : Int
  deriving DecidableEq

structure MissionChangeRecord where
  uid : String
  missionUid : String
  name : Option String
  teamMemberRnsIdentity : Option String
  timestampMs : Int
  notes : Option String
  changeType : String
  isFederatedChange : Bool
  hashes : List String
  delta : Value

structure LogEntryRecord where
  entryUid : String
  missionUid : String
  callsign : Option String
  content : String
  serverTimeMs : Int
  clientTime : Option String
  contentHashes : List String
  keywords : List String
  createdTsMs : Int
  updatedTsMs : Int
  deriving DecidableEq

structure FileAttachmentRecord where
  fileId : Nat
  name : String
  path : String
  category : String
  size : Nat
  mediaType : Option String
  topicId : Option String
  createdTsMs : Int
  updatedTsMs : Int
  deriving DecidableEq

structure EamSnapshotRecord where
  eamUid : String
  callsign : String
  groupName : Option String
  teamMemberUid : String
  teamUid : String
  reportedBy : Option String
  reportedTsMs : Int
  overallStatus : String
  securityStatus : String
  capabilityStatus : String
  preparednessStatus : String
  medicalStatus : String
  mobilityStatus : String
  commsStatus : String
  notes : Option String
  confidence : Option Float
  ttlSeconds : Option Int
  source : Option Value
  updatedTsMs : Int
  deletedTsMs : Option Int

structure TeamRecord where
  uid : String
  missionUid : Option String
  missionUids : List String
  color : Option String
  teamName : String
  teamDescription : String
  createdTsMs : Int
  updatedTsMs : Int
  deriving DecidableEq

structure TeamMemberRecord where
  uid : String
  teamUid : Option String
  rnsIdentity : String
  displayName : String
  icon : Option String
  role : Option String
  callsign : Option String
  freq : Option Float
  email : Option String
  phone : Option String
  modulation : Option String
  availability : Option String
  certifications : List String
  lastActive : Option String
  clientIdentities : List String
  createdTsMs : Int
  updatedTsMs : Int

structure AssetRecord where
  assetUid : String
  teamMemberUid : Option String
  name : String
  assetType : String
  serialNumber : Option String
  status : String
  location : Option String
  notes : Option String
  createdTsMs : Int
  updatedTsMs : Int
  deriving DecidableEq

structure SkillRecord where
  skillUid : String
  name : String
  category : Option String
  description : Option String
  proficiencyScale : Option String
  createdTsMs : Int
  updatedTsMs : Int
  deriving DecidableEq

structure TeamMemberSkillRecord where
  uid : String
  teamMemberRnsIdentity : String
  skillUid : String
  level : Int
  validatedBy : Option String
  validatedAt : Option String
  expiresAt : Option String
  deriving DecidableEq

structure TaskSkillRequirementRecord where
  uid : String
  taskUid : String
  skillUid : String
  minimumLevel : Int
  isMandatory : Bool
  deriving DecidableEq

structure AssignmentRecord where
  assignmentUid : String
  missionUid : String
  taskUid : String
  teamMemberRnsIdentity : String
  assignedBy : Option String
  assignedTsMs : Int
  dueDtg : Option String
  status : String
  notes : Option String
  assets : List String
  deriving DecidableEq

structure ChecklistRecord where
  uid : String
  missionUid : Option String
  templateUid : Option String
  templateVersion : Option Int
  templateName : Option String
  name : String
  description : String
  startTsMs : Int
  mode : String
  syncState : String
  originType : String
  checklistStatus : String
  createdByTeamMemberRnsIdentity : String
  createdTsMs : Int
  updatedTsMs : Int
  uploadedTsMs : Option Int
  progressPercent : Float
  pendingCount : Int
  lateCount : Int
  completeCount : Int

structure ChecklistColumnRecord where
  columnUid : String
  checklistUid : Option String
  templateUid : Option String
  columnName : String
  displayOrder : Int
  columnType : String
  columnEditable : Bool
  backgroundColor : Option String
  textColor : Option String
  isRemovable : Bool
  systemKey : Option String
  createdTsMs : Int
  updatedTsMs : Int
  deriving DecidableEq

structure ChecklistTemplateRecord where
  uid : String
  templateName : String
  description : String
  createdByTeamMemberRnsIdentity : String
  sourceTemplateUid : Option String
  serverOnly : Bool
  createdTsMs : Int
  updatedTsMs : Int
  deriving DecidableEq

structure ChecklistTaskRecord where
  taskUid : String
  checklistUid : String
  number : Int
  userStatus : String
  taskStatus : String
  isLate : Bool
  customStatus : Option String
  dueRelativeMinutes : Option Int
  dueTsMs : Option Int
  notes : Option String
  rowBackgroundColor : Option String
  lineBreakEnabled : Bool
  completedTsMs : Option Int
  completedByTeamMemberRnsIdentity : Option String
  legacyValue : Option String
  createdTsMs : Int
  updatedTsMs : Int
  deriving DecidableEq

structure ChecklistCellRecord where
  cellUid : String
  taskUid : String
  columnUid : String
  value : Option String
  updatedTsMs : Int
  updatedByTeamMemberRnsIdentity : Option String
  deriving DecidableEq

structure ChecklistFeedPublicationRecord where
  publicationUid : String
  checklistUid : String
  missionFeedUid : String
  publishedTsMs : Int
  publishedByTeamMemberRnsIdentity : String
  deriving DecidableEq

structure IdentityCapabilityGrant where
  identity : String
  capability : String
  deriving DecidableEq

structure MissionAccessAssignment where
  missionUid : String
  subjectType : String
  subjectId : String
  role : String
  deriving DecidableEq

structure SubjectOperationRight where
  grantUid : String
  subjectType : String
  subjectId : String
  operation : String
  scopeType : String
  scopeId : String
  granted : Bool
  deriving DecidableEq

/-! ## Envelopes -/

structure RchSource where
  rnsIdentity : String
  displayName : Option String
  deriving DecidableEq

structure MissionCommandEnvelope where
  commandId : String
  source : RchSource
  timestamp : String
  commandType : String
  args : Value
  correlationId : Option String
  topics : List String

inductive CommandResultStatus where
  | accepted
  | rejected
  | completed
  deriving DecidableEq

structure CommandResultEnvelope where
  commandId : String
  status : CommandResultStatus
  detail : Option String
  reasonCode : Option String
  reason : Option String
  requiredCapabilities : List String
  acceptedAt : Option String
  byIdentity : Option String
  correlationId : Option String
  result : Value

structure EventEnvelope where
  eventId : Option String
  source : Option RchSource
  timestamp : Option String
  eventType : String
  commandId : Option String
  correlationId : Option String
  topics : List String
  payload : Value

structure RchCommandOutcome where
  result : CommandResultEnvelope
  event : Option EventEnvelope

/-- `MissionSyncResponse`: its text and the results and event fields of its map. -/
structure MissionSyncResponse where
  content : String
  results : CommandResultEnvelope
  event : Option Value

end TelemetryHub
