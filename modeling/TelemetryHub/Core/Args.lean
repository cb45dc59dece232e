import TelemetryHub.Core.State

/-!
# Argument readers

How a handler reads one field of `command.args`, and the normalisations every
identifier and every enumeration goes through.
-/

namespace TelemetryHub

/-! ## Identifiers -/

/-- `normalize_hash`. -/
def normalizeHash (value : String) : Option String :=
  let text := toAsciiLowercase (trim value)
  if text.isEmpty then none else some text

/-- `normalize_topic_id`. -/
def normalizeTopicId (value : String) : Option String :=
  let text := trim value
  if text.isEmpty then none
  else match Uuid.parseStr text with
    | some u => some u.simple
    | none => some text

/-- `normalize_subscriber_node_id`. -/
def normalizeSubscriberNodeId (value : String) : Option String :=
  let text := trim value
  if text.isEmpty then none
  else if text.toList.length = 32 ∧ text.toList.all isAsciiHexdigit then some (toAsciiLowercase text)
  else some text

/-- `normalize_subscriber_topic_id`. -/
def normalizeSubscriberTopicId (value : String) : Option String :=
  let text := trim value
  if text.isEmpty then some "" else normalizeTopicId text

/-- `required_non_empty`. -/
def requiredNonEmpty (value fieldName : String) : Except RchCoreError String :=
  let value := trim value
  if value.isEmpty then invalidPayload (fieldName ++ " is required") else .ok value

/-- `normalize_required_identity`. -/
def normalizeRequiredIdentity (value : Option String) (fieldName : String) :
    Except RchCoreError String :=
  let text := toAsciiLowercase (trim (value.getD ""))
  if text.isEmpty then invalidPayload (fieldName ++ " is required") else .ok text

/-- `normalize_roster_nickname`. -/
def normalizeRosterNickname (value : String) : Except RchCoreError String := do
  let value ← requiredNonEmpty value "nickname"
  if value.toList.length > 32 then invalidPayload "nickname cannot exceed 32 characters"
  else if !(value.toList.all fun c => c.isAlphanum || c == '_' || c == '-' || c == '.') then
    invalidPayload "nickname may contain only letters, numbers, underscore, dash, or dot"
  else return value

/-- `normalize_rem_mode`. -/
def normalizeRemMode (value : String) : Except RchCoreError String :=
  let mode := toAsciiLowercase (trim value)
  if mode ∈ ["autonomous", "semi_autonomous", "connected"] then .ok mode
  else invalidPayload "mode must be one of: autonomous, semi_autonomous, connected"

/-- `normalize_subject_type`. -/
def normalizeSubjectType (value : String) : Except RchCoreError String :=
  let subjectType := toAsciiLowercase (trim value)
  if subjectType ∈ ["identity", "team_member"] then .ok subjectType
  else invalidPayload "subject_type must be one of: identity, team_member"

/-- `normalize_subject_id`. -/
def normalizeSubjectId (subjectType subjectId : String) : Except RchCoreError String := do
  let subjectId ← requiredNonEmpty subjectId "subject_id"
  return if subjectType = "identity" then toAsciiLowercase subjectId else subjectId

/-- `normalize_scope_type`. -/
def normalizeScopeType (value : String) : Except RchCoreError String :=
  let scopeType := toAsciiLowercase (trim value)
  if scopeType ∈ ["", "global"] then .ok "global"
  else if scopeType = "mission" then .ok scopeType
  else invalidPayload "scope_type must be one of: global, mission"

/-- `normalize_scope_id`. -/
def normalizeScopeId (scopeType scopeId : String) : String :=
  if scopeType = "global" then "" else trim scopeId

/-- `dedupe_non_empty`. -/
def dedupeNonEmpty (values : List String) : List String :=
  values.foldl (fun acc value =>
    let value := trim value
    if value.isEmpty || acc.contains value then acc else acc ++ [value]) []

/-! ## Enumerations -/

/-- `normalize_enum`. -/
def normalizeEnum (value fieldName : String) (allowedValues : List String) :
    Except RchCoreError String :=
  let value := toAsciiUppercase (trim value)
  if value.isEmpty then .ok ""
  else if value ∈ allowedValues then .ok value
  else invalidPayload (fieldName ++ " must be one of: " ++ joinWith ", " allowedValues)

/-- `normalize_mission_role`. -/
def normalizeMissionRole (value fieldName : String) : Except RchCoreError String :=
  normalizeEnum value fieldName
    ["MISSION_OWNER", "MISSION_SUBSCRIBER", "MISSION_READONLY_SUBSCRIBER", "FIELD_OPERATOR",
      "TEAM_LEAD", "INCIDENT_COMMANDER", "LOGISTICS_RESOURCE_MANAGER", "COMMUNICATIONS_OPERATOR",
      "SYSTEM_ADMIN"]

/-- `normalize_mission_status`. -/
def normalizeMissionStatus (value : Option String) : Except RchCoreError String :=
  normalizeEnum (value.getD "MISSION_ACTIVE") "mission_status"
    ["MISSION_ACTIVE", "MISSION_PENDING", "MISSION_DELETED", "MISSION_COMPLETED_SUCCESS",
      "MISSION_COMPLETED_FAILED"]

/-- `normalize_team_color`. -/
def normalizeTeamColor (value : String) : Except RchCoreError String :=
  normalizeEnum value "color"
    ["YELLOW", "RED", "BLUE", "ORANGE", "MAGENTA", "MAROON", "PURPLE", "DARK_BLUE", "CYAN", "TEAL",
      "GREEN", "DARK_GREEN", "BROWN"]

/-- `normalize_team_role`. -/
def normalizeTeamRole (value : String) : Except RchCoreError String :=
  normalizeEnum value "role"
    ["TEAM_MEMBER", "TEAM_LEAD", "FIELD_OPERATOR", "INCIDENT_COMMANDER",
      "LOGISTICS_RESOURCE_MANAGER", "COMMUNICATIONS_OPERATOR", "SYSTEM_ADMIN", "HQ", "SNIPER",
      "MEDIC", "FORWARD_OBSERVER", "RTO", "K9"]

/-- `normalize_asset_status`. -/
def normalizeAssetStatus (value : String) : Except RchCoreError String :=
  normalizeEnum value "status" ["AVAILABLE", "IN_USE", "LOST", "MAINTENANCE", "RETIRED"]

/-- `normalize_task_status`. -/
def normalizeTaskStatus (value : String) : Except RchCoreError String :=
  normalizeEnum value "status" ["PENDING", "COMPLETE", "COMPLETE_LATE", "LATE"]

/-- `normalize_checklist_mode`. -/
def normalizeChecklistMode (value : String) : Except RchCoreError String :=
  normalizeEnum value "mode" ["ONLINE", "OFFLINE"]

/-- `normalize_checklist_sync_state`. -/
def normalizeChecklistSyncState (value : String) : Except RchCoreError String :=
  normalizeEnum value "sync_state" ["LOCAL_ONLY", "UPLOAD_PENDING", "SYNCED"]

/-- `normalize_checklist_origin`. -/
def normalizeChecklistOrigin (value : String) : Except RchCoreError String :=
  normalizeEnum value "origin_type" ["BLANK_TEMPLATE", "RCH_TEMPLATE", "CSV_IMPORT"]

/-- `normalize_checklist_column_type`. -/
def normalizeChecklistColumnType (value : String) : Except RchCoreError String :=
  normalizeEnum value "column_type" ["SHORT_STRING", "LONG_STRING", "RELATIVE_TIME", "CHECKBOX"]

/-- `normalize_checklist_user_status`. -/
def normalizeChecklistUserStatus (value : String) : Except RchCoreError String :=
  normalizeEnum value "user_status" ["PENDING", "COMPLETE"]

/-- `normalize_mission_change_type`. -/
def normalizeMissionChangeType (value : Option String) : Except RchCoreError String :=
  normalizeEnum (value.getD "ADD_CONTENT") "change_type"
    ["CREATE_MISSION", "DELETE_MISSION", "ADD_CONTENT", "REMOVE_CONTENT", "CREATE_DATA_FEED",
      "DELETE_DATA_FEED", "MAP_LAYER", "SITREP_IMPORTED"]

/-- `normalize_eam_status`. -/
def normalizeEamStatus (value : Option String) : Except RchCoreError String :=
  let status := toAsciiLowercase (trim (value.getD "Unknown"))
  if status ∈ ["", "unknown"] then .ok "Unknown"
  else if status = "green" then .ok "Green"
  else if status = "yellow" then .ok "Yellow"
  else if status = "red" then .ok "Red"
  else invalidPayload "status must be one of: Green, Red, Unknown, Yellow"

/-- `normalize_skill_level`. -/
def normalizeSkillLevel (value : Int) (fieldName : String) : Except RchCoreError Int :=
  if 0 ≤ value ∧ value ≤ 10 then .ok value
  else invalidPayload (fieldName ++ " must be between 0 and 10")

/-! ## Fields of `args` -/

section Readers

variable [Host]

/-- The first of `keys` whose value is a text, a number or a boolean. -/
def findText (args : Value) (keys : List String) : Option String :=
  args.asObject.bind fun _ => keys.findSome? fun key => (args.get key).bind valueAsStr

/-- `optional_text_or_empty`. -/
def optionalTextOrEmpty (args : Value) (keys : List String) : Option String :=
  (findText args keys).map trim

/-- `optional_text`. -/
def optionalText (args : Value) (keys : List String) : Option String :=
  (optionalTextOrEmpty args keys).filter fun value => !value.isEmpty

/-- `required_text`. -/
def requiredText (args : Value) (keys : List String) : Except RchCoreError String :=
  match (optionalText args keys).filter fun value => !(trim value).isEmpty with
  | some value => .ok value
  | none => invalidPayload (keys.headD "" ++ " is required")

/-- `optional_value_text`. -/
def optionalValueText (args : Value) (key : String) : Option String :=
  ((args.get key).bind valueAsStr).map trim

omit [Host] in
/-- `optional_bool`. -/
def optionalBool (args : Value) (key : String) : Option Bool :=
  (args.get key).bind fun value =>
    value.asBool.or (value.asStr.map fun text => text ∈ ["true", "1", "yes"])

/-- A field read as `read`, absent when missing or null. -/
def optionalNumber {α : Type} (read : Value → Option α) (args : Value) (key problem : String) :
    Except RchCoreError (Option α) :=
  match args.get key with
  | none => .ok none
  | some value =>
    if value.isNull then .ok none
    else match read value with
      | some x => .ok (some x)
      | none => invalidPayload (key ++ problem)

omit [Host] in
/-- `optional_i64`. -/
def optionalI64 (args : Value) (key : String) : Except RchCoreError (Option Int) :=
  optionalNumber valueAsI64 args key " must be an integer"

/-- `optional_f64`. -/
def optionalF64 (args : Value) (key : String) : Except RchCoreError (Option Float) :=
  optionalNumber valueAsF64 args key " must be numeric"

/-- `required_f64`. -/
def requiredF64 (args : Value) (key : String) : Except RchCoreError Float :=
  match args.asObject with
  | none => invalidPayload (key ++ " is required")
  | some _ =>
    match (args.get key).bind valueAsF64 with
    | some x => .ok x
    | none => invalidPayload (key ++ " is required and must be numeric")

/-- `optional_timestamp_ms`. -/
def optionalTimestampMs (args : Value) (keys : List String) : Except RchCoreError (Option Int) :=
  match keys.findSome? args.get with
  | none => .ok none
  | some value =>
    if value.isNull then .ok none
    else match valueAsI64 value with
      | some timestamp => .ok (some (if timestamp < 10000000000 then i64 (timestamp * 1000) else timestamp))
      | none =>
        match value.asStr with
        | none => invalidPayload "timestamp must be RFC3339 or Unix time"
        | some text =>
          match Host.parseRfc3339 text with
          | some seconds => .ok (some (i64 (seconds * 1000)))
          | none => invalidPayload "timestamp must be RFC3339"

/-- One item of `string_list`. -/
def stringListItem (fieldName : String) (item : Value) : Except RchCoreError String :=
  match ((valueAsStr item).map trim).filter fun value => !value.isEmpty with
  | some value => .ok value
  | none => invalidPayload (fieldName ++ " must contain strings")

/-- `string_list`. -/
def stringList (value : Option Value) (fieldName : String) : Except RchCoreError (List String) :=
  match value with
  | none | some .null => .ok []
  | some (.array items) => items.mapM (stringListItem fieldName)
  | some (.string text) => .ok (((splitOnChar ',' text).map trim).filter fun item => !item.isEmpty)
  | some (.bool _) | some (.number _) | some (.object _) =>
    invalidPayload (fieldName ++ " must be a list of strings")

end Readers
end TelemetryHub
