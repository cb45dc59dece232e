import TelemetryHub.Core.Normal
import TelemetryHub.Core.Eam

/-!
# The vocabularies

The values that the enumerated fields of the records may have, by the normalizers that read
them. A blank text is in no vocabulary and passes `normalize_enum` as it is.
-/

namespace TelemetryHub

open Lib

/-- The values of `normalize_checklist_mode`, `normalize_checklist_sync_state`,
`normalize_checklist_origin`, `normalize_task_status` and `normalize_checklist_user_status`. -/
def checklistModes : List String := ["ONLINE", "OFFLINE"]
def checklistSyncStates : List String := ["LOCAL_ONLY", "UPLOAD_PENDING", "SYNCED"]
def checklistOrigins : List String := ["BLANK_TEMPLATE", "RCH_TEMPLATE", "CSV_IMPORT"]
def taskStatuses : List String := ["PENDING", "COMPLETE", "COMPLETE_LATE", "LATE"]
def userStatuses : List String := ["PENDING", "COMPLETE"]

/-- The values of `normalize_team_color`, `normalize_asset_status`, `normalize_eam_status` and
`normalize_mission_change_type`. -/
def teamColors : List String :=
  ["YELLOW", "RED", "BLUE", "ORANGE", "MAGENTA", "MAROON", "PURPLE", "DARK_BLUE", "CYAN", "TEAL", "GREEN", "DARK_GREEN",
    "BROWN"]
def assetStatuses : List String := ["AVAILABLE", "IN_USE", "LOST", "MAINTENANCE", "RETIRED"]
def eamStatuses : List String := ["Unknown", "Green", "Yellow", "Red"]
def missionChangeTypes : List String :=
  ["CREATE_MISSION", "DELETE_MISSION", "ADD_CONTENT", "REMOVE_CONTENT", "CREATE_DATA_FEED", "DELETE_DATA_FEED", "MAP_LAYER",
    "SITREP_IMPORTED"]

/-- A text that is not blank is kept where it is in the vocabulary. -/
theorem normalizeEnum_known {value fieldName s : String} {allowedValues : List String}
    (read : normalizeEnum value fieldName allowedValues = .ok s) (nonblank : (trim value).isEmpty = false) :
    s ∈ allowedValues := by
  refine (normalizeEnum_member read).resolve_right fun ⟨blank, _⟩ => ?_
  rw [nonblank] at blank
  exact absurd blank nofun

theorem optionalText_nonblank [Host] {args : Value} {keys : List String} {default : String}
    (nonblank : (trim default).isEmpty = false) : (trim ((optionalText args keys).getD default)).isEmpty = false := by
  cases given : optionalText args keys with
  | none => exact nonblank
  | some text =>
    obtain ⟨trimmed, nonempty⟩ := optionalText_trimmed given
    rw [Option.getD_some, trimmed, nonempty]

/-- The colour of a canonical team. -/
theorem canonicalTeamColorForUid_known {teamUid color : String} (canonical : canonicalTeamColorForUid teamUid = some color) :
    color ∈ teamColors := by
  have known : ∀ team ∈ canonicalTeams, team.2 ∈ teamColors := by decide
  obtain ⟨front, back, split, -⟩ := List.lookup_eq_some_iff.1 canonical
  exact known (teamUid, color) (by rw [split]; exact List.mem_append_right _ List.mem_cons_self)

theorem canonicalTeamForUid_known {teamUid : String} {team : String × String} (canonical : canonicalTeamForUid teamUid = some team) :
    team.2 ∈ teamColors := by
  obtain ⟨color, named, rfl⟩ := Option.map_eq_some_iff.1 canonical
  exact canonicalTeamColorForUid_known named

theorem canonicalTeamFromTeamArgs_known [Host] {args : Value} {requestedUid : Option String} {team : String × String}
    (canonical : canonicalTeamFromTeamArgs args requestedUid = some team) : team.2 ∈ teamColors := by
  unfold canonicalTeamFromTeamArgs at canonical
  split at canonical
  · exact canonicalTeamForUid_known canonical
  · dsimp only at canonical
    obtain ⟨field, -, found⟩ := List.exists_of_findSome?_eq_some canonical
    split at found
    · exact nomatch found
    · obtain ⟨uid, -, canonical⟩ := Option.bind_eq_some_iff.1 found
      exact canonicalTeamForUid_known canonical

theorem normalizeEamStatus_known {value : Option String} {status : String} (read : normalizeEamStatus value = .ok status) :
    status ∈ eamStatuses := by
  have known : "Unknown" ∈ eamStatuses ∧ "Green" ∈ eamStatuses ∧ "Yellow" ∈ eamStatuses ∧ "Red" ∈ eamStatuses := by decide
  obtain ⟨unknown, green, yellow, red⟩ := known
  unfold normalizeEamStatus at read
  dsimp only at read
  split at read
  · exact Except.ok.inj read ▸ unknown
  split at read
  · exact Except.ok.inj read ▸ green
  split at read
  · exact Except.ok.inj read ▸ yellow
  split at read
  · exact Except.ok.inj read ▸ red
  · exact nomatch read

/-- The worst of the statuses. -/
theorem aggregateEamStatus_known (statuses : EamStatuses) : aggregateEamStatus statuses ∈ eamStatuses := by
  have known : "Unknown" ∈ eamStatuses ∧ "Green" ∈ eamStatuses ∧ "Yellow" ∈ eamStatuses ∧ "Red" ∈ eamStatuses := by decide
  obtain ⟨unknown, green, yellow, red⟩ := known
  unfold aggregateEamStatus
  dsimp only
  split
  · exact red
  split
  · exact yellow
  split
  · exact green
  · exact unknown

/-- A colour in the arguments is of the vocabulary or unset. -/
theorem teamColor_known {color : String} {read : Option String} (h : (normalizeTeamColor color).map noneIfEmpty = .ok read) :
    ∀ color, read = some color → color ∈ teamColors := by
  rintro color' rfl
  cases normal : normalizeTeamColor color with
  | error e =>
    rw [normal] at h
    exact nomatch h
  | ok text =>
    rw [normal] at h
    have kept : noneIfEmpty text = some color' := Except.ok.inj h
    unfold noneIfEmpty at kept
    split at kept
    · exact nomatch kept
    · rename_i nonempty
      rw [← Option.some.inj kept]
      refine (normalizeEnum_member normal).resolve_right fun ⟨_, unset⟩ => ?_
      rw [unset] at nonempty
      exact nonempty (by decide)

end TelemetryHub
