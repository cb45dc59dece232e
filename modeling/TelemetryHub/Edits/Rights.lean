import TelemetryHub.Core.Logic
import TelemetryHub.Core.Normal
import TelemetryHub.Core.Rights

/-!
# What the rights commands and methods write

Grants, rights and mission roles are stored under the fields that say whose they
are.
-/

namespace TelemetryHub

open Lib CoreM

/-- The key of a mission role. -/
def MissionAccessAssignment.key (record : MissionAccessAssignment) : String × String × String :=
  (record.missionUid, record.subjectType, record.subjectId)

/-- The key of a right. -/
def SubjectOperationRight.key (record : SubjectOperationRight) :
    String × String × String × String × String :=
  (record.subjectType, record.subjectId, record.operation, record.scopeType, record.scopeId)

/-- One write of a grant, a right or a role. -/
inductive RightsEdit (core : RchCore) : RchCore → Prop
  | assign (key : String × String × String) (record : MissionAccessAssignment)
      (keyed : record.key = key) :
      RightsEdit core { core with
        missionAccessAssignments := core.missionAccessAssignments.insert key record }
  | unassign (key : String × String × String) :
      RightsEdit core { core with missionAccessAssignments := core.missionAccessAssignments.remove key }
  | right (key : String × String × String × String × String) (record : SubjectOperationRight)
      (keyed : record.key = key) :
      RightsEdit core { core with
        subjectOperationRights := core.subjectOperationRights.insert key record }
  | capabilities (identity : String) (held : HSet String)
      (normal : normalizeHash identity = some identity) (nonempty : held.toList ≠ []) :
      RightsEdit core { core with
        identityCapabilities := core.identityCapabilities.insert identity held }
  | noCapabilities (identity : String) :
      RightsEdit core { core with identityCapabilities := core.identityCapabilities.remove identity }
  | authorization (required : Bool) :
      RightsEdit core { core with authorizationRequired := required }

section

variable {drawn : String → Prop} {clean : Prop} {core₀ : RchCore}

theorem setAuthorizationRequired_spec (required : Bool) :
    Spec drawn (setAuthorizationRequired required) core₀ (Proc.Outcome clean RightsEdit core₀) := by
  unfold setAuthorizationRequired
  exact Spec.lastWrite (.ok (.single (.authorization _)) trivial)

theorem grantIdentityCapability_spec (identity capability : String) :
    Spec drawn (grantIdentityCapability identity capability) core₀
      (Proc.Outcome clean RightsEdit core₀) := by
  unfold grantIdentityCapability
  cases hid : normalizeHash identity with
  | none => exact .answer
  | some id =>
    refine Spec.lastWrite (.ok (.single (.capabilities _ _ (normalizeHash_normal hid) ?_)) trivial)
    exact List.ne_nil_of_mem (HSet.mem_def.1 (HSet.mem_insert.2 (.inl rfl)))

theorem revokeIdentityCapability_spec (identity capability : String) :
    Spec drawn (revokeIdentityCapability identity capability) core₀
      (Proc.Outcome clean RightsEdit core₀) := by
  unfold revokeIdentityCapability
  cases hid : normalizeHash identity with
  | none => exact .answer
  | some id =>
    refine Spec.read ?_
    cases hget : core₀.identityCapabilities.get id with
    | none => exact .answer
    | some held =>
      refine Spec.write (Proc.Spec.done (.single ?_))
      split
      · exact .noCapabilities _
      · rename_i hkept
        exact .capabilities _ _ (normalizeHash_normal hid) (by simpa using hkept)

theorem upsertOperationRight_spec (subjectType subjectId operation scopeType scopeId : String)
    (granted : Bool) :
    Spec drawn (upsertOperationRight subjectType subjectId operation scopeType scopeId granted) core₀
      (Proc.Outcome clean RightsEdit core₀) := by
  unfold upsertOperationRight
  refine Proc.Spec.checked fun subjectType _ => ?_
  refine Proc.Spec.checked fun subjectId _ => ?_
  refine Proc.Spec.checked fun operation _ => ?_
  refine Proc.Spec.checked fun scopeType _ => ?_
  refine Spec.read ?_
  refine Spec.drawUnless fun grantUid _ => ?_
  exact Spec.write (Proc.Spec.done (.single (.right _ _ rfl)))

/-- The role is stored under the normal forms of the subject. -/
theorem assignMissionAccessRole_spec (missionUid subjectType subjectId role : String) :
    Spec drawn (assignMissionAccessRole missionUid subjectType subjectId role) core₀
      (Proc.Yields clean RightsEdit (fun _ core' => ∀ uid type id,
        requiredNonEmpty missionUid "mission_uid" = .ok uid →
        normalizeSubjectType subjectType = .ok type → normalizeSubjectId type subjectId = .ok id →
        ∃ record, core'.missionAccessAssignments.get (uid, type, id) = some record) core₀) := by
  unfold assignMissionAccessRole
  refine Proc.Spec.checked fun uid huid => ?_
  refine Proc.Spec.checked fun type htype => ?_
  refine Proc.Spec.checked fun id hid => ?_
  refine Proc.Spec.checked fun role _ => ?_
  refine Spec.lastWrite (.ok (.single (.assign _ _ rfl)) ?_)
  intro uid' type' id' huid' htype' hid'
  obtain rfl := Except.ok.inj (huid.symm.trans huid')
  obtain rfl := Except.ok.inj (htype.symm.trans htype')
  obtain rfl := Except.ok.inj (hid.symm.trans hid')
  exact ⟨_, Dict.get_insert_self _ _ _⟩

theorem subjectFromArgs_normal [Host] {args : Value} {subject : String × String}
    (h : subjectFromArgs args = .ok subject) : normalizeSubjectType subject.1 = .ok subject.1 ∧
      normalizeSubjectId subject.1 subject.2 = .ok subject.2 := by
  obtain ⟨text, -, h⟩ := bind_eq_ok.1 h
  obtain ⟨subjectType, htype, h⟩ := bind_eq_ok.1 h
  obtain ⟨text', -, h⟩ := bind_eq_ok.1 h
  obtain ⟨subjectId, hid, h⟩ := bind_eq_ok.1 h
  rw [← Except.ok.inj h]
  exact ⟨normalizeSubjectType_normal htype, normalizeSubjectId_normal hid⟩

theorem assignMissionAccessFromArgs_spec [Host] (args : Value) :
    Spec drawn (assignMissionAccessFromArgs args) core₀ (Proc.Outcome clean RightsEdit core₀) := by
  unfold assignMissionAccessFromArgs
  refine Proc.Spec.checked fun missionUid hmission => ?_
  refine Spec.read ?_
  refine Proc.Spec.guarded fun _ => ?_
  refine Proc.Spec.checked fun subject hsubject => ?_
  obtain ⟨htype, hid⟩ := subjectFromArgs_normal hsubject
  obtain ⟨subjectType, subjectId⟩ := subject
  dsimp only at htype hid ⊢
  refine Spec.read ?_
  refine Proc.Spec.guarded fun _ => ?_
  refine Spec.read ?_
  refine Proc.Spec.follow (assignMissionAccessRole_spec _ _ _ _) fun _ core' hsteps hstored => ?_
  refine Spec.read ?_
  obtain ⟨record, hrecord⟩ := hstored missionUid subjectType subjectId
    (requiredNonEmpty_of_trimmed (requiredText_trimmed hmission)) htype hid
  rw [hrecord]
  exact .done hsteps

theorem applyRegistryRightsCommand_spec [Host] (command : MissionCommandEnvelope) :
    Spec drawn (applyRegistryRightsCommand command) core₀
      (Proc.Outcome clean RightsEdit core₀) := by
  unfold applyRegistryRightsCommand
  dsimp only
  split
  · exact Spec.read .answer
  · exact .finish (assignMissionAccessFromArgs_spec _) fun _ _ _ => .finished
  · exact Spec.read .answer
  · refine Proc.Spec.checked fun missionUid _ => ?_
    refine Proc.Spec.checked fun subject _ => ?_
    refine Spec.read ?_
    exact Spec.write (Proc.Spec.done (.single (.unassign _)))
  · exact .failed

end
end TelemetryHub
