import SnowAgent.PlanStore
import SnowAgent.Policy

/-! # The board scope of a Story write

A board binding names the assignment group and the sprints that writes are
confined to.  A snapshot is taken of a planned payload or of a fetched record, and
`story_in_scope` says whether it lies on the board; a Story Task is judged by its
parent Story.  A binding without allowed sprints confines nothing.
-/
namespace SnowAgent

open Json Text

/-! ## Failures -/

inductive InScopeFailure where
  | notActive
  | wrongAssignmentGroup (expected observed : String)
  | missingSprint
  | sprintNotAllowed (observed : String) (allowed : List String)
  | taskParentStoryMismatch (expected observed : String)
  | taskParentOutOfScope (cause : InScopeFailure)
deriving DecidableEq

namespace InScopeFailure

/-- `clause().as_str()`. -/
def clause : InScopeFailure → String
  | notActive => "active_false"
  | wrongAssignmentGroup _ _ => "assignment_group_mismatch"
  | missingSprint => "sprint_out_of_allowed"
  | sprintNotAllowed _ _ => "sprint_out_of_allowed"
  | taskParentStoryMismatch _ _ => "task_parent_story_mismatch"
  | taskParentOutOfScope _ => "task_parent_out_of_scope"

/-- The message of a failed guard. -/
def message : InScopeFailure → String
  | notActive => "Story is inactive"
  | wrongAssignmentGroup _ observed =>
    "Story assignment_group '" ++ observed ++ "' does not match BoardBinding.assignment_group"
  | missingSprint =>
    "Story has no sprint and cannot be proven inside BoardBinding.allowed_sprints"
  | sprintNotAllowed observed _ =>
    "Story sprint '" ++ observed ++ "' is not in BoardBinding.allowed_sprints"
  | taskParentStoryMismatch expected observed =>
    "Story Task parent '" ++ observed ++ "' does not match fetched Story '" ++ expected ++ "'"
  | taskParentOutOfScope cause =>
    "Story Task parent Story failed board scope guard: " ++ cause.clause

/-- What a failed guard expected. -/
def expected : InScopeFailure → Option Value
  | wrongAssignmentGroup expected _ => some (.string expected)
  | sprintNotAllowed _ allowed => some (strings allowed)
  | taskParentStoryMismatch expected _ => some (.string expected)
  | notActive | missingSprint | taskParentOutOfScope _ => none

/-- What a failed guard saw. -/
def observed : InScopeFailure → Option String
  | notActive => some "false"
  | wrongAssignmentGroup _ observed => some observed
  | sprintNotAllowed observed _ => some observed
  | taskParentStoryMismatch _ observed => some observed
  | missingSprint | taskParentOutOfScope _ => none

/-- `to_guard_failed_data`, as JSON: what is none is left out. -/
def toGuardFailedData (failure : InScopeFailure) : Value :=
  obj ([("code", .string "GUARD_FAILED"), ("clause", .string failure.clause),
      ("message", .string failure.message)] ++
    (failure.expected.map fun v => ("expected", v)).toList ++
    (failure.observed.map fun s => ("observed", Value.string s)).toList)

end InScopeFailure

/-- Why a plan cannot be built. -/
inductive PlanBuildError where
  | invalid (field : String)
  | fieldRejected (fields : List Value)
  | guardFailed (failure : InScopeFailure)
  | stateRequired (data : Value)
  | notFound (message : String)
  | upstream (text : String)

/-- A rejected field and the reason. -/
def fieldReason (field reason : String) : Value :=
  obj [("field", .string field), ("reason", .string reason)]

/-! ## Snapshots -/

namespace Story

/-- `equal_sys_id`. -/
def equalSysId (a b : String) : Bool := eqIgnoreAsciiCase (trim a) (trim b)

/-- Whether a character is an ASCII hexadecimal digit. -/
def isHexDigit (c : Char) : Bool := c.isDigit || ('a' ≤ lowerChar c && lowerChar c ≤ 'f')

/-- `is_sys_id`. -/
def isSysId (value : String) : Bool :=
  let cs := trimChars value.toList
  cs.length == 32 && cs.all isHexDigit

/-- `parse_boolish`. -/
def parseBoolish (value : String) : Option Bool :=
  let text := toAsciiLowercase (trim value)
  if ["true", "1", "yes", "y"].contains text then some true
  else if ["false", "0", "no", "n"].contains text then some false
  else none

/-- `field_value_from_json`. -/
def fieldValueFromJson (value : Value) (field : String) : Option Value :=
  ((value.get field).orElse fun _ => (value.get "fields").bind fun fields => fields.get field).orElse
    fun _ => (value.get "references").bind fun references => references.get field

/-- `string_from_reference_value`. -/
def stringFromReferenceValue : Value → Option String
  | .string value => some value
  | .object fields =>
    ((lookup "sys_id" fields).bind Value.asStr).orElse fun _ =>
      (lookup "value" fields).bind Value.asStr
  | _ => none

/-- `reference_sys_id_from_json` of the domain module. -/
def snapshotReference (value : Value) (field : String) : Option String :=
  (fieldValueFromJson value field).bind stringFromReferenceValue

mutual

/-- `parse_boolish_value`. -/
def parseBoolishValue : Value → Option Bool
  | .bool b => some b
  | .string s => parseBoolish s
  | .number n => (parseI64 n.text).map fun i => i != 0
  | .object fields =>
    (parseBoolishEntry "value" fields).orElse fun _ => parseBoolishEntry "display_value" fields
  | _ => none

/-- `parse_boolish_value` of the entry of a key, if it is there. -/
def parseBoolishEntry (key : String) : List (String × Value) → Option Bool
  | [] => none
  | (k, v) :: fields => if k = key then parseBoolishValue v else parseBoolishEntry key fields

end

/-- `OwnedInScopeSnapshot`. -/
structure InScopeSnapshot where
  active : Bool
  assignmentGroupSysId : String
  sprintSysId : Option String
deriving DecidableEq

/-- `in_scope_snapshot_from_json`. -/
def inScopeSnapshotFromJson (value : Value) : Option InScopeSnapshot :=
  (snapshotReference value "assignment_group").map fun group =>
    { active :=
        ((fieldValueFromJson value "active").bind parseBoolishValue).getD true
      assignmentGroupSysId := group
      sprintSysId := snapshotReference value "sprint" }

/-- The `sys_id` a record has in a reference field. -/
def recordReference (record : SnowRecord) (field : String) : Option String :=
  (record.references.get field).orElse fun _ => (record.fields.get field).map FieldValue.value

/-- `in_scope_snapshot_from_snow_record`. -/
def inScopeSnapshotFromSnowRecord (record : SnowRecord) : Option InScopeSnapshot :=
  (recordReference record "assignment_group").map fun group =>
    { active := ((record.fields.get "active").bind fun f => parseBoolish f.value).getD true
      assignmentGroupSysId := group
      sprintSysId := recordReference record "sprint" }

/-- `task_parent_sys_id_from_json`. -/
def taskParentSysIdFromJson (value : Value) : Option String :=
  ((snapshotReference value "story").orElse fun _ => snapshotReference value "parent_story").orElse
    fun _ => snapshotReference value "parent"

/-- `story_in_scope`. -/
def storyInScope (snapshot : InScopeSnapshot) (binding : BoardBinding) :
    Except InScopeFailure Unit :=
  if !snapshot.active then .error .notActive
  else if !equalSysId snapshot.assignmentGroupSysId binding.assignmentGroup then
    .error (.wrongAssignmentGroup binding.assignmentGroup snapshot.assignmentGroupSysId)
  else if binding.allowedSprints.isEmpty then .ok ()
  else
    match snapshot.sprintSysId with
    | none => .error .missingSprint
    | some sprint =>
      if binding.allowedSprints.any (equalSysId sprint) then .ok ()
      else .error (.sprintNotAllowed sprint binding.allowedSprints)

/-- `task_parent_in_scope`. -/
def taskParentInScope (parent : InScopeSnapshot) (taskParentSysId parentSysId : String)
    (binding : BoardBinding) : Except InScopeFailure Unit :=
  match storyInScope parent binding with
  | .error cause => .error (.taskParentOutOfScope cause)
  | .ok () =>
    if equalSysId taskParentSysId parentSysId then .ok ()
    else .error (.taskParentStoryMismatch parentSysId taskParentSysId)

end Story

/-! ## Scope checks of the write handlers -/

namespace StoryWrite

open Story

/-- `table_for_story_tool`. -/
def tableForStoryTool (tool : String) (binding : BoardBinding) : String :=
  if contains tool "task" then binding.taskTable else binding.storyTable

/-- `reference_sys_id_from_value`. -/
def referenceSysIdFromValue : Value → Option String
  | .string value => (some (trim value)).filter (· ≠ "")
  | .object fields =>
    ((((lookup "sys_id" fields).bind Value.asStr).orElse fun _ =>
      (lookup "value" fields).bind Value.asStr).map trim).filter (· ≠ "")
  | _ => none

/-- `reference_sys_id_from_json`. -/
def referenceSysIdFromJson (value : Value) (field : String) : Option String :=
  (value.get field).bind referenceSysIdFromValue

/-- The snapshot of a record or payload, or the failure that stands for its absence. -/
def requireSnapshot (binding : BoardBinding) (snapshot : Option InScopeSnapshot) :
    Except InScopeFailure InScopeSnapshot :=
  match snapshot with
  | some snapshot => .ok snapshot
  | none => .error (.wrongAssignmentGroup binding.assignmentGroup "")

/-- `story_create_payload_in_scope`: without a sprint, only the group and `active` count. -/
def storyCreatePayloadInScope (payload : Value) (binding : BoardBinding) :
    Except InScopeFailure Unit := do
  let snapshot ← requireSnapshot binding (inScopeSnapshotFromJson payload)
  if snapshot.sprintSysId.isSome then storyInScope snapshot binding
  else if !snapshot.active then .error .notActive
  else if !equalSysId snapshot.assignmentGroupSysId binding.assignmentGroup then
    .error (.wrongAssignmentGroup binding.assignmentGroup snapshot.assignmentGroupSysId)
  else .ok ()

/-- `story_record_in_scope`. -/
def storyRecordInScope (record : SnowRecord) (binding : BoardBinding) :
    Except InScopeFailure Unit := do
  let snapshot ← requireSnapshot binding (inScopeSnapshotFromSnowRecord record)
  storyInScope snapshot binding

/-- `task_assignment_group_allowed`. -/
def taskAssignmentGroupAllowed (observed : String) (binding : BoardBinding) : Bool :=
  equalSysId observed binding.assignmentGroup ||
    binding.allowedTaskAssignmentGroups.any (equalSysId observed)

/-- `expected_task_assignment_groups`. -/
def expectedTaskAssignmentGroups (binding : BoardBinding) : String :=
  ",".intercalate <|
    binding.allowedTaskAssignmentGroups.foldl
      (fun groups group =>
        if trim group ≠ "" ∧ ¬ groups.any (fun seen => equalSysId seen group) then groups ++ [group]
        else groups)
      [binding.assignmentGroup]

/-- `ensure_task_assignment_group_allowed`. -/
def ensureTaskAssignmentGroupAllowed (observed : String) (binding : BoardBinding) :
    Except InScopeFailure Unit :=
  if taskAssignmentGroupAllowed observed binding then .ok ()
  else .error (.wrongAssignmentGroup (expectedTaskAssignmentGroups binding) observed)

/-- `task_record_in_scope`. -/
def taskRecordInScope (task : SnowRecord) (binding : BoardBinding) :
    Except InScopeFailure Unit := do
  if !eqIgnoreAsciiCase (trim task.table) binding.taskTable then
    .error (.taskParentStoryMismatch binding.taskTable task.table)
  else
    let snapshot ← requireSnapshot binding (inScopeSnapshotFromSnowRecord task)
    ensureTaskAssignmentGroupAllowed snapshot.assignmentGroupSysId binding

/-- `enforce_task_assignment_group_payload_scope`. -/
def enforceTaskAssignmentGroupPayloadScope (payload : Value) (binding : BoardBinding) :
    Except InScopeFailure Unit :=
  match referenceSysIdFromJson payload "assignment_group" with
  | none => .ok ()
  | some group => ensureTaskAssignmentGroupAllowed group binding

/-- `story_scope_failure_field_rejections`. -/
def storyScopeFailureFieldRejections : InScopeFailure → Option (List Value)
  | .wrongAssignmentGroup expected observed =>
    some [obj [("field", .string "assignment_group"), ("reason", .string "not_in_allowlist"),
      ("expected", .string expected), ("observed", .string observed)]]
  | .missingSprint =>
    some [obj [("field", .string "sprint"), ("reason", .string "missing_no_default"),
      ("remediation", .string
        "Either populate allowed_sprints in the board binding, or supply sprint=<sys_id> in the plan input")]]
  | .sprintNotAllowed observed allowed =>
    some [obj [("field", .string "sprint"), ("reason", .string "not_in_allowlist"),
      ("allowed", strings allowed), ("observed", .string observed)]]
  | .notActive => some [fieldReason "active" "active_false"]
  | .taskParentOutOfScope cause => storyScopeFailureFieldRejections cause
  | .taskParentStoryMismatch _ _ => none

/-- Lets a plan call go on when the binding is unrestricted or the check passes. -/
def enforceScope (binding : BoardBinding) (check : Except InScopeFailure Unit) :
    Except PlanBuildError Unit :=
  if binding.allowedSprints.isEmpty then .ok ()
  else match check with
    | .ok () => .ok ()
    | .error failure => .error (.guardFailed failure)

/-- `enforce_story_payload_scope`: a failure that names a field rejects the field. -/
def enforceStoryPayloadScope (payload : Value) (binding : BoardBinding) :
    Except PlanBuildError Unit :=
  if binding.allowedSprints.isEmpty then .ok ()
  else match storyCreatePayloadInScope payload binding with
    | .ok () => .ok ()
    | .error failure =>
      match storyScopeFailureFieldRejections failure with
      | some fields => .error (.fieldRejected fields)
      | none => .error (.guardFailed failure)

/-- `enforce_story_record_scope`. -/
def enforceStoryRecordScope (record : SnowRecord) (binding : BoardBinding) :
    Except PlanBuildError Unit :=
  enforceScope binding (storyRecordInScope record binding)

/-- `enforce_task_record_scope`. -/
def enforceTaskRecordScope (task : SnowRecord) (binding : BoardBinding) :
    Except PlanBuildError Unit :=
  enforceScope binding (taskRecordInScope task binding)

/-- The snapshot of a parent Story, or the failure that stands for its absence. -/
def parentSnapshot (parent : SnowRecord) (binding : BoardBinding) :
    Except InScopeFailure InScopeSnapshot :=
  match inScopeSnapshotFromSnowRecord parent with
  | some snapshot => .ok snapshot
  | none => .error (.taskParentOutOfScope (.wrongAssignmentGroup binding.assignmentGroup ""))

/-- `enforce_task_parent_payload_scope`. -/
def enforceTaskParentPayloadScope (payload : Value) (parent : SnowRecord)
    (binding : BoardBinding) : Except PlanBuildError Unit :=
  enforceScope binding do
    let snapshot ← parentSnapshot parent binding
    taskParentInScope snapshot ((taskParentSysIdFromJson payload).getD "") parent.sysId binding

/-- `resolve_story_task_create_assignment_group`. -/
def resolveStoryTaskCreateAssignmentGroup (args : List (String × Value)) (parent : SnowRecord)
    (binding : BoardBinding) : Except PlanBuildError String :=
  match lookup "assignment_group" args with
  | some supplied =>
    match referenceSysIdFromValue supplied with
    | none => .error (.invalid "assignment_group")
    | some group =>
      match ensureTaskAssignmentGroupAllowed group binding with
      | .ok () => .ok group
      | .error failure => .error (.guardFailed failure)
  | none =>
    .ok <| (((inScopeSnapshotFromSnowRecord parent).map
      InScopeSnapshot.assignmentGroupSysId).filter
        (taskAssignmentGroupAllowed · binding)).getD binding.assignmentGroup

/-- Fetches the record a guard is about; failing to fetch it, or not finding it, fails the
guard. -/
def guardRecord (number : String) (unread missing : InScopeFailure)
    (check : SnowRecord → Except InScopeFailure Unit) :
    Program SnowReads (Except InScopeFailure Unit) := do
  match ← SnowRead.getRecordFresh number with
  | .error _ => return .error unread
  | .ok none => return .error missing
  | .ok (some record) => return check record

/-- `enforce_apply_guard`. -/
def enforceApplyGuard (tool : String) (plan : OperationPlan) (binding : BoardBinding) :
    Program SnowReads (Except InScopeFailure Unit) :=
  let mismatch (target : RecordRef) : InScopeFailure := .taskParentStoryMismatch target.sysId ""
  let wrongGroup : InScopeFailure := .wrongAssignmentGroup binding.assignmentGroup ""
  if binding.allowedSprints.isEmpty then pure (.ok ())
  else match tool, plan.target with
    | "story_apply_create", _ => pure (storyCreatePayloadInScope plan.plannedChanges binding)
    | "story_task_apply_create", none => pure (.error (.taskParentStoryMismatch "parent_story" ""))
    | "story_task_apply_create", some target =>
      guardRecord target.number (.taskParentOutOfScope .missingSprint) (mismatch target)
        fun parent => do
          let snapshot ← parentSnapshot parent binding
          taskParentInScope snapshot ((taskParentSysIdFromJson plan.plannedChanges).getD "")
            parent.sysId binding
          enforceTaskAssignmentGroupPayloadScope plan.plannedChanges binding
    | "story_apply_update", none => pure (.error wrongGroup)
    | "story_apply_update", some target =>
      guardRecord target.number wrongGroup wrongGroup (storyRecordInScope · binding)
    | "story_task_apply_update", none => pure (.error (.taskParentStoryMismatch "parent_story" ""))
    | "story_task_apply_update", some target =>
      guardRecord target.number (mismatch target) (mismatch target) (taskRecordInScope · binding)
    | _, _ => pure (.ok ())

end StoryWrite

end SnowAgent
