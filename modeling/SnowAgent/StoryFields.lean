import SnowAgent.StoryScope

/-! # Field governance of Story writes

Which fields a Story plan may set, and the values it may give them.  Every field is
checked against a deny list and the tool's allowlist; `priority`, `state`,
`backlog_type` and `epic` are also checked for their values, against the board's
own lists or else against ServiceNow's dictionary.
-/
namespace SnowAgent

open Json Text

/-! ## State choices -/

namespace Story

structure StateChoice where
  value : String
  label : String
  terminal : Bool
deriving DecidableEq

/-- `StateChoice::allowed_spec`: `value=label`, or one text for both. -/
def StateChoice.allowedSpec (spec : String) : StateChoice :=
  match splitOnce spec '=' with
  | none => ⟨spec, spec, false⟩
  | some (value, label) => ⟨trim value, trim label, false⟩

def StateChoice.toJson (choice : StateChoice) : Value :=
  obj [("value", .string choice.value), ("label", .string choice.label),
    ("terminal", .bool choice.terminal)]

/-- `is_cancel_state`. -/
def isCancelState (value : String) : Bool := contains (toAsciiLowercase value) "cancel"

/-- `state_choice_write_allowed`. -/
def stateChoiceWriteAllowed (choice : StateChoice) : Bool :=
  !isCancelState choice.value && !isCancelState choice.label

inductive StateChoiceMatch where
  | raw (value : String)
  | label (label value : String)
deriving DecidableEq

/-- `normalize_state_label`. -/
def normalizeStateLabel (value : String) : String :=
  toAsciiLowercase (" ".intercalate (splitWhitespace value))

/-- `match_state_label_alias`: "in progress" stands for the one choice that says so. -/
def matchStateLabelAlias (supplied : String) (choices : List StateChoice) :
    Option StateChoiceMatch :=
  if normalizeStateLabel supplied ≠ "in progress" then none
  else
    let found := choices.filter fun choice =>
      stateChoiceWriteAllowed choice &&
        ["work in progress", "dev in progress"].contains (normalizeStateLabel choice.label)
    match found with
    | [] => none
    | first :: rest =>
      if rest.any fun choice => !eqIgnoreAsciiCase (trim choice.value) (trim first.value) then none
      else some (.label first.label first.value)

/-- How one choice matches a supplied text. -/
def matchStateChoice (supplied : String) (choice : StateChoice) : Option StateChoiceMatch :=
  if !stateChoiceWriteAllowed choice then none
  else if eqIgnoreAsciiCase (trim choice.value) supplied then some (.raw choice.value)
  else if eqIgnoreAsciiCase (trim choice.label) supplied then
    some (.label choice.label choice.value)
  else none

/-- `match_cached_state_choice`. -/
def matchCachedStateChoice (supplied : String) (choices : List StateChoice) :
    Option StateChoiceMatch :=
  let supplied := trim supplied
  (choices.findSome? (matchStateChoice supplied)).orElse fun _ =>
    matchStateLabelAlias supplied choices

inductive StateResolution where
  | omitted
  | resolved (value : String)
  | mapped (label value : String)
  | required (candidates : List StateChoice) (operatorNote : String)
  | fieldRejected (field reason original : String)
deriving DecidableEq

/-- `resolve_state_from_cached_choices`. -/
def resolveStateFromCachedChoices (supplied : Option String) (currentStateTerminal : Bool)
    (choices : List StateChoice) : StateResolution :=
  match (supplied.map trim).filter (· ≠ "") with
  | none => .omitted
  | some supplied =>
    match matchCachedStateChoice supplied choices with
    | some (.raw value) => .resolved value
    | some (.label label value) => .mapped label value
    | none =>
      if currentStateTerminal then
        .required (choices.filter stateChoiceWriteAllowed)
          "caller-supplied state did not map and prior record state is terminal"
      else .fieldRejected "state" "value_not_in_enum" supplied

end Story

namespace StoryWrite

open Story

/-- `receipt_warning`. -/
def receiptWarning (code : String) (field : Option String) (message : String)
    (data : Option Value) : ReceiptWarning := ⟨code, field, message, data⟩

/-- `apply_tool_for_plan_tool`. -/
def applyToolForPlanTool (tool : String) : String :=
  match tool with
  | "story_plan_create" => "story_apply_create"
  | "story_plan_update" => "story_apply_update"
  | "story_task_plan_create" => "story_task_apply_create"
  | "story_task_plan_update" => "story_task_apply_update"
  | other => other

/-- `inject`: sets a field of an object. -/
def inject (payload : Value) (field : String) (v : Value) : Value :=
  match payload with
  | .object fields => .object (insert field v fields)
  | payload => payload

/-! ## Deny lists and allowlists -/

inductive FieldGovernanceMode where
  | planInput
  | writePayload
deriving DecidableEq

/-- `metadata_fields`. -/
def metadataFields : List String := ["actor", "requester", "client", "session_id", "user_agent"]

/-- `plan_selector_fields`. -/
def planSelectorFields (tool : String) : List String :=
  match tool with
  | "story_plan_update" | "story_task_plan_update" => ["number"]
  | "story_task_plan_create" => ["parent_story_number"]
  | _ => []

/-- `story_tool_accepts_form_fields`. -/
def storyToolAcceptsFormFields (tool : String) : Bool :=
  ["story_plan_create", "story_plan_update", "story_apply_create",
    "story_apply_update"].contains tool

/-- `blocked_system_fields_for_story_tool`. -/
def blockedSystemFieldsForStoryTool (tool : String) : List String :=
  ["sys_id", "sys_class_name", "sys_created_on", "sys_created_by", "sys_updated_on",
    "sys_updated_by", "sys_mod_count", "approval", "opened_by", "closed_by", "active"] ++
    if tool = "story_plan_update" ∨ tool = "story_task_plan_update" then [] else ["number"]

/-- `blocked_fields_for_tool`. -/
def blockedFieldsForTool (tool : String) : List String :=
  blockedSystemFieldsForStoryTool tool ++
    if storyToolAcceptsFormFields tool then []
    else ["parent", "cmdb_ci", "release_scrum", "team", "vendor", "assignment_group", "sprint",
      "story"]

/-- `field_governance_allows_without_policy`. -/
def fieldGovernanceAllowsWithoutPolicy (tool field : String) (mode : FieldGovernanceMode) :
    Bool :=
  match mode, tool, field with
  | .planInput, "story_task_plan_create", "assignment_group" => true
  | .writePayload, "story_task_apply_create", "assignment_group" => true
  | .writePayload, "story_task_apply_create", "story" => true
  | .writePayload, "story_apply_create", "active" => true
  | _, _, _ => false

/-- Whether a field is on the deny list. -/
def fieldBlocked (tool : String) (mode : FieldGovernanceMode) (field : String) : Bool :=
  !fieldGovernanceAllowsWithoutPolicy tool field mode && (blockedFieldsForTool tool).contains field

/-- Whether a field that is not on the deny list is missing from the allowlist. -/
def fieldUnlisted (tool : String) (policy : PolicyConfig) (mode : FieldGovernanceMode)
    (field : String) : Bool :=
  !metadataFields.contains field && !fieldGovernanceAllowsWithoutPolicy tool field mode &&
    !(mode = .planInput && (planSelectorFields tool).contains field) &&
    !(fieldAllowlistForApplyTool policy (applyToolForPlanTool tool)).contains field

/-- `field_governance_rejections`: the denied fields, then the unlisted ones. -/
def fieldGovernanceRejections (tool : String) (args : List (String × Value))
    (policy : PolicyConfig) (mode : FieldGovernanceMode) : List Value :=
  let keys := args.map Prod.fst
  ((keys.filter (fieldBlocked tool mode)).map (fieldReason · "blocked_deny_list")) ++
    (keys.filter fun field => !fieldBlocked tool mode field &&
      fieldUnlisted tool policy mode field).map (fieldReason · "not_in_allowlist")

/-! ## Constrained values -/

/-- A part of a plan's validation. -/
abbrev Building (A : Type) := ExceptT PlanBuildError (Program SnowReads) A

/-- A read whose failure is an upstream error. -/
def upstream {A : Type} (p : Program SnowReads (Except String A)) : Building A :=
  ExceptT.mk do
    match ← p with
    | .error text => return .error (.upstream text)
    | .ok a => return .ok a

/-- A check that reads nothing. -/
def checking {A : Type} (result : Except PlanBuildError A) : Building A := ExceptT.mk (pure result)

inductive ChoiceValidation where
  | matched (value : String)
  | constrained
  | unmapped
deriving DecidableEq

/-- Whether a choice cancels. -/
def cancelChoice (choice : FieldChoice) : Bool :=
  isCancelState choice.label || isCancelState choice.value

/-- Whether a text names a choice, by value or by label. -/
def namesChoice (text : String) (choice : FieldChoice) : Bool :=
  eqIgnoreAsciiCase choice.value text || eqIgnoreAsciiCase choice.label text

/-- `match_choice_validation`. -/
def matchChoiceValidation (supplied : String) (choices : List FieldChoice)
    (rejectCancelValues : Bool) : ChoiceValidation :=
  match choices.find? (namesChoice supplied) with
  | none => .unmapped
  | some choice =>
    if rejectCancelValues && cancelChoice choice then .constrained else .matched choice.value

/-- `dictionary_choice_is_constrained`. -/
def dictionaryChoiceIsConstrained (table field supplied allowed : String) : Building Bool := do
  let choices ← upstream (SnowRead.getFieldChoices table field)
  return choices.any fun choice =>
    (namesChoice supplied choice || namesChoice allowed choice) && cancelChoice choice

/-- `normalize_choice_value`. -/
def normalizeChoiceValue (supplied : String) (cachedAllowed : List String)
    (table field : String) (rejectCancelValues : Bool) : Building ChoiceValidation := do
  if cachedAllowed.isEmpty then
    let choices ← upstream (SnowRead.getFieldChoices table field)
    return matchChoiceValidation supplied choices rejectCancelValues
  match cachedAllowed.find? fun allowed => eqIgnoreAsciiCase allowed supplied with
  | none => return .unmapped
  | some allowed =>
    if rejectCancelValues && isCancelState allowed then return .constrained
    if rejectCancelValues then
      if ← dictionaryChoiceIsConstrained table field supplied allowed then return .constrained
    return .matched allowed

/-- `is_terminal_choice`. -/
def isTerminalChoice (value : String) : Bool :=
  ["closed", "complete", "completed", "cancel", "cancelled", "resolved"].any
    (contains (toAsciiLowercase value))

/-- `state_choices_for_validation`. -/
def stateChoicesForValidation (cachedAllowed : List String) (table : String) :
    Building (List StateChoice) := do
  let terminal (value label : String) := isTerminalChoice value || isTerminalChoice label
  if cachedAllowed.isEmpty then
    let choices ← upstream (SnowRead.getFieldChoices table "state")
    return choices.map fun choice =>
      ⟨choice.value, choice.label, choice.terminal || terminal choice.value choice.label⟩
  return cachedAllowed.map fun spec =>
    let choice := StateChoice.allowedSpec spec
    { choice with terminal := terminal choice.value choice.label }

/-- `choice_is_terminal`. -/
def choiceIsTerminal (value : String) (choices : List StateChoice) : Bool :=
  choices.any fun choice => choice.terminal && eqIgnoreAsciiCase choice.value value

/-- `record_state_value`. -/
def recordStateValue (record : SnowRecord) : Option String :=
  (((record.fields.get "state").map FieldValue.value).filter fun value => trim value ≠ "").orElse
    fun _ => (some record.state).filter fun value => trim value ≠ ""

/-- `STORY_BACKLOG_TYPE_FIELD`. -/
def storyBacklogTypeField : String := "backlog_type"

/-- `STORY_BACKLOG_TYPE_PRODUCT`. -/
def storyBacklogTypeProduct : String := "product"

/-- `validate_story_create_backlog_type`: the payload, and the rejected fields. -/
def validateStoryCreateBacklogType (payload : Value) : Value × List Value :=
  match payload.get storyBacklogTypeField with
  | none => (payload, [])
  | some value =>
    match value.asStr with
    | none => (payload, [fieldReason storyBacklogTypeField "type_mismatch"])
    | some text =>
      if eqIgnoreAsciiCase (trim text) storyBacklogTypeProduct then
        (inject payload storyBacklogTypeField (.string storyBacklogTypeProduct), [])
      else (payload, [fieldReason storyBacklogTypeField "value_not_in_enum"])

/-- `epic_exists`. -/
def epicExists (epicSysId : String) : Building Bool := do
  let rows ← upstream <| SnowRead.execute
    { table := "rm_epic", filters := [.equals "sys_id" epicSysId], fields := ["sys_id"], limit := 1 }
  return !rows.isEmpty

/-- The check of `priority`: the payload, the rejected fields and the warnings. -/
def validatePriority (payload : Value) (binding : BoardBinding) (table : String) :
    Building (Value × List Value × List ReceiptWarning) := do
  match (payload.get "priority").bind Value.asStr with
  | none => return (payload, [], [])
  | some priority =>
    if isCancelState priority then
      return (payload, [fieldReason "priority" "value_constrained"], [])
    match ← normalizeChoiceValue priority binding.allowedPriorities table "priority" true with
    | .matched value => return (inject payload "priority" (.string value), [], [])
    | .constrained => return (payload, [fieldReason "priority" "value_constrained"], [])
    | .unmapped =>
      return (payload, [], [receiptWarning "PRIORITY_VALUE_UNMAPPED" (some "priority")
        "Value not found in cached or dictionary-derived priority allowlist; passed to ServiceNow without translation."
        none])

/-- The check of `state`: the payload and the rejected fields. -/
def validateState (tool : String) (payload : Value) (binding : BoardBinding) (table : String)
    (currentRecord : Option SnowRecord) : Building (Value × List Value) := do
  match (payload.get "state").bind Value.asStr with
  | none => return (payload, [])
  | some supplied =>
    let allowed :=
      if contains tool "task" then binding.allowedTaskStates else binding.allowedStoryStates
    let choices ← stateChoicesForValidation allowed table
    let terminal :=
      ((currentRecord.bind recordStateValue).map (choiceIsTerminal · choices)).getD false
    match resolveStateFromCachedChoices (some supplied) terminal choices with
    | .resolved value | .mapped _ value => return (inject payload "state" (.string value), [])
    | .required candidates operatorNote =>
      throw (.stateRequired (obj [("code", .string "STATE_REQUIRED"),
        ("field", .string "state"), ("candidates", ofList StateChoice.toJson candidates),
        ("operator_note", .string operatorNote)]))
    | .fieldRejected field reason _ => return (payload, [fieldReason field reason])
    | .omitted => return (payload, [])

/-- The check of `epic`: the rejected fields. -/
def validateEpic (payload : Value) : Building (List Value) := do
  match (payload.get "epic").bind Value.asStr with
  | none => return []
  | some epic =>
    if isSysId epic then
      if ← epicExists epic then return []
    return [fieldReason "epic" "value_not_in_enum"]

/-- `validate_constrained_fields`: the payload with the values normalised, and warnings. -/
def validateConstrainedFields (tool : String) (payload : Value) (binding : BoardBinding)
    (currentRecord : Option SnowRecord) : Building (Value × List ReceiptWarning) := do
  let table := tableForStoryTool tool binding
  let (payload, backlogFields) :=
    if tool = "story_plan_create" ∨ tool = "story_apply_create" then
      validateStoryCreateBacklogType payload
    else (payload, [])
  let (payload, priorityFields, warnings) ← validatePriority payload binding table
  let (payload, stateFields) ← validateState tool payload binding table currentRecord
  let epicFields ← validateEpic payload
  let fields := backlogFields ++ priorityFields ++ stateFields ++ epicFields
  if fields.isEmpty then return (payload, warnings) else throw (.fieldRejected fields)

/-- `enforce_apply_field_governance`. -/
def enforceApplyFieldGovernance (tool : String) (plan : OperationPlan) (binding : BoardBinding)
    (policy : PolicyConfig) (currentRecord : Option SnowRecord) : Building Unit := do
  match plan.plannedChanges.asObject with
  | none => throw (.invalid "planned_changes")
  | some payload =>
    let fields := fieldGovernanceRejections tool payload policy .writePayload
    if !fields.isEmpty then throw (.fieldRejected fields)
    let _ ← validateConstrainedFields tool plan.plannedChanges binding currentRecord

/-- `require_string`. -/
def requireString (args : List (String × Value)) (field : String) : Except PlanBuildError Unit :=
  match (lookup field args).bind Value.asStr with
  | some value => if trim value ≠ "" then .ok () else .error (.invalid field)
  | none => .error (.invalid field)

end StoryWrite

end SnowAgent
