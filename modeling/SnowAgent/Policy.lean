import SnowAgent.ServiceNow
import SnowAgent.Text

/-! # The write policy

The parts of the policy configuration the write handlers consult: which tools are
enabled in which environment, the board a Story tool is bound to, and the fields a
tool may write.  A board without allowed sprints is unrestricted, which turns the
environment and production gates off.
-/
namespace SnowAgent

open Text

inductive EnvironmentLabelSource where
  | explicitConfig
  | snowEnv
  | default
deriving DecidableEq

/-- `McpEnvironment`. -/
structure McpEnvironment where
  label : String
  labelSource : EnvironmentLabelSource
deriving DecidableEq

/-- `has_explicit_label_source`. -/
def McpEnvironment.hasExplicitLabelSource (environment : McpEnvironment) : Bool :=
  environment.labelSource ≠ .default

/-- The board a Story tool may write to. -/
structure BoardBinding where
  instanceHost : String
  boardSysId : String
  storyTable : String
  taskTable : String
  assignmentGroup : String
  allowedTaskAssignmentGroups : List String
  allowedSprints : List String
  allowProduction : Bool
  allowedStoryStates : List String
  allowedTaskStates : List String
  allowedPriorities : List String
deriving DecidableEq

structure ToolPolicy where
  enabled : Bool
  fieldAllowlist : List String
  environments : List String
  maxTargets : Option Nat
  skipTerminalRecords : Bool
  storyBoardId : Option String
deriving DecidableEq

structure PolicyConfig where
  idempotencyWindowSeconds : Nat
  productionHosts : List String
  boards : StringMap BoardBinding
  tools : StringMap ToolPolicy
deriving DecidableEq

inductive BoardPolicyError where
  | missingToolPolicy (tool : String)
  | missingStoryBoardId (tool : String)
  | unknownBoard (tool boardId : String)
  | implicitEnvironmentLabel (tool environment : String)
  | productionBoardNotAllowed (tool boardId : String)
  | productionToolEnvironmentNotAllowed (tool boardId : String)
  | toolEnvironmentNotAllowed (tool environment : String)
deriving DecidableEq

/-- The text of a policy error. -/
def BoardPolicyError.message : BoardPolicyError → String
  | .missingToolPolicy tool =>
    "tool policy is missing for governed Story board tool " ++ tool
  | .missingStoryBoardId tool =>
    "tool policy for governed Story board tool " ++ tool ++ " is missing story_board_id"
  | .unknownBoard tool boardId =>
    "tool policy for " ++ tool ++ " references unknown board " ++ boardId
  | .implicitEnvironmentLabel tool _ =>
    "Story apply tool " ++ tool ++ " requires an explicit environment label source"
  | .productionBoardNotAllowed tool boardId =>
    "board " ++ boardId ++ " does not allow production for Story apply tool " ++ tool
  | .productionToolEnvironmentNotAllowed tool boardId =>
    "tool policy for " ++ tool ++ " does not allow production environment on board " ++ boardId
  | .toolEnvironmentNotAllowed tool environment =>
    "tool policy for " ++ tool ++ " does not allow environment " ++ environment

/-! ## Tools -/

/-- `STORY_PLAN_TOOL_NAMES`. -/
def storyPlanToolNames : List String :=
  ["story_plan_create", "story_plan_update", "story_task_plan_create", "story_task_plan_update"]

/-- `STORY_APPLY_TOOL_NAMES`. -/
def storyApplyToolNames : List String :=
  ["story_apply_create", "story_apply_update", "story_task_apply_create", "story_task_apply_update"]

/-- `is_story_apply_tool`. -/
def isStoryApplyTool (tool : String) : Bool := storyApplyToolNames.contains tool

/-- `is_story_board_tool`. -/
def isStoryBoardTool (tool : String) : Bool :=
  storyPlanToolNames.contains tool || isStoryApplyTool tool

/-- `is_write_tool`. -/
def isWriteTool (tool : String) : Bool :=
  contains tool "_apply_" || contains tool "_submit_" ||
    ["catalog_submit_request", "work_note_apply_add", "knowledge_apply_create_draft",
      "attachment_upload", "approval_approve", "approval_reject", "plan_cancel"].contains tool

/-- `is_timecard_apply_tool`. -/
def isTimecardApplyTool (tool : String) : Bool := tool = "timecard_apply_set_hours"

/-- `is_production_environment`. -/
def isProductionEnvironment (environment : String) : Bool :=
  ["prod", "prd", "production"].any (eqIgnoreAsciiCase environment)

/-- `normalize_instance_hostname`. -/
def normalizeInstanceHostname (input : String) : Option String :=
  let value := toAsciiLowercase (trim input)
  if value = "" then none
  else
    let value :=
      ((stripPrefix value "https://").orElse fun _ => stripPrefix value "http://").getD value
    let host := trimEndMatches (trim (before value ['/', '?', '#'])) '.'
    if host = "" ∨ contains host "@" then none
    else
      let host := trim (before host [':'])
      if host = "" then none else some host

namespace PolicyConfig

variable (policy : PolicyConfig)

/-- `tool_enabled_in_environment`. -/
def toolEnabledInEnvironment (tool environment : String) : Bool :=
  match policy.tools.get tool with
  | none => !isWriteTool tool
  | some toolPolicy =>
    toolPolicy.enabled &&
      if isWriteTool tool then toolPolicy.environments.contains environment
      else toolPolicy.environments.isEmpty || toolPolicy.environments.contains environment

/-- `resolve_tool_board_binding`. -/
def resolveToolBoardBinding (tool : String) : Except BoardPolicyError (Option BoardBinding) :=
  if isStoryBoardTool tool then
    match policy.tools.get tool with
    | none => .error (.missingToolPolicy tool)
    | some toolPolicy =>
      match toolPolicy.storyBoardId with
      | none => .error (.missingStoryBoardId tool)
      | some boardId =>
        match policy.boards.get boardId with
        | none => .error (.unknownBoard tool boardId)
        | some binding => .ok (some binding)
  else .ok none

/-- `is_story_production_context`. -/
def isStoryProductionContext (environment : McpEnvironment) (binding : BoardBinding) : Bool :=
  isProductionEnvironment environment.label ||
    match normalizeInstanceHostname binding.instanceHost with
    | none => false
    | some host => policy.productionHosts.contains host

/-- `validate_story_production_gate`. -/
def validateStoryProductionGate (tool : String) (binding : BoardBinding) :
    Except BoardPolicyError Unit :=
  if !isStoryApplyTool tool then .ok ()
  else if !binding.allowProduction then
    .error (.productionBoardNotAllowed tool binding.boardSysId)
  else
    match policy.tools.get tool with
    | none => .error (.missingToolPolicy tool)
    | some toolPolicy =>
      if toolPolicy.environments.any isProductionEnvironment then .ok ()
      else .error (.productionToolEnvironmentNotAllowed tool binding.boardSysId)

/-- `validate_story_board_policy`. -/
def validateStoryBoardPolicy (tool : String) (environment : McpEnvironment) :
    Except BoardPolicyError (Option BoardBinding) :=
  match policy.resolveToolBoardBinding tool with
  | .error err => .error err
  | .ok none => .ok none
  | .ok (some binding) =>
    let unrestricted := binding.allowedSprints.isEmpty
    if !unrestricted && isStoryApplyTool tool && !environment.hasExplicitLabelSource then
      .error (.implicitEnvironmentLabel tool environment.label)
    else if !unrestricted && policy.isStoryProductionContext environment binding then
      match policy.validateStoryProductionGate tool binding with
      | .error err => .error err
      | .ok () => .ok (some binding)
    else .ok (some binding)

/-- `validate_timecard_policy`. -/
def validateTimecardPolicy (tool : String) (environment : McpEnvironment) :
    Except BoardPolicyError Unit :=
  if !isTimecardApplyTool tool then .ok ()
  else if !environment.hasExplicitLabelSource then
    .error (.implicitEnvironmentLabel tool environment.label)
  else
    match policy.tools.get tool with
    | none => .error (.missingToolPolicy tool)
    | some toolPolicy =>
      if !toolPolicy.environments.isEmpty && !toolPolicy.environments.contains environment.label
      then .error (.toolEnvironmentNotAllowed tool environment.label)
      else if isProductionEnvironment environment.label &&
          !toolPolicy.environments.any isProductionEnvironment then
        .error (.productionToolEnvironmentNotAllowed tool "timecard")
      else .ok ()

end PolicyConfig

/-! ## Field allowlists -/

/-- What `STORY_APPLY_CREATE_FIELDS` and `STORY_APPLY_UPDATE_FIELDS` share at the start,
before the create list's `backlog_type`. -/
def storyFieldsBefore : List String :=
  ["short_description", "description", "acceptance_criteria", "cmdb_ci", "u_story_owner"]

/-- What they share after it. -/
def storyFieldsAfter : List String :=
  ["sprint", "assignment_group", "parent", "vendor", "team", "release_scrum", "state",
    "u_impacted_users", "u_release_notes", "u_lead_dev", "u_division", "u_region", "u_location",
    "u_type", "u_moscow", "classification", "due_date", "u_desired_delivery_date", "product",
    "release", "project", "theme", "priority", "epic", "story_points", "u_points_est",
    "assigned_to"]

/-- The allowlist a write tool has in `default_tools`. -/
def defaultFieldAllowlist : String → List String
  | "story_apply_create" => storyFieldsBefore ++ "backlog_type" :: storyFieldsAfter
  | "story_apply_update" => storyFieldsBefore ++ storyFieldsAfter ++ ["percent_complete"]
  | "story_task_apply_create" =>
    ["short_description", "description", "assigned_to", "priority", "due_date", "state",
      "planned_hours", "actual_hours"]
  | "story_task_apply_update" =>
    ["short_description", "description", "assigned_to", "priority", "due_date", "state",
      "planned_hours", "actual_hours", "remaining_hours", "percent_complete"]
  | "change_request_apply_create" =>
    ["short_description", "description", "type", "category", "contact_type",
      "assignment_group", "assigned_to", "cmdb_ci", "start_date", "end_date",
      "implementation_plan", "change_plan", "backout_plan", "test_plan", "risk", "impact",
      "justification", "requested_by", "requested_by_date", "u_subcategory", "u_division",
      "u_does_this_change_need_cmdb_update", "work_notes"]
  | "change_request_apply_update" =>
    ["short_description", "description", "type", "category", "assignment_group",
      "assigned_to", "cmdb_ci", "start_date", "end_date", "implementation_plan",
      "change_plan", "backout_plan", "test_plan", "risk", "impact", "justification",
      "requested_by", "requested_by_date", "u_subcategory", "u_division",
      "u_does_this_change_need_cmdb_update", "state", "work_notes"]
  | "change_task_apply_create" | "change_task_apply_update" =>
    ["change_request", "short_description", "description", "assignment_group", "assigned_to",
      "cmdb_ci", "change_task_type", "planned_start_date", "planned_end_date", "due_date",
      "u_primary_tester", "start_date", "end_date", "state", "work_notes"]
  | "incident_apply_update" =>
    ["assigned_to", "assignment_group", "state", "work_notes", "comments"]
  | _ => []

/-- `field_allowlist_for_apply_tool`. -/
def fieldAllowlistForApplyTool (policy : PolicyConfig) (applyTool : String) : List String :=
  match policy.tools.get applyTool with
  | some toolPolicy => toolPolicy.fieldAllowlist
  | none => defaultFieldAllowlist applyTool

end SnowAgent
