import SnowAgent.StoryAssignment
import SnowAgent.StoryAudit

/-! # Planning a Story write

A plan call checks the fields, fills in the defaults, and stores the plan with a
confirmation token of its own.  It also reserves a fresh idempotency key for the
apply call to come, so that the first apply of a plan finds its key pending.
-/
namespace SnowAgent

open Json Text

/-! ## Parameters -/

/-- `string_param`. -/
def stringParam (params : Value) (field : String) : Option String :=
  (((params.get field).bind Value.asStr).map trim).filter (· ≠ "")

/-- The text of a person: a string, or an object's `subject`. -/
def personFromParams (params : Value) (field : String) : Option String :=
  (params.get field).bind fun value =>
    value.asStr.orElse fun _ => (value.get "subject").bind Value.asStr

/-- `actor_from_params`. -/
def actorFromParams (params : Value) (state : DaemonState) : String :=
  (personFromParams params "actor").getD state.instanceUser

/-- `requester_from_params`. -/
def requesterFromParams (params : Value) (actor : String) : String :=
  (personFromParams params "requester").getD actor

/-- `concurrency_from_record`. -/
def concurrencyFromRecord (record : SnowRecord) : Option ConcurrencyToken :=
  (((record.fields.get "sys_updated_on").map fun f => trim f.value).filter (· ≠ "")).map
    fun sysUpdatedOn =>
      { sysUpdatedOn := sysUpdatedOn
        sysModCount := (record.fields.get "sys_mod_count").bind fun f => parseI64 (trim f.value) }

/-- `PLAN_TTL_SECONDS`. -/
def planTtlSeconds : Nat := 600

namespace StoryWrite

open Story

/-- `story_actor_from_params`. -/
def storyActorFromParams (params : Value) (state : DaemonState) : Actor :=
  match params.get "actor" with
  | some (.object fields) =>
    { subject := ((lookup "subject" fields).bind Value.asStr).getD state.instanceUser
      email := (lookup "email" fields).bind Value.asStr
      displayName := (lookup "display_name" fields).bind Value.asStr }
  | some (.string subject) => ⟨subject, none, none⟩
  | _ => ⟨state.instanceUser, none, none⟩

/-- `board_binding`; why there is none is not answered. -/
def boardBinding (tool : String) (state : DaemonState) : Option BoardBinding :=
  match state.policy.validateStoryBoardPolicy tool state.environment with
  | .ok binding => binding
  | .error _ => none

/-! ## Building a plan -/

/-- `PlanInput`, with what its builder was given. -/
structure PlanInput where
  tool : String
  target : Option RecordRef
  plannedChanges : Value
  concurrencyToken : Option ConcurrencyToken
  warnings : List ReceiptWarning

/-- `strip_non_writable_selector_fields`. -/
def stripNonWritableSelectorFields (tool : String) (args : List (String × Value)) :
    List (String × Value) :=
  (metadataFields ++ planSelectorFields tool).foldl (fun fields field => remove field fields) args

/-- The assignment group of a new Story: the board's when there is none. -/
def defaultAssignmentGroup (fields : List (String × Value)) (binding : BoardBinding) :
    Except PlanBuildError (List (String × Value)) :=
  match lookup "assignment_group" fields with
  | none => .ok (insert "assignment_group" (.string binding.assignmentGroup) fields)
  | some supplied =>
    if (referenceSysIdFromValue supplied).isSome then .ok fields
    else .error (.fieldRejected [fieldReason "assignment_group" "type_mismatch"])

/-- The sprint of a new Story: a blank one is left out. -/
def defaultSprint (fields : List (String × Value)) :
    Except PlanBuildError (List (String × Value)) :=
  match lookup "sprint" fields with
  | none => .ok fields
  | some supplied =>
    if (supplied.asStr.map trim) = some "" then .ok (remove "sprint" fields)
    else match referenceSysIdFromValue supplied with
      | none => .error (.fieldRejected [fieldReason "sprint" "type_mismatch"])
      | some sprint =>
        if isSysId sprint then .ok fields
        else .error (.fieldRejected [fieldReason "sprint" "value_not_in_enum"])

/-- `default_story_create_reference_fields`. -/
def defaultStoryCreateReferenceFields (payload : Value) (binding : BoardBinding) :
    Except PlanBuildError Value := do
  match payload with
  | .object fields =>
    let fields ← defaultAssignmentGroup fields binding
    let fields ← defaultSprint fields
    return .object fields
  | payload => return payload

/-- `default_story_create_backlog_type`: a Story without sprint and epic is a product
backlog item, if the tool may say so. -/
def defaultStoryCreateBacklogType (payload : Value) (policy : PolicyConfig) : Value :=
  match payload with
  | .object fields =>
    if !containsKey "sprint" fields && !containsKey "epic" fields &&
        (fieldAllowlistForApplyTool policy "story_apply_create").contains storyBacklogTypeField &&
        !containsKey storyBacklogTypeField fields then
      .object (insert storyBacklogTypeField (.string storyBacklogTypeProduct) fields)
    else payload
  | payload => payload

/-- `warn_missing_story_create_optional_required_fields`. -/
def warnMissingStoryCreateOptionalRequiredFields (payload : Value) : List ReceiptWarning :=
  if (referenceSysIdFromJson payload "cmdb_ci").isSome then []
  else [receiptWarning "MISSING_OPTIONAL_REQUIRED_FIELD" (some "cmdb_ci")
    "Configuration Item was not supplied; ServiceNow may reject the Story create."
    (some (obj [("field", .string "cmdb_ci")]))]

/-- Fetches a record that a plan is about. -/
def requireRecord (number missing : String) : Building SnowRecord := do
  match ← upstream (SnowRead.getRecordFresh number) with
  | none => throw (.notFound missing)
  | some record => return record

/-- The string argument of a field, or the empty text. -/
def textArg (args : List (String × Value)) (field : String) : String :=
  ((lookup field args).bind Value.asStr).getD ""

section Build

variable (state : DaemonState) (binding : BoardBinding) (args : List (String × Value))
  (payload : Value) (warnings : List ReceiptWarning)

/-- `build_plan_input` for a new Story. -/
def buildStoryCreate (actor : Actor) : Building PlanInput := do
  checking (requireString args "short_description")
  checking (requireString args "description")
  let payload ← checking (defaultStoryCreateReferenceFields payload binding)
  let payload := defaultStoryCreateBacklogType payload state.policy
  let (payload, ownerWarnings) ← defaultStoryOwnerFromActor payload actor
  let missingWarnings := warnMissingStoryCreateOptionalRequiredFields payload
  let payload := inject payload "active" (.bool true)
  let (payload, fieldWarnings) ←
    validateConstrainedFields "story_plan_create" payload binding none
  checking (enforceStoryPayloadScope payload binding)
  return {
    tool := "story_plan_create"
    target := none
    plannedChanges := payload
    concurrencyToken := none
    warnings := warnings ++ ownerWarnings ++ missingWarnings ++ fieldWarnings }

/-- `build_plan_input` for a new Story Task. -/
def buildStoryTaskCreate : Building PlanInput := do
  checking (requireString args "parent_story_number")
  checking (requireString args "short_description")
  let number := textArg args "parent_story_number"
  let parent ← requireRecord number ("parent story " ++ number ++ " not found")
  checking (enforceStoryRecordScope parent binding)
  let group ← checking (resolveStoryTaskCreateAssignmentGroup args parent binding)
  let payload := inject payload "story" (.string parent.sysId)
  let payload := inject payload "assignment_group" (.string group)
  let (payload, fieldWarnings) ←
    validateConstrainedFields "story_task_plan_create" payload binding none
  checking (enforceTaskParentPayloadScope payload parent binding)
  return {
    tool := "story_task_plan_create"
    target := some parent.ref
    plannedChanges := payload
    concurrencyToken := none
    warnings := warnings ++ fieldWarnings }

/-- `build_plan_input` for an update. -/
def buildStoryUpdate (tool : String) : Building PlanInput := do
  checking (requireString args "number")
  let number := textArg args "number"
  let record ← requireRecord number ("record " ++ number ++ " not found")
  checking <|
    if tool = "story_plan_update" then enforceStoryRecordScope record binding
    else enforceTaskRecordScope record binding
  let (payload, fieldWarnings) ← validateConstrainedFields tool payload binding (some record)
  return {
    tool := tool
    target := some record.ref
    plannedChanges := payload
    concurrencyToken := concurrencyFromRecord record
    warnings := warnings ++ fieldWarnings }

/-- `build_plan_input`. -/
def buildPlanInput (tool : String) (actor : Actor) : Building PlanInput := do
  let payload := Value.object (stripNonWritableSelectorFields tool args)
  let (payload, warnings) ← resolveAssigneeInPayload state.crates.sha256 tool payload actor
  match tool with
  | "story_plan_create" => buildStoryCreate state binding args payload warnings actor
  | "story_task_plan_create" => buildStoryTaskCreate binding args payload warnings
  | "story_plan_update" | "story_task_plan_update" =>
    buildStoryUpdate binding args payload warnings tool
  | tool => throw (.invalid ("unsupported Story plan tool " ++ tool))

end Build

/-! ## The handler -/

variable (state : DaemonState)

/-- How a plan that cannot be built is answered. -/
def planBuildErrorResponse : PlanBuildError → JsonRpcResponse
  | .invalid field =>
    .failure (-32051) "FIELD_REJECTED" (rejectedFields [fieldReason field "type_mismatch"])
  | .fieldRejected fields => .failure (-32051) "FIELD_REJECTED" (rejectedFields fields)
  | .guardFailed failure =>
    match storyScopeFailureFieldRejections failure with
    | some fields => .failure (-32051) "FIELD_REJECTED" (rejectedFields fields)
    | none => .failure (-32050) "GUARD_FAILED" failure.toGuardFailedData
  | .stateRequired data => .failure (-32062) "STATE_REQUIRED" data
  | .notFound message => .failure (-32004) "record not found" (obj [("details", .string message)])
  | .upstream text => internalError text

/-- The row a plan call stores. -/
def plannedRecord (input : PlanInput) (plan : OperationPlan) (actor : String) (now : DateTime) :
    PlanStoreRecord where
  planId := plan.planId
  tool := plan.tool
  actor := actor
  opHash := plan.opHash
  planJson :=
    { plan := plan
      applyTool := applyToolForPlanTool input.tool
      receiptWarnings := receiptWarningsForCaller input.warnings
      auditWarningEmailSha256 := auditEmailHashesFromWarnings input.warnings }
  concurrencyToken := input.concurrencyToken
  createdAt := now
  expiresAt := now + durationSeconds planTtlSeconds
  state := .pending

/-- What a plan call answers with. -/
def plannedResult (input : PlanInput) (plan : OperationPlan) (record : PlanStoreRecord)
    (tokenId idempotencyKey : String) : Value :=
  obj ([("plan_id", .string plan.planId), ("op_hash", .string plan.opHash),
      ("preview", plan.plannedChanges),
      ("expires_at", .string (state.crates.rfc3339 record.expiresAt)),
      ("confirmation_token", .string tokenId), ("idempotency_key", .string idempotencyKey)] ++
    (input.concurrencyToken.map fun token => ("concurrency_token", token.toJson)).toList)

/-- Issues the token of a stored plan and answers with it. -/
def issuePlanned (input : PlanInput) (plan : OperationPlan) (record : PlanStoreRecord)
    (requester idempotencyKey : String) : Handler JsonRpcResponse := do
  let binding : ConfirmationBinding :=
    { actor := record.actor
      requester := requester
      tool := applyToolForPlanTool input.tool
      opHash := plan.opHash
      environment := state.environment.label }
  match ← Daemon.issueConfirmation plan.planId binding planTtlSeconds with
  | .error text => return internalError text
  | .ok confirmation =>
    let auditId ← Daemon.uuid
    let note := AuditNote.step auditId (some plan.planId) "confirmation_issue" none
      record.actor requester
    match ← appendAuditEvent state note with
    | .error text => return internalError text
    | .ok _ =>
      return .ok (.value (plannedResult state input plan record confirmation.tokenId
        idempotencyKey))

/-- Stores a plan and goes on to issue its token. -/
def storePlanned (input : PlanInput) (plan : OperationPlan) (record : PlanStoreRecord)
    (requester idempotencyKey : String) : Handler JsonRpcResponse := do
  match ← Daemon.store (.putPlan record) with
  | .error text => return internalError text
  | .ok _ =>
    let note := AuditNote.step plan.planId none input.tool
      (some (obj [("op_hash", .string plan.opHash)])) record.actor requester
    match ← appendAuditEvent state note with
    | .error text => return internalError text
    | .ok _ => issuePlanned state input plan record requester idempotencyKey

/-- Reserves the key of a built plan and goes on to store it. -/
def reservePlanned (params : Value) (input : PlanInput) (actor : String) :
    Handler JsonRpcResponse := do
  let planId ← Daemon.uuid
  let plan := OperationPlan.build state.crates.sha256 planId input.tool input.target
    input.plannedChanges
  let now ← Daemon.now
  let idempotencyKey ← Daemon.uuid
  let record := plannedRecord input plan actor now
  match ← Daemon.openStores with
  | .error text => return internalError text
  | .ok () =>
    let outcome ← Daemon.checkAndRecord idempotencyKey (applyToolForPlanTool input.tool)
      plan.opHash state.policy.idempotencyWindowSeconds
    match outcome with
    | .error text => return internalError text
    | .ok .newKey =>
      storePlanned state input plan record (requesterFromParams params actor) idempotencyKey
    | .ok (.conflict _) =>
      return .failure (-32052) "IDEMPOTENCY_CONFLICT"
        (errorData "IDEMPOTENCY_CONFLICT" [("idempotency_key", .string idempotencyKey),
          ("bound_op_hash", .string ""), ("attempted_op_hash", .string plan.opHash)])
    | .ok (.replay _) | .ok (.pending _ _) =>
      return internalError "server-issued idempotency key was not unique"

/-- `handle_story_plan_impl`. -/
def handleStoryPlan (tool : String) (params : Value) : Handler JsonRpcResponse := do
  let reject (field reason : String) : JsonRpcResponse :=
    .failure (-32051) "FIELD_REJECTED" (rejectedFields [fieldReason field reason])
  let some binding := boardBinding tool state
    | return reject "story_board_id" "blocked_deny_list"
  let some args := params.asObject | return reject "payload" "type_mismatch"
  if !state.policy.toolEnabledInEnvironment tool state.environment.label then
    return reject "tool" "blocked_deny_list"
  let fields := fieldGovernanceRejections tool args state.policy .planInput
  if !fields.isEmpty then return .failure (-32051) "FIELD_REJECTED" (rejectedFields fields)
  let actor := storyActorFromParams params state
  if let some retryAfterSeconds ← Daemon.rateLimit "story_plan" actor.subject tool
      state.rateLimit.readPerMinute true then
    return ← rateLimited state tool retryAfterSeconds
  match ← Daemon.reading (buildPlanInput state binding args tool actor).run with
  | .error err => return planBuildErrorResponse err
  | .ok input => reservePlanned state params input actor.subject

end StoryWrite

end SnowAgent
