import SnowAgent.PlannedApply

/-! # Planning and applying a Resource Plan

A plan call for an update or a decision reads the Resource Plan, checks what is asked of it,
and stores the version it saw.  The apply call reads the Resource Plan once more, compares its
version with the stored one where both are there, finds its token unspent, marks its key,
writes, and then consumes the token, audits the write and saves the receipt.
-/
namespace SnowAgent

open Json Text

namespace ResourcePlanWrite

/-! ## States and decisions -/

/-- `ResourcePlanState`. -/
inductive ResourcePlanState where
  | planning
  | requested
  | allocated
  | completed
  | canceled
  | confirmed
  | other (value : Nat)
deriving DecidableEq

namespace ResourcePlanState

/-- `raw`. -/
def raw : ResourcePlanState → Nat
  | planning => 1
  | requested => 2
  | allocated => 3
  | completed => 7
  | canceled => 8
  | confirmed => 11
  | other value => value

/-- `label`. -/
def label : ResourcePlanState → Option String
  | planning => some "Planning"
  | requested => some "Requested"
  | allocated => some "Allocated"
  | completed => some "Completed"
  | canceled => some "Canceled"
  | confirmed => some "Confirmed"
  | other _ => none

/-- The state of a number. -/
def ofRaw : Nat → ResourcePlanState
  | 1 => planning
  | 2 => requested
  | 3 => allocated
  | 7 => completed
  | 8 => canceled
  | 11 => confirmed
  | value => other value

/-- `str::parse` to a `u16`. -/
def parseU16 (s : String) : Option Nat :=
  let n := match s.toList with
    | '+' :: cs => digitsValue cs
    | cs => digitsValue cs
  n.filter (· < 2 ^ 16)

/-- `parse`: by name, or by number. -/
def parse (input : String) : Option ResourcePlanState :=
  let input := trim input
  if input = "" then none
  else if eqIgnoreAsciiCase input "planning" then some planning
  else if eqIgnoreAsciiCase input "requested" then some requested
  else if eqIgnoreAsciiCase input "allocated" then some allocated
  else if eqIgnoreAsciiCase input "completed" then some completed
  else if eqIgnoreAsciiCase input "canceled" || eqIgnoreAsciiCase input "cancelled" then
    some canceled
  else if eqIgnoreAsciiCase input "confirmed" then some confirmed
  else (parseU16 input).map ofRaw

/-- A state, by its number and its label. -/
def toJson (state : ResourcePlanState) : Value :=
  obj [("value", .string state.raw.repr), ("label", ofOption .string state.label)]

end ResourcePlanState

/-- `ResourcePlanDecision`. -/
inductive ResourcePlanDecision where
  | confirm
  | confirmAndAllocate
deriving DecidableEq

namespace ResourcePlanDecision

/-- The name of a decision. -/
def name : ResourcePlanDecision → String
  | confirm => "confirm"
  | confirmAndAllocate => "confirm_and_allocate"

/-- `target_state`. -/
def targetState : ResourcePlanDecision → ResourcePlanState
  | confirm => .confirmed
  | confirmAndAllocate => .allocated

/-- `expected_booking_type`. -/
def expectedBookingType : ResourcePlanDecision → String
  | confirm => "Soft"
  | confirmAndAllocate => "Hard"

/-- What a decision does to the allocations. -/
def effect : ResourcePlanDecision → String
  | confirm => "soft_allocations_created"
  | confirmAndAllocate => "hard_allocations_created"

end ResourcePlanDecision

/-- `resource_plan_state_from_record`. -/
def resourcePlanStateFromRecord (record : SnowRecord) : Option ResourcePlanState :=
  (((((record.fields.get "state").map FieldValue.value).filter fun value => trim value ≠ "").orElse
    fun _ => (some record.state).filter fun value => trim value ≠ "")).bind ResourcePlanState.parse

/-- `ResourcePlanResource::TABLE`. -/
def resourcePlanTable : String := "resource_plan"

/-! ## The tools -/

/-- `apply_tool_for_plan_tool`. -/
def applyToolForPlanTool (tool : String) : String :=
  match tool with
  | "resource_plan_plan_create" => "resource_plan_apply_create"
  | "resource_plan_plan_update" => "resource_plan_apply_update"
  | "resource_plan_plan_decision" => "resource_plan_apply_decision"
  | other => other

/-- `is_update_tool`. -/
def isUpdateTool (tool : String) : Bool :=
  ["resource_plan_apply_update", "resource_plan_apply_decision"].contains tool

/-! ## Governed fields -/

/-- `blocked_fields_for_tool`. -/
def blockedFieldsForTool (tool : String) : List String :=
  ["sys_class_name", "sys_created_on", "sys_created_by", "sys_updated_on", "sys_updated_by",
    "sys_mod_count", "parent", "parent_table", "year", "quarter", "work_notes"] ++
  match tool with
  | "resource_plan_plan_create" =>
    ["sys_id", "number", "task", "resource", "group_resource", "user_resource"]
  | "resource_plan_plan_update" =>
    ["state", "task", "resource", "resource_type", "parent_sys_id", "parent_type",
      "resource_sys_id"]
  | "resource_plan_plan_decision" =>
    ["sys_id", "state", "task", "resource", "resource_type", "planned_hours", "notes",
      "start_date", "end_date"]
  | _ => []

/-- `metadata_fields`. -/
def metadataFields : List String := ["actor", "requester", "client", "session_id", "user_agent"]

/-- `plan_selector_fields`. -/
def planSelectorFields (tool : String) : List String :=
  match tool with
  | "resource_plan_plan_create" =>
    ["parent_sys_id", "parent_type", "resource_sys_id", "resource_type"]
  | "resource_plan_plan_update" => ["sys_id", "number"]
  | "resource_plan_plan_decision" => ["number", "decision"]
  | _ => []

/-- The fields a tool may write where the policy does not say. -/
def defaultFields (applyTool : String) : List String :=
  match applyTool with
  | "resource_plan_apply_create" =>
    ["task", "group_resource", "user_resource", "resource_type", "state", "planned_hours",
      "notes", "start_date", "end_date"]
  | "resource_plan_apply_update" => ["planned_hours", "notes", "start_date", "end_date"]
  | "resource_plan_apply_decision" => ["state"]
  | _ => []

/-- `field_governance_rejections`: the denied fields, then those that are neither metadata nor
selectors nor listed. -/
def fieldGovernanceRejections (policy : PolicyConfig) (tool : String)
    (args : List (String × Value)) (selectors : List String) : List Value :=
  let keys := args.map Prod.fst
  let blocked := blockedFieldsForTool tool
  let applyTool := applyToolForPlanTool tool
  let allowlist := ((policy.tools.get applyTool).map (·.fieldAllowlist)).getD
    (defaultFields applyTool)
  ((keys.filter blocked.contains).map (fieldReason · "blocked_deny_list")) ++
    (keys.filter fun field => !blocked.contains field && !metadataFields.contains field &&
      !selectors.contains field && !allowlist.contains field).map (fieldReason · "not_in_allowlist")

/-- `apply_field_rejections`. -/
def applyFieldRejections (policy : PolicyConfig) (tool : String) (plan : OperationPlan) :
    List Value :=
  match plan.plannedChanges.asObject with
  | none => [fieldReason "planned_changes" "type_mismatch"]
  | some payload => fieldGovernanceRejections policy tool payload []

/-! ## Building a plan -/

/-- Floating point numbers and dates, which the handlers only pass on. -/
structure PlanLib where
  /-- The floating point number that a number is, as it is written. -/
  asF64 : Number → Number
  /-- Whether a floating point number is finite and positive. -/
  positive : Number → Bool
  /-- Whether two values that are read as floating point numbers are nearly the same. -/
  sameHours : Value → Value → Option Bool
  /-- Whether a text is a date. -/
  isDate : String → Bool

/-- `PlanInput`. -/
structure PlanInput where
  target : RecordRef
  plannedChanges : Value
  concurrencyToken : Option ConcurrencyToken
  preview : Value

/-- `PlanBuildError`. -/
inductive PlanBuildError where
  | invalid (field : String)
  | fieldRejected (fields : List Value)
  | notFound (message : String)
  | wrongType (selector table : String)
  | terminalRecord (number : String)
  | guardFailed (number reason : String) (currentState : Option String)

/-- How a plan that cannot be built is answered. -/
def planBuildErrorResponse : PlanBuildError → JsonRpcResponse
  | .invalid field =>
    .failure (-32051) "FIELD_REJECTED" (rejectedFields [fieldReason field "type_mismatch"])
  | .fieldRejected fields => .failure (-32051) "FIELD_REJECTED" (rejectedFields fields)
  | .notFound message => .failure (-32004) "record not found" (obj [("details", .string message)])
  | .wrongType selector table =>
    .failure (-32051) "FIELD_REJECTED"
      (rejectedFields [fieldReason selector ("wrong_table:" ++ table)])
  | .terminalRecord number =>
    .failure (-32050) "GUARD_FAILED" (errorData "GUARD_FAILED"
      [("reason", .string "terminal_record_skipped"), ("number", .string number)])
  | .guardFailed number reason currentState =>
    .failure (-32050) "GUARD_FAILED" (errorData "GUARD_FAILED"
      [("reason", .string reason), ("number", .string number),
        ("current_state", ofOption .string currentState)])

/-- The value that was built, or the answer of the call. -/
def built {A : Type} (result : Except PlanBuildError A) : Gate A :=
  match result with
  | .ok a => return a
  | .error err => Gate.answer (pure (planBuildErrorResponse err))

/-- `require_string`. -/
def requireString (args : List (String × Value)) (field : String) :
    Except PlanBuildError String :=
  match (((lookup field args).bind Value.asStr).map trim).filter (· ≠ "") with
  | some value => .ok value
  | none => .error (.invalid field)

/-- `non_empty_arg`. -/
def nonEmptyArg (args : List (String × Value)) (field : String) : Bool :=
  ((lookup field args).bind Value.asStr).any fun value => trim value ≠ ""

/-- `require_table`. -/
def requireTable (record : SnowRecord) (expected selector : String) :
    Except PlanBuildError Unit :=
  if record.table = expected then .ok () else .error (.wrongType selector record.table)

/-- `record_is_terminal`. -/
def recordIsTerminal (record : SnowRecord) : Bool :=
  let state := match record.fields.get "state" with
    | some field =>
      toAsciiLowercase field.value ++ " " ++ toAsciiLowercase (field.displayValue.getD "")
    | none => toAsciiLowercase record.state
  ["closed", "complete", "completed", "cancel", "cancelled"].any (contains state)

/-- `parse_state`. -/
def parseState (value : Option Value) (field : String) : Except PlanBuildError ResourcePlanState :=
  match (value.bind Value.asStr).bind ResourcePlanState.parse with
  | some state => .ok state
  | none => .error (.fieldRejected [fieldReason field "value_not_in_enum"])

variable (lib : PlanLib)

/-- `parse_planned_hours`. -/
def parsePlannedHours (value : Option Value) (field : String) : Except PlanBuildError Value :=
  match value with
  | some (.number n) =>
    if lib.positive (lib.asF64 n) then .ok (.number (lib.asF64 n))
    else .error (.fieldRejected [fieldReason field "value_constrained"])
  | _ => .error (.invalid field)

/-- `validate_optional_string` and `validate_optional_date`, of a field that is there. -/
def validateText (value : Value) (field : String) : Except PlanBuildError Unit :=
  match value.asStr with
  | none => .error (.invalid field)
  | some text => if field = "notes" ∨ lib.isDate (trim text) then .ok () else .error (.invalid field)

/-- The planned value of one field of an update, if the call has it. -/
def updateField (args : List (String × Value)) (field : String) :
    Except PlanBuildError (List (String × Value)) :=
  match lookup field args with
  | none => .ok []
  | some value =>
    match field with
    | "state" => (parseState (some value) field).map fun state =>
      [(field, .string state.raw.repr)]
    | "planned_hours" => (parsePlannedHours lib (some value) field).map fun hours =>
      [(field, hours)]
    | field => (validateText lib value field).map fun _ => [(field, value)]

/-- The planned fields of an update. -/
def updatePayload (args : List (String × Value)) : Except PlanBuildError (List (String × Value)) :=
  do
    let fields ← ["state", "planned_hours", "notes", "start_date", "end_date"].mapM
      (updateField lib args)
    return fields.flatten.foldl (fun acc f => insert f.1 f.2 acc) []

/-- `field_values_equal`. -/
def fieldValuesEqual (field : String) (before after : Value) : Bool :=
  if field = "planned_hours" then (lib.sameHours before after).getD (before = after)
  else before = after

/-- `current_fields`. -/
def currentFields (record : SnowRecord) (fields : List String) : List (String × Value) :=
  fields.foldl (fun acc field =>
    insert field ((recordFieldValue record field).getD .null) acc) []

/-- `proposed_fields`. -/
def proposedFields (record : SnowRecord) (payload : List (String × Value)) :
    List (String × Value) :=
  payload.foldl (fun acc (field, value) =>
    let label := (value.asStr.bind ResourcePlanState.parse).bind ResourcePlanState.label
    match label with
    | some label =>
      if field = "state" then
        insert "state_label" (.string label) (insert field value acc)
      else insert field value acc
    | none => insert field value acc) (currentFields record (payload.map Prod.fst))

/-- `diff_fields`. -/
def diffFields (record : SnowRecord) (payload : List (String × Value)) : List Value :=
  (payload.filter fun (field, after) =>
    !(recordFieldValue record field).any fun before => fieldValuesEqual lib field before after).map
      fun (field, after) =>
        obj [("field", .string field), ("from", ofOption id (recordFieldValue record field)),
          ("to", after)]

/-- The identity of a record, for a preview. -/
def previewTarget (record : SnowRecord) : Value :=
  obj [("sys_id", .string record.sysId), ("number", .string record.number)]

/-- The Resource Plan that an update names: by its `sys_id` or by its number. -/
def readSelected (args : List (String × Value)) : Gate SnowRecord := do
  if nonEmptyArg args "sys_id" then
    let sysId ← built (requireString args "sys_id")
    let found ← Gate.trying (Daemon.reading (SnowRead.getRecordByTable resourcePlanTable sysId))
    built (match found with
      | some record => .ok record
      | none => .error (.notFound ("resource_plan " ++ sysId ++ " not found")))
  else
    let number ← built (requireString args "number")
    let found ← Gate.trying (Daemon.reading (SnowRead.getRecordFresh number))
    built (match found with
      | some record => .ok record
      | none => .error (.notFound ("record " ++ number ++ " not found")))

/-- The plan of an update of a Resource Plan that was read. -/
def updateInput (policy : PolicyConfig) (args : List (String × Value)) (record : SnowRecord) :
    Except PlanBuildError PlanInput := do
  requireTable record resourcePlanTable "identity"
  let skips := (policy.tools.get "resource_plan_apply_update").any (·.skipTerminalRecords)
  if skips && recordIsTerminal record then .error (.terminalRecord record.number)
  else do
    let payload ← updatePayload lib args
    if payload.isEmpty then
      .error (.fieldRejected [fieldReason "planned_changes" "empty_payload"])
    else
      return {
        target := record.ref
        plannedChanges := .object payload
        concurrencyToken := concurrencyFromRecord record
        preview := obj [("target", previewTarget record),
          ("current", .object (currentFields record (payload.map Prod.fst))),
          ("proposed", .object (proposedFields record payload)),
          ("diff", .array (diffFields lib record payload))] }

/-- `build_update_plan_input`. -/
def buildUpdatePlanInput (policy : PolicyConfig) (args : List (String × Value)) :
    Gate PlanInput := do
  Gate.require (nonEmptyArg args "sys_id" != nonEmptyArg args "number")
    (pure (planBuildErrorResponse (.fieldRejected [fieldReason "identity" "exactly_one_required"])))
  let record ← readSelected args
  built (updateInput lib policy args record)

/-- The decision of a call. -/
def parseDecision : String → Except PlanBuildError ResourcePlanDecision
  | "confirm" => .ok .confirm
  | "confirm_and_allocate" => .ok .confirmAndAllocate
  | _ => .error (.fieldRejected [fieldReason "decision" "value_not_in_enum"])

/-- The plan of a decision on a Resource Plan that was read, which must be requested. -/
def decisionInput (decision : ResourcePlanDecision) (record : SnowRecord) :
    Except PlanBuildError PlanInput := do
  requireTable record resourcePlanTable "number"
  let currentState := resourcePlanStateFromRecord record
  if currentState ≠ some .requested then
    .error (.guardFailed record.number "decision_requires_requested"
      (currentState.bind ResourcePlanState.label))
  else
    return {
      target := record.ref
      plannedChanges := obj [("state", .string decision.targetState.raw.repr)]
      concurrencyToken := concurrencyFromRecord record
      preview := obj [("target", previewTarget record), ("decision", .string decision.name),
        ("current_state", ResourcePlanState.requested.toJson),
        ("expected_state", decision.targetState.toJson),
        ("expected_allocation", obj [("booking_type", .string decision.expectedBookingType),
          ("effect", .string decision.effect)])] }

/-- `build_decision_plan_input`. -/
def buildDecisionPlanInput (args : List (String × Value)) : Gate PlanInput := do
  let number ← built (requireString args "number")
  let name ← built (requireString args "decision")
  let decision ← built (parseDecision name)
  let found ← Gate.trying (Daemon.reading (SnowRead.getRecordFresh number))
  let record ← built (match found with
    | some record => .ok record
    | none => .error (.notFound ("record " ++ number ++ " not found")))
  built (decisionInput decision record)

/-! ## Audits and refusals -/

/-- `policy_decisions_for`. -/
def policyDecisionsFor (_tool : String) (status : ResultStatus) (error : Option ErrorRow) :
    List PolicyDecisionRow :=
  match error.map ErrorRow.code with
  | some "FIELD_REJECTED" => gateDecisions "Deny" ["FieldAllowlist"]
  | some "GUARD_FAILED" => gateDecisions "Deny" ["Resolution"]
  | some "IDEMPOTENCY_CONFLICT" | some "PENDING_RESOLUTION_REQUIRED" =>
    gateDecisions "Deny" ["Idempotency"]
  | some "CONCURRENCY_CONFLICT" | some "CONCURRENCY_TOKEN_INVALID" =>
    gateDecisions "Deny" ["ConcurrencyToken"]
  | some "CONFIRMATION_INVALID" | some "PLAN_EXPIRED" => gateDecisions "Deny" ["Confirmation"]
  | some "KILL_SWITCH" | some "UPSTREAM_PERMISSION_DENIED" =>
    gateDecisions "Deny" ["EnvironmentGate"]
  | _ =>
    if status = .appliedSuccess then
      gateDecisions "Allow" ["Confirmation", "Idempotency", "ConcurrencyToken", "FieldAllowlist"]
    else if status = .plan then gateDecisions "Allow" ["FieldAllowlist", "EnvironmentGate"]
    else []

variable (state : DaemonState)

/-- The audit of the Resource Plan handlers. -/
def trail : AuditTrail where
  path := state.storePath
  retentionDays := none
  decisions := policyDecisionsFor

/-- `audited_error`. -/
def auditedError (tool : String) : Refuse := fun code message data status =>
  (trail state).refuse state tool status (errorRowFromData message data)
    (.failure code message data)

/-- `rpc_error`, which is not audited. -/
def rpcError : Refuse := fun code message data _ => pure (.failure code message data)

/-! ## The plan call -/

/-- The tools that plan a change of a Resource Plan that exists. -/
inductive PlanTool where
  | update
  | decision
deriving DecidableEq

/-- The name of a plan tool. -/
def PlanTool.name : PlanTool → String
  | update => "resource_plan_plan_update"
  | decision => "resource_plan_plan_decision"

/-- `build_plan_input`. -/
def buildPlanInput (tool : PlanTool) (args : List (String × Value)) : Gate PlanInput :=
  match tool with
  | .update => buildUpdatePlanInput lib state.policy args
  | .decision => buildDecisionPlanInput args

/-- What a plan call is asked for, if its tools are enabled. -/
def readInput (tool : PlanTool) (params : Value) : Gate (List (String × Value)) := do
  let applyTool := applyToolForPlanTool tool.name
  Gate.require (state.policy.toolEnabledInEnvironment tool.name state.environment.label)
    (rejectField rpcError "tool" "blocked_deny_list")
  Gate.require (state.policy.toolEnabledInEnvironment applyTool state.environment.label)
    (rpcError (-32040) "policy denied" (obj
      [("details", .string "matching Resource Plan apply tool is disabled by current MCP policy"),
        ("tool", .string applyTool)]) .denied)
  let args ← Gate.require? params.asObject (rejectField rpcError "payload" "type_mismatch")
  let rejected := fieldGovernanceRejections state.policy tool.name args
    (planSelectorFields tool.name)
  Gate.require rejected.isEmpty
    (rpcError (-32051) "FIELD_REJECTED" (rejectedFields rejected) .denied)
  return args

/-- The row a plan call stores. -/
def plannedRecord (plan : OperationPlan) (applyTool actor : String)
    (concurrencyToken : Option ConcurrencyToken) (now : DateTime) : PlanStoreRecord where
  planId := plan.planId
  tool := plan.tool
  actor := actor
  opHash := plan.opHash
  planJson := ⟨plan, applyTool, [], []⟩
  concurrencyToken := concurrencyToken
  createdAt := now
  expiresAt := now + durationSeconds planTtlSeconds
  state := .pending

/-- Reserves the key of a new plan. -/
def reservePlanned (plan : OperationPlan) (applyTool key : String) : Gate Unit := do
  Gate.trying Daemon.openStores
  match ← Gate.trying (Daemon.checkAndRecord key applyTool plan.opHash
      state.policy.idempotencyWindowSeconds) with
  | .newKey => return ()
  | .conflict _ =>
    Gate.answer (rpcError (-32052) "IDEMPOTENCY_CONFLICT"
      (errorData "IDEMPOTENCY_CONFLICT" [("idempotency_key", .string key),
        ("attempted_op_hash", .string plan.opHash)]) .denied)
  | .replay _ | .pending _ _ =>
    Gate.answer (pure (internalError "server-issued idempotency key was not unique"))

/-- Stores a plan and issues its token. -/
def storePlanned (plan : OperationPlan) (applyTool : String) (record : PlanStoreRecord)
    (requester : String) : Gate ConfirmationRecord := do
  Gate.trying (Daemon.store (.putPlan record))
  let _ ← Gate.trying ((trail state).append state (AuditNote.step plan.planId none plan.tool
    (some plan.plannedChanges) record.actor requester))
  Gate.trying (Daemon.issueConfirmation plan.planId
    { actor := record.actor
      requester := requester
      tool := applyTool
      opHash := plan.opHash
      environment := state.environment.label } planTtlSeconds)

/-- What a plan call answers with. -/
def plannedResult (plan : OperationPlan) (input : PlanInput) (expiresAt : DateTime)
    (tokenId key : String) : Value :=
  obj ([("plan_id", .string plan.planId), ("op_hash", .string plan.opHash),
    ("preview", input.preview), ("expires_at", .string (state.crates.rfc3339 expiresAt)),
    ("confirmation_token", .string tokenId), ("idempotency_key", .string key)] ++
      (input.concurrencyToken.map fun token =>
        ("concurrency_token", ConcurrencyToken.toJson token)).toList)

/-- `handle_resource_plan_plan`, up to its answer. -/
def planChange (tool : PlanTool) (params : Value) : Gate Value := do
  let args ← readInput state tool params
  let input ← buildPlanInput lib state tool args
  let planId ← Gate.doing Daemon.uuid
  let plan := OperationPlan.build state.crates.sha256 planId tool.name (some input.target)
    input.plannedChanges
  let now ← Gate.doing Daemon.now
  let actor := actorFromParams params state
  let key ← Gate.doing Daemon.uuid
  let applyTool := applyToolForPlanTool tool.name
  reservePlanned state plan applyTool key
  let row := plannedRecord plan applyTool actor input.concurrencyToken now
  let confirmation ← storePlanned state plan applyTool row (requesterFromParams params actor)
  return plannedResult state plan input row.expiresAt confirmation.tokenId key

/-- `handle_resource_plan_plan`. -/
def handleResourcePlanPlan (tool : PlanTool) (params : Value) : Handler JsonRpcResponse :=
  (planChange lib state tool params).enter fun result => pure (.ok (.value result))

/-! ## Before the write -/

/-- `is_kill_switched`. -/
def isKillSwitched : Handler Bool := anyKillSwitch ["SNOW_RESOURCE_PLAN_WRITE_KILL_SWITCH"]

/-- Checks the tool and the parameters, and loads the plan. -/
def admitCall (tool : String) (params : Value) : Gate PlannedCall := do
  let refuse := auditedError state tool
  requireSwitchedOn refuse isKillSwitched
  Gate.require (state.policy.toolEnabledInEnvironment tool state.environment.label)
    (rejectField refuse "tool" "blocked_deny_list")
  let planId ← requiredParam refuse params "plan_id"
  let token ← requiredParam refuse params "confirmation_token"
  let key ← requiredParam refuse params "idempotency_key"
  let planRecord ← findPlan refuse planId
  let plan := planRecord.planJson.plan
  Gate.require (applyToolForPlanTool plan.tool = tool)
    (pure (invalidParams ("plan " ++ plan.planId ++ " is bound to " ++
      applyToolForPlanTool plan.tool ++ ", not " ++ tool)))
  return plannedCall state tool params planId token key planRecord

/-- `validate_replay_confirmation`: a replay needs a token that has not expired. -/
def replay (call : PlannedCall) (receipt : OperationReceipt) : Handler JsonRpcResponse :=
  replayReceipt (auditedError state call.tool) validateConfirmationBinding call receipt

/-- `pending_resolution_required`. -/
def pendingResolutionRequired (call : PlannedCall) (record : IdempotencyRecord) :
    Handler JsonRpcResponse :=
  auditedError state call.tool (-32060) "PENDING_RESOLUTION_REQUIRED"
    (errorData "PENDING_RESOLUTION_REQUIRED"
      [("reason", .string ("an apply attempt for this idempotency key started but no receipt " ++
          "was recorded")),
        ("retryable", .bool false),
        ("transient", .bool false),
        ("plan_id", .string call.plan.planId),
        ("op_hash", .string call.plan.opHash),
        ("idempotency_key", .string record.key),
        ("apply_started_at",
          ofOption (fun t => .string (state.crates.rfc3339 t)) record.applyStartedAt),
        ("idempotency_expires_at", .string (state.crates.rfc3339 record.expiresAt)),
        ("retry_after_seconds", ofNat 2)]) .error

/-- Rejects an expired plan, looks at the key and reserves it, and checks the payload. -/
def reserve (call : PlannedCall) : Gate Unit := do
  let refuse := auditedError state call.tool
  rejectExpired refuse call (planExpiredData state.crates.rfc3339 call)
  checkKey refuse (replay state call) (fun record => conflictData call (some record.opHash))
    (some (pendingResolutionRequired state call)) call
  reserveKey (replay state call) (refuseConflict refuse (conflictData call none))
    state.policy.idempotencyWindowSeconds call
  let fields := applyFieldRejections state.policy call.tool call.plan
  Gate.require fields.isEmpty (refuse (-32051) "FIELD_REJECTED" (rejectedFields fields) .denied)

/-- The Resource Plan before an update. -/
def readBefore (call : PlannedCall) : Gate (Option SnowRecord) :=
  if isUpdateTool call.tool then
    match call.plan.target with
    | none => return none
    | some target =>
      Gate.trying (Daemon.reading (SnowRead.getRecordByTable resourcePlanTable target.sysId))
  else return none

/-- Compares the versions, checks the token and marks the key. -/
def confirm (call : PlannedCall) (beforeRecord : Option SnowRecord) : Gate DateTime := do
  let refuse := auditedError state call.tool
  checkConcurrency refuse call beforeRecord
  checkToken refuse validateConfirmation (refuseConfirmation refuse) call
  markStarted call

/-! ## The write -/

/-- A write that was not sent. -/
def notSent (text : String) : Handler (Except WriteFailure WriteResult) :=
  pure (.error ⟨none, text, false⟩)

/-- Updates the target of a plan. -/
def updateTarget (plan : OperationPlan) (missing : String) :
    Handler (Except WriteFailure WriteResult) :=
  match plan.target with
  | none => notSent missing
  | some target => Daemon.write plan.planId (.updateResourcePlan target.sysId plan.plannedChanges)

/-- `apply_plan`. -/
def applyPlan (tool : String) (plan : OperationPlan) :
    Handler (Except WriteFailure WriteResult) :=
  match tool with
  | "resource_plan_apply_create" =>
    Daemon.write plan.planId (.createResourcePlan plan.plannedChanges)
  | "resource_plan_apply_update" => updateTarget plan "resource_plan update plan missing target"
  | "resource_plan_apply_decision" => updateTarget plan "resource_plan decision plan missing target"
  | tool => notSent ("unsupported Resource Plan apply tool " ++ tool)

/-- `is_permission_denied_error`. -/
def isPermissionDeniedError (err : WriteFailure) : Bool :=
  err.status = some 401 || err.status = some 403 ||
    ["403", "401", "forbidden", "unauthorized"].any (contains (toAsciiLowercase err.text))

/-- `upstream_error_data`. -/
def upstreamErrorData (call : PlannedCall) (reason code : String) : Value :=
  errorData code
    [("reason", .string reason),
      ("retryable", .bool false),
      ("transient", .bool false),
      ("plan_id", .string call.plan.planId),
      ("op_hash", .string call.plan.opHash),
      ("plan_tool", .string call.plan.tool),
      ("apply_tool", .string call.tool),
      ("service_now_table", .string resourcePlanTable),
      ("service_now_operation",
        .string (if call.tool = "resource_plan_apply_create" then "create" else "update"))]

/-- The answer to a write that failed. -/
def refuseUpstream (call : PlannedCall) (err : WriteFailure) : Handler JsonRpcResponse :=
  if isPermissionDeniedError err then
    auditedError state call.tool (-32063) "UPSTREAM_PERMISSION_DENIED"
      (upstreamErrorData call err.text "UPSTREAM_PERMISSION_DENIED") .error
  else
    auditedError state call.tool (-32059) "UPSTREAM_ERROR"
      (upstreamErrorData call err.text "UPSTREAM_ERROR") .error

/-- The changes of the planned fields that are changes. -/
def changedFields (plan : OperationPlan) (beforeRecord : Option SnowRecord) : List FieldChange :=
  (plan.plannedChanges.asObject.getD []).filterMap fun (field, after) =>
    let before := beforeRecord.bind fun record => recordFieldValue record field
    if before.any fun before => fieldValuesEqual lib field before after then none
    else some ⟨field, before, some after⟩

/-- `receipt_for_write` of a create or an update, completed at an instant. -/
def receiptForWrite (call : PlannedCall) (auditId : String) (startedAt completedAt : DateTime)
    (result : WriteResult) (beforeRecord : Option SnowRecord) : OperationReceipt where
  planId := call.plan.planId
  auditId := auditId
  parentAuditId := call.plan.planId
  tool := call.tool
  status := .success
  appliedChangesSummary := some call.plan.plannedChanges
  serviceNowMetadata := some result.record.metadata
  idempotencyReplay := false
  completedAt := completedAt
  opHash := call.plan.opHash
  recordUrl := some (recordUrl state result.record)
  recordSnapshot := some result.record.json
  changedFields := changedFields lib call.plan beforeRecord
  concurrencyTokenObserved := some result.concurrency
  applyStartedAt := some startedAt
  errorCode := none
  warnings := []

/-- The decision that a plan carries out. -/
def plannedDecision (plan : OperationPlan) : Option ResourcePlanDecision :=
  match ((plan.plannedChanges.get "state").bind Value.asStr).bind ResourcePlanState.parse with
  | some .confirmed => some .confirm
  | some .allocated => some .confirmAndAllocate
  | _ => none

/-- How many of the allocations are as a decision makes them: all of them, or none. -/
def matchingAllocationCount (decision : Option ResourcePlanDecision) (count : Nat)
    (bookingTypes : List String) : Nat :=
  match decision with
  | none => 0
  | some decision =>
    if !bookingTypes.isEmpty &&
        bookingTypes.all (eqIgnoreAsciiCase · decision.expectedBookingType) then count
    else 0

/-- Whether a decision has become what it should. -/
def decisionVerified (decision : Option ResourcePlanDecision)
    (observed : Option ResourcePlanState) (matching : Nat) : Bool :=
  decision.isSome && observed = decision.map ResourcePlanDecision.targetState && 0 < matching

/-- `apply_decision_evidence`, of the allocations that were found. -/
def withEvidence (receipt : OperationReceipt) (decision : Option ResourcePlanDecision)
    (record : SnowRecord) (count : Nat) (bookingTypes : List String) : OperationReceipt :=
  let observed := resourcePlanStateFromRecord record
  let matching := matchingAllocationCount decision count bookingTypes
  let verified := decisionVerified decision observed matching
  let evidence := obj
    [("decision", ofOption (fun d => .string d.name) decision),
      ("verified", .bool verified),
      ("expected_state", ofOption (fun d => d.targetState.toJson) decision),
      ("observed_state", ofOption ResourcePlanState.toJson observed),
      ("expected_booking_type", ofOption (fun d => .string d.expectedBookingType) decision),
      ("allocation_count", ofNat count),
      ("matching_allocation_count", ofNat matching),
      ("booking_types", strings bookingTypes)]
  let snapshot := match receipt.recordSnapshot.getD (obj []) with
    | .object fields => .object (insert "decision_evidence" evidence fields)
    | snapshot => obj [("record", snapshot), ("decision_evidence", evidence)]
  if verified then { receipt with recordSnapshot := some snapshot }
  else
    { receipt with
      recordSnapshot := some snapshot
      status := .partialSuccess
      errorCode := some "DECISION_POSTCONDITION_INCOMPLETE"
      warnings := receipt.warnings ++ [
        { code := "DECISION_POSTCONDITION_INCOMPLETE"
          field := some "state"
          message := "ServiceNow accepted the Resource Plan transition, but the expected state " ++
            "and allocation evidence were not both observed"
          data := none }] }

/-- `apply_decision_evidence`, of the receipt of a decision. -/
def addEvidence (call : PlannedCall) (record : SnowRecord) (receipt : OperationReceipt) :
    Handler OperationReceipt :=
  if call.tool = "resource_plan_apply_decision" then do
    let (count, bookingTypes) :=
      match ← Daemon.reading (SnowRead.getAllocationEvidence record.sysId) with
      | .ok evidence => evidence
      | .error _ => (0, [])
    return withEvidence receipt (plannedDecision call.plan) record count bookingTypes
  else return receipt

/-- `is_free_text_field`. -/
def isFreeTextField (field : String) : Bool := field = "notes"

/-- The note of a write (`audit_summary_for_receipt`). -/
def receiptNote (call : PlannedCall) (receipt : OperationReceipt) : AuditNote :=
  let changes : List AppliedChange := receipt.changedFields.map fun change =>
    { field := change.field
      oldHash := hashAuditValue state.crates.sha256 change.before
      newHash := hashAuditValue state.crates.sha256 change.after
      redactedPreview :=
        if isFreeTextField change.field then none else change.after.map nonFreeTextPreview }
  { auditId := receipt.auditId
    parentAuditId := some call.plan.planId
    tool := call.tool
    status := if receipt.status = .success then .appliedSuccess else .appliedPartial
    plannedChanges := some (obj [("op_hash", .string receipt.opHash),
      ("changed_fields", ofList AppliedChange.toJson changes)])
    serviceNowMetadata := receipt.serviceNowMetadata
    error := none
    identities := some (call.binding.actor, call.binding.requester)
    appliedChanges := some changes }

/-- Makes the receipt of a write, and settles it. -/
def settleWrite (call : PlannedCall) (startedAt : DateTime) (beforeRecord : Option SnowRecord)
    (result : WriteResult) : Handler JsonRpcResponse := do
  let auditId ← Daemon.uuid
  let completedAt ← Daemon.now
  let receipt ← addEvidence call result.record
    (receiptForWrite lib state call auditId startedAt completedAt result beforeRecord)
  settleReceipt (trail state) state call (receiptNote state call receipt) receipt

/-- What follows the answer to a write; the token is consumed after one that succeeded. -/
def answerWrite (call : PlannedCall) (startedAt : DateTime) (beforeRecord : Option SnowRecord) :
    Except WriteFailure WriteResult → Handler JsonRpcResponse
  | .error err => refuseUpstream state call err
  | .ok result =>
    consumeThen (auditedError state call.tool) call
      (settleWrite lib state call startedAt beforeRecord result)

/-- Writes, and answers. -/
def writePlan (call : PlannedCall) (startedAt : DateTime) (beforeRecord : Option SnowRecord) :
    Handler JsonRpcResponse := do
  let answer ← applyPlan call.tool call.plan
  answerWrite lib state call startedAt beforeRecord answer

/-- `handle_resource_plan_apply`. -/
def handleResourcePlanApply (tool : String) (params : Value) : Handler JsonRpcResponse :=
  (admitCall state tool params).enter fun call =>
    (reserve state call).enter fun _ =>
      (readBefore call).enter fun beforeRecord =>
        (confirm state call beforeRecord).enter fun startedAt =>
          writePlan lib state call startedAt beforeRecord

end ResourcePlanWrite

end SnowAgent
