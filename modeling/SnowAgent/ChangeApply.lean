import SnowAgent.PlannedApply

/-! # Applying a change

The apply handler of the change request, change task and incident tools.  It consumes its
token after the write.  Only an incident's key is claimed by one call at a time, and only an
incident's key is free again after a write that failed.
-/
namespace SnowAgent

open Json Text

namespace ChangeWrite

variable (state : DaemonState)

/-! ## Audits and refusals -/

/-- `policy_decisions_for`. -/
def policyDecisionsFor (_tool : String) (status : ResultStatus) (error : Option ErrorRow) :
    List PolicyDecisionRow :=
  match error.map ErrorRow.code with
  | some "FIELD_REJECTED" => gateDecisions "Deny" ["FieldAllowlist"]
  | some "GUARD_FAILED" => gateDecisions "Deny" ["Resolution"]
  | some "IDEMPOTENCY_CONFLICT" | some "PENDING_RESOLUTION_REQUIRED" =>
    gateDecisions "Deny" ["Idempotency"]
  | some "CONCURRENCY_CONFLICT" | some "CONCURRENCY_TOKEN_INVALID" =>
    gateDecisions "Deny" ["ConcurrencyToken"]
  | some "CONFIRMATION_INVALID" | some "PLAN_EXPIRED" => gateDecisions "Deny" ["Confirmation"]
  | some "KILL_SWITCH" => gateDecisions "Deny" ["EnvironmentGate"]
  | some "RATE_LIMITED" => gateDecisions "Deny" ["RateLimit"]
  | _ =>
    if status = .appliedSuccess then
      gateDecisions "Allow" ["Confirmation", "Idempotency", "ConcurrencyToken", "FieldAllowlist"]
    else if status = .plan then gateDecisions "Allow" ["FieldAllowlist", "EnvironmentGate"]
    else []

/-- The audit of the change handlers: in a file of its own, if one is configured. -/
def trail : AuditTrail where
  path := state.auditPath.getD state.storePath
  retentionDays := some state.auditRetentionDays
  decisions := policyDecisionsFor

/-- `audited_change_error`. -/
def auditedChangeError (tool : String) : Refuse := fun code message data status =>
  (trail state).refuse state tool status (errorRowFromData message data)
    (.failure code message data)

/-- `pending_resolution_data`. -/
def pendingResolutionData (plan : OperationPlan) (record : IdempotencyRecord) : Value :=
  errorData "PENDING_RESOLUTION_REQUIRED"
    [("reason", .string ("an apply attempt for this idempotency key started but no receipt " ++
        "was recorded")),
      ("retryable", .bool false),
      ("transient", .bool false),
      ("plan_id", .string plan.planId),
      ("op_hash", .string plan.opHash),
      ("idempotency_key", .string record.key),
      ("apply_started_at",
        ofOption (fun t => .string (state.crates.rfc3339 t)) record.applyStartedAt),
      ("idempotency_expires_at", .string (state.crates.rfc3339 record.expiresAt)),
      ("retry_after_seconds", ofNat 2),
      ("remediation", strings
        ["Do not blindly retry the same idempotency key.",
          "Check ServiceNow for a record created by the previous attempt.",
          "If no record exists, correct the payload if needed and create a fresh plan or " ++
            "apply with a new idempotency key."])]

/-- `pending_resolution_required`. -/
def pendingResolutionRequired (call : PlannedCall) (record : IdempotencyRecord) :
    Handler JsonRpcResponse :=
  auditedChangeError state call.tool (-32060) "PENDING_RESOLUTION_REQUIRED"
    (pendingResolutionData state call.plan record) .error

/-! ## The tools -/

/-- `apply_tool_for_plan_tool`. -/
def applyToolForPlanTool (tool : String) : String :=
  match tool with
  | "change_request_plan_create" => "change_request_apply_create"
  | "change_request_plan_update" => "change_request_apply_update"
  | "change_task_plan_create" => "change_task_apply_create"
  | "change_task_plan_update" => "change_task_apply_update"
  | "incident_plan_update" => "incident_apply_update"
  | other => other

/-- The tool that updates an incident. -/
def incidentTool : String := "incident_apply_update"

/-- `is_update_tool`. -/
def isUpdateTool (tool : String) : Bool :=
  ["change_request_apply_update", "change_task_apply_update", "incident_apply_update"].contains tool

/-- `is_kill_switched`. -/
def isKillSwitched : Handler Bool :=
  anyKillSwitch ["SNOW_CHANGE_WRITE_KILL_SWITCH", "SNOW_INCIDENT_WRITE_KILL_SWITCH",
    "SNOW_MCP_WRITE_KILL_SWITCH"]

/-! ## The payload -/

/-- `blocked_fields_for_tool`. -/
def blockedFieldsForTool (tool : String) : List String :=
  ["sys_id", "sys_class_name", "sys_created_on", "sys_created_by", "sys_updated_on",
    "sys_updated_by", "sys_mod_count", "approval", "parent", "active", "closed_at", "closed_by",
    "close_code", "close_notes"] ++
    if ["change_request_plan_update", "change_task_plan_update",
        "incident_plan_update"].contains tool then []
    else ["number"]

/-- `metadata_fields`. -/
def metadataFields : List String := ["actor", "requester", "client", "session_id", "user_agent"]

/-- `field_governance_rejections` of a payload that is to be written: the denied fields, then
the unlisted ones. -/
def fieldGovernanceRejections (tool : String) (args : List (String × Value)) : List Value :=
  let keys := args.map Prod.fst
  let blocked := blockedFieldsForTool tool
  let allowlist := fieldAllowlistForApplyTool state.policy (applyToolForPlanTool tool)
  ((keys.filter blocked.contains).map (fieldReason · "blocked_deny_list")) ++
    (keys.filter fun field => !blocked.contains field && !metadataFields.contains field &&
      !allowlist.contains field).map (fieldReason · "not_in_allowlist")

/-- `apply_field_rejections`. -/
def applyFieldRejections (tool : String) (plan : OperationPlan) : List Value :=
  match plan.plannedChanges.asObject with
  | none => [fieldReason "planned_changes" "type_mismatch"]
  | some payload => fieldGovernanceRejections state tool payload

/-! ## Errors of ServiceNow -/

/-- `looks_like_iso_datetime`. -/
def looksLikeIsoDatetime (value : String) : Bool :=
  let trimmed := trim value
  contains trimmed "T" && (endsWith trimmed "Z" || contains trimmed "+")

/-- `payload_hints`. -/
def payloadHints (plannedChanges : Value) : List Value :=
  match plannedChanges.asObject with
  | none => []
  | some payload =>
    ["start_date", "end_date", "requested_by_date"].filterMap fun field =>
      (((lookup field payload).bind Value.asStr).filter looksLikeIsoDatetime).map fun value =>
        obj [("field", .string field), ("value", .string value),
          ("expected_format", .string "YYYY-MM-DD HH:mm:ss"),
          ("reason", .string ("ServiceNow change_request datetime fields expect internal " ++
            "datetime strings, not ISO-8601 T/Z values"))]

/-- `service_now_table_for_apply_tool`. -/
def serviceNowTableForApplyTool (tool : String) : String :=
  match tool with
  | "change_request_apply_create" | "change_request_apply_update" => "change_request"
  | "change_task_apply_create" | "change_task_apply_update" => "change_task"
  | "incident_apply_update" => "incident"
  | _ => "unknown"

/-- `service_now_operation_for_apply_tool`. -/
def serviceNowOperationForApplyTool (tool : String) : String :=
  match tool with
  | "change_request_apply_create" | "change_task_apply_create" => "create"
  | "change_request_apply_update" | "change_task_apply_update" | "incident_apply_update" => "update"
  | _ => "unknown"

mutual

/-- `sensitive_strings`. -/
def sensitiveStrings : Value → List String
  | .string value => [value]
  | .array values => sensitiveItems values
  | .object fields => sensitiveFields fields
  | _ => []

/-- The strings of the items of an array. -/
def sensitiveItems : List Value → List String
  | [] => []
  | value :: values => sensitiveStrings value ++ sensitiveItems values

/-- The strings of the fields of an object. -/
def sensitiveFields : List (String × Value) → List String
  | [] => []
  | (_, value) :: fields => sensitiveStrings value ++ sensitiveFields fields

end

/-- `safe_upstream_diagnostic`, of the diagnostic that fits the kind of the error. -/
def safeUpstreamDiagnostic (candidate : String) (sensitive : List String) : String :=
  let lowered := toAsciiLowercase candidate
  if ["http://", "https://", "authorization", "bearer ", "basic ", "password", "work_notes",
      "comments"].any (contains lowered) ||
      (sensitive.filter (· ≠ "")).any (contains candidate) then
    "ServiceNow request failed with a redacted diagnostic"
  else String.ofList (candidate.toList.take 240)

/-- `upstream_error_data`. -/
def upstreamErrorData (tool : String) (plan : OperationPlan) (reason : String) : Value :=
  let hints := payloadHints plan.plannedChanges
  errorData "UPSTREAM_ERROR"
    ([("reason", .string reason),
      ("retryable", .bool false),
      ("transient", .bool false),
      ("plan_id", .string plan.planId),
      ("op_hash", .string plan.opHash),
      ("plan_tool", .string plan.tool),
      ("apply_tool", .string tool),
      ("service_now_table", .string (serviceNowTableForApplyTool tool)),
      ("service_now_operation", .string (serviceNowOperationForApplyTool tool)),
      ("remediation", strings
        ["Inspect the upstream reason returned by ServiceNow.",
          "Correct the planned payload and create a fresh plan before retrying.",
          "Use a new idempotency key after an apply attempt has started without a receipt."])] ++
      if hints.isEmpty then [] else [("payload_hints", .array hints)])

/-! ## Before the write -/

/-- `validate_confirmation_binding`, which a replay must pass: the token must not have
expired. -/
def replay (call : PlannedCall) (receipt : OperationReceipt) : Handler JsonRpcResponse :=
  replayReceipt (auditedChangeError state call.tool) validateConfirmationBinding call receipt

/-- Checks the tool and the parameters, and loads the plan. -/
def admitCall (tool : String) (params : Value) : Gate PlannedCall := do
  let refuse := auditedChangeError state tool
  requireSwitchedOn refuse isKillSwitched
  Gate.require (state.policy.toolEnabledInEnvironment tool state.environment.label)
    (rejectField refuse "tool" "blocked_deny_list")
  let planId ← requiredParam refuse params "plan_id"
  let token ← requiredParam refuse params "confirmation_token"
  let key ← requiredParam refuse params "idempotency_key"
  let planRecord ← findPlan refuse planId
  let plan := planRecord.planJson.plan
  Gate.require (applyToolForPlanTool plan.tool = tool)
    (pure (invalidParams ("plan " ++ plan.planId ++ " is bound to " ++
      applyToolForPlanTool plan.tool ++ ", not " ++ tool)))
  let call := plannedCall state tool params planId token key planRecord
  rejectExpired refuse call (planExpiredData state.crates.rfc3339 call)
  return call

/-- The record before an update. -/
def readBefore (call : PlannedCall) : Gate (Option SnowRecord) :=
  if isUpdateTool call.tool then
    match call.plan.target with
    | none => return none
    | some target =>
      Gate.trying <| Daemon.reading <|
        if call.tool = incidentTool then SnowRead.getRecordLive target.number
        else SnowRead.getRecordFresh target.number
  else return none

/-- Looks at the key and reserves it, and checks the payload and the version. -/
def prepare (call : PlannedCall) : Gate (Option SnowRecord) := do
  let refuse := auditedChangeError state call.tool
  checkKey refuse (replay state call) (fun record => conflictData call (some record.opHash))
    (some (pendingResolutionRequired state call)) call
  reserveKey (replay state call) (refuseConflict refuse (conflictData call none))
    state.policy.idempotencyWindowSeconds call
  let fields := applyFieldRejections state call.tool call.plan
  Gate.require fields.isEmpty (refuse (-32051) "FIELD_REJECTED" (rejectedFields fields) .denied)
  let beforeRecord ← readBefore call
  checkConcurrency refuse call beforeRecord
  return beforeRecord

/-- The refusal of a token; an incident whose token is consumed may have a receipt, or a
pending apply. -/
def refuseToken (call : PlannedCall) (err : ConfirmationConsumeError) :
    Handler JsonRpcResponse := do
  let invalid := refuseConfirmation (auditedChangeError state call.tool) err
  if call.tool = incidentTool ∧ err = .alreadyConsumed then
    match ← Daemon.store (.lookupRecord call.key call.tool) with
    | .ok (some record) =>
      match record.receipt with
      | some receipt => return .ok (.receipt { receipt with idempotencyReplay := true })
      | none =>
        if record.applyStartedAt.isSome then pendingResolutionRequired state call record
        else invalid
    | _ => invalid
  else invalid

/-- Claims the key of an incident: only one call does. -/
def claimStarted (call : PlannedCall) : Gate DateTime := do
  let startedAt ← Gate.doing Daemon.now
  let claimed ← Gate.trying (Daemon.tryMarkApplyStarted call.key call.tool)
  Gate.require claimed do
    match ← Daemon.store (.lookupRecord call.key call.tool) with
    | .error text => return internalError text
    | .ok none => return internalError "idempotency reservation disappeared"
    | .ok (some record) => pendingResolutionRequired state call record
  return startedAt

/-- Checks the token, and marks the key. -/
def confirm (call : PlannedCall) : Gate DateTime := do
  checkToken (auditedChangeError state call.tool) validateConfirmation (refuseToken state call) call
  if call.tool = incidentTool then claimStarted state call else markStarted call

/-! ## The write -/

inductive ApplyWriteError where
  | upstream (text : String)
  | localCoherence
deriving DecidableEq

/-- The answer of a write that can only fail upstream. -/
def upstreamAnswer (answer : Except String WriteResult) : Except ApplyWriteError WriteResult :=
  answer.mapError .upstream

/-- The answer of a write of an incident. -/
def incidentAnswer : Except IncidentWriteError WriteResult → Except ApplyWriteError WriteResult
  | .ok result => .ok result
  | .error (.upstream text) => .error (.upstream text)
  | .error .localCoherence => .error .localCoherence

/-- Sends a write. -/
def sendWrite (planId : String) (w : SnowWrite)
    (read : w.Ans → Except ApplyWriteError WriteResult) :
    Handler (Except ApplyWriteError WriteResult) := do
  let answer ← Daemon.write planId w
  return read answer

/-- The target of an update. -/
def withTarget (plan : OperationPlan) (missing : String)
    (write : RecordRef → Handler (Except ApplyWriteError WriteResult)) :
    Handler (Except ApplyWriteError WriteResult) :=
  match plan.target with
  | none => pure (.error (.upstream missing))
  | some target => write target

/-- `apply_plan`. -/
def applyPlan (tool : String) (plan : OperationPlan) :
    Handler (Except ApplyWriteError WriteResult) :=
  match tool with
  | "change_request_apply_create" =>
    sendWrite plan.planId (.create "change_request" plan.plannedChanges) upstreamAnswer
  | "change_task_apply_create" =>
    sendWrite plan.planId (.create "change_task" plan.plannedChanges) upstreamAnswer
  | "change_request_apply_update" =>
    withTarget plan "change update plan missing target" fun target =>
      sendWrite plan.planId (.update "change_request" target.sysId plan.plannedChanges)
        upstreamAnswer
  | "change_task_apply_update" =>
    withTarget plan "change task update plan missing target" fun target =>
      sendWrite plan.planId (.update "change_task" target.sysId plan.plannedChanges)
        upstreamAnswer
  | "incident_apply_update" =>
    withTarget plan "incident update plan missing target" fun target =>
      sendWrite plan.planId (.updateIncident target.sysId plan.plannedChanges) incidentAnswer
  | tool => pure (.error (.upstream ("unsupported Change apply tool " ++ tool)))

/-- The names of the planned fields. -/
def plannedFields (plan : OperationPlan) : Value :=
  obj [("fields", strings ((plan.plannedChanges.asObject.getD []).map Prod.fst))]

/-- `receipt_for_write`, completed at an instant: an incident's values are hashed. -/
def receiptForWrite (call : PlannedCall) (auditId : String) (startedAt completedAt : DateTime)
    (result : WriteResult) (beforeRecord : Option SnowRecord) : OperationReceipt :=
  let incident : Bool := call.tool = incidentTool
  let shown (value : Value) : Value :=
    if incident then .string (hashAuditValue state.crates.sha256 (some value)) else value
  { planId := call.plan.planId
    auditId := auditId
    parentAuditId := call.plan.planId
    tool := call.tool
    status := .success
    appliedChangesSummary :=
      some (if incident then plannedFields call.plan else call.plan.plannedChanges)
    serviceNowMetadata := some result.record.metadata
    idempotencyReplay := false
    completedAt := completedAt
    opHash := call.plan.opHash
    recordUrl := if incident then none else some (recordUrl state result.record)
    recordSnapshot := if incident then none else some result.record.json
    changedFields := (call.plan.plannedChanges.asObject.getD []).map fun (field, after) =>
      { field := field
        before := (beforeRecord.bind fun record => recordFieldValue record field).map shown
        after := some (shown after) }
    concurrencyTokenObserved := some result.concurrency
    applyStartedAt := some startedAt
    errorCode := none
    warnings := [] }

/-- `is_free_text_field`. -/
def isFreeTextField (field : String) : Bool :=
  ["short_description", "description", "implementation_plan", "change_plan", "backout_plan",
    "test_plan", "justification", "work_notes", "comments"].contains field

/-- The note of a write (`audit_summary_for_receipt`). -/
def receiptNote (call : PlannedCall) (receipt : OperationReceipt) : AuditNote :=
  let changes : List AppliedChange := receipt.changedFields.map fun change =>
    { field := change.field
      oldHash := hashAuditValue state.crates.sha256 change.before
      newHash := hashAuditValue state.crates.sha256 change.after
      redactedPreview :=
        if isFreeTextField change.field then none else change.after.map nonFreeTextPreview }
  { auditId := receipt.auditId
    parentAuditId := some call.plan.planId
    tool := call.tool
    status := .appliedSuccess
    plannedChanges := some (obj [("op_hash", .string receipt.opHash),
      ("changed_fields", ofList AppliedChange.toJson changes)])
    serviceNowMetadata := receipt.serviceNowMetadata
    error := none
    identities := some (call.binding.actor, call.binding.requester)
    appliedChanges := some changes }

/-- Makes the receipt of a write, and settles it. -/
def settleWrite (call : PlannedCall) (startedAt : DateTime) (beforeRecord : Option SnowRecord)
    (result : WriteResult) : Handler JsonRpcResponse := do
  let auditId ← Daemon.uuid
  let completedAt ← Daemon.now
  let receipt := receiptForWrite state call auditId startedAt completedAt result beforeRecord
  settleReceipt (trail state) state call (receiptNote state call receipt) receipt

/-- The answer to a write that failed; an incident's key is free again. -/
def refuseUpstream (call : PlannedCall) (text : String) : Handler JsonRpcResponse := do
  let failed := auditedChangeError state call.tool (-32059) "UPSTREAM_ERROR"
    (upstreamErrorData call.tool call.plan
      (safeUpstreamDiagnostic text (sensitiveStrings call.plan.plannedChanges))) .error
  if call.tool = incidentTool then
    match ← Daemon.store (.clearApplyStarted call.key call.tool) with
    | .error text => return internalError text
    | .ok () => failed
  else failed

/-- The answer to a write that ServiceNow accepted and the cache may not show. -/
def refuseIncoherent (call : PlannedCall) : Handler JsonRpcResponse :=
  auditedChangeError state call.tool (-32046) "LOCAL_COHERENCE_FAILED"
    (errorData "LOCAL_COHERENCE_FAILED"
      [("upstream_applied", .bool true),
        ("plan_id", .string call.plan.planId),
        ("op_hash", .string call.plan.opHash),
        ("idempotency_key", .string call.key),
        ("reason", .string ("ServiceNow accepted the PATCH but exact local invalidation " ++
          "could not be certified"))]) .appliedPartial

/-- Writes, and consumes the token after a write that succeeded. -/
def writePlan (call : PlannedCall) (startedAt : DateTime) (beforeRecord : Option SnowRecord) :
    Handler JsonRpcResponse := do
  match ← applyPlan call.tool call.plan with
  | .error (.upstream text) => refuseUpstream state call text
  | .error .localCoherence => refuseIncoherent state call
  | .ok result =>
    consumeThen (auditedChangeError state call.tool) call
      (settleWrite state call startedAt beforeRecord result)

/-- `handle_change_apply`. -/
def handleChangeApply (tool : String) (params : Value) : Handler JsonRpcResponse :=
  (admitCall state tool params).enter fun call =>
    (prepare state call).enter fun beforeRecord =>
      (confirm state call).enter fun startedAt =>
        writePlan state call startedAt beforeRecord

end ChangeWrite

end SnowAgent
