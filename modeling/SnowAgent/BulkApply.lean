import SnowAgent.ChangeApply

/-! # Updating incidents in bulk

An apply call loads its plan, looks at its idempotency key and its token, and reads every target
once before it writes any.  It then marks the key, consumes the token and turns to the targets one
after another: a target is read again, patched, and its place in the cache is replaced.  The
receipt is changed with every target and saved after it, and the first target that does not come
out well ends the loop.
-/
namespace SnowAgent

open Json Text

namespace BulkWrite

/-- `PLAN_TOOL`. -/
def planTool : String := "incident_bulk_plan_update"

/-- `APPLY_TOOL`. -/
def applyTool : String := "incident_bulk_apply_update"

/-- `MIN_TARGETS`. -/
def minTargets : Nat := 3

/-- `MAX_TARGETS`. -/
def maxTargets : Nat := 25

/-! ## Requests and refusals -/

structure BulkConcurrencyToken where
  sysId : String
  sysUpdatedOn : String
deriving DecidableEq

structure BulkApplyRequest where
  planId : String
  confirmationToken : String
  idempotencyKey : String
  concurrencyTokens : List BulkConcurrencyToken
deriving DecidableEq

/-- The number of a refusal. -/
def deniedNumber : String → Int
  | "INCIDENT_NOT_FOUND" => -32004
  | "INCIDENT_NUMBER_AMBIGUOUS" => -32005
  | "INCIDENT_LOOKUP_UNAVAILABLE" => -32007
  | "ACL_DENIED" => -32003
  | "SERVICENOW_UNAVAILABLE" => -32001
  | "SERVICENOW_ERROR" => -32000
  | "INCIDENT_STATE_UNRESOLVED" | "INVALID_PARAMS" | "INVALID_SELECTOR" => -32602
  | _ => -32051

/-- `denied`. -/
def denied (code reason : String) : JsonRpcResponse :=
  .failure (deniedNumber code) code (errorData code [("reason", .string reason)])

/-- `invalid_params`. -/
def invalidParams (text : String) : JsonRpcResponse :=
  .failure (-32602) "invalid params" (errorData "INVALID_PARAMS" [("reason", .string text)])

/-- `confirmation_error`. -/
def confirmationError (err : ConfirmationConsumeError) : JsonRpcResponse :=
  .failure (-32054) "CONFIRMATION_INVALID"
    (errorData "CONFIRMATION_INVALID" [("reason", .string err.message)])

/-- `pending_after_store_failure`. -/
def pendingAfterStoreFailure (text : String) : JsonRpcResponse :=
  .failure (-32060) "PENDING_RESOLUTION_REQUIRED"
    (errorData "PENDING_RESOLUTION_REQUIRED"
      [("reason", .string "a target outcome could not be durably recorded"),
        ("details", .string text)])

/-- Refuses a call. -/
def refuse {A : Type} (response : JsonRpcResponse) : Gate A := Gate.answer (pure response)

/-- A part whose failure leaves the attempt to be resolved. -/
def recorded {A : Type} (p : Handler (Except String A)) : Gate A := do
  match ← Gate.doing p with
  | .error text => refuse (pendingAfterStoreFailure text)
  | .ok a => return a

/-! ## Reading a target -/

/-- `BuildError`. -/
inductive BuildError where
  | invalid (code reason : String)
  | read (err : IncidentReadError)
deriving DecidableEq

/-- `public_code`. -/
def BuildError.publicCode : BuildError → String
  | .invalid code _ => code
  | .read .notFound => "INCIDENT_NOT_FOUND"
  | .read .numberAmbiguous => "INCIDENT_NUMBER_AMBIGUOUS"
  | .read .lookupUnavailable => "INCIDENT_LOOKUP_UNAVAILABLE"
  | .read .aclDenied => "ACL_DENIED"
  | .read .serviceNowUnavailable => "SERVICENOW_UNAVAILABLE"
  | .read (.stateUnresolved _) => "INCIDENT_STATE_UNRESOLVED"
  | .read (.invalidParams _) => "INVALID_PARAMS"
  | .read .serviceNowError => "SERVICENOW_ERROR"

/-- `build_error_response`. -/
def buildErrorResponse (err : BuildError) : JsonRpcResponse :=
  denied err.publicCode
    (match err with
      | .invalid _ reason => reason
      | .read err => err.message)

inductive TargetSelector where
  | number (number : String)
  | sysId (sysId : String)
deriving DecidableEq

structure ResolvedTarget where
  number : String
  sysId : String
  sysUpdatedOn : String
  fields : StringMap FieldValue
deriving DecidableEq

/-- A field a target cannot do without. -/
def requiredField (fields : StringMap FieldValue) (name : String) : Except BuildError String :=
  match ((fields.get name).map fun field => trim field.value).filter (· ≠ "") with
  | some value => .ok value
  | none => .error (.invalid "LOOKUP_INCOMPLETE" ("target omitted " ++ name))

/-- What an answer shows of a target. -/
def resolveTarget (answer : Except IncidentReadError (StringMap FieldValue)) :
    Except BuildError ResolvedTarget := do
  let fields ← answer.mapError BuildError.read
  let number ← requiredField fields "number"
  let sysId ← requiredField fields "sys_id"
  let sysUpdatedOn ← requiredField fields "sys_updated_on"
  return ⟨number, toAsciiLowercase sysId, sysUpdatedOn, fields⟩

/-- `read_target`. -/
def readTarget (selector : TargetSelector) : Handler (Except BuildError ResolvedTarget) :=
  resolveTarget <$> Daemon.reading
    (match selector with
      | .number number => SnowRead.getIncident (some number) none
      | .sysId sysId => SnowRead.getIncident none (some sysId))

/-! ## The receipt -/

/-- `initial_receipt`. -/
def initialReceipt (plan : BulkPlan) (auditId : String) (started : DateTime) : BulkReceipt where
  planId := plan.planId
  auditId := auditId
  parentAuditId := plan.planId
  tool := applyTool
  status := .success
  opHash := plan.opHash
  idempotencyReplay := false
  targetResults := plan.preview.targets.map fun target =>
    { number := target.target.number
      sysId := target.target.sysId
      status := .notAttempted
      changedFields := []
      observedSysUpdatedOn := target.sysUpdatedOn
      errorCode := none }
  appliedCount := 0
  failedCount := 0
  notAttemptedCount := plan.preview.targets.length
  cacheCoherent := true
  applyStartedAt := started
  completedAt := started

/-- How many targets have a status. -/
def countStatus (status : BulkTargetStatus) (results : List BulkTargetResult) : Nat :=
  results.countP fun result => result.status = status

/-- `recount`. -/
def recount (receipt : BulkReceipt) : BulkReceipt :=
  { receipt with
    appliedCount := countStatus .applied receipt.targetResults
    failedCount := countStatus .failed receipt.targetResults
    notAttemptedCount := countStatus .notAttempted receipt.targetResults }

/-- `hash_value`. -/
def hashValue (sha256 : Sha256) (value : Option String) : String :=
  hexEncode (sha256 (value.getD "").toUTF8)

/-- The fields a patch changes, by the hashes of their values. -/
def changedFields (sha256 : Sha256) (patch : StringMap String) (before : StringMap FieldValue) :
    List BulkFieldChange :=
  patch.map fun entry =>
    { field := entry.1
      beforeHash := hashValue sha256 ((before.get entry.1).map FieldValue.value)
      afterHash := hashValue sha256 (some entry.2) }

/-- `mark_applied`. -/
def markApplied (sha256 : Sha256) (receipt : BulkReceipt) (index : Nat) (target : BulkPlannedTarget)
    (before : StringMap FieldValue) (observed : String) : BulkReceipt :=
  recount { receipt with
    targetResults := receipt.targetResults.set index
      { number := target.target.number
        sysId := target.target.sysId
        status := .applied
        changedFields := changedFields sha256 target.patch before
        observedSysUpdatedOn := observed
        errorCode := none } }

/-- `mark_not_attempted_after`. -/
def markNotAttemptedAfter (receipt : BulkReceipt) (index : Nat) : BulkReceipt :=
  recount { receipt with
    targetResults := receipt.targetResults.take (index + 1) ++
      (receipt.targetResults.drop (index + 1)).map fun result =>
        { result with
          status := .notAttempted
          changedFields := []
          errorCode := none } }

/-- The result of a target that has failed. -/
def failedResult (code observed : String) (result : BulkTargetResult) : BulkTargetResult :=
  { result with
    status := .failed
    errorCode := some code
    observedSysUpdatedOn := if observed = "" then result.observedSysUpdatedOn else observed }

/-- `mark_failed_and_remaining`. -/
def markFailedAndRemaining (receipt : BulkReceipt) (index : Nat) (code observed : String) :
    BulkReceipt :=
  recount (markNotAttemptedAfter
    { receipt with
      targetResults := receipt.targetResults.modify index (failedResult code observed) } index)

def BulkReceiptStatus.text : BulkReceiptStatus → String
  | .success => "success"
  | .partialSuccess => "partial"

def BulkTargetStatus.text : BulkTargetStatus → String
  | .applied => "applied"
  | .failed => "failed"
  | .notAttempted => "not_attempted"

/-- `BulkTargetResult`, as JSON. -/
def targetResultJson (result : BulkTargetResult) : Value :=
  obj ([("number", .string result.number), ("sys_id", .string result.sysId),
    ("status", .string (BulkTargetStatus.text result.status)),
    ("changed_fields", ofList (fun change : BulkFieldChange =>
      obj [("field", .string change.field), ("before_hash", .string change.beforeHash),
        ("after_hash", .string change.afterHash)]) result.changedFields),
    ("observed_sys_updated_on", .string result.observedSysUpdatedOn)] ++
    (result.errorCode.map fun code => ("error_code", Value.string code)).toList)

/-- `BulkReceipt`, as JSON. -/
def receiptJson (serializeTime : DateTime → String) (receipt : BulkReceipt) : Value :=
  obj [("plan_id", .string receipt.planId), ("audit_id", .string receipt.auditId),
    ("parent_audit_id", .string receipt.parentAuditId), ("tool", .string receipt.tool),
    ("status", .string (BulkReceiptStatus.text receipt.status)),
    ("op_hash", .string receipt.opHash), ("idempotency_replay", .bool receipt.idempotencyReplay),
    ("target_results", ofList targetResultJson receipt.targetResults),
    ("applied_count", ofNat receipt.appliedCount), ("failed_count", ofNat receipt.failedCount),
    ("not_attempted_count", ofNat receipt.notAttemptedCount),
    ("cache_coherent", .bool receipt.cacheCoherent),
    ("apply_started_at", .string (serializeTime receipt.applyStartedAt)),
    ("completed_at", .string (serializeTime receipt.completedAt))]

/-- `redacted_plan_summary`. -/
def redactedPlanSummary (plan : BulkPlan) : Value :=
  obj [("op_hash", .string plan.opHash),
    ("targets", ofList (fun target : BulkPlannedTarget =>
      obj [("number", .string target.target.number), ("sys_id", .string target.target.sysId),
        ("fields", strings (target.patch.map Prod.fst))]) plan.preview.targets)]

/-- `redacted_receipt_summary`. -/
def redactedReceiptSummary (receipt : BulkReceipt) : Value :=
  obj [("op_hash", .string receipt.opHash),
    ("status", .string (BulkReceiptStatus.text receipt.status)),
    ("applied_count", ofNat receipt.appliedCount), ("failed_count", ofNat receipt.failedCount),
    ("not_attempted_count", ofNat receipt.notAttemptedCount),
    ("cache_coherent", .bool receipt.cacheCoherent)]

variable (state : DaemonState)

/-! ## Admission -/

/-- What a call has found out when it turns to its idempotency key. -/
structure BulkCall where
  request : BulkApplyRequest
  plan : BulkPlan
  binding : ConfirmationBinding

/-- `kill_switched`. -/
def killSwitched : Handler Bool :=
  anyKillSwitch ["SNOW_INCIDENT_WRITE_KILL_SWITCH", "SNOW_MCP_WRITE_KILL_SWITCH"]

/-- Whether `policy_denial` lets a tool pass; the environment is required. -/
def policyAllows (tool : String) : Bool :=
  (state.policy.tools.get tool).any fun policy =>
    policy.enabled && policy.environments.contains state.environment.label

/-- `policy_denial`. -/
def requirePolicy (tool : String) : Gate Unit :=
  Gate.require (policyAllows state tool)
    (pure (denied "POLICY_DENIED" (tool ++ " is disabled for the named environment")))

/-- The `max_targets` of a tool. -/
def toolLimit (tool : String) : Except String Nat :=
  match (state.policy.tools.get tool).bind ToolPolicy.maxTargets with
  | some limit => .ok limit
  | none => .error (tool ++ " requires explicit max_targets")

/-- `configured_bulk_target_limit`. -/
def configuredBulkTargetLimit : Except String Nat := do
  let planLimit ← toolLimit state planTool
  let applyLimit ← toolLimit state applyTool
  let limit := min planLimit applyLimit
  if minTargets ≤ limit ∧ limit ≤ maxTargets then return limit
  else throw ("max_targets must be between " ++ toString minTargets ++ " and " ++
    toString maxTargets)

/-- `validate_supplied_tokens`. -/
def validateSuppliedTokens (tokens : List BulkConcurrencyToken) (plan : BulkPlan) :
    Except String Unit :=
  if tokens.length ≠ plan.preview.targets.length then
    .error "concurrency_tokens must contain every planned target exactly once"
  else if tokens ≠ plan.preview.targets.map fun target =>
      ⟨target.target.sysId, target.sysUpdatedOn⟩ then
    .error "concurrency_tokens do not byte-match canonical plan order"
  else .ok ()

/-- Who the current user is to a plan's token. -/
def currentBinding (plan : BulkPlan) : ConfirmationBinding where
  actor := state.instanceUser
  requester := state.instanceUser
  tool := applyTool
  opHash := plan.opHash
  environment := state.environment.label

/-- The first field in which a plan is not the caller's. -/
def planMismatch (plan : BulkPlan) (binding : ConfirmationBinding) : Option String :=
  if plan.actor ≠ binding.actor then some "actor"
  else if plan.requester ≠ binding.requester then some "requester"
  else if plan.environment ≠ binding.environment then some "environment"
  else none

/-- What a check that fails with a text refuses. -/
def requireOk {A : Type} (code : String) : Except String A → Gate A
  | .ok a => pure a
  | .error reason => refuse (denied code reason)

/-- Rejects an expired plan. -/
def requireUnexpired (plan : BulkPlan) : Gate Unit := do
  let t ← Gate.doing Daemon.now
  Gate.require (t < plan.expiresAt) (pure (denied "PLAN_EXPIRED" "bulk plan expired"))

/-- The plan of a request. -/
def findPlan (request : BulkApplyRequest) : Gate BulkPlan := do
  Gate.trying Daemon.openStores
  let found ← Gate.trying (Daemon.store (.getBulkPlan request.planId))
  let plan ← Gate.require? found (pure (denied "PLAN_NOT_FOUND" "bulk plan was not found"))
  requireUnexpired plan
  return plan

/-- The checks of a plan and of its caller. -/
def checkPlan (request : BulkApplyRequest) (plan : BulkPlan) : Gate BulkCall := do
  let limit ← requireOk "MAX_TARGETS_INVALID" (configuredBulkTargetLimit state)
  Gate.require (minTargets ≤ plan.preview.targets.length && plan.preview.targets.length ≤ limit)
    (pure (denied "TARGET_COUNT_INVALID" "planned target count is no longer allowed"))
  requireOk "CONCURRENCY_TOKEN_INVALID" (validateSuppliedTokens request.concurrencyTokens plan)
  let binding := currentBinding state plan
  match planMismatch plan binding with
  | some field => refuse (confirmationError (.bindingMismatch field))
  | none => return ⟨request, plan, binding⟩

/-- The checks of the configuration. -/
def requireWritable : Gate Unit := do
  let off ← Gate.doing killSwitched
  Gate.require (!off) (pure (denied "KILL_SWITCH" "Incident writes are kill-switched"))
  requirePolicy state applyTool
  requirePolicy state planTool

/-- The checks before the key, of what `serde_json` makes of the parameters. -/
def admitCall (params : Except String BulkApplyRequest) : Gate BulkCall := do
  requireWritable state
  match params with
  | .error text => refuse (invalidParams text)
  | .ok request =>
    let plan ← findPlan request
    checkPlan state request plan

/-! ## The key and the token -/

/-- `validate_confirmation_record`. -/
def validateConfirmationRecord : Validate := fun record binding =>
  if record.revoked then pure (.error .revoked)
  else do
    let t ← Daemon.now
    return if record.expiresAt ≤ t then .error .expired
      else if record.consumed then .error .alreadyConsumed
      else match record.mismatch binding with
        | some field => .error (.bindingMismatch field)
        | none => .ok ()

/-- What `validate_confirmation_replay` makes of the row it finds: a consumed row is as good. -/
def validateReplayRecord : Validate := fun record binding =>
  if record.revoked then validateConfirmationRecord record binding
  else do
    let t ← Daemon.now
    if record.expiresAt ≤ t then validateConfirmationRecord record binding
    else return match record.mismatch binding with
      | some field => .error (.bindingMismatch field)
      | none => .ok ()

/-- `validate_confirmation_replay`. -/
def validateConfirmationReplay (token : String) (binding : ConfirmationBinding) :
    Handler (Except ConfirmationConsumeError Unit) := do
  match ← Daemon.openStores with
  | .error _ => return .error .notFound
  | .ok () =>
    match ← Daemon.store (.lookupConfirmation token) with
    | .error _ | .ok none => return .error .notFound
    | .ok (some record) => validateReplayRecord record binding

section Call

variable (call : BulkCall)

/-- Answers a call with what an earlier one has left. -/
def replay (response : JsonRpcResponse) : Handler JsonRpcResponse := do
  match ← validateConfirmationReplay call.request.confirmationToken call.binding with
  | .error err => return confirmationError err
  | .ok () => return response

/-- What the row of a key makes of a call. -/
def checkRecord (record : BulkIdempotencyRecord) : Gate Unit :=
  if record.opHash ≠ call.plan.opHash then
    refuse (denied "IDEMPOTENCY_CONFLICT" "idempotency key is bound to another operation hash")
  else match record.terminalError, record.receipt with
    | some err, _ => Gate.answer (replay call (.error err))
    | none, some receipt =>
      Gate.answer (replay call (.ok (.bulkReceipt { receipt with idempotencyReplay := true })))
    | none, none =>
      Gate.require record.applyStartedAt.isNone
        (pure (denied "PENDING_RESOLUTION_REQUIRED"
          "an apply attempt started without a durable final receipt"))

/-- Looks at the key. -/
def checkKey : Gate Unit := do
  let t ← Gate.doing Daemon.now
  match ← Gate.trying (Daemon.store (.lookupBulkKey t call.request.idempotencyKey applyTool)) with
  | none => refuse (denied "IDEMPOTENCY_CONFLICT" "idempotency key is not bound to this plan")
  | some record => checkRecord call record

/-- Looks at the token. -/
def checkToken : Gate Unit := do
  Gate.trying Daemon.openStores
  match ← Gate.trying (Daemon.store (.lookupConfirmation call.request.confirmationToken)) with
  | none => refuse (confirmationError .notFound)
  | some record =>
    match ← Gate.doing (validateConfirmationRecord record call.binding) with
    | .error err => refuse (confirmationError err)
    | .ok () => return ()

/-! ## Before the first write -/

/-- The refusal of a target that is not as planned. -/
def changedAfterPlanning (target : BulkPlannedTarget) : JsonRpcResponse :=
  .failure (-32053) "CONCURRENCY_CONFLICT"
    (errorData "CONCURRENCY_CONFLICT"
      [("reason", .string ("target " ++ target.target.sysId ++ " changed after planning"))])

/-- Reads a target before anything is written. -/
def preflightTarget (target : BulkPlannedTarget) : Gate Unit := do
  match ← Gate.doing (readTarget (.sysId target.target.sysId)) with
  | .error err => refuse (buildErrorResponse err)
  | .ok current =>
    Gate.require (current.sysUpdatedOn = target.sysUpdatedOn) (pure (changedAfterPlanning target))

/-- Reads the targets before anything is written. -/
def preflight : List BulkPlannedTarget → Gate Unit
  | [] => pure ()
  | target :: rest => do
    preflightTarget target
    preflight rest

/-- Audits the attempt. -/
def auditAttempt : Gate Unit := do
  let attemptAuditId ← Gate.doing Daemon.uuid
  let _ ← Gate.trying ((ChangeWrite.trail state).append state
    (AuditNote.step attemptAuditId (some call.plan.planId) applyTool
      (some (redactedPlanSummary call.plan)) call.binding.actor call.binding.requester))
  return ()

/-- Marks the key, which one attempt can do. -/
def markStarted : Gate Unit := do
  let t ← Gate.doing Daemon.now
  let marked ← recorded (Daemon.store (.markBulkStarted t call.request.idempotencyKey applyTool))
  Gate.require marked (pure (denied "PENDING_RESOLUTION_REQUIRED"
    "another apply attempt already acquired this idempotency key"))

/-- Consumes the token; the key is unmarked if that fails. -/
def consumeToken : Gate Unit := do
  match ← Gate.doing (Daemon.consumeConfirmation call.request.confirmationToken call.binding) with
  | .ok _ => return ()
  | .error err =>
    recorded (Daemon.store (.clearBulkStarted call.request.idempotencyKey applyTool))
    refuse (confirmationError err)

/-- Everything before the loop, up to the receipt it starts with. -/
def prepare : Gate BulkReceipt := do
  checkKey call
  checkToken call
  preflight call.plan.preview.targets
  auditAttempt state call
  let applyStartedAt ← Gate.doing Daemon.now
  markStarted call
  consumeToken call
  let auditId ← Gate.doing Daemon.uuid
  return initialReceipt call.plan auditId applyStartedAt

/-! ## The loop -/

/-- Why the loop has ended early: `failure` and `failure_diagnostic`. -/
structure Failure where
  code : String
  upstreamApplied : Bool
  diagnostic : Option String
deriving DecidableEq

/-- The receipt after some targets, and why there are no more. -/
abbrev Progress := BulkReceipt × Option Failure

/-- `save_progress`. -/
def saveProgress (receipt : BulkReceipt) : Gate Unit :=
  recorded (Daemon.store (.saveBulkProgress call.request.idempotencyKey applyTool receipt))

/-- Saves the receipt after a target. -/
def settleTarget (progress : Progress) : Gate Progress := do
  saveProgress call progress.1
  return progress

/-- A target that was patched, but not seen or not cached since. -/
def loseCoherence (receipt : BulkReceipt) (index : Nat) (target : BulkPlannedTarget)
    (before : StringMap FieldValue) (observed : String) : Progress :=
  (markNotAttemptedAfter
    (markApplied state.crates.sha256 { receipt with cacheCoherent := false } index target before
      observed) index,
    some ⟨"LOCAL_COHERENCE_FAILED", true, none⟩)

/-- Replaces a patched target in the cache. -/
def refreshTarget (receipt : BulkReceipt) (index : Nat) (target : BulkPlannedTarget)
    (before : StringMap FieldValue) (observed : String) : Gate Progress := do
  match ← Gate.doing (Daemon.write call.plan.planId (.refreshProjection target.target.sysId)) with
  | .error _ => settleTarget call (loseCoherence state receipt index target before observed)
  | .ok () =>
    settleTarget call (markApplied state.crates.sha256 receipt index target before observed, none)

/-- Finds the version of a patched target. -/
def observeTarget (receipt : BulkReceipt) (index : Nat) (target : BulkPlannedTarget)
    (current : ResolvedTarget) (written : Option String) : Gate Progress :=
  match written with
  | some observed => refreshTarget state call receipt index target current.fields observed
  | none => do
    match ← Gate.doing (readTarget (.sysId target.target.sysId)) with
    | .ok postWrite =>
      refreshTarget state call receipt index target current.fields postWrite.sysUpdatedOn
    | .error _ =>
      -- the version from before the patch is the last one seen
      settleTarget call
        (loseCoherence state receipt index target current.fields current.sysUpdatedOn)

/-- Patches a target that is as planned. -/
def patchTarget (receipt : BulkReceipt) (index : Nat) (target : BulkPlannedTarget)
    (current : ResolvedTarget) : Gate Progress := do
  match ← Gate.doing
      (Daemon.write call.plan.planId (.patchIncident target.target.sysId target.patch)) with
  | .error text =>
    settleTarget call
      (markFailedAndRemaining receipt index "UPSTREAM_ERROR" current.sysUpdatedOn,
        some ⟨"UPSTREAM_ERROR", false,
          some (ChangeWrite.safeUpstreamDiagnostic text (target.patch.map Prod.snd))⟩)
  | .ok written => observeTarget state call receipt index target current written

/-- One turn of the loop.  A target that cannot be patched ends it without being saved. -/
def executeTarget (receipt : BulkReceipt) (index : Nat) (target : BulkPlannedTarget) :
    Gate Progress := do
  match ← Gate.doing (readTarget (.sysId target.target.sysId)) with
  | .error err =>
    return (markFailedAndRemaining receipt index err.publicCode "",
      some ⟨err.publicCode, false, none⟩)
  | .ok current =>
    if current.sysUpdatedOn ≠ target.sysUpdatedOn then
      return (markFailedAndRemaining receipt index "CONCURRENCY_CONFLICT" current.sysUpdatedOn,
        some ⟨"CONCURRENCY_CONFLICT", false, none⟩)
    else patchTarget state call receipt index target current

/-- The loop, from a target on. -/
def executeTargets (receipt : BulkReceipt) (index : Nat) : List BulkPlannedTarget → Gate Progress
  | [] => pure (receipt, none)
  | target :: rest => do
    match ← executeTarget state call receipt index target with
    | (receipt, some failure) => return (receipt, some failure)
    | (receipt, none) => executeTargets receipt (index + 1) rest

/-! ## After the loop -/

/-- The number and the message of a terminal error. -/
def terminalCode : String → Int × String
  | "CONCURRENCY_CONFLICT" => (-32053, "CONCURRENCY_CONFLICT")
  | "ACL_DENIED" => (-32003, "ACL_DENIED")
  | "SERVICENOW_UNAVAILABLE" => (-32001, "SERVICENOW_UNAVAILABLE")
  | "INCIDENT_STATE_UNRESOLVED" => (-32602, "INCIDENT_STATE_UNRESOLVED")
  | "SERVICENOW_ERROR" => (-32000, "SERVICENOW_ERROR")
  | "UPSTREAM_ERROR" => (-32059, "UPSTREAM_ERROR")
  | _ => (-32059, "UPSTREAM_ERROR")

/-- The reason of a terminal error. -/
def publicReason (failure : Failure) : String :=
  failure.diagnostic.getD "bulk execution stopped before any target was applied"

/-- The error of a call that has applied nothing. -/
def terminalError (failure : Failure) : JsonRpcError :=
  let (code, message) := terminalCode failure.code
  ⟨code, message, some (errorData message [("reason", .string (publicReason failure))])⟩

/-- Audits a call that has applied nothing and saves its error. -/
def settleError (receipt : BulkReceipt) (failure : Failure) : Gate JsonRpcResponse := do
  let err := terminalError failure
  let _ ← recorded ((ChangeWrite.trail state).append state
    { auditId := receipt.auditId
      parentAuditId := some call.plan.planId
      tool := applyTool
      status := .error
      plannedChanges := some (redactedReceiptSummary receipt)
      serviceNowMetadata := none
      error := some ⟨err.message, publicReason failure, false, false⟩
      identities := some (call.binding.actor, call.binding.requester)
      appliedChanges := none })
  recorded (Daemon.store (.saveBulkError call.request.idempotencyKey applyTool err))
  return .error err

/-- What a call answers with when its receipt is saved. -/
def answerReceipt (receipt : BulkReceipt) : Option Failure → JsonRpcResponse
  | none => .ok (.bulkReceipt receipt)
  | some failure =>
    .failure (-32046) "PARTIAL_FAILURE"
      (errorData "PARTIAL_FAILURE"
        [("failure_code", .string failure.code),
          ("upstream_applied", .bool failure.upstreamApplied),
          ("upstream_diagnostic", ofOption Value.string failure.diagnostic),
          ("receipt", receiptJson state.crates.serializeTime receipt)])

/-- The receipt of a call that has applied something. -/
def settledReceipt (receipt : BulkReceipt) (failure : Option Failure) : BulkReceipt :=
  if failure.isSome then { receipt with status := .partialSuccess } else receipt

/-- Audits a call that has applied something and saves its receipt. -/
def settleReceipt (receipt : BulkReceipt) (failure : Option Failure) : Gate JsonRpcResponse := do
  let _ ← recorded ((ChangeWrite.trail state).append state
    { auditId := receipt.auditId
      parentAuditId := some call.plan.planId
      tool := applyTool
      status := if failure.isSome then .appliedPartial else .appliedSuccess
      plannedChanges := some (redactedReceiptSummary receipt)
      serviceNowMetadata := none
      error := failure.map fun failure =>
        ⟨failure.code, failure.diagnostic.getD failure.code, false, false⟩
      identities := some (call.plan.actor, call.plan.requester)
      appliedChanges := none })
  recorded (Daemon.store (.saveBulkReceipt call.request.idempotencyKey applyTool receipt))
  let _ ← Gate.doing (Daemon.store (.markBulkPlanConsumed call.plan.planId))
  return answerReceipt state receipt failure

/-- The end of a call whose loop has ended. -/
def settle (progress : Progress) : Gate JsonRpcResponse := do
  let completedAt ← Gate.doing Daemon.now
  let receipt := recount { progress.1 with completedAt := completedAt }
  match progress.2 with
  | some failure =>
    if receipt.appliedCount = 0 then settleError state call receipt failure
    else settleReceipt state call (settledReceipt receipt (some failure)) (some failure)
  | none => settleReceipt state call (settledReceipt receipt none) none

/-- The loop and what follows it. -/
def execute (receipt : BulkReceipt) : Gate JsonRpcResponse := do
  saveProgress call receipt
  let progress ← executeTargets state call receipt 0 call.plan.preview.targets
  settle state call progress

end Call

/-- `handle_apply`. -/
def handleApply (params : Except String BulkApplyRequest) : Handler JsonRpcResponse :=
  (admitCall state params).enter fun call =>
    (prepare state call).enter fun receipt => (execute state call receipt).enter pure

end BulkWrite

end SnowAgent
