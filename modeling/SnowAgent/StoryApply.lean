import SnowAgent.StoryRecovery

/-! # Applying a Story plan

The apply handler, stage by stage; each stage ends in the next one or in an answer.
It looks at its idempotency key before it looks at the token, reserves the key before
the guards run, validates the token just before the write, and consumes it after the
write.  A key that is pending, which it is from the plan call on, goes through
recovery first; a call that recovery lets proceed with a token that is already
consumed does not look at the token again.
-/
namespace SnowAgent

open Json Text

/-- `ConcurrencyToken`, read from JSON as `serde` reads it. -/
def ConcurrencyToken.fromJson (v : Value) : Option ConcurrencyToken :=
  let modCount : Value → Option (Option Int)
    | .null => some none
    | .number n => (parseI64 n.text).map some
    | _ => none
  match v with
  | .object fields => do
    let sysUpdatedOn ← (lookup "sys_updated_on" fields).bind Value.asStr
    let sysModCount ← modCount ((lookup "sys_mod_count" fields).getD .null)
    return ⟨sysUpdatedOn, sysModCount⟩
  | .array [.string sysUpdatedOn, count] => do
    let sysModCount ← modCount count
    return ⟨sysUpdatedOn, sysModCount⟩
  | _ => none

/-- `concurrency_token` of the parameters. -/
def suppliedConcurrency (params : Value) : Option ConcurrencyToken :=
  (params.get "concurrency_token").bind ConcurrencyToken.fromJson

namespace StoryWrite

/-- What an apply call has found out when it turns to its idempotency key. -/
structure ApplyCall where
  tool : String
  planId : String
  token : String
  key : String
  planRecord : PlanStoreRecord
  binding : ConfirmationBinding
  board : BoardBinding
  concurrency : Option ConcurrencyToken

namespace ApplyCall

/-- The plan to apply. -/
def plan (call : ApplyCall) : OperationPlan := call.planRecord.planJson.plan

end ApplyCall

variable (state : DaemonState)

/-- `apply_plan`. -/
def applyPlan (tool : String) (plan : OperationPlan) : Handler (Except String WriteResult) :=
  match tool with
  | "story_apply_create" => Daemon.write plan.planId (.create "rm_story" plan.plannedChanges)
  | "story_task_apply_create" =>
    Daemon.write plan.planId (.create "rm_scrum_task" plan.plannedChanges)
  | "story_apply_update" =>
    match plan.target with
    | none => pure (.error "update plan missing target")
    | some target =>
      Daemon.write plan.planId (.update "rm_story" target.sysId plan.plannedChanges)
  | "story_task_apply_update" =>
    match plan.target with
    | none => pure (.error "task update plan missing target")
    | some target =>
      Daemon.write plan.planId (.update "rm_scrum_task" target.sysId plan.plannedChanges)
  | tool => pure (.error ("unsupported Story apply tool " ++ tool))

/-- An apply makes one write for its plan, or none. -/
theorem applyPlan_cases (tool : String) (plan : OperationPlan) :
    (∃ text, applyPlan tool plan = pure (.error text)) ∨
    (∃ table, applyPlan tool plan = Daemon.write plan.planId (.create table plan.plannedChanges)) ∨
    ∃ table target, plan.target = some target ∧ applyPlan tool plan =
      Daemon.write plan.planId (.update table target.sysId plan.plannedChanges) := by
  fun_cases applyPlan tool plan with
  | case1 => exact .inr (.inl ⟨_, rfl⟩)
  | case2 => exact .inr (.inl ⟨_, rfl⟩)
  | case3 => exact .inl ⟨_, rfl⟩
  | case4 target htarget => exact .inr (.inr ⟨_, target, htarget, rfl⟩)
  | case5 => exact .inl ⟨_, rfl⟩
  | case6 target htarget => exact .inr (.inr ⟨_, target, htarget, rfl⟩)
  | case7 => exact .inl ⟨_, rfl⟩

variable (call : ApplyCall)

/-- Refuses a confirmation, and counts the refusal. -/
def refuseConfirmation (err : ConfirmationConsumeError) : Handler JsonRpcResponse := do
  let _ ← Daemon.rateLimit "story_failed_confirmation" call.binding.actor call.tool
    (2 ^ 32 - 1) true
  confirmationInvalid state call.tool err

/-- The refusal of a key that is bound to another operation. -/
def keyConflict (boundOpHash : String) : Handler JsonRpcResponse :=
  auditedStoryError state call.tool (-32052) "IDEMPOTENCY_CONFLICT"
    (errorData "IDEMPOTENCY_CONFLICT" [("idempotency_key", .string call.key),
      ("bound_op_hash", .string boundOpHash),
      ("attempted_op_hash", .string call.plan.opHash)]) .denied

/-- Answers with a stored receipt, if the token fits it. -/
def replayReceipt (receipt : OperationReceipt) : Handler JsonRpcResponse := do
  match ← validateReplayConfirmation call.token call.binding with
  | .error err => refuseConfirmation state call err
  | .ok () => return .ok (.receipt { receipt with idempotencyReplay := true })

/-- The row of the key, if it has not expired. -/
def recordInForce : Handler (Option IdempotencyRecord) := do
  match ← Daemon.store (.lookupRecord call.key call.tool) with
  | .ok (some record) =>
    let t ← Daemon.now
    return if t < record.expiresAt then some record else none
  | _ => return none

/-! ## After the write -/

/-- Saves a receipt, marks the plan consumed and answers with the receipt. -/
def saveAndAnswer (receipt : OperationReceipt) : Handler JsonRpcResponse := do
  match ← Daemon.store (.saveReceipt call.key receipt) with
  | .error text => return internalError text
  | .ok _ =>
    let _ ← Daemon.store (.markPlanConsumed call.plan.planId)
    return .ok (.receipt receipt)

/-- Consumes the token, unless it was consumed already, and goes on. -/
def consumeThen (alreadyConsumed : Bool) (next : Handler JsonRpcResponse) :
    Handler JsonRpcResponse := do
  if alreadyConsumed then next
  else match ← consumeAudited state call.plan.planId call.token call.binding with
    | .error err => refuseConfirmation state call err
    | .ok (.error text) => return internalError text
    | .ok (.ok _) => next

/-- Audits a write and answers with its receipt. -/
def settleWrite (applyStartedAt : DateTime) (beforeRecord : Option SnowRecord)
    (result : WriteResult) : Handler JsonRpcResponse := do
  let auditId ← Daemon.uuid
  let receipt ← receiptForWrite state call.plan call.tool auditId applyStartedAt result.record
    result.concurrency beforeRecord call.planRecord.planJson.receiptWarnings
  let note := receiptNote state call.planRecord.planJson receipt call.tool .appliedSuccess
    call.binding.actor call.binding.requester
  match ← appendAuditEvent state note with
  | .error text => return internalError text
  | .ok _ => saveAndAnswer call receipt

/-- Looks for the outcome of a write that was answered with an error. -/
def recoverFailedWrite (alreadyConsumed : Bool) (text : String) : Handler JsonRpcResponse := do
  match ← tryResolvePendingReceipt state call.tool call.planRecord with
  | .ok (.recovered receipt) =>
    consumeThen state call alreadyConsumed (saveAndAnswer call receipt)
  | .ok .proceed =>
    auditedStoryError state call.tool (-32059) "UPSTREAM_ERROR"
      (errorData "UPSTREAM_ERROR" [("reason", .string text), ("retry_after_seconds", ofNat 2)])
      .error
  | .ok .needsOperator => pendingResolutionRequired state call.tool call.plan
  | .error text => return internalError text

/-- Writes, and consumes the token after a write that succeeded. -/
def writePlan (alreadyConsumed : Bool) (beforeRecord : Option SnowRecord) :
    Handler JsonRpcResponse := do
  let applyStartedAt ← Daemon.now
  match ← Daemon.markApplyStarted call.key call.tool with
  | .error text => return internalError text
  | .ok () =>
    match ← applyPlan call.tool call.plan with
    | .error text => recoverFailedWrite state call alreadyConsumed text
    | .ok result =>
      consumeThen state call alreadyConsumed
        (settleWrite state call applyStartedAt beforeRecord result)

/-! ## Before the write -/

/-- Validates the token, unless recovery let a consumed one proceed. -/
def confirmWrite (alreadyConsumed : Bool) (beforeRecord : Option SnowRecord) :
    Handler JsonRpcResponse := do
  if alreadyConsumed then writePlan state call alreadyConsumed beforeRecord
  else match ← Daemon.store (.lookupConfirmation call.token) with
    | .error text => return internalError text
    | .ok none => refuseConfirmation state call .notFound
    | .ok (some confirmation) =>
      match ← validateConfirmation confirmation call.binding with
      | .error err => refuseConfirmation state call err
      | .ok () => writePlan state call alreadyConsumed beforeRecord

/-- The reads of the field checks: the record before an update, and the checks of the
planned values. -/
def governWrite :
    Program SnowReads (Except String (Option SnowRecord × Except PlanBuildError Unit)) := do
  let govern (beforeRecord : Option SnowRecord) := do
    let result ← (enforceApplyFieldGovernance call.tool call.plan call.board state.policy
      beforeRecord).run
    return .ok (beforeRecord, result)
  if contains call.tool "_update" then
    match call.plan.target with
    | none => govern none
    | some target =>
      match ← SnowRead.getRecordFresh target.number with
      | .error text => return .error text
      | .ok record => govern record
  else govern none

/-- Checks the planned fields once more. -/
def checkFields (alreadyConsumed : Bool) : Handler JsonRpcResponse := do
  match ← Daemon.reading (governWrite state call) with
  | .error text => return internalError text
  | .ok (_, .error err) => planBuildErrorToApplyResponse state call.tool err
  | .ok (beforeRecord, .ok ()) => confirmWrite state call alreadyConsumed beforeRecord

/-- The refusal of a concurrency token. -/
def concurrencyInvalid (reason : String) : Handler JsonRpcResponse :=
  auditedStoryError state call.tool (-32061) "CONCURRENCY_TOKEN_INVALID"
    (errorData "CONCURRENCY_TOKEN_INVALID" [("reason", .string reason)]) .denied

/-- Compares the target's version with the planned one. -/
def checkVersion (alreadyConsumed : Bool) (expected : ConcurrencyToken) (target : RecordRef) :
    Handler JsonRpcResponse := do
  match ← Daemon.reading (SnowRead.getRecordFresh target.number) with
  | .error text => return internalError text
  | .ok none =>
    auditedStoryError state call.tool (-32056) "PLAN_NOT_FOUND"
      (errorData "PLAN_NOT_FOUND" [("plan_id", .string call.plan.planId)]) .error
  | .ok (some current) =>
    match (concurrencyFromRecord current).filter (· ≠ expected) with
    | some observed =>
      auditedStoryError state call.tool (-32053) "CONCURRENCY_CONFLICT"
        (errorData "CONCURRENCY_CONFLICT" [("record_sys_id", .string target.sysId),
          ("expected", expected.toJson), ("observed", observed.toJson)]) .denied
    | none => checkFields state call alreadyConsumed

/-- Checks the concurrency token, where the plan has one. -/
def checkConcurrency (alreadyConsumed : Bool) : Handler JsonRpcResponse :=
  match call.planRecord.concurrencyToken with
  | none => checkFields state call alreadyConsumed
  | some expected =>
    match call.concurrency with
    | none => concurrencyInvalid state call "missing concurrency_token"
    | some supplied =>
      if supplied ≠ expected then concurrencyInvalid state call "token does not match plan"
      else match call.plan.target with
        | none => checkFields state call alreadyConsumed
        | some target => checkVersion state call alreadyConsumed expected target

/-- Runs the board guard. -/
def guardWrite (alreadyConsumed : Bool) : Handler JsonRpcResponse := do
  match ← Daemon.reading (enforceApplyGuard call.tool call.plan call.board) with
  | .ok () => checkConcurrency state call alreadyConsumed
  | .error failure =>
    match storyScopeFailureFieldRejections failure with
    | some fields => fieldsRejected state call.tool fields
    | none => guardRefused state call.tool failure

/-- Reserves the key. -/
def reserveKey (alreadyConsumed : Bool) : Handler JsonRpcResponse := do
  match ← Daemon.checkAndRecord call.key call.tool call.plan.opHash
      state.policy.idempotencyWindowSeconds with
  | .error text => return internalError text
  | .ok .newKey | .ok (.pending _ _) => guardWrite state call alreadyConsumed
  | .ok (.replay receipt) => replayReceipt state call receipt
  | .ok (.conflict _) =>
    match ← Daemon.store (.lookupRecord call.key call.tool) with
    | .ok (some record) => keyConflict state call record.opHash
    | _ => keyConflict state call ""

/-- Turns an expired plan away, and counts the write against the rate limit. -/
def admitWrite (planExpired alreadyConsumed : Bool) : Handler JsonRpcResponse := do
  if planExpired then
    let _ ← Daemon.store (.markPlanExpired call.planId)
    auditedStoryError state call.tool (-32055) "PLAN_EXPIRED"
      (errorData "PLAN_EXPIRED" [("plan_id", .string call.planId),
        ("expired_at", .string (state.crates.rfc3339 call.planRecord.expiresAt))]) .denied
  else
    let wait ← Daemon.rateLimit "story_apply" call.binding.actor call.tool
      state.rateLimit.writePerMinute true
    match wait with
    | some retryAfterSeconds => rateLimited state call.tool retryAfterSeconds
    | none => reserveKey state call alreadyConsumed

/-- Recovers a pending key with a token that fits it. -/
def recoverPending (planExpired alreadyConsumed : Bool) : Handler JsonRpcResponse := do
  let consume := if alreadyConsumed then none else some (call.token, call.binding)
  match ← resolvePendingResponse state call.tool call.key call.planRecord consume with
  | .ok (.recovered receipt) => return .ok (.receipt receipt)
  | .ok .proceed => admitWrite state call planExpired alreadyConsumed
  | .ok .needsOperator => pendingResolutionRequired state call.tool call.plan
  | .error text => return internalError text

/-- Takes a pending key to recovery; a consumed token must only be bound to the call. -/
def resolvePending (planExpired : Bool) : Handler JsonRpcResponse := do
  match ← Daemon.store (.lookupConfirmation call.token) with
  | .error text => return internalError text
  | .ok none => admitWrite state call planExpired false
  | .ok (some confirmation) =>
    let validation ←
      if confirmation.consumed then validateConfirmationBinding confirmation call.binding
      else validateConfirmation confirmation call.binding
    match validation with
    | .error err => refuseConfirmation state call err
    | .ok () => recoverPending state call planExpired confirmation.consumed

/-- Looks at the key a second time, for a row without a receipt. -/
def checkPending : Handler JsonRpcResponse := do
  let planExpired ←
    if call.planRecord.state = .expired then pure true
    else do
      let t ← Daemon.now
      pure (decide (call.planRecord.expiresAt ≤ t))
  match (← recordInForce call).filter fun record => record.receipt.isNone with
  | some _ => resolvePending state call planExpired
  | none => admitWrite state call planExpired false

/-- Looks at the key, for another operation or a receipt. -/
def checkKey : Handler JsonRpcResponse := do
  match ← recordInForce call with
  | none => checkPending state call
  | some record =>
    if record.opHash ≠ call.plan.opHash then keyConflict state call record.opHash
    else match record.receipt with
      | some receipt => replayReceipt state call receipt
      | none => checkPending state call

/-! ## The handler -/

/-- Loads the plan and checks that it is for this tool and this caller's rate. -/
def loadPlan (tool : String) (params : Value) (board : BoardBinding)
    (planId token key : String) : Handler JsonRpcResponse := do
  match ← Daemon.openStores with
  | .error text => return internalError text
  | .ok () =>
    match ← Daemon.store (.getPlan planId) with
    | .error text => return internalError text
    | .ok none =>
      auditedStoryError state tool (-32056) "PLAN_NOT_FOUND"
        (errorData "PLAN_NOT_FOUND" [("plan_id", .string planId)]) .error
    | .ok (some planRecord) =>
      let plan := planRecord.planJson.plan
      let applyTool := applyToolForPlanTool plan.tool
      if applyTool ≠ tool then
        return invalidParams
          ("plan " ++ plan.planId ++ " is bound to " ++ applyTool ++ ", not " ++ tool)
      let actor := actorFromParams params state
      let call : ApplyCall :=
        { tool := tool
          planId := planId
          token := token
          key := key
          planRecord := planRecord
          binding :=
            { actor := actor
              requester := requesterFromParams params actor
              tool := tool
              opHash := plan.opHash
              environment := state.environment.label }
          board := board
          concurrency := suppliedConcurrency params }
      match ← Daemon.rateLimit "story_failed_confirmation" actor tool
          state.rateLimit.failedConfirmationsPerMinute false with
      | some retryAfterSeconds => rateLimited state tool retryAfterSeconds
      | none => checkKey state call

/-- `handle_story_apply_impl`. -/
def handleStoryApply (tool : String) (params : Value) : Handler JsonRpcResponse := do
  let reject (field reason : String) : Handler JsonRpcResponse :=
    fieldsRejected state tool [fieldReason field reason]
  if killSwitchSet (← Daemon.envVar "SNOW_STORY_WRITE_KILL_SWITCH") then
    return ← auditedStoryError state tool (-32057) "KILL_SWITCH" (errorData "KILL_SWITCH" [])
      .denied
  let some board := boardBinding tool state | reject "story_board_id" "blocked_deny_list"
  if !state.policy.toolEnabledInEnvironment tool state.environment.label then
    return ← reject "tool" "blocked_deny_list"
  let some planId := stringParam params "plan_id" | reject "plan_id" "type_mismatch"
  let some token := stringParam params "confirmation_token"
    | reject "confirmation_token" "type_mismatch"
  let some key := stringParam params "idempotency_key"
    | reject "idempotency_key" "type_mismatch"
  loadPlan state tool params board planId token key

end StoryWrite

end SnowAgent
