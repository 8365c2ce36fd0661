import SnowAgent.ApplyGate

/-! # Submitting a catalog order

The submit handler checks its plan and its token, reserves its idempotency key, and then
consumes the token before anything else: what follows on that, up to the order itself,
is done with a token that is spent.  The handler audits nothing.
-/
namespace SnowAgent

open Json Text

/-- The state of a plan, as JSON. -/
def PlanLifecycleState.toJson : PlanLifecycleState → Value
  | .pending => .string "pending"
  | .consumed => .string "consumed"
  | .expired => .string "expired"

namespace CatalogWrite

variable (state : DaemonState)

/-- `CATALOG_PLAN_TOOL`. -/
def catalogPlanTool : String := "catalog_plan_request"

/-- `CATALOG_SUBMIT_TOOL`. -/
def catalogSubmitTool : String := "catalog_submit_request"

/-- `catalog_error`. -/
def catalogError (code : Int) (message : String) (data : Value) : JsonRpcResponse :=
  .failure code message data

/-- `field_rejected`. -/
def fieldRejected (field reason : String) : JsonRpcResponse :=
  catalogError (-32051) "FIELD_REJECTED"
    (errorData "FIELD_REJECTED"
      [("fields", .array [obj [("field", .string field), ("reason", .string reason)]])])

/-- `confirmation_invalid`. -/
def confirmationInvalid (err : ConfirmationConsumeError) : JsonRpcResponse :=
  catalogError (-32050) "CONFIRMATION_INVALID"
    (errorData "CONFIRMATION_INVALID" [("reason", .string err.message)])

/-- What a submit call has found out when it turns to its idempotency key. -/
structure SubmitCall where
  planId : String
  token : String
  key : String
  plan : OperationPlan
  binding : ConfirmationBinding

/-! ## Before the key -/

/-- A parameter of the call. -/
def requiredParam (params : Value) (field : String) : Gate String :=
  Gate.require? (stringParam params field) (pure (fieldRejected field "type_mismatch"))

/-- Checks that a plan was found, that it is pending and not expired, and that it is a
catalog plan. -/
def checkPlan (planId : String) (found : Option PlanStoreRecord) : Gate OperationPlan := do
  let record ← Gate.require? found
    (pure (catalogError (-32004) "plan not found" (obj [("plan_id", .string planId)])))
  Gate.require (record.state = .pending)
    (pure (catalogError (-32053) "PLAN_NOT_PENDING"
      (obj [("plan_id", .string planId), ("state", record.state.toJson)])))
  let t ← Gate.doing Daemon.now
  Gate.require (t < record.expiresAt) do
    let _ ← Daemon.store (.markPlanExpired planId)
    return catalogError (-32053) "PLAN_EXPIRED" (obj [("plan_id", .string planId)])
  let plan := record.planJson.plan
  Gate.require (plan.tool = catalogPlanTool)
    (pure (catalogError (-32053) "PLAN_TOOL_MISMATCH"
      (obj [("plan_id", .string planId), ("tool", .string plan.tool)])))
  return plan

/-- Loads the plan. -/
def loadPlan (planId : String) : Gate OperationPlan := do
  Gate.trying Daemon.openStores
  let found ← Gate.trying (Daemon.store (.getPlan planId))
  checkPlan planId found

/-- Checks a token that is looked up. -/
def checkToken (token : String) (binding : ConfirmationBinding) : Gate Unit := do
  match ← Gate.doing (Daemon.store (.lookupConfirmation token)) with
  | .ok (some confirmation) =>
    match ← Gate.doing (SnowAgent.validateConfirmation confirmation binding) with
    | .error err => Gate.answer (pure (confirmationInvalid err))
    | .ok () => return ()
  | _ => Gate.answer (pure (confirmationInvalid .notFound))

/-- Checks the tool, the parameters, the plan and the token. -/
def admitSubmit (params : Value) : Gate SubmitCall := do
  Gate.require (state.policy.toolEnabledInEnvironment catalogSubmitTool state.environment.label)
    (pure (catalogError (-32040) "policy denied"
      (obj [("details", .string "catalog submit tool is disabled by current MCP policy"),
        ("tool", .string catalogSubmitTool)])))
  let planId ← requiredParam params "plan_id"
  let token ← requiredParam params "confirmation_token"
  let key ← requiredParam params "idempotency_key"
  let plan ← loadPlan planId
  let actor := actorFromParams params state
  let binding : ConfirmationBinding :=
    { actor := actor
      requester := requesterFromParams params actor
      tool := catalogSubmitTool
      opHash := plan.opHash
      environment := state.environment.label }
  checkToken token binding
  return { planId := planId, token := token, key := key, plan := plan, binding := binding }

/-! ## The order -/

/-- `receipt_for_catalog_submit`, completed at an instant. -/
def receiptForCatalogSubmit (plan : OperationPlan) (auditId : String)
    (applyStartedAt completedAt : DateTime) (result : CatalogSubmitResult) : OperationReceipt where
  planId := plan.planId
  auditId := auditId
  parentAuditId := plan.planId
  tool := catalogSubmitTool
  status := .success
  appliedChangesSummary := some (obj [("catalog_item", .string result.itemSysId),
    ("table", ofOption .string result.table), ("sys_id", ofOption .string result.sysId),
    ("number", ofOption .string result.number),
    ("request_number", ofOption .string result.requestNumber),
    ("request_item_number", ofOption .string result.requestItemNumber)])
  serviceNowMetadata := some ⟨result.sysId, result.number, none⟩
  idempotencyReplay := false
  completedAt := completedAt
  opHash := plan.opHash
  recordUrl := result.browserUrl
  recordSnapshot := some result.json
  changedFields := [⟨"catalog_request", none, some result.rawResult⟩]
  concurrencyTokenObserved := none
  applyStartedAt := some applyStartedAt
  errorCode := none
  warnings := []

variable (call : SubmitCall)

/-- Saves the receipt of an order that was placed. -/
def settleOrder (applyStartedAt : DateTime) (result : CatalogSubmitResult) :
    Handler JsonRpcResponse := do
  let auditId ← Daemon.uuid
  let completedAt ← Daemon.now
  let receipt := receiptForCatalogSubmit call.plan auditId applyStartedAt completedAt result
  match ← Daemon.store (.saveReceipt call.key receipt) with
  | .error text => return internalError text
  | .ok _ =>
    let _ ← Daemon.store (.markPlanConsumed call.plan.planId)
    return .ok (.receipt receipt)

/-- What a plan orders: the item, and the body of the request. -/
def orderOf (plan : OperationPlan) : Except String (String × Value) :=
  match (plan.plannedChanges.get "item_sys_id").bind Value.asStr with
  | none => .error "catalog plan missing item_sys_id"
  | some itemSysId =>
    match plan.plannedChanges.get "request_body" with
    | none => .error "catalog plan missing request_body"
    | some body => .ok (itemSysId, body)

/-- Marks the key and places the order. -/
def placeOrder : Handler JsonRpcResponse := do
  let applyStartedAt ← Daemon.now
  match ← Daemon.markApplyStarted call.key catalogSubmitTool with
  | .error text => return internalError text
  | .ok () =>
    match orderOf call.plan with
    | .error text => return internalError text
    | .ok (itemSysId, body) =>
      match ← Daemon.write call.plan.planId (.submitCatalogRequest itemSysId body) with
      | .error text => return internalError text
      | .ok result => settleOrder call applyStartedAt result

/-- Consumes the token, and places the order. -/
def spendToken : Handler JsonRpcResponse := do
  match ← Daemon.consumeConfirmation call.token call.binding with
  | .error err => return confirmationInvalid err
  | .ok _ => placeOrder call

/-- `validate_replay_confirmation`: the row must not have expired. -/
def validateReplayConfirmation : Handler (Except ConfirmationConsumeError Unit) := do
  match ← Daemon.store (.lookupConfirmation call.token) with
  | .ok (some record) => SnowAgent.validateConfirmationBinding record call.binding
  | _ => return .error .notFound

/-- Reserves the key. -/
def reserveKey : Handler JsonRpcResponse := do
  match ← Daemon.checkAndRecord call.key catalogSubmitTool call.plan.opHash
      state.policy.idempotencyWindowSeconds with
  | .error text => return internalError text
  | .ok .newKey => spendToken call
  | .ok (.replay receipt) =>
    match ← validateReplayConfirmation call with
    | .error err => return confirmationInvalid err
    | .ok () => return .ok (.receipt receipt)
  | .ok (.pending retryable transient) =>
    return catalogError (-32053) "IDEMPOTENCY_PENDING"
      (obj [("retryable", .bool retryable), ("transient", .bool transient)])
  | .ok (.conflict reason) =>
    return catalogError (-32052) "IDEMPOTENCY_CONFLICT"
      (obj [("reason", .string reason), ("attempted_op_hash", .string call.plan.opHash)])

/-- `handle_catalog_submit_request`. -/
def handleCatalogSubmitRequest (params : Value) : Handler JsonRpcResponse :=
  (admitSubmit state params).enter (reserveKey state)

end CatalogWrite

end SnowAgent
