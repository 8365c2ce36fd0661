import SnowAgent.ApplyGate

/-! # Applying a plan

What the apply handlers have in common.  A call loads its plan, looks at its idempotency key
and reserves it, runs the checks of its family, finds its confirmation token unspent, marks
the key, writes, and only then consumes the token, audits the write and saves its receipt.
The families differ in the checks, in the texts of their refusals and in where they audit.
-/
namespace SnowAgent

open Json Text

/-! ## Auditing -/

/-- Where a family of handlers audits, and how. -/
structure AuditTrail where
  path : String
  /-- Events that are older are deleted before each append. -/
  retentionDays : Option UInt32
  /-- `policy_decisions_for`. -/
  decisions : String → ResultStatus → Option ErrorRow → List PolicyDecisionRow

namespace AuditTrail

variable (trail : AuditTrail) (state : DaemonState)

/-- `enforce_retention`, where the family enforces it. -/
def retain : Handler (Except String Unit) :=
  match trail.retentionDays with
  | none => pure (.ok ())
  | some days => do
    let t ← Daemon.now
    match ← Daemon.store (.enforceRetention trail.path t days) with
    | .error text => return .error text
    | .ok _ => return .ok ()

/-- `append_audit_event`. -/
def append (note : AuditNote) : Handler (Except String AuditEvent) := do
  match ← Daemon.openStores with
  | .error text => return .error text
  | .ok () =>
    match ← trail.retain with
    | .error text => return .error text
    | .ok () =>
      let t ← Daemon.now
      Daemon.appendAudit trail.path
        (note.event state t (trail.decisions note.tool note.status note.error))

/-- Audits a refusal, and answers with it; a refusal that cannot be audited is answered as an
internal error. -/
def refuse (tool : String) (status : ResultStatus) (error : ErrorRow)
    (response : JsonRpcResponse) : Handler JsonRpcResponse := do
  let auditId ← Daemon.uuid
  match ← trail.append state (AuditNote.refusal auditId tool status error) with
  | .ok _ => return response
  | .error text => return internalError text

/-- Audits a refusal if it can, and answers with it. -/
def refuseAnyway (tool : String) (status : ResultStatus) (error : Option ErrorRow)
    (response : JsonRpcResponse) : Handler JsonRpcResponse := do
  let auditId ← Daemon.uuid
  let note := AuditNote.refusal auditId tool status ⟨"", "", false, false⟩
  let _ ← trail.append state { note with error := error }
  return response

end AuditTrail

/-- `error_row_from_data`. -/
def errorRowFromData (message : String) (data : Value) : ErrorRow where
  code := message
  reason := ((((data.get "reason").bind Value.asStr).orElse fun _ =>
    (data.get "details").bind Value.asStr).orElse fun _ =>
      (data.get "code").bind Value.asStr).getD message
  retryable := ((data.get "retryable").bind Value.asBool).getD false
  transient := ((data.get "transient").bind Value.asBool).getD false

/-- The actions of an audit. -/
def audits : DaemonAct → Prop
  | .openStores | .now => True
  | .store (.enforceRetention ..) | .store (.appendAudit ..) => True
  | _ => False

theorem refuses_of_audits {e : DaemonAct} (h : audits e) : refuses e := by
  cases e with
  | write => exact h
  | store call => cases call <;> trivial
  | _ => trivial

/-! An audit is calm, and so is a refusal. -/

section Calm

open Program

variable (trail : AuditTrail) (state : DaemonState)

theorem audits_retain : trail.retain.Uses audits fun _ => True := by
  unfold AuditTrail.retain
  split
  · exact uses_pure trivial
  · refine uses_perform trivial fun t => ?_
    refine uses_perform trivial fun deleted => ?_
    cases deleted <;> exact uses_pure trivial

variable (note : AuditNote)

theorem audits_append : (trail.append state note).Uses audits fun _ => True := by
  refine uses_perform trivial fun opened => ?_
  cases opened with
  | error text => exact uses_pure trivial
  | ok _ =>
    refine uses_bind (audits_retain trail) fun retained _ => ?_
    cases retained with
    | error text => exact uses_pure trivial
    | ok _ =>
      refine uses_perform trivial fun t => ?_
      exact uses_perform trivial fun _ =>
        performs trivial

theorem refuses_append : (trail.append state note).Uses refuses fun _ => True :=
  (audits_append trail state note).mono (fun _ => refuses_of_audits) fun _ => id

theorem calm_append : (trail.append state note).Uses calm fun _ => True :=
  (refuses_append trail state note).mono (fun _ => calm_of_refuses) fun _ => id

variable (tool : String) (status : ResultStatus)

theorem calm_refuse (error : ErrorRow)
    (response : JsonRpcResponse) : CalmRefusal (trail.refuse state tool status error response) := by
  refine uses_perform trivial fun auditId => ?_
  refine uses_bind (refuses_append trail state _) fun appended _ => ?_
  cases appended <;> exact uses_pure trivial

/-- A refusal that is audited if it can be is answered as it is. -/
theorem refuseAnyway_answers (error : Option ErrorRow) (response : JsonRpcResponse) :
    (trail.refuseAnyway state tool status error response).Uses refuses fun answered =>
      answered = response := by
  refine uses_perform trivial fun auditId => ?_
  exact uses_bind (refuses_append trail state _) fun _ _ => uses_pure rfl

theorem calm_refuseAnyway (error : Option ErrorRow) (response : JsonRpcResponse) :
    CalmRefusal (trail.refuseAnyway state tool status error response) :=
  (refuseAnyway_answers trail state tool status error response).forget

end Calm

/-- How a family answers with an error: the code, the message, the data, and the status it is
audited with. -/
abbrev Refuse := Int → String → Value → ResultStatus → Handler JsonRpcResponse

/-! ## Kill switches -/

/-- Whether one of some variables is set, up to the first that is. -/
def anyKillSwitch : List String → Handler Bool
  | [] => pure false
  | name :: names => do
    if killSwitchSet (← Daemon.envVar name) then return true else anyKillSwitch names

/-- The refusal of a call whose family is switched off. -/
def requireSwitchedOn (refuse : Refuse) (switched : Handler Bool) : Gate Unit := do
  let off ← Gate.doing switched
  Gate.require (!off) (refuse (-32057) "KILL_SWITCH" (errorData "KILL_SWITCH" []) .denied)

/-! ## The plan -/

/-- What an apply call has found out when it turns to its idempotency key. -/
structure PlannedCall where
  tool : String
  planId : String
  token : String
  key : String
  planRecord : PlanStoreRecord
  binding : ConfirmationBinding
  concurrency : Option ConcurrencyToken

namespace PlannedCall

/-- The plan to apply. -/
def plan (call : PlannedCall) : OperationPlan := call.planRecord.planJson.plan

end PlannedCall

variable (refuse : Refuse)

/-- The refusal of a field of the call. -/
def rejectField (field reason : String) : Handler JsonRpcResponse :=
  refuse (-32051) "FIELD_REJECTED" (rejectedFields [fieldReason field reason]) .denied

/-- A parameter of the call. -/
def requiredParam (params : Value) (field : String) : Gate String :=
  Gate.require? (stringParam params field) (rejectField refuse field "type_mismatch")

/-- Opens the stores and loads the plan. -/
def findPlan (planId : String) : Gate PlanStoreRecord := do
  Gate.trying Daemon.openStores
  let found ← Gate.trying (Daemon.store (.getPlan planId))
  Gate.require? found
    (refuse (-32056) "PLAN_NOT_FOUND" (errorData "PLAN_NOT_FOUND" [("plan_id", .string planId)])
      .error)

/-- The call, once its plan is loaded. -/
def plannedCall (state : DaemonState) (tool : String) (params : Value) (planId token key : String)
    (planRecord : PlanStoreRecord) : PlannedCall :=
  let actor := actorFromParams params state
  { tool := tool
    planId := planId
    token := token
    key := key
    planRecord := planRecord
    binding :=
      { actor := actor
        requester := requesterFromParams params actor
        tool := tool
        opHash := planRecord.planJson.plan.opHash
        environment := state.environment.label }
    concurrency := suppliedConcurrency params }

/-- Whether a plan is marked expired, or is past its time. -/
def planExpired (planRecord : PlanStoreRecord) : Handler Bool := do
  if planRecord.state = .expired then return true
  let t ← Daemon.now
  return decide (planRecord.expiresAt ≤ t)

/-- Turns an expired plan away. -/
def rejectExpired (call : PlannedCall) (data : Value) : Gate Unit := do
  let expired ← Gate.doing (planExpired call.planRecord)
  Gate.require (!expired) do
    let _ ← Daemon.store (.markPlanExpired call.planId)
    refuse (-32055) "PLAN_EXPIRED" data .denied

/-- What the refusal of an expired plan says. -/
def planExpiredData (rfc3339 : Rfc3339) (call : PlannedCall) : Value :=
  errorData "PLAN_EXPIRED" [("plan_id", .string call.planId),
    ("expired_at", .string (rfc3339 call.planRecord.expiresAt))]

/-! ## The idempotency key -/

/-- How a family checks a row of the confirmations against a caller. -/
abbrev Validate :=
  ConfirmationRecord → ConfirmationBinding → Handler (Except ConfirmationConsumeError Unit)

/-- `confirmation_invalid`. -/
def refuseConfirmation (err : ConfirmationConsumeError) : Handler JsonRpcResponse :=
  refuse (-32054) "CONFIRMATION_INVALID"
    (errorData "CONFIRMATION_INVALID" [("reason", .string err.message)]) .denied

/-- Answers with a stored receipt, if the token fits it. -/
def replayReceipt (validate : Validate) (call : PlannedCall) (receipt : OperationReceipt) :
    Handler JsonRpcResponse := do
  match ← Daemon.store (.lookupConfirmation call.token) with
  | .ok (some record) =>
    match ← validate record call.binding with
    | .error err => refuseConfirmation refuse err
    | .ok () => return .ok (.receipt { receipt with idempotencyReplay := true })
  | _ => refuseConfirmation refuse .notFound

/-- The row of a key, if it has not expired. -/
def keyInForce (key tool : String) : Handler (Option IdempotencyRecord) := do
  match ← Daemon.store (.lookupRecord key tool) with
  | .ok (some record) =>
    let t ← Daemon.now
    return if t < record.expiresAt then some record else none
  | _ => return none

/-- What the refusal of a key that is bound to another operation says. -/
def conflictData (call : PlannedCall) (bound : Option String) : Value :=
  errorData "IDEMPOTENCY_CONFLICT"
    ((("idempotency_key", .string call.key) ::
      (bound.map fun opHash => ("bound_op_hash", .string opHash)).toList) ++
        [("attempted_op_hash", .string call.plan.opHash)])

/-- The refusal of a key that is bound to another operation. -/
def refuseConflict (data : Value) : Handler JsonRpcResponse :=
  refuse (-32052) "IDEMPOTENCY_CONFLICT" data .denied

/-- Looks at the row of the key, if one is in force: for another operation, for a receipt, and
in some families for an apply that was started. -/
def checkKey (replay : OperationReceipt → Handler JsonRpcResponse)
    (conflict : IdempotencyRecord → Value)
    (pending : Option (IdempotencyRecord → Handler JsonRpcResponse)) (call : PlannedCall) :
    Gate Unit := do
  match ← Gate.doing (keyInForce call.key call.tool) with
  | none => return ()
  | some record =>
    Gate.require (record.opHash = call.plan.opHash) (refuseConflict refuse (conflict record))
    match record.receipt, pending with
    | some receipt, _ => Gate.answer (replay receipt)
    | none, none => return ()
    | none, some pending => Gate.require record.applyStartedAt.isNone (pending record)

/-- Reserves the key. -/
def reserveKey (replay : OperationReceipt → Handler JsonRpcResponse)
    (conflict : Handler JsonRpcResponse) (windowSeconds : Nat) (call : PlannedCall) :
    Gate Unit := do
  match ← Gate.doing
      (Daemon.checkAndRecord call.key call.tool call.plan.opHash windowSeconds) with
  | .error text => Gate.answer (pure (internalError text))
  | .ok .newKey | .ok (.pending _ _) => return ()
  | .ok (.replay receipt) => Gate.answer (replay receipt)
  | .ok (.conflict _) => Gate.answer conflict

/-! ## The versions -/

/-- The refusal of a concurrency token. -/
def refuseConcurrency (reason : String) : Handler JsonRpcResponse :=
  refuse (-32061) "CONCURRENCY_TOKEN_INVALID"
    (errorData "CONCURRENCY_TOKEN_INVALID" [("reason", .string reason)]) .denied

/-- The refusal of a record that has changed. -/
def refuseChanged (recordSysId : String) (expected : ConcurrencyToken) (observed : Value) :
    Handler JsonRpcResponse :=
  refuse (-32053) "CONCURRENCY_CONFLICT"
    (errorData "CONCURRENCY_CONFLICT" [("record_sys_id", .string recordSysId),
      ("expected", expected.toJson), ("observed", observed)]) .denied

/-- The concurrency token of the call, which must be the plan's. -/
def requireSupplied (call : PlannedCall) (expected : ConcurrencyToken) : Gate Unit := do
  let supplied ← Gate.require? call.concurrency
    (refuseConcurrency refuse "missing concurrency_token")
  Gate.require (supplied = expected) (refuseConcurrency refuse "token does not match plan")

/-- Compares a record's version with the planned one, where the plan has one. -/
def checkConcurrency (call : PlannedCall) (beforeRecord : Option SnowRecord) : Gate Unit :=
  match call.planRecord.concurrencyToken with
  | none => return ()
  | some expected => do
    requireSupplied refuse call expected
    match beforeRecord.bind fun current =>
        ((concurrencyFromRecord current).filter (· ≠ expected)).map (current, ·) with
    | none => return ()
    | some (current, observed) =>
      Gate.answer (refuseChanged refuse current.sysId expected observed.toJson)

/-! ## The token -/

/-- Finds the token and validates it. -/
def checkToken (validate : Validate)
    (invalid : ConfirmationConsumeError → Handler JsonRpcResponse) (call : PlannedCall) :
    Gate Unit := do
  match ← Gate.trying (Daemon.store (.lookupConfirmation call.token)) with
  | none => Gate.answer (refuseConfirmation refuse .notFound)
  | some record =>
    match ← Gate.doing (validate record call.binding) with
    | .error err => Gate.answer (invalid err)
    | .ok () => return ()

/-- Marks the key as started, and says when. -/
def markStarted (call : PlannedCall) : Gate DateTime := do
  let startedAt ← Gate.doing Daemon.now
  Gate.trying (Daemon.markApplyStarted call.key call.tool)
  return startedAt

/-- Consumes the token of a call that has written, and goes on. -/
def consumeThen (call : PlannedCall) (next : Handler JsonRpcResponse) :
    Handler JsonRpcResponse := do
  match ← Daemon.consumeConfirmation call.token call.binding with
  | .error err => refuseConfirmation refuse err
  | .ok _ => next

/-- Audits a write, saves its receipt, marks the plan consumed and answers with the receipt. -/
def settleReceipt (trail : AuditTrail) (state : DaemonState) (call : PlannedCall)
    (note : AuditNote) (receipt : OperationReceipt) : Handler JsonRpcResponse := do
  match ← trail.append state note with
  | .error text => return internalError text
  | .ok _ =>
    match ← Daemon.store (.saveReceipt call.key receipt) with
    | .error text => return internalError text
    | .ok _ =>
      let _ ← Daemon.store (.markPlanConsumed call.plan.planId)
      return .ok (.receipt receipt)

/-! ## What the shared parts use

The gates prepare a write: they neither write nor consume, nor audit nor save a receipt.
Their refusals are calm, as long as those of the family are. -/

section Uses

open Program

variable {refuse}
  (hrefuse : ∀ code message data status, CalmRefusal (refuse code message data status))

variable (record : ConfirmationRecord) (binding : ConfirmationBinding)

theorem inspects_validateConfirmationBinding :
    (validateConfirmationBinding record binding).Uses inspects fun _ => True := by
  unfold validateConfirmationBinding
  split
  · exact uses_pure trivial
  · refine uses_perform trivial fun t => ?_
    split
    · exact uses_pure trivial
    · split <;> exact uses_pure trivial

theorem inspects_validateConfirmation :
    (validateConfirmation record binding).Uses inspects fun _ => True := by
  refine uses_bind (inspects_validateConfirmationBinding record binding) fun checked _ => ?_
  cases checked <;> exact uses_pure trivial

theorem inspects_anyKillSwitch (names : List String) :
    (anyKillSwitch names).Uses inspects fun _ => True := by
  induction names with
  | nil => exact uses_pure trivial
  | cons name names ih =>
    refine uses_perform trivial fun value => ?_
    split
    · exact uses_pure trivial
    · exact ih

include hrefuse

theorem inspects_requireSwitchedOn {switched : Handler Bool}
    (h : switched.Uses inspects fun _ => True) :
    (requireSwitchedOn refuse switched).Uses inspects CalmRefusal fun _ => True := by
  refine Gate.uses_bind (Gate.uses_doing h) fun off _ => ?_
  exact (Gate.uses_require (hrefuse _ _ _ _)).mono (fun _ => id) (fun _ => id) fun _ _ => trivial

theorem inspects_requiredParam (params : Value) (field : String) :
    (requiredParam refuse params field).Uses inspects CalmRefusal fun value =>
      stringParam params field = some value :=
  Gate.uses_require? (hrefuse _ _ _ _)

theorem prepares_findPlan (planId : String) :
    (findPlan refuse planId).Uses prepares CalmRefusal fun _ => True := by
  refine Gate.uses_bind (Gate.uses_trying (performs trivial) fun _ =>
    uses_pure trivial) fun _ _ => ?_
  refine Gate.uses_bind (Gate.uses_trying (performs trivial) fun _ =>
    uses_pure trivial) fun found _ => ?_
  exact (Gate.uses_require? (hrefuse _ _ _ _)).mono (fun _ => id) (fun _ => id) fun _ _ => trivial

variable (call : PlannedCall)

theorem inspects_rejectExpired (data : Value) :
    (rejectExpired refuse call data).Uses inspects CalmRefusal fun _ => True := by
  have hexpired : (planExpired call.planRecord).Uses inspects fun _ => True := by
    unfold planExpired
    split
    · exact uses_pure trivial
    · exact uses_perform trivial fun _ => uses_pure trivial
  refine Gate.uses_bind (Gate.uses_doing hexpired) fun expired _ => ?_
  have hturned : CalmRefusal (do
      let _ ← Daemon.store (.markPlanExpired call.planId)
      refuse (-32055) "PLAN_EXPIRED" data .denied) :=
    uses_perform trivial fun _ => hrefuse _ _ _ _
  exact (Gate.uses_require hturned).mono (fun _ => id) (fun _ => id) fun _ _ => trivial

variable {validate : Validate}

theorem calm_replayReceipt
    (hvalidate : ∀ record binding, (validate record binding).Uses inspects fun _ => True)
    (call : PlannedCall) (receipt : OperationReceipt) :
    CalmRefusal (replayReceipt refuse validate call receipt) := by
  refine uses_perform trivial fun found => ?_
  rcases found with text | (_ | record)
  · exact hrefuse _ _ _ _
  · exact hrefuse _ _ _ _
  · refine uses_bind ((hvalidate record call.binding).mono (fun _ he =>
      refuses_of_prepares (prepares_of_inspects he)) fun _ => id) fun checked _ => ?_
    cases checked with
    | error err => exact hrefuse _ _ _ _
    | ok _ => exact uses_pure trivial

omit hrefuse in
theorem inspects_keyInForce (key tool : String) :
    (keyInForce key tool).Uses inspects fun _ => True := by
  refine uses_perform trivial fun found => ?_
  rcases found with text | (_ | record)
  · exact uses_pure trivial
  · exact uses_pure trivial
  · exact uses_perform trivial fun _ => uses_pure trivial

variable {replay : OperationReceipt → Handler JsonRpcResponse}

theorem inspects_checkKey (hreplay : ∀ receipt, CalmRefusal (replay receipt))
    (conflict : IdempotencyRecord → Value)
    {pending : Option (IdempotencyRecord → Handler JsonRpcResponse)}
    (hpending : ∀ p ∈ pending, ∀ record, CalmRefusal (p record)) (call : PlannedCall) :
    (checkKey refuse replay conflict pending call).Uses inspects CalmRefusal fun _ => True := by
  refine Gate.uses_bind (Gate.uses_doing (inspects_keyInForce _ _)) fun found _ => ?_
  cases found with
  | none => exact Gate.uses_pure trivial
  | some record =>
    refine Gate.uses_bind (Gate.uses_require (hrefuse _ _ _ _)) fun _ _ => ?_
    cases record.receipt with
    | some receipt => exact Gate.uses_answer (hreplay receipt)
    | none =>
      cases pending with
      | none => exact Gate.uses_pure trivial
      | some p =>
        exact (Gate.uses_require (hpending p rfl record)).mono (fun _ => id) (fun _ => id)
          fun _ _ => trivial

omit hrefuse in
theorem inspects_reserveKey (hreplay : ∀ receipt, CalmRefusal (replay receipt))
    {conflict : Handler JsonRpcResponse}
    (hconflict : CalmRefusal conflict) (windowSeconds : Nat) (call : PlannedCall) :
    (reserveKey replay conflict windowSeconds call).Uses inspects CalmRefusal fun _ => True := by
  have hreserve : (Daemon.checkAndRecord call.key call.tool call.plan.opHash
      windowSeconds).Uses inspects fun _ => True :=
    uses_perform trivial fun _ =>
      performs trivial
  refine Gate.uses_bind (Gate.uses_doing hreserve) fun outcome _ => ?_
  rcases outcome with text | (_ | _ | receipt | _)
  · exact Gate.uses_answer (uses_pure trivial)
  · exact Gate.uses_pure trivial
  · exact Gate.uses_pure trivial
  · exact Gate.uses_answer (hreplay receipt)
  · exact Gate.uses_answer hconflict

theorem inspects_requireSupplied (expected : ConcurrencyToken) :
    (requireSupplied refuse call expected).Uses inspects CalmRefusal fun _ => True := by
  refine Gate.uses_bind (Gate.uses_require? (hrefuse _ _ _ _)) fun supplied _ => ?_
  exact (Gate.uses_require (hrefuse _ _ _ _)).mono (fun _ => id) (fun _ => id) fun _ _ => trivial

/-- The versions are compared where there are versions to compare. -/
theorem inspects_checkConcurrency (beforeRecord : Option SnowRecord) :
    (checkConcurrency refuse call beforeRecord).Uses inspects CalmRefusal fun _ =>
      ∀ expected ∈ call.planRecord.concurrencyToken, ∀ current ∈ beforeRecord,
        ∀ observed ∈ concurrencyFromRecord current, observed = expected := by
  unfold checkConcurrency
  split
  · rename_i hnone
    exact Gate.uses_pure fun expected h => by simp [hnone] at h
  · rename_i planned hplanned
    refine Gate.uses_bind (inspects_requireSupplied hrefuse call planned) fun _ _ => ?_
    split
    · rename_i hsame
      refine Gate.uses_pure fun expected h current hcurrent observed hobserved => ?_
      rw [hplanned] at h
      cases h
      rw [Option.mem_def] at hcurrent hobserved
      rw [hcurrent, Option.bind_some, Option.map_eq_none_iff, hobserved] at hsame
      by_contra hne
      rw [Option.filter_some, if_pos (decide_eq_true hne)] at hsame
      cases hsame
    · exact Gate.uses_answer (hrefuse _ _ _ _)

theorem inspects_checkToken
    (hvalidate : ∀ record binding, (validate record binding).Uses inspects fun _ => True)
    {invalid : ConfirmationConsumeError → Handler JsonRpcResponse}
    (hinvalid : ∀ err, CalmRefusal (invalid err)) (call : PlannedCall) :
    (checkToken refuse validate invalid call).Uses inspects CalmRefusal fun _ => True := by
  refine Gate.uses_bind (Gate.uses_trying (performs trivial) fun _ =>
    uses_pure trivial) fun found _ => ?_
  cases found with
  | none => exact Gate.uses_answer (hrefuse _ _ _ _)
  | some record =>
    refine Gate.uses_bind (Gate.uses_doing (hvalidate record call.binding)) fun checked _ => ?_
    cases checked with
    | error err => exact Gate.uses_answer (hinvalid err)
    | ok _ => exact Gate.uses_pure trivial

omit hrefuse in
theorem inspects_markStarted : (markStarted call).Uses inspects CalmRefusal fun _ => True := by
  refine Gate.uses_bind (Gate.uses_doing (performs trivial)) fun startedAt _ => ?_
  have hmarked : (Daemon.markApplyStarted call.key call.tool).Uses inspects fun _ => True :=
    uses_perform trivial fun _ =>
      performs trivial
  exact Gate.uses_bind (Gate.uses_trying hmarked fun _ => uses_pure trivial)
    fun _ _ => Gate.uses_pure trivial

omit hrefuse in
/-- A write is answered with its receipt, or with an internal error. -/
theorem calm_settleReceipt (trail : AuditTrail) (state : DaemonState) (call : PlannedCall)
    (note : AuditNote) (receipt : OperationReceipt) :
    (settleReceipt trail state call note receipt).Uses calm fun response =>
      response = .ok (.receipt receipt) ∨ ∃ text, response = internalError text := by
  refine uses_bind (calm_append trail state note) fun appended _ => ?_
  cases appended with
  | error text => exact uses_pure (.inr ⟨text, rfl⟩)
  | ok _ =>
    refine uses_perform trivial fun saved => ?_
    cases saved with
    | error text => exact uses_pure (.inr ⟨text, rfl⟩)
    | ok _ =>
      exact uses_perform trivial fun _ =>
        uses_pure (.inl rfl)

end Uses

end SnowAgent
