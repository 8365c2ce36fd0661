import SnowAgent.StoryPlan

/-! # Receipts and recovery of Story writes

An apply that has no receipt may have been written all the same.  Recovery looks
for the outcome in ServiceNow: for an update, whether the record already has the
planned values; for a create, whether there is exactly one record with the planned
description, group and sprint that is not older than the plan, give or take the
clock skew.  A record that is found is taken for the plan's own.
-/
namespace SnowAgent

open Json Text

/-! ## Confirmations -/

/-- `validate_confirmation_binding`. -/
def validateConfirmationBinding (record : ConfirmationRecord) (binding : ConfirmationBinding) :
    Handler (Except ConfirmationConsumeError Unit) := do
  if record.revoked then return .error .revoked
  let t ← Daemon.now
  if record.expiresAt ≤ t then return .error .expired
  match record.mismatch binding with
  | some field => return .error (.bindingMismatch field)
  | none => return .ok ()

/-- `validate_confirmation`. -/
def validateConfirmation (record : ConfirmationRecord) (binding : ConfirmationBinding) :
    Handler (Except ConfirmationConsumeError Unit) := do
  match ← validateConfirmationBinding record binding with
  | .error err => return .error err
  | .ok () => return if record.consumed then .error .alreadyConsumed else .ok ()

section Routine

open Program

variable (record : ConfirmationRecord) (binding : ConfirmationBinding)

theorem routine_validateConfirmationBinding :
    Handler.Routine (fun _ => True) (validateConfirmationBinding record binding) := by
  unfold validateConfirmationBinding
  split
  · exact uses_pure trivial
  · refine uses_perform trivial fun t => ?_
    split
    · exact uses_pure trivial
    · cases record.mismatch binding <;> exact uses_pure trivial

theorem routine_validateConfirmation :
    Handler.Routine (fun _ => True) (validateConfirmation record binding) := by
  refine uses_bind (routine_validateConfirmationBinding record binding) fun checked _ => ?_
  cases checked <;> exact uses_pure trivial

end Routine

/-! ## Receipts -/

/-- `record_field_value`. -/
def recordFieldValue (record : SnowRecord) (field : String) : Option Value :=
  ((record.fields.get field).map fun f => Value.string f.value).orElse fun _ =>
    (record.references.get field).map Value.string

/-- The address of a record in the instance's user interface. -/
def recordUrl (state : DaemonState) (record : SnowRecord) : String :=
  trimEndMatches state.instanceUrl '/' ++ "/nav_to.do?uri=" ++ record.table ++ ".do?sys_id=" ++
    record.sysId

/-- What a receipt says about the written record. -/
def SnowRecord.metadata (record : SnowRecord) : ServiceNowMetadata :=
  ⟨some record.sysId, some record.number, none⟩

namespace StoryWrite

variable (state : DaemonState)

/-- `validate_confirmation_replay_binding`. -/
def validateConfirmationReplayBinding (record : ConfirmationRecord)
    (binding : ConfirmationBinding) : Except ConfirmationConsumeError Unit :=
  if record.revoked then .error .revoked
  else match record.mismatch binding with
    | some field => .error (.bindingMismatch field)
    | none => .ok ()

/-- `validate_replay_confirmation`. -/
def validateReplayConfirmation (token : String) (binding : ConfirmationBinding) :
    Handler (Except ConfirmationConsumeError Unit) := do
  match ← Daemon.store (.lookupConfirmation token) with
  | .ok (some record) => return validateConfirmationReplayBinding record binding
  | _ => return .error .notFound

/-- The changes a receipt lists. -/
def changedFields (plan : OperationPlan) (beforeRecord : Option SnowRecord) : List FieldChange :=
  (plan.plannedChanges.asObject.getD []).map fun (field, after) =>
    { field := field
      before := beforeRecord.bind fun record => recordFieldValue record field
      after := some after }

/-- `receipt_for_write`, completed at an instant. -/
def writtenReceipt (plan : OperationPlan) (tool auditId : String)
    (applyStartedAt completedAt : DateTime) (record : SnowRecord)
    (concurrencyToken : ConcurrencyToken) (beforeRecord : Option SnowRecord)
    (warnings : List ReceiptWarning) : OperationReceipt where
  planId := plan.planId
  auditId := auditId
  parentAuditId := plan.planId
  tool := tool
  status := .success
  appliedChangesSummary := some plan.plannedChanges
  serviceNowMetadata := some record.metadata
  idempotencyReplay := false
  completedAt := completedAt
  opHash := plan.opHash
  recordUrl := some (recordUrl state record)
  recordSnapshot := some record.json
  changedFields := changedFields plan beforeRecord
  concurrencyTokenObserved := some concurrencyToken
  applyStartedAt := some applyStartedAt
  errorCode := none
  warnings := warnings

/-- `receipt_for_write`. -/
def receiptForWrite (plan : OperationPlan) (tool auditId : String) (applyStartedAt : DateTime)
    (record : SnowRecord) (concurrencyToken : ConcurrencyToken)
    (beforeRecord : Option SnowRecord) (warnings : List ReceiptWarning) :
    Handler OperationReceipt := do
  let completedAt ← Daemon.now
  return writtenReceipt state plan tool auditId applyStartedAt completedAt record
    concurrencyToken beforeRecord warnings

theorem routine_receiptForWrite (plan : OperationPlan) (tool auditId : String)
    (applyStartedAt : DateTime) (record : SnowRecord) (concurrencyToken : ConcurrencyToken)
    (beforeRecord : Option SnowRecord) (warnings : List ReceiptWarning) :
    Handler.Routine (fun receipt => receipt.planId = plan.planId ∧ receipt.tool = tool ∧
        receipt.serviceNowMetadata = some record.metadata)
      (receiptForWrite state plan tool auditId applyStartedAt record concurrencyToken
        beforeRecord warnings) :=
  Program.uses_perform trivial fun _ =>
    Program.uses_pure ⟨rfl, rfl, rfl⟩

/-! ## Recovery -/

/-- `CREATE_RECOVERY_CLOCK_SKEW_SECONDS`. -/
def createRecoveryClockSkewSeconds : Nat := 300

/-- `value_matches`. -/
def valueMatches (observed expected : Value) : Bool :=
  match observed, expected with
  | .string observed, .string expected => observed = expected
  | .string observed, other => observed = other.text
  | other, .string expected => other.text = expected
  | observed, expected => observed = expected

/-- `record_already_matches`. -/
def recordAlreadyMatches (record : SnowRecord) (plannedChanges : Value) : Bool :=
  match plannedChanges.asObject with
  | none => false
  | some changes => changes.all fun (field, expected) =>
    (recordFieldValue record field).any (valueMatches · expected)

inductive UpdatePendingDecision where
  | alreadyApplied
  | proceedUnchangedToken
  | needsOperator
deriving DecidableEq

/-- `classify_update_recovery_record`. -/
def classifyUpdateRecoveryRecord (record : SnowRecord) (plannedChanges : Value)
    (expectedToken : Option ConcurrencyToken) : UpdatePendingDecision :=
  if recordAlreadyMatches record plannedChanges then .alreadyApplied
  else if expectedToken.any fun expected => concurrencyFromRecord record = some expected then
    .proceedUnchangedToken
  else .needsOperator

inductive CreateRecoveryLookup where
  | found (record : SnowRecord)
  | noMatch
  | ambiguous

/-- `create_recovery_created_after`. -/
def createRecoveryCreatedAfter (planRecord : PlanStoreRecord) : String :=
  state.formatTime (planRecord.createdAt - durationSeconds createRecoveryClockSkewSeconds)

/-- The query for the record a create may have left. -/
def createRecoveryQuery (tool : String) (changes : List (String × Value))
    (createdAfter : String) : Option TableQuery := do
  let shortDescription ← (lookup "short_description" changes).bind Value.asStr
  let query (table : String) (filters : List QueryFilter) : TableQuery :=
    { table := table
      filters := filters ++ [.equals "short_description" shortDescription,
        .greaterThan "sys_created_on" createdAfter]
      fields := ["number", "sys_id"]
      limit := 2 }
  match tool with
  | "story_apply_create" =>
    let assignmentGroup ← (lookup "assignment_group" changes).bind Value.asStr
    let sprint ← (lookup "sprint" changes).bind Value.asStr
    return query "rm_story"
      [.equals "assignment_group" assignmentGroup, .equals "sprint" sprint]
  | "story_task_apply_create" =>
    let story ← (lookup "story" changes).bind Value.asStr
    return query "rm_scrum_task" [.equals "story" story]
  | _ => none

/-- `find_recovered_create_record`. -/
def findRecoveredCreateRecord (tool : String) (plan : OperationPlan)
    (planRecord : PlanStoreRecord) : Program SnowReads (Except String CreateRecoveryLookup) := do
  let some changes := plan.plannedChanges.asObject | return .ok .noMatch
  let some query := createRecoveryQuery tool changes (createRecoveryCreatedAfter state planRecord)
    | return .ok .noMatch
  match ← SnowRead.execute query with
  | .error text => return .error text
  | .ok [] => return .ok .noMatch
  | .ok [row] =>
    match (row.raw.get "number").orElse fun _ => row.text.get "number" with
    | none => return .ok .noMatch
    | some number =>
      match ← SnowRead.getRecordFresh number with
      | .error text => return .error text
      | .ok none => return .ok .noMatch
      | .ok (some record) => return .ok (.found record)
  | .ok (_ :: _ :: _) => return .ok .ambiguous

/-- What recovery comes to before a receipt is made of it. -/
inductive RecoveryFinding where
  | found (record : SnowRecord)
  | proceed
  | needsOperator

/-- The reads of `try_resolve_pending_receipt`. -/
def findPendingOutcome (tool : String) (plan : OperationPlan) (planRecord : PlanStoreRecord) :
    Program SnowReads (Except String RecoveryFinding) := do
  match tool with
  | "story_apply_create" | "story_task_apply_create" =>
    match ← findRecoveredCreateRecord state tool plan planRecord with
    | .error text => return .error text
    | .ok (.found record) => return .ok (.found record)
    | .ok .noMatch => return .ok .proceed
    | .ok .ambiguous => return .ok .needsOperator
  | "story_apply_update" | "story_task_apply_update" =>
    match plan.target with
    | none => return .ok .needsOperator
    | some target =>
      match ← SnowRead.getRecordFresh target.number with
      | .error text => return .error text
      | .ok none => return .ok .needsOperator
      | .ok (some record) =>
        match classifyUpdateRecoveryRecord record plan.plannedChanges
            planRecord.concurrencyToken with
        | .alreadyApplied => return .ok (.found record)
        | .proceedUnchangedToken => return .ok .proceed
        | .needsOperator => return .ok .needsOperator
  | _ => return .ok .needsOperator

inductive PendingRecovery where
  | recovered (receipt : OperationReceipt)
  | proceed
  | needsOperator

/-- The receipt of a record that recovery has found. -/
def recoveredReceipt (tool : String) (planRecord : PlanStoreRecord) (record : SnowRecord) :
    Handler OperationReceipt := do
  let concurrency := (concurrencyFromRecord record).getD ⟨"", none⟩
  let auditId ← Daemon.uuid
  let startedAt ← Daemon.now
  receiptForWrite state planRecord.planJson.plan tool auditId startedAt record concurrency none
    planRecord.planJson.receiptWarnings

/-- `try_resolve_pending_receipt`. -/
def tryResolvePendingReceipt (tool : String) (planRecord : PlanStoreRecord) :
    Handler (Except String PendingRecovery) := do
  match ← Daemon.reading (findPendingOutcome state tool planRecord.planJson.plan planRecord) with
  | .error text => return .error text
  | .ok .proceed => return .ok .proceed
  | .ok .needsOperator => return .ok .needsOperator
  | .ok (.found record) =>
    let receipt ← recoveredReceipt state tool planRecord record
    return .ok (.recovered receipt)

theorem routine_recoveredReceipt (tool : String) (planRecord : PlanStoreRecord)
    (record : SnowRecord) :
    Handler.Routine (fun receipt => receipt.planId = planRecord.planJson.plan.planId ∧
        receipt.tool = tool ∧ receipt.serviceNowMetadata = some record.metadata)
      (recoveredReceipt state tool planRecord record) :=
  Program.uses_perform trivial fun _ =>
    Program.uses_perform trivial fun _ =>
      routine_receiptForWrite ..

/-- Consumes a token and audits that. -/
def consumeAudited (planId token : String) (binding : ConfirmationBinding) :
    Handler (Except ConfirmationConsumeError (Except String AuditEvent)) := do
  match ← Daemon.consumeConfirmation token binding with
  | .error err => return .error err
  | .ok _ =>
    return .ok (← appendConfirmationConsumeAudit state planId binding.actor binding.requester)

/-- Saves a recovered receipt and audits the recovery. -/
def saveRecovered (tool key : String) (planRecord : PlanStoreRecord)
    (receipt : OperationReceipt) : Handler (Except String PendingRecovery) := do
  match ← Daemon.store (.saveReceipt key receipt) with
  | .error text => return .error text
  | .ok _ =>
    let _ ← Daemon.store (.markPlanConsumed planRecord.planJson.plan.planId)
    let note := receiptNote state planRecord.planJson receipt tool .replay planRecord.actor
      planRecord.actor
    match ← appendAuditEvent state note with
    | .error text => return .error text
    | .ok _ => return .ok (.recovered receipt)

/-- `resolve_pending_response`; the token is consumed when it is given. -/
def resolvePendingResponse (tool key : String) (planRecord : PlanStoreRecord)
    (consumeConfirmation : Option (String × ConfirmationBinding)) :
    Handler (Except String PendingRecovery) := do
  match ← tryResolvePendingReceipt state tool planRecord with
  | .error text => return .error text
  | .ok .proceed => return .ok .proceed
  | .ok .needsOperator => return .ok .needsOperator
  | .ok (.recovered receipt) =>
    match ← Daemon.openStores with
    | .error text => return .error text
    | .ok () =>
      match consumeConfirmation with
      | none => saveRecovered state tool key planRecord receipt
      | some (token, binding) =>
        match ← consumeAudited state planRecord.planJson.plan.planId token binding with
        | .error err =>
          return .error ("confirmation recovery consume failed: " ++ err.message)
        | .ok (.error text) => return .error text
        | .ok (.ok _) => saveRecovered state tool key planRecord receipt

end StoryWrite

end SnowAgent
