import SnowAgent.PlannedApply

/-! # Adding a work note

The plan call looks the record up by its number, in the cache and then live, and plans a note
for what it found.  The apply call finds its token unspent, looks the record up by its number
once more to learn whether its table takes work notes, marks its key and has the core add the
note: by number, which the core resolves on its own.
-/
namespace SnowAgent

open Json

namespace WorkNoteWrite

/-- `WORK_NOTE_PLAN_TOOL`. -/
def workNotePlanTool : String := "work_note_plan_add"

/-- `WORK_NOTE_APPLY_TOOL`. -/
def workNoteApplyTool : String := "work_note_apply_add"

/-- `WORK_NOTES_FIELD`. -/
def workNotesField : String := "work_notes"

variable (state : DaemonState)

/-! ## Audits and refusals -/

/-- `policy_decisions_for`. -/
def policyDecisionsFor (_tool : String) (status : ResultStatus) (error : Option ErrorRow) :
    List PolicyDecisionRow :=
  match error.map ErrorRow.code with
  | some "FIELD_REJECTED" => gateDecisions "Deny" ["FieldAllowlist"]
  | some "CONFIRMATION_INVALID" | some "PLAN_EXPIRED" => gateDecisions "Deny" ["Confirmation"]
  | some "IDEMPOTENCY_CONFLICT" | some "PENDING_RESOLUTION_REQUIRED" =>
    gateDecisions "Deny" ["Idempotency"]
  | some "policy denied" => gateDecisions "Deny" ["EnvironmentGate"]
  | _ =>
    if status = .appliedSuccess then
      gateDecisions "Allow" ["Confirmation", "Idempotency", "FieldAllowlist"]
    else if status = .plan then gateDecisions "Allow" ["FieldAllowlist"]
    else []

/-- The audit of the work note handlers. -/
def trail : AuditTrail where
  path := state.storePath
  retentionDays := none
  decisions := policyDecisionsFor

/-- `audited_work_note_error`: a refusal that cannot be audited is answered all the same. -/
def auditedWorkNoteError : Refuse := fun code message data status =>
  (trail state).refuseAnyway state workNoteApplyTool status
    (some ⟨message, data.text, false, false⟩) (.failure code message data)

/-- `work_note_error`, which is not audited. -/
def workNoteError : Refuse := fun code message data _ => pure (.failure code message data)

/-- The refusal of a call while the policy does not enable the apply tool. -/
def requireEnabled (refuse : Refuse) : Gate Unit :=
  Gate.require (state.policy.toolEnabledInEnvironment workNoteApplyTool state.environment.label)
    (refuse (-32040) "policy denied"
      (obj [("details", .string "work-note apply tool is disabled by current MCP policy"),
        ("tool", .string workNoteApplyTool)]) .denied)

/-- `append_confirmation_audit`. -/
def appendConfirmationAudit (planId tool actor requester : String) :
    Handler (Except String AuditEvent) := do
  let auditId ← Daemon.uuid
  (trail state).append state (AuditNote.step auditId (some planId) tool none actor requester)

/-! ## The record -/

/-- `get_record_cached_or_fresh`. -/
def getRecordCachedOrFresh (number : String) : Gate (Option SnowRecord) := do
  match ← Gate.trying (Daemon.reading (SnowRead.getRecord number)) with
  | some record => return some record
  | none => Gate.trying (Daemon.reading (SnowRead.getRecordFresh number))

/-- `WorkNoteFieldSupport`. -/
inductive WorkNoteFieldSupport where
  | supported
  | unsupported
  | unavailable (reason : String)
deriving DecidableEq

/-- What the answer to `supports_field` says of work notes. -/
def readFieldSupport : Except String FieldSupport → WorkNoteFieldSupport
  | .ok (.available true) => .supported
  | .ok (.available false) => .unsupported
  | .ok (.unavailable .notReturnedByInstance) => .unavailable "not_returned_by_instance"
  | .ok (.unavailable .aclDenied) => .unavailable "acl_denied"
  | .ok (.unavailable .notSupportedByOperation) => .unavailable "not_supported_by_operation"
  | .error _ => .unavailable "upstream_error"

/-- `reject_unsupported_work_notes` and `audited_reject_unsupported_work_notes`, which differ in
the refusal. -/
def rejectUnsupportedWorkNotes (refuse : Refuse) (record : SnowRecord) : Gate Unit := do
  match readFieldSupport
      (← Gate.doing (Daemon.reading (SnowRead.supportsField record.table workNotesField))) with
  | .supported => return ()
  | .unsupported =>
    Gate.answer (refuse (-32053) "WORK_NOTES_UNSUPPORTED"
      (errorData "WORK_NOTES_UNSUPPORTED"
        [("field", .string workNotesField), ("table", .string record.table)]) .denied)
  | .unavailable reason =>
    Gate.answer (refuse (-32054) "WORK_NOTES_DISCOVERY_UNAVAILABLE"
      (errorData "WORK_NOTES_DISCOVERY_UNAVAILABLE"
        [("field", .string workNotesField), ("reason", .string reason),
          ("table", .string record.table)]) .denied)

/-! ## The plan call -/

/-- `reject_plan_input_fields`: the fields a plan call does not know. -/
def rejectedInputFields (args : List (String × Value)) : List Value :=
  let allowed := ["number", "text", "work_notes"]
  let metadata := ["actor", "requester", "client", "session_id", "user_agent"]
  ((args.map Prod.fst).filter fun field => !allowed.contains field && !metadata.contains field).map
    (fieldReason · "not_in_allowlist")

/-- `optional_non_empty_string`. -/
def optionalNonEmptyString (args : List (String × Value)) (field : String) :
    Except Value (Option String) :=
  match lookup field args with
  | some (.string value) =>
    if Text.trim value = "" then .error (fieldReason field "type_mismatch") else .ok (some value)
  | some _ => .error (fieldReason field "type_mismatch")
  | none => .ok none

/-- `note_text`. -/
def noteText (args : List (String × Value)) : Except (List Value) String :=
  match optionalNonEmptyString args "text", optionalNonEmptyString args "work_notes" with
  | .ok (some text), .ok (some workNotes) =>
    if text ≠ workNotes then .error [fieldReason "work_notes" "conflicting_alias"] else .ok text
  | .ok (some text), _ => .ok text
  | _, .ok (some workNotes) => .ok workNotes
  | .error field, _ | _, .error field => .error [field]
  | .ok none, .ok none => .error [fieldReason "text" "type_mismatch"]

/-- `field_rejected`. -/
def fieldRejected (fields : List Value) : Handler JsonRpcResponse :=
  workNoteError (-32051) "FIELD_REJECTED" (rejectedFields fields) .denied

/-- The number and the text a plan call asks for. -/
def readInput (params : Value) : Gate (String × String) := do
  let args ← Gate.require? params.asObject (fieldRejected [fieldReason "payload" "type_mismatch"])
  let rejected := rejectedInputFields args
  Gate.require rejected.isEmpty (fieldRejected rejected)
  let number ← Gate.require? (stringParam params "number")
    (fieldRejected [fieldReason "number" "type_mismatch"])
  match noteText args with
  | .ok text => return (number, text)
  | .error fields => Gate.answer (fieldRejected fields)

/-- The record to plan a note for. -/
def findRecord (number : String) : Gate SnowRecord := do
  let found ← getRecordCachedOrFresh number
  let record ← Gate.require? found (pure (.error ⟨-32004, "record not found", none⟩))
  rejectUnsupportedWorkNotes workNoteError record
  return record

/-- The row a plan call stores. -/
def plannedRecord (plan : OperationPlan) (actor : String) (now : DateTime) : PlanStoreRecord where
  planId := plan.planId
  tool := plan.tool
  actor := actor
  opHash := plan.opHash
  planJson := ⟨plan, workNoteApplyTool, [], []⟩
  concurrencyToken := none
  createdAt := now
  expiresAt := now + durationSeconds planTtlSeconds
  state := .pending

/-- Reserves the key of a new plan. -/
def reservePlanned (plan : OperationPlan) (key : String) : Gate Unit := do
  Gate.trying Daemon.openStores
  match ← Gate.trying (Daemon.checkAndRecord key workNoteApplyTool plan.opHash
      state.policy.idempotencyWindowSeconds) with
  | .newKey => return ()
  | .conflict _ =>
    Gate.answer (workNoteError (-32052) "IDEMPOTENCY_CONFLICT"
      (errorData "IDEMPOTENCY_CONFLICT" [("idempotency_key", .string key),
        ("attempted_op_hash", .string plan.opHash)]) .denied)
  | .replay _ | .pending _ _ =>
    Gate.answer (pure (internalError "server-issued idempotency key was not unique"))

/-- The target of a plan, as JSON. -/
def targetJson (target : Option RecordRef) : Value :=
  ofOption (fun t => obj [("sys_id", .string t.sysId), ("number", .string t.number),
    ("table", .string t.table)]) target

/-- `redacted_work_note_change`. -/
def redactedWorkNoteChange (plan : OperationPlan) : Value :=
  obj [("target", targetJson plan.target), ("field", .string "work_notes"),
    ("new_hash", .string (hashAuditValue state.crates.sha256
      (some ((plan.plannedChanges.get "work_notes").getD .null))))]

/-- How many work notes a record shows. -/
def workNoteCount (record : SnowRecord) : Nat :=
  match record.json.get "work_notes" with
  | some (.array entries) => entries.length
  | _ => 0

/-- What a plan call answers with. -/
def plannedResult (record : SnowRecord) (plan : OperationPlan) (expiresAt : DateTime)
    (tokenId key : String) : Value :=
  obj [("plan_id", .string plan.planId), ("op_hash", .string plan.opHash),
    ("target", targetJson (some record.ref)), ("preview", plan.plannedChanges),
    ("recent_work_note_count", ofNat (workNoteCount record)),
    ("expires_at", .string (state.crates.rfc3339 expiresAt)),
    ("confirmation_token", .string tokenId), ("idempotency_key", .string key),
    ("requires_confirmation", .bool true)]

/-- Stores a plan and issues its token. -/
def storePlanned (plan : OperationPlan) (record : PlanStoreRecord) (requester : String) :
    Gate ConfirmationRecord := do
  Gate.trying (Daemon.store (.putPlan record))
  let _ ← Gate.trying ((trail state).append state (AuditNote.step plan.planId none workNotePlanTool
    (some (redactedWorkNoteChange state plan)) record.actor requester))
  let confirmation ← Gate.trying (Daemon.issueConfirmation plan.planId
    { actor := record.actor
      requester := requester
      tool := workNoteApplyTool
      opHash := plan.opHash
      environment := state.environment.label } planTtlSeconds)
  let _ ← Gate.trying (appendConfirmationAudit state plan.planId "confirmation_issue" record.actor
    requester)
  return confirmation

/-- `handle_work_note_plan_add`, up to its answer. -/
def planAdd (params : Value) : Gate Value := do
  requireEnabled state workNoteError
  let (number, text) ← readInput params
  let record ← findRecord number
  let planId ← Gate.doing Daemon.uuid
  let plan := OperationPlan.build state.crates.sha256 planId workNotePlanTool (some record.ref)
    (obj [("work_notes", .string text)])
  let now ← Gate.doing Daemon.now
  let actor := actorFromParams params state
  let key ← Gate.doing Daemon.uuid
  reservePlanned state plan key
  let row := plannedRecord plan actor now
  let confirmation ← storePlanned state plan row (requesterFromParams params actor)
  return plannedResult state record plan row.expiresAt confirmation.tokenId key

/-- `handle_work_note_plan_add`. -/
def handleWorkNotePlanAdd (params : Value) : Handler JsonRpcResponse :=
  (planAdd state params).enter fun result => pure (.ok (.value result))

/-! ## The token -/

/-- `validate_confirmation_binding`, which does not mind an expired row. -/
def validateConfirmationBinding : Validate := fun record binding =>
  pure (if record.revoked then .error .revoked
    else match record.mismatch binding with
      | some field => .error (.bindingMismatch field)
      | none => .ok ())

/-- `validate_confirmation`. -/
def validateConfirmation : Validate := fun record binding => do
  match ← validateConfirmationBinding record binding with
  | .error err => return .error err
  | .ok () =>
    if record.consumed then return .error .alreadyConsumed
    else do
      let t ← Daemon.now
      return if record.expiresAt ≤ t then .error .expired else .ok ()

/-- `validate_replay_confirmation`: a replay needs a token that is bound to the caller. -/
def replay (call : PlannedCall) (receipt : OperationReceipt) : Handler JsonRpcResponse :=
  replayReceipt (auditedWorkNoteError state) validateConfirmationBinding call receipt

/-! ## Before the write -/

/-- Checks the tool and the parameters, and loads the plan. -/
def admitCall (params : Value) : Gate PlannedCall := do
  let refuse := auditedWorkNoteError state
  requireEnabled state refuse
  let planId ← requiredParam refuse params "plan_id"
  let token ← requiredParam refuse params "confirmation_token"
  let key ← requiredParam refuse params "idempotency_key"
  let planRecord ← findPlan refuse planId
  let plan := planRecord.planJson.plan
  Gate.require (plan.tool = workNotePlanTool)
    (pure (invalidParams ("plan " ++ plan.planId ++ " is bound to " ++ plan.tool)))
  return plannedCall state workNoteApplyTool params planId token key planRecord

/-- `pending_resolution_required` and `pending_resolution_required_with_reason`. -/
def pendingResolutionRequired (call : PlannedCall) (reason : Option String) :
    Handler JsonRpcResponse :=
  auditedWorkNoteError state (-32060) "PENDING_RESOLUTION_REQUIRED"
    (errorData "PENDING_RESOLUTION_REQUIRED"
      (("plan_id", .string call.plan.planId) ::
        ((reason.map fun text => ("reason", Value.string text)).toList ++
          [("retry_after_seconds", ofNat 2)]))) .error

/-- Looks at the key, rejects an expired plan and reserves the key. -/
def reserve (call : PlannedCall) : Gate Unit := do
  let refuse := auditedWorkNoteError state
  checkKey refuse (replay state call) (fun record => conflictData call (some record.opHash))
    (some fun _ => pendingResolutionRequired state call none) call
  rejectExpired refuse call (planExpiredData state.crates.rfc3339 call)
  reserveKey (replay state call) (refuseConflict refuse (conflictData call none))
    state.policy.idempotencyWindowSeconds call

/-- The refusal of a number without a record. -/
def recordNotFound (number : String) : Handler JsonRpcResponse :=
  auditedWorkNoteError state (-32004) "record not found"
    (obj [("details", .string ("record " ++ number ++ " not found"))]) .error

/-- The target and the text of a planned note. -/
def plannedNote (plan : OperationPlan) : Except String (RecordRef × String) :=
  match plan.target with
  | none => .error "work-note plan missing target"
  | some target =>
    match (plan.plannedChanges.get "work_notes").bind Value.asStr with
    | none => .error "work-note plan missing work_notes"
    | some text => .ok (target, text)

/-- Checks the token, reads what is planned and asks whether the record takes work notes. -/
def prepare (call : PlannedCall) : Gate (RecordRef × String) := do
  let refuse := auditedWorkNoteError state
  reserve state call
  checkToken refuse validateConfirmation (refuseConfirmation refuse) call
  let (target, text) ← Gate.trying (pure (plannedNote call.plan))
  let found ← getRecordCachedOrFresh target.number
  let record ← Gate.require? found (recordNotFound state target.number)
  rejectUnsupportedWorkNotes refuse record
  return (target, text)

/-! ## The write -/

/-- `receipt_for_work_note`, completed at an instant. -/
def receiptForWorkNote (call : PlannedCall) (auditId : String) (startedAt completedAt : DateTime)
    (record : SnowRecord) (text : String) : OperationReceipt where
  planId := call.plan.planId
  auditId := auditId
  parentAuditId := call.plan.planId
  tool := workNoteApplyTool
  status := .success
  appliedChangesSummary := some (obj [("field", .string "work_notes"),
    ("new_hash", .string (hashAuditValue state.crates.sha256 (some (.string text))))])
  serviceNowMetadata := some record.metadata
  idempotencyReplay := false
  completedAt := completedAt
  opHash := call.plan.opHash
  recordUrl := some (recordUrl state record)
  recordSnapshot := none
  changedFields := [⟨"work_notes", none, some (.string text)⟩]
  concurrencyTokenObserved := none
  applyStartedAt := some startedAt
  errorCode := none
  warnings := []

/-- The note of a write. -/
def receiptNote (call : PlannedCall) (receipt : OperationReceipt) (text : String) : AuditNote where
  auditId := receipt.auditId
  parentAuditId := some call.plan.planId
  tool := workNoteApplyTool
  status := .appliedSuccess
  plannedChanges := receipt.appliedChangesSummary
  serviceNowMetadata := receipt.serviceNowMetadata
  error := none
  identities := some (call.binding.actor, call.binding.requester)
  appliedChanges := some [
    { field := "work_notes"
      oldHash := hashAuditValue state.crates.sha256 none
      newHash := hashAuditValue state.crates.sha256 (some (.string text))
      redactedPreview := none }]

/-- Audits the consumption of the token, makes the receipt and settles it. -/
def settleNote (call : PlannedCall) (startedAt : DateTime) (record : SnowRecord) (text : String) :
    Handler JsonRpcResponse := do
  match ← appendConfirmationAudit state call.plan.planId "confirmation_consume" call.binding.actor
      call.binding.requester with
  | .error err => return internalError err
  | .ok _ =>
    let auditId ← Daemon.uuid
    let completedAt ← Daemon.now
    let receipt := receiptForWorkNote state call auditId startedAt completedAt record text
    settleReceipt (trail state) state call (receiptNote state call receipt text) receipt

/-- Adds the note, and consumes the token after a write that succeeded. -/
def writeNote (call : PlannedCall) (target : RecordRef) (text : String) (startedAt : DateTime) :
    Handler JsonRpcResponse := do
  let answer ← Daemon.write call.plan.planId (.addWorkNote target.number text)
  match answer.result with
  | .error err => pendingResolutionRequired state call (some err)
  | .ok none => recordNotFound state target.number
  | .ok (some record) =>
    consumeThen (auditedWorkNoteError state) call (settleNote state call startedAt record text)

/-- `handle_work_note_apply_add`. -/
def handleWorkNoteApplyAdd (params : Value) : Handler JsonRpcResponse :=
  (admitCall state params).enter fun call =>
    (prepare state call).enter fun (target, text) =>
      (markStarted call).enter fun startedAt => writeNote state call target text startedAt

/-! ## In the core -/

/-- What the core is configured with: whether there is a client for governed writes, and the
tables of the prefixes of record numbers. -/
structure NoteCore where
  writeClient : Bool
  tableForNumber : String → Option String

/-- What becomes of a write request: it is carried out and acknowledged, or carried out with its
answer lost, or refused. -/
inductive WriteOutcome where
  | acknowledged
  | lost (text : String)
  | refused (text : String)
deriving DecidableEq

/-- What ServiceNow and the cache answer while a note is added. -/
structure NoteAnswers where
  /-- The table and the `sys_id` of the first row of a table with a number. -/
  first : String → String → Except String (Option (String × String))
  added : WriteOutcome
  /-- `get_record_fresh`. -/
  fresh : String → Except String (Option SnowRecord)

/-- `lookup_table_and_sys_id`. -/
def lookupTableAndSysId (core : NoteCore) (answers : NoteAnswers) (number : String) :
    Except String (Option (String × String)) :=
  match core.tableForNumber number with
  | none => .error ("cannot resolve table for number '" ++ number ++
      "' — unknown ServiceNow prefix")
  | some table => answers.first table number

/-- `add_work_note_without_retry`. -/
def addWorkNoteWithoutRetry (core : NoteCore) (answers : NoteAnswers) (number : String) :
    NoteAnswer :=
  if !core.writeClient then ⟨none, .error "governed work-note write client is not configured"⟩
  else match lookupTableAndSysId core answers number with
    | .error text => ⟨none, .error text⟩
    | .ok none => ⟨none, .ok none⟩
    | .ok (some place) =>
      match answers.added with
      | .refused text => ⟨none, .error text⟩
      | .lost text => ⟨some place, .error text⟩
      | .acknowledged => ⟨some place, answers.fresh number⟩

end WorkNoteWrite

end SnowAgent
