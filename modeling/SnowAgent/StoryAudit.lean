import SnowAgent.Daemon
import SnowAgent.StoryScope

/-! # Responses and audit rows of the Story handlers

Every refusal of an apply call is audited before it is answered, and a refusal that
cannot be audited is answered as an internal error.  The audit row of a write keeps
hashes of the values and, of the warnings, only the hash of the caller's email.
-/
namespace SnowAgent

open Json Text

/-- `JsonRpcResponse::error`. -/
def JsonRpcResponse.failure (code : Int) (message : String) (data : Value) : JsonRpcResponse :=
  .error ⟨code, message, some data⟩

/-- `internal_error`. -/
def internalError (details : String) : JsonRpcResponse :=
  .failure (-32000) "internal error" (obj [("details", .string details)])

/-- `invalid_params` of the plan and apply handlers. -/
def invalidParams (details : String) : JsonRpcResponse :=
  .failure (-32602) "invalid params" (obj [("details", .string details)])

/-- An error object with its code first. -/
def errorData (code : String) (fields : List (String × Value)) : Value :=
  obj (("code", .string code) :: fields)

/-- The error object that lists rejected fields. -/
def rejectedFields (fields : List Value) : Value :=
  errorData "FIELD_REJECTED" [("fields", .array fields)]

/-- Whether a kill switch variable is set. -/
def killSwitchSet (value : Option String) : Bool :=
  (value.map fun text => ["1", "true", "yes"].contains (toAsciiLowercase text)).getD false

/-- The distinct texts of a list, in order (`BTreeSet`). -/
def sortedTexts (xs : List String) : List String := (xs.insertionSort (· ≤ ·)).dedup

/-- `hash_audit_value`. -/
def hashAuditValue (sha256 : Sha256) (value : Option Value) : String :=
  hexEncode (sha256 ((value.map Value.text).getD "").toUTF8)

/-- The texts a `Value` can be previewed as. -/
def nonFreeTextPreview : Value → String
  | .string value => value
  | other => other.text

/-- `ConcurrencyToken`, as JSON. -/
def ConcurrencyToken.toJson (token : ConcurrencyToken) : Value :=
  obj [("sys_updated_on", .string token.sysUpdatedOn),
    ("sys_mod_count", ofOption ofInt token.sysModCount)]

/-! ## Audit rows -/

/-- `audit_identity`. -/
def auditIdentity (subject : String) : ActorIdentity := ⟨subject, subject, "mcp_request"⟩

/-- What the gates of a call decided, all alike. -/
def gateDecisions (verdict : String) (gates : List String) : List PolicyDecisionRow :=
  gates.map fun gate => ⟨gate, verdict, none, none⟩

/-- What an audit row says about a call, beyond who made it. -/
structure AuditNote where
  auditId : String
  parentAuditId : Option String
  tool : String
  status : ResultStatus
  plannedChanges : Option Value
  serviceNowMetadata : Option ServiceNowMetadata
  error : Option ErrorRow
  /-- The actor and the requester; the configured user when there are none. -/
  identities : Option (String × String)
  appliedChanges : Option (List AppliedChange)

/-- The audit row of a note. -/
def AuditNote.event (note : AuditNote) (state : DaemonState) (now : DateTime)
    (decisions : List PolicyDecisionRow) : AuditEvent :=
  let (actor, requester) := note.identities.getD (state.instanceUser, state.instanceUser)
  { AuditEvent.newPlan now note.auditId state.environment.label (auditIdentity actor)
      (auditIdentity requester) ⟨some "snow_daemon", none, "daemon_json_rpc"⟩ note.tool with
    parentAuditId := note.parentAuditId
    resultStatus := note.status
    policyDecisions := decisions
    normalizedArgumentsRedacted := note.plannedChanges.getD .null
    plannedChanges := note.plannedChanges
    appliedChanges := note.appliedChanges
    serviceNowMetadata := note.serviceNowMetadata
    error := note.error }

/-- The note of a refused call. -/
def AuditNote.refusal (auditId tool : String) (status : ResultStatus) (error : ErrorRow) :
    AuditNote where
  auditId := auditId
  parentAuditId := none
  tool := tool
  status := status
  plannedChanges := none
  serviceNowMetadata := none
  error := some error
  identities := none
  appliedChanges := none

/-- The note of a step on the way to a write. -/
def AuditNote.step (auditId : String) (parentAuditId : Option String) (tool : String)
    (plannedChanges : Option Value) (actor requester : String) : AuditNote where
  auditId := auditId
  parentAuditId := parentAuditId
  tool := tool
  status := .plan
  plannedChanges := plannedChanges
  serviceNowMetadata := none
  error := none
  identities := some (actor, requester)
  appliedChanges := none

namespace StoryWrite

variable (state : DaemonState)

/-- `policy_decisions_for`. -/
def policyDecisionsFor (tool : String) (status : ResultStatus) (error : Option ErrorRow) :
    List PolicyDecisionRow :=
  match error.map ErrorRow.code with
  | some "FIELD_REJECTED" => gateDecisions "Deny" ["FieldAllowlist"]
  | some "GUARD_FAILED" | some "STATE_REQUIRED" => gateDecisions "Deny" ["Resolution"]
  | some "IDEMPOTENCY_CONFLICT" | some "PENDING_RESOLUTION_REQUIRED" =>
    gateDecisions "Deny" ["Idempotency"]
  | some "CONCURRENCY_CONFLICT" | some "CONCURRENCY_TOKEN_INVALID" =>
    gateDecisions "Deny" ["ConcurrencyToken"]
  | some "CONFIRMATION_INVALID" | some "PLAN_EXPIRED" => gateDecisions "Deny" ["Confirmation"]
  | some "KILL_SWITCH" => gateDecisions "Deny" ["EnvironmentGate"]
  | some "RATE_LIMITED" => gateDecisions "Deny" ["RateLimit"]
  | _ =>
    if tool = "confirmation_issue" ∨ tool = "confirmation_consume" then
      gateDecisions "Allow" ["Confirmation"]
    else if status = .appliedSuccess then
      gateDecisions "Allow"
        ["Confirmation", "Idempotency", "ConcurrencyToken", "FieldAllowlist", "RateLimit"]
    else if status = .plan then gateDecisions "Allow" ["FieldAllowlist", "EnvironmentGate"]
    else []

/-- `append_audit_event`. -/
def appendAuditEvent (note : AuditNote) : Handler (Except String AuditEvent) := do
  match ← Daemon.openStores with
  | .error text => return .error text
  | .ok () =>
    let t ← Daemon.now
    let decisions := policyDecisionsFor note.tool note.status note.error
    Daemon.appendAudit state.storePath (note.event state t decisions)

/-- `audit_error_reason`. -/
def auditErrorReason (message : String) (data : Value) : String :=
  ((data.get "code").bind Value.asStr).getD message

/-- `audited_story_error`. -/
def auditedStoryError (tool : String) (code : Int) (message : String) (data : Value)
    (status : ResultStatus) : Handler JsonRpcResponse := do
  let auditId ← Daemon.uuid
  let error : ErrorRow := ⟨message, auditErrorReason message data, false, false⟩
  match ← appendAuditEvent state (AuditNote.refusal auditId tool status error) with
  | .ok _ => return .failure code message data
  | .error text => return internalError text

/-- `append_confirmation_consume_audit`. -/
def appendConfirmationConsumeAudit (planId actor requester : String) :
    Handler (Except String AuditEvent) := do
  let auditId ← Daemon.uuid
  appendAuditEvent state
    (AuditNote.step auditId (some planId) "confirmation_consume" none actor requester)

/-- `pending_resolution_required`. -/
def pendingResolutionRequired (tool : String) (plan : OperationPlan) : Handler JsonRpcResponse :=
  auditedStoryError state tool (-32060) "PENDING_RESOLUTION_REQUIRED"
    (errorData "PENDING_RESOLUTION_REQUIRED"
      [("plan_id", .string plan.planId), ("retry_after_seconds", ofNat 2)]) .error

/-- `confirmation_invalid`. -/
def confirmationInvalid (tool : String) (err : ConfirmationConsumeError) :
    Handler JsonRpcResponse :=
  auditedStoryError state tool (-32054) "CONFIRMATION_INVALID"
    (errorData "CONFIRMATION_INVALID" [("reason", .string err.message)]) .denied

/-- The refusal of rejected fields. -/
def fieldsRejected (tool : String) (fields : List Value) : Handler JsonRpcResponse :=
  auditedStoryError state tool (-32051) "FIELD_REJECTED" (rejectedFields fields) .denied

/-- The refusal of a full rate limit. -/
def rateLimited (tool : String) (retryAfterSeconds : Int) : Handler JsonRpcResponse :=
  auditedStoryError state tool (-32058) "RATE_LIMITED"
    (errorData "RATE_LIMITED" [("retry_after_seconds", ofInt retryAfterSeconds)]) .denied

/-- The refusal of a failed board guard. -/
def guardRefused (tool : String) (failure : InScopeFailure) : Handler JsonRpcResponse :=
  auditedStoryError state tool (-32050) "GUARD_FAILED" failure.toGuardFailedData .denied

/-- `plan_build_error_to_apply_response`. -/
def planBuildErrorToApplyResponse (tool : String) : PlanBuildError → Handler JsonRpcResponse
  | .invalid field => fieldsRejected state tool [fieldReason field "type_mismatch"]
  | .fieldRejected fields => fieldsRejected state tool fields
  | .guardFailed failure => guardRefused state tool failure
  | .stateRequired data => auditedStoryError state tool (-32062) "STATE_REQUIRED" data .denied
  | .notFound message =>
    auditedStoryError state tool (-32004) "record not found"
      (obj [("details", .string message)]) .error
  | .upstream text => pure (internalError text)

/-! Auditing and refusing are routine, and every refusal is an error. -/

section Routine

open Program

variable {tool : String}

theorem routine_appendAuditEvent (note : AuditNote) :
    Handler.Routine (fun _ => True) (appendAuditEvent state note) := by
  refine uses_perform trivial fun opened => ?_
  cases opened with
  | error text => exact uses_pure trivial
  | ok _ =>
    exact uses_perform trivial fun _ => Daemon.routine_appendAudit _ _

theorem routine_auditedStoryError (code : Int) (message : String) (data : Value)
    (status : ResultStatus) :
    Handler.Routine (·.isError) (auditedStoryError state tool code message data status) := by
  refine uses_perform trivial fun auditId => ?_
  refine uses_bind (routine_appendAuditEvent state _) fun appended _ => ?_
  cases appended with
  | ok _ => exact uses_pure rfl
  | error text => exact uses_pure rfl

theorem routine_appendConfirmationConsumeAudit (planId actor requester : String) :
    Handler.Routine (fun _ => True) (appendConfirmationConsumeAudit state planId actor requester) :=
  uses_perform trivial fun _ => routine_appendAuditEvent state _

theorem routine_planBuildErrorToApplyResponse (err : PlanBuildError) :
    Handler.Routine (·.isError) (planBuildErrorToApplyResponse state tool err) := by
  cases err with
  | upstream text => exact uses_pure rfl
  | _ => exact routine_auditedStoryError state _ _ _ _

end Routine

/-! ## Warnings and summaries -/

/-- `receipt_warnings_for_caller`: without the hash of the email. -/
def receiptWarningsForCaller (warnings : List ReceiptWarning) : List ReceiptWarning :=
  warnings.map fun warning =>
    { warning with
      data := match warning.data with
        | some (.object fields) =>
          let fields := remove "email_sha256" fields
          if fields.isEmpty then none else some (.object fields)
        | _ => none }

/-- `audit_email_hashes_from_warnings`. -/
def auditEmailHashesFromWarnings (warnings : List ReceiptWarning) : List String :=
  sortedTexts <| warnings.filterMap fun warning =>
    (warning.data.bind fun data => data.get "email_sha256").bind Value.asStr

/-- `audit_email_hashes_from_plan`. -/
def auditEmailHashesFromPlan (planJson : PlanJson) : List String :=
  sortedTexts planJson.auditWarningEmailSha256

/-- `is_free_text_field`. -/
def isFreeTextField (field : String) : Bool :=
  ["short_description", "description", "acceptance_criteria"].contains field

/-- `is_d5_caller_email_warning`. -/
def isCallerEmailWarning (code : String) : Bool :=
  ["ASSIGNEE_DEFAULTED_FROM_CALLER", "ASSIGNEE_UNRESOLVED", "ASSIGNEE_AMBIGUOUS"].contains code

/-- `audit_warnings`. -/
def auditWarnings (warnings : List ReceiptWarning) (emailHashes : List String) : List Value :=
  warnings.map fun warning =>
    let value := [("code", .string warning.code), ("field", ofOption Value.string warning.field)]
    match emailHashes with
    | hash :: _ =>
      if isCallerEmailWarning warning.code then
        obj (value ++ [("data", obj [("email_sha256", .string hash)])])
      else obj value
    | [] => obj value

/-- The applied changes of a receipt, as they are audited. -/
def auditedChanges (sha256 : Sha256) (receipt : OperationReceipt) : List AppliedChange :=
  receipt.changedFields.map fun change =>
    { field := change.field
      oldHash := hashAuditValue sha256 change.before
      newHash := hashAuditValue sha256 change.after
      redactedPreview :=
        if isFreeTextField change.field then none else change.after.map nonFreeTextPreview }

/-- The note of an apply that has a receipt (`audit_summary_for_receipt`). -/
def receiptNote (planJson : PlanJson) (receipt : OperationReceipt) (tool : String)
    (status : ResultStatus) (actor requester : String) : AuditNote :=
  let changes := auditedChanges state.crates.sha256 receipt
  let hashes := auditEmailHashesFromPlan planJson
  { auditId := receipt.auditId
    parentAuditId := some planJson.plan.planId
    tool := tool
    status := status
    plannedChanges := some (obj [("op_hash", .string receipt.opHash),
      ("warnings", .array (auditWarnings receipt.warnings hashes)),
      ("changed_fields", ofList AppliedChange.toJson changes)])
    serviceNowMetadata := receipt.serviceNowMetadata
    error := none
    identities := some (actor, requester)
    appliedChanges := some changes }

end StoryWrite

end SnowAgent
