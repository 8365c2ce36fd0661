import SnowAgent.PlannedApply

/-! # Setting the hours of a time card

The apply handler of a planned time card change.  It reads the card once more, compares its
owner, its state, its fingerprint and its version with the planned ones, finds its token
unspent, writes, and then consumes the token, audits the write and saves the receipt.  A key
that was started is let through, and a replay needs a token that has not expired.
-/
namespace SnowAgent

open Json Text

namespace TimecardWrite

/-- `TIMECARD_PLAN_TOOL`. -/
def timecardPlanTool : String := "timecard_plan_set_hours"

/-- `TIMECARD_APPLY_TOOL`. -/
def timecardApplyTool : String := "timecard_apply_set_hours"

/-- `DAY_FIELDS`. -/
def dayFields : List String :=
  ["sunday", "monday", "tuesday", "wednesday", "thursday", "friday", "saturday"]

/-! ## The planned change -/

/-- `PlannedTimecardSetHours`. -/
structure PlannedTimecardSetHours where
  cardSysId : String
  day : Weekday
  dayField : String
  hours : String
  mode : SetMode
  /-- `from`. -/
  fromHours : String
  /-- `to`. -/
  toHours : String
  actorUserSysId : String
  cardFingerprint : String
deriving DecidableEq

/-- `parse_weekday`. -/
def parseWeekday (day : String) : Except String Weekday :=
  match toAsciiLowercase (trim day) with
  | "sun" | "sunday" => .ok .sun
  | "mon" | "monday" => .ok .mon
  | "tue" | "tuesday" => .ok .tue
  | "wed" | "wednesday" => .ok .wed
  | "thu" | "thursday" => .ok .thu
  | "fri" | "friday" => .ok .fri
  | "sat" | "saturday" => .ok .sat
  | _ => .error "day"

/-- `string_value`. -/
def stringValue (object : List (String × Value)) (field : String) : Except String String :=
  match (lookup field object).bind Value.asStr with
  | some value => .ok value
  | none => .error field

/-- The planned mode. -/
def parseMode : String → Except String SetMode
  | "set" => .ok .set
  | "add" => .ok .add
  | _ => .error "mode"

/-- `PlannedTimecardSetHours::from_plan`. -/
def PlannedTimecardSetHours.fromPlan (plan : OperationPlan) :
    Except String PlannedTimecardSetHours := do
  let some object := plan.plannedChanges.asObject | .error "planned_changes"
  let dayName ← stringValue object "day"
  let cardSysId ← stringValue object "card_sys_id"
  let day ← parseWeekday dayName
  let dayField ← stringValue object "day_field"
  let hours ← stringValue object "hours"
  let mode ← stringValue object "mode" >>= parseMode
  let fromHours ← stringValue object "from"
  let toHours ← stringValue object "to"
  let actorUserSysId ← stringValue object "actor_user_sys_id"
  let cardFingerprint ← stringValue object "card_fingerprint"
  return ⟨cardSysId, day, dayField, hours, mode, fromHours, toHours, actorUserSysId,
    cardFingerprint⟩

/-! ## The card -/

/-- `concurrency_from_card`. -/
def concurrencyFromCard (card : TimeCard) : Option ConcurrencyToken :=
  let sysUpdatedOn := trim card.sysUpdatedOn
  if sysUpdatedOn = "" then none else some ⟨sysUpdatedOn, card.sysModCount⟩

/-- `card_fingerprint`. -/
def cardFingerprint (sha256 : Sha256) (card : TimeCard) : String :=
  hexEncode (sha256 (Value.text (obj [("task_sys_id", .string ((card.task.map Prod.fst).getD "")),
    ("task_display", .string ((card.task.map Prod.snd).getD "")),
    ("category", .string card.category),
    ("project_time_category", ofOption .string card.projectTimeCategory),
    ("week_starts_on", .string card.weekStartsOn)])).toUTF8)

/-- `TimecardScopeFailure`. -/
inductive TimecardScopeFailure where
  | wrongUser (expected observed : String)
  | nonEditableState (observed : String)
  | fieldNotAllowed (field : String)
  | fingerprintMismatch (expected observed : String)
deriving DecidableEq

/-- `to_json`. -/
def TimecardScopeFailure.toJson : TimecardScopeFailure → Value
  | .wrongUser expected observed =>
    errorData "GUARD_FAILED" [("reason", .string "timecard_user_mismatch"),
      ("expected_user_sys_id", .string expected), ("observed_user_sys_id", .string observed)]
  | .nonEditableState observed =>
    errorData "GUARD_FAILED" [("reason", .string "timecard_state_not_editable"),
      ("observed_state", .string observed),
      ("remediation", .string "Recall the time sheet in the portal before editing.")]
  | .fieldNotAllowed field =>
    errorData "GUARD_FAILED" [("reason", .string "timecard_day_field_not_allowed"),
      ("field", .string field)]
  | .fingerprintMismatch expected observed =>
    errorData "GUARD_FAILED" [("reason", .string "timecard_fingerprint_mismatch"),
      ("expected", .string expected), ("observed", .string observed)]

/-- `is_editable_state`. -/
def isEditableState (state : String) : Bool :=
  ["pending", "rejected", "recalled"].contains (toAsciiLowercase (trim state))

/-- `timecard_in_scope`. -/
def timecardInScope (sha256 : Sha256) (card : TimeCard) (planned : PlannedTimecardSetHours) :
    Except TimecardScopeFailure Unit :=
  let observed := cardFingerprint sha256 card
  if !dayFields.contains planned.dayField then .error (.fieldNotAllowed planned.dayField)
  else if card.userSysId ≠ planned.actorUserSysId then
    .error (.wrongUser planned.actorUserSysId card.userSysId)
  else if !isEditableState card.state then .error (.nonEditableState card.state)
  else if observed ≠ planned.cardFingerprint then
    .error (.fingerprintMismatch planned.cardFingerprint observed)
  else .ok ()

/-! ## Audits and refusals -/

/-- `policy_decisions_for`. -/
def policyDecisionsFor (_tool : String) (status : ResultStatus) (error : Option ErrorRow) :
    List PolicyDecisionRow :=
  match error.map ErrorRow.code with
  | some "FIELD_REJECTED" | some "GUARD_FAILED" => gateDecisions "Deny" ["FieldAllowlist"]
  | some "IDEMPOTENCY_CONFLICT" => gateDecisions "Deny" ["Idempotency"]
  | some "CONCURRENCY_CONFLICT" | some "CONCURRENCY_TOKEN_INVALID" =>
    gateDecisions "Deny" ["ConcurrencyToken"]
  | some "CONFIRMATION_INVALID" | some "PLAN_EXPIRED" => gateDecisions "Deny" ["Confirmation"]
  | some "KILL_SWITCH" => gateDecisions "Deny" ["EnvironmentGate"]
  | _ =>
    if status = .appliedSuccess then
      gateDecisions "Allow" ["Confirmation", "Idempotency", "ConcurrencyToken", "FieldAllowlist"]
    else if status = .plan then gateDecisions "Allow" ["FieldAllowlist", "EnvironmentGate"]
    else []

variable (state : DaemonState)

/-- The audit of the time card handlers. -/
def trail : AuditTrail where
  path := state.storePath
  retentionDays := none
  decisions := policyDecisionsFor

/-- `audited_timecard_error`. -/
def auditedTimecardError : Refuse := fun code message data status =>
  (trail state).refuse state timecardApplyTool status
    ⟨message, ((data.get "code").bind Value.asStr).getD message, false, false⟩
    (.failure code message data)

/-- `is_kill_switched`: the second variable counts where the first is not set. -/
def isKillSwitched : Handler Bool := do
  match ← Daemon.envVar "SNOW_TIMECARD_WRITE_KILL_SWITCH" with
  | some value => return killSwitchSet (some value)
  | none => return killSwitchSet (← Daemon.envVar "SNOW_MCP_WRITE_KILL_SWITCH")

/-! ## Before the write -/

/-- `validate_replay_confirmation`: a replay needs a token that has not expired. -/
def replay (call : PlannedCall) (receipt : OperationReceipt) : Handler JsonRpcResponse :=
  replayReceipt (auditedTimecardError state) validateConfirmationBinding call receipt

/-- The refusal of a tool that the policy does not let write. -/
def requirePolicy : Gate Unit :=
  match state.policy.validateTimecardPolicy timecardApplyTool state.environment with
  | .ok () => return ()
  | .error err => Gate.answer (rejectField (auditedTimecardError state) "environment" err.message)

/-- Checks the tool and the parameters, and loads the plan. -/
def admitCall (params : Value) : Gate PlannedCall := do
  let refuse := auditedTimecardError state
  requireSwitchedOn refuse isKillSwitched
  requirePolicy state
  Gate.require (state.policy.toolEnabledInEnvironment timecardApplyTool state.environment.label)
    (rejectField refuse "tool" "blocked_deny_list")
  let planId ← requiredParam refuse params "plan_id"
  let token ← requiredParam refuse params "confirmation_token"
  let key ← requiredParam refuse params "idempotency_key"
  let planRecord ← findPlan refuse planId
  let plan := planRecord.planJson.plan
  Gate.require (plan.tool = timecardPlanTool)
    (pure (invalidParams ("plan " ++ plan.planId ++ " is bound to " ++ plan.tool ++
      ", not timecard")))
  return plannedCall state timecardApplyTool params planId token key planRecord

/-- The refusal of a key that was reserved for another operation, with the one it is bound to. -/
def refuseReserved (call : PlannedCall) : Handler JsonRpcResponse := do
  let found ← Daemon.store (.lookupRecord call.key timecardApplyTool)
  let bound := match found with
    | .ok (some record) => record.opHash
    | _ => ""
  refuseConflict (auditedTimecardError state) (conflictData call (some bound))

/-- Looks at the key, rejects an expired plan and reserves the key. -/
def reserve (call : PlannedCall) : Gate Unit := do
  let refuse := auditedTimecardError state
  checkKey refuse (replay state call) (fun record => conflictData call (some record.opHash)) none
    call
  rejectExpired refuse call (planExpiredData state.crates.rfc3339 call)
  reserveKey (replay state call) (refuseReserved state call)
    state.policy.idempotencyWindowSeconds call

/-- `reject_non_day_field`, whose refusal is not audited. -/
def rejectNonDayField (dayField : String) : Gate Unit :=
  let allowlist := ((state.policy.tools.get timecardApplyTool).map (·.fieldAllowlist)).getD
    dayFields
  Gate.require (allowlist.contains dayField)
    (pure (.failure (-32051) "FIELD_REJECTED"
      (rejectedFields [fieldReason dayField "not_in_allowlist"])))

/-- The card, read again. -/
def readCard (call : PlannedCall) (planned : PlannedTimecardSetHours) : Gate TimeCard := do
  let found ← Gate.trying (Daemon.reading (SnowRead.getTimecardFresh planned.cardSysId))
  Gate.require? found (auditedTimecardError state (-32056) "PLAN_NOT_FOUND"
    (errorData "PLAN_NOT_FOUND" [("plan_id", .string call.plan.planId)]) .error)

/-- The guards of the card. -/
def guardCard (planned : PlannedTimecardSetHours) (card : TimeCard) : Gate Unit :=
  match timecardInScope state.crates.sha256 card planned with
  | .ok () => return ()
  | .error failure =>
    Gate.answer (auditedTimecardError state (-32050) "GUARD_FAILED" failure.toJson .denied)

/-- Compares the card's version with the planned one. -/
def requireVersion (call : PlannedCall) (planned : PlannedTimecardSetHours) (card : TimeCard) :
    Gate Unit := do
  let refuse := auditedTimecardError state
  let expected ← Gate.require? call.planRecord.concurrencyToken
    (refuseConcurrency refuse "plan missing concurrency_token")
  requireSupplied refuse call expected
  let observed := concurrencyFromCard card
  Gate.require (observed = some expected)
    (refuseChanged refuse planned.cardSysId expected (ofOption ConcurrencyToken.toJson observed))

/-- Reads what is planned, and checks the card. -/
def prepare (call : PlannedCall) : Gate PlannedTimecardSetHours := do
  reserve state call
  let planned ← Gate.trying (pure (PlannedTimecardSetHours.fromPlan call.plan))
  rejectNonDayField state planned.dayField
  let card ← readCard state call planned
  guardCard state planned card
  requireVersion state call planned card
  return planned

/-- Checks the token, and marks the key. -/
def confirm (call : PlannedCall) : Gate DateTime := do
  let refuse := auditedTimecardError state
  checkToken refuse validateConfirmation (refuseConfirmation refuse) call
  markStarted call

/-! ## The write -/

/-- `receipt_for_card`, completed at an instant. -/
def receiptForCard (call : PlannedCall) (planned : PlannedTimecardSetHours) (auditId : String)
    (startedAt completedAt : DateTime) (card : TimeCard) : OperationReceipt where
  planId := call.plan.planId
  auditId := auditId
  parentAuditId := call.plan.planId
  tool := timecardApplyTool
  status := .success
  appliedChangesSummary := some call.plan.plannedChanges
  serviceNowMetadata := some ⟨some card.sysId, none, none⟩
  idempotencyReplay := false
  completedAt := completedAt
  opHash := call.plan.opHash
  recordUrl := some ("time_card.do?sys_id=" ++ card.sysId)
  recordSnapshot := some card.json
  changedFields :=
    [⟨planned.dayField, some (.string planned.fromHours), some (.string planned.toHours)⟩]
  concurrencyTokenObserved := some ((concurrencyFromCard card).getD ⟨"", none⟩)
  applyStartedAt := some startedAt
  errorCode := none
  warnings := []

/-- The note of a write (`applied_changes_for_receipt`). -/
def receiptNote (call : PlannedCall) (receipt : OperationReceipt) : AuditNote where
  auditId := receipt.auditId
  parentAuditId := some call.plan.planId
  tool := timecardApplyTool
  status := .appliedSuccess
  plannedChanges := receipt.appliedChangesSummary
  serviceNowMetadata := receipt.serviceNowMetadata
  error := none
  identities := some (call.binding.actor, call.binding.requester)
  appliedChanges := some <| receipt.changedFields.map fun change =>
    { field := change.field
      oldHash := hashAuditValue state.crates.sha256 change.before
      newHash := hashAuditValue state.crates.sha256 change.after
      redactedPreview := change.after.map nonFreeTextPreview }

/-- Makes the receipt of a write, and settles it; the audit's identifier replaces the one the
receipt is made with. -/
def settleCard (call : PlannedCall) (planned : PlannedTimecardSetHours) (startedAt : DateTime)
    (card : TimeCard) : Handler JsonRpcResponse := do
  let auditId ← Daemon.uuid
  let _ ← Daemon.uuid
  let completedAt ← Daemon.now
  let receipt := receiptForCard call planned auditId startedAt completedAt card
  settleReceipt (trail state) state call (receiptNote state call receipt) receipt

/-- Writes the hours, and consumes the token after a write that succeeded. -/
def writeHours (call : PlannedCall) (planned : PlannedTimecardSetHours) (startedAt : DateTime)
    (hours : String) : Handler JsonRpcResponse := do
  match ← Daemon.write call.plan.planId
      (.setTimecardHours planned.cardSysId planned.day hours planned.mode) with
  | .error text =>
    auditedTimecardError state (-32059) "UPSTREAM_ERROR"
      (errorData "UPSTREAM_ERROR" [("reason", .string text), ("retry_after_seconds", ofNat 2)])
      .error
  | .ok card =>
    consumeThen (auditedTimecardError state) call (settleCard state call planned startedAt card)

/-- `handle_timecard_apply_set_hours`.  A `TimeValue` is parsed as a floating point number; the
handler needs to know only whether there is one, and hands its text on. -/
def handleTimecardApplySetHours (parseTimeValue : String → Option String) (params : Value) :
    Handler JsonRpcResponse :=
  (admitCall state params).enter fun call =>
    (prepare state call).enter fun planned =>
      (confirm state call).enter fun startedAt =>
        match parseTimeValue planned.hours with
        | none => pure (invalidParams "hours")
        | some hours => writeHours state call planned startedAt hours

end TimecardWrite

end SnowAgent
