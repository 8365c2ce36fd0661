import SnowAgent.PlannedToken
import SnowAgent.StoryApply

/-! # The token of a Story plan

An apply call looks its token up before it writes and presents it after the write.
One branch skips both: a call whose key is pending and whose token is consumed
already goes on when recovery finds nothing.  Apart from that branch the handler
keeps the discipline of `TokenUse`, stage by stage, so that a token is good for one
successful write in every run in which no call takes the branch and no two calls
with the token wait for their writes at once.

Runs of both kinds are played at the end: one call after another, the branch lets a
second write through; two calls at once both find the token unspent.
-/
namespace SnowAgent

open Json Interleaving Program

namespace Ticket

variable {tokenId : String} {s : Ticket} {e : DaemonAct}

/-- Found consumed, and taken no notice of. -/
def Excused (s : Ticket) : Prop := s.foundConsumed = true

instance : DecidablePred Excused := fun s => inferInstanceAs (Decidable (s.foundConsumed = true))

/-- The actions that are neither a write nor a lookup of a token. -/
def quiet : DaemonAct → Prop
  | .write _ _ => False
  | .store (.lookupConfirmation _) => False
  | _ => True

theorem quiet_of_routine (h : e.routine) : quiet e := by
  cases e with
  | write => exact h
  | store call => cases call <;> first | exact h | trivial
  | _ => trivial

/-- Between its waits a call owes nothing; and when it skips the check of its token, it has
found it consumed and does not see it unspent. -/
def Idle (skips : Bool) (s : Ticket) : Prop :=
  s.owing = false ∧ (skips = true → s.validated = false ∧ s.foundConsumed = true)

variable {skips : Bool}

theorem idle_false (h : s.owing = false) : s.Idle false := ⟨h, nofun⟩

theorem unspentAt_of_foundConsumed (h : s.foundConsumed = true) (now : DateTime) :
    s.unspentAt now = false := by
  cases hfound : s.found with
  | none => simp [unspentAt, hfound]
  | some record =>
    have hconsumed : record.consumed = true := by simpa [foundConsumed, hfound] using h
    simp [unspentAt, hfound, ConfirmationRecord.Spent, hconsumed]

theorem Idle.discipline (h : Idle skips s) (he : quiet e) : s.discipline tokenId Excused e := by
  cases e with
  | store call =>
    cases call
    case consumeConfirmation now id binding =>
      intro howing
      rw [h.1] at howing
      cases howing
    all_goals exact h.1
  | write => exact absurd he id
  | now => trivial
  | _ => exact h.1

theorem Idle.next (h : Idle skips s) (he : quiet e) (r : e.Ans) :
    Idle skips (s.next tokenId e r) := by
  cases e with
  | store call =>
    cases call
    case lookupConfirmation => exact absurd he id
    case consumeConfirmation now id binding =>
      simp only [Ticket.next]
      split
      · exact ⟨rfl, h.2⟩
      · exact h
    all_goals exact h
  | now =>
    refine ⟨h.1, fun hskips => ?_⟩
    obtain ⟨hvalidated, hconsumed⟩ := h.2 hskips
    exact ⟨Bool.or_eq_false_iff.mpr ⟨hvalidated, unspentAt_of_foundConsumed hconsumed r⟩,
      hconsumed⟩
  | read => exact ⟨h.1, fun hskips => ⟨rfl, (h.2 hskips).2⟩⟩
  | write => exact absurd he id
  | _ => exact h

end Ticket

variable {A : Type} {R : A → Prop} {p : Handler A}

/-- What a call shows its token of while it does nothing but quiet actions. -/
theorem quiet_keeps {tokenId : String} {s : Ticket} {skips : Bool} (hp : p.Uses Ticket.quiet R)
    (hs : s.Idle skips) :
    Keeps tokenId Ticket.Excused p s fun s a => s.Idle skips ∧ R a :=
  hp.safe hs (fun _ _ hs he => hs.discipline he) fun _ _ r hs he => hs.next he r

theorem quiet_of_routine (h : Handler.Routine R p) : p.Uses Ticket.quiet R :=
  h.mono (fun _ => Ticket.quiet_of_routine) fun _ => id

theorem quiet_reading (p : Program SnowReads A) :
    (Daemon.reading p).Uses Ticket.quiet fun _ => True :=
  Daemon.uses_reading (fun _ => trivial) p

/-- A quiet end of a call. -/
theorem quiet_ends {R : JsonRpcResponse → Prop} {p : Handler JsonRpcResponse} {tokenId : String}
    {s : Ticket} (hp : p.Uses Ticket.quiet R) (hs : s.owing = false) :
    Disciplined tokenId Ticket.Excused p s :=
  (quiet_keeps hp (Ticket.idle_false hs)).mono fun _ _ h => h.1.1

namespace StoryWrite

variable (state : DaemonState) (call : ApplyCall) {s : Ticket}

/-! ## Quiet parts -/

variable {next : Handler JsonRpcResponse}

theorem routine_refuseConfirmation (err : ConfirmationConsumeError) :
    Handler.Routine (·.isError) (refuseConfirmation state call err) :=
  uses_bind (Daemon.routine_rateLimit ..) fun _ _ => routine_auditedStoryError state _ _ _ _

theorem quiet_recordInForce : (recordInForce call).Uses Ticket.quiet fun _ => True := by
  refine uses_perform trivial fun found => ?_
  rcases found with text | (_ | record)
  · exact uses_pure trivial
  · exact uses_pure trivial
  · exact uses_perform trivial fun _ => uses_pure trivial

theorem quiet_saveAndAnswer (receipt : OperationReceipt) :
    (saveAndAnswer call receipt).Uses Ticket.quiet fun _ => True := by
  refine uses_perform trivial fun saved => ?_
  cases saved with
  | error text => exact uses_pure trivial
  | ok _ => exact uses_perform trivial fun _ => uses_pure trivial

theorem quiet_settleWrite (applyStartedAt : DateTime) (beforeRecord : Option SnowRecord)
    (result : WriteResult) :
    (settleWrite state call applyStartedAt beforeRecord result).Uses Ticket.quiet
      fun _ => True := by
  refine uses_perform trivial fun auditId => ?_
  refine uses_bind (quiet_of_routine (routine_receiptForWrite ..)).forget fun receipt _ => ?_
  refine uses_bind (quiet_of_routine (routine_appendAuditEvent state _)) fun appended _ => ?_
  cases appended with
  | error text => exact uses_pure trivial
  | ok _ => exact quiet_saveAndAnswer call receipt

theorem quiet_tryResolvePendingReceipt (tool : String) (planRecord : PlanStoreRecord) :
    (tryResolvePendingReceipt state tool planRecord).Uses Ticket.quiet fun _ => True := by
  refine uses_bind (quiet_reading _) fun outcome _ => ?_
  rcases outcome with text | (record | _ | _)
  · exact uses_pure trivial
  · exact uses_bind (quiet_of_routine (routine_recoveredReceipt ..)) fun _ _ => uses_pure trivial
  · exact uses_pure trivial
  · exact uses_pure trivial

theorem quiet_consumeAudited (planId token : String) (binding : ConfirmationBinding) :
    (consumeAudited state planId token binding).Uses Ticket.quiet fun _ => True := by
  have hconsume : (Daemon.consumeConfirmation token binding).Uses Ticket.quiet fun _ => True :=
    uses_perform trivial fun _ =>
      performs trivial
  refine uses_bind hconsume fun consumed _ => ?_
  cases consumed with
  | error err => exact uses_pure trivial
  | ok _ =>
    exact uses_bind (quiet_of_routine (routine_appendConfirmationConsumeAudit state _ _ _))
      fun _ _ => uses_pure trivial

theorem quiet_saveRecovered (tool key : String) (planRecord : PlanStoreRecord)
    (receipt : OperationReceipt) :
    (saveRecovered state tool key planRecord receipt).Uses Ticket.quiet fun _ => True := by
  refine uses_perform trivial fun saved => ?_
  cases saved with
  | error text => exact uses_pure trivial
  | ok _ =>
    refine uses_perform trivial fun _ => ?_
    refine uses_bind (quiet_of_routine (routine_appendAuditEvent state _)) fun appended _ => ?_
    cases appended <;> exact uses_pure trivial

theorem quiet_resolvePendingResponse (tool key : String) (planRecord : PlanStoreRecord)
    (consume : Option (String × ConfirmationBinding)) :
    (resolvePendingResponse state tool key planRecord consume).Uses Ticket.quiet fun _ => True := by
  refine uses_bind (quiet_tryResolvePendingReceipt state tool planRecord) fun outcome _ => ?_
  rcases outcome with text | (receipt | _ | _)
  · exact uses_pure trivial
  · refine uses_perform trivial fun opened => ?_
    cases opened with
    | error text => exact uses_pure trivial
    | ok _ =>
      cases consume with
      | none => exact quiet_saveRecovered state tool key planRecord receipt
      | some presented =>
        refine uses_bind (quiet_consumeAudited state _ _ _) fun consumed _ => ?_
        rcases consumed with err | (text | _)
        · exact uses_pure trivial
        · exact uses_pure trivial
        · exact quiet_saveRecovered state tool key planRecord receipt
  · exact uses_pure trivial
  · exact uses_pure trivial

theorem quiet_consumeThen (hnext : next.Uses Ticket.quiet fun _ => True) (alreadyConsumed : Bool) :
    (consumeThen state call alreadyConsumed next).Uses Ticket.quiet fun _ => True := by
  unfold consumeThen
  split
  · exact hnext
  · refine uses_bind (quiet_consumeAudited state _ _ _) fun consumed _ => ?_
    rcases consumed with err | (text | _)
    · exact (quiet_of_routine (routine_refuseConfirmation state call err)).forget
    · exact uses_pure trivial
    · exact hnext

theorem quiet_recoverFailedWrite (alreadyConsumed : Bool) (text : String) :
    (recoverFailedWrite state call alreadyConsumed text).Uses Ticket.quiet fun _ => True := by
  refine uses_bind (quiet_tryResolvePendingReceipt state _ _) fun outcome _ => ?_
  rcases outcome with text | (receipt | _ | _)
  · exact uses_pure trivial
  · exact quiet_consumeThen state call (quiet_saveAndAnswer call receipt) alreadyConsumed
  · exact (quiet_of_routine (routine_auditedStoryError state _ _ _ _)).forget
  · exact (quiet_of_routine (routine_auditedStoryError state _ _ _ _)).forget

/-! ## The stages of an apply call -/

variable {call} {tokenId : String}

/-- The row found last is bound to the call. -/
def FoundOwn (call : ApplyCall) (s : Ticket) : Prop := s.found.map (·.binding) = some call.binding

/-- What a call has shown when it goes on to write. -/
def Cleared (call : ApplyCall) (skips : Bool) (s : Ticket) : Prop :=
  s.Idle skips ∧ (skips = false → s.validated = true ∧ FoundOwn call s)

/-- **Presenting the token.**  A call that has written presents its token at once, unless it
skipped the check. -/
theorem consumeThen_keeps {skips : Bool} (hnext : next.Uses Ticket.quiet fun _ => True)
    (hskips : skips = true → s.owing = false) (hfound : skips = false → FoundOwn call s) :
    Disciplined call.token Ticket.Excused (consumeThen state call skips next) s := by
  cases skips with
  | true => exact quiet_ends hnext (hskips rfl)
  | false =>
    simp only [consumeThen, Bool.false_eq_true, if_false, consumeAudited,
      Daemon.consumeConfirmation]
    refine safe_bind (safe_bind (safe_bind (safe_perform trivial fun now => ?_)))
    refine ⟨fun _ => ⟨rfl, rfl, hfound rfl⟩, fun consumed => ?_⟩
    have howing : (((s.next call.token .now now).next call.token
        (.store (.consumeConfirmation now call.token call.binding)) consumed)).owing = false := by
      simp [Ticket.next]
    cases consumed with
    | error err => exact quiet_ends (quiet_of_routine (routine_refuseConfirmation ..)) howing
    | ok _ =>
      refine safe_bind ?_
      refine (quiet_keeps (quiet_of_routine
        (routine_appendConfirmationConsumeAudit state _ _ _)) (Ticket.idle_false howing)).mono ?_
      rintro s' appended ⟨hs', -⟩
      cases appended with
      | error text => exact quiet_ends (R := fun _ => True) (uses_pure trivial) hs'.1
      | ok _ => exact quiet_ends hnext hs'.1

/-- What a write leaves of what was shown before it: the token is owed only for a write that
succeeded and was not excused. -/
def Written (s s' : Ticket) (answer : Except String WriteResult) : Prop :=
  s'.found = s.found ∧ (answer.isOk = false → s'.owing = false) ∧
    (s.validated = false → s'.owing = false)

theorem applyPlan_keeps {tool tokenId : String} {plan : OperationPlan} (howing : s.owing = false)
    (hclear : s.validated = true ∨ s.Excused) :
    Keeps tokenId Ticket.Excused (applyPlan tool plan) s (Written s) := by
  have hcreate : ∀ table payload, Keeps tokenId Ticket.Excused
      (Daemon.write plan.planId (.create table payload)) s (Written s) := by
    refine fun table payload => ⟨⟨howing, hclear⟩, fun answer => ⟨rfl, fun hfailed => ?_, ?_⟩⟩
    · cases answer with
      | error text => simp [ticket, Ticket.next, howing, SnowWrite.succeeded]
      | ok result => cases hfailed
    · intro hexcused
      simp [ticket, Ticket.next, howing, hexcused]
  have hupdate : ∀ table sysId payload, Keeps tokenId Ticket.Excused
      (Daemon.write plan.planId (.update table sysId payload)) s (Written s) := by
    refine fun table sysId payload =>
      ⟨⟨howing, hclear⟩, fun answer => ⟨rfl, fun hfailed => ?_, ?_⟩⟩
    · cases answer with
      | error text => simp [ticket, Ticket.next, howing, SnowWrite.succeeded]
      | ok result => cases hfailed
    · intro hexcused
      simp [ticket, Ticket.next, howing, hexcused]
  rcases applyPlan_cases tool plan with ⟨text, h⟩ | ⟨table, h⟩ | ⟨table, target, _, h⟩
  · rw [h]
    exact ⟨rfl, fun _ => howing, fun _ => howing⟩
  · rw [h]
    exact hcreate _ _
  · rw [h]
    exact hupdate _ _ _

variable {skips : Bool}

theorem Cleared.now (h : Cleared call skips s) (now : DateTime) :
    Cleared call skips (s.next call.token .now now) := by
  refine ⟨h.1.next (e := .now) trivial now, fun hskips => ?_⟩
  obtain ⟨hvalidated, hfound⟩ := h.2 hskips
  exact ⟨Bool.or_eq_true_iff.mpr (.inl hvalidated), hfound⟩

/-- **Writing.**  A call that is cleared to write and writes presents its token after it. -/
theorem writePlan_keeps (h : Cleared call skips s) (beforeRecord : Option SnowRecord) :
    Disciplined call.token Ticket.Excused (writePlan state call skips beforeRecord) s := by
  refine safe_perform trivial fun applyStartedAt => ?_
  refine safe_bind (safe_perform trivial fun markedAt => ?_)
  have h' := (h.now applyStartedAt).now markedAt
  refine ⟨h'.1.1, fun marked => ?_⟩
  cases marked with
  | error text => exact h'.1.1
  | ok _ =>
    have hclear : ((s.next call.token .now applyStartedAt).next call.token .now
        markedAt).validated = true ∨
        ((s.next call.token .now applyStartedAt).next call.token .now markedAt).Excused := by
      cases skips with
      | false => exact .inl (h'.2 rfl).1
      | true => exact .inr (h'.1.2 rfl).2
    refine safe_bind ((applyPlan_keeps h'.1.1 hclear).mono ?_)
    rintro s' answer ⟨hfound, hfailed, hexcused⟩
    cases answer with
    | error text =>
      exact quiet_ends (quiet_recoverFailedWrite state call skips text) (hfailed rfl)
    | ok result =>
      refine consumeThen_keeps state (quiet_settleWrite ..) (fun hskips => ?_) fun hskips => ?_
      · exact hexcused (h'.1.2 hskips).1
      · unfold FoundOwn
        rw [hfound]
        exact (h'.2 hskips).2

/-- **Confirming.**  A call that does not skip the check writes only with a row it has just
seen unspent. -/
theorem confirmWrite_keeps (h : s.Idle skips) (beforeRecord : Option SnowRecord) :
    Disciplined call.token Ticket.Excused (confirmWrite state call skips beforeRecord) s := by
  cases skips with
  | true => exact writePlan_keeps state ⟨h, nofun⟩ beforeRecord
  | false =>
    refine safe_perform h.1 fun looked => ?_
    rcases looked with text | (_ | confirmation)
    · refine quiet_ends (R := fun _ => True) (uses_pure trivial) ?_
      simp [ticket, Ticket.next, Ticket.looked, h.1]
    · refine quiet_ends (quiet_of_routine (routine_refuseConfirmation state call _)) ?_
      simp [ticket, Ticket.next, Ticket.looked, h.1]
    · simp only [ticket, Ticket.next, if_true, Ticket.looked]
      have hchecked : Keeps call.token Ticket.Excused
          (validateConfirmation confirmation call.binding)
          { s with found := some confirmation, current := true, validated := false } _ :=
        validateConfirmation_safe (fun _ => trivial) h.1 rfl rfl
      refine safe_bind (hchecked.mono ?_)
      rintro s' checked ⟨howing, hok⟩
      cases checked with
      | error err =>
        exact quiet_ends (quiet_of_routine (routine_refuseConfirmation state call err)) howing
      | ok _ =>
        have hcleared : Cleared call false s' := ⟨Ticket.idle_false howing, fun _ => hok rfl⟩
        exact writePlan_keeps state hcleared beforeRecord

theorem checkFields_keeps (h : s.Idle skips) :
    Disciplined call.token Ticket.Excused (checkFields state call skips) s := by
  refine safe_bind ((quiet_keeps (quiet_reading _) h).mono ?_)
  rintro s' governed ⟨h', -⟩
  rcases governed with text | ⟨beforeRecord, err | _⟩
  · exact h'.1
  · exact quiet_ends (quiet_of_routine (routine_planBuildErrorToApplyResponse state err)) h'.1
  · exact confirmWrite_keeps state h' beforeRecord

theorem checkVersion_keeps (h : s.Idle skips) (expected : ConcurrencyToken) (target : RecordRef) :
    Disciplined call.token Ticket.Excused (checkVersion state call skips expected target) s := by
  refine safe_bind ((quiet_keeps (quiet_reading _) h).mono ?_)
  rintro s' current ⟨h', -⟩
  rcases current with text | (_ | current)
  · exact h'.1
  · exact quiet_ends (quiet_of_routine (routine_auditedStoryError state _ _ _ _)) h'.1
  · cases hobserved : (concurrencyFromRecord current).filter (· ≠ expected) with
    | some observed =>
      simp only [hobserved]
      exact quiet_ends (quiet_of_routine (routine_auditedStoryError state _ _ _ _)) h'.1
    | none =>
      simp only [hobserved]
      exact checkFields_keeps state h'

theorem checkConcurrency_keeps (h : s.Idle skips) :
    Disciplined call.token Ticket.Excused (checkConcurrency state call skips) s := by
  have hinvalid : ∀ reason, Disciplined call.token Ticket.Excused
      (concurrencyInvalid state call reason) s :=
    fun reason => quiet_ends (quiet_of_routine (routine_auditedStoryError state _ _ _ _)) h.1
  unfold checkConcurrency
  split
  · exact checkFields_keeps state h
  · split
    · exact hinvalid _
    · split_ifs
      · exact hinvalid _
      · split
        · exact checkFields_keeps state h
        · exact checkVersion_keeps state h _ _

theorem guardWrite_keeps (h : s.Idle skips) :
    Disciplined call.token Ticket.Excused (guardWrite state call skips) s := by
  refine safe_bind ((quiet_keeps (quiet_reading _) h).mono ?_)
  rintro s' guarded ⟨h', -⟩
  cases guarded with
  | ok _ => exact checkConcurrency_keeps state h'
  | error failure =>
    cases hfields : storyScopeFailureFieldRejections failure with
    | some fields =>
      simp only [hfields]
      exact quiet_ends (quiet_of_routine (routine_auditedStoryError state _ _ _ _)) h'.1
    | none =>
      simp only [hfields]
      exact quiet_ends (quiet_of_routine (routine_auditedStoryError state _ _ _ _)) h'.1

/-- Answers with a stored receipt do not write. -/
theorem replayReceipt_keeps (howing : s.owing = false) (receipt : OperationReceipt) :
    Disciplined call.token Ticket.Excused (replayReceipt state call receipt) s := by
  refine safe_bind (safe_perform howing fun looked => ?_)
  have hlooked : (s.next call.token (.store (.lookupConfirmation call.token)) looked).owing =
      false := by
    simp only [Ticket.next, if_true]
    exact (Ticket.looked_owing looked).trans howing
  rcases looked with text | (_ | record)
  · exact quiet_ends (quiet_of_routine (routine_refuseConfirmation state call _)) hlooked
  · exact quiet_ends (quiet_of_routine (routine_refuseConfirmation state call _)) hlooked
  · cases hfit : validateConfirmationReplayBinding record call.binding with
    | error err =>
      simp only [hfit]
      exact quiet_ends (quiet_of_routine (routine_refuseConfirmation state call err)) hlooked
    | ok _ =>
      simp only [hfit]
      exact hlooked

theorem quiet_keyConflict (boundOpHash : String) :
    (keyConflict state call boundOpHash).Uses Ticket.quiet (·.isError) :=
  quiet_of_routine (routine_auditedStoryError state _ _ _ _)

theorem reserveKey_keeps (h : s.Idle skips) :
    Disciplined call.token Ticket.Excused (reserveKey state call skips) s := by
  have hreserve : (Daemon.checkAndRecord call.key call.tool call.plan.opHash
      state.policy.idempotencyWindowSeconds).Uses Ticket.quiet fun _ => True :=
    uses_perform trivial fun _ =>
      performs trivial
  refine safe_bind ((quiet_keeps hreserve h).mono ?_)
  rintro s' reserved ⟨h', -⟩
  rcases reserved with text | (_ | _ | receipt | _)
  · exact h'.1
  · exact guardWrite_keeps state h'
  · exact guardWrite_keeps state h'
  · exact replayReceipt_keeps state h'.1 receipt
  · have hbound : (Daemon.store (.lookupRecord call.key call.tool)).Uses Ticket.quiet
        fun _ => True := performs trivial
    refine quiet_ends (R := fun a => a.isError = true) (uses_bind hbound fun bound _ => ?_) h'.1
    rcases bound with text | (_ | record) <;> exact quiet_keyConflict state _

theorem admitWrite_keeps (h : s.Idle skips) (planExpired : Bool) :
    Disciplined call.token Ticket.Excused (admitWrite state call planExpired skips) s := by
  unfold admitWrite
  split
  · have hmark : (Daemon.store (.markPlanExpired call.planId)).Uses Ticket.quiet
        fun _ => True := performs trivial
    refine quiet_ends (R := fun a => a.isError = true) (uses_bind hmark fun _ _ => ?_) h.1
    exact quiet_of_routine (routine_auditedStoryError state _ _ _ _)
  · refine safe_bind ((quiet_keeps (quiet_of_routine (Daemon.routine_rateLimit ..)) h).mono ?_)
    rintro s' wait ⟨h', -⟩
    cases wait with
    | some retryAfterSeconds =>
      exact quiet_ends (quiet_of_routine (routine_auditedStoryError state _ _ _ _)) h'.1
    | none => exact reserveKey_keeps state h'

theorem recoverPending_keeps (h : s.Idle skips) (planExpired : Bool) :
    Disciplined call.token Ticket.Excused (recoverPending state call planExpired skips) s := by
  refine safe_bind ((quiet_keeps (quiet_resolvePendingResponse state _ _ _ _) h).mono ?_)
  rintro s' resolved ⟨h', -⟩
  rcases resolved with text | (receipt | _ | _)
  · exact h'.1
  · exact h'.1
  · exact admitWrite_keeps state h' planExpired
  · exact quiet_ends (quiet_of_routine (routine_auditedStoryError state _ _ _ _)) h'.1

/-- **The branch that skips the check** is taken only with a token that was found consumed. -/
theorem resolvePending_keeps (h : s.Idle false) (planExpired : Bool) :
    Disciplined call.token Ticket.Excused (resolvePending state call planExpired) s := by
  refine safe_perform h.1 fun looked => ?_
  have howing : (s.next call.token (.store (.lookupConfirmation call.token)) looked).owing =
      false := by
    simp only [Ticket.next, if_true]
    exact (Ticket.looked_owing looked).trans h.1
  rcases looked with text | (_ | confirmation)
  · exact howing
  · exact admitWrite_keeps state (Ticket.idle_false howing) planExpired
  · cases hconsumed : confirmation.consumed with
    | true =>
      have hskips : (s.next call.token (.store (.lookupConfirmation call.token))
          (.ok (some confirmation))).Idle true := by
        refine ⟨howing, fun _ => ⟨?_, ?_⟩⟩
        · simp [Ticket.next, Ticket.looked]
        · simp [Ticket.next, Ticket.looked, Ticket.foundConsumed, hconsumed]
      simp only [hconsumed, if_true]
      refine safe_bind ((quiet_keeps (quiet_of_routine
        (routine_validateConfirmationBinding _ _)) hskips).mono ?_)
      rintro s' checked ⟨h', -⟩
      cases checked with
      | error err =>
        exact quiet_ends (quiet_of_routine (routine_refuseConfirmation state call err)) h'.1
      | ok _ => exact recoverPending_keeps state h' planExpired
    | false =>
      have hidle : (s.next call.token (.store (.lookupConfirmation call.token))
          (.ok (some confirmation))).Idle false := Ticket.idle_false howing
      simp only [hconsumed, Bool.false_eq_true, if_false]
      refine safe_bind ((quiet_keeps (quiet_of_routine
        (routine_validateConfirmation _ _)) hidle).mono ?_)
      rintro s' checked ⟨h', -⟩
      cases checked with
      | error err =>
        exact quiet_ends (quiet_of_routine (routine_refuseConfirmation state call err)) h'.1
      | ok _ => exact recoverPending_keeps state h' planExpired

theorem foundPending_keeps (h : s.Idle false) (planExpired : Bool) :
    Disciplined call.token Ticket.Excused (do
      match (← recordInForce call).filter fun record => record.receipt.isNone with
      | some _ => resolvePending state call planExpired
      | none => admitWrite state call planExpired false) s := by
  refine safe_bind ((quiet_keeps (quiet_recordInForce call) h).mono ?_)
  rintro s' found ⟨h', -⟩
  cases found.filter fun record => record.receipt.isNone with
  | none => exact admitWrite_keeps state h' planExpired
  | some _ => exact resolvePending_keeps state h' planExpired

theorem checkPending_keeps (h : s.Idle false) :
    Disciplined call.token Ticket.Excused (checkPending state call) s := by
  unfold checkPending
  split
  · exact foundPending_keeps state h true
  · exact safe_perform trivial fun t => foundPending_keeps state (s := s.next call.token .now t)
      (h.next (e := .now) trivial t) _

theorem checkKey_keeps (h : s.Idle false) :
    Disciplined call.token Ticket.Excused (checkKey state call) s := by
  refine safe_bind ((quiet_keeps (quiet_recordInForce call) h).mono ?_)
  rintro s' found ⟨h', -⟩
  cases found with
  | none => exact checkPending_keeps state h'
  | some record =>
    dsimp only
    split
    · exact quiet_ends (quiet_keyConflict state _) h'.1
    · cases record.receipt with
      | some receipt => exact replayReceipt_keeps state h'.1 receipt
      | none => exact checkPending_keeps state h'

/-- A quiet part, and what follows it. -/
theorem quiet_then {f : A → Handler JsonRpcResponse} (hp : p.Uses Ticket.quiet R) (hs : s.Idle skips)
    (hf : ∀ s' a, s'.Idle skips → Disciplined tokenId Ticket.Excused (f a) s') :
    Disciplined tokenId Ticket.Excused (p >>= f) s :=
  safe_bind ((quiet_keeps hp hs).mono fun s' a h => hf s' a h.1)

theorem loadPlan_keeps (h : s.Idle false) (tool : String) (params : Value) (board : BoardBinding)
    (planId token key : String) :
    Disciplined token Ticket.Excused (loadPlan state tool params board planId token key) s := by
  refine quiet_then (performs trivial) h fun s' opened h' => ?_
  cases opened with
  | error text => exact h'.1
  | ok _ =>
    refine quiet_then (performs trivial) h' fun s' loaded h' => ?_
    rcases loaded with text | (_ | planRecord)
    · exact h'.1
    · exact quiet_ends (quiet_of_routine (routine_auditedStoryError state _ _ _ _)) h'.1
    · dsimp only
      split
      · exact h'.1
      · refine quiet_then (quiet_of_routine (Daemon.routine_rateLimit ..)) h'
          fun s' wait h' => ?_
        cases wait with
        | some retryAfterSeconds =>
          exact quiet_ends (quiet_of_routine (routine_auditedStoryError state _ _ _ _)) h'.1
        | none =>
          exact checkKey_keeps state h'

/-- **The Story apply handler keeps the discipline of its token.** -/
theorem handleStoryApply_keeps {tool token : String} {params : Value}
    (htoken : stringParam params "confirmation_token" = some token) :
    Disciplined token Ticket.Excused (handleStoryApply state tool params) Ticket.blank := by
  have hreject : ∀ {s : Ticket} (field reason : String), s.Idle false →
      Disciplined token Ticket.Excused (fieldsRejected state tool [fieldReason field reason]) s :=
    fun field reason h => quiet_ends (quiet_of_routine (routine_auditedStoryError state _ _ _ _)) h.1
  refine quiet_then (performs trivial) (Ticket.idle_false rfl) fun s killed h => ?_
  split
  · exact quiet_ends (quiet_of_routine (routine_auditedStoryError state _ _ _ _)) h.1
  · cases boardBinding tool state with
    | none => exact hreject _ _ h
    | some board =>
      dsimp only
      split
      · exact hreject _ _ h
      · cases stringParam params "plan_id" with
        | none => exact hreject _ _ h
        | some planId =>
          rw [htoken]
          cases stringParam params "idempotency_key" with
          | none => exact hreject _ _ h
          | some key => exact loadPlan_keeps state h tool params board planId token key

end StoryWrite

end SnowAgent
