import SnowAgent.StoryRuns

/-! # The audit events of Story receipts

A receipt carries the id of the audit event that is to stand for it.  Along its path
a call shows which events it has had appended and which receipts it has saved.  It
appends the event before it saves the receipt of a write, and after it saves one that
recovery made of a pending key; but the receipt that recovery makes after a write was
answered with an error gets no event.  Apart from that branch every receipt that is
saved, or answered for the first time, has its event in the sink when the call
returns, as long as the stores do not fail.
-/
namespace SnowAgent

open Json Interleaving Program

/-- Whether an action takes events out of a sink. -/
def DaemonAct.prunes : DaemonAct → Bool
  | .store (.enforceRetention ..) => true
  | _ => false

/-- What a call has shown of its receipts. -/
structure Ledger where
  /-- The ids of the events it has had appended. -/
  audited : List String
  /-- The ids of the receipts it has saved. -/
  saved : List String
  /-- Whether a write of its was answered with an error. -/
  refused : Bool
  /-- Whether it could not open the stores, or saved a receipt after such a write. -/
  excused : Bool
deriving DecidableEq

variable {e : DaemonAct}

namespace Ledger

/-- Nothing has been shown. -/
def blank : Ledger := ⟨[], [], false, false⟩

/-- What an action and its answer add, for the sink at `path`. -/
def next (path : String) (s : Ledger) : (e : DaemonAct) → e.Ans → Ledger
  | .openStores, .error _ => { s with excused := true }
  | .store (.appendAudit at_ _ event), _ =>
    if at_ = path then { s with audited := event.auditId :: s.audited } else s
  | .store (.saveReceipt _ receipt), .ok _ =>
    { s with saved := receipt.auditId :: s.saved, excused := s.excused || s.refused }
  | .write _ w, answer => { s with refused := s.refused || !w.succeeded answer }
  | _, _ => s

/-- Every saved receipt has its event, unless the call is excused. -/
def Settled (s : Ledger) : Prop := s.excused = false → ∀ id ∈ s.saved, id ∈ s.audited

/-- Nothing has been saved. -/
def Unsaved (s : Ledger) : Prop := s.saved = []

theorem Unsaved.settled {s : Ledger} (h : s.Unsaved) : s.Settled := by
  intro _ id hid
  rw [h] at hid
  cases hid

/-- The actions that neither write nor save a receipt nor take events out of a sink. -/
def calm : DaemonAct → Prop
  | .write _ _ | .store (.saveReceipt _ _) | .store (.enforceRetention ..) => False
  | _ => True

/-- What calm actions leave: the same receipts and writes, and the events that were there. -/
structure Calmed (s s' : Ledger) : Prop where
  saved : s'.saved = s.saved
  refused : s'.refused = s.refused
  audited : ∀ id ∈ s.audited, id ∈ s'.audited
  excused : s'.excused = false → s.excused = false

theorem Calmed.refl (s : Ledger) : Calmed s s := ⟨rfl, rfl, fun _ => id, id⟩

theorem Calmed.trans {s s' s'' : Ledger} (h : Calmed s s') (h' : Calmed s' s'') :
    Calmed s s'' where
  saved := h'.saved.trans h.saved
  refused := h'.refused.trans h.refused
  audited := fun id hid => h'.audited id (h.audited id hid)
  excused := fun hs => h.excused (h'.excused hs)

theorem Calmed.settled {s s' : Ledger} (h : Calmed s s') (hs : s.Settled) : s'.Settled := by
  intro hexcused id hid
  rw [h.saved] at hid
  exact h.audited id (hs (h.excused hexcused) id hid)

theorem Calmed.unsaved {s s' : Ledger} (h : Calmed s s') (hs : s.Unsaved) : s'.Unsaved :=
  h.saved.trans hs

theorem calmed_next {path : String} {s : Ledger} (he : calm e) (r : e.Ans) :
    Calmed s (s.next path e r) := by
  cases e with
  | openStores =>
    cases r with
    | error text => exact ⟨rfl, rfl, fun _ => id, nofun⟩
    | ok _ => exact .refl s
  | store call =>
    cases call
    case saveReceipt => exact absurd he id
    case enforceRetention => exact absurd he id
    case appendAudit at_ now event =>
      simp only [next]
      split
      · exact ⟨rfl, rfl, fun _ hid => List.mem_cons_of_mem _ hid, id⟩
      · exact .refl s
    all_goals exact .refl s
  | write => exact absurd he id
  | _ => exact .refl s

theorem calm_prunes (h : calm e) : e.prunes = false := by
  cases e with
  | store call => cases call <;> first | exact absurd h id | rfl
  | _ => rfl

theorem calm_of_routine (h : e.routine) : calm e := by
  cases e with
  | write => exact h
  | store call => cases call <;> first | exact h | trivial
  | _ => trivial

end Ledger

/-- The observer of the sink at `path`. -/
def ledger (path : String) : Observer DaemonIO := ⟨Ledger, Ledger.next path⟩

/-- A part takes no event out of a sink, and ends as promised. -/
abbrev Records {A : Type} (path : String) (p : Handler A) (s : Ledger) (Q : Ledger → A → Prop) :
    Prop :=
  Safe (ledger path) (fun _ e => e.prunes = false) p s Q

/-- **What a call owes the sink when it returns**: the event of every receipt it has saved and
of the one it answers with, unless that is a replay. -/
def Accounted (s : Ledger) (a : JsonRpcResponse) : Prop :=
  s.Settled ∧ (s.excused = false → ∀ receipt, a = .ok (.receipt receipt) →
    receipt.idempotencyReplay = false → receipt.auditId ∈ s.audited)

variable {R : A → Prop} {p : Handler A} {A : Type}

theorem calm_records {path : String} {s : Ledger}
    (hp : p.Uses Ledger.calm R) : Records path p s fun s' a => s.Calmed s' ∧ R a :=
  hp.safe (.refl s) (fun _ _ _ he => Ledger.calm_prunes he)
    fun _ _ r hs he => hs.trans (Ledger.calmed_next he r)

theorem uses_calm_of_routine (h : Handler.Routine R p) : p.Uses Ledger.calm R :=
  h.mono (fun _ => Ledger.calm_of_routine) fun _ => id

theorem calm_reading (p : Program SnowReads A) :
    (Daemon.reading p).Uses Ledger.calm fun _ => True :=
  Daemon.uses_reading (fun _ => trivial) p

/-- A calm part, and what follows it. -/
theorem calm_then {A B : Type} {R : A → Prop} {p : Handler A} {f : A → Handler B} {path : String}
    {s : Ledger} {Q : Ledger → B → Prop} (hp : p.Uses Ledger.calm R)
    (hf : ∀ s' a, s.Calmed s' → R a → Records path (f a) s' Q) : Records path (p >>= f) s Q :=
  safe_bind ((calm_records hp).mono fun s' a h => hf s' a h.1 h.2)

variable {a : JsonRpcResponse}

/-- A refusal owes nothing. -/
theorem accounted_error {s : Ledger} (hs : s.Settled) (ha : a.isError = true) : Accounted s a := by
  refine ⟨hs, fun _ receipt hreceipt => ?_⟩
  subst hreceipt
  cases ha

/-- A calm part that ends in a refusal. -/
theorem calm_refuses {p : Handler JsonRpcResponse} {path : String} {s : Ledger}
    (hp : p.Uses Ledger.calm (·.isError)) (hs : s.Settled) : Records path p s Accounted :=
  (calm_records hp).mono fun _ _ h => accounted_error (h.1.settled hs) h.2

theorem records_refusal {path : String} {s : Ledger} (hs : s.Settled)
    (ha : a.isError = true) : Records path (return a) s Accounted :=
  accounted_error hs ha

variable {receipt : OperationReceipt}

namespace StoryWrite

variable (state : DaemonState) (call : ApplyCall) {s : Ledger}

/-- Appending a note leaves its event in the sink of the Story calls. -/
theorem appendAuditEvent_records (note : AuditNote) :
    Records state.storePath (appendAuditEvent state note) s fun s' _ =>
      s.Calmed s' ∧ (s'.excused = false → note.auditId ∈ s'.audited) := by
  refine safe_perform rfl fun opened => ?_
  cases opened with
  | error text => exact ⟨⟨rfl, rfl, fun _ => id, nofun⟩, nofun⟩
  | ok _ =>
    refine safe_perform rfl fun t => safe_perform rfl fun now => ⟨rfl, fun _ => ?_⟩
    have hshown : ∀ (note : AuditNote) decisions,
        (note.event state t decisions).auditId = note.auditId := fun _ _ => rfl
    simp only [ledger, Ledger.next, if_true, hshown]
    exact ⟨⟨rfl, rfl, fun _ hid => List.mem_cons_of_mem _ hid, id⟩, fun _ => List.mem_cons_self⟩

/-! ## Quiet parts -/

variable (tool : String)

theorem calm_refuseConfirmation (err : ConfirmationConsumeError) :
    (refuseConfirmation state call err).Uses Ledger.calm (·.isError) :=
  uses_calm_of_routine (routine_refuseConfirmation state call err)

theorem calm_auditedStoryError {tool : String} (code : Int) (message : String) (data : Value)
    (status : ResultStatus) :
    (auditedStoryError state tool code message data status).Uses Ledger.calm (·.isError) :=
  uses_calm_of_routine (routine_auditedStoryError state code message data status)

theorem calm_recordInForce : (recordInForce call).Uses Ledger.calm fun _ => True := by
  refine uses_perform trivial fun found => ?_
  rcases found with text | (_ | record)
  · exact uses_pure trivial
  · exact uses_pure trivial
  · exact uses_perform trivial fun _ => uses_pure trivial

theorem calm_tryResolvePendingReceipt (planRecord : PlanStoreRecord) :
    (tryResolvePendingReceipt state tool planRecord).Uses Ledger.calm fun _ => True := by
  refine uses_bind (calm_reading _) fun outcome _ => ?_
  rcases outcome with text | (record | _ | _)
  · exact uses_pure trivial
  · exact uses_bind (uses_calm_of_routine (routine_recoveredReceipt ..)) fun _ _ => uses_pure trivial
  · exact uses_pure trivial
  · exact uses_pure trivial

theorem calm_consumeAudited (planId token : String) (binding : ConfirmationBinding) :
    (consumeAudited state planId token binding).Uses Ledger.calm fun _ => True := by
  have hconsume : (Daemon.consumeConfirmation token binding).Uses Ledger.calm fun _ => True :=
    uses_perform trivial fun _ =>
      performs trivial
  refine uses_bind hconsume fun consumed _ => ?_
  cases consumed with
  | error err => exact uses_pure trivial
  | ok _ =>
    exact uses_bind (uses_calm_of_routine (routine_appendConfirmationConsumeAudit state _ _ _))
      fun _ _ => uses_pure trivial

/-- A stored receipt is answered as a replay. -/
theorem calm_replayReceipt (receipt : OperationReceipt) :
    (replayReceipt state call receipt).Uses Ledger.calm fun a =>
      ∀ answered, a = .ok (.receipt answered) → answered.idempotencyReplay = true := by
  have hrefuse : ∀ err, (refuseConfirmation state call err).Uses Ledger.calm fun a =>
      ∀ answered, a = .ok (.receipt answered) → answered.idempotencyReplay = true := by
    refine fun err => (calm_refuseConfirmation state call err).mono (fun _ => id) fun a ha => ?_
    rintro answered rfl
    cases ha
  have hfit : (validateReplayConfirmation call.token call.binding).Uses Ledger.calm
      fun _ => True := by
    refine uses_perform trivial fun looked => ?_
    rcases looked with text | (_ | record) <;> exact uses_pure trivial
  refine uses_bind hfit fun fit _ => ?_
  cases fit with
  | error err => exact hrefuse err
  | ok _ =>
    refine uses_pure fun answered hanswered => ?_
    cases hanswered
    rfl

/-! ## Receipts of a write -/

variable {call} {path : String}

/-- **Saving.**  A receipt that is saved last has its event already, or was made after the
write was refused. -/
theorem saveAndAnswer_records (hs : s.Unsaved)
    (hevent : s.excused = false → receipt.auditId ∈ s.audited ∨ s.refused = true) :
    Records path (saveAndAnswer call receipt) s Accounted := by
  refine safe_perform rfl fun saved => ?_
  cases saved with
  | error text => exact accounted_error hs.settled rfl
  | ok _ =>
    have hshown : s.next path (.store (.saveReceipt call.key receipt)) (.ok ()) =
        { s with saved := [receipt.auditId], excused := s.excused || s.refused } := by
      simp only [Ledger.next]
      rw [hs]
    have haudited : (s.excused || s.refused) = false → receipt.auditId ∈ s.audited := by
      intro h
      obtain ⟨hexcused, hrefused⟩ := Bool.or_eq_false_iff.mp h
      rcases hevent hexcused with h | h
      · exact h
      · rw [hrefused] at h
        cases h
    refine safe_perform rfl fun _ => ?_
    show Accounted (s.next path (.store (.saveReceipt call.key receipt)) (.ok ())) _
    rw [hshown]
    refine ⟨fun h id hid => ?_, fun h answered hanswered _ => ?_⟩
    · rw [List.mem_singleton.mp hid]
      exact haudited h
    · cases hanswered
      exact haudited h

/-- Presenting the token in between does not matter. -/
theorem consumeThen_records {skips : Bool} {next : Handler JsonRpcResponse} (hs : s.Unsaved)
    (hnext : ∀ s', s.Calmed s' → Records path next s' Accounted) :
    Records path (consumeThen state call skips next) s Accounted := by
  cases skips with
  | true => exact hnext s (.refl s)
  | false =>
    simp only [consumeThen, Bool.false_eq_true, if_false]
    refine calm_then (calm_consumeAudited state _ _ _) fun s' consumed h' _ => ?_
    rcases consumed with err | (text | _)
    · exact calm_refuses (calm_refuseConfirmation state call err) (h'.unsaved hs).settled
    · exact records_refusal (h'.unsaved hs).settled rfl
    · exact hnext s' h'

/-- **The receipt of a write** is audited before it is saved. -/
theorem settleWrite_records (hs : s.Unsaved) (applyStartedAt : DateTime)
    (beforeRecord : Option SnowRecord) (result : WriteResult) :
    Records state.storePath (settleWrite state call applyStartedAt beforeRecord result) s
      Accounted := by
  refine safe_perform rfl fun auditId => ?_
  refine calm_then (uses_calm_of_routine (routine_receiptForWrite ..)) fun s' receipt h' _ => ?_
  refine safe_bind ((appendAuditEvent_records state _).mono fun s'' appended h'' => ?_)
  have hs'' : s''.Unsaved := h''.1.unsaved (h'.unsaved hs)
  cases appended with
  | error text => exact records_refusal hs''.settled rfl
  | ok _ => exact saveAndAnswer_records hs'' fun hexcused => .inl (h''.2 hexcused)

/-- **The receipt after a refused write** is saved without an event. -/
theorem recoverFailedWrite_records {skips : Bool} (hs : s.Unsaved) (hrefused : s.refused = true)
    (text : String) :
    Records state.storePath (recoverFailedWrite state call skips text) s Accounted := by
  refine calm_then (calm_tryResolvePendingReceipt state _ _) fun s' outcome h' _ => ?_
  have hs' := h'.unsaved hs
  rcases outcome with text | (receipt | _ | _)
  · exact records_refusal hs'.settled rfl
  · refine consumeThen_records state hs' fun s'' h'' => ?_
    refine saveAndAnswer_records (h''.unsaved hs') fun _ => .inr ?_
    rw [h''.refused, h'.refused, hrefused]
  · exact calm_refuses (calm_auditedStoryError state _ _ _ _) hs'.settled
  · exact calm_refuses (calm_auditedStoryError state _ _ _ _) hs'.settled

/-- Where an apply fails before it writes, recovery leaves it to the operator. -/
theorem findPendingOutcome_of_unwritten {tool text : String} {plan : OperationPlan}
    (h : applyPlan tool plan = Pure.pure (.error text)) (planRecord : PlanStoreRecord) :
    findPendingOutcome state tool plan planRecord = Pure.pure (.ok .needsOperator) := by
  unfold applyPlan at h
  split at h
  · cases h
  · cases h
  · cases htarget : plan.target with
    | none => simp only [findPendingOutcome, htarget]
    | some target =>
      rw [htarget] at h
      cases h
  · cases htarget : plan.target with
    | none => simp only [findPendingOutcome, htarget]
    | some target =>
      rw [htarget] at h
      cases h
  · unfold findPendingOutcome
    split <;> first | contradiction | rfl

/-- The outcome of the write of an apply: a receipt that follows is a written one, or one
after a refused write, or there is nothing to recover. -/
theorem applyPlan_records (hs : s.Unsaved) :
    Records path (applyPlan call.tool call.plan) s fun s' answer => s'.Unsaved ∧
      ∀ text, answer = .error text → s'.refused = true ∨
        findPendingOutcome state call.tool call.plan call.planRecord =
          Pure.pure (.ok .needsOperator) := by
  rcases applyPlan_cases call.tool call.plan with ⟨text, h⟩ | ⟨table, h⟩ | ⟨table, target, _, h⟩
  · rw [h]
    exact ⟨hs, fun _ _ => .inr (findPendingOutcome_of_unwritten state h call.planRecord)⟩
  all_goals
    rw [h]
    refine ⟨rfl, fun answer => ⟨hs, fun text htext => .inl ?_⟩⟩
    subst htext
    simp [ledger, Ledger.next, SnowWrite.succeeded]

theorem writePlan_records {skips : Bool} (hs : s.Unsaved) (beforeRecord : Option SnowRecord) :
    Records state.storePath (writePlan state call skips beforeRecord) s Accounted := by
  refine safe_perform rfl fun applyStartedAt => ?_
  refine safe_bind (safe_perform rfl fun markedAt => ⟨rfl, fun marked => ?_⟩)
  cases marked with
  | error text => exact accounted_error (Ledger.Unsaved.settled hs) rfl
  | ok _ =>
    have happlied := @applyPlan_records state call _ state.storePath hs
    refine safe_bind (happlied.mono ?_)
    rintro s' answer ⟨hs', herror⟩
    cases answer with
    | error text =>
      rcases herror text rfl with hrefused | hnone
      · exact recoverFailedWrite_records state hs' hrefused text
      · -- nothing was written, so nothing is recovered
        have hresolve : tryResolvePendingReceipt state call.tool call.planRecord =
            Pure.pure (.ok .needsOperator) := by
          unfold tryResolvePendingReceipt
          rw [show call.planRecord.planJson.plan = call.plan from rfl, hnone]
          rfl
        simp only [recoverFailedWrite, hresolve]
        exact calm_refuses (calm_auditedStoryError state _ _ _ _) hs'.settled
    | ok result =>
      exact consumeThen_records state hs' fun s'' h'' =>
        settleWrite_records state (h''.unsaved hs') applyStartedAt beforeRecord result

/-! ## The stages before the write -/

variable {skips : Bool}

theorem calm_validateConfirmation (record : ConfirmationRecord) (binding : ConfirmationBinding) :
    (validateConfirmation record binding).Uses Ledger.calm fun _ => True :=
  uses_calm_of_routine (routine_validateConfirmation record binding)

section

variable (hs : s.Unsaved)

include hs

theorem confirmWrite_records (beforeRecord : Option SnowRecord) :
    Records state.storePath (confirmWrite state call skips beforeRecord) s Accounted := by
  cases skips with
  | true => exact writePlan_records state hs beforeRecord
  | false =>
    refine safe_perform rfl fun looked => ?_
    rcases looked with text | (_ | confirmation)
    · exact accounted_error (Ledger.Unsaved.settled hs) rfl
    · exact calm_refuses (calm_refuseConfirmation state call _) (Ledger.Unsaved.settled hs)
    · refine calm_then (calm_validateConfirmation _ _) fun s' checked h' _ => ?_
      have hs' : s'.Unsaved := h'.unsaved hs
      cases checked with
      | error err => exact calm_refuses (calm_refuseConfirmation state call err) hs'.settled
      | ok _ => exact writePlan_records state hs' beforeRecord

theorem checkFields_records :
    Records state.storePath (checkFields state call skips) s Accounted := by
  refine calm_then (calm_reading _) fun s' governed h' _ => ?_
  have hs' := h'.unsaved hs
  rcases governed with text | ⟨beforeRecord, err | _⟩
  · exact records_refusal hs'.settled rfl
  · exact calm_refuses (uses_calm_of_routine (routine_planBuildErrorToApplyResponse state
      err)) hs'.settled
  · exact confirmWrite_records state hs' beforeRecord

theorem checkVersion_records (expected : ConcurrencyToken) (target : RecordRef) :
    Records state.storePath (checkVersion state call skips expected target) s Accounted := by
  refine calm_then (calm_reading _) fun s' current h' _ => ?_
  have hs' := h'.unsaved hs
  rcases current with text | (_ | current)
  · exact records_refusal hs'.settled rfl
  · exact calm_refuses (calm_auditedStoryError state _ _ _ _) hs'.settled
  · cases hobserved : (concurrencyFromRecord current).filter (· ≠ expected) with
    | some observed =>
      simp only [hobserved]
      exact calm_refuses (calm_auditedStoryError state _ _ _ _) hs'.settled
    | none =>
      simp only [hobserved]
      exact checkFields_records state hs'

theorem checkConcurrency_records :
    Records state.storePath (checkConcurrency state call skips) s Accounted := by
  have hinvalid : ∀ reason, Records state.storePath (concurrencyInvalid state call reason) s
      Accounted := fun reason => calm_refuses (calm_auditedStoryError state _ _ _ _) hs.settled
  unfold checkConcurrency
  split
  · exact checkFields_records state hs
  · split
    · exact hinvalid _
    · split_ifs
      · exact hinvalid _
      · split
        · exact checkFields_records state hs
        · exact checkVersion_records state hs _ _

theorem guardWrite_records :
    Records state.storePath (guardWrite state call skips) s Accounted := by
  refine calm_then (calm_reading _) fun s' guarded h' _ => ?_
  have hs' := h'.unsaved hs
  cases guarded with
  | ok _ => exact checkConcurrency_records state hs'
  | error failure =>
    cases hfields : storyScopeFailureFieldRejections failure with
    | some fields =>
      simp only [hfields]
      exact calm_refuses (calm_auditedStoryError state _ _ _ _) hs'.settled
    | none =>
      simp only [hfields]
      exact calm_refuses (calm_auditedStoryError state _ _ _ _) hs'.settled

theorem replayReceipt_records (receipt : OperationReceipt) :
    Records path (replayReceipt state call receipt) s Accounted := by
  refine (calm_records (calm_replayReceipt state call receipt)).mono fun s' a h => ?_
  refine ⟨h.1.settled hs.settled, fun _ answered hanswered hfirst => ?_⟩
  rw [h.2 answered hanswered] at hfirst
  cases hfirst

theorem reserveKey_records :
    Records state.storePath (reserveKey state call skips) s Accounted := by
  have hreserve : (Daemon.checkAndRecord call.key call.tool call.plan.opHash
      state.policy.idempotencyWindowSeconds).Uses Ledger.calm fun _ => True :=
    uses_perform trivial fun _ =>
      performs trivial
  refine calm_then hreserve fun s' reserved h' _ => ?_
  have hs' := h'.unsaved hs
  rcases reserved with text | (_ | _ | receipt | _)
  · exact records_refusal hs'.settled rfl
  · exact guardWrite_records state hs'
  · exact guardWrite_records state hs'
  · exact replayReceipt_records state hs' receipt
  · refine safe_perform rfl fun bound => ?_
    rcases bound with text | (_ | record) <;>
      exact calm_refuses (calm_auditedStoryError state _ _ _ _) hs'.settled

theorem admitWrite_records (planExpired : Bool) :
    Records state.storePath (admitWrite state call planExpired skips) s Accounted := by
  unfold admitWrite
  split
  · refine safe_perform rfl fun _ => ?_
    exact calm_refuses (calm_auditedStoryError state _ _ _ _) (Ledger.Unsaved.settled hs)
  · refine calm_then (uses_calm_of_routine (Daemon.routine_rateLimit ..)) fun s' wait h' _ => ?_
    cases wait with
    | some retryAfterSeconds =>
      exact calm_refuses (calm_auditedStoryError state _ _ _ _) (h'.unsaved hs).settled
    | none => exact reserveKey_records state (h'.unsaved hs)

end

/-! ## The receipt of a pending key -/

/-- What recovery leaves: every saved receipt with its event, and none saved when the call
is to go on. -/
def Recovered (s : Ledger) : Except String PendingRecovery → Prop
  | .ok (.recovered receipt) =>
    s.Settled ∧ (s.excused = false → receipt.auditId ∈ s.audited)
  | .ok .proceed => s.Unsaved
  | .ok .needsOperator | .error _ => s.Settled

section

variable (hs : s.Unsaved)

include hs

/-- **The receipt of a pending key** is audited after it is saved. -/
theorem saveRecovered_records (tool key : String) (planRecord : PlanStoreRecord)
    (receipt : OperationReceipt) :
    Records state.storePath (saveRecovered state tool key planRecord receipt) s Recovered := by
  refine safe_perform rfl fun saved => ?_
  cases saved with
  | error text => exact Ledger.Unsaved.settled hs
  | ok _ =>
    refine safe_perform rfl fun _ => ?_
    have hsaved : ((s.next state.storePath (.store (.saveReceipt key receipt)) (.ok ()))).saved =
        [receipt.auditId] := by
      simp only [Ledger.next]
      rw [hs]
    refine safe_bind ((appendAuditEvent_records state _).mono fun s' appended h' => ?_)
    obtain ⟨hcalm, hevent⟩ := h'
    have hsettled : s'.Settled := by
      intro hexcused id hid
      rw [hcalm.saved] at hid
      have hid' : id ∈ [receipt.auditId] := by
        rw [← hsaved]
        exact hid
      rw [List.mem_singleton.mp hid']
      exact hevent hexcused
    cases appended with
    | error text => exact hsettled
    | ok _ => exact ⟨hsettled, hevent⟩

theorem resolvePendingResponse_records (tool key : String)
    (planRecord : PlanStoreRecord) (consume : Option (String × ConfirmationBinding)) :
    Records state.storePath (resolvePendingResponse state tool key planRecord consume) s
      Recovered := by
  refine calm_then (calm_tryResolvePendingReceipt state tool planRecord) fun s' outcome h' _ => ?_
  have hs' := h'.unsaved hs
  rcases outcome with text | (receipt | _ | _)
  · exact hs'.settled
  · refine safe_perform rfl fun opened => ?_
    cases opened with
    | error text =>
      have hs'' : Ledger.Unsaved (s'.next state.storePath .openStores (.error text)) := hs'
      exact hs''.settled
    | ok _ =>
      cases consume with
      | none => exact saveRecovered_records state hs' tool key planRecord receipt
      | some presented =>
        refine calm_then (calm_consumeAudited state _ _ _) fun s₃ consumed h₃ _ => ?_
        have hs₃ : s₃.Unsaved := h₃.unsaved hs'
        rcases consumed with err | (text | _)
        · exact hs₃.settled
        · exact hs₃.settled
        · exact saveRecovered_records state hs₃ tool key planRecord receipt
  · exact hs'
  · exact hs'.settled

theorem recoverPending_records (planExpired : Bool) :
    Records state.storePath (recoverPending state call planExpired skips) s Accounted := by
  refine safe_bind ((resolvePendingResponse_records state hs _ _ _ _).mono ?_)
  rintro s' (text | (receipt | _ | _)) h'
  · exact records_refusal h' rfl
  · refine ⟨h'.1, fun hexcused answered hanswered _ => ?_⟩
    cases hanswered
    exact h'.2 hexcused
  · exact admitWrite_records state h' planExpired
  · exact calm_refuses (calm_auditedStoryError state _ _ _ _) h'

theorem checkedPending_records (planExpired consumed : Bool)
    (checked : Except ConfirmationConsumeError Unit) :
    Records state.storePath (match checked with
      | .error err => refuseConfirmation state call err
      | .ok () => recoverPending state call planExpired consumed) s Accounted := by
  cases checked with
  | error err => exact calm_refuses (calm_refuseConfirmation state call err) hs.settled
  | ok _ => exact recoverPending_records state hs planExpired

theorem resolvePending_records (planExpired : Bool) :
    Records state.storePath (resolvePending state call planExpired) s Accounted := by
  refine safe_perform rfl fun looked => ?_
  rcases looked with text | (_ | confirmation)
  · exact accounted_error (Ledger.Unsaved.settled hs) rfl
  · exact admitWrite_records state hs planExpired
  · dsimp only
    split
    · exact calm_then (uses_calm_of_routine (routine_validateConfirmationBinding _ _))
        fun s' checked h' _ => checkedPending_records state (h'.unsaved hs) planExpired _ checked
    · exact calm_then (calm_validateConfirmation _ _)
        fun s' checked h' _ => checkedPending_records state (h'.unsaved hs) planExpired _ checked

theorem foundPending_records (planExpired : Bool) :
    Records state.storePath (do
      match (← recordInForce call).filter fun record => record.receipt.isNone with
      | some _ => resolvePending state call planExpired
      | none => admitWrite state call planExpired false) s Accounted := by
  refine calm_then (calm_recordInForce call) fun s' found h' _ => ?_
  cases found.filter fun record => record.receipt.isNone with
  | none => exact admitWrite_records state (h'.unsaved hs) planExpired
  | some _ => exact resolvePending_records state (h'.unsaved hs) planExpired

theorem checkPending_records :
    Records state.storePath (checkPending state call) s Accounted := by
  unfold checkPending
  split
  · exact foundPending_records state hs true
  · exact safe_perform rfl fun t => foundPending_records state hs _

theorem checkKey_records :
    Records state.storePath (checkKey state call) s Accounted := by
  refine calm_then (calm_recordInForce call) fun s' found h' _ => ?_
  have hs' := h'.unsaved hs
  cases found with
  | none => exact checkPending_records state hs'
  | some record =>
    dsimp only
    split
    · exact calm_refuses (calm_auditedStoryError state _ _ _ _) hs'.settled
    · cases record.receipt with
      | some receipt => exact replayReceipt_records state hs' receipt
      | none => exact checkPending_records state hs'

end

/-! ## The handler -/

variable (params : Value)

theorem loadPlan_records (hs : s.Unsaved) (tool : String) (params : Value) (board : BoardBinding)
    (planId token key : String) :
    Records state.storePath (loadPlan state tool params board planId token key) s Accounted := by
  refine safe_perform rfl fun opened => ?_
  cases opened with
  | error text => exact accounted_error (Ledger.Unsaved.settled hs) rfl
  | ok _ =>
    refine safe_perform rfl fun loaded => ?_
    rcases loaded with text | (_ | planRecord)
    · exact accounted_error (Ledger.Unsaved.settled hs) rfl
    · exact calm_refuses (calm_auditedStoryError state _ _ _ _) (Ledger.Unsaved.settled hs)
    · dsimp only
      split
      · exact accounted_error (Ledger.Unsaved.settled hs) rfl
      · refine calm_then (uses_calm_of_routine (Daemon.routine_rateLimit ..))
          fun s'' wait h'' _ => ?_
        have hs'' : s''.Unsaved := h''.unsaved hs
        cases wait with
        | some retryAfterSeconds =>
          exact calm_refuses (calm_auditedStoryError state _ _ _ _) hs''.settled
        | none => exact checkKey_records state hs''

/-- **The Story apply handler accounts for its receipts.** -/
theorem handleStoryApply_records :
    Records state.storePath (handleStoryApply state tool params) Ledger.blank Accounted := by
  have hreject : ∀ field reason, Records state.storePath
      (fieldsRejected state tool [fieldReason field reason]) Ledger.blank Accounted :=
    fun field reason => calm_refuses (calm_auditedStoryError state _ _ _ _)
      (Ledger.Unsaved.settled rfl)
  refine safe_perform rfl fun killed => ?_
  split
  · exact calm_refuses (calm_auditedStoryError state _ _ _ _) (Ledger.Unsaved.settled rfl)
  · cases boardBinding tool state with
    | none => exact hreject _ _
    | some board =>
      dsimp only
      split
      · exact hreject _ _
      · cases stringParam params "plan_id" with
        | none => exact hreject _ _
        | some planId =>
          cases stringParam params "confirmation_token" with
          | none => exact hreject _ _
          | some token =>
            cases stringParam params "idempotency_key" with
            | none => exact hreject _ _
            | some key => exact
                loadPlan_records state (s := Ledger.blank) rfl tool params board planId token key

/-! ## Planning -/

theorem calm_storePlanned (input : PlanInput) (plan : OperationPlan) (record : PlanStoreRecord)
    (requester idempotencyKey : String) :
    (storePlanned state input plan record requester idempotencyKey).Uses Ledger.calm
      fun _ => True := by
  refine uses_perform trivial fun stored => ?_
  cases stored with
  | error text => exact uses_pure trivial
  | ok _ =>
    refine uses_bind (uses_calm_of_routine (routine_appendAuditEvent state _)) fun planned _ => ?_
    cases planned with
    | error text => exact uses_pure trivial
    | ok _ =>
      have hissue : ∀ binding, (Daemon.issueConfirmation plan.planId binding
          planTtlSeconds).Uses Ledger.calm fun _ => True := fun _ =>
        uses_perform trivial fun _ =>
          uses_perform trivial fun _ =>
            performs trivial
      refine uses_bind (hissue _) fun issued _ => ?_
      cases issued with
      | error text => exact uses_pure trivial
      | ok confirmation =>
        refine uses_perform trivial fun auditId => ?_
        refine uses_bind (uses_calm_of_routine (routine_appendAuditEvent state _))
          fun audited _ => ?_
        cases audited <;> exact uses_pure trivial

theorem calm_reservePlanned (input : PlanInput) (actor : String) :
    (reservePlanned state params input actor).Uses Ledger.calm fun _ => True := by
  refine uses_perform trivial fun planId => ?_
  refine uses_perform trivial fun now => ?_
  refine uses_perform trivial fun key => ?_
  refine uses_perform trivial fun opened => ?_
  cases opened with
  | error text => exact uses_pure trivial
  | ok _ =>
    have hreserve : ∀ tool opHash, (Daemon.checkAndRecord key tool opHash
        state.policy.idempotencyWindowSeconds).Uses Ledger.calm fun _ => True := fun _ _ =>
      uses_perform trivial fun _ =>
        performs trivial
    refine uses_bind (hreserve _ _) fun reserved _ => ?_
    rcases reserved with text | (_ | _ | _ | _)
    · exact uses_pure trivial
    · exact calm_storePlanned state input _ _ _ _
    · exact uses_pure trivial
    · exact uses_pure trivial
    · exact uses_pure trivial

theorem calm_handleStoryPlan :
    (handleStoryPlan state tool params).Uses Ledger.calm fun _ => True := by
  unfold handleStoryPlan
  cases boardBinding tool state with
  | none => exact uses_pure trivial
  | some binding =>
    cases params.asObject with
    | none => exact uses_pure trivial
    | some args =>
      dsimp only
      split_ifs
      · exact uses_pure trivial
      · exact uses_pure trivial
      · refine uses_bind (uses_calm_of_routine (Daemon.routine_rateLimit ..)) fun wait _ => ?_
        cases wait with
        | some retryAfterSeconds =>
          exact (uses_calm_of_routine (routine_auditedStoryError state _ _ _ _)).forget
        | none =>
          refine uses_bind (calm_reading _) fun built _ => ?_
          cases built with
          | error err => exact uses_pure trivial
          | ok input => exact calm_reservePlanned state params input _

end StoryWrite

/-- No Story call prunes a sink. -/
theorem handleStory_records (state : DaemonState) (call : StoryCall) :
    Records state.storePath (handleStory state call) Ledger.blank fun _ _ => True := by
  cases call with
  | plan tool params =>
    exact (calm_records (StoryWrite.calm_handleStoryPlan state tool params)).mono
      fun _ _ _ => trivial
  | apply tool params =>
    exact (StoryWrite.handleStoryApply_records state tool params).mono fun _ _ _ => trivial

/-! ## The sinks of a run -/

/-- The sink at a path holds an event of this id. -/
def Stores.Audited (s : Stores) (path id : String) : Prop :=
  id ∈ (s.audit path).rows.map AuditRow.auditId

instance (s : Stores) (path id : String) : Decidable (s.Audited path id) :=
  inferInstanceAs (Decidable (_ ∈ _))

section Sink

variable {lib : Crates} {s : Stores} {w w' : World} {path id : String}

/-- Only retention takes an event out of a sink. -/
theorem StoreCall.run_audited {call : StoreCall} (hcall : (DaemonAct.store call).prunes = false)
    (h : s.Audited path id) : (call.run lib s).1.Audited path id := by
  cases call with
  | enforceRetention => cases hcall
  | appendAudit at_ now event =>
    cases happend : SqliteAuditSink.append lib now event (s.audit at_) with
    | none => simpa only [StoreCall.run, happend] using h
    | some appended =>
      obtain ⟨_, hrows⟩ := SqliteAuditSink.append_cases happend
      simp only [StoreCall.run, happend, Stores.Audited]
      by_cases hpath : path = at_
      · subst hpath
        rw [Function.update_self, hrows, List.map_append]
        exact List.mem_append_left _ h
      · rw [Function.update_of_ne hpath]
        exact h
  | issueConfirmation =>
    simp only [StoreCall.run]
    split <;> exact h
  | putBulkPlan =>
    simp only [StoreCall.run]
    split <;> exact h
  | reserveBulkKey =>
    simp only [StoreCall.run]
    split <;> exact h
  | _ => exact h

theorem World.Answers.audited {r : e.Ans} (ha : w.Answers lib e r w') (he : e.prunes = false)
    (h : w.stores.Audited path id) : w'.stores.Audited path id := by
  rcases ha.stores with heq | ⟨call, rfl, heq⟩
  · rw [heq]
    exact h
  · rw [heq]
    exact StoreCall.run_audited he h

/-- An event whose append does not fail for want of the database is in the sink. -/
theorem append_audited {now : DateTime} {event : AuditEvent}
    {answer : (StoreCall.appendAudit path now event).Ans}
    (ha : w.Answers lib (.store (.appendAudit path now event)) answer w')
    (hanswer : answer.isOk = ((StoreCall.appendAudit path now event).run lib w.stores).2.isOk) :
    w'.stores.Audited path event.auditId := by
  cases happend : SqliteAuditSink.append lib now event (w.stores.audit path) with
  | none =>
    -- the primary key refuses the event, so its id is there already
    refine ha.audited rfl ?_
    by_contra hnew
    rw [SqliteAuditSink.append, dif_neg (by rw [appendedEvent_auditId]; exact hnew)] at happend
    cases happend
  | some appended =>
    obtain ⟨sink, written⟩ := appended
    obtain ⟨hwritten, hrows⟩ := SqliteAuditSink.append_cases happend
    rcases ha with ⟨rfl, _⟩ | ⟨_, text, rfl⟩
    · simp only [StoreCall.run, happend, Stores.Audited, Function.update_self, hrows,
        List.map_append, List.map_cons, AuditRow.ofEvent_auditId]
      rw [hwritten, appendedEvent_auditId]
      exact List.mem_append_right _ List.mem_cons_self
    · simp only [StoreCall.run, happend] at hanswer
      cases hanswer

end Sink

/-! ## Receipts in runs -/

/-- Whether an event is a write that was answered with an error. -/
def refusedWrite : Event DaemonIO → Bool
  | ⟨.write _ w, answer⟩ => !w.succeeded answer
  | _ => false

namespace Ledger

variable {path : String} {s : Ledger}

theorem next_refused (e : DaemonAct) (r : e.Ans) :
    (s.next path e r).refused = (s.refused || refusedWrite ⟨e, r⟩) := by
  cases e with
  | store call =>
    cases call
    case saveReceipt => cases r <;> exact (Bool.or_false _).symm
    case appendAudit =>
      simp only [next]
      split <;> exact (Bool.or_false _).symm
    all_goals exact (Bool.or_false _).symm
  | openStores => cases r <;> exact (Bool.or_false _).symm
  | write => rfl
  | _ => exact (Bool.or_false _).symm

theorem next_saved {id : String} (e : DaemonAct) (r : e.Ans) (h : id ∈ s.saved) :
    id ∈ (s.next path e r).saved := by
  cases e with
  | store call =>
    cases call
    case saveReceipt =>
      cases r with
      | error text => exact h
      | ok _ => exact List.mem_cons_of_mem _ h
    case appendAudit =>
      simp only [next]
      split <;> exact h
    all_goals exact h
  | openStores => cases r <;> exact h
  | _ => exact h

/-- An id is new only when its event is appended. -/
theorem next_audited {id : String} {r : e.Ans} (h : id ∈ (s.next path e r).audited) :
    id ∈ s.audited ∨ ∃ now event, e = .store (.appendAudit path now event) ∧
      id = event.auditId := by
  cases e with
  | store call =>
    cases call
    case saveReceipt => cases r <;> exact .inl h
    case appendAudit at_ now event =>
      simp only [next] at h
      split at h
      · rename_i hpath
        subst hpath
        rcases List.mem_cons.mp h with rfl | h
        · exact .inr ⟨now, event, rfl, rfl⟩
        · exact .inl h
      · exact .inl h
    all_goals exact .inl h
  | openStores => cases r <;> exact .inl h
  | _ => exact .inl h

variable (past : List (Event DaemonIO))

theorem foldl_refused (s : Ledger) :
    (past.foldl (fun s ev => s.next path ev.1 ev.2) s).refused =
      (s.refused || past.any refusedWrite) := by
  induction past generalizing s with
  | nil => exact (Bool.or_false _).symm
  | cons ev past ih =>
    rw [List.foldl_cons, ih, next_refused, List.any_cons, Bool.or_assoc]

theorem foldl_saved {key : String} (s : Ledger) (h : receipt.auditId ∈ s.saved ∨
      (⟨.store (.saveReceipt key receipt), .ok ()⟩ : Event DaemonIO) ∈ past) :
    receipt.auditId ∈ (past.foldl (fun s ev => s.next path ev.1 ev.2) s).saved := by
  induction past generalizing s with
  | nil =>
    rcases h with h | h
    · exact h
    · cases h
  | cons ev past ih =>
    refine ih _ ?_
    rcases h with h | h
    · exact .inl (next_saved ev.1 ev.2 h)
    · rcases List.mem_cons.mp h with rfl | h
      · exact .inl List.mem_cons_self
      · exact .inr h

end Ledger

/-- The task that saves a receipt in a step. -/
def savesReceipt {Call : Type} : Label DaemonIO World Call → Option Nat
  | .act i (.store (.saveReceipt _ _)) _ => some i
  | _ => none

/-- A call whose write was answered with an error saves no receipt. -/
def Unrescued {Call : Type} (c : Config DaemonIO World Call JsonRpcResponse)
    (l : Label DaemonIO World Call) : Prop :=
  ∀ i ∈ savesReceipt l, ∀ t ∈ c.tasks[i]?, t.past.any refusedWrite = false

instance {Call : Type} {c : Config DaemonIO World Call JsonRpcResponse}
    {l : Label DaemonIO World Call} : Decidable (Unrescued c l) :=
  inferInstanceAs (Decidable (∀ i ∈ savesReceipt l, ∀ t ∈ c.tasks[i]?, _))

/-- Every receipt that a task has saved, and the one it answers with unless that is a replay,
has its event in the sink. -/
structure ReceiptsAudited {Call : Type} (path : String) (w : World)
    (t : Task DaemonIO Call JsonRpcResponse) : Prop where
  saved : ∀ key receipt, (⟨.store (.saveReceipt key receipt), .ok ()⟩ : Event DaemonIO) ∈ t.past →
    w.stores.Audited path receipt.auditId
  answered : ∀ receipt, t.rest.value = some (.ok (.receipt receipt)) →
    receipt.idempotencyReplay = false → w.stores.Audited path receipt.auditId

section Runs

variable {Call : Type} {lib : Crates} {handle : Call → Handler JsonRpcResponse} {path : String}
  {allowed : Config DaemonIO World Call JsonRpcResponse → Label DaemonIO World Call → Prop}
  {world : World} {c : Config DaemonIO World Call JsonRpcResponse} {i : Nat}
  {t : Task DaemonIO Call JsonRpcResponse}

/-- What a task has shown of its receipts. -/
def accounts (path : String) (t : Task DaemonIO Call JsonRpcResponse) : Ledger :=
  t.observed (ledger path) fun _ => Ledger.blank

theorem accounts_act (t : Task DaemonIO Call JsonRpcResponse) (r : e.Ans)
    (p : Handler JsonRpcResponse) :
    accounts path ⟨t.call, t.past ++ [⟨e, r⟩], p⟩ = (accounts path t).next path e r :=
  observed_act (ledger path) _ t e r p

/-- The next action of a task prunes no sink. -/
theorem prunes_task (hsafe : ∀ call, Records path (handle call) Ledger.blank fun _ _ => True)
    (hrun : Run (daemon lib handle) allowed world c) (ht : c.tasks[i]? = some t)
    {k : e.Ans → Handler JsonRpcResponse} (hrest : t.rest = .act e k) : e.prunes = false := by
  let promise : Call → Ledger → JsonRpcResponse → Prop := fun _ _ _ => True
  have hkept : Records path t.rest (accounts path t) (promise t.call) := hrun.safe ht (hsafe t.call)
  rw [hrest] at hkept
  exact hkept.1

/-- What is in the sink stays there. -/
theorem step_audited {c' : Config DaemonIO World Call JsonRpcResponse}
    {l : Label DaemonIO World Call} {id : String}
    (hsafe : ∀ call, Records path (handle call) Ledger.blank fun _ _ => True)
    (hrun : Run (daemon lib handle) allowed world c) (hs : Step (daemon lib handle) c l c')
    (h : c.world.stores.Audited path id) : c'.world.stores.Audited path id := by
  rcases step_stores hs with ⟨ev, hev, _⟩ | ⟨_, hsame⟩
  · obtain ⟨_, _, _, _, htask, hrest, ha, _, rfl⟩ := hs.performed hev
    exact ha.audited (prunes_task hsafe hrun htask hrest) h
  · exact hsame ▸ h

/-- In a faultless run of calls that prune no sink, the events a task has had appended are in
the sink. -/
theorem accounts_audited (hfaultless : ∀ c l, allowed c l → Faultless lib c l)
    (hsafe : ∀ call, Records path (handle call) Ledger.blank fun _ _ => True)
    (hrun : Run (daemon lib handle) allowed world c) (ht : c.tasks[i]? = some t) :
    ∀ id ∈ (accounts path t).audited, c.world.stores.Audited path id := by
  induction hrun generalizing i t with
  | start => simp at ht
  | next hrun hl hs ih =>
    intro id hid
    rcases hs.task_cases ht with ⟨_, rfl⟩ | ⟨u, e, k, r, hu, _, hev, _, rfl⟩ | ht
    · cases hid
    · rw [accounts_act] at hid
      rcases Ledger.next_audited hid with hid | ⟨now, event, rfl, rfl⟩
      · exact step_audited hsafe hrun hs (ih hu id hid)
      · obtain ⟨j, rfl⟩ := hs.eq_act hev rfl
        exact append_audited (hs.answered hev) (hfaultless _ _ hl)
    · exact step_audited hsafe hrun hs (ih ht id hid)

/-- No task is excused while every step is faultless and no refused write is rescued. -/
theorem accounts_unexcused (hallowed : ∀ c l, allowed c l → Faultless lib c l ∧ Unrescued c l)
    (hrun : Run (daemon lib handle) allowed world c) (ht : c.tasks[i]? = some t) :
    (accounts path t).excused = false := by
  induction hrun generalizing i t with
  | start => simp at ht
  | next hrun hl hs ih =>
    rcases hs.task_cases ht with ⟨_, rfl⟩ | ⟨u, e, k, r, hu, _, hev, htask, rfl⟩ | ht
    · rfl
    · have hbefore : (accounts path u).excused = false := ih hu
      obtain ⟨hfaultless, hunrescued⟩ := hallowed _ _ hl
      rw [accounts_act]
      cases e with
      | openStores =>
        obtain ⟨j, rfl⟩ := hs.eq_act hev rfl
        obtain rfl : r = .ok () := hfaultless
        exact hbefore
      | store call =>
        cases call
        case saveReceipt key receipt =>
          cases r with
          | error text => exact hbefore
          | ok _ =>
            obtain ⟨j, rfl⟩ := hs.eq_act hev rfl
            have hrefused : (accounts path u).refused = false := by
              refine (Ledger.foldl_refused u.past Ledger.blank).trans ?_
              exact hunrescued _ htask u hu
            exact Bool.or_eq_false_iff.mpr ⟨hbefore, hrefused⟩
        case appendAudit =>
          simp only [Ledger.next]
          split <;> exact hbefore
        all_goals exact hbefore
      | _ => exact hbefore
    · exact ih ht

end Runs

/-- **Every Story receipt has its audit event.**  In every run of Story calls in which the
stores do not fail and no call saves a receipt after its write was answered with an error,
whatever ServiceNow answers and whatever the clock shows, each apply call that has returned
left an event in the sink for every receipt it saved, and for the one it answered with unless
that is a replay. -/
theorem run_receiptsAudited {state : DaemonState} {world : World}
    {c : Config DaemonIO World StoryCall JsonRpcResponse}
    (hrun : Run (daemon state.crates (handleStory state))
      (fun c l => Faultless state.crates c l ∧ Unrescued c l) world c)
    {i : Nat} {t : Task DaemonIO StoryCall JsonRpcResponse} (ht : c.tasks[i]? = some t)
    {tool : String} {params : Value} (hcall : t.call = .apply tool params)
    (hreturned : t.rest.Returned) :
    ReceiptsAudited state.storePath c.world t := by
  have hsafe : Records state.storePath (handleStory state t.call) Ledger.blank Accounted := by
    rw [hcall]
    exact StoryWrite.handleStoryApply_records state tool params
  let promise : StoryCall → Ledger → JsonRpcResponse → Prop := fun _ s a => Accounted s a
  have hend : Records state.storePath t.rest (accounts state.storePath t) (promise t.call) :=
    hrun.safe ht hsafe
  have hsink := accounts_audited (fun _ _ hl => hl.1) (handleStory_records state) hrun ht
  have hunexcused : (accounts state.storePath t).excused = false :=
    accounts_unexcused (fun _ _ hl => hl) hrun ht
  cases hrest : t.rest with
  | act e k =>
    rw [hrest] at hreturned
    cases hreturned
  | pure a =>
    rw [hrest] at hend
    obtain ⟨hsettled, hanswer⟩ := hend
    refine ⟨fun key receipt hsaved => ?_, fun receipt hvalue hfirst => ?_⟩
    · refine hsink _ (hsettled hunexcused _ ?_)
      exact Ledger.foldl_saved t.past Ledger.blank (.inr hsaved)
    · refine hsink _ (hanswer hunexcused receipt ?_ hfirst)
      rw [hrest] at hvalue
      exact Option.some.inj hvalue

/-- What the second task of a script answers with, if it is a receipt: whether it is a replay,
and whether its event is in the sink. -/
def secondAnswer (path : String) (c : Config DaemonIO World StoryCall JsonRpcResponse) :
    Option (Bool × Bool) :=
  c.tasks[1]?.bind fun t => match t.call, t.rest.value with
    | .apply .., some (.ok (.receipt receipt)) =>
      some (receipt.idempotencyReplay, decide (c.world.stores.Audited path receipt.auditId))
    | _, _ => none

theorem secondAnswer_eq_some {path : String} {replayed audited : Bool}
    {c : Config DaemonIO World StoryCall JsonRpcResponse}
    (h : secondAnswer path c = some (replayed, audited)) :
    ∃ t tool params receipt, c.tasks[1]? = some t ∧ t.call = .apply tool params ∧
      t.rest.value = some (.ok (.receipt receipt)) ∧ receipt.idempotencyReplay = replayed ∧
      decide (c.world.stores.Audited path receipt.auditId) = audited := by
  obtain ⟨t, ht, hanswer⟩ := Option.bind_eq_some_iff.mp h
  split at hanswer
  · rename_i tool params receipt hcall hvalue
    cases hanswer
    exact ⟨t, tool, params, receipt, ht, hcall, hvalue, rfl, rfl⟩
  · cases hanswer

/-- Over a plan and its apply. -/
theorem run_receiptsAudited_applied :
    ∃ c t receipt, Run (daemon sampleState.crates (handleStory sampleState))
        (fun c l => Faultless sampleState.crates c l ∧ Unrescued c l) emptyWorld c ∧
      c.tasks[1]? = some t ∧ t.rest.value = some (.ok (.receipt receipt)) ∧
      receipt.idempotencyReplay = false ∧
      ReceiptsAudited sampleState.storePath c.world t := by
  have hplay : (play (fun c l => Faultless sampleState.crates c l ∧ Unrescued c l)
      (scripted sampleState.crates (handleStory sampleState) sampleServiceNow) 50
      ⟨emptyWorld, [], none⟩ [planStory [], applyStory "id-1", .resume 1]).map
        (secondAnswer sampleState.storePath) = some (some (false, true)) := by decide +kernel
  obtain ⟨c, hc, hanswer⟩ := Option.map_eq_some_iff.mp hplay
  obtain ⟨t, tool, params, receipt, ht, hcall, hvalue, hfirst, _⟩ := secondAnswer_eq_some hanswer
  have hreturned : t.rest.Returned := by
    rw [Program.eq_pure_of_value hvalue]
    trivial
  exact ⟨c, t, receipt, play_run .start hc, ht, hvalue, hfirst,
    run_receiptsAudited (play_run .start hc) ht hcall hreturned⟩

/-- A ServiceNow that carries out every create and answers it with an error. -/
def lostAnswers : ScriptedServiceNow where
  read
    | .recordFresh _ | .recordLive _ => .ok (some sampleStory)
    | .fieldChoices _ _ => .ok []
    | .query _ => .ok [⟨sampleStory.sysId, [("number", sampleStory.number)], []⟩]
    | r => sampleServiceNow.read r
  write
    | .create _ _ | .update _ _ _ => .error "timeout"
    | w => sampleServiceNow.write w

/-- **A recovered write is not audited.**  The create of an apply under a fresh key is carried
out, but its answer is lost; recovery finds the record, and the call saves a receipt and
answers with it, but no event of its id is in the sink. -/
theorem run_receipt_unaudited :
    ∃ c t tool params, Run (daemon sampleState.crates (handleStory sampleState))
        (Faultless sampleState.crates) emptyWorld c ∧
      c.tasks[1]? = some t ∧ t.call = .apply tool params ∧ t.rest.Returned ∧
      ¬ ReceiptsAudited sampleState.storePath c.world t := by
  have hplay : (play (Faultless sampleState.crates)
      (scripted sampleState.crates (handleStory sampleState) lostAnswers) 50
      ⟨emptyWorld, [], none⟩
      [planStory [("sprint", .string "0123456789abcdef0123456789abcde0")], applyStory "key-2",
        .resume 1, .resume 1, .resume 1]).map (secondAnswer sampleState.storePath) =
          some (some (false, false)) := by decide +kernel
  obtain ⟨c, hc, hanswer⟩ := Option.map_eq_some_iff.mp hplay
  obtain ⟨t, tool, params, receipt, ht, hcall, hvalue, hfirst, haudited⟩ :=
    secondAnswer_eq_some hanswer
  refine ⟨c, t, tool, params, play_run .start hc, ht, hcall, ?_, fun h => ?_⟩
  · rw [Program.eq_pure_of_value hvalue]
    trivial
  · exact of_decide_eq_false haudited (h.answered receipt hvalue hfirst)

end SnowAgent
