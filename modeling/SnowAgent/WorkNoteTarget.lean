import SnowAgent.PlanRows
import SnowAgent.WorkNoteApply

/-! # Where a work note lands

A plan call plans a note for a record, and the apply call has the note added by the number of
that record.  So the note lands on the planned record as long as the number still leads there:
both where the core looks the number up for the note and where the record is read again for the
receipt.
-/
namespace SnowAgent

open Json Interleaving Program

namespace WorkNoteWrite

/-! ## What the stages use -/

variable (number : String)

section Stages

variable (state : DaemonState)

theorem calm_auditedWorkNoteError (code : Int) (message : String) (data : Value)
    (status : ResultStatus) :
    CalmRefusal (auditedWorkNoteError state code message data status) :=
  calm_refuseAnyway (trail state) state workNoteApplyTool status _ _

variable (record : ConfirmationRecord) (binding : ConfirmationBinding)

theorem inspects_validateConfirmationBinding :
    (validateConfirmationBinding record binding).Uses inspects fun _ => True := by
  unfold validateConfirmationBinding
  exact uses_pure trivial

theorem inspects_validateConfirmation :
    (validateConfirmation record binding).Uses inspects fun _ => True := by
  refine uses_bind (inspects_validateConfirmationBinding record binding) fun checked _ => ?_
  cases checked with
  | error err => exact uses_pure trivial
  | ok _ =>
    dsimp only
    split
    · exact uses_pure trivial
    · refine uses_perform trivial fun t => ?_
      exact uses_pure trivial

variable (call : PlannedCall)

theorem calm_replay (receipt : OperationReceipt) : CalmRefusal (replay state call receipt) :=
  calm_replayReceipt (calm_auditedWorkNoteError state)
    inspects_validateConfirmationBinding call receipt

theorem prepares_reserve : (reserve state call).Uses prepares CalmRefusal fun _ => True := by
  have hrefuse := calm_auditedWorkNoteError state
  have hpending : ∀ p ∈ some (fun _ : IdempotencyRecord =>
      pendingResolutionRequired state call none), ∀ record, CalmRefusal (p record) := by
    rintro p hp record
    obtain rfl := Option.mem_some.mp hp
    exact hrefuse _ _ _ _
  refine Gate.uses_bind (inspects_checkKey hrefuse (calm_replay state call) _ hpending call).prepares
    fun _ _ => ?_
  refine Gate.uses_bind (inspects_rejectExpired hrefuse call _).prepares fun _ _ => ?_
  exact (inspects_reserveKey (calm_replay state call) (hrefuse _ _ _ _) _ call).prepares

theorem prepares_getRecordCachedOrFresh :
    (getRecordCachedOrFresh number).Uses prepares CalmRefusal fun _ => True := by
  refine Gate.uses_bind (Gate.uses_trying (Daemon.uses_reading (fun _ => trivial) _)
    fun _ => uses_pure trivial) fun found _ => ?_
  cases found with
  | some record => exact Gate.uses_pure trivial
  | none =>
    exact Gate.uses_trying (Daemon.uses_reading (fun _ => trivial) _) fun _ => uses_pure trivial

theorem prepares_rejectUnsupportedWorkNotes (record : SnowRecord) :
    (rejectUnsupportedWorkNotes (auditedWorkNoteError state) record).Uses prepares CalmRefusal
      fun _ => True := by
  refine Gate.uses_bind (Gate.uses_doing (Daemon.uses_reading (fun _ => trivial) _))
    fun answer _ => ?_
  cases readFieldSupport answer with
  | supported => exact Gate.uses_pure trivial
  | unsupported => exact Gate.uses_answer (calm_auditedWorkNoteError state _ _ _ _)
  | unavailable => exact Gate.uses_answer (calm_auditedWorkNoteError state _ _ _ _)

/-- What a call prepares is what its plan plans. -/
theorem prepares_prepare :
    (prepare state call).Uses prepares CalmRefusal fun note =>
      plannedNote call.plan = .ok note := by
  have hrefuse := calm_auditedWorkNoteError state
  refine Gate.uses_bind (prepares_reserve state call) fun _ _ => ?_
  refine Gate.uses_bind (inspects_checkToken hrefuse inspects_validateConfirmation
    (fun _ => hrefuse _ _ _ _) call).prepares fun _ _ => ?_
  have hplanned : (Gate.trying (Pure.pure (plannedNote call.plan))).Uses prepares CalmRefusal
      fun note => plannedNote call.plan = .ok note := by
    cases hnote : plannedNote call.plan with
    | error text => exact uses_pure trivial
    | ok note => exact Gate.uses_pure rfl
  refine Gate.uses_bind hplanned fun note hnote => ?_
  refine Gate.uses_bind (prepares_getRecordCachedOrFresh note.1.number) fun found _ => ?_
  refine Gate.uses_bind (Gate.uses_require? (hrefuse _ _ _ _)) fun record _ => ?_
  refine Gate.uses_bind (prepares_rejectUnsupportedWorkNotes state record) fun _ _ => ?_
  exact Gate.uses_pure hnote

theorem refuses_appendConfirmationAudit (planId tool actor requester : String) :
    (appendConfirmationAudit state planId tool actor requester).Uses refuses fun _ => True := by
  refine uses_perform trivial fun auditId => ?_
  exact refuses_append (trail state) state _

/-- A note that was added is answered with its receipt, or with an internal error. -/
theorem calm_settleNote (startedAt : DateTime) (record : SnowRecord) (text : String) :
    (settleNote state call startedAt record text).Uses calm fun response =>
      ∀ receipt, response = .ok (.receipt receipt) →
        receipt.serviceNowMetadata = some record.metadata ∧
        receipt.recordUrl = some (recordUrl state record) := by
  have hinternal : ∀ err (receipt : OperationReceipt), internalError err = .ok (.receipt receipt) →
        receipt.serviceNowMetadata = some record.metadata ∧
        receipt.recordUrl = some (recordUrl state record) := by
    intro err receipt hreceipt
    cases hreceipt
  refine uses_bind ((refuses_appendConfirmationAudit state _ _ _ _).mono
    (fun _ => calm_of_refuses) fun _ => id) fun audited _ => ?_
  cases audited with
  | error err => exact uses_pure (hinternal err)
  | ok _ =>
    refine uses_perform trivial fun auditId => ?_
    refine uses_perform trivial fun completedAt => ?_
    refine (calm_settleReceipt (trail state) state call _ _).mono (fun _ => id) ?_
    rintro response (rfl | ⟨err, rfl⟩) receipt hreceipt
    · cases hreceipt
      exact ⟨rfl, rfl⟩
    · exact hinternal err receipt hreceipt

end Stages

/-! ## What a call has loaded and sent -/

variable {target : RecordRef} {e : DaemonAct}

/-- The target of the plan that a call has loaded. -/
def plannedTarget (past : List (Event DaemonIO)) : Option RecordRef :=
  (loaded past).bind fun row => row.planJson.plan.target

/-- The number that a note was to be added by, and how that ended. -/
def noteSent : Event DaemonIO → Option (String × NoteAnswer)
  | ⟨.write _ (.addWorkNote number _), answer⟩ => some (number, answer)
  | _ => none

/-- The notes that a call has sent. -/
def notesSent (past : List (Event DaemonIO)) : List (String × NoteAnswer) := past.filterMap noteSent

theorem plannedTarget_append {past : List (Event DaemonIO)} (h : plannedTarget past = some target)
    (more : List (Event DaemonIO)) :
    plannedTarget (past ++ more) = some target := by
  obtain ⟨row, hrow, htarget⟩ := Option.bind_eq_some_iff.mp h
  rw [plannedTarget, loaded_append hrow more, Option.bind_some, htarget]

theorem noteSent_of_calm (h : calm e) (r : e.Ans) : noteSent ⟨e, r⟩ = none := by
  cases e with
  | write => exact absurd h id
  | _ => rfl

theorem notesSent_calm {past past' : List (Event DaemonIO)} (h : Extends calm past past') :
    notesSent past' = notesSent past :=
  h.filterMap fun _ r he => noteSent_of_calm he r

/-- A call sends one note, by the number of the record its plan is for. -/
def sendsPlanned (past : List (Event DaemonIO)) : DaemonAct → Prop
  | .write _ w => notesSent past = [] ∧
      ∃ target text, plannedTarget past = some target ∧ w = .addWorkNote target.number text
  | _ => True

theorem sendsPlanned_of_calm {past : List (Event DaemonIO)} (h : calm e) :
    sendsPlanned past e := by
  cases e with
  | write => exact absurd h id
  | _ => trivial

section Call

variable (state : DaemonState)

/-- A call that has sent a note answers with a receipt of the record it was told of only. -/
def Reports (past : List (Event DaemonIO)) (response : JsonRpcResponse) : Prop :=
  ∀ sent ∈ notesSent past, ∀ receipt, response = .ok (.receipt receipt) →
    ∃ record, sent.2.result = .ok (some record) ∧
      receipt.serviceNowMetadata = some record.metadata ∧
      receipt.recordUrl = some (recordUrl state record)

variable {state} {past : List (Event DaemonIO)}

/-- A calm part leaves what has been sent. -/
theorem calm_sends {A : Type} {R : A → Prop} {p : Handler A} (hp : p.Uses calm R)
    (past : List (Event DaemonIO)) :
    Safe (trace DaemonIO) sendsPlanned p past fun past' a =>
      notesSent past' = notesSent past ∧ R a :=
  (uses_extends hp (fun _ _ => sendsPlanned_of_calm) past).mono fun _ _ h =>
    ⟨notesSent_calm h.1, h.2⟩

/-- A refusal of a call that has sent nothing. -/
theorem refusal_reports {p : Handler JsonRpcResponse} (hp : CalmRefusal p)
    (hnone : notesSent past = []) : Safe (trace DaemonIO) sendsPlanned p past (Reports state) := by
  refine (calm_sends hp.calm past).mono ?_
  rintro past' response ⟨hsame, _⟩ sent hsent
  rw [hsame, hnone] at hsent
  cases hsent

/-- An error is no receipt. -/
theorem error_reports {code : Int} {message : String} {data : Value} {status : ResultStatus} :
    Safe (trace DaemonIO) sendsPlanned (auditedWorkNoteError state code message data status) past
      (Reports state) := by
  refine (calm_sends ((refuseAnyway_answers (trail state) state workNoteApplyTool status _
    _).mono (fun _ => calm_of_refuses) fun _ => id) past).mono ?_
  rintro past' response ⟨_, rfl⟩ sent _ receipt hreceipt
  cases hreceipt

/-- A gate that prepares leaves what is loaded, and sends nothing. -/
theorem prepares_sends {A : Type} {R : A → Prop} {gate : Gate A}
    (hgate : gate.Uses prepares CalmRefusal R) {row : PlanStoreRecord}
    (hloaded : loaded past = some row) (hnone : notesSent past = []) :
    gate.Safe (trace DaemonIO) sendsPlanned past (Reports state) fun past' a =>
      (loaded past' = some row ∧ notesSent past' = []) ∧ R a := by
  have hcalm : ∀ {past' : List (Event DaemonIO)}, Extends prepares past past' →
      notesSent past' = [] := fun h =>
    (notesSent_calm (h.mono fun _ => calm_of_prepares)).trans hnone
  refine Gate.Safe.mono (hgate.extends (fun _ _ he => sendsPlanned_of_calm (calm_of_prepares he))
    fun past' p h hp => refusal_reports hp (hcalm h)) ?_
  rintro past' a ⟨h, ha⟩
  refine ⟨⟨?_, hcalm h⟩, ha⟩
  obtain ⟨more, rfl, _⟩ := h
  exact loaded_append hloaded more

variable (params : Value)

/-- A call that is admitted has loaded its plan, and sent nothing. -/
theorem admitCall_loads :
    (admitCall state params).Safe (trace DaemonIO) sendsPlanned [] (Reports state)
      fun past call => loaded past = some call.planRecord ∧ notesSent past = [] := by
  have hrefuse := calm_auditedWorkNoteError state
  refine Gate.safe_bind (Gate.safe_require (refusal_reports (hrefuse _ _ _ _) rfl) fun _ => ?_)
  refine Gate.safe_bind (Gate.safe_require? (refusal_reports (hrefuse _ _ _ _) rfl)
    fun planId _ => ?_)
  refine Gate.safe_bind (Gate.safe_require? (refusal_reports (hrefuse _ _ _ _) rfl)
    fun token _ => ?_)
  refine Gate.safe_bind (Gate.safe_require? (refusal_reports (hrefuse _ _ _ _) rfl) fun key _ => ?_)
  refine Gate.safe_bind (Gate.safe_bind (Gate.safe_trying ⟨trivial, fun opened => ?_⟩))
  cases opened with
  | error text => exact fun sent hsent => absurd hsent List.not_mem_nil
  | ok _ =>
    refine Gate.safe_bind (Gate.safe_trying ⟨trivial, fun found => ?_⟩)
    rcases found with text | (_ | row)
    · exact fun sent hsent => absurd hsent List.not_mem_nil
    · exact refusal_reports (hrefuse _ _ _ _) rfl
    · refine Gate.safe_bind (Gate.safe_require ?_ fun _ => Gate.safe_pure ⟨rfl, rfl⟩)
      exact fun sent hsent => absurd hsent List.not_mem_nil

/-- A call that is told of a record answers with a receipt of that record. -/
theorem writeNote_reports {call : PlannedCall} {text : String} {startedAt : DateTime}
    (hplanned : plannedTarget past = some target)
    (hnone : notesSent past = []) :
    Safe (trace DaemonIO) sendsPlanned (writeNote state call target text startedAt) past
      (Reports state) := by
  refine safe_perform ⟨hnone, target, text, hplanned, rfl⟩ fun (answer : NoteAnswer) => ?_
  have hsent : notesSent (past ++ [⟨.write call.plan.planId (.addWorkNote target.number text),
      answer⟩]) = [(target.number, answer)] := by
    rw [notesSent, List.filterMap_append]
    exact congrArg (· ++ [(target.number, answer)]) hnone
  rcases hresult : answer.result with err | (_ | record)
  · exact error_reports
  · exact error_reports
  · refine safe_bind (safe_perform trivial fun now => safe_act trivial fun consumed => ?_)
    cases consumed with
    | error err => exact error_reports
    | ok _ =>
      refine (calm_sends (calm_settleNote state call startedAt record text) _).mono ?_
      rintro past' response ⟨hsame, hreceipt⟩ sent hmem receipt hresponse
      have hkept : notesSent past' = [(target.number, answer)] := by
        rw [hsame, ← hsent]
        simp [notesSent, noteSent, trace, List.filterMap_append]
      rw [hkept, List.mem_singleton] at hmem
      rw [hmem]
      exact ⟨record, hresult, hreceipt receipt hresponse⟩

/-- **A call sends its note by the planned number.**  It sends one note at most, by the number
of the record that its plan is for, and its receipt is of the record it was told of. -/
theorem handleWorkNoteApplyAdd_sends :
    Safe (trace DaemonIO) sendsPlanned (handleWorkNoteApplyAdd state params) []
      (Reports state) := by
  refine Gate.safe_enter ((admitCall_loads params).mono ?_)
  rintro past call ⟨hloaded, hnone⟩
  refine Gate.safe_enter ((prepares_sends (prepares_prepare state call) hloaded hnone).mono ?_)
  rintro past ⟨target, text⟩ ⟨⟨hloaded, hnone⟩, hnote⟩
  have htarget : call.plan.target = some target := by
    unfold plannedNote at hnote
    split at hnote
    · cases hnote
    · rename_i found hfound
      split at hnote
      · cases hnote
      · cases hnote
        exact hfound
  refine Gate.safe_enter ((prepares_sends (inspects_markStarted call).prepares hloaded hnone).mono ?_)
  rintro past startedAt ⟨⟨hloaded, hnone⟩, _⟩
  have hplanned : plannedTarget past = some target := by
    show (loaded past).bind _ = some target
    rw [hloaded]
    exact htarget
  exact writeNote_reports hplanned hnone

/-! A plan call writes nothing to ServiceNow. -/

/-- The actions but the writes. -/
def quiet : DaemonAct → Prop
  | .write _ _ => False
  | _ => True

theorem quiet_of_calm (h : calm e) : quiet e := by
  cases e with
  | write => exact h
  | _ => trivial

/-- A refusal that writes nothing. -/
abbrev QuietRefusal (p : Handler JsonRpcResponse) : Prop := p.Uses quiet fun _ => True

theorem quiet_workNoteError (code : Int) (message : String) (data : Value)
    (status : ResultStatus) : QuietRefusal (workNoteError code message data status) :=
  uses_pure trivial

theorem quiet_readInput : (readInput params).Uses quiet QuietRefusal fun _ => True := by
  refine Gate.uses_bind (Gate.uses_require? (quiet_workNoteError _ _ _ _)) fun args _ => ?_
  refine Gate.uses_bind (Gate.uses_require (quiet_workNoteError _ _ _ _)) fun _ _ => ?_
  refine Gate.uses_bind (Gate.uses_require? (quiet_workNoteError _ _ _ _)) fun number _ => ?_
  cases noteText args with
  | ok text => exact Gate.uses_pure trivial
  | error fields => exact Gate.uses_answer (quiet_workNoteError _ _ _ _)

theorem quiet_findRecord : (findRecord number).Uses quiet QuietRefusal fun _ => True := by
  have hcalm : ∀ p : Handler JsonRpcResponse, CalmRefusal p → QuietRefusal p := fun _ h =>
    h.calm.mono (fun _ => quiet_of_calm) fun _ => id
  refine Gate.uses_bind ((prepares_getRecordCachedOrFresh number).mono
    (fun _ he => quiet_of_calm (calm_of_prepares he)) hcalm fun _ => id) fun found _ => ?_
  refine Gate.uses_bind (Gate.uses_require? (uses_pure trivial)) fun record _ => ?_
  have hsupported : (rejectUnsupportedWorkNotes workNoteError record).Uses quiet QuietRefusal
      fun _ => True := by
    refine Gate.uses_bind (Gate.uses_doing (Daemon.uses_reading (fun _ => trivial) _))
      fun answer _ => ?_
    cases readFieldSupport answer with
    | supported => exact Gate.uses_pure trivial
    | unsupported => exact Gate.uses_answer (quiet_workNoteError _ _ _ _)
    | unavailable => exact Gate.uses_answer (quiet_workNoteError _ _ _ _)
  exact Gate.uses_bind hsupported fun _ _ => Gate.uses_pure trivial

variable (plan : OperationPlan)

theorem quiet_reservePlanned (key : String) :
    (reservePlanned state plan key).Uses quiet QuietRefusal fun _ => True := by
  refine Gate.uses_bind (Gate.uses_trying (performs trivial)
    fun _ => uses_pure trivial) fun _ _ => ?_
  refine Gate.uses_bind (Gate.uses_trying (uses_perform trivial
    fun _ => performs trivial) fun _ => uses_pure trivial)
    fun outcome _ => ?_
  cases outcome with
  | newKey => exact Gate.uses_pure trivial
  | conflict => exact Gate.uses_answer (quiet_workNoteError _ _ _ _)
  | replay => exact Gate.uses_answer (uses_pure trivial)
  | pending => exact Gate.uses_answer (uses_pure trivial)

theorem quiet_storePlanned (record : PlanStoreRecord) (requester : String) :
    (storePlanned state plan record requester).Uses quiet QuietRefusal fun _ => True := by
  have hinternal : ∀ text, QuietRefusal (Pure.pure (internalError text)) := fun _ =>
    uses_pure trivial
  refine Gate.uses_bind (Gate.uses_trying (performs trivial) hinternal) fun _ _ => ?_
  refine Gate.uses_bind (Gate.uses_trying ((calm_append (trail state) state _).mono
    (fun _ => quiet_of_calm) fun _ => id) hinternal) fun _ _ => ?_
  refine Gate.uses_bind (Gate.uses_trying (uses_perform trivial
    fun _ => uses_perform trivial fun _ =>
      performs trivial) hinternal) fun confirmation _ => ?_
  refine Gate.uses_bind (Gate.uses_trying ((refuses_appendConfirmationAudit state _ _ _ _).mono
    (fun _ he => quiet_of_calm (calm_of_refuses he)) fun _ => id) hinternal) fun _ _ => ?_
  exact Gate.uses_pure trivial

theorem quiet_handleWorkNotePlanAdd :
    (handleWorkNotePlanAdd state params).Uses quiet fun _ => True := by
  have hplan : (planAdd state params).Uses quiet QuietRefusal fun _ => True := by
    refine Gate.uses_bind (Gate.uses_require (quiet_workNoteError _ _ _ _)) fun _ _ => ?_
    refine Gate.uses_bind (quiet_readInput params) fun input _ => ?_
    refine Gate.uses_bind (quiet_findRecord input.1) fun record _ => ?_
    refine Gate.uses_bind (Gate.uses_doing (performs trivial)) fun planId _ => ?_
    refine Gate.uses_bind (Gate.uses_doing (performs trivial)) fun now _ => ?_
    refine Gate.uses_bind (Gate.uses_doing (performs trivial)) fun key _ => ?_
    refine Gate.uses_bind (quiet_reservePlanned _ key) fun _ _ => ?_
    refine Gate.uses_bind (quiet_storePlanned _ _ _) fun confirmation _ => ?_
    exact Gate.uses_pure trivial
  exact Gate.uses_enter hplan fun _ _ => uses_pure trivial

end Call

/-! ## Runs of plan and apply calls -/

/-- A call of one of the two tools. -/
inductive NoteCall where
  | plan (params : Value)
  | apply (params : Value)

/-- The handler of a call. -/
def handleNote (state : DaemonState) : NoteCall → Handler JsonRpcResponse
  | .plan params => handleWorkNotePlanAdd state params
  | .apply params => handleWorkNoteApplyAdd state params

/-- A note is answered as the core answers it, from answers of ServiceNow and the cache that are
as `holds` says of the planned record. -/
def NotesAnswered (core : NoteCore) (holds : RecordRef → NoteAnswers → Prop)
    (c : Config DaemonIO World NoteCall JsonRpcResponse) (l : Label DaemonIO World NoteCall) :
    Prop :=
  ∀ ev ∈ l.event?, ∀ sent ∈ noteSent ev, ∃ answers,
    sent.2 = addWorkNoteWithoutRetry core answers sent.1 ∧
    ∀ i ∈ l.task?, ∀ t ∈ c.tasks[i]?, ∀ target ∈ plannedTarget t.past, holds target answers

/-- The number of a record leads to that record: so does its lookup, and so does a fresh read. -/
def StillNamed (core : NoteCore) (target : RecordRef) (answers : NoteAnswers) : Prop :=
  (∀ place, lookupTableAndSysId core answers target.number = .ok (some place) →
    place = (target.table, target.sysId)) ∧
  ∀ record, answers.fresh target.number = .ok (some record) →
    record.table = target.table ∧ record.sysId = target.sysId

/-- A receipt names a record: by its `sys_id`, and by a link to its table and `sys_id`. -/
def Names (state : DaemonState) (receipt : OperationReceipt) (target : RecordRef) : Prop :=
  ∃ record : SnowRecord, record.table = target.table ∧ record.sysId = target.sysId ∧
    receipt.serviceNowMetadata = some record.metadata ∧
    receipt.recordUrl = some (recordUrl state record)

variable {l : Label DaemonIO World NoteCall}

section Runs

variable {state : DaemonState} {core : NoteCore} {lib : Crates} {world : World}
  {c : Config DaemonIO World NoteCall JsonRpcResponse} {i : Nat}
  {t : Task DaemonIO NoteCall JsonRpcResponse}

/-- Where a note lands whose number still leads to the planned record. -/
theorem addWorkNote_lands {answers : NoteAnswers} (h : StillNamed core target answers) :
    (∀ place ∈ (addWorkNoteWithoutRetry core answers target.number).addedTo,
      place = (target.table, target.sysId)) ∧
    ∀ record, (addWorkNoteWithoutRetry core answers target.number).result = .ok (some record) →
      record.table = target.table ∧ record.sysId = target.sysId := by
  unfold addWorkNoteWithoutRetry
  split
  · exact ⟨nofun, nofun⟩
  · rcases hlookup : lookupTableAndSysId core answers target.number with text | (_ | place)
    · exact ⟨nofun, nofun⟩
    · exact ⟨nofun, nofun⟩
    · cases answers.added with
      | refused text => exact ⟨nofun, nofun⟩
      | lost text => exact ⟨fun _ hplace => Option.some.inj hplace ▸ h.1 place hlookup, nofun⟩
      | acknowledged =>
        exact ⟨fun _ hplace => Option.some.inj hplace ▸ h.1 place hlookup, h.2⟩

/-- Every call sends its notes by the planned number. -/
theorem handleNote_sends (call : NoteCall) :
    Safe (trace DaemonIO) sendsPlanned (handleNote state call) [] (Reports state) := by
  cases call with
  | apply params => exact handleWorkNoteApplyAdd_sends params
  | plan params =>
    have hquiet : ∀ past e, quiet e → sendsPlanned past e := by
      intro past e he
      cases e with
      | write => exact absurd he id
      | _ => trivial
    have hnone : ∀ e (r : e.Ans), quiet e → noteSent ⟨e, r⟩ = none := by
      intro e r he
      cases e with
      | write => exact absurd he id
      | _ => rfl
    refine (uses_extends (quiet_handleWorkNotePlanAdd params) hquiet []).mono ?_
    rintro past response ⟨h, _⟩ sent hsent
    have hempty : notesSent past = [] := h.filterMap hnone
    rw [hempty] at hsent
    cases hsent

/-- A note is answered to a call that has loaded its plan, under the number of its target. -/
theorem note_planned {ev : Event DaemonIO} {c' : Config DaemonIO World NoteCall JsonRpcResponse}
    {sent : String × NoteAnswer}
    (hs : Step (daemon lib (handleNote state)) c l c') (hev : l.event? = some ev)
    (hi : l.task? = some i) (ht : c.tasks[i]? = some t)
    (hsafe : Safe (trace DaemonIO) sendsPlanned t.rest t.past (Reports state))
    (hsent : noteSent ev = some sent) :
    notesSent t.past = [] ∧ ∃ target, plannedTarget t.past = some target ∧
      sent.1 = target.number := by
  obtain ⟨j, u, _, _, htask, hrest, _, hj, _⟩ := hs.performed hev
  rw [hi] at hj
  cases hj
  rw [ht] at htask
  cases htask
  rw [hrest] at hsafe
  obtain ⟨e, r⟩ := ev
  cases e with
  | write planId write =>
    obtain ⟨hnone, target, text, htarget, rfl⟩ := hsafe.1
    cases hsent
    exact ⟨hnone, target, htarget, rfl⟩
  | _ => cases hsent

end Runs

/-! ## Sample runs -/

/-- A daemon that may add work notes. -/
def noteState : DaemonState :=
  { sampleState with
    policy := { sampleState.policy with tools := [sampleTool workNoteApplyTool] } }

/-- A core that may write, for incidents. -/
def noteCore : NoteCore := ⟨true, fun _ => some "incident"⟩

/-- An incident. -/
def incident (sysId number : String) : SnowRecord :=
  { sampleStory with sysId := sysId, number := number, table := "incident" }

/-- The incident that notes are planned for. -/
def plannedIncident : SnowRecord := incident "incident-1" "INC0010001"

/-- What is answered while ServiceNow has some records, and adds every note. -/
def answersOf (rows : List SnowRecord) : NoteAnswers where
  first table number :=
    .ok ((rows.find? fun row => row.table == table && row.number == number).map fun row =>
      (row.table, row.sysId))
  added := .acknowledged
  fresh number := .ok (rows.find? fun row => row.number == number)

/-- A ServiceNow with some records, and a cache that has the planned incident. -/
def noteServiceNow (rows : List SnowRecord) : ScriptedServiceNow where
  read
    | .recordCached _ => .ok (some plannedIncident)
    | r => sampleServiceNow.read r
  write
    | .addWorkNote number _ => addWorkNoteWithoutRetry noteCore (answersOf rows) number
    | w => sampleServiceNow.write w

/-- Every note is answered by these records, to a call whose plan is for the planned incident. -/
def AnsweredBy (rows : List SnowRecord) (c : Config DaemonIO World NoteCall JsonRpcResponse)
    (l : Label DaemonIO World NoteCall) : Prop :=
  ∀ ev ∈ l.event?, ∀ sent ∈ noteSent ev,
    sent.2 = addWorkNoteWithoutRetry noteCore (answersOf rows) sent.1 ∧
    ∀ i ∈ l.task?, ∀ t ∈ c.tasks[i]?, ∀ target ∈ plannedTarget t.past, target = plannedIncident.ref

instance {rows : List SnowRecord} (c : Config DaemonIO World NoteCall JsonRpcResponse)
    (l : Label DaemonIO World NoteCall) : Decidable (AnsweredBy rows c l) :=
  inferInstanceAs (Decidable (∀ ev ∈ l.event?, _))

theorem AnsweredBy.notesAnswered {rows : List SnowRecord} {holds : RecordRef → NoteAnswers → Prop}
    {c : Config DaemonIO World NoteCall JsonRpcResponse}
    (h : AnsweredBy rows c l) (hholds : holds plannedIncident.ref (answersOf rows)) :
    NotesAnswered noteCore holds c l := by
  intro ev hev sent hsent
  obtain ⟨hanswer, htarget⟩ := h ev hev sent hsent
  refine ⟨answersOf rows, hanswer, fun i hi t ht target hplanned => ?_⟩
  rw [htarget i hi t ht target hplanned]
  exact hholds

/-- A plan call for a note, and its two waits; then an apply call for the plan, and its three. -/
def noteMoves : List (Move NoteCall) :=
  [.call (.plan (obj [("number", .string "INC0010001"), ("text", .string "queued")])),
    .resume 0, .resume 0,
    .call (.apply (obj [("plan_id", .string "id-0"), ("confirmation_token", .string "id-2"),
      ("idempotency_key", .string "id-1")])),
    .resume 1, .resume 1, .resume 1]

/-- What these moves come to. -/
def playNotes (rows : List SnowRecord) : Option (Config DaemonIO World NoteCall JsonRpcResponse) :=
  play (AnsweredBy rows) (scripted noteState.crates (handleNote noteState) (noteServiceNow rows))
    60 ⟨emptyWorld, [], none⟩ noteMoves

/-- What can be seen of a call: the target of its plan, where its notes were added, and the
`sys_id` its receipt names. -/
def noteSeen (t : Task DaemonIO NoteCall JsonRpcResponse) :
    Option RecordRef × List (Option (String × String)) × Option String :=
  (plannedTarget t.past, (notesSent t.past).map fun sent => sent.2.addedTo,
    match t.rest with
    | .pure (.ok (.receipt receipt)) => receipt.serviceNowMetadata.bind fun m => m.sysId
    | _ => none)

end WorkNoteWrite

end SnowAgent
