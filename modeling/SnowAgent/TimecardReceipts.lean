import SnowAgent.Replays
import SnowAgent.TimecardRuns

/-! # The receipts of time card calls

A time card call that has written consumes its token, audits the write and saves its receipt.
If none of the three fails, the write is audited as applied and not as denied, the call
answers with its receipt, and so does the same call again.
-/
namespace SnowAgent

open Json Interleaving Program

namespace TimecardWrite

/-! ## A replay -/

variable {e : DaemonAct}

/-- What an apply call needs to be admitted, once its plan is loaded. -/
structure Admits (state : DaemonState) (params : Value) (call : PlannedCall) : Prop where
  policy : state.policy.validateTimecardPolicy timecardApplyTool state.environment = .ok ()
  enabled : state.policy.toolEnabledInEnvironment timecardApplyTool state.environment.label = true
  planId : stringParam params "plan_id" = some call.planId
  token : stringParam params "confirmation_token" = some call.token
  key : stringParam params "idempotency_key" = some call.key
  tool : call.plan.tool = timecardPlanTool
  call : call = plannedCall state timecardApplyTool params call.planId call.token call.key
    call.planRecord

/-- The actions that do not write. -/
def reads : DaemonAct → Prop
  | .write _ _ => False
  | _ => True

section Replay

variable {state : DaemonState} {params : Value} {call : PlannedCall} {stored : OperationReceipt}
  {expiresAt tokenExpiresAt : DateTime}

theorem reads_of_silent (h : silent e) : reads e := by
  cases e with
  | write => exact h
  | _ => trivial

/-- What holds of a part of a time card replay, while the clock is before the token expires. -/
abbrev OnTimecardReplay {A : Type} (call : PlannedCall) (stored : OperationReceipt)
    (expiresAt tokenExpiresAt : DateTime) (R : A → Prop) (p : Handler A) : Prop :=
  OnReplay call stored expiresAt tokenExpiresAt (· < tokenExpiresAt) (fun _ => True) R p

/-- What holds of a gate of a time card replay. -/
abbrev PassesTimecard {A : Type} (call : PlannedCall) (stored : OperationReceipt)
    (expiresAt tokenExpiresAt : DateTime) (gate : Gate A) (R : A → Prop) : Prop :=
  Passes call stored expiresAt tokenExpiresAt (· < tokenExpiresAt) (fun _ => True) gate R

theorem isKillSwitched_off :
    OnTimecardReplay call stored expiresAt tokenExpiresAt (fun off => off = false)
      isKillSwitched := by
  refine given_perform trivial fun value hvalue => ?_
  cases value with
  | some text => exact hvalue
  | none => exact given_perform trivial fun value hvalue => hvalue

/-- The same call is admitted once more. -/
theorem passes_admitCall (hadmits : Admits state params call) :
    PassesTimecard call stored expiresAt tokenExpiresAt (admitCall state params)
      (SameCall call) := by
  refine Gate.given_bind (passes_requireSwitchedOn isKillSwitched_off) fun _ _ => ?_
  have hpolicy : PassesTimecard call stored expiresAt tokenExpiresAt (requirePolicy state)
      fun _ => True := by
    rw [requirePolicy, hadmits.policy]
    exact Gate.given_pure trivial
  refine Gate.given_bind hpolicy fun _ _ => ?_
  refine Gate.given_bind (Gate.given_require hadmits.enabled) fun _ _ => ?_
  refine Gate.given_bind (Gate.given_require? hadmits.planId) ?_
  rintro _ rfl
  refine Gate.given_bind (Gate.given_require? hadmits.token) ?_
  rintro _ rfl
  refine Gate.given_bind (Gate.given_require? hadmits.key) ?_
  rintro _ rfl
  refine Gate.given_bind passes_findPlan ?_
  rintro record ⟨hplan, _⟩
  have htool : decide (record.planJson.plan.tool = timecardPlanTool) = true := by
    rw [hplan.plan]
    exact decide_eq_true hadmits.tool
  exact Gate.given_bind (Gate.given_require htool) fun _ _ =>
    Gate.given_pure (sameCall_planned (.refl state params) hadmits.call hplan)

/-- A replay ends at the key, with its receipt. -/
theorem passes_reserve {call' : PlannedCall} (hsame : SameCall call call') :
    PassesTimecard call stored expiresAt tokenExpiresAt (reserve state call') fun _ => False := by
  have hreplay : OnTimecardReplay call stored expiresAt tokenExpiresAt (Replayed stored)
      (replay state call' stored) :=
    replayReceipt_given (accepts_validateConfirmationBinding fun _ => id) hsame
  exact Gate.given_bind (passes_checkKey hsame hreplay) fun _ hnever => hnever.elim

/-- **A replay answers with the receipt.**  The same call, once its receipt is stored, writes
nothing and answers with it. -/
theorem handleTimecard_replays (hadmits : Admits state params call)
    (parseTimeValue : String → Option String) :
    OnTimecardReplay call stored expiresAt tokenExpiresAt (Replayed stored)
      (handleTimecardApplySetHours state parseTimeValue params) := by
  refine Gate.given_enter (passes_admitCall hadmits) fun call' hsame => ?_
  have hprepare : PassesTimecard call stored expiresAt tokenExpiresAt (prepare state call')
      fun _ => False :=
    Gate.given_bind (passes_reserve hsame) fun _ hnever => hnever.elim
  exact Gate.given_enter hprepare fun _ hnever => hnever.elim

end Replay

/-! ## What a call leaves that has written -/

section Settled

variable {state : DaemonState} {params : Value} {parseTimeValue : String → Option String}

/-- A past without a write that succeeded. -/
def Unwritten (past : List (Event DaemonIO)) : Prop := ∀ ev ∈ past, wrote ev = false

/-- A call has written for its plan, and settled the write. -/
structure Settles (state : DaemonState) (params : Value) (call : PlannedCall)
    (past : List (Event DaemonIO)) (response : JsonRpcResponse) : Prop where
  admits : Admits state params call
  loaded : loadedEvent call ∈ past
  consumed : ∃ now consumed, consumedEvent call now consumed ∈ past
  audited : Audited state.storePath .appliedSuccess (some call.plan.planId) past
  undenied : OnlyAudits .appliedSuccess past
  answered : ∃ receipt : OperationReceipt, savedEvent call.key receipt ∈ past ∧
    response = .ok (.receipt receipt) ∧ receipt.status = .success ∧
    receipt.planId = call.plan.planId ∧ receipt.tool = call.tool ∧
    receipt.opHash = call.plan.opHash ∧ receipt.idempotencyReplay = false

/-- How a call ends: without a write, or with one that it has settled, unless its token was
refused or a statement failed afterwards. -/
def Ends (state : DaemonState) (params : Value) (past : List (Event DaemonIO))
    (response : JsonRpcResponse) : Prop :=
  Unwritten past ∨ ∃ pre w answer more call, past = pre ++
    ⟨.write call.plan.planId w, answer⟩ :: more ∧
    Unwritten pre ∧ Unwritten more ∧ w.succeeded answer = true ∧
    ((∃ ev ∈ more, refusesToken ev = true) ∨ Failed more ∨ Settles state params call past response)

/-- A part of a call that ends so. -/
abbrev EndsWell (state : DaemonState) (params : Value) (p : Handler JsonRpcResponse)
    (past : List (Event DaemonIO)) : Prop :=
  Safe (trace DaemonIO) (fun _ _ => True) p past (Ends state params)

theorem wrote_of_calm (he : calm e) (r : e.Ans) : wrote ⟨e, r⟩ = false := by
  cases e with
  | write => exact absurd he id
  | _ => rfl

theorem unwritten_extends {past past' : List (Event DaemonIO)} (h : Extends calm past past')
    (hpast : Unwritten past) : Unwritten past' := by
  obtain ⟨more, rfl, hmore⟩ := h
  intro ev hev
  rcases List.mem_append.mp hev with hev | hev
  · exact hpast ev hev
  · exact wrote_of_calm (hmore ev hev) ev.2

variable {past : List (Event DaemonIO)}

/-- A calm end of a call that has not written. -/
theorem calm_endsWell {R : JsonRpcResponse → Prop} {p : Handler JsonRpcResponse}
    (hp : p.Uses calm R) (hpast : Unwritten past) :
    EndsWell state params p past :=
  (uses_extends hp (fun _ _ _ => trivial) past).mono fun _ _ h =>
    .inl (unwritten_extends h.1 hpast)

/-- A past in which a write has only been prepared. -/
structure Prepared (past : List (Event DaemonIO)) : Prop where
  unwritten : Unwritten past
  unaudited : ∀ ev ∈ past, appended ev = none

theorem appended_of_prepares (he : prepares e) (r : e.Ans) : appended ⟨e, r⟩ = none := by
  cases e with
  | store call => cases call <;> first | exact absurd he id | rfl
  | _ => rfl

theorem Prepared.extends {past past' : List (Event DaemonIO)} (h : Prepared past)
    (hextends : Extends prepares past past') : Prepared past' := by
  refine ⟨unwritten_extends (hextends.mono fun _ => calm_of_prepares) h.unwritten, ?_⟩
  obtain ⟨more, rfl, hmore⟩ := hextends
  intro ev hev
  rcases List.mem_append.mp hev with hev | hev
  · exact h.unaudited ev hev
  · exact appended_of_prepares (hmore ev hev) ev.2

/-- A gate of a call that has only prepared its write. -/
theorem gate_prepared {A : Type} {R : A → Prop} {gate : Gate A}
    (hgate : gate.Uses prepares CalmRefusal R) (hpast : Prepared past) :
    gate.Safe (trace DaemonIO) (fun _ _ => True) past (Ends state params) fun past' a =>
      Prepared past' ∧ Extends prepares past past' ∧ R a := by
  refine (Gate.Uses.extends hgate (fun _ _ _ => trivial) ?_).mono ?_
  · intro past' p hextends hp
    exact calm_endsWell hp.calm (hpast.extends hextends).unwritten
  · rintro past' a ⟨hextends, ha⟩
    exact ⟨hpast.extends hextends, hextends, ha⟩

/-- A plan that is found was loaded. -/
theorem findPlan_loads {planId : String} (hpast : Prepared past) :
    (findPlan (auditedTimecardError state) planId).Safe (trace DaemonIO) (fun _ _ => True) past
      (Ends state params) fun (past' : List (Event DaemonIO)) record => Prepared past' ∧
        (⟨.store (.getPlan planId), .ok (some record)⟩ : Event DaemonIO) ∈ past' := by
  have hopened : (Gate.trying Daemon.openStores).Uses prepares CalmRefusal fun _ => True :=
    Gate.uses_trying (performs trivial) fun _ => uses_pure trivial
  refine Gate.safe_bind ((gate_prepared hopened hpast).mono ?_)
  rintro (past : List (Event DaemonIO)) _ ⟨hpast, _⟩
  refine Gate.safe_bind (Gate.safe_trying ⟨trivial, fun found => ?_⟩)
  have hfound : Prepared (past ++ [(⟨.store (.getPlan planId), found⟩ : Event DaemonIO)]) :=
    hpast.extends ((Extends.refl past).act trivial found)
  rcases found with text | (_ | record)
  · exact .inl hfound.unwritten
  · exact calm_endsWell (calm_auditedTimecardError state _ _ _ _).calm hfound.unwritten
  · exact ⟨hfound, List.mem_append_right _ (List.mem_singleton_self _)⟩

/-- A call that is admitted has loaded its plan. -/
theorem admitCall_loads :
    (admitCall state params).Safe (trace DaemonIO) (fun _ _ => True) [] (Ends state params)
      fun (past : List (Event DaemonIO)) call =>
        Prepared past ∧ Admits state params call ∧ loadedEvent call ∈ past := by
  have hrefuse := calm_auditedTimecardError state
  have hstart : Prepared [] := ⟨fun _ h => absurd h List.not_mem_nil,
    fun _ h => absurd h List.not_mem_nil⟩
  refine Gate.safe_bind ((gate_prepared
    (inspects_requireSwitchedOn hrefuse inspects_isKillSwitched).prepares hstart).mono ?_)
  rintro past _ ⟨hpast, _⟩
  have hpolicy : (requirePolicy state).Uses prepares CalmRefusal fun _ =>
      state.policy.validateTimecardPolicy timecardApplyTool state.environment = .ok () := by
    unfold requirePolicy
    split
    · rename_i hok
      exact Gate.uses_pure hok
    · exact Gate.uses_answer (hrefuse _ _ _ _)
  refine Gate.safe_bind ((gate_prepared hpolicy hpast).mono ?_)
  rintro past _ ⟨hpast, _, hpolicy⟩
  refine Gate.safe_bind ((gate_prepared (Gate.uses_require (hrefuse _ _ _ _)) hpast).mono ?_)
  rintro past _ ⟨hpast, _, henabled⟩
  refine Gate.safe_bind ((gate_prepared (inspects_requiredParam hrefuse params _).prepares
      hpast).mono ?_)
  rintro past planId ⟨hpast, _, hplanId⟩
  refine Gate.safe_bind ((gate_prepared (inspects_requiredParam hrefuse params _).prepares
      hpast).mono ?_)
  rintro past token ⟨hpast, _, htoken⟩
  refine Gate.safe_bind ((gate_prepared (inspects_requiredParam hrefuse params _).prepares
      hpast).mono ?_)
  rintro past key ⟨hpast, _, hkey⟩
  refine Gate.safe_bind ((findPlan_loads hpast).mono ?_)
  rintro past planRecord ⟨hpast, hloaded⟩
  refine Gate.safe_bind ((gate_prepared (Gate.uses_require (uses_pure trivial)) hpast).mono ?_)
  rintro past _ ⟨hpast', hextends, htool⟩
  refine Gate.safe_pure ⟨hpast', ?_, hextends.mem hloaded⟩
  exact ⟨hpolicy, henabled, hplanId, htoken, hkey, of_decide_eq_true htool, rfl⟩

variable (call : PlannedCall)

theorem prepares_confirm : (confirm state call).Uses prepares CalmRefusal fun _ => True := by
  refine Gate.uses_bind (inspects_checkToken (calm_auditedTimecardError state)
    inspects_validateConfirmation (fun _ => calm_auditedTimecardError state _ _ _ _) call).prepares
    fun _ _ => ?_
  exact (inspects_markStarted call).prepares

/-- What settling a write adds to the past of a call: the audit, and the receipt that answers. -/
structure Settlement (state : DaemonState) (call : PlannedCall) (more : List (Event DaemonIO))
    (response : JsonRpcResponse) : Prop where
  audited : Audited state.storePath .appliedSuccess (some call.plan.planId) more
  answered : ∃ receipt : OperationReceipt, savedEvent call.key receipt ∈ more ∧
    response = .ok (.receipt receipt) ∧ receipt.status = .success ∧
    receipt.planId = call.plan.planId ∧ receipt.tool = timecardApplyTool ∧
    receipt.opHash = call.plan.opHash ∧ receipt.idempotencyReplay = false

theorem Settlement.after {call : PlannedCall} {more : List (Event DaemonIO)}
    {response : JsonRpcResponse} (h : Settlement state call more response)
    (past : List (Event DaemonIO)) : Settlement state call (past ++ more) response := by
  obtain ⟨receipt, hsaved, hanswered⟩ := h.answered
  exact ⟨h.audited.after past, receipt, List.mem_append_right past hsaved, hanswered⟩

variable (planned : PlannedTimecardSetHours)

/-- Settling the write of a card. -/
theorem settleCard_settles (startedAt : DateTime) (card : TimeCard) :
    Safe (trace DaemonIO) (fun _ _ => True) (settleCard state call planned startedAt card) []
      fun (more : List (Event DaemonIO)) response => OnlyAudits .appliedSuccess more ∧
        Unwritten more ∧ (Failed more ∨ Settlement state call more response) := by
  have hsettles : Safe (trace DaemonIO) (fun _ _ => True)
      (settleCard state call planned startedAt card) [] fun (more : List (Event DaemonIO))
        response => OnlyAudits .appliedSuccess more ∧
          (Failed more ∨ Settlement state call more response) := by
    refine safe_perform trivial fun auditId => ?_
    refine safe_perform trivial fun spare => ?_
    refine safe_perform trivial fun completedAt => ?_
    refine (safe_after (settleReceipt_settles (trail state) state call _ _) _).mono ?_
    rintro _ response ⟨more, rfl, honly, hsettled⟩
    refine ⟨onlyAudits_append (by simp [OnlyAudits, trace, appended]) honly, ?_⟩
    rcases hsettled with hfailed | ⟨haudited, hsaved, rfl⟩
    · exact .inl (hfailed.after _)
    · have hsettlement : Settlement state call more (.ok (.receipt
          (receiptForCard call planned auditId startedAt completedAt card))) :=
        ⟨haudited, _, hsaved, rfl, rfl, rfl, rfl, rfl, rfl⟩
      exact .inr (hsettlement.after _)
  have hcalm : Safe (trace DaemonIO) (fun _ _ => True)
      (settleCard state call planned startedAt card) [] fun more _ => Extends calm [] more ∧ True :=
    uses_extends (calm_settleCard state call planned startedAt card) (fun _ _ _ => trivial) []
  refine (hsettles.and hcalm).mono ?_
  rintro more response ⟨⟨honly, hsettled⟩, hextends, _⟩
  exact ⟨honly, unwritten_extends hextends (fun _ h => absurd h List.not_mem_nil), hsettled⟩

theorem unwritten_append {past more : List (Event DaemonIO)} (h : Unwritten past)
    (hmore : Unwritten more) : Unwritten (past ++ more) := by
  intro ev hev
  rcases List.mem_append.mp hev with hev | hev
  · exact h ev hev
  · exact hmore ev hev

theorem Prepared.onlyAudits (h : Prepared past)
    (status : ResultStatus) : OnlyAudits status past := by
  intro ev hev x hx
  rw [h.unaudited ev hev] at hx
  cases hx

/-- What follows a write: its token is refused, or it is consumed and the write is settled unless
a statement fails. -/
theorem consumeThen_settles (startedAt : DateTime) (card : TimeCard) :
    Safe (trace DaemonIO) (fun _ _ => True)
      (consumeThen (auditedTimecardError state) call (settleCard state call planned startedAt card))
      [] fun (more : List (Event DaemonIO)) response => Unwritten more ∧
        ((∃ ev ∈ more, refusesToken ev = true) ∨ Failed more ∨
          OnlyAudits .appliedSuccess more ∧ Settlement state call more response ∧
            ∃ now consumed, consumedEvent call now consumed ∈ more) := by
  refine safe_bind (safe_perform trivial fun (now : DateTime) => ⟨trivial, fun consumed => ?_⟩)
  let start : List (Event DaemonIO) := [⟨.now, now⟩,
    ⟨.store (.consumeConfirmation now call.token call.binding), consumed⟩]
  have hstart : Unwritten start := by simp [Unwritten, start, wrote]
  cases consumed with
  | error err =>
    have hrefused : Safe (trace DaemonIO) (fun _ _ => True)
        (refuseConfirmation (auditedTimecardError state) err) start fun past' _ =>
          Extends calm start past' ∧ True :=
      uses_extends (calm_auditedTimecardError state _ _ _ _).calm (fun _ _ _ => trivial) start
    refine hrefused.mono ?_
    rintro _ response ⟨hextends, _⟩
    refine ⟨unwritten_extends hextends hstart, .inl ⟨_, hextends.mem (List.mem_cons_of_mem _
      List.mem_cons_self), rfl⟩⟩
  | ok record =>
    refine (safe_after (settleCard_settles call planned startedAt card) start).mono ?_
    rintro _ response ⟨more, rfl, honly, hmore, hsettled⟩
    refine ⟨unwritten_append hstart hmore, .inr ?_⟩
    rcases hsettled with hfailed | hsettlement
    · exact .inl (hfailed.after _)
    · refine .inr ⟨onlyAudits_append (by simp [OnlyAudits, start, appended]) honly,
        hsettlement.after _, now, record, ?_⟩
      exact List.mem_append_left _ (List.mem_cons_of_mem _ List.mem_cons_self)

/-- **A write ends well.**  A call that writes settles the write, unless its token is refused or
a statement fails afterwards. -/
theorem writeHours_endsWell {call : PlannedCall} {planned : PlannedTimecardSetHours}
    {startedAt : DateTime} {hours : String} (hpast : Prepared past)
    (hadmits : Admits state params call) (hloaded : loadedEvent call ∈ past) :
    EndsWell state params (writeHours state call planned startedAt hours) past := by
  refine safe_perform trivial fun answer => ?_
  cases answer with
  | error text =>
    refine calm_endsWell (calm_auditedTimecardError state _ _ _ _).calm ?_
    refine unwritten_append hpast.unwritten fun ev hev => ?_
    rw [List.mem_singleton.mp hev]
    rfl
  | ok card =>
    refine (safe_after (consumeThen_settles call planned startedAt card) _).mono ?_
    rintro _ response ⟨more, rfl, hmore, hsettled⟩
    refine .inr ⟨past, .setTimecardHours planned.cardSysId planned.day hours planned.mode,
      .ok card, more, call, List.append_assoc .., hpast.unwritten, hmore, rfl, ?_⟩
    rcases hsettled with hrefused | hfailed | ⟨honly, hsettlement, now, consumed, hconsumed⟩
    · exact .inl hrefused
    · exact .inr (.inl hfailed)
    · refine .inr (.inr ⟨hadmits, ?_, ⟨now, consumed, List.mem_append_right _ hconsumed⟩,
        hsettlement.audited.after _, ?_, ?_⟩)
      · exact List.mem_append_left _ (List.mem_append_left _ hloaded)
      · refine onlyAudits_append (onlyAudits_append (hpast.onlyAudits _) ?_) honly
        simp [OnlyAudits, appended]
      · have htool : call.tool = timecardApplyTool := by rw [hadmits.call]; rfl
        rw [htool]
        exact (hsettlement.after _).answered

/-- Every time card call ends well. -/
theorem handleTimecard_endsWell :
    EndsWell state params (handleTimecardApplySetHours state parseTimeValue params) [] := by
  refine Gate.safe_enter (admitCall_loads.mono ?_)
  rintro past call ⟨hpast, hadmits, hloaded⟩
  refine Gate.safe_enter ((gate_prepared (prepares_prepare state call) hpast).mono ?_)
  rintro past planned ⟨hpast, hextends, _⟩
  have hloaded := hextends.mem hloaded
  refine Gate.safe_enter ((gate_prepared (prepares_confirm call) hpast).mono ?_)
  rintro past startedAt ⟨hpast, hextends, _⟩
  have hloaded := hextends.mem hloaded
  cases parseTimeValue planned.hours with
  | none => exact .inl hpast.unwritten
  | some hours => exact writeHours_endsWell hpast hadmits hloaded

end Settled

/-! ## Runs -/

section Runs

variable {state : DaemonState} {parseTimeValue : String → Option String} {world : World}
  {c : Config DaemonIO World Value JsonRpcResponse}

/-- A step that leaves the writes of time cards alone: a token that is presented for consumption
is there and unspent, no statement fails for a call that has written, no key is reserved again
while it holds a receipt in force, and a receipt is saved over a reservation of its operation. -/
def Undisturbed (c : Config DaemonIO World Value JsonRpcResponse) (l : Label DaemonIO World Value) :
    Prop :=
  Unhindered c l ∧ Unfailing c l ∧ Inside c l ∧ SavesOwnKey c l

instance (c : Config DaemonIO World Value JsonRpcResponse) (l : Label DaemonIO World Value) :
    Decidable (Undisturbed c l) := inferInstanceAs (Decidable (_ ∧ _))

/-- A call that is made once more, with the same arguments: it has written nothing and is not
about to, and when it has returned it has answered with the receipt. -/
def Retried (receipt : OperationReceipt) (u : Task DaemonIO Value JsonRpcResponse) : Prop :=
  (∀ ev ∈ u.past, reads ev.1) ∧ writesNext u.rest = false ∧
    ∀ response, u.rest = .pure response → Replayed receipt.reread response

/-- Every call that comes in later with the same arguments is answered with the receipt, as long
as it can be retried. -/
def Retryable (state : DaemonState) (parseTimeValue : String → Option String)
    (c : Config DaemonIO World Value JsonRpcResponse) (params : Value)
    (receipt : OperationReceipt) : Prop :=
  ∀ key token, stringParam params "idempotency_key" = some key →
    stringParam params "confirmation_token" = some token →
    ∀ c', Leads (daemon state.crates (handleTimecardApplySetHours state parseTimeValue))
        (Retriable state.crates key timecardApplyTool token) c c' →
      ∀ (j : Nat) (u : Task DaemonIO Value JsonRpcResponse), c.tasks.length ≤ j →
        c'.tasks[j]? = some u → u.call = params → Retried receipt u

theorem handleTimecard_keepsPlans (params : Value) :
    (handleTimecardApplySetHours state parseTimeValue params).Uses keepsPlans fun _ => True := by
  have hrefuse : ∀ code message data status,
      (auditedTimecardError state code message data status).Uses keepsPlans fun _ => True :=
    fun _ _ _ _ => (calm_auditedTimecardError state _ _ _ _).calm.mono
      (fun _ => keepsPlans_of_calm) fun _ => id
  refine Gate.uses_enter (keepsPlans_of_prepares (prepares_admitCall state params)) fun call _ => ?_
  refine Gate.uses_enter (keepsPlans_of_prepares (prepares_prepare state call)) fun planned _ => ?_
  refine Gate.uses_enter (keepsPlans_of_prepares (prepares_confirm call)) fun startedAt _ => ?_
  cases parseTimeValue planned.hours with
  | none => exact uses_pure trivial
  | some hours =>
    refine uses_perform trivial fun answer => ?_
    cases answer with
    | error text => exact hrefuse _ _ _ _
    | ok card =>
      have hconsume : (Daemon.consumeConfirmation call.token call.binding).Uses keepsPlans
          fun _ => True :=
        uses_perform trivial fun _ =>
          performs trivial
      refine uses_bind hconsume fun consumed _ => ?_
      cases consumed with
      | error err => exact hrefuse _ _ _ _
      | ok record =>
        exact (calm_settleCard state call planned startedAt card).mono
          (fun _ => keepsPlans_of_calm) fun _ => id

/-- A settled call is answered with its receipt when it is made once more. -/
theorem retryable_of_replayable {params : Value} {call : PlannedCall} {receipt : OperationReceipt}
    {expiresAt tokenExpiresAt : DateTime} (hadmits : Admits state params call)
    (hrun : Run (daemon state.crates (handleTimecardApplySetHours state parseTimeValue))
      Undisturbed world c)
    (hreplayable : Replayable call receipt.reread expiresAt tokenExpiresAt c) :
    Retryable state parseTimeValue c params receipt := by
  intro key token hkey htoken c' hleads j u hj hu hcall
  obtain rfl := Option.some.inj (hadmits.key.symm.trans hkey)
  obtain rfl := Option.some.inj (hadmits.token.symm.trans htoken)
  have htool : timecardApplyTool = call.tool := by
    rw [hadmits.call]
    rfl
  rw [htool] at hleads
  have hwhole : ∀ {c' : Config DaemonIO World Value JsonRpcResponse}, Leads
      (daemon state.crates (handleTimecardApplySetHours state
      parseTimeValue)) (Retriable state.crates call.key call.tool call.token) c c' →
      Run (daemon state.crates (handleTimecardApplySetHours state parseTimeValue))
        (fun _ _ => True) world c' :=
    fun hleads => hleads.run (fun _ _ _ => trivial) (hrun.mono fun _ _ _ => trivial)
  have huses : ∀ params, (handleTimecardApplySetHours state parseTimeValue params).Uses keepsPlans
      fun _ => True := handleTimecard_keepsPlans
  have hleaves : ∀ {c₁ l c₂}, Leads (daemon state.crates (handleTimecardApplySetHours state
      parseTimeValue)) (Retriable state.crates call.key call.tool call.token) c c₁ →
      Retriable state.crates call.key call.tool call.token c₁ l →
      Step (daemon state.crates (handleTimecardApplySetHours state parseTimeValue)) c₁ l c₂ →
      LeavesAlone call.planId call.key call.tool c₁ l := by
    intro c₁ l c₂ hlead hretriable hs
    exact .of_all (storesNew_of_keepsPlans ((hwhole hlead).step_uses hs huses))
      hretriable.inside hretriable.owns _ _ _
  have hfinds := hreplayable.leads (fun hthere hl _ _ _ => hl.shows hthere) hleaves hleads hj hu
  have hreplays : OnTimecardReplay call receipt.reread expiresAt tokenExpiresAt
      (Replayed receipt.reread) (handleTimecardApplySetHours state parseTimeValue u.call) := by
    rw [hcall]
    exact handleTimecard_replays hadmits parseTimeValue
  obtain ⟨hpast, hrest⟩ := (hwhole hleads).given hu hreplays hfinds
  refine ⟨fun ev hev => reads_of_silent (hpast ev hev), ?_, fun response hreturned => ?_⟩
  · cases hnext : u.rest with
    | pure response => rfl
    | act e k =>
      rw [hnext] at hrest
      cases e with
      | write planId w => exact absurd hrest.1 id
      | _ => rfl
  · rw [hreturned] at hrest
    exact hrest

/-- **A time card write is settled.**  In every undisturbed run of time card calls, of any keys
and however they interleave, a call whose write succeeded and that has returned has audited
the write as applied and nothing as denied, has answered with the Success receipt of its plan,
and the same call once more answers with that receipt. -/
theorem timecard_write_settled
    (hrun : Run (daemon state.crates (handleTimecardApplySetHours state parseTimeValue))
      Undisturbed world c)
    {i : Nat} {t : Task DaemonIO Value JsonRpcResponse} (ht : c.tasks[i]? = some t)
    {response : JsonRpcResponse} (hreturned : t.rest = .pure response) {planId : String}
    {w : SnowWrite} {answer : w.Ans}
    (hwritten : (⟨.write planId w, answer⟩ : Event DaemonIO) ∈ t.past)
    (hok : w.succeeded answer = true) :
    Audited state.storePath .appliedSuccess (some planId) t.past ∧
      OnlyAudits .appliedSuccess t.past ∧
      ∃ receipt : OperationReceipt, response = .ok (.receipt receipt) ∧
        receipt.status = .success ∧ receipt.planId = planId ∧
        receipt.idempotencyReplay = false ∧ Retryable state parseTimeValue c t.call receipt := by
  have hends : EndsWell state t.call t.rest t.past := hrun.safe_past ht handleTimecard_endsWell
  rw [hreturned] at hends
  rcases hends with hunwritten | ⟨pre, w', answer', more, call, hpast, hpre, hmore, hok', hends⟩
  · have hnone := hunwritten _ hwritten
    rw [show wrote (⟨.write planId w, answer⟩ : Event DaemonIO) = w.succeeded answer from rfl,
      hok] at hnone
    cases hnone
  have hplan : planId = call.plan.planId := by
    rw [hpast] at hwritten
    rcases List.mem_append.mp hwritten with hmem | hmem
    · exact absurd (hpre _ hmem) (by simp [wrote, hok])
    rcases List.mem_cons.mp hmem with heq | hmem
    · cases heq
      rfl
    · exact absurd (hmore _ hmem) (by simp [wrote, hok])
  subst hplan
  rcases hends with ⟨ev, hev, hrefused⟩ | hfailed | hsettles
  · have haccepted := handleTimecard_punctual.accepted (fun hl => hl.1) hrun ht ev
      (hpast ▸ List.mem_append_right _ (List.mem_cons_of_mem _ hev))
    rw [hrefused] at haccepted
    cases haccepted
  · exact absurd hfailed (run_unfailing hrun (fun hl => hl.2.1) ht hpast hok')
  obtain ⟨receipt, hsaved, rfl, hstatus, hplanId, htool, hhash, hreplay⟩ := hsettles.answered
  refine ⟨hsettles.audited, hsettles.undenied, receipt, rfl, hstatus, hplanId, hreplay, ?_⟩
  obtain ⟨now, consumed, hconsumed⟩ := hsettles.consumed
  obtain ⟨expiresAt, tokenExpiresAt, hreplayable⟩ := run_replayable hrun ht
    (fun hrun hl hs => .of_all
      (storesNew_of_keepsPlans (hrun.step_uses hs handleTimecard_keepsPlans))
      hl.2.2.1 hl.2.2.2 _ _ _)
    hsettles.loaded hconsumed hsaved htool hhash
  exact retryable_of_replayable hsettles.admits hrun hreplayable

end Runs

/-! ## Sample runs -/

/-- Whether a task presents the sample key and token, has written, and has returned. -/
def writtenForSample (t : Task DaemonIO Value JsonRpcResponse) : Bool :=
  decide (stringParam t.call "idempotency_key" = some "key-1") &&
    decide (stringParam t.call "confirmation_token" = some "token-1") &&
    t.past.any wrote && t.rest.value.isSome

/-- A call, and the same call once more, which answers with the receipt of the first. -/
theorem timecard_write_settled_retried :
    ∃ c t receipt c' u, Run (daemon timecardState.crates
        (handleTimecardApplySetHours timecardState some)) Undisturbed plannedWorld c ∧
      c.tasks[0]? = some t ∧ t.past.any wrote = true ∧ t.rest = .pure (.ok (.receipt receipt)) ∧
      receipt.status = .success ∧
      Leads (daemon timecardState.crates (handleTimecardApplySetHours timecardState some))
        (Retriable timecardState.crates "key-1" timecardApplyTool "token-1") c c' ∧
      c'.tasks[1]? = some u ∧
      u.rest = .pure (.ok (.receipt { receipt.reread with idempotencyReplay := true })) := by
  let player := scripted timecardState.crates (handleTimecardApplySetHours timecardState some)
    (cardServiceNow 1)
  have hplay : ((play Undisturbed player 50 ⟨plannedWorld, [], none⟩
      [apply "key-1", .resume 0, .resume 0]).bind fun c =>
        (play (Retriable timecardState.crates "key-1" timecardApplyTool "token-1") player 50 c
          [apply "key-1"]).map fun c' => (c.tasks.map writtenForSample,
            c'.tasks[1]?.map (·.rest.value.isSome),
            decide (c'.tasks.map Task.call = c.tasks.map Task.call ++ c.tasks.map Task.call))) =
      some ([true], some true, true) := by
    decide +kernel
  obtain ⟨c, hc, hplay⟩ := Option.bind_eq_some_iff.mp hplay
  obtain ⟨c', hc', hseen⟩ := Option.map_eq_some_iff.mp hplay
  simp only [Prod.mk.injEq] at hseen
  obtain ⟨hfirst, hsecond, hcalls⟩ := hseen
  obtain ⟨t, htasks, ht⟩ := List.map_eq_singleton_iff.mp hfirst
  simp only [writtenForSample, Bool.and_eq_true, decide_eq_true_eq] at ht
  obtain ⟨⟨⟨hkey, htoken⟩, hwrote⟩, hreturned⟩ := ht
  obtain ⟨u, hu, hreturned'⟩ := Option.map_eq_some_iff.mp hsecond
  obtain ⟨response, hresponse⟩ := Option.isSome_iff_exists.mp hreturned
  obtain ⟨response', hresponse'⟩ := Option.isSome_iff_exists.mp hreturned'
  have ht : c.tasks[0]? = some t := by rw [htasks]; rfl
  have hcall : u.call = t.call := by
    have hcall := congrArg (·[1]?) (of_decide_eq_true hcalls)
    simp only [List.getElem?_map, hu, htasks] at hcall
    exact Option.some.inj hcall
  have hrun := play_run .start hc
  obtain ⟨⟨e, answer⟩, hmem, hok⟩ := List.any_eq_true.mp hwrote
  cases e with
  | write planId w =>
    obtain ⟨_, _, receipt, rfl, hstatus, _, _, hretry⟩ :=
      timecard_write_settled hrun ht (eq_pure_of_value hresponse) hmem hok
    have hleads := play_leads .refl hc'
    obtain ⟨_, _, hanswers⟩ := hretry "key-1" "token-1" hkey htoken c' hleads 1 u
      (by simp [htasks]) hu hcall
    have hanswer := eq_pure_of_value hresponse'
    rw [hanswers response' hanswer] at hanswer
    exact ⟨c, t, receipt, c', u, hrun, ht, hwrote, eq_pure_of_value hresponse, hstatus, hleads,
      hu, hanswer⟩
  | _ => cases hok

/-- Whether a task has written and answers that its token is invalid. -/
def deniedAfterWrite (t : Task DaemonIO Value JsonRpcResponse) : Bool :=
  t.past.any wrote &&
    match t.rest with
    | .pure (.error err) => err.message == "CONFIRMATION_INVALID"
    | _ => false

/-- **A write is answered as denied.**  Two calls write at once; the second finds its token
consumed when it comes to consume it, and the denial is what it audits. -/
theorem timecard_write_denied :
    ∃ c t err, Run (daemon timecardState.crates (handleTimecardApplySetHours timecardState some))
        Forward plannedWorld c ∧
      t ∈ c.tasks ∧ t.past.any wrote = true ∧ t.rest = .pure (.error err) ∧
      err.message = "CONFIRMATION_INVALID" := by
  have hplay : (play Forward
      (scripted timecardState.crates (handleTimecardApplySetHours timecardState some)
        (cardServiceNow 2)) 50
      ⟨plannedWorld, [], none⟩
      [apply "key-1", apply "key-2", .resume 0, .resume 1, .resume 0, .resume 1]).map
        (fun c => c.tasks.any deniedAfterWrite) = some true := by decide +kernel
  obtain ⟨c, hc, hdenied⟩ := Option.map_eq_some_iff.mp hplay
  obtain ⟨t, ht, hdenied⟩ := List.any_eq_true.mp hdenied
  unfold deniedAfterWrite at hdenied
  split at hdenied
  · rename_i err hrest
    simp only [Bool.and_eq_true, beq_iff_eq] at hdenied
    exact ⟨c, t, err, play_run .start hc, ht, hdenied.1, hrest, hdenied.2⟩
  · simp at hdenied

end TimecardWrite

end SnowAgent
