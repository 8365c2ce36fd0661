import SnowAgent.CatalogOrders
import SnowAgent.ChangeRuns
import SnowAgent.Replays
import SnowAgent.ResourcePlanVersions
import SnowAgent.WorkNoteTarget

/-! # When a finished write is replayed

A call that has saved a receipt was admitted, has loaded its plan and has consumed its token.
The same call once more is answered with that receipt, at any instant inside the window of its
key for a work note, and for a change or a Resource Plan until its plan or its token expires.
-/
namespace SnowAgent

open Json Interleaving Program

/-! ## Receipts are saved for admitted calls -/

variable {receipt : OperationReceipt} {refuse : Refuse}

variable {A : Type} {R : A → Prop} {key : String} {e : DaemonAct}

/-- What an admitted call has of its arguments and of its plan. -/
structure Admitted (state : DaemonState) (tool : String) (params : Value)
    (fits : OperationPlan → Prop) (call : PlannedCall) : Prop where
  enabled : state.policy.toolEnabledInEnvironment tool state.environment.label = true
  planId : stringParam params "plan_id" = some call.planId
  token : stringParam params "confirmation_token" = some call.token
  key : stringParam params "idempotency_key" = some call.key
  fits : fits call.plan
  call : call = plannedCall state tool params call.planId call.token call.key call.planRecord

theorem Admitted.tool {state : DaemonState} {tool : String} {params : Value}
    {fits : OperationPlan → Prop} {call : PlannedCall}
    (h : Admitted state tool params fits call) : call.tool = tool :=
  congrArg PlannedCall.tool h.call

/-- A receipt under a key is of an admitted call that has loaded its plan and consumed its
token. -/
def SavedFor (admitted : PlannedCall → Prop) (past : List (Event DaemonIO)) (key : String)
    (receipt : OperationReceipt) : Prop :=
  ∃ call now consumed, admitted call ∧ loadedEvent call ∈ past ∧
    consumedEvent call now consumed ∈ past ∧ key = call.key ∧ receipt.tool = call.tool ∧
      receipt.opHash = call.plan.opHash

/-- What may be done: a receipt is saved for an admitted call only. -/
def savesFor (admitted : PlannedCall → Prop) (past : List (Event DaemonIO)) : DaemonAct → Prop
  | .store (.saveReceipt key receipt) => SavedFor admitted past key receipt
  | _ => True

/-- The actions that save no receipt. -/
def saveless : DaemonAct → Prop
  | .store (.saveReceipt _ _) => False
  | _ => True

theorem saveless_of_refuses (h : refuses e) : saveless e := by
  cases e with
  | store call => cases call <;> first | exact h | trivial
  | _ => trivial

section Saves

variable {admitted : PlannedCall → Prop} {past : List (Event DaemonIO)}

theorem savesFor_of_saveless (h : saveless e) : savesFor admitted past e := by
  cases e with
  | store call => cases call <;> first | exact absurd h id | trivial
  | _ => trivial

theorem SavedFor.append (h : SavedFor admitted past key receipt) (more : List (Event DaemonIO)) :
    SavedFor admitted (past ++ more) key receipt := by
  obtain ⟨call, now, consumed, hadmitted, hloaded, hconsumed, hof⟩ := h
  exact ⟨call, now, consumed, hadmitted, List.mem_append_left _ hloaded,
    List.mem_append_left _ hconsumed, hof⟩

/-- What holds of a part of a call that saves receipts for admitted calls only. -/
abbrev SavesFor (admitted : PlannedCall → Prop) (past : List (Event DaemonIO))
    (p : Handler JsonRpcResponse) : Prop :=
  Safe (trace DaemonIO) (savesFor admitted) p past fun _ _ => True

/-- What holds of such a gate. -/
abbrev GateSavesFor {A : Type} (admitted : PlannedCall → Prop) (past : List (Event DaemonIO))
    (gate : Gate A) (R : List (Event DaemonIO) → A → Prop) : Prop :=
  gate.Safe (trace DaemonIO) (savesFor admitted) past (fun _ _ => True) R

theorem saveless_saves {p : Handler A} (hp : p.Uses saveless R) :
    Safe (trace DaemonIO) (savesFor admitted) p past fun past' a =>
      Extends saveless past past' ∧ R a :=
  uses_extends hp (fun _ _ => savesFor_of_saveless) past

theorem CalmRefusal.saves {p : Handler JsonRpcResponse} (hp : CalmRefusal p) :
    SavesFor admitted past p :=
  (saveless_saves (hp.mono (fun _ => saveless_of_refuses) fun _ => id)).mono fun _ _ _ => trivial

variable {gate : Gate A}

theorem gate_saves (hgate : gate.Uses refuses CalmRefusal R) :
    GateSavesFor admitted past gate fun past' a => Extends refuses past past' ∧ R a :=
  hgate.extends (fun _ _ he => savesFor_of_saveless (saveless_of_refuses he))
    fun _ _ _ hp => hp.saves

theorem prepares_gate_saves (hgate : gate.Uses prepares CalmRefusal R) :
    GateSavesFor admitted past gate fun past' a => Extends refuses past past' ∧ R a :=
  gate_saves (hgate.mono (fun _ => refuses_of_prepares) (fun _ => id) fun _ => id)

/-- A plan that is found was loaded. -/
theorem findPlan_saves
    (hrefuse : ∀ code message data status, CalmRefusal (refuse code message data status))
    (planId : String) :
    GateSavesFor admitted past (findPlan refuse planId) fun past' record =>
      (⟨.store (.getPlan planId), .ok (some record)⟩ : Event DaemonIO) ∈ past' := by
  refine Gate.safe_bind (Gate.safe_trying ⟨trivial, fun opened => ?_⟩)
  cases opened with
  | error text => trivial
  | ok _ =>
    refine Gate.safe_bind (Gate.safe_trying ⟨trivial, fun found => ?_⟩)
    rcases found with text | (_ | record)
    · trivial
    · exact (hrefuse _ _ _ _).saves
    · exact List.mem_append_right _ (List.mem_singleton_self _)

variable {call : PlannedCall}

/-- A token that is consumed was consumed for the call. -/
theorem consumeThen_saves
    (hrefuse : ∀ code message data status, CalmRefusal (refuse code message data status)) {next : Handler JsonRpcResponse}
    (hnext : ∀ more now consumed, consumedEvent call now consumed ∈ more →
      SavesFor admitted (past ++ more) next) :
    SavesFor admitted past (consumeThen refuse call next) := by
  refine safe_bind (safe_perform trivial fun (now : DateTime) => ⟨trivial, fun consumed => ?_⟩)
  cases consumed with
  | error err => exact (hrefuse _ _ _ _).saves
  | ok record =>
    show SavesFor admitted (past ++ [(⟨.now, now⟩ : Event DaemonIO)] ++
      [consumedEvent call now record]) next
    rw [List.append_assoc]
    exact hnext _ now record (List.mem_cons_of_mem _ (List.mem_singleton_self _))

/-- The receipt of a call is saved for it. -/
theorem settleReceipt_saves {trail : AuditTrail} {state : DaemonState} {note : AuditNote}
    {now : DateTime}
    {consumed : ConfirmationRecord} (hadmitted : admitted call) (hloaded : loadedEvent call ∈ past)
    (hconsumed : consumedEvent call now consumed ∈ past) (htool : receipt.tool = call.tool)
    (hhash : receipt.opHash = call.plan.opHash) :
    SavesFor admitted past (settleReceipt trail state call note receipt) := by
  refine safe_bind ((saveless_saves ((refuses_append trail state note).mono
    (fun _ => saveless_of_refuses) fun _ => id)).mono ?_)
  rintro past' appended ⟨hextends, _⟩
  cases appended with
  | error text => trivial
  | ok _ =>
    refine safe_perform ⟨call, now, consumed, hadmitted, hextends.mem hloaded,
      hextends.mem hconsumed, rfl, htool, hhash⟩ fun saved => ?_
    cases saved with
    | error text => trivial
    | ok _ => exact safe_perform trivial fun marked => trivial

end Saves

/-! ## A family of apply calls -/

/-- The instants that are timely for a call, whose plan and token may grow old. -/
def Timely (ages : Bool) (call : PlannedCall) (tokenExpiresAt t : DateTime) : Prop :=
  ages = true → t < tokenExpiresAt ∧ t < call.planRecord.expiresAt

/-- The rows of plans that are fit for a call, whose plan may grow old. -/
def Fit (ages : Bool) (row : PlanStoreRecord) : Prop := ages = true → row.state ≠ .expired

/-- What a family of apply calls does: it saves receipts for admitted calls only, and a call
that is made once more is answered with its receipt. -/
structure Family (state : DaemonState) (ages : Bool) (tool : String)
    (fits : OperationPlan → Prop) (handle : Value → Handler JsonRpcResponse) : Prop where
  saves : ∀ params, SavesFor (Admitted state tool params fits) [] (handle params)
  replays : ∀ {params params' : Value} {call : PlannedCall} {stored : OperationReceipt}
    {expiresAt tokenExpiresAt : DateTime}, Admitted state tool params fits call →
    SameArguments state params params' →
    OnReplay call stored expiresAt tokenExpiresAt (Timely ages call tokenExpiresAt) (Fit ages)
      (Replayed stored) (handle params')

section Families

variable {state : DaemonState} {params params' : Value} {call : PlannedCall}
  {stored : OperationReceipt} {expiresAt tokenExpiresAt : DateTime} {past : List (Event DaemonIO)}

/-- What the arguments of a call and its plan are read for. -/
def readArguments {A : Type} (refuse : Refuse) (params : Value)
    (next : String → String → String → PlanStoreRecord → Gate A) : Gate A := do
  let planId ← requiredParam refuse params "plan_id"
  let token ← requiredParam refuse params "confirmation_token"
  let key ← requiredParam refuse params "idempotency_key"
  let planRecord ← findPlan refuse planId
  next planId token key planRecord

variable {admitted : PlannedCall → Prop}

variable {next : String → String → String → PlanStoreRecord → Gate A}

/-- A call that goes on has its arguments, and has loaded its plan. -/
theorem readArguments_saves {R : List (Event DaemonIO) → A → Prop}
    (hrefuse : ∀ code message data status, CalmRefusal (refuse code message data status))
    (hnext : ∀ past' planId token key record, stringParam params "plan_id" = some planId →
      stringParam params "confirmation_token" = some token →
      stringParam params "idempotency_key" = some key →
      (⟨.store (.getPlan planId), .ok (some record)⟩ : Event DaemonIO) ∈ past' →
      GateSavesFor admitted past' (next planId token key record) R) :
    GateSavesFor admitted past (readArguments refuse params next) R := by
  refine Gate.safe_bind (Gate.safe_require? (hrefuse _ _ _ _).saves fun planId hplanId => ?_)
  refine Gate.safe_bind (Gate.safe_require? (hrefuse _ _ _ _).saves fun token htoken => ?_)
  refine Gate.safe_bind (Gate.safe_require? (hrefuse _ _ _ _).saves fun key hkey => ?_)
  refine Gate.safe_bind ((findPlan_saves hrefuse planId).mono ?_)
  intro past' record hloaded
  exact hnext past' planId token key record hplanId htoken hkey hloaded

/-- A call that is made once more has the same arguments, and finds the same plan. -/
theorem passes_readArguments {tool : String} {fits : OperationPlan → Prop} {ages : Bool} (hadmitted : Admitted state tool params fits call)
    (hparams : SameArguments state params params')
    (hnext : ∀ record, SamePlan call.planRecord record → Fit ages record →
      Passes call stored expiresAt tokenExpiresAt (Timely ages call tokenExpiresAt) (Fit ages)
        (next call.planId call.token call.key record) R) :
    Passes call stored expiresAt tokenExpiresAt (Timely ages call tokenExpiresAt) (Fit ages)
      (readArguments refuse params' next) R := by
  refine Gate.given_bind (Gate.given_require? (hparams.planId.trans hadmitted.planId)) ?_
  rintro _ rfl
  refine Gate.given_bind (Gate.given_require? (hparams.token.trans hadmitted.token)) ?_
  rintro _ rfl
  refine Gate.given_bind (Gate.given_require? (hparams.key.trans hadmitted.key)) ?_
  rintro _ rfl
  refine Gate.given_bind passes_findPlan ?_
  rintro record ⟨hplan, hfit⟩
  exact hnext record hplan hfit

/-- A plan that is not marked expired is not turned away at a timely instant. -/
theorem passes_timely {call' : PlannedCall} {data : Value}
    (hsame : SamePlan call.planRecord call'.planRecord) (hfit : Fit true call'.planRecord) :
    Passes call stored expiresAt tokenExpiresAt (Timely true call tokenExpiresAt) (Fit true)
      (rejectExpired refuse call' data) fun _ => True :=
  passes_rejectExpired (hfit rfl) fun _ ht => hsame.expiry ▸ (ht rfl).2

/-! ### Changes -/

variable {startedAt : DateTime} {beforeRecord : Option SnowRecord}

namespace ChangeWrite

/-- The plans of a change tool. -/
def IsFor (tool : String) (plan : OperationPlan) : Prop := applyToolForPlanTool plan.tool = tool

theorem admitCall_admits (tool : String) (params : Value) :
    GateSavesFor (Admitted state tool params (IsFor tool)) [] (admitCall state tool params)
      fun past call => Admitted state tool params (IsFor tool) call ∧ loadedEvent call ∈ past := by
  have hrefuse := calm_auditedChangeError state tool
  refine Gate.safe_bind ((prepares_gate_saves
    (inspects_requireSwitchedOn hrefuse (inspects_anyKillSwitch _)).prepares).mono ?_)
  rintro past _ _
  refine Gate.safe_bind (Gate.safe_require (hrefuse _ _ _ _).saves fun henabled => ?_)
  refine readArguments_saves hrefuse ?_
  intro past planId token key planRecord hplanId htoken hkey hloaded
  refine Gate.safe_bind (Gate.safe_require trivial fun htool => ?_)
  refine Gate.safe_bind ((prepares_gate_saves (inspects_rejectExpired hrefuse _ _).prepares).mono ?_)
  rintro past' _ ⟨hextends, _⟩
  have hfits : applyToolForPlanTool planRecord.planJson.plan.tool = tool := of_decide_eq_true htool
  exact Gate.safe_pure ⟨⟨henabled, hplanId, htoken, hkey, hfits, rfl⟩, hextends.mem hloaded⟩

theorem writePlan_saves (hadmitted : admitted call) (hloaded : loadedEvent call ∈ past) :
    SavesFor admitted past (writePlan state call startedAt beforeRecord) := by
  have hsend : ∀ {planId : String} {w : SnowWrite} {read : w.Ans → _},
      (sendWrite planId w read).Uses saveless fun _ => True :=
    uses_perform trivial fun _ => uses_pure trivial
  have hupdate : ∀ {missing : String} {write : RecordRef → Handler _},
      (∀ target, (write target).Uses saveless fun _ => True) →
      (withTarget call.plan missing write).Uses saveless fun _ => True := by
    intro missing write hwrite
    unfold withTarget
    split
    · exact uses_pure trivial
    · exact hwrite _
  have happly : (applyPlan call.tool call.plan).Uses saveless fun _ => True := by
    unfold applyPlan
    split
    · exact hsend
    · exact hsend
    · exact hupdate fun _ => hsend
    · exact hupdate fun _ => hsend
    · exact hupdate fun _ => hsend
    · exact uses_pure trivial
  refine safe_bind ((saveless_saves happly).mono ?_)
  rintro past' answer ⟨hextends, _⟩
  rcases answer with (text | _) | result
  · exact (calm_refuseUpstream state call text).saves
  · exact (calm_auditedChangeError state call.tool _ _ _ _).saves
  · refine consumeThen_saves (calm_auditedChangeError state call.tool) ?_
    intro more now consumed hconsumed
    refine safe_perform trivial fun auditId => safe_perform trivial fun completedAt => ?_
    refine settleReceipt_saves hadmitted ?_ (?_ : consumedEvent call now consumed ∈ _) rfl rfl
    · exact List.mem_append_left _ (List.mem_append_left _
        (List.mem_append_left _ (hextends.mem hloaded)))
    · exact List.mem_append_left _ (List.mem_append_left _ (List.mem_append_right _ hconsumed))

/-- **Change calls are a family**, whose plans grow old. -/
theorem family (tool : String) :
    Family state true tool (IsFor tool) (handleChangeApply state tool) where
  saves := by
    intro params
    refine Gate.safe_enter ((admitCall_admits tool params).mono ?_)
    rintro past call ⟨hadmitted, hloaded⟩
    refine Gate.safe_enter ((prepares_gate_saves (prepares_prepare state call)).mono ?_)
    rintro past' beforeRecord ⟨hextends, _⟩
    refine Gate.safe_enter ((gate_saves (refuses_confirm call)).mono ?_)
    rintro past'' startedAt ⟨hextends', _⟩
    exact writePlan_saves hadmitted (hextends'.mem (hextends.mem hloaded))
  replays := by
    intro params params' call stored expiresAt tokenExpiresAt hadmitted hparams
    have hadmit : Passes call stored expiresAt tokenExpiresAt (Timely true call tokenExpiresAt)
        (Fit true) (admitCall state tool params') (SameCall call) := by
      refine Gate.given_bind (passes_requireSwitchedOn (anyKillSwitch_off _)) fun _ _ => ?_
      refine Gate.given_bind (Gate.given_require hadmitted.enabled) fun _ _ => ?_
      refine passes_readArguments hadmitted hparams fun record hplan hfit => ?_
      have htool : decide (applyToolForPlanTool record.planJson.plan.tool = tool) = true := by
        rw [hplan.plan]
        exact decide_eq_true hadmitted.fits
      refine Gate.given_bind (Gate.given_require htool) fun _ _ => ?_
      refine Gate.given_bind (passes_timely hplan hfit) fun _ _ => ?_
      exact Gate.given_pure (sameCall_planned hparams hadmitted.call hplan)
    refine Gate.given_enter hadmit fun call' hsame => ?_
    have hreplay : OnReplay call stored expiresAt tokenExpiresAt (Timely true call tokenExpiresAt)
        (Fit true) (Replayed stored) (replay state call' stored) :=
      replayReceipt_given (accepts_validateConfirmationBinding fun t ht => (ht rfl).1) hsame
    have hprepare : Passes call stored expiresAt tokenExpiresAt (Timely true call tokenExpiresAt)
        (Fit true) (prepare state call') fun _ => False :=
      Gate.given_bind (passes_checkKey hsame hreplay) fun _ hnever => hnever.elim
    exact Gate.given_enter hprepare fun _ hnever => hnever.elim

end ChangeWrite

/-! ### Resource Plans -/

namespace ResourcePlanWrite

/-- The plans of a Resource Plan tool. -/
def IsFor (tool : String) (plan : OperationPlan) : Prop := applyToolForPlanTool plan.tool = tool

theorem admitCall_admits (tool : String) (params : Value) :
    GateSavesFor (Admitted state tool params (IsFor tool)) [] (admitCall state tool params)
      fun past call => Admitted state tool params (IsFor tool) call ∧ loadedEvent call ∈ past := by
  have hrefuse := calm_auditedError state tool
  refine Gate.safe_bind ((prepares_gate_saves
    (inspects_requireSwitchedOn hrefuse (inspects_anyKillSwitch _)).prepares).mono ?_)
  rintro past _ _
  refine Gate.safe_bind (Gate.safe_require (hrefuse _ _ _ _).saves fun henabled => ?_)
  refine readArguments_saves hrefuse ?_
  intro past planId token key planRecord hplanId htoken hkey hloaded
  refine Gate.safe_bind (Gate.safe_require trivial fun htool => ?_)
  have hfits : applyToolForPlanTool planRecord.planJson.plan.tool = tool := of_decide_eq_true htool
  exact Gate.safe_pure ⟨⟨henabled, hplanId, htoken, hkey, hfits, rfl⟩, hloaded⟩

/-- The evidence of a decision leaves the operation of a receipt as it is. -/
theorem withEvidence_identity (receipt : OperationReceipt) (decision : Option ResourcePlanDecision)
    (record : SnowRecord) (count : Nat) (bookingTypes : List String) :
    (withEvidence receipt decision record count bookingTypes).tool = receipt.tool ∧
      (withEvidence receipt decision record count bookingTypes).opHash = receipt.opHash := by
  by_cases h : decisionVerified decision (resourcePlanStateFromRecord record)
      (matchingAllocationCount decision count bookingTypes) = true
  · simp [withEvidence, h]
  · simp [withEvidence, h]

theorem refuses_addEvidence (record : SnowRecord) (receipt : OperationReceipt) :
    (addEvidence call record receipt).Uses refuses fun receipt' =>
      receipt'.tool = receipt.tool ∧ receipt'.opHash = receipt.opHash := by
  unfold addEvidence
  split
  · exact uses_bind (Daemon.uses_reading (fun _ => trivial) _) fun answer _ =>
      uses_pure (withEvidence_identity ..)
  · exact uses_pure ⟨rfl, rfl⟩

theorem writePlan_saves {lib : PlanLib} (hadmitted : admitted call)
    (hloaded : loadedEvent call ∈ past) :
    SavesFor admitted past (writePlan lib state call startedAt beforeRecord) := by
  have hupdate : ∀ missing, (updateTarget call.plan missing).Uses saveless fun _ => True := by
    intro missing
    unfold updateTarget
    split
    · exact uses_pure trivial
    · exact performs trivial
  have happly : (applyPlan call.tool call.plan).Uses saveless fun _ => True := by
    fun_cases applyPlan call.tool call.plan
    · exact performs trivial
    · exact hupdate _
    · exact hupdate _
    · exact uses_pure trivial
  refine safe_bind ((saveless_saves happly).mono ?_)
  rintro past' answer ⟨hextends, _⟩
  cases answer with
  | error err =>
    have hrefused : CalmRefusal (refuseUpstream state call err) := by
      unfold refuseUpstream
      split
      · exact calm_auditedError state call.tool _ _ _ _
      · exact calm_auditedError state call.tool _ _ _ _
    exact hrefused.saves
  | ok result =>
    refine consumeThen_saves (calm_auditedError state call.tool) ?_
    intro more now consumed hconsumed
    refine safe_perform trivial fun auditId => safe_perform trivial fun completedAt => ?_
    refine safe_bind ((saveless_saves ((refuses_addEvidence result.record _).mono
      (fun _ => saveless_of_refuses) fun _ => id)).mono ?_)
    rintro past'' receipt ⟨hextends', htool, hhash⟩
    refine settleReceipt_saves hadmitted ?_ (?_ : consumedEvent call now consumed ∈ _) htool hhash
    · exact hextends'.mem (List.mem_append_left _ (List.mem_append_left _
        (List.mem_append_left _ (hextends.mem hloaded))))
    · exact hextends'.mem (List.mem_append_left _ (List.mem_append_left _
        (List.mem_append_right _ hconsumed)))

/-- **Resource Plan calls are a family**, whose plans grow old. -/
theorem family (lib : PlanLib) (tool : String) :
    Family state true tool (IsFor tool) (handleResourcePlanApply lib state tool) where
  saves := by
    intro params
    refine Gate.safe_enter ((admitCall_admits tool params).mono ?_)
    rintro past call ⟨hadmitted, hloaded⟩
    refine Gate.safe_enter ((prepares_gate_saves (inspects_reserve call).prepares).mono ?_)
    rintro past₁ _ ⟨hextends₁, _⟩
    have hread : (readBefore call).Uses prepares CalmRefusal fun _ => True := by
      unfold readBefore
      split
      · split
        · exact Gate.uses_pure trivial
        · exact Gate.uses_trying (Daemon.uses_reading (fun _ => trivial) _)
            fun _ => uses_pure trivial
      · exact Gate.uses_pure trivial
    refine Gate.safe_enter ((prepares_gate_saves hread).mono ?_)
    rintro past₂ beforeRecord ⟨hextends₂, _⟩
    refine Gate.safe_enter ((prepares_gate_saves
      (inspects_confirm call beforeRecord).prepares).mono ?_)
    rintro past₃ startedAt ⟨hextends₃, _⟩
    exact writePlan_saves hadmitted (hextends₃.mem (hextends₂.mem (hextends₁.mem hloaded)))
  replays := by
    intro params params' call stored expiresAt tokenExpiresAt hadmitted hparams
    have hadmit : Passes call stored expiresAt tokenExpiresAt (Timely true call tokenExpiresAt)
        (Fit true) (admitCall state tool params') fun call' =>
          SameCall call call' ∧ Fit true call'.planRecord := by
      refine Gate.given_bind (passes_requireSwitchedOn (anyKillSwitch_off _)) fun _ _ => ?_
      refine Gate.given_bind (Gate.given_require hadmitted.enabled) fun _ _ => ?_
      refine passes_readArguments hadmitted hparams fun record hplan hfit => ?_
      have htool : decide (applyToolForPlanTool record.planJson.plan.tool = tool) = true := by
        rw [hplan.plan]
        exact decide_eq_true hadmitted.fits
      refine Gate.given_bind (Gate.given_require htool) fun _ _ => ?_
      exact Gate.given_pure ⟨sameCall_planned hparams hadmitted.call hplan, hfit⟩
    refine Gate.given_enter hadmit ?_
    rintro call' ⟨hsame, hfit⟩
    have hreplay : OnReplay call stored expiresAt tokenExpiresAt (Timely true call tokenExpiresAt)
        (Fit true) (Replayed stored) (replay state call' stored) :=
      replayReceipt_given (accepts_validateConfirmationBinding fun t ht => (ht rfl).1) hsame
    have hreserve : Passes call stored expiresAt tokenExpiresAt (Timely true call tokenExpiresAt)
        (Fit true) (reserve state call') fun _ => False := by
      refine Gate.given_bind (passes_timely hsame.plan hfit) fun _ _ => ?_
      exact Gate.given_bind (passes_checkKey hsame hreplay) fun _ hnever => hnever.elim
    exact Gate.given_enter hreserve fun _ hnever => hnever.elim

end ResourcePlanWrite

/-! ### Work notes -/

namespace WorkNoteWrite

/-- The plans of work notes. -/
def IsNote (plan : OperationPlan) : Prop := plan.tool = workNotePlanTool

theorem admitCall_admits (params : Value) :
    GateSavesFor (Admitted state workNoteApplyTool params IsNote) [] (admitCall state params)
      fun past call =>
        Admitted state workNoteApplyTool params IsNote call ∧ loadedEvent call ∈ past := by
  have hrefuse := calm_auditedWorkNoteError state
  refine Gate.safe_bind (Gate.safe_require (hrefuse _ _ _ _).saves fun henabled => ?_)
  refine readArguments_saves hrefuse ?_
  intro past planId token key planRecord hplanId htoken hkey hloaded
  refine Gate.safe_bind (Gate.safe_require trivial fun htool => ?_)
  have hnote : planRecord.planJson.plan.tool = workNotePlanTool := of_decide_eq_true htool
  exact Gate.safe_pure ⟨⟨henabled, hplanId, htoken, hkey, hnote, rfl⟩, hloaded⟩

theorem writeNote_saves {target : RecordRef} {text : String} (hadmitted : admitted call)
    (htool : call.tool = workNoteApplyTool)
    (hloaded : loadedEvent call ∈ past) :
    SavesFor admitted past (writeNote state call target text startedAt) := by
  have hrefuse := calm_auditedWorkNoteError state
  refine safe_perform trivial fun answer => ?_
  rcases answer.result with err | (_ | record)
  · exact (hrefuse _ _ _ _).saves
  · exact (hrefuse _ _ _ _).saves
  · refine consumeThen_saves hrefuse ?_
    intro more now consumed hconsumed
    refine safe_bind ((saveless_saves ((refuses_appendConfirmationAudit state _ _ _ _).mono
      (fun _ => saveless_of_refuses) fun _ => id)).mono ?_)
    rintro past' audited ⟨hextends, _⟩
    cases audited with
    | error err => trivial
    | ok _ =>
      refine safe_perform trivial fun auditId => safe_perform trivial fun completedAt => ?_
      refine settleReceipt_saves hadmitted ?_ (?_ : consumedEvent call now consumed ∈ _)
        htool.symm rfl
      · exact List.mem_append_left _ (List.mem_append_left _ (hextends.mem
          (List.mem_append_left _ (List.mem_append_left _ hloaded))))
      · exact List.mem_append_left _ (List.mem_append_left _ (hextends.mem
          (List.mem_append_right _ hconsumed)))

/-- A token of a work note is accepted at any instant. -/
theorem accepts_validate {timely : DateTime → Prop} {fit : PlanStoreRecord → Prop} :
    Accepts call stored expiresAt tokenExpiresAt timely fit validateConfirmationBinding := by
  intro row binding hbinding hrevoked _
  unfold validateConfirmationBinding
  rw [if_neg (by simp [hrevoked]), ConfirmationRecord.mismatch_eq_none.mpr hbinding]
  rfl

/-- **Work note calls are a family**, whose plans do not grow old. -/
theorem family : Family state false workNoteApplyTool IsNote (handleWorkNoteApplyAdd state) where
  saves := by
    intro params
    refine Gate.safe_enter ((admitCall_admits params).mono ?_)
    rintro past call ⟨hadmitted, hloaded⟩
    refine Gate.safe_enter ((prepares_gate_saves (prepares_prepare state call)).mono ?_)
    rintro past₁ ⟨target, text⟩ ⟨hextends₁, _⟩
    refine Gate.safe_enter ((prepares_gate_saves (inspects_markStarted call).prepares).mono ?_)
    rintro past₂ startedAt ⟨hextends₂, _⟩
    exact writeNote_saves hadmitted hadmitted.tool (hextends₂.mem (hextends₁.mem hloaded))
  replays := by
    intro params params' call stored expiresAt tokenExpiresAt hadmitted hparams
    have hadmit : Passes call stored expiresAt tokenExpiresAt (Timely false call tokenExpiresAt)
        (Fit false) (admitCall state params') (SameCall call) := by
      refine Gate.given_bind (Gate.given_require hadmitted.enabled) fun _ _ => ?_
      refine passes_readArguments hadmitted hparams fun record hplan _ => ?_
      have htool : decide (record.planJson.plan.tool = workNotePlanTool) = true := by
        rw [hplan.plan]
        exact decide_eq_true hadmitted.fits
      refine Gate.given_bind (Gate.given_require htool) fun _ _ => ?_
      exact Gate.given_pure (sameCall_planned hparams hadmitted.call hplan)
    refine Gate.given_enter hadmit fun call' hsame => ?_
    have hreplay : OnReplay call stored expiresAt tokenExpiresAt
        (Timely false call tokenExpiresAt) (Fit false) (Replayed stored)
        (replay state call' stored) := replayReceipt_given accepts_validate hsame
    have hreserve : Passes call stored expiresAt tokenExpiresAt (Timely false call tokenExpiresAt)
        (Fit false) (reserve state call') fun _ => False :=
      Gate.given_bind (passes_checkKey hsame hreplay) fun _ hnever => hnever.elim
    have hprepare : Passes call stored expiresAt tokenExpiresAt (Timely false call tokenExpiresAt)
        (Fit false) (prepare state call') fun _ => False :=
      Gate.given_bind hreserve fun _ hnever => hnever.elim
    exact Gate.given_enter hprepare fun _ hnever => hnever.elim

end WorkNoteWrite

end Families

/-! ## Runs -/

/-- The apply handlers, with the tool of those that have several. -/
inductive ApplyHandler where
  | change (tool : String)
  | resourcePlan (tool : String)
  | workNote
  | catalog
deriving DecidableEq

namespace ApplyHandler

/-- The tool whose keys a handler reserves. -/
def tool : ApplyHandler → String
  | change tool | resourcePlan tool => tool
  | workNote => WorkNoteWrite.workNoteApplyTool
  | catalog => CatalogWrite.catalogSubmitTool

/-- Whether a handler turns a replay away once its plan or its token has expired. -/
def ages : ApplyHandler → Bool
  | workNote => false
  | _ => true

/-- The handler. -/
def handle (lib : ResourcePlanWrite.PlanLib) (state : DaemonState) :
    ApplyHandler → Value → Handler JsonRpcResponse
  | change tool => ChangeWrite.handleChangeApply state tool
  | resourcePlan tool => ResourcePlanWrite.handleResourcePlanApply lib state tool
  | workNote => WorkNoteWrite.handleWorkNoteApplyAdd state
  | catalog => CatalogWrite.handleCatalogSubmitRequest state

/-- Every handler but the catalog's makes a family. -/
theorem family (lib : ResourcePlanWrite.PlanLib) (state : DaemonState) {handler : ApplyHandler}
    (h : handler ≠ catalog) :
    ∃ fits, Family state handler.ages handler.tool fits (handler.handle lib state) := by
  cases handler with
  | change tool => exact ⟨_, ChangeWrite.family tool⟩
  | resourcePlan tool => exact ⟨_, ResourcePlanWrite.family lib tool⟩
  | workNote => exact ⟨_, WorkNoteWrite.family⟩
  | catalog => exact absurd rfl h

end ApplyHandler

/-- The calls of the apply handlers, and any others. -/
inductive ApplyCall (Other : Type) where
  | apply (handler : ApplyHandler) (params : Value)
  | other (call : Other)
deriving DecidableEq

section Runs

variable {Other : Type}

/-- What the calls do. -/
def handleApply (lib : ResourcePlanWrite.PlanLib) (state : DaemonState)
    (others : Other → Handler JsonRpcResponse) : ApplyCall Other → Handler JsonRpcResponse
  | .apply handler params => handler.handle lib state params
  | .other call => others call

/-- Whether a call is an apply call made once more: of the same handler and tool, with the same
plan, token, key, actor and requester. -/
def Again (state : DaemonState) (handler : ApplyHandler) (params : Value) :
    ApplyCall Other → Prop
  | .apply handler' params' => handler' = handler ∧ SameArguments state params params'
  | .other _ => False

instance (state : DaemonState) (handler : ApplyHandler) (params : Value) :
    (call : ApplyCall Other) → Decidable (Again state handler params call)
  | .apply _ _ => inferInstanceAs (Decidable (_ ∧ _))
  | .other _ => .isFalse id

/-- A step that leaves alone the plan and the key of a call. -/
def LeavesCall (tool : String) (params : Value)
    (c : Config DaemonIO World (ApplyCall Other) JsonRpcResponse)
    (l : Label DaemonIO World (ApplyCall Other)) : Prop :=
  ∀ planId ∈ stringParam params "plan_id", ∀ key ∈ stringParam params "idempotency_key",
    LeavesAlone planId key tool c l

/-- A step that does not keep a receipt from a call: no kill switch is set, no statement fails,
the clock is inside the window of the key, and, where a call ages, before its token and its plan
expire, and the plan is not marked expired. -/
structure Granted (state : DaemonState) (ages : Bool) (tool : String) (params : Value)
    (c : Config DaemonIO World (ApplyCall Other) JsonRpcResponse)
    (l : Label DaemonIO World (ApplyCall Other)) : Prop where
  switched : ∀ ev ∈ l.event?, switchedOff ev = false
  faultless : Faultless state.crates c l
  inside : ∀ t ∈ readsClock l, ∀ key ∈ stringParam params "idempotency_key",
    ∀ record ∈ c.world.stores.idempotency.row (key, tool), t < record.expiresAt
  token : ages = true → ∀ t ∈ readsClock l, ∀ token ∈ stringParam params "confirmation_token",
    ∀ row ∈ c.world.stores.confirmations.row token, t < row.expiresAt
  plan : ages = true → ∀ planId ∈ stringParam params "plan_id",
    ∀ row ∈ c.world.stores.plans.row planId,
      row.state ≠ .expired ∧ ∀ t ∈ readsClock l, t < row.expiresAt

instance (state : DaemonState) (ages : Bool) (tool : String) (params : Value)
    (c : Config DaemonIO World (ApplyCall Other) JsonRpcResponse)
    (l : Label DaemonIO World (ApplyCall Other)) :
    Decidable (Granted state ages tool params c l) :=
  decidable_of_iff ((∀ ev ∈ l.event?, switchedOff ev = false) ∧ Faultless state.crates c l ∧
      (∀ t ∈ readsClock l, ∀ key ∈ stringParam params "idempotency_key",
        ∀ record ∈ c.world.stores.idempotency.row (key, tool), t < record.expiresAt) ∧
      (ages = true → ∀ t ∈ readsClock l, ∀ token ∈ stringParam params "confirmation_token",
        ∀ row ∈ c.world.stores.confirmations.row token, t < row.expiresAt) ∧
      (ages = true → ∀ planId ∈ stringParam params "plan_id",
        ∀ row ∈ c.world.stores.plans.row planId,
          row.state ≠ .expired ∧ ∀ t ∈ readsClock l, t < row.expiresAt))
    ⟨fun ⟨h₁, h₂, h₃, h₄, h₅⟩ => ⟨h₁, h₂, h₃, h₄, h₅⟩,
      fun ⟨h₁, h₂, h₃, h₄, h₅⟩ => ⟨h₁, h₂, h₃, h₄, h₅⟩⟩

/-- A step after which the receipt of a call is still to be had: it leaves the plan and the key of
the call alone, and does not keep the receipt from a call that comes once more. -/
def InWindow (state : DaemonState) (ages : Bool) (handler : ApplyHandler) (params : Value)
    (c : Config DaemonIO World (ApplyCall Other) JsonRpcResponse)
    (l : Label DaemonIO World (ApplyCall Other)) : Prop :=
  LeavesCall handler.tool params c l ∧ ∀ i ∈ l.task?, ∀ t ∈ c.tasks[i]?,
    Again state handler params t.call → Granted state ages handler.tool params c l

instance (tool : String) (params : Value)
    (c : Config DaemonIO World (ApplyCall Other) JsonRpcResponse)
    (l : Label DaemonIO World (ApplyCall Other)) : Decidable (LeavesCall tool params c l) :=
  inferInstanceAs (Decidable (∀ planId ∈ stringParam params "plan_id", _))

instance (state : DaemonState) (ages : Bool) (handler : ApplyHandler) (params : Value)
    (c : Config DaemonIO World (ApplyCall Other) JsonRpcResponse)
    (l : Label DaemonIO World (ApplyCall Other)) :
    Decidable (InWindow state ages handler params c l) := inferInstanceAs (Decidable (_ ∧ _))

/-- A call that is made once more: it has sent nothing to ServiceNow and is not about to, and
when it has returned it has answered with the receipt, marked as a replay. -/
def AnsweredAgain (receipt : OperationReceipt)
    (u : Task DaemonIO (ApplyCall Other) JsonRpcResponse) : Prop :=
  (∀ ev ∈ u.past, silent ev.1) ∧ (∀ e k, u.rest = .act e k → silent e) ∧
    ∀ response, u.rest = .pure response → Replayed receipt.reread response

variable {lib : ResourcePlanWrite.PlanLib} {state : DaemonState}
  {others : Other → Handler JsonRpcResponse} {world : World}
  {allowed : Config DaemonIO World (ApplyCall Other) JsonRpcResponse →
    Label DaemonIO World (ApplyCall Other) → Prop}
  {c c' : Config DaemonIO World (ApplyCall Other) JsonRpcResponse}

variable {l : Label DaemonIO World (ApplyCall Other)} {tool : String} {params : Value}
  {fits : OperationPlan → Prop} {call : PlannedCall}

theorem LeavesCall.leavesAlone (h : LeavesCall tool params c l)
    (hadmitted : Admitted state tool params fits call) :
    LeavesAlone call.planId call.key call.tool c l := by
  rw [hadmitted.tool]
  exact h _ hadmitted.planId _ hadmitted.key

/-- What a step that does not keep a receipt from a call shows of it. -/
theorem Granted.shows {ages : Bool} {expiresAt tokenExpiresAt : DateTime}
    (h : Granted state ages tool params c l)
    (hadmitted : Admitted state tool params fits call)
    (hthere : Replayable call receipt expiresAt tokenExpiresAt c) :
    Shows state.crates call.planId expiresAt (Timely ages call tokenExpiresAt) (Fit ages) c l := by
  obtain ⟨record, hrow, _, _, rfl⟩ := hthere.key
  obtain ⟨token, htoken, _, _, rfl⟩ := hthere.token
  obtain ⟨plan, hplan, hsame⟩ := hthere.plan
  rw [hadmitted.tool] at hrow
  refine ⟨h.switched, h.faultless, fun t ht => ⟨?_, fun hages => ⟨?_, ?_⟩⟩, ?_⟩
  · exact h.inside t ht _ hadmitted.key record hrow
  · exact h.token hages t ht _ hadmitted.token token htoken
  · rw [← hsame.expiry]
    exact (h.plan hages _ hadmitted.planId plan hplan).2 t ht
  · intro row hrow hages
    exact (h.plan hages _ hadmitted.planId row hrow).1

/-- A receipt that a call of a family has saved is of an admitted call. -/
theorem saved_for {handler : ApplyHandler}
    (hfamily : Family state handler.ages handler.tool fits (handler.handle lib state))
    (hrun : Run (daemon state.crates (handleApply lib state others)) allowed world c)
    {i : Nat} {t : Task DaemonIO (ApplyCall Other) JsonRpcResponse} (ht : c.tasks[i]? = some t)
    (hcall : t.call = .apply handler params)
    (hsaved : savedEvent key receipt ∈ t.past) :
    SavedFor (Admitted state handler.tool params fits) t.past key receipt := by
  have hsafe : SavesFor (Admitted state handler.tool params fits) []
      (handleApply lib state others t.call) := by
    rw [hcall]
    exact hfamily.saves params
  refine hrun.past_invariant ht (E := fun _ _ _ => True) (I := fun past => ∀ key receipt,
    savedEvent key receipt ∈ past → SavedFor _ past key receipt) hsafe ?_ ?_ key receipt hsaved
  · intro key receipt hmem
    cases hmem
  · intro past e r hpast hpermitted key receipt hmem
    rcases List.mem_append.mp hmem with hmem | hmem
    · exact (hpast key receipt hmem).append _
    · cases List.mem_singleton.mp hmem
      exact SavedFor.append hpermitted _

/-- **A finished write is replayed in its window.**  In every run of apply calls and any others,
however they interleave, in which no step replaces the plan, the key or the receipt of a call that
has saved its receipt: the same call once more, at any later time, sends nothing to ServiceNow and
answers with that receipt, marked as a replay, as long as it comes inside the window of its key
and, unless it is a work note, before its plan and its token expire.  A catalog order is not
replayed. -/
theorem finished_write_replayed {handler : ApplyHandler} (hcatalog : handler ≠ .catalog)
    (hrun : Run (daemon state.crates (handleApply lib state others))
      (LeavesCall handler.tool params) world c)
    {i : Nat} {t : Task DaemonIO (ApplyCall Other) JsonRpcResponse} (ht : c.tasks[i]? = some t)
    (hcall : t.call = .apply handler params) {key : String} {receipt : OperationReceipt}
    (hsaved : savedEvent key receipt ∈ t.past)
    (hleads : Leads (daemon state.crates (handleApply lib state others))
      (InWindow state handler.ages handler params) c c')
    {j : Nat} {u : Task DaemonIO (ApplyCall Other) JsonRpcResponse} (hj : c.tasks.length ≤ j)
    (hu : c'.tasks[j]? = some u) (hagain : Again state handler params u.call) :
    AnsweredAgain receipt u := by
  obtain ⟨fits, hfamily⟩ := ApplyHandler.family lib state hcatalog
  obtain ⟨call, now, consumed, hadmitted, hloaded, hconsumed, rfl, htool, hhash⟩ :=
    saved_for hfamily hrun ht hcall hsaved
  obtain ⟨expiresAt, tokenExpiresAt, hreplayable⟩ := run_replayable hrun ht
    (fun _ hl _ => hl.leavesAlone hadmitted) hloaded hconsumed hsaved htool hhash
  have hfinds := hreplayable.leads
    (fun hthere hl htask ht hsame => (hl.2 _ htask _ ht (hsame ▸ hagain)).shows hadmitted hthere)
    (fun _ hl _ => hl.1.leavesAlone hadmitted) hleads hj hu
  have hreplays : OnReplay call receipt.reread expiresAt tokenExpiresAt
      (Timely handler.ages call tokenExpiresAt) (Fit handler.ages) (Replayed receipt.reread)
      (handleApply lib state others u.call) := by
    cases hother : u.call with
    | other call' =>
      rw [hother] at hagain
      exact hagain.elim
    | apply handler' params' =>
      rw [hother] at hagain
      obtain ⟨rfl, hparams⟩ := hagain
      exact hfamily.replays hadmitted hparams
  have hwhole : Run (daemon state.crates (handleApply lib state others)) (fun _ _ => True) world
      c' := hleads.run (fun _ _ _ => trivial) (hrun.mono fun _ _ _ => trivial)
  obtain ⟨hpast, hrest⟩ := hwhole.given hu hreplays hfinds
  refine ⟨hpast, fun e k hnext => ?_, fun response hreturned => ?_⟩
  · rw [hnext] at hrest
    exact hrest.1
  · rw [hreturned] at hrest
    exact hrest

end Runs

/-! ## Sample runs -/

/-- A daemon whose clock stands still at an instant. -/
def atClock {Call : Type} (t : DateTime) (lib : Crates) (handle : Call → Handler JsonRpcResponse)
    (snow : ScriptedServiceNow) : Player (daemon lib handle) where
  answer w e :=
    match e with
    | .now => some (t, { w with clock := t })
    | e => (scripted lib handle snow).answer w e
  sound := by
    intro w e r w' h
    cases e with
    | now =>
      cases h
      rfl
    | _ => exact (scripted lib handle snow).sound h

/-- The sample calls: apply calls, and no others. -/
abbrev SampleCall := ApplyCall Empty

/-- What the sample calls do. -/
def handleSample (state : DaemonState) : SampleCall → Handler JsonRpcResponse :=
  handleApply ResourcePlanWrite.plainPlanLib state nofun

/-- The arguments of the sample calls. -/
def sampleParams : Value :=
  obj [("plan_id", .string "plan-1"), ("confirmation_token", .string "token-1"),
    ("idempotency_key", .string "key-1")]

/-- The receipt that an event has saved, with its key. -/
def hasSaved : Event DaemonIO → Option (String × OperationReceipt)
  | ⟨.store (.saveReceipt key receipt), .ok ()⟩ => some (key, receipt)
  | _ => none

theorem hasSaved_eq_some {ev : Event DaemonIO}
    (h : hasSaved ev = some (key, receipt)) : ev = savedEvent key receipt := by
  unfold hasSaved at h
  split at h
  · cases h
    rfl
  · cases h

/-- The message of an error. -/
def errorMessage : JsonRpcResponse → Option String
  | .error err => some err.message
  | .ok _ => none

/-- Plays a sample call, and once it has saved its receipt the same call once more, with the clock
at an instant. -/
def playTwice (state : DaemonState) (world : World) (handler : ApplyHandler) (ages : Bool)
    (t : DateTime) : Option (List (Bool × List String) × Option (Bool × Option (Option String))) :=
  let call : SampleCall := .apply handler sampleParams
  (play (LeavesCall handler.tool sampleParams)
      (scripted state.crates (handleSample state) sampleServiceNow) 50 ⟨world, [], none⟩
      [.call call, .resume 0]).bind fun c =>
    (play (InWindow state ages handler sampleParams)
        (atClock t state.crates (handleSample state) sampleServiceNow) 50 c [.call call]).map
      fun c' => (c.tasks.map fun t => (decide (t.call = call),
          (t.past.filterMap hasSaved).map Prod.fst),
        c'.tasks[1]?.map fun u => (decide (u.call = call), u.rest.value.map errorMessage))

/-- A call that has saved its receipt, and the answer of the same call once more. -/
def AnswersTwice (state : DaemonState) (world : World) (handler : ApplyHandler) (ages : Bool)
    (answered : OperationReceipt → JsonRpcResponse → Prop) : Prop :=
  ∃ (c : Config DaemonIO World SampleCall JsonRpcResponse)
    (t : Task DaemonIO SampleCall JsonRpcResponse) (receipt : OperationReceipt)
    (c' : Config DaemonIO World SampleCall JsonRpcResponse)
    (u : Task DaemonIO SampleCall JsonRpcResponse) (response : JsonRpcResponse),
    Run (daemon state.crates (handleSample state)) (LeavesCall handler.tool sampleParams) world c ∧
      c.tasks = [t] ∧ t.call = .apply handler sampleParams ∧
      savedEvent "key-1" receipt ∈ t.past ∧
      Leads (daemon state.crates (handleSample state)) (InWindow state ages handler sampleParams)
        c c' ∧
      c'.tasks[1]? = some u ∧ Again state handler sampleParams u.call ∧
      u.rest = .pure response ∧ answered receipt response

theorem answersTwice_of_playTwice {state : DaemonState} {world : World} {handler : ApplyHandler}
    {ages : Bool} {t : DateTime} {answer : Option String}
    (h : playTwice state world handler ages t =
      some ([(true, ["key-1"])], some (true, some answer))) :
    AnswersTwice state world handler ages fun _ response => errorMessage response = answer := by
  obtain ⟨c, hc, h⟩ := Option.bind_eq_some_iff.mp h
  obtain ⟨c', hc', hseen⟩ := Option.map_eq_some_iff.mp h
  obtain ⟨hfirst, hsecond⟩ := Prod.mk.inj hseen
  obtain ⟨t, htasks, ht⟩ := List.map_eq_singleton_iff.mp hfirst
  obtain ⟨hcall, hsaved⟩ := Prod.mk.inj ht
  obtain ⟨⟨key, receipt⟩, hfiltered, rfl⟩ := List.map_eq_singleton_iff.mp hsaved
  obtain ⟨ev, hev, hsaved⟩ := List.mem_filterMap.mp (hfiltered ▸ List.mem_singleton_self _)
  obtain ⟨u, hu, hseen⟩ := Option.map_eq_some_iff.mp hsecond
  obtain ⟨hsame, hanswer⟩ := Prod.mk.inj hseen
  obtain ⟨response, hresponse, hmessage⟩ := Option.map_eq_some_iff.mp hanswer
  refine ⟨c, t, receipt, c', u, response, play_run .start hc, htasks, of_decide_eq_true hcall,
    hasSaved_eq_some hsaved ▸ hev, play_leads .refl hc', hu, ?_, eq_pure_of_value hresponse,
    hmessage⟩
  rw [of_decide_eq_true hsame]
  exact ⟨rfl, .refl state sampleParams⟩

/-- A change that is applied, and applied once more at once. -/
theorem finished_write_replayed_at_once :
    AnswersTwice ChangeWrite.changeState ChangeWrite.plannedWorld
      (.change "change_request_apply_create") true fun receipt response =>
        response = .ok (.receipt { receipt.reread with idempotencyReplay := true }) := by
  have hplay : playTwice ChangeWrite.changeState ChangeWrite.plannedWorld
      (.change "change_request_apply_create") true newYear =
        some ([(true, ["key-1"])], some (true, some none)) := by decide +kernel
  obtain ⟨c, t, receipt, c', u, response, hrun, htasks, hcall, hsaved, hleads, hu, hagain, hrest,
    _⟩ := answersTwice_of_playTwice hplay
  have hreplayed := finished_write_replayed (by decide) hrun (i := 0) (by rw [htasks]; rfl) hcall
    hsaved hleads (j := 1) (by rw [htasks]; exact le_refl 1) hu hagain
  exact ⟨c, t, receipt, c', u, response, hrun, htasks, hcall, hsaved, hleads, hu, hagain, hrest,
    hreplayed.2.2 response hrest⟩

/-- **A finished write is not replayed in the window of its key.**  A change that comes once more
700 seconds after its plan was made, a day before its key expires, is told that its plan has
expired; a catalog order that comes once more at once is told that its plan is not pending. -/
theorem finished_write_not_replayed :
    AnswersTwice ChangeWrite.changeState ChangeWrite.plannedWorld
        (.change "change_request_apply_create") false
        (fun _ response => errorMessage response = some "PLAN_EXPIRED") ∧
      AnswersTwice CatalogWrite.catalogState CatalogWrite.plannedWorld .catalog true
        (fun _ response => errorMessage response = some "PLAN_NOT_PENDING") := by
  constructor
  · exact answersTwice_of_playTwice (t := newYear + durationSeconds 700) (by decide +kernel)
  · exact answersTwice_of_playTwice (t := newYear) (by decide +kernel)

end SnowAgent
