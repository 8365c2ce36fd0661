import SnowAgent.PlanRows
import SnowAgent.ResourcePlanApply

/-! # The version a Resource Plan is changed at

A plan for a Resource Plan keeps the version of the row it was made from, and the apply call
compares it with the version of the row it reads.  Where one of the two rows has no
`sys_updated_on`, or the second is not there, nothing is compared; where both have one, a PATCH is
sent only to the version that was confirmed.
-/
namespace SnowAgent

open Json Text Interleaving Program

namespace ResourcePlanWrite

/-! ## What a call has read -/

variable {found : Option SnowRecord} {asked : Option String} {ev : Event DaemonIO}

/-- The row of a Resource Plan that an event reads, if it is there, and the `sys_id` it is read
by, if it is. -/
def rowRead : Event DaemonIO → Option (Option String × Option SnowRecord)
  | ⟨.read (.recordByTable _ sysId), .ok found⟩ => some (some sysId, found)
  | ⟨.read (.recordFresh _), .ok found⟩ => some (none, found)
  | _ => none

/-- The row of a Resource Plan that a call has read. -/
def firstRead (past : List (Event DaemonIO)) : Option (Option String × Option SnowRecord) :=
  past.findSome? rowRead

/-- What is read first stays read. -/
theorem firstRead_append {past : List (Event DaemonIO)} (h : firstRead past = some (asked, found))
    (more : List (Event DaemonIO)) :
    firstRead (past ++ more) = some (asked, found) := by
  unfold firstRead at h ⊢
  rw [List.findSome?_append, h, Option.some_or]

/-- The first read of a call that has read nothing. -/
theorem firstRead_new {past : List (Event DaemonIO)} (hnone : firstRead past = none) :
    firstRead (past ++ [ev]) = rowRead ev := by
  unfold firstRead at hnone ⊢
  rw [List.findSome?_append, hnone, Option.none_or, List.findSome?_singleton]

/-- The version of a row, as ServiceNow has it: its `sys_updated_on` and its `sys_mod_count`. -/
def versionOf (row : SnowRecord) : Option String × Option String :=
  ((row.fields.get "sys_updated_on").map FieldValue.value,
    (row.fields.get "sys_mod_count").map FieldValue.value)

/-- A plan is made from a row: it is for that row, at its version, and a decision is made on a
row in the state Requested. -/
structure MadeFrom (plan : PlanStoreRecord) (row : SnowRecord) : Prop where
  target : plan.planJson.plan.target = some row.ref
  version : plan.concurrencyToken = concurrencyFromRecord row
  requested : plan.planJson.plan.tool = PlanTool.decision.name →
    resourcePlanStateFromRecord row = some .requested

/-- A plan passes the version check against what was found. -/
def Checked (plan : PlanStoreRecord) (found : Option SnowRecord) : Prop :=
  ∀ expected ∈ plan.concurrencyToken, ∀ row ∈ found,
    ∀ observed ∈ concurrencyFromRecord row, observed = expected

/-- A call has loaded a plan that passes the version check against what it has read by the
`sys_id` of the plan's target. -/
def PatchChecked (past : List (Event DaemonIO)) : Prop :=
  ∃ plan target found, loaded past = some plan ∧ plan.planJson.plan.target = some target ∧
    firstRead past = some (some target.sysId, found) ∧ Checked plan found

theorem PatchChecked.append {past : List (Event DaemonIO)} (h : PatchChecked past)
    (more : List (Event DaemonIO)) : PatchChecked (past ++ more) := by
  obtain ⟨plan, target, found, hloaded, htarget, hread, hchecked⟩ := h
  exact ⟨plan, target, found, loaded_append hloaded more, htarget, firstRead_append hread more,
    hchecked⟩

/-- A call stores a plan that is made from the row it has read; if it applies a plan it sends a
PATCH once that is checked, and otherwise none. -/
def sendsChecked (applies : Bool) (past : List (Event DaemonIO)) : DaemonAct → Prop
  | .store (.putPlan plan) =>
    ∃ asked row, firstRead past = some (asked, some row) ∧ MadeFrom plan row
  | .write _ (.updateResourcePlan _ _) => applies = true ∧ PatchChecked past
  | _ => True

/-! ## What the calls do -/

variable {row : SnowRecord}

section Stages

/-- The actions but the writes and the storing of plans. -/
def settles : DaemonAct → Prop
  | .write _ _ | .store (.putPlan _) => False
  | _ => True

variable {e : DaemonAct}

theorem settles_of_calm (h : calm e) : settles e := by
  cases e with
  | write => exact h
  | store call => cases call <;> first | exact h | trivial
  | _ => trivial

variable {applies : Bool}

theorem sendsChecked_of_settles {past : List (Event DaemonIO)} (h : settles e) :
    sendsChecked applies past e := by
  cases e with
  | write => exact absurd h id
  | store call => cases call <;> first | exact absurd h id | trivial
  | _ => trivial

theorem sendsChecked_of_inspects {past : List (Event DaemonIO)}
    (h : inspects e) : sendsChecked applies past e :=
  sendsChecked_of_settles (settles_of_calm (calm_of_prepares (prepares_of_inspects h)))

theorem inspects_shows (h : inspects e) (r : e.Ans) :
    rowLoaded ⟨e, r⟩ = none ∧ rowRead ⟨e, r⟩ = none := by
  cases e with
  | read => exact absurd h id
  | store call => cases call <;> first | exact absurd h id | exact ⟨rfl, rfl⟩
  | _ => exact ⟨rfl, rfl⟩

/-- What is left of a call may do anything but write and store a plan. -/
abbrev Settled (p : Handler JsonRpcResponse) : Prop := p.Uses settles fun _ => True

/-- A call that is sent off safely. -/
abbrev SafeCall (applies : Bool) (past : List (Event DaemonIO)) (p : Handler JsonRpcResponse) :
    Prop :=
  Safe (trace DaemonIO) (sendsChecked applies) p past fun _ _ => True

variable {p : Handler JsonRpcResponse}

theorem Settled.of_calm (h : CalmRefusal p) : Settled p :=
  h.mono (fun _ he => settles_of_calm (calm_of_refuses he)) fun _ => id

theorem Settled.safe (h : Settled p) (past : List (Event DaemonIO)) : SafeCall applies past p :=
  (uses_extends h (fun _ _ => sendsChecked_of_settles) past).mono fun _ _ _ => trivial

/-- A gate is safe, and ends as promised. -/
abbrev SafeGate {A : Type} (applies : Bool) (past : List (Event DaemonIO)) (gate : Gate A)
    (R : List (Event DaemonIO) → A → Prop) : Prop :=
  gate.Safe (trace DaemonIO) (sendsChecked applies) past (fun _ _ => True) R

/-- A gate that inspects leaves what is loaded and what is read. -/
theorem inspects_keeps {A : Type} {R : A → Prop} {gate : Gate A}
    (hgate : gate.Uses inspects CalmRefusal R) (past : List (Event DaemonIO)) :
    SafeGate applies past gate fun past' a =>
      (loaded past' = loaded past ∧ firstRead past' = firstRead past) ∧ R a := by
  refine Gate.Safe.mono (hgate.extends (fun _ _ => sendsChecked_of_inspects)
    fun past' p _ hp => (Settled.of_calm hp).safe past') ?_
  rintro past' a ⟨h, ha⟩
  exact ⟨⟨h.findSome? fun e r he => (inspects_shows he r).1,
    h.findSome? fun e r he => (inspects_shows he r).2⟩, ha⟩

section Calls

variable (lib : PlanLib) (state : DaemonState) (tool : String)

theorem calm_auditedError (code : Int) (message : String) (data : Value)
    (status : ResultStatus) : CalmRefusal (auditedError state tool code message data status) :=
  calm_refuse (trail state) state tool status _ _

theorem calm_rpcError (code : Int) (message : String) (data : Value) (status : ResultStatus) :
    CalmRefusal (rpcError code message data status) :=
  uses_pure trivial

/-! ### A plan call -/

variable {args : List (String × Value)} {input : PlanInput}

theorem inspects_built {A : Type} (result : Except PlanBuildError A) :
    (built result).Uses inspects CalmRefusal fun a => result = .ok a := by
  cases result with
  | ok a => exact Gate.uses_pure rfl
  | error err => exact Gate.uses_answer (uses_pure trivial)

theorem inspects_readInput (tool : PlanTool) (params : Value) :
    (readInput state tool params).Uses inspects CalmRefusal fun _ => True := by
  refine Gate.uses_bind (Gate.uses_require (calm_rpcError _ _ _ _)) fun _ _ => ?_
  refine Gate.uses_bind (Gate.uses_require (calm_rpcError _ _ _ _)) fun _ _ => ?_
  refine Gate.uses_bind (Gate.uses_require? (calm_rpcError _ _ _ _)) fun args _ => ?_
  refine Gate.uses_bind (Gate.uses_require (calm_rpcError _ _ _ _)) fun _ _ => ?_
  exact Gate.uses_pure trivial

/-- A plan is made from the row that is read for it. -/
structure InputFrom (tool : PlanTool) (input : PlanInput) (row : SnowRecord) : Prop where
  target : input.target = row.ref
  version : input.concurrencyToken = concurrencyFromRecord row
  requested : tool = .decision → resourcePlanStateFromRecord row = some .requested

theorem updateInput_from {policy : PolicyConfig}
    (h : updateInput lib policy args row = .ok input) :
    InputFrom .update input row := by
  unfold updateInput at h
  obtain ⟨_, _, h⟩ := bind_eq_ok_iff.mp h
  dsimp only at h
  split at h
  · cases h
  · obtain ⟨payload, _, h⟩ := bind_eq_ok_iff.mp h
    split at h
    · cases h
    · cases h
      exact ⟨rfl, rfl, nofun⟩

theorem decisionInput_from {decision : ResourcePlanDecision}
    (h : decisionInput decision row = .ok input) :
    InputFrom .decision input row := by
  unfold decisionInput at h
  obtain ⟨_, _, h⟩ := bind_eq_ok_iff.mp h
  dsimp only at h
  split at h
  · cases h
  · rename_i hstate
    cases h
    exact ⟨rfl, rfl, fun _ => not_not.mp hstate⟩

variable {lib state} {past : List (Event DaemonIO)}

/-- A row that is read, or the answer of the call. -/
theorem built_row {err : PlanBuildError} (hread : firstRead past = some (asked, found)) :
    SafeGate applies past
      (built (match found with | some record => .ok record | none => .error err)) fun past row =>
        ∃ asked, firstRead past = some (asked, some row) := by
  cases found with
  | none => exact Gate.safe_answer trivial
  | some row => exact ⟨asked, hread⟩

/-- What a plan call selects is the row it has read. -/
theorem readSelected_reads (hnone : firstRead past = none) :
    SafeGate applies past (readSelected args) fun past row =>
      ∃ asked, firstRead past = some (asked, some row) := by
  unfold readSelected
  split
  · refine Gate.safe_bind ((inspects_keeps (inspects_built _) past).mono ?_)
    rintro past sysId ⟨⟨_, hkept⟩, _⟩
    rw [hnone] at hkept
    refine Gate.safe_bind (Gate.safe_trying ⟨trivial, fun answer => ?_⟩)
    rcases answer with text | found
    · trivial
    · exact built_row (firstRead_new hkept)
  · refine Gate.safe_bind ((inspects_keeps (inspects_built _) past).mono ?_)
    rintro past number ⟨⟨_, hkept⟩, _⟩
    rw [hnone] at hkept
    refine Gate.safe_bind (Gate.safe_trying ⟨trivial, fun answer => ?_⟩)
    rcases answer with text | found
    · trivial
    · exact built_row (firstRead_new hkept)

/-- A plan is built from the row it is read for. -/
theorem built_from {tool : PlanTool} {result : Except PlanBuildError PlanInput}
    (hrow : ∃ asked, firstRead past = some (asked, some row))
    (hfrom : ∀ input, result = .ok input → InputFrom tool input row) :
    SafeGate applies past (built result) fun past input =>
      ∃ asked row, firstRead past = some (asked, some row) ∧ InputFrom tool input row := by
  refine (inspects_keeps (inspects_built result) past).mono ?_
  rintro past' input ⟨⟨_, hkept⟩, hresult⟩
  obtain ⟨asked, hread⟩ := hrow
  exact ⟨asked, row, hkept.trans hread, hfrom input hresult⟩

theorem buildPlanInput_reads {tool : PlanTool} (hnone : firstRead past = none) :
    SafeGate applies past (buildPlanInput lib state tool args) fun past input =>
      ∃ asked row, firstRead past = some (asked, some row) ∧ InputFrom tool input row := by
  cases tool with
  | update =>
    refine Gate.safe_bind (Gate.safe_require ((Settled.of_calm (uses_pure trivial)).safe past)
      fun _ => ?_)
    refine Gate.safe_bind ((readSelected_reads hnone).mono fun past row hrow => ?_)
    exact built_from hrow fun input => updateInput_from lib
  | decision =>
    refine Gate.safe_bind ((inspects_keeps (inspects_built _) past).mono ?_)
    rintro past number ⟨⟨_, hkept₁⟩, _⟩
    refine Gate.safe_bind ((inspects_keeps (inspects_built _) past).mono ?_)
    rintro past name ⟨⟨_, hkept₂⟩, _⟩
    refine Gate.safe_bind ((inspects_keeps (inspects_built _) past).mono ?_)
    rintro past decision ⟨⟨_, hkept₃⟩, _⟩
    rw [hkept₂, hkept₁, hnone] at hkept₃
    refine Gate.safe_bind (Gate.safe_trying ⟨trivial, fun answer => ?_⟩)
    rcases answer with text | found
    · trivial
    · refine Gate.safe_bind ((built_row (firstRead_new hkept₃)).mono fun past row hrow => ?_)
      exact built_from hrow fun input => decisionInput_from

theorem inspects_reservePlanned (plan : OperationPlan) (applyTool key : String) :
    (reservePlanned state plan applyTool key).Uses inspects CalmRefusal fun _ => True := by
  refine Gate.uses_bind (Gate.uses_trying (performs trivial)
    fun _ => uses_pure trivial) fun _ _ => ?_
  refine Gate.uses_bind (Gate.uses_trying (uses_perform trivial
    fun _ => performs trivial) fun _ => uses_pure trivial)
    fun outcome _ => ?_
  cases outcome with
  | newKey => exact Gate.uses_pure trivial
  | conflict => exact Gate.uses_answer (calm_rpcError _ _ _ _)
  | replay => exact Gate.uses_answer (uses_pure trivial)
  | pending => exact Gate.uses_answer (uses_pure trivial)

/-- A plan that is made from the row the call has read is stored. -/
theorem storePlanned_safe {plan : OperationPlan} {applyTool requester : String}
    {record : PlanStoreRecord}
    (hmade : ∃ asked row, firstRead past = some (asked, some row) ∧ MadeFrom record row) :
    SafeGate applies past (storePlanned state plan applyTool record requester) fun _ _ => True := by
  have hinternal : ∀ text, Settled (Pure.pure (internalError text)) := fun _ => uses_pure trivial
  have haudit : ∀ note, ((trail state).append state note).Uses settles fun _ => True :=
    fun note => (calm_append (trail state) state note).mono (fun _ => settles_of_calm) fun _ => id
  have hissue : ∀ planId binding seconds,
      (Daemon.issueConfirmation planId binding seconds).Uses settles fun _ => True :=
    fun planId binding seconds => uses_perform trivial
      fun _ => uses_perform trivial fun _ =>
        performs trivial
  refine Gate.safe_bind (Gate.safe_trying ⟨hmade, fun answer => ?_⟩)
  cases answer with
  | error text => trivial
  | ok _ =>
    have hrest : (do
        let _ ← Gate.trying ((trail state).append state
          (AuditNote.step plan.planId none plan.tool (some plan.plannedChanges) record.actor
            requester))
        Gate.trying (Daemon.issueConfirmation plan.planId
          { actor := record.actor
            requester := requester
            tool := applyTool
            opHash := plan.opHash
            environment := state.environment.label } planTtlSeconds) :
        Gate ConfirmationRecord).Uses settles Settled fun _ => True :=
      Gate.uses_bind (Gate.uses_trying (haudit _) hinternal) fun _ _ =>
        Gate.uses_trying (hissue _ _ _) hinternal
    exact Gate.Safe.mono (hrest.extends (fun _ _ => sendsChecked_of_settles)
      fun past' p _ hp => hp.safe past') fun _ _ _ => trivial

/-- **A plan call stores what it has read.**  The plan it stores is made from the row it read. -/
theorem handleResourcePlanPlan_safe (tool : PlanTool) (params : Value) :
    SafeCall applies [] (handleResourcePlanPlan lib state tool params) := by
  have hplain : ∀ (past : List (Event DaemonIO)) (e : DaemonAct), inspects e →
      SafeGate applies past (Gate.doing (.perform (S := DaemonIO) e)) fun past' _ =>
        firstRead past' = firstRead past := fun past e he =>
    (inspects_keeps (Gate.uses_doing (performs he)) past).mono fun _ _ h => h.1.2
  have hplan : SafeGate applies [] (planChange lib state tool params) fun _ _ => True := by
    refine Gate.safe_bind ((inspects_keeps (inspects_readInput state tool params) []).mono ?_)
    rintro past args ⟨⟨_, hnone⟩, _⟩
    refine Gate.safe_bind ((buildPlanInput_reads hnone).mono ?_)
    rintro past input ⟨asked, row, hread, hinput⟩
    refine Gate.safe_bind ((hplain past .uuid trivial).mono fun past₁ planId h₁ => ?_)
    refine Gate.safe_bind ((hplain past₁ .now trivial).mono fun past₂ now h₂ => ?_)
    refine Gate.safe_bind ((hplain past₂ .uuid trivial).mono fun past₃ key h₃ => ?_)
    refine Gate.safe_bind ((inspects_keeps (inspects_reservePlanned _ _ key) past₃).mono
      fun past₄ _ h₄ => ?_)
    have hkept : firstRead past₄ = some (asked, some row) := by
      rw [h₄.1.2, h₃, h₂, h₁, hread]
    refine Gate.safe_bind ((storePlanned_safe ⟨asked, row, hkept, ?_⟩).mono fun _ _ _ => ?_)
    · refine ⟨?_, hinput.version, fun htool => hinput.requested ?_⟩
      · show some input.target = some row.ref
        rw [hinput.target]
      · cases tool with
        | decision => rfl
        | update => exact absurd (show PlanTool.update.name = _ from htool) (by decide)
    · exact Gate.safe_pure trivial
  exact Gate.safe_enter (hplan.mono fun _ _ _ => trivial)

/-! ### An apply call -/

variable (call : PlannedCall) (startedAt : DateTime)

variable (beforeRecord : Option SnowRecord) (params : Value)

theorem calm_replay (receipt : OperationReceipt) : CalmRefusal (replay state call receipt) :=
  calm_replayReceipt (calm_auditedError state call.tool)
    inspects_validateConfirmationBinding call receipt

theorem inspects_reserve : (reserve state call).Uses inspects CalmRefusal fun _ => True := by
  have hrefuse := calm_auditedError state call.tool
  have hpending : ∀ p ∈ some (pendingResolutionRequired state call), ∀ record,
      CalmRefusal (p record) := by
    rintro p hp record
    obtain rfl := Option.mem_some.mp hp
    exact hrefuse _ _ _ _
  refine Gate.uses_bind (inspects_rejectExpired hrefuse call _) fun _ _ => ?_
  refine Gate.uses_bind (inspects_checkKey hrefuse (calm_replay call) _ hpending call) fun _ _ => ?_
  refine Gate.uses_bind (inspects_reserveKey (calm_replay call) (hrefuse _ _ _ _) _ call)
    fun _ _ => ?_
  exact (Gate.uses_require (hrefuse _ _ _ _)).mono (fun _ => id) (fun _ => id) fun _ _ => trivial

theorem inspects_confirm :
    (confirm state call beforeRecord).Uses inspects CalmRefusal fun _ =>
      Checked call.planRecord beforeRecord := by
  have hrefuse := calm_auditedError state call.tool
  refine Gate.uses_bind (inspects_checkConcurrency hrefuse call beforeRecord) fun _ hchecked => ?_
  refine Gate.uses_bind (inspects_checkToken hrefuse inspects_validateConfirmation
    (fun _ => hrefuse _ _ _ _) call) fun _ _ => ?_
  exact (inspects_markStarted call).mono (fun _ => id) (fun _ => id) fun _ _ => hchecked

/-- A call that is admitted has loaded its plan, and read nothing. -/
theorem admitCall_loads :
    SafeGate true [] (admitCall state tool params) fun past call =>
      call.tool = tool ∧ loaded past = some call.planRecord ∧ firstRead past = none := by
  have hrefuse : ∀ code message data status, CalmRefusal (auditedError state tool code message
      data status) := calm_auditedError state tool
  have hsafe : ∀ past code message data status, SafeCall true past
      (auditedError state tool code message data status) := fun past _ _ _ _ =>
        (Settled.of_calm (hrefuse _ _ _ _)).safe past
  refine Gate.safe_bind ((inspects_keeps (inspects_requireSwitchedOn hrefuse
    (inspects_anyKillSwitch _)) []).mono ?_)
  rintro past _ ⟨⟨hloaded, hread⟩, _⟩
  refine Gate.safe_bind (Gate.safe_require (hsafe _ _ _ _ _) fun _ => ?_)
  refine Gate.safe_bind (Gate.safe_require? (hsafe _ _ _ _ _) fun planId _ => ?_)
  refine Gate.safe_bind (Gate.safe_require? (hsafe _ _ _ _ _) fun token _ => ?_)
  refine Gate.safe_bind (Gate.safe_require? (hsafe _ _ _ _ _) fun key _ => ?_)
  refine Gate.safe_bind (Gate.safe_bind (Gate.safe_trying ⟨trivial, fun opened => ?_⟩))
  cases opened with
  | error text => trivial
  | ok _ =>
    refine Gate.safe_bind (Gate.safe_trying ⟨trivial, fun found => ?_⟩)
    rcases found with text | (_ | row)
    · trivial
    · exact hsafe _ _ _ _ _
    · refine Gate.safe_bind (Gate.safe_require trivial fun _ => Gate.safe_pure ⟨rfl, ?_, ?_⟩)
      · exact loaded_new (loaded_new hloaded)
      · exact firstRead_new (firstRead_new hread)

/-- A call that updates has read the Resource Plan by its plan's `sys_id`. -/
theorem readBefore_reads {call : PlannedCall} (hloaded : loaded past = some call.planRecord)
    (hnone : firstRead past = none) :
    SafeGate true past (readBefore call) fun past found =>
      loaded past = some call.planRecord ∧
        (isUpdateTool call.tool = true → ∀ target ∈ call.plan.target,
          firstRead past = some (some target.sysId, found)) := by
  unfold readBefore
  split
  · split
    · rename_i htarget
      exact ⟨hloaded, fun _ target h => by rw [htarget] at h; cases h⟩
    · rename_i target htarget
      refine Gate.safe_trying ⟨trivial, fun answer => ?_⟩
      rcases answer with text | found
      · trivial
      · refine ⟨loaded_append hloaded _, fun _ target' h => ?_⟩
        rw [htarget] at h
        cases h
        exact firstRead_new hnone
  · rename_i hupdate
    exact ⟨hloaded, fun h => absurd h hupdate⟩

theorem settled_settleWrite (result : WriteResult) :
    Settled (settleWrite lib state call startedAt beforeRecord result) := by
  refine uses_perform trivial fun auditId => ?_
  refine uses_perform trivial fun completedAt => ?_
  have hevidence : ∀ receipt, (addEvidence call result.record receipt).Uses settles
      fun _ => True := by
    intro receipt
    unfold addEvidence
    split
    · exact uses_bind (Daemon.uses_reading (fun _ => trivial) _) fun _ _ => uses_pure trivial
    · exact uses_pure trivial
  refine uses_bind (hevidence _) fun receipt _ => ?_
  exact (calm_settleReceipt (trail state) state call _ receipt).mono (fun _ => settles_of_calm)
    fun _ _ => trivial

/-- What follows a write settles it. -/
theorem settled_answerWrite (answer : Except WriteFailure WriteResult) :
    Settled (answerWrite lib state call startedAt beforeRecord answer) := by
  have hrefuse := calm_auditedError state call.tool
  cases answer with
  | error err =>
    show Settled (refuseUpstream state call err)
    by_cases hdenied : isPermissionDeniedError err = true
    · rw [refuseUpstream, if_pos hdenied]
      exact Settled.of_calm (hrefuse _ _ _ _)
    · rw [refuseUpstream, if_neg hdenied]
      exact Settled.of_calm (hrefuse _ _ _ _)
  | ok result =>
    have hconsume : (Daemon.consumeConfirmation call.token call.binding).Uses settles
        fun _ => True :=
      uses_perform trivial fun _ =>
        performs trivial
    refine uses_bind hconsume fun consumed _ => ?_
    cases consumed with
    | error err => exact Settled.of_calm (hrefuse _ _ _ _)
    | ok _ => exact settled_settleWrite call startedAt beforeRecord result

/-- A PATCH is sent for a plan that has passed the version check. -/
theorem applyPlan_safe {tool : String} {row : PlanStoreRecord} (hloaded : loaded past = some row)
    (hread : isUpdateTool tool = true → ∀ target ∈ row.planJson.plan.target,
      firstRead past = some (some target.sysId, found)) (hchecked : Checked row found) :
    Safe (trace DaemonIO) (sendsChecked true) (applyPlan tool row.planJson.plan) past
      fun _ _ => True := by
  have hupdate : isUpdateTool tool = true → ∀ missing, Safe (trace DaemonIO) (sendsChecked true)
      (updateTarget row.planJson.plan missing) past fun _ _ => True := by
    intro htool missing
    unfold updateTarget
    split
    · trivial
    · rename_i target htarget
      have hpatch : PatchChecked past :=
        ⟨row, target, found, hloaded, htarget, hread htool target htarget, hchecked⟩
      exact ⟨⟨rfl, hpatch⟩, fun _ => trivial⟩
  fun_cases applyPlan tool row.planJson.plan
  · exact ⟨trivial, fun _ => trivial⟩
  · exact hupdate (by decide) _
  · exact hupdate (by decide) _
  · trivial

/-- **An apply call sends what it has checked.** -/
theorem handleResourcePlanApply_safe :
    SafeCall true [] (handleResourcePlanApply lib state tool params) := by
  refine Gate.safe_enter ((admitCall_loads tool params).mono ?_)
  rintro past call ⟨_, hloaded, hnone⟩
  refine Gate.safe_enter ((inspects_keeps (inspects_reserve call) past).mono ?_)
  rintro past' _ ⟨⟨hkept, hkept'⟩, _⟩
  refine Gate.safe_enter ((readBefore_reads (hkept.trans hloaded) (hkept'.trans hnone)).mono ?_)
  rintro past beforeRecord ⟨hloaded, hread⟩
  refine Gate.safe_enter ((inspects_keeps (inspects_confirm call beforeRecord) past).mono ?_)
  rintro past' startedAt ⟨⟨hkept, hkept'⟩, hchecked⟩
  refine safe_bind ((applyPlan_safe (hkept.trans hloaded)
    (fun hupdate target htarget => hkept'.trans (hread hupdate target htarget)) hchecked).mono ?_)
  intro past answer _
  exact (settled_answerWrite call startedAt beforeRecord answer).safe past

end Calls

end Stages

/-! ## Runs of plan and apply calls -/

/-- A call of one of the tools. -/
inductive PlanCall where
  | plan (tool : PlanTool) (params : Value)
  | apply (tool : String) (params : Value)

/-- Whether a call applies a plan. -/
def PlanCall.applies : PlanCall → Bool
  | plan _ _ => false
  | apply _ _ => true

/-- The handler of a call. -/
def handlePlan (lib : PlanLib) (state : DaemonState) : PlanCall → Handler JsonRpcResponse
  | .plan tool params => handleResourcePlanPlan lib state tool params
  | .apply tool params => handleResourcePlanApply lib state tool params

/-- A row whose version is as ServiceNow writes it: with a `sys_updated_on`, and with a
`sys_mod_count` in decimal, if it has one. -/
structure Legible (row : SnowRecord) : Prop where
  updated : ∃ text, (versionOf row).1 = some text ∧ trim text = text ∧ text ≠ ""
  count : ∀ text, (versionOf row).2 = some text →
    ∃ n : Int, parseI64 (trim text) = some n ∧ text = toString n

/-- What a step reads of a Resource Plan can be compared: a row that is read is legible, it is the
row that is asked for, and its version tells its state; and the row that a call which applies a
plan asks for is there. -/
def Comparable (stateAt : String → Option String × Option String → Option ResourcePlanState)
    (c : Config DaemonIO World PlanCall JsonRpcResponse) (l : Label DaemonIO World PlanCall) :
    Prop :=
  ∀ ev ∈ l.event?, ∀ read ∈ rowRead ev,
    (∀ row ∈ read.2, Legible row ∧ (∀ sysId ∈ read.1, row.sysId = sysId) ∧
      resourcePlanStateFromRecord row = stateAt row.sysId (versionOf row)) ∧
    ∀ i ∈ l.task?, ∀ t ∈ c.tasks[i]?, t.call.applies = true → read.2 ≠ none

/-- A PATCH of a Resource Plan. -/
def isPatch : DaemonAct → Prop
  | .write _ (.updateResourcePlan _ _) => True
  | _ => False

/-- A call has sent a PATCH, or is about to. -/
def Patches (t : Task DaemonIO PlanCall JsonRpcResponse) : Prop :=
  (∃ ev ∈ t.past, isPatch ev.1) ∨ ∃ e k, t.rest = .act e k ∧ isPatch e

/-- The Resource Plan that a call has read is as it was confirmed: a call has read it at the same
version, and stored for it the plan that this call has loaded; and if the plan is for a decision,
the Resource Plan is in the state Requested. -/
def AsConfirmed (c : Config DaemonIO World PlanCall JsonRpcResponse)
    (t : Task DaemonIO PlanCall JsonRpcResponse) : Prop :=
  ∃ (j : Nat) (u : Task DaemonIO PlanCall JsonRpcResponse) (ev : Event DaemonIO)
    (plan loadedPlan : PlanStoreRecord) (asked askedFor : Option String)
    (planned current : SnowRecord),
    (c.tasks[j]? = some u ∧ ev ∈ u.past ∧ rowStored ev = some plan ∧
      firstRead u.past = some (asked, some planned)) ∧
    (loaded t.past = some loadedPlan ∧ SamePlan plan loadedPlan ∧
      firstRead t.past = some (askedFor, some current)) ∧
    current.sysId = planned.sysId ∧ versionOf current = versionOf planned ∧
    (plan.planJson.plan.tool = PlanTool.decision.name →
      resourcePlanStateFromRecord current = some .requested)

/-- The concurrency token of a legible row. -/
theorem Legible.token (h : Legible row) : ∃ text,
    (versionOf row).1 = some text ∧ concurrencyFromRecord row =
      some ⟨text, (versionOf row).2.bind fun text => parseI64 (trim text)⟩ := by
  obtain ⟨text, htext, htrim, hne⟩ := h.updated
  obtain ⟨field, hfield, rfl⟩ := Option.map_eq_some_iff.mp htext
  refine ⟨field.value, htext, ?_⟩
  have hcount : (versionOf row).2.bind (fun text => parseI64 (trim text)) =
      (row.fields.get "sys_mod_count").bind fun f => parseI64 (trim f.value) := by
    rw [versionOf, Option.bind_map]
    rfl
  rw [concurrencyFromRecord, hfield, Option.map_some, htrim, Option.filter_some,
    if_pos (decide_eq_true hne), Option.map_some, hcount]

/-- Rows with one concurrency token have one version. -/
theorem versionOf_eq {a b : SnowRecord} (ha : Legible a) (hb : Legible b)
    (h : concurrencyFromRecord a = concurrencyFromRecord b) : versionOf a = versionOf b := by
  obtain ⟨textA, hupdatedA, htokenA⟩ := ha.token
  obtain ⟨textB, hupdatedB, htokenB⟩ := hb.token
  rw [htokenA, htokenB] at h
  have hupdated : textA = textB := congrArg ConcurrencyToken.sysUpdatedOn (Option.some.inj h)
  have hcount : ((versionOf a).2.bind fun text => parseI64 (trim text)) =
      (versionOf b).2.bind fun text => parseI64 (trim text) :=
    congrArg ConcurrencyToken.sysModCount (Option.some.inj h)
  refine Prod.ext (by rw [hupdatedA, hupdatedB, hupdated]) ?_
  -- a count that is there is read as a number, which it is the decimal of
  cases hA : (versionOf a).2 with
  | none =>
    cases hB : (versionOf b).2 with
    | none => rfl
    | some text =>
      obtain ⟨n, hn, _⟩ := hb.count text hB
      rw [hA, hB, Option.bind_none, Option.bind_some, hn] at hcount
      cases hcount
  | some text =>
    obtain ⟨n, hn, rfl⟩ := ha.count text hA
    cases hB : (versionOf b).2 with
    | none =>
      rw [hA, hB, Option.bind_none, Option.bind_some, hn] at hcount
      cases hcount
    | some text' =>
      obtain ⟨n', hn', rfl⟩ := hb.count text' hB
      rw [hA, hB, Option.bind_some, Option.bind_some, hn, hn'] at hcount
      cases hcount
      rfl

section Runs

variable {lib : PlanLib} {state : DaemonState} {crates : Crates} {world : World}
  {stateAt : String → Option String × Option String → Option ResourcePlanState}
  {c : Config DaemonIO World PlanCall JsonRpcResponse} {i : Nat}
  {t : Task DaemonIO PlanCall JsonRpcResponse}

theorem handlePlan_safe (call : PlanCall) :
    SafeCall call.applies [] (handlePlan lib state call) := by
  cases call with
  | plan tool params => exact handleResourcePlanPlan_safe tool params
  | apply tool params => exact handleResourcePlanApply_safe tool params

variable
  {allowed : Config DaemonIO World PlanCall JsonRpcResponse → Label DaemonIO World PlanCall → Prop}

/-- A call that sends a PATCH applies a plan, which is checked. -/
theorem patch_checked (hrun : Run (daemon crates (handlePlan lib state)) allowed world c)
    (ht : c.tasks[i]? = some t) (hpatch : Patches t) :
    t.call.applies = true ∧ PatchChecked t.past := by
  have hpermitted : ∀ {past : List (Event DaemonIO)} {e : DaemonAct}, isPatch e →
      sendsChecked t.call.applies past e → t.call.applies = true ∧ PatchChecked past := by
    intro past e he hok
    cases e with
    | write planId w => cases w <;> first | exact hok | exact absurd he id
    | _ => exact absurd he id
  rcases hpatch with ⟨ev, hev, hpatch⟩ | ⟨e, k, hrest, hpatch⟩
  · refine hrun.past_invariant (E := fun _ _ _ => True) ht (I := fun past => ∀ ev ∈ past,
      isPatch ev.1 → t.call.applies = true ∧ PatchChecked past) (handlePlan_safe t.call)
      (fun ev hev => absurd hev List.not_mem_nil) ?_ ev hev hpatch
    intro past e r ih hok ev hev hpatch
    rcases List.mem_append.mp hev with hev | hev
    · obtain ⟨happlies, hchecked⟩ := ih ev hev hpatch
      exact ⟨happlies, hchecked.append _⟩
    · rw [List.mem_singleton.mp hev] at hpatch
      obtain ⟨happlies, hchecked⟩ := hpermitted hpatch hok
      exact ⟨happlies, hchecked.append _⟩
  · have hrest' := hrun.safe_past (E := fun _ _ _ => True) ht (handlePlan_safe t.call)
    rw [hrest] at hrest'
    exact hpermitted hpatch hrest'.1

/-- A plan that a call has stored is made from the row the call has read. -/
theorem stored_made (hrun : Run (daemon crates (handlePlan lib state)) allowed world c)
    (ht : c.tasks[i]? = some t) {plan : PlanStoreRecord} (hev : ev ∈ t.past)
    (hstored : rowStored ev = some plan) :
    ∃ asked row, firstRead t.past = some (asked, some row) ∧ MadeFrom plan row := by
  refine hrun.past_invariant (E := fun _ _ _ => True) ht (I := fun past => ∀ ev ∈ past,
    ∀ plan, rowStored ev = some plan → ∃ asked row, firstRead past = some (asked, some row) ∧
      MadeFrom plan row)
    (handlePlan_safe t.call) (fun ev hev => absurd hev List.not_mem_nil) ?_ ev hev plan hstored
  intro past e r ih hok ev hev plan hstored
  rcases List.mem_append.mp hev with hev | hev
  · obtain ⟨asked, row, hread, hmade⟩ := ih ev hev plan hstored
    exact ⟨asked, row, firstRead_append hread _, hmade⟩
  · rw [List.mem_singleton.mp hev] at hstored
    cases e with
    | store call =>
      cases call with
      | putPlan record =>
        cases hstored
        obtain ⟨asked, row, hread, hmade⟩ := hok
        exact ⟨asked, row, firstRead_append hread _, hmade⟩
      | _ => cases hstored
    | _ => cases hstored

section

variable (hrun : Run (daemon crates (handlePlan lib state)) (Comparable stateAt) world c)
  (ht : c.tasks[i]? = some t)

include hrun ht

/-- Every row that a call has read can be compared. -/
theorem read_comparable
    (hread : firstRead t.past = some (asked, some row)) :
    Legible row ∧ (∀ sysId ∈ asked, row.sysId = sysId) ∧
      resourcePlanStateFromRecord row = stateAt row.sysId (versionOf row) := by
  obtain ⟨ev, hev, hrow⟩ := List.exists_of_findSome?_eq_some hread
  refine hrun.past_all ht (P := fun ev => ∀ read ∈ rowRead ev, ∀ row ∈ read.2,
    Legible row ∧ (∀ sysId ∈ read.1, row.sysId = sysId) ∧
      resourcePlanStateFromRecord row = stateAt row.sysId (versionOf row)) ?_ ev hev _ hrow row rfl
  intro c l c' _ hl _ ev hev read hread
  exact (hl ev hev read hread).1

/-- A call that applies a plan has found the Resource Plan it has read. -/
theorem read_found (happlies : t.call.applies = true)
    (hread : firstRead t.past = some (asked, found)) :
    ∃ row, found = some row := by
  have hfound : t.call.applies = true → ∀ read, firstRead t.past = some read → read.2 ≠ none := by
    refine hrun.call_step ht (I := fun call past => call.applies = true → ∀ read,
      firstRead past = some read → read.2 ≠ none) (fun _ _ _ h => nomatch h) ?_
    intro c l c' i t ev _ hl _ hev hi ht ih happlies read hread
    unfold firstRead at ih hread
    rw [List.findSome?_append, Option.or_eq_some_iff] at hread
    rcases hread with hread | ⟨_, hread⟩
    · exact ih happlies read hread
    · rw [List.findSome?_singleton] at hread
      exact (hl ev hev read hread).2 i hi t ht happlies
  exact Option.ne_none_iff_exists'.mp (hfound happlies _ hread)

end

/-- **A PATCH is sent to the version that was confirmed.**  In every run of plan and apply calls
that starts without plans, whatever others do to the Resource Plans: as long as every row of a
Resource Plan that is read has a `sys_updated_on` and its version tells its state, and a Resource
Plan that is to be updated is still there, every call that sends a PATCH has read the Resource
Plan as it was confirmed. -/
theorem patch_as_confirmed
    (hrun : Run (daemon crates (handlePlan lib state)) (Comparable stateAt) world c)
    (hplans : ∀ planId, world.stores.plans.row planId = none) (ht : c.tasks[i]? = some t)
    (hpatch : Patches t) : AsConfirmed c t := by
  obtain ⟨happlies, row, target, found, hloaded, htarget, hread, hchecked⟩ :=
    patch_checked hrun ht hpatch
  obtain ⟨current, rfl⟩ := read_found hrun ht happlies hread
  obtain ⟨j, u, plan, ev, hu, hev, hstored, hsame⟩ := stored_of_loaded hrun hplans ht hloaded
  obtain ⟨asked, planned, hplanned, hmade⟩ := stored_made hrun hu hev hstored
  obtain ⟨hlegible, hasked, hstate⟩ := read_comparable hrun ht hread
  obtain ⟨hlegible', _, hstate'⟩ := read_comparable hrun hu hplanned
  have hsysId : current.sysId = planned.sysId := by
    rw [hsame.plan, hmade.target] at htarget
    rw [hasked target.sysId rfl, ← Option.some.inj htarget]
    rfl
  have hversion : versionOf current = versionOf planned := by
    obtain ⟨_, _, htoken⟩ := hlegible'.token
    obtain ⟨_, _, htoken'⟩ := hlegible.token
    have hexpected : row.concurrencyToken = some _ :=
      (hsame.version.trans hmade.version).trans htoken
    refine versionOf_eq hlegible hlegible' ?_
    rw [htoken', htoken]
    exact congrArg some (hchecked _ hexpected current rfl _ htoken')
  refine ⟨j, u, ev, plan, row, asked, _, planned, current, ⟨hu, hev, hstored, hplanned⟩,
    ⟨hloaded, hsame, hread⟩, hsysId, hversion, fun hdecision => ?_⟩
  rw [hstate, hsysId, hversion, ← hstate']
  exact hmade.requested hdecision

end Runs

/-! ## Sample runs -/

/-- Numbers and dates as they are written. -/
def plainPlanLib : PlanLib where
  asF64 n := n
  positive _ := true
  sameHours _ _ := none
  isDate _ := true

/-- A daemon that may decide on Resource Plans. -/
def decisionState : DaemonState :=
  { sampleState with
    policy := { sampleState.policy with
      tools := ["resource_plan_plan_decision", "resource_plan_apply_decision"].map fun tool =>
        (tool, { (sampleTool tool).2 with fieldAllowlist := ["state"] }) } }

/-- A Resource Plan in some state, with some more fields. -/
def resourcePlan (state : ResourcePlanState) (more : StringMap FieldValue) : SnowRecord :=
  { sampleStory with
    sysId := "plan-1"
    number := "RPLN0001"
    table := resourcePlanTable
    fields := ("state", ⟨state.raw.repr, none⟩) :: more }

/-- A ServiceNow that has one Resource Plan: as it is planned for, and as it is applied to. -/
def planServiceNow (planned current : SnowRecord) : ScriptedServiceNow where
  read
    | .recordFresh _ => .ok (some planned)
    | .recordByTable _ _ => .ok (some current)
    | r => sampleServiceNow.read r
  write := sampleServiceNow.write

/-- A plan call for a decision, and its wait; then an apply call for the plan, which reads the
Resource Plan and sends the PATCH. -/
def decisionMoves (concurrency : List (String × Value)) : List (Move PlanCall) :=
  [.call (.plan .decision
      (obj [("number", .string "RPLN0001"), ("decision", .string "confirm")])),
    .resume 0,
    .call (.apply "resource_plan_apply_decision" (obj ([("plan_id", .string "id-0"),
      ("confirmation_token", .string "id-2"), ("idempotency_key", .string "id-1")] ++
        concurrency))),
    .resume 1, .resume 1]

/-- Every Resource Plan that is read is this one. -/
def Reads (row : SnowRecord) (_ : Config DaemonIO World PlanCall JsonRpcResponse)
    (l : Label DaemonIO World PlanCall) : Prop :=
  ∀ ev ∈ l.event?, ∀ read ∈ rowRead ev, read.2 = some row ∧ ∀ sysId ∈ read.1, row.sysId = sysId

instance (row : SnowRecord) (c : Config DaemonIO World PlanCall JsonRpcResponse)
    (l : Label DaemonIO World PlanCall) : Decidable (Reads row c l) :=
  inferInstanceAs (Decidable (∀ ev ∈ l.event?, _))

theorem Reads.comparable {c : Config DaemonIO World PlanCall JsonRpcResponse}
    {l : Label DaemonIO World PlanCall} (h : Reads row c l) (hrow : Legible row) :
    Comparable (fun _ _ => resourcePlanStateFromRecord row) c l := by
  intro ev hev read hread
  obtain ⟨hfound, hasked⟩ := h ev hev read hread
  refine ⟨fun found hmem => ?_, fun _ _ _ _ _ hnone => ?_⟩
  · rw [hfound, Option.mem_some_iff] at hmem
    rw [← hmem]
    exact ⟨hrow, hasked, rfl⟩
  · rw [hfound] at hnone
    cases hnone

instance : DecidablePred isPatch := fun e =>
  match e with
  | .write _ (.updateResourcePlan _ _) => .isTrue trivial
  | .write _ (.create ..) | .write _ (.update ..) | .write _ (.updateIncident ..)
  | .write _ (.patchIncident ..) | .write _ (.refreshProjection _)
  | .write _ (.setTimecardHours ..) | .write _ (.addWorkNote ..)
  | .write _ (.createResourcePlan _) | .write _ (.createKnowledgeDraft ..)
  | .write _ (.submitCatalogRequest ..) | .now | .uuid | .envVar _ | .openStores
  | .rateLimit .. | .store _ | .read _ => .isFalse id

/-- What can be seen of a call: the state and the version of what it has read, and whether it has
stored a plan and sent a PATCH. -/
structure PlanSeen where
  state : Option ResourcePlanState
  updatedOn : Option String
  modCount : Option String
  stored : Bool
  patched : Bool
deriving DecidableEq

/-- What is seen of a call. -/
def planSeen (t : Task DaemonIO PlanCall JsonRpcResponse) : PlanSeen :=
  let row := (firstRead t.past).bind Prod.snd
  { state := row.bind resourcePlanStateFromRecord
    updatedOn := row.bind fun row => (versionOf row).1
    modCount := row.bind fun row => (versionOf row).2
    stored := t.past.any fun ev => (rowStored ev).isSome
    patched := t.past.any fun ev => isPatch ev.1 }

/-- The Resource Plan that is read, and not changed. -/
def legiblePlan : SnowRecord :=
  resourcePlan .requested
    [("sys_updated_on", ⟨"2026-01-01 00:00:00", none⟩), ("sys_mod_count", ⟨"1", none⟩)]

theorem legible_legiblePlan : Legible legiblePlan := by
  refine ⟨⟨"2026-01-01 00:00:00", rfl, by decide, by decide⟩, fun text htext => ?_⟩
  cases htext
  exact ⟨1, by decide, by decide⟩

/-- A decision on a Resource Plan that is not changed. -/
theorem patch_as_confirmed_unchanged :
    ∃ c t, Run (daemon decisionState.crates (handlePlan plainPlanLib decisionState))
        (Comparable fun _ _ => resourcePlanStateFromRecord legiblePlan) emptyWorld c ∧
      c.tasks[1]? = some t ∧ Patches t ∧ AsConfirmed c t := by
  have hplay : ((play (Reads legiblePlan)
      (scripted decisionState.crates (handlePlan plainPlanLib decisionState)
        (planServiceNow legiblePlan legiblePlan)) 60 ⟨emptyWorld, [], none⟩
      (decisionMoves [("concurrency_token", (ConcurrencyToken.mk "2026-01-01 00:00:00"
        (some 1)).toJson)])).bind fun c => c.tasks[1]?.map fun t => (planSeen t).patched) =
      some true := by
    decide +kernel
  obtain ⟨c, hc, hseen⟩ := Option.bind_eq_some_iff.mp hplay
  obtain ⟨t, ht, hseen⟩ := Option.map_eq_some_iff.mp hseen
  have hpatch : Patches t := by
    obtain ⟨ev, hev, hpatch⟩ := List.any_eq_true.mp hseen
    exact .inl ⟨ev, hev, of_decide_eq_true hpatch⟩
  have hrun := (play_run .start hc).mono fun _ _ h => h.comparable legible_legiblePlan
  exact ⟨c, t, hrun, ht, hpatch, patch_as_confirmed hrun (fun _ => rfl) ht hpatch⟩

/-- **A PATCH is sent to another version.**  The Resource Plan has no `sys_updated_on`.  It is
requested when the decision is planned; by the time of the apply call somebody has allocated it,
which its `sys_mod_count` shows.  The decision is sent all the same. -/
theorem patch_of_another_version :
    ∃ c t, Run (daemon decisionState.crates (handlePlan plainPlanLib decisionState))
        (fun _ _ => True) emptyWorld c ∧
      c.tasks[1]? = some t ∧ Patches t ∧ ¬ AsConfirmed c t ∧
      c.tasks.map planSeen = [⟨some .requested, none, some "1", true, false⟩,
          ⟨some .allocated, none, some "2", false, true⟩] := by
  have hplay : (play (fun _ _ => True)
      (scripted decisionState.crates (handlePlan plainPlanLib decisionState)
        (planServiceNow (resourcePlan .requested [("sys_mod_count", ⟨"1", none⟩)])
          (resourcePlan .allocated [("sys_mod_count", ⟨"2", none⟩)]))) 60
      ⟨emptyWorld, [], none⟩ (decisionMoves [])).map (fun c => c.tasks.map planSeen) =
      some [⟨some .requested, none, some "1", true, false⟩,
        ⟨some .allocated, none, some "2", false, true⟩] := by
    decide +kernel
  obtain ⟨c, hc, hseen⟩ := Option.map_eq_some_iff.mp hplay
  have hmem : ∀ {j : Nat} {u : Task DaemonIO PlanCall JsonRpcResponse} {seen : PlanSeen},
      (c.tasks.map planSeen)[j]? = some seen → c.tasks[j]? = some u → planSeen u = seen := by
    intro j u seen hmap hu
    rw [List.getElem?_map, hu] at hmap
    exact Option.some.inj hmap
  obtain ⟨t, ht⟩ : ∃ t, c.tasks[1]? = some t := by
    have hmap := congrArg (fun seen => seen[1]?) hseen
    rw [List.getElem?_map] at hmap
    obtain ⟨t, ht, _⟩ := Option.map_eq_some_iff.mp hmap
    exact ⟨t, ht⟩
  have hsecond := hmem (by rw [hseen]; rfl) ht
  have hcount : ∀ {t : Task DaemonIO PlanCall JsonRpcResponse} {asked : Option String}
      {row : SnowRecord}, firstRead t.past = some (asked, some row) →
      (planSeen t).modCount = (versionOf row).2 := by
    intro t asked row hread
    rw [planSeen, hread]
    rfl
  refine ⟨c, t, play_run .start hc, ht, ?_, ?_, hseen⟩
  · obtain ⟨ev, hev, hpatch⟩ := List.any_eq_true.mp (congrArg PlanSeen.patched hsecond)
    exact .inl ⟨ev, hev, of_decide_eq_true hpatch⟩
  · rintro ⟨j, u, ev, plan, loadedPlan, asked, askedFor, planned, current,
      ⟨hu, hev, hstored, hplanned⟩, ⟨_, _, hcurrent⟩, _, hversion, _⟩
    have hcounts : (planSeen t).modCount = (planSeen u).modCount := by
      rw [hcount hcurrent, hcount hplanned, hversion]
    match j, hu with
    | 0, hu =>
      rw [hsecond, hmem (by rw [hseen]; rfl) hu] at hcounts
      exact absurd hcounts (by decide)
    | 1, hu =>
      have hnone := congrArg PlanSeen.stored (hmem (by rw [hseen]; rfl) hu)
      rw [planSeen, List.any_eq_false] at hnone
      exact hnone ev hev (by rw [hstored]; rfl)
    | j + 2, hu =>
      have hlength : (c.tasks.map planSeen).length = 2 := by rw [hseen]; rfl
      rw [List.length_map] at hlength
      have hlt := (List.getElem?_eq_some_iff.mp hu).1
      omega

end ResourcePlanWrite

end SnowAgent
