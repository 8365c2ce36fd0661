import SnowAgent.ChangeApply
import SnowAgent.PlannedToken

/-! # Runs of Change calls

A Change call is punctual: it finds its token unspent after its last wait, writes, and only
then consumes the token.  So a token is good for one write unless two calls write at once,
and a write is answered with its receipt unless the token has been spent meanwhile.  Two
calls that write at once do both: they write twice, and the later one answers that its token
is invalid.
-/
namespace SnowAgent

open Json Interleaving Program

namespace ChangeWrite

/-- An apply call of a tool. -/
structure ChangeCall where
  tool : String
  params : Value
deriving DecidableEq

/-- `handle_change_apply`, for every call. -/
def handleChange (state : DaemonState) (call : ChangeCall) : Handler JsonRpcResponse :=
  handleChangeApply state call.tool call.params

/-- The token a call presents. -/
def ChangeCall.presents (call : ChangeCall) : Option String :=
  stringParam call.params "confirmation_token"

/-! ## What the stages use -/

section Stages

variable (state : DaemonState) (call : PlannedCall) (tool : String)

theorem calm_auditedChangeError (code : Int) (message : String) (data : Value)
    (status : ResultStatus) :
    CalmRefusal (auditedChangeError state tool code message data status) :=
  calm_refuse (trail state) state tool status _ _

theorem calm_replay (receipt : OperationReceipt) : CalmRefusal (replay state call receipt) :=
  calm_replayReceipt (calm_auditedChangeError state call.tool)
    inspects_validateConfirmationBinding call receipt

/-- A call that is admitted has presented its token. -/
theorem prepares_admitCall (params : Value) :
    (admitCall state tool params).Uses prepares CalmRefusal fun call =>
      stringParam params "confirmation_token" = some call.token := by
  have hrefuse := calm_auditedChangeError state tool
  refine Gate.uses_bind (inspects_requireSwitchedOn hrefuse (inspects_anyKillSwitch _)).prepares
    fun _ _ => ?_
  refine Gate.uses_bind (Gate.uses_require (hrefuse _ _ _ _)) fun _ _ => ?_
  refine Gate.uses_bind (inspects_requiredParam hrefuse params _).prepares fun planId _ => ?_
  refine Gate.uses_bind (inspects_requiredParam hrefuse params _).prepares fun token htoken => ?_
  refine Gate.uses_bind (inspects_requiredParam hrefuse params _).prepares fun key _ => ?_
  refine Gate.uses_bind (prepares_findPlan hrefuse planId) fun planRecord _ => ?_
  refine Gate.uses_bind (Gate.uses_require (uses_pure trivial)) fun _ _ => ?_
  refine Gate.uses_bind (inspects_rejectExpired hrefuse _ _).prepares fun _ _ => ?_
  exact Gate.uses_pure htoken

theorem prepares_readBefore : (readBefore call).Uses prepares CalmRefusal fun _ => True := by
  unfold readBefore
  split
  · split
    · exact Gate.uses_pure trivial
    · exact Gate.uses_trying (Daemon.uses_reading (fun _ => trivial) _) fun _ => uses_pure trivial
  · exact Gate.uses_pure trivial

theorem prepares_prepare : (prepare state call).Uses prepares CalmRefusal fun _ => True := by
  have hrefuse := calm_auditedChangeError state call.tool
  have hpending : ∀ p ∈ some (pendingResolutionRequired state call), ∀ record,
      CalmRefusal (p record) := by
    rintro p hp record
    cases hp
    exact hrefuse _ _ _ _
  refine Gate.uses_bind (inspects_checkKey hrefuse (calm_replay state call) _ hpending call).prepares
    fun _ _ => ?_
  refine Gate.uses_bind (inspects_reserveKey (calm_replay state call) (hrefuse _ _ _ _) _
      call).prepares
    fun _ _ => ?_
  refine Gate.uses_bind (Gate.uses_require (hrefuse _ _ _ _)) fun _ _ => ?_
  refine Gate.uses_bind (prepares_readBefore call) fun beforeRecord _ => ?_
  refine Gate.uses_bind (inspects_checkConcurrency hrefuse call beforeRecord).prepares fun _ _ => ?_
  exact Gate.uses_pure trivial

theorem calm_refuseToken (err : ConfirmationConsumeError) :
    CalmRefusal (refuseToken state call err) := by
  have hrefuse := calm_auditedChangeError state call.tool
  unfold refuseToken
  split
  · refine uses_perform trivial fun found => ?_
    rcases found with text | (_ | record)
    · exact hrefuse _ _ _ _
    · exact hrefuse _ _ _ _
    · dsimp only
      split
      · exact uses_pure trivial
      · split
        · exact hrefuse _ _ _ _
        · exact hrefuse _ _ _ _
  · exact hrefuse _ _ _ _

/-- Claiming the key of an incident neither waits nor looks the token up. -/
theorem stamps_claimStarted :
    (claimStarted state call).Uses Ticket.stamps CalmRefusal fun _ => True := by
  refine Gate.uses_bind (Gate.uses_doing (performs trivial)) fun startedAt _ => ?_
  have hclaim : (Daemon.tryMarkApplyStarted call.key call.tool).Uses Ticket.stamps fun _ => True :=
    uses_perform trivial fun _ =>
      performs trivial
  refine Gate.uses_bind (Gate.uses_trying hclaim fun _ => uses_pure trivial) fun claimed _ => ?_
  refine Gate.uses_bind (Gate.uses_require ?_) fun _ _ => Gate.uses_pure trivial
  -- A rival's key is answered by its record.
  refine uses_perform trivial fun found => ?_
  rcases found with text | (_ | record)
  · exact uses_pure trivial
  · exact uses_pure trivial
  · exact calm_auditedChangeError state call.tool _ _ _ _

theorem calm_refuseUpstream (text : String) : CalmRefusal (refuseUpstream state call text) := by
  unfold refuseUpstream
  split
  · refine uses_perform trivial fun cleared => ?_
    cases cleared with
    | error text => exact uses_pure trivial
    | ok _ => exact calm_auditedChangeError state call.tool _ _ _ _
  · exact calm_auditedChangeError state call.tool _ _ _ _

/-- A write that succeeded is answered with a receipt of it, or with an internal error. -/
theorem calm_settleWrite (startedAt : DateTime) (beforeRecord : Option SnowRecord)
    (result : WriteResult) :
    (settleWrite state call startedAt beforeRecord result).Uses calm fun response =>
      (∃ auditId completedAt, response =
        .ok (.receipt (receiptForWrite state call auditId startedAt completedAt result
          beforeRecord))) ∨
      ∃ text, response = internalError text := by
  refine uses_perform trivial fun auditId => ?_
  refine uses_perform trivial fun completedAt => ?_
  refine (calm_settleReceipt (trail state) state call _ _).mono (fun _ => id)
    fun response hresponse => ?_
  rcases hresponse with hreceipt | hinternal
  · exact .inl ⟨auditId, completedAt, hreceipt⟩
  · exact .inr hinternal

end Stages

/-! ## Change calls are punctual -/

variable {write : RecordRef → Handler (Except ApplyWriteError WriteResult)}
  {beforeRecord : Option SnowRecord} {w : SnowWrite} {startedAt : DateTime} {plan : OperationPlan}
  {missing planId : String} {read : w.Ans → Except ApplyWriteError WriteResult}

section Token

variable {state : DaemonState} {tokenId : String} {s : Ticket}

theorem confirm_presents {call : PlannedCall} (howing : s.owing = false) :
    (confirm state call).Presents call.token s fun s' _ => s'.Cleared call.binding := by
  have hchecked : (checkToken (auditedChangeError state call.tool) validateConfirmation
      (refuseToken state call) call).Presents call.token s fun s' _ => s'.Cleared call.binding :=
    checkToken_presents (calm_auditedChangeError state call.tool) validateConfirmation_validates
      (calm_refuseToken state call) howing
  refine Gate.safe_bind (hchecked.mono fun s' _ hcleared => ?_)
  split
  · exact (stamps_presents (stamps_claimStarted state call) hcleared).mono fun _ _ h => h.1
  · exact markStarted_presents hcleared

/-- What a call knows once `apply_plan` has returned: it owes its token if that was `Ok`. -/
def Written (binding : ConfirmationBinding) (s : Ticket)
    (answer : Except ApplyWriteError WriteResult) : Prop :=
  s.found.map (·.binding) = some binding ∧ s.owing = answer.isOk

variable {binding : ConfirmationBinding}

theorem written_of_cleared (hs : s.Cleared binding) (err : ApplyWriteError) :
    Written binding s (.error err) := ⟨hs.2.2, hs.1⟩

theorem sendWrite_presents (hs : s.Cleared binding)
    (hread : ∀ answer, w.succeeded answer = (read answer).isOk) :
    Presents tokenId (sendWrite planId w read) s (Written binding) := by
  refine safe_bind ((write_presents hs).mono ?_)
  rintro s' answer ⟨hfound, howing⟩
  exact ⟨hfound, howing.trans (hread answer)⟩

theorem withTarget_presents (hs : s.Cleared binding)
    (hwrite : ∀ target, Presents tokenId (write target) s (Written binding)) :
    Presents tokenId (withTarget plan missing write) s (Written binding) := by
  unfold withTarget
  split
  · exact written_of_cleared hs _
  · exact hwrite _

theorem applyPlan_presents (tool : String) (plan : OperationPlan) (hs : s.Cleared binding) :
    Presents tokenId (applyPlan tool plan) s (Written binding) := by
  unfold applyPlan
  split
  · exact sendWrite_presents hs fun answer => by cases answer <;> rfl
  · exact sendWrite_presents hs fun answer => by cases answer <;> rfl
  · exact withTarget_presents hs fun target =>
      sendWrite_presents hs fun answer => by cases answer <;> rfl
  · exact withTarget_presents hs fun target =>
      sendWrite_presents hs fun answer => by cases answer <;> rfl
  · exact withTarget_presents hs fun target => sendWrite_presents hs fun answer => by
      rcases answer with (_ | _) | _ <;> rfl
  · exact written_of_cleared hs _

theorem writePlan_presents {call : PlannedCall} (hs : s.Cleared call.binding) :
    Presents call.token (writePlan state call startedAt beforeRecord) s Settled := by
  refine safe_bind ((applyPlan_presents call.tool call.plan hs).mono ?_)
  rintro s' answer ⟨hfound, howing⟩
  rcases answer with (text | _) | result
  · exact calm_ends (calm_refuseUpstream state call text).calm howing
  · exact calm_ends (calm_auditedChangeError state call.tool _ _ _ _).calm howing
  · exact consumeThen_presents (calm_auditedChangeError state call.tool)
      (calm_settleWrite state call startedAt beforeRecord result).forget howing hfound

/-- Every Change call is punctual. -/
theorem handleChange_punctual : Punctual ChangeCall.presents (handleChange state) := by
  intro call tokenId htoken
  refine Gate.safe_enter ((prepares_presents (prepares_admitCall state _ _) rfl).mono ?_)
  rintro s planned ⟨howing, hpresented⟩
  obtain rfl := htoken planned.token hpresented
  refine Gate.safe_enter ((prepares_presents (prepares_prepare state planned) howing).mono ?_)
  rintro s beforeRecord ⟨howing, _⟩
  refine Gate.safe_enter ((confirm_presents howing).mono ?_)
  intro s startedAt hcleared
  exact writePlan_presents hcleared

/-- **A Change token writes once, unless two calls write at once.**  In every run of Change
calls, of any tools and keys and however they interleave, the calls with one token succeed
with one write at most, as long as none of them sends its write while another one waits for
its own, and the clock and the database are steady for the token. -/
theorem change_token_writes_once {world : World}
    {c : Config DaemonIO World ChangeCall JsonRpcResponse}
    (hrun : Run (daemon state.crates (handleChange state))
      (fun c l => Steady tokenId c l ∧ OneWriter ChangeCall.presents tokenId c l) world c) :
    total (strikes ChangeCall.presents tokenId) c ≤ 1 :=
  handleChange_punctual.writes_once id hrun

end Token

/-! ## What a write is answered with -/

/-- What a write of `apply_plan` that succeeded has written, with its plan. -/
def written : Event DaemonIO → Option (String × WriteResult)
  | ⟨.write planId (.create _ _), .ok result⟩ => some (planId, result)
  | ⟨.write planId (.update _ _ _), .ok result⟩ => some (planId, result)
  | ⟨.write planId (.updateIncident _ _), .ok result⟩ => some (planId, result)
  | _ => none

theorem written_of_calm (e : DaemonAct) (r : e.Ans) (he : calm e) : written ⟨e, r⟩ = none := by
  cases e with
  | write => exact absurd he id
  | _ => rfl

/-- The Success receipt of a write, or an internal store error. -/
def Reports (planId : String) (result : WriteResult) (response : JsonRpcResponse) : Prop :=
  (∃ receipt : OperationReceipt, response = .ok (.receipt receipt) ∧ receipt.status = .success ∧
    receipt.planId = planId ∧ receipt.serviceNowMetadata = some result.record.metadata ∧
    receipt.idempotencyReplay = false) ∨
  ∃ text, response = internalError text

/-- A call that has written reports the write, or its token has been refused. -/
def Answered (past : List (Event DaemonIO)) (response : JsonRpcResponse) : Prop :=
  ∀ x ∈ past.filterMap written, Reports x.1 x.2 response ∨ ∃ ev ∈ past, refusesToken ev = true

/-- A part of a Change call that is answered as it should. -/
abbrev Answers (p : Handler JsonRpcResponse) (past : List (Event DaemonIO)) : Prop :=
  Safe (trace DaemonIO) (fun _ _ => True) p past Answered

section Answers

variable {state : DaemonState} {past past' : List (Event DaemonIO)}

theorem written_extends (h : Extends calm past past') :
    past'.filterMap written = past.filterMap written :=
  h.filterMap written_of_calm

/-- A calm end of a call that has not written. -/
theorem calm_answers {R : JsonRpcResponse → Prop} {p : Handler JsonRpcResponse}
    (hp : p.Uses calm R) (hnone : past.filterMap written = []) : Answers p past := by
  refine (uses_extends hp (fun _ _ _ => trivial) past).mono ?_
  rintro past' response ⟨hextends, _⟩ x hx
  rw [written_extends hextends, hnone] at hx
  cases hx

/-- A gate of a call that has not written. -/
theorem gate_answers {A : Type} {R : A → Prop} {gate : Gate A}
    (hgate : gate.Uses calm CalmRefusal R) (hnone : past.filterMap written = [])
    {next : A → Handler JsonRpcResponse}
    (hnext : ∀ past' a, past'.filterMap written = [] → R a → Answers (next a) past') :
    Answers (gate.enter next) past := by
  refine Gate.safe_enter ((Gate.Uses.extends hgate (fun _ _ _ => trivial) ?_).mono ?_)
  · intro past' p hextends hp
    exact calm_answers hp.calm ((written_extends hextends).trans hnone)
  · rintro past' a ⟨hextends, ha⟩
    exact hnext past' a ((written_extends hextends).trans hnone) ha

theorem sendWrite_writes (hread : ∀ answer, written ⟨.write planId w, answer⟩ =
      (read answer).toOption.map fun result => (planId, result))
    (hnone : past.filterMap written = []) :
    Safe (trace DaemonIO) (fun _ _ => True) (sendWrite planId w read) past fun past' answer =>
      past'.filterMap written = (answer.toOption.map fun result => (planId, result)).toList := by
  refine ⟨trivial, fun answer => ?_⟩
  show (past ++ [(⟨.write planId w, answer⟩ : Event DaemonIO)]).filterMap written = _
  rw [List.filterMap_append, hnone, List.nil_append, List.filterMap_cons, List.filterMap_nil,
    hread answer]
  cases (read answer).toOption <;> rfl

theorem withTarget_writes (hnone : past.filterMap written = [])
    (hwrite : ∀ target, Safe (trace DaemonIO) (fun _ _ => True) (write target) past
      fun past' answer => past'.filterMap written =
        (answer.toOption.map fun result => (plan.planId, result)).toList) :
    Safe (trace DaemonIO) (fun _ _ => True) (withTarget plan missing write) past
      fun past' answer => past'.filterMap written =
        (answer.toOption.map fun result => (plan.planId, result)).toList := by
  unfold withTarget
  split
  · exact hnone
  · exact hwrite _

/-- `apply_plan` has written what it returns, for its plan. -/
theorem applyPlan_writes (tool : String) (plan : OperationPlan) (hnone : past.filterMap written = []) :
    Safe (trace DaemonIO) (fun _ _ => True) (applyPlan tool plan) past fun past' answer =>
      past'.filterMap written =
        (answer.toOption.map fun result => (plan.planId, result)).toList := by
  unfold applyPlan
  split
  · exact sendWrite_writes (fun answer => by cases answer <;> rfl) hnone
  · exact sendWrite_writes (fun answer => by cases answer <;> rfl) hnone
  · exact withTarget_writes hnone fun target =>
      sendWrite_writes (fun answer => by cases answer <;> rfl) hnone
  · exact withTarget_writes hnone fun target =>
      sendWrite_writes (fun answer => by cases answer <;> rfl) hnone
  · exact withTarget_writes hnone fun target => sendWrite_writes (fun answer => by
      rcases answer with (_ | _) | _ <;> rfl) hnone
  · exact hnone

/-- After a write that succeeded. -/
theorem consumeThen_answers {call : PlannedCall} {result : WriteResult}
    (hwritten : past.filterMap written = [(call.plan.planId, result)]) :
    Answers (consumeThen (auditedChangeError state call.tool) call
      (settleWrite state call startedAt beforeRecord result)) past := by
  refine safe_bind (safe_perform trivial fun now => ⟨trivial, fun consumed => ?_⟩)
  cases consumed with
  | error err =>
    refine (uses_extends (calm_auditedChangeError state call.tool _ _ _ _).calm
      (fun _ _ _ => trivial) _).mono ?_
    rintro past' response ⟨hextends, _⟩ x _
    refine .inr ⟨⟨.store (.consumeConfirmation now call.token call.binding), .error err⟩,
      hextends.mem ?_, rfl⟩
    exact List.mem_append_right _ List.mem_cons_self
  | ok record =>
    refine (uses_extends (calm_settleWrite state call startedAt beforeRecord result)
      (fun _ _ _ => trivial) _).mono ?_
    rintro past' response ⟨hextends, hresponse⟩ x hx
    have hsettled : (past ++ [(⟨.now, now⟩ : Event DaemonIO)] ++
        [(⟨.store (.consumeConfirmation now call.token call.binding), .ok record⟩ :
          Event DaemonIO)]).filterMap written = [(call.plan.planId, result)] := by
      rw [List.filterMap_append, List.filterMap_append, hwritten]
      rfl
    rw [written_extends hextends] at hx
    obtain rfl := List.mem_singleton.mp (hsettled ▸ hx)
    left
    rcases hresponse with ⟨auditId, completedAt, rfl⟩ | hinternal
    · exact .inl ⟨_, rfl, rfl, rfl, rfl, rfl⟩
    · exact .inr hinternal

theorem writePlan_answers {call : PlannedCall} (hnone : past.filterMap written = []) :
    Answers (writePlan state call startedAt beforeRecord) past := by
  refine safe_bind ((applyPlan_writes call.tool call.plan hnone).mono ?_)
  intro past' answer hwritten
  rcases answer with (text | _) | result
  · exact calm_answers (calm_refuseUpstream state call text).calm hwritten
  · exact calm_answers (calm_auditedChangeError state call.tool _ _ _ _).calm hwritten
  · exact consumeThen_answers hwritten

theorem refuses_confirm (call : PlannedCall) :
    (confirm state call).Uses refuses CalmRefusal fun _ => True := by
  have hchecked := (inspects_checkToken (calm_auditedChangeError state call.tool)
    inspects_validateConfirmation (calm_refuseToken state call) call).prepares
  refine Gate.uses_bind (hchecked.mono (fun _ => refuses_of_prepares) (fun _ => id) fun _ => id)
    fun _ _ => ?_
  split
  · exact (stamps_claimStarted state call).mono (fun _ => Ticket.refuses_of_stamps)
      (fun _ => id) fun _ => id
  · exact (inspects_markStarted call).prepares.mono (fun _ => refuses_of_prepares)
      (fun _ => id) fun _ => id

theorem calm_confirm (call : PlannedCall) :
    (confirm state call).Uses calm CalmRefusal fun _ => True :=
  (refuses_confirm call).mono (fun _ => calm_of_refuses) (fun _ => id) fun _ => id

/-- Every Change call reports what it wrote, unless its token is refused. -/
theorem handleChange_answers (call : ChangeCall) : Answers (handleChange state call) [] := by
  refine gate_answers ((prepares_admitCall state call.tool call.params).mono
    (fun _ => calm_of_prepares) (fun _ => id) fun _ => id) rfl fun past planned hnone _ => ?_
  refine gate_answers ((prepares_prepare state planned).mono
    (fun _ => calm_of_prepares) (fun _ => id) fun _ => id) hnone fun past beforeRecord hnone _ => ?_
  refine gate_answers (calm_confirm planned) hnone fun past startedAt hnone _ => ?_
  exact writePlan_answers hnone

/-- **A Change write is reported.**  In every run of Change calls, with any clock and however
they interleave, a call whose write succeeded answers with the Success receipt of that write
or with an internal store error, as long as every token that is presented for consumption is
still there and unspent, and the database does not fail the consumption. -/
theorem change_write_reported {world : World}
    {c : Config DaemonIO World ChangeCall JsonRpcResponse}
    (hrun : Run (daemon state.crates (handleChange state)) Unhindered world c) {i : Nat}
    {t : Task DaemonIO ChangeCall JsonRpcResponse} (ht : c.tasks[i]? = some t)
    {response : JsonRpcResponse} (hreturned : t.rest = .pure response)
    {planId : String} {result : WriteResult} (hwritten : (planId, result) ∈ t.past.filterMap written) :
    Reports planId result response := by
  have hend : Answers t.rest t.past :=
    hrun.safe_past (E := fun _ => Answered) ht (handleChange_answers t.call)
  rw [hreturned] at hend
  rcases hend _ hwritten with hreports | ⟨ev, hev, hrefused⟩
  · exact hreports
  · have haccepted := handleChange_punctual.accepted id hrun ht ev hev
    rw [hrefused] at haccepted
    cases haccepted

end Answers

/-! ## Sample runs -/

/-- A plan for a change request. -/
def samplePlan : OperationPlan where
  planId := "plan-1"
  tool := "change_request_plan_create"
  target := none
  plannedChanges := obj []
  opHash := "hash-1"

/-- A daemon that may create change requests. -/
def changeState : DaemonState :=
  { sampleState with
    policy := { sampleState.policy with tools := [sampleTool "change_request_apply_create"] } }

/-- A world in which the plan has been made and confirmed. -/
def plannedWorld : World := confirmedWorld samplePlan "change_request_apply_create" none

/-- An apply call for the plan. -/
def apply (key : String) : Move ChangeCall :=
  .call ⟨"change_request_apply_create", obj [("plan_id", .string "plan-1"),
    ("confirmation_token", .string "token-1"), ("idempotency_key", .string key)]⟩

/-- An apply, and one more under another key, whose token is consumed. -/
theorem change_token_writes_once_refused :
    ∃ c, Run (daemon changeState.crates (handleChange changeState))
        (fun c l => Steady "token-1" c l ∧ OneWriter ChangeCall.presents "token-1" c l)
        plannedWorld c ∧
      c.tasks.length = 2 ∧ total (strikes ChangeCall.presents "token-1") c = 1 ∧
      total (strikes ChangeCall.presents "token-1") c ≤ 1 := by
  have hplay : (play (fun c l => Steady "token-1" c l ∧
      OneWriter ChangeCall.presents "token-1" c l)
      (scripted changeState.crates (handleChange changeState) sampleServiceNow) 50
      ⟨plannedWorld, [], none⟩ [apply "key-1", .resume 0, apply "key-2"]).map
        (fun c => (c.tasks.length, total (strikes ChangeCall.presents "token-1") c)) =
      some (2, 1) := by decide +kernel
  obtain ⟨c, hc, hseen⟩ := Option.map_eq_some_iff.mp hplay
  obtain ⟨hlength, htotal⟩ := Prod.mk.inj hseen
  have hrun := play_run .start hc
  exact ⟨c, hrun, hlength, htotal, change_token_writes_once hrun⟩

/-- **Two calls at once write twice.**  Each finds the token unspent before the other has
consumed it. -/
theorem change_token_writes_twice :
    ∃ c, Run (daemon changeState.crates (handleChange changeState)) (fun _ _ => True)
        plannedWorld c ∧
      c.tasks.map (strikes ChangeCall.presents "token-1") = [1, 1] := by
  have hplay : (play (fun _ _ => True)
      (scripted changeState.crates (handleChange changeState) sampleServiceNow) 50
      ⟨plannedWorld, [], none⟩ [apply "key-1", apply "key-2", .resume 0, .resume 1]).map
        (fun c => c.tasks.map (strikes ChangeCall.presents "token-1")) = some [1, 1] := by
    decide +kernel
  obtain ⟨c, hc, hstrikes⟩ := Option.map_eq_some_iff.mp hplay
  exact ⟨c, play_run .start hc, hstrikes⟩

/-- What a task has written, and whether it has returned. -/
def writtenAndReturned (t : Task DaemonIO ChangeCall JsonRpcResponse) :
    List (String × WriteResult) × Bool :=
  (t.past.filterMap written, t.rest.value.isSome)

/-- One apply call, which answers with its receipt. -/
theorem change_write_reported_alone :
    ∃ c t response, Run (daemon changeState.crates (handleChange changeState)) Unhindered
        plannedWorld c ∧
      c.tasks[0]? = some t ∧ t.rest = .pure response ∧
      Reports "plan-1" ⟨sampleStory, ⟨"2026-01-01 00:00:00", none⟩⟩ response := by
  have hplay : (play Unhindered
      (scripted changeState.crates (handleChange changeState) sampleServiceNow) 50
      ⟨plannedWorld, [], none⟩ [apply "key-1", .resume 0]).map
        (fun c => c.tasks[0]?.map writtenAndReturned) =
      some (some ([("plan-1", ⟨sampleStory, ⟨"2026-01-01 00:00:00", none⟩⟩)], true)) := by
    decide +kernel
  obtain ⟨c, hc, hseen⟩ := Option.map_eq_some_iff.mp hplay
  obtain ⟨t, ht, hseen⟩ := Option.map_eq_some_iff.mp hseen
  obtain ⟨hwritten, hreturned⟩ := Prod.mk.inj hseen
  obtain ⟨response, hresponse⟩ := Option.isSome_iff_exists.mp hreturned
  have hrest := eq_pure_of_value hresponse
  refine ⟨c, t, response, play_run .start hc, ht, hrest, ?_⟩
  refine change_write_reported (play_run .start hc) ht hrest ?_
  rw [hwritten]
  exact List.mem_singleton_self _

/-- Whether a task has written and answers that its token is invalid. -/
def deniedAfterWrite (t : Task DaemonIO ChangeCall JsonRpcResponse) : Bool :=
  !(t.past.filterMap written).isEmpty &&
    match t.rest with
    | .pure (.error err) => err.message == "CONFIRMATION_INVALID"
    | _ => false

/-- **A write is answered as denied.**  Two calls write at once; the second finds its token
consumed when it comes to consume it. -/
theorem change_write_denied :
    ∃ c t err, Run (daemon changeState.crates (handleChange changeState)) Forward plannedWorld c ∧
      t ∈ c.tasks ∧ t.past.filterMap written ≠ [] ∧
      t.rest = .pure (.error err) ∧ err.message = "CONFIRMATION_INVALID" := by
  have hplay : (play Forward
      (scripted changeState.crates (handleChange changeState) sampleServiceNow) 50
      ⟨plannedWorld, [], none⟩ [apply "key-1", apply "key-2", .resume 0, .resume 1]).map
        (fun c => c.tasks.any deniedAfterWrite) = some true := by decide +kernel
  obtain ⟨c, hc, hdenied⟩ := Option.map_eq_some_iff.mp hplay
  obtain ⟨t, ht, hdenied⟩ := List.any_eq_true.mp hdenied
  unfold deniedAfterWrite at hdenied
  split at hdenied
  · rename_i err hrest
    simp only [Bool.and_eq_true, Bool.not_eq_true', List.isEmpty_eq_false_iff, beq_iff_eq]
      at hdenied
    exact ⟨c, t, err, play_run .start hc, ht, hdenied.1, hrest, hdenied.2⟩
  · simp at hdenied

end ChangeWrite

end SnowAgent
