import SnowAgent.TimecardApply
import SnowAgent.PlannedToken

/-! # Runs of time card calls

A time card call is punctual, so its token is good for one write unless two calls write at
once.  The version of the card does not help there: both calls have read the card before
either write.
-/
namespace SnowAgent

open Json Interleaving Program

namespace TimecardWrite

/-- The token an apply call presents. -/
def presents (params : Value) : Option String := stringParam params "confirmation_token"

/-! ## What the stages use -/

section Stages

variable (state : DaemonState)

theorem calm_auditedTimecardError (code : Int) (message : String) (data : Value)
    (status : ResultStatus) : CalmRefusal (auditedTimecardError state code message data status) :=
  calm_refuse (trail state) state timecardApplyTool status _ _

variable (call : PlannedCall)

theorem calm_replay (receipt : OperationReceipt) : CalmRefusal (replay state call receipt) :=
  calm_replayReceipt (calm_auditedTimecardError state)
    inspects_validateConfirmationBinding call receipt

theorem inspects_isKillSwitched : isKillSwitched.Uses inspects fun _ => True := by
  refine uses_perform trivial fun value => ?_
  cases value with
  | some text => exact uses_pure trivial
  | none => exact uses_perform trivial fun _ => uses_pure trivial

theorem prepares_requirePolicy : (requirePolicy state).Uses prepares CalmRefusal fun _ => True := by
  unfold requirePolicy
  split
  · exact Gate.uses_pure trivial
  · exact Gate.uses_answer (calm_auditedTimecardError state _ _ _ _)

/-- A call that is admitted has presented its token. -/
theorem prepares_admitCall (params : Value) :
    (admitCall state params).Uses prepares CalmRefusal fun call =>
      presents params = some call.token := by
  have hrefuse := calm_auditedTimecardError state
  refine Gate.uses_bind (inspects_requireSwitchedOn hrefuse inspects_isKillSwitched).prepares
    fun _ _ => ?_
  refine Gate.uses_bind (prepares_requirePolicy state) fun _ _ => ?_
  refine Gate.uses_bind (Gate.uses_require (hrefuse _ _ _ _)) fun _ _ => ?_
  refine Gate.uses_bind (inspects_requiredParam hrefuse params _).prepares fun planId _ => ?_
  refine Gate.uses_bind (inspects_requiredParam hrefuse params _).prepares fun token htoken => ?_
  refine Gate.uses_bind (inspects_requiredParam hrefuse params _).prepares fun key _ => ?_
  refine Gate.uses_bind (prepares_findPlan hrefuse planId) fun planRecord _ => ?_
  refine Gate.uses_bind (Gate.uses_require (uses_pure trivial)) fun _ _ => ?_
  exact Gate.uses_pure htoken

theorem calm_refuseReserved : CalmRefusal (refuseReserved state call) :=
  uses_perform trivial fun _ =>
    calm_auditedTimecardError state _ _ _ _

theorem prepares_reserve : (reserve state call).Uses prepares CalmRefusal fun _ => True := by
  have hrefuse := calm_auditedTimecardError state
  have hpending : ∀ p ∈ (none : Option (IdempotencyRecord → Handler JsonRpcResponse)), ∀ record,
      CalmRefusal (p record) := by
    rintro p hp
    cases hp
  refine Gate.uses_bind (inspects_checkKey hrefuse (calm_replay state call) _ hpending call).prepares
    fun _ _ => ?_
  refine Gate.uses_bind (inspects_rejectExpired hrefuse call _).prepares fun _ _ => ?_
  exact (inspects_reserveKey (calm_replay state call) (calm_refuseReserved state call) _
    call).prepares

variable (planned : PlannedTimecardSetHours)

theorem prepares_readCard :
    (readCard state call planned).Uses prepares CalmRefusal fun _ => True := by
  refine Gate.uses_bind (Gate.uses_trying (Daemon.uses_reading (fun _ => trivial) _)
    fun _ => uses_pure trivial) fun found _ => ?_
  exact (Gate.uses_require? (calm_auditedTimecardError state _ _ _ _)).mono (fun _ => id)
    (fun _ => id) fun _ _ => trivial

variable (card : TimeCard)

theorem prepares_guardCard :
    (guardCard state planned card).Uses prepares CalmRefusal fun _ => True := by
  unfold guardCard
  split
  · exact Gate.uses_pure trivial
  · exact Gate.uses_answer (calm_auditedTimecardError state _ _ _ _)

theorem prepares_requireVersion :
    (requireVersion state call planned card).Uses prepares CalmRefusal fun _ => True := by
  have hrefuse := calm_auditedTimecardError state
  refine Gate.uses_bind (Gate.uses_require? (hrefuse _ _ _ _)) fun expected _ => ?_
  refine Gate.uses_bind (inspects_requireSupplied hrefuse call expected).prepares fun _ _ => ?_
  exact (Gate.uses_require (hrefuse _ _ _ _)).mono (fun _ => id) (fun _ => id) fun _ _ => trivial

theorem prepares_prepare : (prepare state call).Uses prepares CalmRefusal fun _ => True := by
  refine Gate.uses_bind (prepares_reserve state call) fun _ _ => ?_
  refine Gate.uses_bind (Gate.uses_trying (uses_pure trivial) fun _ => uses_pure trivial)
    fun planned _ => ?_
  refine Gate.uses_bind (Gate.uses_require (uses_pure trivial)) fun _ _ => ?_
  refine Gate.uses_bind (prepares_readCard state call planned) fun card _ => ?_
  refine Gate.uses_bind (prepares_guardCard state planned card) fun _ _ => ?_
  refine Gate.uses_bind (prepares_requireVersion state call planned card) fun _ _ => ?_
  exact Gate.uses_pure trivial

theorem calm_settleCard (startedAt : DateTime) (card : TimeCard) :
    (settleCard state call planned startedAt card).Uses calm fun _ => True := by
  refine uses_perform trivial fun auditId => ?_
  refine uses_perform trivial fun _ => ?_
  refine uses_perform trivial fun completedAt => ?_
  exact (calm_settleReceipt (trail state) state call _ _).forget

end Stages

/-! ## Time card calls are punctual -/

section Token

variable {state : DaemonState} {parseTimeValue : String → Option String} {tokenId : String}
  {s : Ticket}

variable {call : PlannedCall}

theorem confirm_presents (howing : s.owing = false) :
    (confirm state call).Presents call.token s fun s' _ => s'.Cleared call.binding := by
  have hchecked : (checkToken (auditedTimecardError state) validateConfirmation
      (refuseConfirmation (auditedTimecardError state)) call).Presents call.token s fun s' _ =>
        s'.Cleared call.binding :=
    checkToken_presents (calm_auditedTimecardError state) validateConfirmation_validates
      (fun _ => calm_auditedTimecardError state _ _ _ _) howing
  exact Gate.safe_bind (hchecked.mono fun s' _ hcleared => markStarted_presents hcleared)

theorem writeHours_presents {planned : PlannedTimecardSetHours} {startedAt : DateTime}
    {hours : String} (hs : s.Cleared call.binding) :
    Presents call.token (writeHours state call planned startedAt hours) s Settled := by
  refine safe_bind ((write_presents hs).mono ?_)
  rintro s' answer ⟨hfound, howing⟩
  cases answer with
  | error text => exact calm_ends (calm_auditedTimecardError state _ _ _ _).calm howing
  | ok card =>
    exact consumeThen_presents (calm_auditedTimecardError state)
      (calm_settleCard state call planned startedAt card) howing hfound

/-- Every time card call is punctual. -/
theorem handleTimecard_punctual :
    Punctual presents (handleTimecardApplySetHours state parseTimeValue) := by
  intro params tokenId htoken
  refine Gate.safe_enter ((prepares_presents (prepares_admitCall state params) rfl).mono ?_)
  rintro s call ⟨howing, hpresented⟩
  obtain rfl := htoken call.token hpresented
  refine Gate.safe_enter ((prepares_presents (prepares_prepare state call) howing).mono ?_)
  rintro s planned ⟨howing, _⟩
  refine Gate.safe_enter ((confirm_presents howing).mono ?_)
  intro s startedAt hcleared
  cases parseTimeValue planned.hours with
  | none => exact hcleared.1
  | some hours => exact writeHours_presents hcleared

/-- **A time card token writes once, unless two calls write at once.**  In every run of time
card calls, of any keys and however they interleave, the calls with one token succeed with
one write at most, as long as none of them sends its write while another one waits for its
own, and the clock and the database are steady for the token. -/
theorem timecard_token_writes_once {world : World}
    {c : Config DaemonIO World Value JsonRpcResponse}
    (hrun : Run (daemon state.crates (handleTimecardApplySetHours state parseTimeValue))
      (fun c l => Steady tokenId c l ∧ OneWriter presents tokenId c l) world c) :
    total (strikes presents tokenId) c ≤ 1 :=
  handleTimecard_punctual.writes_once id hrun

end Token

/-! ## Sample runs -/

/-- A card, as it is after some writes in one second. -/
def cardAfter (writes : Nat) : TimeCard where
  sysId := "card-1"
  weekStartsOn := "2026-01-04"
  userSysId := "user-1"
  task := none
  category := "admin"
  projectTimeCategory := none
  state := "Pending"
  sysUpdatedOn := "2026-01-05 10:00:00"
  sysModCount := some writes
  json := .null

/-- A plan that adds two hours to a day of the card. -/
def samplePlan : OperationPlan where
  planId := "plan-1"
  tool := timecardPlanTool
  target := none
  plannedChanges := obj [("card_sys_id", .string "card-1"), ("day", .string "mon"),
    ("day_field", .string "monday"), ("hours", .string "2"), ("mode", .string "add"),
    ("from", .string "0"), ("to", .string "2"), ("actor_user_sys_id", .string "user-1"),
    ("card_fingerprint", .string (cardFingerprint shortCrates.sha256 (cardAfter 0)))]
  opHash := "hash-1"

/-- A daemon that may set the hours of time cards. -/
def timecardState : DaemonState :=
  { sampleState with
    policy :=
      { sampleState.policy with
        tools := [(timecardApplyTool,
          { (sampleTool timecardApplyTool).2 with fieldAllowlist := dayFields })] } }

/-- A world in which the plan has been made and confirmed. -/
def plannedWorld : World :=
  confirmedWorld samplePlan timecardApplyTool (some ⟨"2026-01-05 10:00:00", some 0⟩)

/-- An apply call for the plan. -/
def apply (key : String) : Move Value :=
  .call (obj [("plan_id", .string "plan-1"), ("confirmation_token", .string "token-1"),
    ("idempotency_key", .string key),
    ("concurrency_token", obj [("sys_updated_on", .string "2026-01-05 10:00:00"),
      ("sys_mod_count", ofNat 0)])])

/-- A ServiceNow that shows the card as planned, and answers each of so many writes with the
card as it is after all of them. -/
def cardServiceNow (writes : Nat) : ScriptedServiceNow where
  read
    | .timecardFresh _ => .ok (some (cardAfter 0))
    | r => sampleServiceNow.read r
  write
    | .setTimecardHours _ _ _ _ => .ok (cardAfter writes)
    | w => sampleServiceNow.write w

/-- A call, and the same call once more, which answers with the receipt. -/
theorem timecard_token_writes_once_replayed :
    ∃ c, Run (daemon timecardState.crates (handleTimecardApplySetHours timecardState some))
        (fun c l => Steady "token-1" c l ∧ OneWriter presents "token-1" c l) plannedWorld c ∧
      c.tasks.length = 2 ∧ total (strikes presents "token-1") c = 1 ∧
      total (strikes presents "token-1") c ≤ 1 := by
  have hplay : (play (fun c l => Steady "token-1" c l ∧ OneWriter presents "token-1" c l)
      (scripted timecardState.crates (handleTimecardApplySetHours timecardState some)
        (cardServiceNow 1)) 50
      ⟨plannedWorld, [], none⟩ [apply "key-1", .resume 0, .resume 0, apply "key-1"]).map
        (fun c => (c.tasks.length, total (strikes presents "token-1") c)) = some (2, 1) := by
    decide +kernel
  obtain ⟨c, hc, hseen⟩ := Option.map_eq_some_iff.mp hplay
  obtain ⟨hlength, htotal⟩ := Prod.mk.inj hseen
  have hrun := play_run .start hc
  exact ⟨c, hrun, hlength, htotal, timecard_token_writes_once hrun⟩

/-- Whether the next action of a task writes. -/
def writesNext : Handler JsonRpcResponse → Bool
  | .act (.write _ _) _ => true
  | _ => false

/-- The writes that have succeeded. -/
def writesDone (c : Config DaemonIO World Value JsonRpcResponse) : Nat :=
  total (fun t => t.past.countP wrote) c

/-- The writes that have succeeded and those that were sent off. -/
def writesSent (c : Config DaemonIO World Value JsonRpcResponse) : Nat :=
  writesDone c + total (fun t => if writesNext t.rest then 1 else 0) c

/-- The card that a step reads. -/
def cardRead : Label DaemonIO World Value → Option TimeCard
  | .receive _ (.read (.timecardFresh _)) (.ok card) => card
  | _ => none

/-- The card that a step is answered with for a write. -/
def cardWritten : Label DaemonIO World Value → Option TimeCard
  | .receive _ (.write _ (.setTimecardHours _ _ _ _)) (.ok card) => some card
  | _ => none

/-- ServiceNow counts the writes of the card: a card that is read shows those that have
succeeded and perhaps some that were sent off, and a write that succeeds is counted in the
card it is answered with. -/
def CountsWrites (c : Config DaemonIO World Value JsonRpcResponse) (l : Label DaemonIO World Value) :
    Prop :=
  (∀ card ∈ cardRead l, ∃ n ∈ card.sysModCount, writesDone c ≤ n ∧ n ≤ writesSent c) ∧
  ∀ card ∈ cardWritten l, ∃ n ∈ card.sysModCount, writesDone c < n ∧ n ≤ writesSent c

instance (c : Config DaemonIO World Value JsonRpcResponse) (l : Label DaemonIO World Value) :
    Decidable (CountsWrites c l) := inferInstanceAs (Decidable (_ ∧ _))

/-- **Hours are added twice.**  Two calls read the card before either writes, so both find the
planned version and the token unspent, and both add their two hours. -/
theorem timecard_token_writes_twice :
    ∃ c, Run (daemon timecardState.crates (handleTimecardApplySetHours timecardState some))
        CountsWrites plannedWorld c ∧
      c.tasks.map (strikes presents "token-1") = [1, 1] := by
  have hplay : (play CountsWrites
      (scripted timecardState.crates (handleTimecardApplySetHours timecardState some)
        (cardServiceNow 2)) 50
      ⟨plannedWorld, [], none⟩
      [apply "key-1", apply "key-2", .resume 0, .resume 1, .resume 0, .resume 1]).map
        (fun c => c.tasks.map (strikes presents "token-1")) = some [1, 1] := by
    decide +kernel
  obtain ⟨c, hc, hstrikes⟩ := Option.map_eq_some_iff.mp hplay
  exact ⟨c, play_run .start hc, hstrikes⟩

end TimecardWrite

end SnowAgent
