import SnowAgent.StoredReceipts

/-! # Replays

A call that is made once more finds the plan, the token and the receipt of its first time.  It
passes the gates up to its key as it did then, and ends there with the receipt.
-/
namespace SnowAgent

open Json Interleaving Program

/-- The actions that neither write to ServiceNow nor read from it. -/
def silent : DaemonAct → Prop
  | .write _ _ | .read _ => False
  | _ => True

/-- The answer of a replay. -/
def Replayed (stored : OperationReceipt) (response : JsonRpcResponse) : Prop :=
  response = .ok (.receipt { stored with idempotencyReplay := true })

/-- The event of a plan that is loaded. -/
def loadedEvent (call : PlannedCall) : Event DaemonIO :=
  ⟨.store (.getPlan call.planId), .ok (some call.planRecord)⟩

/-- The event of a token that is consumed. -/
def consumedEvent (call : PlannedCall) (now : DateTime) (consumed : ConfirmationRecord) :
    Event DaemonIO :=
  ⟨.store (.consumeConfirmation now call.token call.binding), .ok consumed⟩

/-- A call that is made once more differs at most in the state of its plan. -/
structure SameCall (call call' : PlannedCall) : Prop where
  planId : call'.planId = call.planId
  token : call'.token = call.token
  key : call'.key = call.key
  tool : call'.tool = call.tool
  binding : call'.binding = call.binding
  plan : SamePlan call.planRecord call'.planRecord

/-- Arguments that name the same plan, token, key, actor and requester. -/
structure SameArguments (state : DaemonState) (params params' : Value) : Prop where
  planId : stringParam params' "plan_id" = stringParam params "plan_id"
  token : stringParam params' "confirmation_token" = stringParam params "confirmation_token"
  key : stringParam params' "idempotency_key" = stringParam params "idempotency_key"
  actor : actorFromParams params' state = actorFromParams params state
  requester : requesterFromParams params' (actorFromParams params' state) =
    requesterFromParams params (actorFromParams params state)

theorem SameArguments.refl (state : DaemonState) (params : Value) :
    SameArguments state params params := ⟨rfl, rfl, rfl, rfl, rfl⟩

instance (state : DaemonState) (params params' : Value) :
    Decidable (SameArguments state params params') :=
  decidable_of_iff (stringParam params' "plan_id" = stringParam params "plan_id" ∧
      stringParam params' "confirmation_token" = stringParam params "confirmation_token" ∧
      stringParam params' "idempotency_key" = stringParam params "idempotency_key" ∧
      actorFromParams params' state = actorFromParams params state ∧
      requesterFromParams params' (actorFromParams params' state) =
        requesterFromParams params (actorFromParams params state))
    ⟨fun ⟨h₁, h₂, h₃, h₄, h₅⟩ => ⟨h₁, h₂, h₃, h₄, h₅⟩,
      fun ⟨h₁, h₂, h₃, h₄, h₅⟩ => ⟨h₁, h₂, h₃, h₄, h₅⟩⟩

/-- A call with the same arguments and the same plan is the same call. -/
theorem sameCall_planned {state : DaemonState} {tool : String} {params params' : Value}
    {call : PlannedCall} {record : PlanStoreRecord} (hparams : SameArguments state params params')
    (hcall : call = plannedCall state tool params call.planId call.token call.key call.planRecord)
    (hsame : SamePlan call.planRecord record) :
    SameCall call (plannedCall state tool params' call.planId call.token call.key record) := by
  have hbinding : call.binding = (plannedCall state tool params call.planId call.token call.key
      call.planRecord).binding := congrArg PlannedCall.binding hcall
  refine ⟨rfl, rfl, rfl, (congrArg PlannedCall.tool hcall).symm, ?_, hsame⟩
  rw [hbinding]
  simp only [plannedCall, hsame.plan, hparams.requester]
  rw [hparams.actor]

section Passes

variable {call : PlannedCall} {stored : OperationReceipt} {expiresAt tokenExpiresAt : DateTime}
  {timely : DateTime → Prop} {fit : PlanStoreRecord → Prop}

/-- What holds of a gate of a replay. -/
abbrev Passes {A : Type} (call : PlannedCall) (stored : OperationReceipt)
    (expiresAt tokenExpiresAt : DateTime) (timely : DateTime → Prop)
    (fit : PlanStoreRecord → Prop) (gate : Gate A) (R : A → Prop) : Prop :=
  gate.Given (FindsReceipt call stored expiresAt tokenExpiresAt timely fit) silent
    (Replayed stored) R

/-- What holds of a part of a replay. -/
abbrev OnReplay {A : Type} (call : PlannedCall) (stored : OperationReceipt)
    (expiresAt tokenExpiresAt : DateTime) (timely : DateTime → Prop)
    (fit : PlanStoreRecord → Prop) (R : A → Prop) (p : Handler A) : Prop :=
  Program.Given (S := DaemonIO) (FindsReceipt call stored expiresAt tokenExpiresAt timely fit)
    silent R p

/-- No kill switch is found set. -/
theorem anyKillSwitch_off (names : List String) :
    OnReplay call stored expiresAt tokenExpiresAt timely fit (fun off => off = false)
      (anyKillSwitch names) := by
  induction names with
  | nil => exact rfl
  | cons name names ih =>
    refine given_perform trivial fun value hvalue => ?_
    rw [if_neg (by rw [show killSwitchSet value = false from hvalue]; exact nofun)]
    exact ih

variable {refuse : Refuse}

theorem passes_requireSwitchedOn {switched : Handler Bool}
    (hoff : OnReplay call stored expiresAt tokenExpiresAt timely fit
    (fun off => off = false) switched) :
    Passes call stored expiresAt tokenExpiresAt timely fit (requireSwitchedOn refuse switched)
      fun _ => True := by
  refine Gate.given_bind (Gate.given_doing hoff) fun off hoff => Gate.given_require ?_
  rw [hoff]
  rfl

/-- The plan that is loaded once more is the same. -/
theorem passes_findPlan :
    Passes call stored expiresAt tokenExpiresAt timely fit (findPlan refuse call.planId)
      fun record => SamePlan call.planRecord record ∧ fit record := by
  have hopened : Passes call stored expiresAt tokenExpiresAt timely fit
      (Gate.trying Daemon.openStores) fun _ => True :=
    Gate.given_trying ⟨trivial, fun opened hopened => ⟨(), hopened, trivial⟩⟩
  have hfound : Passes call stored expiresAt tokenExpiresAt timely fit
      (Gate.trying (Daemon.store (.getPlan call.planId))) fun found =>
        ∃ record : PlanStoreRecord, found = some record ∧
          SamePlan call.planRecord record ∧ fit record := by
    refine Gate.given_trying ⟨trivial, fun answer hanswer => ?_⟩
    obtain ⟨record, rfl, hplan⟩ := hanswer rfl
    exact ⟨some record, rfl, record, rfl, hplan⟩
  refine Gate.given_bind hopened fun _ _ => Gate.given_bind hfound ?_
  rintro _ ⟨record, rfl, hplan⟩
  exact Gate.given_pure hplan

variable {call' : PlannedCall}

/-- A plan that is not marked expired, and whose time is not up at any timely instant, is not
turned away. -/
theorem passes_rejectExpired {data : Value} (hstate : call'.planRecord.state ≠ .expired)
    (htimely : ∀ t, timely t → t < call'.planRecord.expiresAt) :
    Passes call stored expiresAt tokenExpiresAt timely fit (rejectExpired refuse call' data)
      fun _ => True := by
  have hexpired : OnReplay call stored expiresAt tokenExpiresAt timely fit
      (fun expired => expired = false) (planExpired call'.planRecord) := by
    unfold planExpired
    rw [if_neg hstate]
    refine given_perform trivial fun (t : DateTime) ht => ?_
    have htime : t < expiresAt ∧ timely t := ht
    exact decide_eq_false (not_le.mpr (htimely t htime.2))
  refine Gate.given_bind (Gate.given_doing hexpired) ?_
  rintro _ rfl
  exact Gate.given_require rfl

/-- A check of tokens that accepts the token of a replay. -/
def Accepts (call : PlannedCall) (stored : OperationReceipt)
    (expiresAt tokenExpiresAt : DateTime) (timely : DateTime → Prop)
    (fit : PlanStoreRecord → Prop) (validate : Validate) : Prop :=
  ∀ row : ConfirmationRecord, ∀ binding, row.binding = binding → row.revoked = false →
    row.expiresAt = tokenExpiresAt →
    OnReplay call stored expiresAt tokenExpiresAt timely fit (fun checked => checked = .ok ())
      (validate row binding)

/-- A row that is bound to the caller and good at every timely instant is valid. -/
theorem accepts_validateConfirmationBinding (htimely : ∀ t, timely t → t < tokenExpiresAt) :
    Accepts call stored expiresAt tokenExpiresAt timely fit validateConfirmationBinding := by
  intro row binding hbinding hrevoked hexpires
  unfold validateConfirmationBinding
  rw [if_neg (by simp [hrevoked])]
  refine given_perform trivial fun (t : DateTime) ht => ?_
  have htime : t < expiresAt ∧ timely t := ht
  have hvalid : ¬ row.expiresAt ≤ t := by
    rw [hexpires]
    exact not_le.mpr (htimely t htime.2)
  rw [if_neg hvalid, ConfirmationRecord.mismatch_eq_none.mpr hbinding]
  rfl

theorem replayReceipt_given {validate : Validate}
    (haccepts : Accepts call stored expiresAt tokenExpiresAt timely fit validate)
    (hsame : SameCall call call') :
    OnReplay call stored expiresAt tokenExpiresAt timely fit (Replayed stored)
      (replayReceipt refuse validate call' stored) := by
  refine given_perform trivial fun answer hanswer => ?_
  obtain ⟨row, rfl, hbinding, hrevoked, hexpires⟩ := hanswer hsame.token
  refine given_bind (haccepts row _ (hbinding.trans hsame.binding.symm) hrevoked hexpires) ?_
  rintro _ rfl
  exact rfl

/-- The key is found in force, with a receipt of the operation. -/
theorem keyInForce_given (hsame : SameCall call call') :
    OnReplay call stored expiresAt tokenExpiresAt timely fit
      (fun found => ∃ record : IdempotencyRecord, found = some record ∧
        record.receipt = some stored ∧ record.opHash = call.plan.opHash)
      (keyInForce call'.key call'.tool) := by
  refine given_perform trivial fun answer hanswer => ?_
  obtain ⟨record, rfl, hreceipt, hhash, hexpires⟩ := hanswer hsame.key hsame.tool
  refine given_perform trivial fun (t : DateTime) ht => ?_
  have htime : t < expiresAt ∧ timely t := ht
  refine ⟨record, ?_, hreceipt, hhash⟩
  rw [if_pos (by rw [hexpires]; exact htime.1)]

/-- **A replay ends at its key**, with its receipt. -/
theorem passes_checkKey {replay : OperationReceipt → Handler JsonRpcResponse}
    {conflict : IdempotencyRecord → Value}
    {pending : Option (IdempotencyRecord → Handler JsonRpcResponse)}
    (hsame : SameCall call call')
    (hreplay : OnReplay call stored expiresAt tokenExpiresAt timely fit (Replayed stored)
      (replay stored)) :
    Passes call stored expiresAt tokenExpiresAt timely fit
      (checkKey refuse replay conflict pending call') fun _ => False := by
  refine Gate.given_bind (Gate.given_doing (keyInForce_given hsame)) ?_
  rintro _ ⟨record, rfl, hreceipt, hhash⟩
  have hop : decide (record.opHash = call'.plan.opHash) = true := by
    rw [hhash, PlannedCall.plan, PlannedCall.plan, hsame.plan.plan]
    exact decide_eq_true rfl
  refine Gate.given_bind (Gate.given_require hop) fun _ _ => ?_
  rw [hreceipt]
  exact Gate.given_answer hreplay

end Passes

end SnowAgent
