import SnowAgent.CatalogSubmit
import SnowAgent.TokenSpend

/-! # Catalog orders and their token

A submit call consumes its token before it sends its order, and sends one order only, so
a token is good for one order whatever happens.  The token is not always left usable when
no order is sent: a call has consumed it before it marks its key and before it looks for
the order in its plan, and each of the two may still fail.
-/
namespace SnowAgent

open Json Interleaving Program

namespace CatalogWrite

/-- Whether an action sends an order. -/
def sendsOrder : DaemonAct → Bool
  | .write _ (.submitCatalogRequest _ _) => true
  | _ => false

/-- A step between the consumption and the order that fails: the mark of the key, or a
plan that is loaded without an order. -/
def mishap : Event DaemonIO → Bool
  | ⟨.store (.markApplyStarted _ _ _), .error _⟩ => true
  | ⟨.store (.getPlan _), .ok (some record)⟩ => !(orderOf record.planJson.plan).isOk
  | _ => false

/-- The orders that a path has sent. -/
def orders (past : List (Event DaemonIO)) : Nat := past.countP fun ev => sendsOrder ev.1

/-- How often a path has consumed the token. -/
def spendings (tokenId : String) (past : List (Event DaemonIO)) : Nat :=
  past.countP (spends tokenId)

theorem orders_append (past : List (Event DaemonIO)) (e : DaemonAct) (r : e.Ans) :
    orders (past ++ [⟨e, r⟩]) = orders past + if sendsOrder e then 1 else 0 := by
  simp [orders, List.countP_append, List.countP_cons]

theorem spendings_append (tokenId : String) (past : List (Event DaemonIO)) (e : DaemonAct)
    (r : e.Ans) :
    spendings tokenId (past ++ [⟨e, r⟩]) =
      spendings tokenId past + if spends tokenId ⟨e, r⟩ then 1 else 0 := by
  simp [spendings, List.countP_append, List.countP_cons]

/-- An order is sent only after the token was consumed, and only once. -/
def Prepaid (tokenId : String) (past : List (Event DaemonIO)) : DaemonAct → Prop
  | .write _ _ => spendings tokenId past ≠ 0 ∧ orders past = 0
  | _ => True

/-- A call that answers with an error and has sent no order has not consumed the token,
but for a mishap. -/
def Refunded (tokenId : String) (past : List (Event DaemonIO)) (response : JsonRpcResponse) :
    Prop :=
  response.isError = true → orders past = 0 →
    spendings tokenId past = 0 ∨ ∃ ev ∈ past, mishap ev = true

/-! ## The stages -/

variable {tokenId : String} {past : List (Event DaemonIO)} {excuse : Prop} {spent sent : Nat}

/-- What a path has sent, consumed and met with stays so over calm actions. -/
def Stands (tokenId : String) (sent spent : Nat) (excuse : Prop) (past : List (Event DaemonIO)) :
    Prop :=
  orders past = sent ∧ spendings tokenId past = spent ∧ (excuse → ∃ ev ∈ past, mishap ev = true)

theorem Stands.next {e : DaemonAct} (h : Stands tokenId sent spent excuse past) (he : calm e)
    (r : e.Ans) :
    Stands tokenId sent spent excuse (past ++ [⟨e, r⟩]) := by
  have hsent : sendsOrder e = false := by
    cases e with
    | write => exact absurd he id
    | _ => rfl
  have hspent : spends tokenId ⟨e, r⟩ = false := by
    by_contra hspends
    obtain ⟨now, binding, record, heq⟩ := spends_iff.mp (by simpa using hspends)
    cases heq
    exact he
  refine ⟨?_, ?_, fun hm => ?_⟩
  · rw [orders_append, hsent, h.1]
    rfl
  · rw [spendings_append, hspent, h.2.1]
    rfl
  · obtain ⟨ev, hev, hmishap⟩ := h.2.2 hm
    exact ⟨ev, List.mem_append_left _ hev, hmishap⟩

/-- A path that only goes on with calm actions. -/
theorem calm_stands {A : Type} {R : A → Prop} {p : Handler A} (hp : p.Uses calm R)
    (h : Stands tokenId sent spent excuse past) :
    Safe (trace DaemonIO) (Prepaid tokenId) p past fun past' a =>
      Stands tokenId sent spent excuse past' ∧ R a := by
  refine hp.safe h (fun past e _ he => ?_) fun past e r h he => h.next he r
  cases e with
  | write => exact absurd he id
  | _ => trivial

/-- What a call has paid for when it returns. -/
theorem Stands.refunded {response : JsonRpcResponse} (h : Stands tokenId sent spent excuse past)
    (hends : sent ≠ 0 ∨ spent = 0 ∨ excuse) :
    Refunded tokenId past response := by
  intro _ hsent
  rcases hends with hne | hzero | hm
  · exact absurd (h.1.symm.trans hsent) hne
  · exact .inl (h.2.1.trans hzero)
  · exact .inr (h.2.2 hm)

/-- A part of a handler prepays its order and is refunded at its end. -/
abbrev Accounts (tokenId : String) (p : Handler JsonRpcResponse) (past : List (Event DaemonIO)) :
    Prop :=
  Safe (trace DaemonIO) (Prepaid tokenId) p past (Refunded tokenId)

theorem calm_accounts {R : JsonRpcResponse → Prop} {p : Handler JsonRpcResponse}
    (hp : p.Uses calm R)
    (h : Stands tokenId sent spent excuse past) (hends : sent ≠ 0 ∨ spent = 0 ∨ excuse) :
    Accounts tokenId p past :=
  (calm_stands hp h).mono fun _ _ h' => h'.1.refunded hends

variable (state : DaemonState) {call : SubmitCall}

/-- The plan of a call has no order. -/
def NoOrder (call : SubmitCall) : Prop := (orderOf call.plan).isOk = false

theorem calm_settleOrder (applyStartedAt : DateTime) (result : CatalogSubmitResult) :
    (settleOrder call applyStartedAt result).Uses calm fun _ => True := by
  refine uses_perform trivial fun auditId => ?_
  refine uses_perform trivial fun completedAt => ?_
  refine uses_perform trivial fun saved => ?_
  cases saved with
  | error text => exact uses_pure trivial
  | ok _ => exact uses_perform trivial fun _ => uses_pure trivial

/-- A path that has presented the token. -/
theorem Stands.presented {now : DateTime} {binding : ConfirmationBinding}
    (h : Stands tokenId sent spent excuse past)
    (r : DaemonAct.Ans (.store (.consumeConfirmation now tokenId binding))) :
    Stands tokenId sent (spent + if r.isOk then 1 else 0) excuse
      (past ++ [⟨.store (.consumeConfirmation now tokenId binding), r⟩]) := by
  refine ⟨?_, ?_, fun hm => ?_⟩
  · rw [orders_append, h.1]
    rfl
  · rw [spendings_append, h.2.1]
    cases r with
    | error err => rfl
    | ok record => simp [spends, Except.isOk, Except.toBool]
  · obtain ⟨ev, hev, hmishap⟩ := h.2.2 hm
    exact ⟨ev, List.mem_append_left _ hev, hmishap⟩

/-- A path that has sent its order. -/
theorem Stands.ordered {e : DaemonAct} (h : Stands tokenId 0 spent excuse past)
    (he : sendsOrder e = true) (r : e.Ans) :
    Stands tokenId 1 spent False (past ++ [⟨e, r⟩]) := by
  have hspent : spends tokenId ⟨e, r⟩ = false := by
    by_contra hspends
    obtain ⟨now, binding, record, heq⟩ := spends_iff.mp (by simpa using hspends)
    cases heq
    cases he
  refine ⟨?_, ?_, fun hm => hm.elim⟩
  · rw [orders_append, he, h.1]
    rfl
  · rw [spendings_append, hspent, h.2.1]
    rfl

/-- **The order.**  A call that has consumed its token sends one order, or has met with a
mishap. -/
theorem placeOrder_accounts (h : Stands tokenId 0 1 (NoOrder call) past) :
    Accounts tokenId (placeOrder call) past := by
  refine safe_perform trivial fun applyStartedAt => ?_
  have hstarted := h.next (e := .now) trivial applyStartedAt
  refine safe_bind (safe_perform trivial fun now => ?_)
  have hnow := hstarted.next (e := .now) trivial now
  refine ⟨trivial, fun marked => ?_⟩
  have hmarked := hnow.next (e := .store (.markApplyStarted now call.key catalogSubmitTool))
    trivial marked
  cases marked with
  | error text =>
    intro _ _
    exact .inr ⟨_, List.mem_append_right _ (List.mem_singleton_self _), rfl⟩
  | ok _ =>
    cases horder : orderOf call.plan with
    | error text =>
      refine hmarked.refunded (.inr (.inr ?_))
      rw [NoOrder, horder]
      rfl
    | ok order =>
      refine ⟨⟨?_, hmarked.1⟩, fun answer => ?_⟩
      · exact fun hzero => absurd (hmarked.2.1.symm.trans hzero) Nat.one_ne_zero
      have hsent := hmarked.ordered
        (e := .write call.plan.planId (.submitCatalogRequest order.1 order.2)) rfl answer
      cases answer with
      | error text => exact hsent.refunded (.inl Nat.one_ne_zero)
      | ok result =>
        exact calm_accounts (calm_settleOrder _ _) hsent (.inl Nat.one_ne_zero)

/-- **The token.**  A call consumes its token and goes on with its order, or leaves the token
alone. -/
theorem spendToken_accounts (h : Stands call.token 0 0 (NoOrder call) past) :
    Accounts call.token (spendToken call) past := by
  refine safe_bind (safe_perform trivial fun now => ?_)
  have hnow := h.next (e := .now) trivial now
  refine ⟨trivial, fun consumed => ?_⟩
  have hpresented := hnow.presented consumed
  cases consumed with
  | error err => exact hpresented.refunded (.inr (.inl rfl))
  | ok record => exact placeOrder_accounts hpresented

theorem calm_validateReplayConfirmation :
    (validateReplayConfirmation call).Uses calm fun _ => True := by
  refine uses_perform trivial fun found => ?_
  rcases found with text | (_ | record)
  · exact uses_pure trivial
  · exact uses_pure trivial
  · exact (routine_validateConfirmationBinding record call.binding).mono
      (fun _ => calm_of_routine) fun _ => id

theorem reserveKey_accounts (h : Stands call.token 0 0 (NoOrder call) past) :
    Accounts call.token (reserveKey state call) past := by
  refine safe_bind (safe_perform trivial fun now => ?_)
  have hnow := h.next (e := .now) trivial now
  refine ⟨trivial, fun outcome => ?_⟩
  have hreserved := hnow.next (e := .store (.checkAndRecord now call.key catalogSubmitTool
    call.plan.opHash state.policy.idempotencyWindowSeconds)) trivial outcome
  rcases outcome with text | (_ | _ | receipt | _)
  · exact hreserved.refunded (.inr (.inl rfl))
  · exact spendToken_accounts hreserved
  · exact hreserved.refunded (.inr (.inl rfl))
  · refine safe_bind ((calm_stands calm_validateReplayConfirmation hreserved).mono ?_)
    rintro past' checked ⟨h', _⟩
    cases checked with
    | error err => exact h'.refunded (.inr (.inl rfl))
    | ok _ => exact h'.refunded (.inr (.inl rfl))
  · exact hreserved.refunded (.inr (.inl rfl))

/-! ## Before the key -/

variable (planId : String) {params : Value}

theorem calm_checkPlan (found : Option PlanStoreRecord) :
    (checkPlan planId found).Uses calm CalmRefusal fun plan =>
      ∃ record, found = some record ∧ plan = record.planJson.plan := by
  refine Gate.uses_bind (Gate.uses_require? (uses_pure trivial)) fun record hfound => ?_
  refine Gate.uses_bind (Gate.uses_require (uses_pure trivial)) fun _ _ => ?_
  refine Gate.uses_bind (Gate.uses_doing (performs trivial)) fun t _ => ?_
  have hexpired : CalmRefusal (do
      let _ ← Daemon.store (.markPlanExpired planId)
      return catalogError (-32053) "PLAN_EXPIRED" (obj [("plan_id", .string planId)])) :=
    uses_perform trivial fun _ => uses_pure trivial
  refine Gate.uses_bind (Gate.uses_require hexpired) fun _ _ => ?_
  refine Gate.uses_bind (Gate.uses_require (uses_pure trivial)) fun _ _ => ?_
  exact Gate.uses_pure ⟨record, hfound, rfl⟩

theorem calm_checkToken (token : String) (binding : ConfirmationBinding) :
    (checkToken token binding).Uses calm CalmRefusal fun _ => True := by
  refine Gate.uses_bind (Gate.uses_doing (performs trivial)) fun found _ => ?_
  rcases found with text | (_ | confirmation)
  · exact Gate.uses_answer (uses_pure trivial)
  · exact Gate.uses_answer (uses_pure trivial)
  · refine Gate.uses_bind (Gate.uses_doing ((routine_validateConfirmation confirmation
      binding).mono (fun _ => calm_of_routine) fun _ => id)) fun checked _ => ?_
    cases checked with
    | error err => exact Gate.uses_answer (uses_pure trivial)
    | ok _ => exact Gate.uses_pure trivial

theorem calm_requiredParam (params : Value) (field : String) :
    (requiredParam params field).Uses calm CalmRefusal fun value =>
      stringParam params field = some value :=
  Gate.uses_require? (uses_pure trivial)

/-- A gate before the token is consumed that only performs calm actions. -/
theorem calm_gate {A : Type} {R : A → Prop} {gate : Gate A} (hgate : gate.Uses calm CalmRefusal R)
    (h : Stands tokenId 0 0 excuse past) :
    gate.Safe (trace DaemonIO) (Prepaid tokenId) past (Refunded tokenId) fun past' a =>
      Stands tokenId 0 0 excuse past' ∧ R a := by
  refine Gate.Uses.safe hgate h (fun past e _ he => ?_) (fun past e r h he => h.next he r)
    fun past p h hp => calm_accounts hp.calm h (.inr (.inl rfl))
  cases e with
  | write => exact absurd he id
  | _ => trivial

/-- A plan that is loaded without an order is a mishap. -/
theorem loadPlan_safe (h : Stands tokenId 0 0 False past) :
    (loadPlan planId).Safe (trace DaemonIO) (Prepaid tokenId) past (Refunded tokenId)
      fun past' plan => Stands tokenId 0 0 ((orderOf plan).isOk = false) past' := by
  refine Gate.safe_bind ((calm_gate (Gate.uses_trying (performs trivial)
    fun _ => uses_pure trivial) h).mono ?_)
  rintro (past' : List (Event DaemonIO)) _ ⟨h', _⟩
  refine Gate.safe_bind (Gate.safe_trying ⟨trivial, fun found => ?_⟩)
  have hfound := h'.next (e := .store (.getPlan planId)) trivial found
  cases found with
  | error text => exact hfound.refunded (.inr (.inl rfl))
  | ok found =>
    have hmet : Stands tokenId 0 0
        (∃ record, found = some record ∧ (orderOf record.planJson.plan).isOk = false)
        (past' ++ [(⟨.store (.getPlan planId), .ok found⟩ : Event DaemonIO)]) := by
      refine ⟨hfound.1, hfound.2.1, ?_⟩
      rintro ⟨record, rfl, horder⟩
      refine ⟨_, List.mem_append_right _ (List.mem_singleton_self _), ?_⟩
      simp [mishap, horder]
    refine (calm_gate (calm_checkPlan planId found) hmet).mono ?_
    rintro past'' plan ⟨hmet', record, hrecord, rfl⟩
    exact ⟨hmet'.1, hmet'.2.1, fun horder => hmet'.2.2 ⟨record, hrecord, horder⟩⟩

/-- What a call has found out before it turns to its key. -/
theorem admitSubmit_safe (hparams : stringParam params "confirmation_token" = some tokenId)
    (h : Stands tokenId 0 0 False past) :
    (admitSubmit state params).Safe (trace DaemonIO) (Prepaid tokenId) past (Refunded tokenId)
      fun past' call => call.token = tokenId ∧ Stands tokenId 0 0 (NoOrder call) past' := by
  refine Gate.safe_bind ((calm_gate (Gate.uses_require (uses_pure trivial)) h).mono ?_)
  rintro past₁ _ ⟨h₁, _⟩
  refine Gate.safe_bind ((calm_gate (calm_requiredParam _ _) h₁).mono ?_)
  rintro past₂ planId ⟨h₂, _⟩
  refine Gate.safe_bind ((calm_gate (calm_requiredParam _ _) h₂).mono ?_)
  rintro past₃ token ⟨h₃, htoken⟩
  obtain rfl : token = tokenId := by
    rw [hparams] at htoken
    exact (Option.some.inj htoken).symm
  refine Gate.safe_bind ((calm_gate (calm_requiredParam _ _) h₃).mono ?_)
  rintro past₄ key ⟨h₄, _⟩
  refine Gate.safe_bind ((loadPlan_safe planId h₄).mono ?_)
  intro past₅ plan h₅
  refine Gate.safe_bind ((calm_gate (calm_checkToken _ _) h₅).mono ?_)
  rintro past₆ _ ⟨h₆, _⟩
  exact Gate.safe_pure ⟨rfl, h₆⟩

/-- **A submit call prepays its order** with the token it presents, and is refunded unless it
has met with a mishap. -/
theorem handleCatalogSubmitRequest_accounts
    (hparams : stringParam params "confirmation_token" = some tokenId) :
    Accounts tokenId (handleCatalogSubmitRequest state params) [] := by
  refine Gate.safe_enter ((admitSubmit_safe state hparams ⟨rfl, rfl, nofun⟩).mono ?_)
  rintro past call ⟨rfl, h⟩
  exact reserveKey_accounts state h

/-! ## Runs of submit calls -/

/-- The token a submit call presents. -/
def presents (params : Value) : Option String := stringParam params "confirmation_token"

/-- Whether a task's next action sends an order. -/
def ordersNext : Handler JsonRpcResponse → Bool
  | .act e _ => sendsOrder e
  | .pure _ => false

/-- The orders a task with the token has been answered, and the one it sends next or has
sent. -/
def placed (tokenId : String) (t : Task DaemonIO Value JsonRpcResponse) : Nat :=
  if presents t.call = some tokenId then
    orders t.past + if ordersNext t.rest then 1 else 0
  else 0

/-- Task `i` presents the token and has answered with an error, without an order. -/
def TurnedAway (tokenId : String) (c : Config DaemonIO World Value JsonRpcResponse) (i : Nat) :
    Prop :=
  ∃ t response, c.tasks[i]? = some t ∧ presents t.call = some tokenId ∧
    t.rest = .pure response ∧ response.isError = true ∧ orders t.past = 0

/-- The calls with a token send one order at most, after a consumption of their own; one that
is turned away leaves the row as it was when the run started, unless another call has
consumed the token. -/
structure OrderedOnce (tokenId : String) (world : World)
    (c : Config DaemonIO World Value JsonRpcResponse) : Prop where
  once : total (placed tokenId) c ≤ 1
  own : ∀ t ∈ c.tasks, placed tokenId t ≠ 0 → consumptions tokenId t ≠ 0
  usable : ∀ i, TurnedAway tokenId c i →
    (∀ record, world.stores.confirmations.row tokenId = some record →
      c.world.stores.confirmations.row tokenId = some record) ∨
    ∃ j u, j ≠ i ∧ c.tasks[j]? = some u ∧ consumptions tokenId u ≠ 0

/-- No key fails to be marked, and every plan that is loaded has its order. -/
def Uneventful (_ : Config DaemonIO World Value JsonRpcResponse)
    (l : Label DaemonIO World Value) : Prop :=
  ∀ ev ∈ l.event?, mishap ev = false

instance (c : Config DaemonIO World Value JsonRpcResponse) (l : Label DaemonIO World Value) :
    Decidable (Uneventful c l) :=
  inferInstanceAs (Decidable (∀ ev ∈ l.event?, mishap ev = false))

section Runs

variable {state}
  {allowed : Config DaemonIO World Value JsonRpcResponse → Label DaemonIO World Value → Prop}
  {world : World} {c : Config DaemonIO World Value JsonRpcResponse}
  {t : Task DaemonIO Value JsonRpcResponse}

section

variable (hrun : Run (daemon state.crates (handleCatalogSubmitRequest state)) allowed world c)

include hrun

/-- What is left of a task with the token, from its past. -/
theorem task_accounts
    {i : Nat} (ht : c.tasks[i]? = some t) (hp : presents t.call = some tokenId) :
    Accounts tokenId t.rest t.past :=
  hrun.safe_past (E := fun _ => Refunded tokenId) ht (handleCatalogSubmitRequest_accounts state hp)

/-- An order that is sent was paid for before, and is the only one. -/
theorem past_paid
    {i : Nat} (ht : c.tasks[i]? = some t) (hp : presents t.call = some tokenId) :
    orders t.past ≤ 1 ∧ (orders t.past ≠ 0 → spendings tokenId t.past ≠ 0) := by
  refine hrun.past_invariant (E := fun _ => Refunded tokenId)
    (I := fun past => orders past ≤ 1 ∧ (orders past ≠ 0 → spendings tokenId past ≠ 0)) ht
    (handleCatalogSubmitRequest_accounts state hp) ⟨Nat.zero_le _, fun h => absurd rfl h⟩ ?_
  intro past e r hpaid hok
  rw [orders_append, spendings_append]
  by_cases hsends : sendsOrder e = true
  · have hprepaid : spendings tokenId past ≠ 0 ∧ orders past = 0 := by
      cases e with
      | write => exact hok
      | _ => cases hsends
    rw [if_pos hsends, hprepaid.2]
    exact ⟨le_refl _, fun _ hzero => hprepaid.1 (by omega)⟩
  · rw [if_neg hsends]
    refine ⟨hpaid.1, fun hsent hzero => hpaid.2 hsent (by omega)⟩

/-- What a task orders, it has paid for. -/
theorem placed_le_consumptions
    (ht : t ∈ c.tasks) : placed tokenId t ≤ consumptions tokenId t := by
  obtain ⟨i, hi⟩ := List.mem_iff_getElem?.mp ht
  unfold placed
  by_cases hp : presents t.call = some tokenId
  · have hrest := task_accounts hrun hi hp
    obtain ⟨hone, hpaid⟩ := past_paid hrun hi hp
    have hspendings : spendings tokenId t.past = consumptions tokenId t := rfl
    rw [if_pos hp]
    by_cases hnext : ordersNext t.rest = true
    · -- the next order is prepaid, so it is the first
      have hprepaid : spendings tokenId t.past ≠ 0 ∧ orders t.past = 0 := by
        cases hr : t.rest with
        | pure response =>
          rw [hr] at hnext
          cases hnext
        | act e k =>
          rw [hr] at hnext hrest
          cases e with
          | write => exact hrest.1
          | _ => cases hnext
      rw [if_pos hnext]
      omega
    · rw [if_neg hnext]
      omega
  · rw [if_neg hp]
    exact Nat.zero_le _

end

/-- A plan for a catalog item. -/
def samplePlan : OperationPlan where
  planId := "plan-1"
  tool := catalogPlanTool
  target := none
  plannedChanges := obj [("item_sys_id", .string "item-1"), ("request_body", obj [])]
  opHash := "hash-1"

/-- A daemon that may submit catalog orders. -/
def catalogState : DaemonState :=
  { sampleState with policy := { sampleState.policy with tools := [sampleTool catalogSubmitTool] } }

/-- A world in which the plan has been made and confirmed. -/
def plannedWorld : World := confirmedWorld samplePlan catalogSubmitTool none

/-- A submit call for the plan. -/
def submit (key : String) : Move Value :=
  .call (obj [("plan_id", .string "plan-1"), ("confirmation_token", .string "token-1"),
    ("idempotency_key", .string key)])

/-- Whether the first call was turned away and the token is consumed. -/
def burnt (c : Config DaemonIO World Value JsonRpcResponse) : Bool :=
  match c.tasks with
  | [t] =>
    presents t.call = some "token-1" && orders t.past == 0 &&
      (match t.rest with
      | .pure response => response.isError
      | .act _ _ => false) &&
      (c.world.stores.confirmations.row "token-1").any (·.consumed)
  | _ => false

end Runs

end CatalogWrite

end SnowAgent
