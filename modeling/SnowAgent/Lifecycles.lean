import SnowAgent.ResourcePlanVersions
import SnowAgent.StoredReceipts
import SnowAgent.TokenSpend

/-! # The lives of plans, tokens and keys

All calls share the stores of plans, of confirmation tokens and of idempotency keys.  What the
stores promise over a whole run, they promise whatever the handlers do and however their
tasks interleave: what is loaded under an id is one plan, a token is consumed by one call that
presents what it was issued for, and a key stands for one operation.
-/
namespace SnowAgent

open Interleaving Program

section Lives

variable {Call : Type} {lib : Crates} {handle : Call → Handler JsonRpcResponse}
  {allowed : Config DaemonIO World Call JsonRpcResponse → Label DaemonIO World Call → Prop}
  {world : World} {c c' : Config DaemonIO World Call JsonRpcResponse}
  {l : Label DaemonIO World Call}

/-! ## Plans -/

/-- A call has loaded a row of the plan. -/
def Loads (planId : String) (p : PlanStoreRecord) : Event DaemonIO → Prop :=
  (· = ⟨.store (.getPlan planId), .ok (some p)⟩)

/-- All that is loaded of a plan has been stored by a call, and is one plan. -/
structure PlanLife (planId : String) (c : Config DaemonIO World Call JsonRpcResponse) : Prop where
  stored : ∀ p, Happened (Loads planId p) c → StoredBy c p
  one : ∀ p q, Happened (Loads planId p) c → Happened (Loads planId q) c → SamePlan p q

/-- **The life of a plan.**  In every run that starts without plans, and in which a plan is
stored under an id of its own, whatever rows of a plan the calls load were stored by a call,
and have one content, one version and one expiry. -/
theorem plan_life (hrun : Run (daemon lib handle) StoresNew world c)
    (hplans : ∀ planId, world.stores.plans.row planId = none) (planId : String) :
    PlanLife planId c := by
  constructor
  · rintro p ⟨i, t, ht, ev, hev, rfl⟩
    exact stored_of_load hrun hplans ht hev
  · rintro p q ⟨i, t, ht, ev, hev, rfl⟩ ⟨j, u, hu, ev', hev', rfl⟩
    obtain ⟨row, hrow, hsame⟩ := row_of_loaded hrun (fun _ hl _ => hl.once planId) ht hev
    obtain ⟨row', hrow', hsame'⟩ := row_of_loaded hrun (fun _ hl _ => hl.once planId) hu hev'
    obtain rfl := Option.some.inj (hrow.symm.trans hrow')
    exact hsame.trans hsame'.symm

/-! ## Tokens -/

variable {tokenId : String}

/-- Whether an event is an issuing of the token. -/
def issuesToken (tokenId : String) : Event DaemonIO → Bool
  | ⟨.store (.issueConfirmation _ id _ _ _), .ok _⟩ => id == tokenId
  | _ => false

/-- An issuing of the token for a binding, which is good for some time after an instant. -/
def IssuedFor (tokenId : String) (binding : ConfirmationBinding) (now : DateTime)
    (ev : Event DaemonIO) : Prop :=
  ∃ issuedAt planId ttlSeconds record,
    ev = ⟨.store (.issueConfirmation issuedAt tokenId planId binding ttlSeconds), .ok record⟩ ∧
      now < issuedAt + durationSeconds ttlSeconds

/-- A token is issued once and consumed once at most; and it has been issued for what the call
that has consumed it presented, and was good at that instant. -/
structure TokenLife (tokenId : String) (c : Config DaemonIO World Call JsonRpcResponse) :
    Prop where
  issuedOnce : total (countEvents (issuesToken tokenId)) c ≤ 1
  consumedOnce : total (countEvents (spends tokenId)) c ≤ 1
  consumedIssued : ∀ t ∈ c.tasks, ∀ now binding record,
    (⟨.store (.consumeConfirmation now tokenId binding), .ok record⟩ : Event DaemonIO) ∈ t.past →
      Happened (IssuedFor tokenId binding now) c

/-- What an issuing that succeeds does to the row of its token. -/
theorem World.issue_row {w w' : World} {now : DateTime} {planId : String}
    {binding : ConfirmationBinding} {ttlSeconds : Nat} {record : ConfirmationRecord}
    (ha : w.Answers lib (.store (.issueConfirmation now tokenId planId binding ttlSeconds))
      (.ok record) w') :
    w.stores.confirmations.row tokenId = none ∧
      w'.stores.confirmations.row tokenId = some record := by
  rcases ha with ⟨rfl, hanswer⟩ | ⟨_, text, hfailed⟩
  · cases hrow : w.stores.confirmations.row tokenId with
    | some found =>
      simp only [StoreCall.run, SqliteConfirmationStore.issue, hrow] at hanswer
      cases hanswer
    | none =>
      simp only [StoreCall.run, SqliteConfirmationStore.issue, hrow] at hanswer ⊢
      cases hanswer
      exact ⟨trivial, Table.row_put_self ..⟩
  · cases hfailed

/-- A row that an answer brings about is one of a token that has been issued. -/
theorem World.row_issued {w w' : World} {e : DaemonAct} {r : e.Ans} {row : ConfirmationRecord}
    (ha : w.Answers lib e r w') (hnone : w.stores.confirmations.row tokenId = none)
    (hrow : w'.stores.confirmations.row tokenId = some row) {now : DateTime}
    (hgood : now < row.expiresAt) : IssuedFor tokenId row.binding now ⟨e, r⟩ := by
  have hsame : w'.stores.confirmations ≠ w.stores.confirmations := by
    intro heq
    rw [heq, hnone] at hrow
    cases hrow
  rcases ha.stores with heq | ⟨call, rfl, hcall⟩
  · exact (hsame (by rw [heq])).elim
  · by_cases hconfirms : call.confirms = true
    · cases call <;> simp only [StoreCall.confirms, Bool.false_eq_true] at hconfirms
      case issueConfirmation issuedAt id planId binding ttlSeconds =>
        rcases ha with ⟨rfl, rfl⟩ | ⟨rfl, _⟩
        · cases hid : w.stores.confirmations.row id with
          | some found => simp [StoreCall.run, SqliteConfirmationStore.issue, hid, hnone] at hrow
          | none =>
            simp only [StoreCall.run, SqliteConfirmationStore.issue, hid] at hrow
            rcases Table.row_put_eq_some hrow with ⟨_, hold⟩ | ⟨rfl, rfl⟩
            · rw [hnone] at hold
              cases hold
            · refine ⟨issuedAt, planId, ttlSeconds, SqliteConfirmationStore.issuedRecord issuedAt
                tokenId planId binding ttlSeconds, ?_, hgood⟩
              simp only [StoreCall.run, SqliteConfirmationStore.issue, hid]
              rfl
        · exact (hsame rfl).elim
      case consumeConfirmation now' id binding =>
        rw [hcall] at hrow
        simp only [StoreCall.run] at hrow
        rcases SqliteConfirmationStore.consume_cases now' id binding w.stores.confirmations with
          ⟨err, hc⟩ | ⟨record, hid, _, _, hc⟩
        · rw [hc, hnone] at hrow
          cases hrow
        · rw [hc] at hrow
          rcases Table.row_put_eq_some hrow with ⟨_, hold⟩ | ⟨rfl, _⟩
          · rw [hnone] at hold
            cases hold
          · rw [hnone] at hid
            cases hid
    · refine (hsame ?_).elim
      rw [hcall, StoreCall.run_confirmations (by simpa using hconfirms)]

/-- **The life of a token.**  In every run that starts without tokens, all calls together are
issued a token once and consume it once at most, whatever the handlers do.  A call that has
consumed it presented what some call was issued the token for, before it expired. -/
theorem token_life (hrun : Run (daemon lib handle) allowed world c)
    (htokens : ∀ tokenId, world.stores.confirmations.row tokenId = none) (tokenId : String) :
    TokenLife tokenId c := by
  constructor
  · refine hrun.once (Q := fun w => ∃ row, w.stores.confirmations.row tokenId = some row) ?_ ?_
    · rintro c l c' ev - hs hev hissues
      unfold issuesToken at hissues
      split at hissues
      · obtain rfl := beq_iff_eq.mp hissues
        obtain ⟨hnone, hsome⟩ := World.issue_row (hs.answered hev)
        refine ⟨?_, _, hsome⟩
        rintro ⟨row, hrow⟩
        rw [hnone] at hrow
        cases hrow
      · cases hissues
    · rintro c l c' - hs ⟨row, hrow⟩
      obtain ⟨row', hrow', _⟩ := step_token hs hrow
      exact ⟨row', hrow'⟩
  · exact (run_spentOnce hrun).once
  · intro t ht now binding record hev
    obtain ⟨i, ht⟩ := List.mem_iff_getElem?.mp ht
    -- the row of the token, as the call needs it
    refine hrun.happened_before (Q := fun w => ∃ row, w.stores.confirmations.row tokenId =
      some row ∧ row.binding = binding ∧ now < row.expiresAt) ?_ ?_ ?_ ht hev ?_
    · rintro ⟨row, hrow, _⟩
      rw [htokens tokenId] at hrow
      cases hrow
    · rintro w e r w' ha ⟨row, hrow, rfl, hgood⟩
      cases hbefore : w.stores.confirmations.row tokenId with
      | none => exact .inr (World.row_issued ha hbefore hrow hgood)
      | some row₀ =>
        rcases ha.kept tokenId row₀ hbefore with hkept | hkept
        · obtain rfl := Option.some.inj (hkept.symm.trans hrow)
          exact .inl ⟨row₀, rfl, rfl, hgood⟩
        · obtain rfl := Option.some.inj (hkept.symm.trans hrow)
          exact .inl ⟨row₀, rfl, rfl, hgood⟩
    · rintro w _ ⟨_, _, _, rfl⟩ hrow
      exact hrow
    · rintro w w' (⟨_, hanswer⟩ | ⟨_, text, hfailed⟩)
      · rcases SqliteConfirmationStore.consume_cases now tokenId binding w.stores.confirmations
          with ⟨err, hc⟩ | ⟨row, hrow, hunspent, hbinding, _⟩
        · simp only [StoreCall.run, hc] at hanswer
          cases hanswer
        · exact ⟨row, hrow, hbinding, not_le.mp fun hle => hunspent (.inr (.inr hle))⟩
      · cases hfailed

/-! ## Keys -/

variable {key tool opHash opHash' : String}

/-- Whether an event is a reservation of the key that is told it is new. -/
def reservesNew (key tool : String) : Event DaemonIO → Bool
  | ⟨.store (.checkAndRecord _ key' tool' _ _), .ok .newKey⟩ => (key', tool') == (key, tool)
  | _ => false

/-- A reservation of the key for an operation that is told of no conflict. -/
def AcceptedFor (key tool opHash : String) (ev : Event DaemonIO) : Prop :=
  ∃ now window outcome, ev = ⟨.store (.checkAndRecord now key tool opHash window), .ok outcome⟩ ∧
    ∀ reason, outcome ≠ .conflict reason

/-- The key is reserved inside its window, if it is there. -/
def WithinWindow (key tool : String) (c : Config DaemonIO World Call JsonRpcResponse)
    (l : Label DaemonIO World Call) : Prop :=
  ∀ ev ∈ l.event?, ∀ x ∈ reserves ev, x.2 = (key, tool) →
    ∀ record ∈ c.world.stores.idempotency.row (key, tool), x.1 < record.expiresAt

instance (key tool : String) (c : Config DaemonIO World Call JsonRpcResponse)
    (l : Label DaemonIO World Call) : Decidable (WithinWindow key tool c l) :=
  inferInstanceAs (Decidable (∀ ev ∈ l.event?, _))

/-- One reservation of the key at most is told it is new, and all that are told of no conflict
are for one operation. -/
structure KeyLife (key tool : String) (c : Config DaemonIO World Call JsonRpcResponse) : Prop where
  newOnce : total (countEvents (reservesNew key tool)) c ≤ 1
  oneOperation : ∀ {opHash opHash'}, Happened (AcceptedFor key tool opHash) c →
    Happened (AcceptedFor key tool opHash') c → opHash = opHash'

/-- A reserved key stays reserved for its operation. -/
theorem step_reserved (hs : Step (daemon lib handle) c l c') (hinside : WithinWindow key tool c l)
    {record : IdempotencyRecord} (hrow : c.world.stores.idempotency.row (key, tool) = some record) :
    ∃ record', c'.world.stores.idempotency.row (key, tool) = some record' ∧
      record'.opHash = record.opHash := by
  rcases hs.world_cases with ⟨ev, hev⟩ | ⟨_, ⟨_, _, _, hw⟩ | hw⟩
  · rcases World.Answers.stores (hs.answered hev) with hsame | ⟨call, he, hcall⟩
    · exact ⟨record, by rw [hsame, hrow], rfl⟩
    · obtain ⟨e, r⟩ := ev
      obtain rfl : e = .store call := he
      obtain ⟨record', hrow', hhash, _⟩ := call.run_reserved lib hrow
        fun now hreserves => hinside _ hev (now, key, tool) hreserves rfl record hrow
      exact ⟨record', by rw [hcall, hrow'], hhash⟩
  · exact ⟨record, by rw [hw, hrow], rfl⟩
  · exact ⟨record, by rw [hw, hrow], rfl⟩

/-- What a reservation leaves that is told of no conflict; when it is told that the key is new and
comes inside its window, there was no row. -/
theorem reservation_answered {w w' : World} {now : DateTime} {window : Nat}
    {outcome : IdempotencyOutcome}
    (ha : w.Answers lib (.store (.checkAndRecord now key tool opHash window)) (.ok outcome) w')
    (hno : ∀ reason, outcome ≠ .conflict reason) :
    (∃ record, w'.stores.idempotency.row (key, tool) = some record ∧ record.opHash = opHash) ∧
      (outcome = .newKey → ∀ record ∈ w.stores.idempotency.row (key, tool),
        record.expiresAt ≤ now) := by
  rcases ha with ⟨rfl, hanswer⟩ | ⟨_, text, hfailed⟩
  · rcases SqliteIdempotencyStore.checkAndRecord_cases now key tool opHash window
      w.stores.idempotency with ⟨hcheck, hexpired⟩ | ⟨record, hrow, _, hcheck⟩
    · simp only [StoreCall.run, hcheck]
      exact ⟨⟨_, Table.row_put_self .., rfl⟩, fun _ => hexpired⟩
    · rcases hcheck with ⟨_, hcheck⟩ | ⟨hhash, _, hcheck⟩ | ⟨hhash, receipt, _, hcheck⟩
      · simp only [StoreCall.run, hcheck] at hanswer
        exact absurd (Except.ok.inj hanswer) (hno _)
      all_goals
        simp only [StoreCall.run, hcheck] at hanswer ⊢
        obtain rfl := Except.ok.inj hanswer
        refine ⟨⟨record, hrow, hhash⟩, fun hnew => ?_⟩
        cases hnew
  · cases hfailed

/-- **The life of a key.**  In every run in which a key is reserved inside its window only, one
call at most is told that the key is new; and all calls that are told it is new, pending or
to be replayed ask for one operation, whatever the handlers do. -/
theorem key_life (hrun : Run (daemon lib handle) (WithinWindow key tool) world c) :
    KeyLife key tool c := by
  constructor
  · refine hrun.once (Q := fun w => ∃ record, w.stores.idempotency.row (key, tool) = some record)
      ?_ ?_
    · rintro c l c' ev hinside hs hev hnew
      unfold reservesNew at hnew
      split at hnew
      · obtain ⟨rfl, rfl⟩ := Prod.mk.inj (beq_iff_eq.mp hnew)
        obtain ⟨⟨record, hrow, _⟩, hexpired⟩ := reservation_answered (hs.answered hev) nofun
        refine ⟨?_, record, hrow⟩
        rintro ⟨before, hbefore⟩
        exact absurd (hinside _ hev _ rfl rfl before hbefore)
          (not_lt.mpr (hexpired rfl before hbefore))
      · cases hnew
    · rintro c l c' hinside hs ⟨record, hrow⟩
      obtain ⟨record', hrow', _⟩ := step_reserved hs hinside hrow
      exact ⟨record', hrow'⟩
  · -- the row of the key stays with the operation of every reservation
    have hbound : ∀ {opHash}, Happened (AcceptedFor key tool opHash) c → ∃ record,
        c.world.stores.idempotency.row (key, tool) = some record ∧ record.opHash = opHash := by
      rintro opHash ⟨i, t, ht, ev, hev, haccepted⟩
      refine hrun.past_kept ht (W := fun ev c => AcceptedFor key tool opHash ev → ∃ record,
        c.world.stores.idempotency.row (key, tool) = some record ∧ record.opHash = opHash)
        ?_ ?_ ev hev haccepted
      · rintro c l c' _ - - hs hev ⟨now, window, outcome, rfl, hno⟩
        exact (reservation_answered (hs.answered hev) hno).1
      · intro c l c' ev _ hinside hs hkept haccepted
        obtain ⟨record, hrow, hhash⟩ := hkept haccepted
        obtain ⟨record', hrow', hhash'⟩ := step_reserved hs hinside hrow
        exact ⟨record', hrow', hhash'.trans hhash⟩
    intro opHash opHash' h h'
    obtain ⟨record, hrow, rfl⟩ := hbound h
    obtain ⟨record', hrow', rfl⟩ := hbound h'
    rw [hrow] at hrow'
    cases hrow'
    rfl

end Lives

/-! ## A sample run -/

namespace ResourcePlanWrite

/-- How often a plan is loaded, the token is issued and consumed, and the key is reserved anew. -/
def livesSeen (c : Config DaemonIO World PlanCall JsonRpcResponse) : List Nat :=
  [total (countEvents fun ev => (rowLoaded ev).isSome) c,
    total (countEvents (issuesToken "id-2")) c, total (countEvents (spends "id-2")) c,
    total (countEvents (reservesNew "id-1" "resource_plan_apply_decision")) c]

/-- A decision on a Resource Plan that is planned and applied. -/
theorem decision_lives :
    ∃ c, Run (daemon decisionState.crates (handlePlan plainPlanLib decisionState))
        (fun c l => StoresNew c l ∧ WithinWindow "id-1" "resource_plan_apply_decision" c l)
        emptyWorld c ∧ livesSeen c = [1, 1, 1, 1] := by
  have hplay : (play (fun c l => StoresNew c l ∧
      WithinWindow "id-1" "resource_plan_apply_decision" c l)
      (scripted decisionState.crates (handlePlan plainPlanLib decisionState)
        (planServiceNow legiblePlan legiblePlan)) 60 ⟨emptyWorld, [], none⟩
      (decisionMoves [("concurrency_token", (ConcurrencyToken.mk "2026-01-01 00:00:00"
        (some 1)).toJson)])).map livesSeen = some [1, 1, 1, 1] := by decide +kernel
  obtain ⟨c, hc, hseen⟩ := Option.map_eq_some_iff.mp hplay
  exact ⟨c, play_run .start hc, hseen⟩

theorem plan_life_decision : ∃ c, Run (daemon decisionState.crates
      (handlePlan plainPlanLib decisionState)) StoresNew emptyWorld c ∧
    livesSeen c = [1, 1, 1, 1] ∧ PlanLife "id-0" c := by
  obtain ⟨c, hrun, hseen⟩ := decision_lives
  have hnew := hrun.mono fun _ _ h => h.1
  exact ⟨c, hnew, hseen, plan_life hnew (fun _ => rfl) "id-0"⟩

theorem token_life_decision : ∃ c, Run (daemon decisionState.crates
      (handlePlan plainPlanLib decisionState)) (fun _ _ => True) emptyWorld c ∧
    livesSeen c = [1, 1, 1, 1] ∧ TokenLife "id-2" c := by
  obtain ⟨c, hrun, hseen⟩ := decision_lives
  exact ⟨c, hrun.mono fun _ _ _ => trivial, hseen, token_life hrun (fun _ => rfl) "id-2"⟩

theorem key_life_decision : ∃ c, Run (daemon decisionState.crates
      (handlePlan plainPlanLib decisionState))
      (WithinWindow "id-1" "resource_plan_apply_decision") emptyWorld c ∧
    livesSeen c = [1, 1, 1, 1] ∧ KeyLife "id-1" "resource_plan_apply_decision" c := by
  obtain ⟨c, hrun, hseen⟩ := decision_lives
  have hinside := hrun.mono fun _ _ h => h.2
  exact ⟨c, hinside, hseen, key_life hinside⟩

end ResourcePlanWrite

end SnowAgent
