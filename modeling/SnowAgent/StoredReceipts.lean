import SnowAgent.PlanRows
import SnowAgent.PlannedToken

/-! # What a settled call leaves in the stores

A planned call that has written leaves the plan it was for, the row of the token it consumed
and the receipt it saved under its key.  As long as no plan is stored anew and the key is
asked for inside its window only, all three stay, whatever other calls do; so a call that
comes back with the same arguments finds them.
-/
namespace SnowAgent

open Json Interleaving Program

/-- The actions that store no plan. -/
def keepsPlans : DaemonAct → Prop
  | .store (.putPlan _) => False
  | _ => True

variable {e : DaemonAct}

theorem keepsPlans_of_calm (h : calm e) : keepsPlans e := by
  cases e with
  | store call => cases call <;> first | exact h | trivial
  | _ => trivial

theorem rowStored_of_keepsPlans (h : keepsPlans e) (r : e.Ans) : rowStored ⟨e, r⟩ = none := by
  cases e with
  | store call => cases call <;> first | exact absurd h id | rfl
  | _ => rfl

/-- A step whose action stores no plan stores none anew. -/
theorem storesNew_of_keepsPlans {Call : Type} {c : Config DaemonIO World Call JsonRpcResponse}
    {l : Label DaemonIO World Call} (h : ∀ ev ∈ l.event?, keepsPlans ev.1) : StoresNew c l := by
  intro ev hev row hrow
  rw [rowStored_of_keepsPlans (h ev hev) ev.2] at hrow
  cases hrow

/-- A gate that prepares a write stores no plan. -/
theorem keepsPlans_of_prepares {A : Type} {R : A → Prop} {gate : Gate A}
    (hgate : gate.Uses prepares CalmRefusal R) :
    gate.Uses keepsPlans (fun p => p.Uses keepsPlans fun _ => True) R :=
  hgate.mono (fun _ he => keepsPlans_of_calm (calm_of_prepares he))
    (fun _ hp => hp.calm.mono (fun _ => keepsPlans_of_calm) fun _ => id) fun _ => id

/-! ## Settling a write -/

/-- The event of a receipt that is saved. -/
def savedEvent (key : String) (receipt : OperationReceipt) : Event DaemonIO :=
  ⟨.store (.saveReceipt key receipt), .ok ()⟩

/-- Whether an event is a statement for an audit or a receipt that has failed. -/
def mishap : Event DaemonIO → Bool
  | ⟨.openStores, .error _⟩ | ⟨.store (.enforceRetention ..), .error _⟩
  | ⟨.store (.appendAudit ..), .error _⟩ | ⟨.store (.saveReceipt _ _), .error _⟩ => true
  | _ => false

/-- A statement has failed. -/
def Failed (past : List (Event DaemonIO)) : Prop := ∃ ev ∈ past, mishap ev = true

/-- What an event appends, and to which sink. -/
def appended : Event DaemonIO → Option (String × AuditEvent)
  | ⟨.store (.appendAudit path _ event), .ok _⟩ => some (path, event)
  | _ => none

/-- Only events of one status are appended. -/
def OnlyAudits (status : ResultStatus) (past : List (Event DaemonIO)) : Prop :=
  ∀ ev ∈ past, ∀ x ∈ appended ev, x.2.resultStatus = status

/-- An event of a status has been appended to a sink, under a parent. -/
def Audited (path : String) (status : ResultStatus) (parentAuditId : Option String)
    (past : List (Event DaemonIO)) : Prop :=
  ∃ ev ∈ past, ∃ event, appended ev = some (path, event) ∧ event.resultStatus = status ∧
    event.parentAuditId = parentAuditId

section Settling

variable (trail : AuditTrail) (state : DaemonState) {past more : List (Event DaemonIO)}

variable {status : ResultStatus}

theorem onlyAudits_append (h : OnlyAudits status past)
    (hmore : OnlyAudits status more) : OnlyAudits status (past ++ more) := by
  intro ev hev
  rcases List.mem_append.mp hev with hev | hev
  · exact h ev hev
  · exact hmore ev hev

theorem Failed.before (h : Failed past) (more : List (Event DaemonIO)) : Failed (past ++ more) := by
  obtain ⟨ev, hev, hmishap⟩ := h
  exact ⟨ev, List.mem_append_left more hev, hmishap⟩

variable {parentAuditId : Option String} {path : String}

theorem Audited.before (h : Audited path status parentAuditId past)
    (more : List (Event DaemonIO)) :
    Audited path status parentAuditId (past ++ more) := by
  obtain ⟨ev, hev, haudited⟩ := h
  exact ⟨ev, List.mem_append_left more hev, haudited⟩

theorem Failed.after (h : Failed more) (past : List (Event DaemonIO)) : Failed (past ++ more) := by
  obtain ⟨ev, hev, hmishap⟩ := h
  exact ⟨ev, List.mem_append_right past hev, hmishap⟩

theorem Audited.after (h : Audited path status parentAuditId more) (past : List (Event DaemonIO)) :
    Audited path status parentAuditId (past ++ more) := by
  obtain ⟨ev, hev, haudited⟩ := h
  exact ⟨ev, List.mem_append_right past hev, haudited⟩

theorem retain_audits (status : ResultStatus) :
    Safe (trace DaemonIO) (fun _ _ => True) trail.retain []
      fun (more : List (Event DaemonIO)) retained =>
        OnlyAudits status more ∧ (retained.isOk = false → Failed more) := by
  unfold AuditTrail.retain
  split
  · exact ⟨by simp [OnlyAudits], nofun⟩
  · refine safe_perform trivial fun (t : DateTime) => ?_
    refine safe_perform trivial fun deleted => ?_
    cases deleted with
    | error text =>
      refine ⟨by simp [OnlyAudits, trace, appended], fun _ => ?_⟩
      exact ⟨_, List.mem_append_right _ (List.mem_singleton_self _), rfl⟩
    | ok n => exact ⟨by simp [OnlyAudits, trace, appended], nofun⟩

/-- An audit appends its note, unless a statement fails. -/
theorem append_audits (note : AuditNote) :
    Safe (trace DaemonIO) (fun _ _ => True) (trail.append state note) []
      fun (more : List (Event DaemonIO)) answer => OnlyAudits note.status more ∧
        (Failed more ∨ answer.isOk = true ∧
          Audited trail.path note.status note.parentAuditId more) := by
  refine safe_perform trivial fun opened => ?_
  cases opened with
  | error text =>
    exact ⟨by simp [OnlyAudits, trace, appended], .inl ⟨_, List.mem_singleton_self _, rfl⟩⟩
  | ok _ =>
    refine safe_bind ((safe_after (retain_audits trail note.status) _).mono ?_)
    rintro _ retained ⟨more, rfl, honly, hretained⟩
    have hstart : OnlyAudits note.status ([(⟨.openStores, .ok ()⟩ : Event DaemonIO)] ++ more) :=
      onlyAudits_append (by simp [OnlyAudits, appended]) honly
    cases retained with
    | error text =>
      obtain ⟨ev, hev, hmishap⟩ := hretained rfl
      exact ⟨hstart, .inl ⟨ev, List.mem_append_right _ hev, hmishap⟩⟩
    | ok _ =>
      refine safe_perform trivial fun (t : DateTime) => ?_
      refine safe_perform trivial fun (now : DateTime) => ⟨trivial, fun answer => ?_⟩
      have honly' : OnlyAudits note.status ([(⟨.openStores, .ok ()⟩ : Event DaemonIO)] ++ more ++
          [(⟨.now, t⟩ : Event DaemonIO)] ++ [(⟨.now, now⟩ : Event DaemonIO)] ++
          [(⟨.store (.appendAudit trail.path now (note.event state t
            (trail.decisions note.tool note.status note.error))), answer⟩ :
              Event DaemonIO)]) := by
        refine onlyAudits_append (onlyAudits_append (onlyAudits_append hstart ?_) ?_) ?_
        · simp [OnlyAudits, appended]
        · simp [OnlyAudits, appended]
        · cases answer <;> simp [OnlyAudits, appended, AuditNote.event]
      cases answer with
      | error text =>
        exact ⟨honly', .inl ⟨_, List.mem_append_right _ (List.mem_singleton_self _), rfl⟩⟩
      | ok event =>
        exact ⟨honly', .inr ⟨rfl, _, List.mem_append_right _ (List.mem_singleton_self _),
          _, rfl, rfl, rfl⟩⟩

/-- **Settling a write.**  Unless a statement fails, the write is audited, its receipt is saved,
and the call answers with it; nothing else is audited. -/
theorem settleReceipt_settles (call : PlannedCall) (note : AuditNote) (receipt : OperationReceipt) :
    Safe (trace DaemonIO) (fun _ _ => True) (settleReceipt trail state call note receipt) []
      fun (more : List (Event DaemonIO)) response => OnlyAudits note.status more ∧
        (Failed more ∨ Audited trail.path note.status note.parentAuditId more ∧
          savedEvent call.key receipt ∈ more ∧ response = .ok (.receipt receipt)) := by
  refine safe_bind ((append_audits trail state note).mono ?_)
  rintro (more : List (Event DaemonIO)) answer ⟨honly, haudited⟩
  cases answer with
  | error text => exact ⟨honly, haudited.imp_right fun h => absurd h.1 nofun⟩
  | ok event =>
    refine safe_perform trivial fun saved => ?_
    have hsaved : OnlyAudits note.status
        (more ++ [(⟨.store (.saveReceipt call.key receipt), saved⟩ : Event DaemonIO)]) :=
      onlyAudits_append honly (by simp [OnlyAudits, appended])
    cases saved with
    | error text =>
      exact ⟨hsaved, .inl ⟨_, List.mem_append_right _ (List.mem_singleton_self _), rfl⟩⟩
    | ok _ =>
      refine safe_perform trivial fun marked => ?_
      refine ⟨onlyAudits_append hsaved (by simp [OnlyAudits, appended]), ?_⟩
      rcases haudited with hfailed | ⟨_, haudited⟩
      · exact .inl ((hfailed.before _).before _)
      · refine .inr ⟨(haudited.before _).before _, ?_, rfl⟩
        exact List.mem_append_left _ (List.mem_append_right _ (List.mem_singleton_self _))

end Settling

/-! ## The rows of a store call -/

/-- A reservation, with its instant, its key and its tool. -/
def StoreCall.reservation? : StoreCall → Option (DateTime × String × String)
  | .checkAndRecord now key tool _ _ => some (now, key, tool)
  | _ => none

/-- The row of a key that holds a receipt: for which operation, until when, and the receipt. -/
def HoldsReceipt (store : SqliteIdempotencyStore) (key tool opHash : String)
    (expiresAt : DateTime) (receipt : OperationReceipt) : Prop :=
  ∃ record, store.row (key, tool) = some record ∧ record.receipt = some receipt ∧
    record.opHash = opHash ∧ record.expiresAt = expiresAt

/-- **A reservation stays.**  A call of a store that does not reserve a key after its window
leaves its row to its operation, with its expiry; and with its receipt, if it holds one and no
other is saved there. -/
theorem StoreCall.run_reserved {call : StoreCall} (lib : Crates) {s : Stores} {key tool : String}
    {record : IdempotencyRecord} (hrow : s.idempotency.row (key, tool) = some record)
    (hinside : ∀ now, call.reservation? = some (now, key, tool) → now < record.expiresAt) :
    ∃ record', (call.run lib s).1.idempotency.row (key, tool) = some record' ∧
      record'.opHash = record.opHash ∧ record'.expiresAt = record.expiresAt ∧
      (record.receipt.isSome → (∀ saved, call = .saveReceipt key saved → saved.tool ≠ tool) →
        record'.receipt = record.receipt) := by
  have hupdate : ∀ {key' tool'} {f : IdempotencyRecord → IdempotencyRecord},
      (f record).opHash = record.opHash ∧ (f record).expiresAt = record.expiresAt →
      ((key, tool) = (key', tool') → record.receipt.isSome →
        (∀ saved, call = .saveReceipt key saved → saved.tool ≠ tool) →
          (f record).receipt = record.receipt) →
      ∃ record', (s.idempotency.update (key', tool') f).row (key, tool) = some record' ∧
        record'.opHash = record.opHash ∧ record'.expiresAt = record.expiresAt ∧
        (record.receipt.isSome → (∀ saved, call = .saveReceipt key saved → saved.tool ≠ tool) →
          record'.receipt = record.receipt) := by
    rintro key' tool' f ⟨hhash, hexpires⟩ hreceipt
    by_cases hkey : (key, tool) = (key', tool')
    · refine ⟨f record, ?_, hhash, hexpires, hreceipt hkey⟩
      rw [← hkey, Table.row_update_self, hrow]
      rfl
    · exact ⟨record, by rw [Table.row_update_of_ne _ _ hkey, hrow], rfl, rfl, fun _ _ => rfl⟩
  cases call with
  | checkAndRecord now key' tool' opHash' window =>
    simp only [StoreCall.run]
    rcases SqliteIdempotencyStore.checkAndRecord_cases now key' tool' opHash' window
        s.idempotency with ⟨hcheck, hexpired⟩ | ⟨_, _, _, hcheck⟩
    · rw [hcheck]
      by_cases hkey : (key, tool) = (key', tool')
      · obtain ⟨rfl, rfl⟩ := Prod.mk.inj hkey
        exact absurd (hinside now rfl) (not_lt.mpr (hexpired record hrow))
      · exact ⟨record, by rw [Table.row_put_of_ne _ _ hkey, hrow], rfl, rfl, fun _ _ => rfl⟩
    · rcases hcheck with ⟨_, hcheck⟩ | ⟨_, _, hcheck⟩ | ⟨_, _, _, hcheck⟩
      all_goals
        rw [hcheck]
        exact ⟨record, hrow, rfl, rfl, fun _ _ => rfl⟩
  | tryMarkApplyStarted now key' tool' =>
    refine hupdate ?_ fun _ hsome _ => ?_
    · split <;> exact ⟨rfl, rfl⟩
    · have hunclaimable : SqliteIdempotencyStore.claimable record = false := by
        simp [SqliteIdempotencyStore.claimable, hsome]
      simp [hunclaimable]
  | markApplyStarted now key' tool' => exact hupdate ⟨rfl, rfl⟩ fun _ _ _ => rfl
  | clearApplyStarted key' tool' =>
    refine hupdate ?_ fun _ hsome _ => ?_
    · split <;> exact ⟨rfl, rfl⟩
    · simp [Option.isSome_iff_ne_none.mp hsome]
  | saveReceipt key' saved =>
    refine hupdate ⟨rfl, rfl⟩ fun hkey _ hsaves => ?_
    obtain ⟨rfl, rfl⟩ := Prod.mk.inj hkey
    exact absurd rfl (hsaves saved rfl)
  | _ =>
    refine ⟨record, ?_, rfl, rfl, fun _ _ => rfl⟩
    simp only [StoreCall.run]
    (try split) <;> exact hrow

/-- **A stored receipt stays.**  A call of a store leaves a receipt under its key, unless it
reserves the key after its window or saves another receipt there. -/
theorem StoreCall.run_holds {call : StoreCall} {lib : Crates} {s : Stores}
    {key tool opHash : String} {expiresAt : DateTime} {receipt : OperationReceipt}
    (h : HoldsReceipt s.idempotency key tool opHash expiresAt receipt)
    (hinside : ∀ now, call.reservation? = some (now, key, tool) → now < expiresAt)
    (hsaves : ∀ saved, call = .saveReceipt key saved → saved.tool ≠ tool) :
    HoldsReceipt (call.run lib s).1.idempotency key tool opHash expiresAt receipt := by
  obtain ⟨record, hrow, hreceipt, rfl, rfl⟩ := h
  obtain ⟨record', hrow', hhash, hexpires, hsame⟩ := call.run_reserved lib hrow hinside
  have hkept := hsame (by rw [hreceipt]; rfl) hsaves
  exact ⟨record', hrow', hkept.trans hreceipt, hhash, hexpires⟩

/-! ## What a replay finds -/

/-- The key that an event reserves, with its instant. -/
def reserves : Event DaemonIO → Option (DateTime × String × String)
  | ⟨.store call, _⟩ => call.reservation?
  | _ => none

/-- The receipt that an event is to save, with its key. -/
def saves : Event DaemonIO → Option (String × OperationReceipt)
  | ⟨.store (.saveReceipt key receipt), _⟩ => some (key, receipt)
  | _ => none

section Runs

variable {Call : Type} {lib : Crates} {handle : Call → Handler JsonRpcResponse}

/-- The plan of a call, the row of its token and its receipt under its key: until when the two
are good is fixed. -/
structure Replayable (call : PlannedCall) (receipt : OperationReceipt)
    (expiresAt tokenExpiresAt : DateTime) (c : Config DaemonIO World Call JsonRpcResponse) :
    Prop where
  plan : ∃ row, c.world.stores.plans.row call.planId = some row ∧ SamePlan call.planRecord row
  token : ∃ row, c.world.stores.confirmations.row call.token = some row ∧
    row.binding = call.binding ∧ row.revoked = false ∧ row.expiresAt = tokenExpiresAt
  key : HoldsReceipt c.world.stores.idempotency call.key call.tool call.plan.opHash expiresAt
    receipt

/-- A reservation finds the receipt of its key, if there is one, inside its window. -/
def Inside (c : Config DaemonIO World Call JsonRpcResponse) (l : Label DaemonIO World Call) :
    Prop :=
  ∀ ev ∈ l.event?, ∀ x ∈ reserves ev, ∀ record ∈ c.world.stores.idempotency.row x.2,
    record.receipt.isSome → x.1 < record.expiresAt

instance (c : Config DaemonIO World Call JsonRpcResponse) (l : Label DaemonIO World Call) :
    Decidable (Inside c l) := inferInstanceAs (Decidable (∀ ev ∈ l.event?, _))

/-- A receipt is saved over a reservation of its own operation that holds none. -/
def SavesOwnKey (c : Config DaemonIO World Call JsonRpcResponse) (l : Label DaemonIO World Call) :
    Prop :=
  ∀ ev ∈ l.event?, ∀ x ∈ saves ev, ∃ record ∈ c.world.stores.idempotency.row (x.1, x.2.tool),
    record.opHash = x.2.opHash ∧ record.receipt.isNone

instance (c : Config DaemonIO World Call JsonRpcResponse) (l : Label DaemonIO World Call) :
    Decidable (SavesOwnKey c l) := inferInstanceAs (Decidable (∀ ev ∈ l.event?, _))

/-- A step that leaves alone a plan and what is under a key: the plan is not stored once more, the
key is reserved inside the window of its receipt only, and a receipt is saved under it only
over a reservation of its own operation that holds none. -/
structure LeavesAlone (planId key tool : String) (c : Config DaemonIO World Call JsonRpcResponse)
    (l : Label DaemonIO World Call) : Prop where
  plan : StoresPlanOnce planId c l
  inside : ∀ ev ∈ l.event?, ∀ x ∈ reserves ev, x.2 = (key, tool) →
    ∀ record ∈ c.world.stores.idempotency.row (key, tool), record.receipt.isSome →
      x.1 < record.expiresAt
  owns : ∀ ev ∈ l.event?, ∀ x ∈ saves ev, (x.1, x.2.tool) = (key, tool) →
    ∃ record ∈ c.world.stores.idempotency.row (key, tool),
      record.opHash = x.2.opHash ∧ record.receipt.isNone

instance (planId key tool : String) (c : Config DaemonIO World Call JsonRpcResponse)
    (l : Label DaemonIO World Call) : Decidable (LeavesAlone planId key tool c l) :=
  decidable_of_iff (StoresPlanOnce planId c l ∧
      (∀ ev ∈ l.event?, ∀ x ∈ reserves ev, x.2 = (key, tool) →
        ∀ record ∈ c.world.stores.idempotency.row (key, tool), record.receipt.isSome →
          x.1 < record.expiresAt) ∧
      ∀ ev ∈ l.event?, ∀ x ∈ saves ev, (x.1, x.2.tool) = (key, tool) →
        ∃ record ∈ c.world.stores.idempotency.row (key, tool),
          record.opHash = x.2.opHash ∧ record.receipt.isNone)
    ⟨fun ⟨h₁, h₂, h₃⟩ => ⟨h₁, h₂, h₃⟩, fun ⟨h₁, h₂, h₃⟩ => ⟨h₁, h₂, h₃⟩⟩

variable {c c' : Config DaemonIO World Call JsonRpcResponse} {l : Label DaemonIO World Call}

/-- A step that leaves every plan and every key alone. -/
theorem LeavesAlone.of_all (hnew : StoresNew c l) (hinside : Inside c l) (howns : SavesOwnKey c l)
    (planId key tool : String) : LeavesAlone planId key tool c l := by
  refine ⟨hnew.once planId, ?_, ?_⟩
  · rintro ev hev ⟨now, _⟩ hx rfl
    exact hinside ev hev _ hx
  · rintro ev hev ⟨key', saved⟩ hx heq
    rw [← heq]
    exact howns ev hev _ hx

/-- No step removes or rebinds a confirmation. -/
theorem step_kept (hs : Step (daemon lib handle) c l c') :
    SqliteConfirmationStore.Kept c.world.stores.confirmations c'.world.stores.confirmations := by
  rcases step_stores hs with ⟨_, _, ha⟩ | ⟨_, hsame⟩
  · exact ha.kept
  · exact hsame ▸ SqliteConfirmationStore.Kept.refl _

variable {tokenId : String}

theorem step_token {row : ConfirmationRecord} (hs : Step (daemon lib handle) c l c')
    (hrow : c.world.stores.confirmations.row tokenId = some row) :
    ∃ row', c'.world.stores.confirmations.row tokenId = some row' ∧ row'.binding = row.binding ∧
      row'.revoked = row.revoked ∧ row'.expiresAt = row.expiresAt := by
  rcases step_kept hs tokenId row hrow with hrow' | hrow'
  · exact ⟨row, hrow', rfl, rfl, rfl⟩
  · exact ⟨_, hrow', rfl, rfl, rfl⟩

/-- A stored receipt stays. -/
theorem step_key {planId key tool opHash : String} {expiresAt : DateTime}
    {receipt : OperationReceipt} (hs : Step (daemon lib handle) c l c')
    (hleaves : LeavesAlone planId key tool c l)
    (h : HoldsReceipt c.world.stores.idempotency key tool opHash expiresAt receipt) :
    HoldsReceipt c'.world.stores.idempotency key tool opHash expiresAt receipt := by
  obtain ⟨record, hrow, hreceipt, _, hexpires⟩ := id h
  rcases step_stores hs with ⟨⟨e, r⟩, hev, ha⟩ | ⟨_, hsame⟩
  · rcases ha.stores with hsame | ⟨call, rfl, hcall⟩
    · rw [hsame]
      exact h
    · rw [hcall]
      refine StoreCall.run_holds h ?_ ?_
      · intro now hreserves
        rw [← hexpires]
        exact hleaves.inside _ hev _ hreserves rfl record hrow (by rw [hreceipt]; rfl)
      · rintro saved rfl rfl
        obtain ⟨record', hrow', _, hnone⟩ := hleaves.owns _ hev _ rfl rfl
        rw [hrow] at hrow'
        cases hrow'
        rw [hreceipt] at hnone
        cases hnone
  · exact hsame ▸ h

/-- **What a replay finds stays.** -/
theorem Replayable.step {call : PlannedCall} {receipt : OperationReceipt}
    {expiresAt tokenExpiresAt : DateTime} (h : Replayable call receipt expiresAt tokenExpiresAt c)
    (hs : Step (daemon lib handle) c l c')
    (hleaves : LeavesAlone call.planId call.key call.tool c l) :
    Replayable call receipt expiresAt tokenExpiresAt c' := by
  obtain ⟨row, hrow, hbinding, hrevoked, hexpires⟩ := h.token
  obtain ⟨row', hrow', hbinding', hrevoked', hexpires'⟩ := step_token hs hrow
  obtain ⟨plan, hplan, hsame⟩ := h.plan
  obtain ⟨plan', hplan', hsame'⟩ := step_plan hs hleaves.plan hplan
  exact ⟨⟨plan', hplan', hsame.trans hsame'⟩, ⟨row', hrow', hbinding'.trans hbinding,
    hrevoked'.trans hrevoked, hexpires'.trans hexpires⟩, step_key hs hleaves h.key⟩

variable {consumed : ConfirmationRecord} {now : DateTime} {binding : ConfirmationBinding}

/-- A token that is consumed was unspent, and bound to the caller. -/
theorem answers_consumed {w w' : World}
    (ha : w.Answers lib (.store (.consumeConfirmation now tokenId binding)) (.ok consumed) w') :
    ∃ row, w'.stores.confirmations.row tokenId = some row ∧ row.binding = binding ∧
      row.revoked = false := by
  rcases ha with ⟨rfl, hanswer⟩ | ⟨_, text, hfailed⟩
  · rcases SqliteConfirmationStore.consume_cases now tokenId binding w.stores.confirmations with
      ⟨err, hc⟩ | ⟨record, _, hunspent, hbinding, hc⟩
    · simp only [StoreCall.run, hc] at hanswer
      cases hanswer
    · refine ⟨{ record with consumed := true }, ?_, hbinding, ?_⟩
      · simp only [StoreCall.run, hc, Table.row_put_self]
      · by_contra hrevoked
        exact hunspent (.inr (.inl (by simpa using hrevoked)))
  · cases hfailed

/-- A receipt that is saved over a reservation of its operation is under its key. -/
theorem answers_saved {w w' : World} {key : String} {receipt : OperationReceipt}
    {record : IdempotencyRecord}
    (ha : w.Answers lib (.store (.saveReceipt key receipt)) (.ok ()) w')
    (hrow : w.stores.idempotency.row (key, receipt.tool) = some record)
    (hhash : record.opHash = receipt.opHash) :
    HoldsReceipt w'.stores.idempotency key receipt.tool receipt.opHash record.expiresAt
      receipt.reread := by
  rcases ha with ⟨rfl, _⟩ | ⟨_, text, hfailed⟩
  · refine ⟨{ record with receipt := some receipt.reread }, ?_, rfl, hhash, rfl⟩
    simp only [StoreCall.run, SqliteIdempotencyStore.saveReceipt, Table.row_update_self, hrow,
      Option.map_some]
  · cases hfailed

variable {allowed : Config DaemonIO World Call JsonRpcResponse → Label DaemonIO World Call → Prop}
  {world : World} {i : Nat} {t : Task DaemonIO Call JsonRpcResponse}

/-- The row of a token that was consumed is bound to who consumed it. -/
theorem consumed_token (hrun : Run (daemon lib handle) allowed world c) (ht : c.tasks[i]? = some t)
    (hconsumed : (⟨.store (.consumeConfirmation now tokenId binding), .ok consumed⟩ :
      Event DaemonIO) ∈ t.past) :
    ∃ row, c.world.stores.confirmations.row tokenId = some row ∧ row.binding = binding ∧
      row.revoked = false := by
  let W : Event DaemonIO → Config DaemonIO World Call JsonRpcResponse → Prop := fun ev c =>
    ∀ now tokenId binding consumed,
      ev = ⟨.store (.consumeConfirmation now tokenId binding), .ok consumed⟩ →
      ∃ row, c.world.stores.confirmations.row tokenId = some row ∧ row.binding = binding ∧
        row.revoked = false
  refine hrun.past_kept ht (W := W) ?_ ?_ _ hconsumed now tokenId binding consumed rfl
  · intro c l c' ev hrun hl hs hev now tokenId binding consumed heq
    subst heq
    exact answers_consumed (hs.answered hev)
  · intro c l c' ev hrun hl hs hkept now tokenId binding consumed heq
    obtain ⟨row, hrow, hbinding, hrevoked⟩ := hkept now tokenId binding consumed heq
    obtain ⟨row', hrow', hbinding', hrevoked', _⟩ := step_token hs hrow
    exact ⟨row', hrow', hbinding'.trans hbinding, hrevoked'.trans hrevoked⟩

/-- A receipt that was saved over a reservation of its operation is under its key. -/
theorem saved_key {planId key : String} {receipt : OperationReceipt}
    (hrun : Run (daemon lib handle) allowed world c) (ht : c.tasks[i]? = some t)
    (hleaves : ∀ {c l c'}, Run (daemon lib handle) allowed world c → allowed c l →
      Step (daemon lib handle) c l c' → LeavesAlone planId key receipt.tool c l)
    (hsaved : savedEvent key receipt ∈ t.past) :
    ∃ expiresAt, HoldsReceipt c.world.stores.idempotency key receipt.tool receipt.opHash
      expiresAt receipt.reread := by
  let W : Event DaemonIO → Config DaemonIO World Call JsonRpcResponse → Prop := fun ev c =>
    ev = savedEvent key receipt →
      ∃ expiresAt, HoldsReceipt c.world.stores.idempotency key receipt.tool receipt.opHash
        expiresAt receipt.reread
  refine hrun.past_kept ht (W := W) ?_ ?_ _ hsaved rfl
  · intro c l c' ev hrun hl hs hev heq
    subst heq
    obtain ⟨record, hrow, hhash, _⟩ := (hleaves hrun hl hs).owns _ hev _ rfl rfl
    exact ⟨record.expiresAt, answers_saved (hs.answered hev) hrow hhash⟩
  · intro c l c' ev hrun hl hs hkept heq
    obtain ⟨expiresAt, hkey⟩ := hkept heq
    exact ⟨expiresAt, step_key hs (hleaves hrun hl hs) hkey⟩

/-- **A settled call can be replayed.**  A call that has loaded its plan, consumed its token and
saved its receipt leaves in the stores what a replay of it finds. -/
theorem run_replayable {call : PlannedCall} (hrun : Run (daemon lib handle) allowed world c)
    (ht : c.tasks[i]? = some t)
    (hleaves : ∀ {c l c'}, Run (daemon lib handle) allowed world c → allowed c l →
      Step (daemon lib handle) c l c' → LeavesAlone call.planId call.key call.tool c l)
        {receipt : OperationReceipt}
    (hloaded : (⟨.store (.getPlan call.planId), .ok (some call.planRecord)⟩ : Event DaemonIO) ∈
      t.past)
    (hconsumed : (⟨.store (.consumeConfirmation now call.token call.binding), .ok consumed⟩ :
      Event DaemonIO) ∈ t.past)
    (hsaved : savedEvent call.key receipt ∈ t.past) (htool : receipt.tool = call.tool)
    (hhash : receipt.opHash = call.plan.opHash) :
    ∃ expiresAt tokenExpiresAt, Replayable call receipt.reread expiresAt tokenExpiresAt c := by
  obtain ⟨row, hrow, hbinding, hrevoked⟩ := consumed_token hrun ht hconsumed
  obtain ⟨expiresAt, hkey⟩ := saved_key hrun ht
    (fun hrun hl hs => htool.symm ▸ hleaves hrun hl hs) hsaved
  rw [htool, hhash] at hkey
  exact ⟨expiresAt, row.expiresAt,
    row_of_loaded hrun (fun hrun hl hs => (hleaves hrun hl hs).plan) ht hloaded,
    ⟨row, hrow, hbinding, hrevoked, rfl⟩, hkey⟩

/-! ## A replay -/

variable {ev : Event DaemonIO}

/-- Whether an event finds a kill switch set. -/
def switchedOff : Event DaemonIO → Bool
  | ⟨.envVar _, value⟩ => killSwitchSet value
  | _ => false

/-- What a replay is answered with: no kill switch is set, no statement fails, the clock is
inside the window of the key and timely, the plan that is loaded is fit, and the rows are as they
were. -/
def FindsReceipt (call : PlannedCall) (receipt : OperationReceipt)
    (expiresAt tokenExpiresAt : DateTime) (timely : DateTime → Prop)
    (fit : PlanStoreRecord → Prop) : (e : DaemonAct) → e.Ans → Prop
  | .envVar _, value => killSwitchSet value = false
  | .openStores, opened => opened = .ok ()
  | .now, (t : DateTime) => t < expiresAt ∧ timely t
  | .store (.getPlan id), answer => id = call.planId →
      ∃ record, answer = .ok (some record) ∧ SamePlan call.planRecord record ∧ fit record
  | .store (.lookupRecord key tool), answer => key = call.key → tool = call.tool →
      ∃ record, answer = .ok (some record) ∧ record.receipt = some receipt ∧
        record.opHash = call.plan.opHash ∧ record.expiresAt = expiresAt
  | .store (.lookupConfirmation id), answer => id = call.token →
      ∃ row, answer = .ok (some row) ∧ row.binding = call.binding ∧ row.revoked = false ∧
        row.expiresAt = tokenExpiresAt
  | _, _ => True

/-- A step after which a call may be replayed: no kill switch is set, no statement fails, the
clock is inside the window of the key and before the token expires, and no key is reserved
after its window or has its receipt replaced. -/
structure Retriable (lib : Crates) (key tool tokenId : String)
    (c : Config DaemonIO World Call JsonRpcResponse) (l : Label DaemonIO World Call) : Prop where
  switched : ∀ ev ∈ l.event?, switchedOff ev = false
  faultless : Faultless lib c l
  timely : ∀ t ∈ readsClock l,
    (∀ record ∈ c.world.stores.idempotency.row (key, tool), t < record.expiresAt) ∧
    ∀ row ∈ c.world.stores.confirmations.row tokenId, t < row.expiresAt
  inside : Inside c l
  owns : SavesOwnKey c l

instance (lib : Crates) (key tool tokenId : String)
    (c : Config DaemonIO World Call JsonRpcResponse) (l : Label DaemonIO World Call) :
    Decidable (Retriable lib key tool tokenId c l) :=
  decidable_of_iff ((∀ ev ∈ l.event?, switchedOff ev = false) ∧ Faultless lib c l ∧
      (∀ t ∈ readsClock l,
        (∀ record ∈ c.world.stores.idempotency.row (key, tool), t < record.expiresAt) ∧
        ∀ row ∈ c.world.stores.confirmations.row tokenId, t < row.expiresAt) ∧
      Inside c l ∧ SavesOwnKey c l)
    ⟨fun ⟨h₁, h₂, h₃, h₄, h₅⟩ => ⟨h₁, h₂, h₃, h₄, h₅⟩,
      fun ⟨h₁, h₂, h₃, h₄, h₅⟩ => ⟨h₁, h₂, h₃, h₄, h₅⟩⟩

/-- A call that has written meets with no mishap. -/
def Unfailing (c : Config DaemonIO World Call JsonRpcResponse)
    (l : Label DaemonIO World Call) : Prop :=
  ∀ ev ∈ l.event?, mishap ev = true →
    ∀ i ∈ l.task?, ∀ t ∈ c.tasks[i]?, ∀ ev' ∈ t.past, wrote ev' = false

instance (c : Config DaemonIO World Call JsonRpcResponse) (l : Label DaemonIO World Call) :
    Decidable (Unfailing c l) := inferInstanceAs (Decidable (∀ ev ∈ l.event?, _))

/-- In a run in which no statement fails after a write, nothing fails after a write. -/
theorem run_unfailing (hrun : Run (daemon lib handle) allowed world c)
    (hallowed : ∀ {c l}, allowed c l → Unfailing c l) (ht : c.tasks[i]? = some t)
    {pre more : List (Event DaemonIO)} (hpast : t.past = pre ++ ev :: more)
    (hwrote : wrote ev = true) : ¬ Failed more := by
  let I : List (Event DaemonIO) → Prop := fun past => ∀ pre ev more,
    past = pre ++ ev :: more → wrote ev = true → ¬ Failed more
  refine hrun.past_step ht (I := I) ?_ ?_ pre ev more hpast hwrote
  · intro pre ev more hnil
    simp at hnil
  · intro c l c' i t ev' hrun hl hs hev htask hi hbefore pre ev more hsplit hwrote
    rcases List.eq_nil_or_concat more with rfl | ⟨more, last, rfl⟩
    · rintro ⟨_, hmem, _⟩
      cases hmem
    · rw [List.concat_eq_append, ← List.cons_append, ← List.append_assoc] at hsplit
      obtain ⟨hpre, hlast⟩ := List.append_inj' hsplit rfl
      obtain rfl := List.singleton_injective hlast
      rw [List.concat_eq_append]
      rintro ⟨ev'', hmem, hmishap⟩
      rcases List.mem_append.mp hmem with hmem | hmem
      · exact hbefore pre ev more hpre hwrote ⟨ev'', hmem, hmishap⟩
      · rw [List.mem_singleton.mp hmem] at hmishap
        have hunwritten := hallowed hl _ hev hmishap i htask t hi ev
          (hpre ▸ List.mem_append_right _ List.mem_cons_self)
        rw [hwrote] at hunwritten
        cases hunwritten

variable {call : PlannedCall} {receipt : OperationReceipt} {expiresAt tokenExpiresAt : DateTime}

/-- The answer of a statement that does not fail. -/
theorem answers_faultless {w w' : World} {store : StoreCall} {answer : store.Ans}
    (ha : w.Answers lib (.store store) answer w')
    (hfaultless : answer.isOk = (store.run lib w.stores).2.isOk) {found : store.Found}
    (hfound : (store.run lib w.stores).2 = .ok found) : answer = .ok found := by
  rcases ha with ⟨_, rfl⟩ | ⟨_, text, rfl⟩
  · exact hfound
  · rw [hfound] at hfaultless
    cases store <;> cases hfaultless

/-- A step in which a settled call may be replayed: no kill switch is set, no statement fails,
the clock is inside the window of the key and timely, and the plan is fit. -/
structure Shows (lib : Crates) (planId : String) (expiresAt : DateTime) (timely : DateTime → Prop)
    (fit : PlanStoreRecord → Prop) (c : Config DaemonIO World Call JsonRpcResponse)
    (l : Label DaemonIO World Call) : Prop where
  switched : ∀ ev ∈ l.event?, switchedOff ev = false
  faultless : Faultless lib c l
  clock : ∀ t ∈ readsClock l, t < expiresAt ∧ timely t
  fit : ∀ row ∈ c.world.stores.plans.row planId, fit row

variable {timely : DateTime → Prop} {fit : PlanStoreRecord → Prop}

/-- What a step shows of a settled call. -/
theorem Replayable.shows (h : Replayable call receipt expiresAt tokenExpiresAt c)
    (hs : Step (daemon lib handle) c l c')
    (hshows : Shows lib call.planId expiresAt timely fit c l) (hev : l.event? = some ev) :
    FindsReceipt call receipt expiresAt tokenExpiresAt timely fit ev.1 ev.2 := by
  obtain ⟨e, r⟩ := ev
  have hact := hs.eq_act hev
  cases e with
  | envVar name => exact hshows.switched _ hev
  | openStores =>
    obtain ⟨_, rfl⟩ := hact rfl
    exact hshows.faultless
  | now =>
    obtain ⟨_, rfl⟩ := hact rfl
    exact hshows.clock r rfl
  | store call' =>
    obtain ⟨_, rfl⟩ := hact rfl
    have hfaultless := hshows.faultless
    have ha := hs.answered hev
    cases call'
    case getPlan id =>
      rintro rfl
      obtain ⟨record, hrow, hsame⟩ := h.plan
      exact ⟨record, answers_faultless ha hfaultless (congrArg Except.ok hrow), hsame,
        hshows.fit record hrow⟩
    case lookupRecord key tool =>
      rintro rfl rfl
      obtain ⟨record, hrow, hreceipt, hhash, hexpires⟩ := h.key
      refine ⟨record, answers_faultless ha hfaultless ?_, hreceipt, hhash, hexpires⟩
      exact congrArg Except.ok hrow
    case lookupConfirmation id =>
      rintro rfl
      obtain ⟨row, hrow, hbinding, hrevoked, hexpires⟩ := h.token
      refine ⟨row, answers_faultless ha hfaultless ?_, hbinding, hrevoked, hexpires⟩
      exact congrArg Except.ok hrow
    all_goals trivial
  | _ => trivial

/-- A replay that is retriable in a step is shown its receipt. -/
theorem Retriable.shows {c : Config DaemonIO World Call JsonRpcResponse}
    (h : Retriable lib call.key call.tool call.token c l)
    (hthere : Replayable call receipt expiresAt tokenExpiresAt c) :
    Shows lib call.planId expiresAt (· < tokenExpiresAt) (fun _ => True) c l := by
  obtain ⟨record, hrow, _, _, hexpires⟩ := hthere.key
  obtain ⟨token, htoken, _, _, htokenExpires⟩ := hthere.token
  refine ⟨h.switched, h.faultless, fun t ht => ⟨?_, ?_⟩, fun _ _ => trivial⟩
  · exact hexpires ▸ (h.timely t ht).1 record hrow
  · exact htokenExpires ▸ (h.timely t ht).2 token htoken

/-- **What comes after a settled call.**  A call that comes in later finds the receipt, as long
as its own steps show it and every step leaves it alone. -/
theorem Replayable.leads (h : Replayable call receipt expiresAt tokenExpiresAt c)
    {allowed' : Config DaemonIO World Call JsonRpcResponse → Label DaemonIO World Call → Prop}
    {j : Nat} {u : Task DaemonIO Call JsonRpcResponse}
    (hshows : ∀ {c l i t}, Replayable call receipt expiresAt tokenExpiresAt c → allowed' c l →
      l.task? = some i → c.tasks[i]? = some t → t.call = u.call →
      Shows lib call.planId expiresAt timely fit c l)
    (hleaves : ∀ {c₁ l c₂}, Leads (daemon lib handle) allowed' c c₁ → allowed' c₁ l →
      Step (daemon lib handle) c₁ l c₂ → LeavesAlone call.planId call.key call.tool c₁ l)
    (hleads : Leads (daemon lib handle) allowed' c c') (hj : c.tasks.length ≤ j)
    (hu : c'.tasks[j]? = some u) :
    ∀ ev ∈ u.past, FindsReceipt call receipt expiresAt tokenExpiresAt timely fit ev.1 ev.2 := by
  have hreplayable : ∀ {c₁}, Leads (daemon lib handle) allowed' c c₁ →
      Replayable call receipt expiresAt tokenExpiresAt c₁ := by
    intro c₁ hlead
    induction hlead with
    | refl => exact h
    | next hlead hl hs ih => exact ih.step hs (hleaves hlead hl hs)
  refine hleads.past_kept hj hu
    (W := fun ev _ => FindsReceipt call receipt expiresAt tokenExpiresAt timely fit ev.1 ev.2) ?_ ?_
  · intro c₁ l c₂ ev i t hlead hl hs hev htask ht hcall
    exact (hreplayable hlead).shows hs (hshows (hreplayable hlead) hl htask ht hcall) hev
  · intro c₁ l c₂ ev hlead hl hs hkept
    exact hkept

end Runs

end SnowAgent
