import SnowAgent.PlannedApply
import SnowAgent.Provenance
import SnowAgent.TokenUse

/-! # The rows of plans

An apply call loads its plan from a store that all calls share.  The row of a plan stays, up to
its state, as long as no other is stored in its place; and in a run that starts without plans,
every row that is loaded was stored by a call of the run.
-/
namespace SnowAgent

open Interleaving Program

/-! ## What a call has loaded and stored -/

/-- The row of the plan that an event loads. -/
def rowLoaded : Event DaemonIO → Option PlanStoreRecord
  | ⟨.store (.getPlan _), .ok found⟩ => found
  | _ => none

/-- The row of the plan that a call has loaded. -/
def loaded (past : List (Event DaemonIO)) : Option PlanStoreRecord := past.findSome? rowLoaded

/-- The row of a plan that an event stores. -/
def rowStored : Event DaemonIO → Option PlanStoreRecord
  | ⟨.store (.putPlan row), _⟩ => some row
  | _ => none

/-- The row of the plan that a call has stored. -/
def stored (past : List (Event DaemonIO)) : Option PlanStoreRecord := past.findSome? rowStored

/-- Two rows of one plan, with one version and one expiry. -/
structure SamePlan (p q : PlanStoreRecord) : Prop where
  plan : q.planJson.plan = p.planJson.plan
  version : q.concurrencyToken = p.concurrencyToken
  expiry : q.expiresAt = p.expiresAt

namespace SamePlan

theorem refl (p : PlanStoreRecord) : SamePlan p p := ⟨rfl, rfl, rfl⟩

theorem trans {p q r : PlanStoreRecord} (h : SamePlan p q) (h' : SamePlan q r) : SamePlan p r :=
  ⟨h'.plan.trans h.plan, h'.version.trans h.version, h'.expiry.trans h.expiry⟩

theorem symm {p q : PlanStoreRecord} (h : SamePlan p q) : SamePlan q p :=
  ⟨h.plan.symm, h.version.symm, h.expiry.symm⟩

end SamePlan

variable {row : PlanStoreRecord} {ev : Event DaemonIO}

/-- A row is loaded by a store call that finds it. -/
theorem rowLoaded_eq_some
    (h : rowLoaded ev = some row) : ∃ planId, ev = ⟨.store (.getPlan planId), .ok (some row)⟩ := by
  obtain ⟨e, r⟩ := ev
  cases e with
  | store call =>
    cases call with
    | getPlan planId =>
      rcases r with text | found
      · cases h
      · obtain rfl : found = some row := h
        exact ⟨planId, rfl⟩
    | _ => cases h
  | _ => cases h

variable {past : List (Event DaemonIO)}

/-- What is loaded first stays loaded. -/
theorem loaded_append (h : loaded past = some row) (more : List (Event DaemonIO)) :
    loaded (past ++ more) = some row := by
  unfold loaded at h ⊢
  rw [List.findSome?_append, h, Option.some_or]

/-- What a call loads that has loaded nothing. -/
theorem loaded_new (hnone : loaded past = none) : loaded (past ++ [ev]) = rowLoaded ev := by
  unfold loaded at hnone ⊢
  rw [List.findSome?_append, hnone, Option.none_or, List.findSome?_singleton]

/-! ## The rows of the store -/

variable {planId : String} {p : PlanStoreRecord} {call : StoreCall}

/-- A store call puts the row it names, and changes the rest of no other. -/
theorem plan_row_run {lib : Crates} {s : Stores} {q : PlanStoreRecord}
    (h : (call.run lib s).1.plans.row planId = some q) :
    (∃ p, s.plans.row planId = some p ∧ SamePlan p q) ∨ ∃ p, call = .putPlan p ∧ SamePlan p q := by
  have hupdate : ∀ {id : String} {f : PlanStoreRecord → PlanStoreRecord},
      (∀ row, SamePlan row (f row)) → (s.plans.update id f).row planId = some q →
      (∃ p, s.plans.row planId = some p ∧ SamePlan p q) ∨
        ∃ p, call = .putPlan p ∧ SamePlan p q := by
    intro id f hf hrow
    obtain ⟨before, hbefore, ⟨_, rfl⟩ | ⟨_, rfl⟩⟩ := Table.row_update_eq_some hrow
    · exact .inl ⟨q, hbefore, .refl q⟩
    · exact .inl ⟨before, hbefore, hf before⟩
  cases call with
  | putPlan record =>
    rcases Table.row_put_eq_some h with ⟨_, hold⟩ | ⟨_, rfl⟩
    · exact .inl ⟨q, hold, .refl q⟩
    · exact .inr ⟨record, rfl, rfl, rfl, rfl⟩
  | markPlanConsumed id =>
    exact hupdate (f := fun record => { record with state := .consumed })
      (fun row => ⟨rfl, rfl, rfl⟩) h
  | markPlanExpired id =>
    refine hupdate (f := fun record =>
      if record.state = .consumed then record else { record with state := .expired })
      (fun row => ?_) h
    split <;> exact ⟨rfl, rfl, rfl⟩
  | issueConfirmation =>
    refine .inl ⟨q, ?_, .refl q⟩
    dsimp only [StoreCall.run] at h
    split at h <;> exact h
  | appendAudit =>
    refine .inl ⟨q, ?_, .refl q⟩
    dsimp only [StoreCall.run] at h
    split at h <;> exact h
  | putBulkPlan =>
    refine .inl ⟨q, ?_, .refl q⟩
    dsimp only [StoreCall.run] at h
    split at h <;> exact h
  | reserveBulkKey =>
    refine .inl ⟨q, ?_, .refl q⟩
    dsimp only [StoreCall.run] at h
    split at h <;> exact h
  | _ => exact .inl ⟨q, h, .refl q⟩

/-- A row stays, up to its state, when no other is put in its place. -/
theorem plan_row_stays {lib : Crates} {s : Stores} (h : s.plans.row planId = some p)
    (hfresh : ∀ row, call = .putPlan row → row.planId ≠ planId) :
    ∃ q, (call.run lib s).1.plans.row planId = some q ∧ SamePlan p q := by
  have hupdate : ∀ {id : String} {f : PlanStoreRecord → PlanStoreRecord},
      SamePlan p (f p) → ∃ q, (s.plans.update id f).row planId = some q ∧ SamePlan p q := by
    intro id f hf
    by_cases hid : planId = id
    · subst hid
      exact ⟨f p, by rw [Table.row_update_self, h, Option.map_some], hf⟩
    · exact ⟨p, by rw [Table.row_update_of_ne _ _ hid, h], .refl p⟩
  cases call with
  | putPlan record =>
    exact ⟨p, (Table.row_put_of_ne _ _ (hfresh record rfl).symm).trans h, .refl p⟩
  | markPlanConsumed id =>
    exact hupdate (f := fun record => { record with state := .consumed }) ⟨rfl, rfl, rfl⟩
  | markPlanExpired id =>
    refine hupdate (f := fun record =>
      if record.state = .consumed then record else { record with state := .expired }) ?_
    split <;> exact ⟨rfl, rfl, rfl⟩
  | _ =>
    refine ⟨p, ?_, .refl p⟩
    simp only [StoreCall.run]
    (try split) <;> exact h

/-! ## Runs -/

section Runs

variable {Call : Type} {lib : Crates} {handle : Call → Handler JsonRpcResponse}
  {allowed : Config DaemonIO World Call JsonRpcResponse → Label DaemonIO World Call → Prop}
  {world : World} {c c' : Config DaemonIO World Call JsonRpcResponse}
  {l : Label DaemonIO World Call} {i : Nat} {t : Task DaemonIO Call JsonRpcResponse}
  {q : PlanStoreRecord}

/-- A plan is stored under an id of its own. -/
def StoresNew (c : Config DaemonIO World Call JsonRpcResponse) (l : Label DaemonIO World Call) :
    Prop :=
  ∀ ev ∈ l.event?, ∀ row ∈ rowStored ev, c.world.stores.plans.row row.planId = none

instance (c : Config DaemonIO World Call JsonRpcResponse) (l : Label DaemonIO World Call) :
    Decidable (StoresNew c l) := inferInstanceAs (Decidable (∀ ev ∈ l.event?, _))

/-- A plan is not stored once more while it is there. -/
def StoresPlanOnce (planId : String) (c : Config DaemonIO World Call JsonRpcResponse)
    (l : Label DaemonIO World Call) : Prop :=
  ∀ ev ∈ l.event?, ∀ row ∈ rowStored ev, row.planId = planId →
    c.world.stores.plans.row planId = none

instance (planId : String) (c : Config DaemonIO World Call JsonRpcResponse)
    (l : Label DaemonIO World Call) : Decidable (StoresPlanOnce planId c l) :=
  inferInstanceAs (Decidable (∀ ev ∈ l.event?, _))

theorem StoresNew.once (h : StoresNew c l) (planId : String) : StoresPlanOnce planId c l := by
  rintro ev hev row hrow rfl
  exact h ev hev row hrow

/-- The row of a plan stays, up to its state. -/
theorem step_plan (hs : Step (daemon lib handle) c l c') (honce : StoresPlanOnce planId c l)
    (h : c.world.stores.plans.row planId = some p) :
    ∃ q, c'.world.stores.plans.row planId = some q ∧ SamePlan p q := by
  rcases step_stores hs with ⟨⟨e, r⟩, hev, ha⟩ | ⟨_, hsame⟩
  · rcases ha.stores with hsame | ⟨call, rfl, hcall⟩
    · exact ⟨p, by rw [hsame, h], .refl p⟩
    · rw [hcall]
      refine plan_row_stays h fun row hput => ?_
      rintro rfl
      subst hput
      rw [honce _ hev row rfl rfl] at h
      cases h
  · exact ⟨p, by rw [hsame, h], .refl p⟩

/-- A call has stored a row of the plan. -/
def StoredBy (c : Config DaemonIO World Call JsonRpcResponse) (q : PlanStoreRecord) : Prop :=
  ∃ (j : Nat) (u : Task DaemonIO Call JsonRpcResponse) (p : PlanStoreRecord) (ev : Event DaemonIO),
    c.tasks[j]? = some u ∧ ev ∈ u.past ∧ rowStored ev = some p ∧ SamePlan p q

/-- A plan that is loaded is in the store. -/
theorem row_of_answer {w w' : World}
    (ha : w.Answers lib (.store (.getPlan planId)) (.ok (some q)) w') :
    w.stores.plans.row planId = some q := by
  rcases ha with ⟨_, hanswer⟩ | ⟨_, text, hfailed⟩
  · exact (Except.ok.inj hanswer).symm
  · cases hfailed

section

variable (hrun : Run (daemon lib handle) allowed world c)

include hrun

/-- **Every loaded plan was stored.**  In a run that starts without plans, a row that a call
has loaded is of a plan that a call has stored. -/
theorem stored_of_load (hplans : ∀ planId, world.stores.plans.row planId = none) (ht : c.tasks[i]? = some t)
    (hev : (⟨.store (.getPlan planId), .ok (some q)⟩ : Event DaemonIO) ∈ t.past) :
    StoredBy c q := by
  have hstart : ¬ ∃ p, world.stores.plans.row planId = some p ∧ SamePlan p q := by
    rintro ⟨p, hp, _⟩
    rw [hplans planId] at hp
    cases hp
  have hstored : Happened (fun ev => ∃ p, rowStored ev = some p ∧ SamePlan p q) c := by
    refine hrun.happened_before (Q := fun w => ∃ p, w.stores.plans.row planId = some p ∧
      SamePlan p q) hstart ?_ ?_ ht hev fun ha => ⟨q, row_of_answer ha, .refl q⟩
    · rintro w e r w' ha ⟨p, hp, hsame⟩
      rcases ha.stores with heq | ⟨call, rfl, hcall⟩
      · rw [heq] at hp
        exact .inl ⟨p, hp, hsame⟩
      · rw [hcall] at hp
        rcases plan_row_run hp with ⟨p', hp', hsame'⟩ | ⟨p', rfl, hsame'⟩
        · exact .inl ⟨p', hp', hsame'.trans hsame⟩
        · exact .inr ⟨p', rfl, hsame'.trans hsame⟩
    · rintro w _ ⟨_, _, _, rfl⟩ hrow
      exact hrow
  obtain ⟨j, u, hu, ev', hev', p, hp, hsame⟩ := hstored
  exact ⟨j, u, p, ev', hu, hev', hp, hsame⟩

theorem stored_of_loaded (hplans : ∀ planId, world.stores.plans.row planId = none) (ht : c.tasks[i]? = some t)
    (hloaded : loaded t.past = some q) : StoredBy c q := by
  obtain ⟨ev, hev, hload⟩ := List.exists_of_findSome?_eq_some hloaded
  obtain ⟨planId, rfl⟩ := rowLoaded_eq_some hload
  exact stored_of_load hrun hplans ht hev

/-- A row that was loaded is still there, up to its state. -/
theorem row_of_loaded (honce : ∀ {c l c'}, Run (daemon lib handle) allowed world c → allowed c l →
      Step (daemon lib handle) c l c' → StoresPlanOnce planId c l)
    (ht : c.tasks[i]? = some t)
    (hloaded : (⟨.store (.getPlan planId), .ok (some q)⟩ : Event DaemonIO) ∈ t.past) :
    ∃ row, c.world.stores.plans.row planId = some row ∧ SamePlan q row := by
  let W : Event DaemonIO → Config DaemonIO World Call JsonRpcResponse → Prop := fun ev c =>
    ∀ q, ev = ⟨.store (.getPlan planId), .ok (some q)⟩ →
      ∃ row, c.world.stores.plans.row planId = some row ∧ SamePlan q row
  refine hrun.past_kept ht (W := W) ?_ ?_ _ hloaded q rfl
  · intro c l c' ev hrun hl hs hev q heq
    subst heq
    exact step_plan hs (honce hrun hl hs) (row_of_answer (hs.answered hev))
  · intro c l c' ev hrun hl hs hkept q heq
    obtain ⟨row, hrow, hsame⟩ := hkept q heq
    obtain ⟨row', hrow', hsame'⟩ := step_plan hs (honce hrun hl hs) hrow
    exact ⟨row', hrow', hsame.trans hsame'⟩

end

end Runs

end SnowAgent
