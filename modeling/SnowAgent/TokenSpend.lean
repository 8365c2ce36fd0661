import SnowAgent.TokenUse

/-! # Consuming a token once

The row of a confirmation token takes one consumption.  Whatever the handlers do, and however
their tasks interleave, the accepted consumptions of all tasks of a run are one at most, and
until there is one the row is as it was when the run started.
-/
namespace SnowAgent

open Interleaving Program

/-- Whether an event is an accepted consumption of the token. -/
def spends (tokenId : String) : Event DaemonIO → Bool
  | ⟨.store (.consumeConfirmation _ id _), .ok _⟩ => id == tokenId
  | _ => false

theorem spends_iff {tokenId : String} {ev : Event DaemonIO} :
    spends tokenId ev = true ↔
      ∃ now binding record, ev = ⟨.store (.consumeConfirmation now tokenId binding), .ok record⟩ := by
  unfold spends
  split
  · rename_i now id binding record
    constructor
    · intro h
      obtain rfl : id = tokenId := by simpa using h
      exact ⟨now, binding, record, rfl⟩
    · rintro ⟨_, _, _, h⟩
      cases h
      simp
  · rename_i hne
    constructor
    · intro h
      cases h
    · rintro ⟨now, binding, record, rfl⟩
      exact absurd rfl (hne now tokenId binding record)

/-- What a consumption does to the row of its token. -/
theorem World.consume_row {lib : Crates} {w w' : World} {now : DateTime} {tokenId : String}
    {binding : ConfirmationBinding} {answer : Except ConfirmationConsumeError ConfirmationRecord}
    (ha : w.Answers lib (.store (.consumeConfirmation now tokenId binding)) answer w') :
    (∃ err, answer = .error err) ∧
        w'.stores.confirmations.row tokenId = w.stores.confirmations.row tokenId ∨
      (∃ found, answer = .ok found) ∧
        ∃ record, w.stores.confirmations.row tokenId = some record ∧ record.consumed = false ∧
          w'.stores.confirmations.row tokenId = some { record with consumed := true } := by
  rcases ha with ⟨rfl, rfl⟩ | ⟨rfl, text, rfl⟩
  · rcases SqliteConfirmationStore.consume_cases now tokenId binding w.stores.confirmations with
      ⟨err, hrefused⟩ | ⟨record, hrow, hunspent, _, haccepted⟩
    · refine .inl ⟨⟨err, ?_⟩, ?_⟩
      · simp only [StoreCall.run, hrefused]
      · simp only [StoreCall.run, hrefused]
    · refine .inr ⟨⟨_, by simp only [StoreCall.run, haccepted]; rfl⟩, record, hrow, ?_, ?_⟩
      · by_contra hconsumed
        exact hunspent (.inl (by simpa using hconsumed))
      · simp only [StoreCall.run, haccepted, Table.row_put_self]
  · exact .inl ⟨⟨_, rfl⟩, rfl⟩

section Token

variable {Call : Type} {lib : Crates} {handle : Call → Handler JsonRpcResponse}
  {allowed : Config DaemonIO World Call JsonRpcResponse → Label DaemonIO World Call → Prop}
  (tokenId : String)

/-- How often a task has consumed the token. -/
def consumptions (t : Task DaemonIO Call JsonRpcResponse) : Nat := t.past.countP (spends tokenId)

/-- The token has been consumed once at most: its row is consumed, or as it was. -/
structure SpentOnce (world : World) (c : Config DaemonIO World Call JsonRpcResponse) : Prop where
  once : total (consumptions tokenId) c ≤ 1
  spent : total (consumptions tokenId) c = 1 →
    ∃ record, c.world.stores.confirmations.row tokenId = some record ∧ record.consumed = true
  kept : total (consumptions tokenId) c = 0 →
    ∀ record, world.stores.confirmations.row tokenId = some record →
      c.world.stores.confirmations.row tokenId = some record

variable {tokenId} {world : World} {c c' : Config DaemonIO World Call JsonRpcResponse}
  {e : DaemonAct} {r : e.Ans}

/-- An action with its answer keeps a token from being consumed twice. -/
theorem SpentOnce.act (h : SpentOnce tokenId world c) (ha : c.world.Answers lib e r c'.world)
    (hsum : total (consumptions tokenId) c' =
      total (consumptions tokenId) c + if spends tokenId ⟨e, r⟩ then 1 else 0) :
    SpentOnce tokenId world c' := by
  have hspent : (∃ record, c.world.stores.confirmations.row tokenId = some record ∧
      record.consumed = true) →
      ∃ record, c'.world.stores.confirmations.row tokenId = some record ∧
        record.consumed = true := by
    rintro ⟨record, hrow, hconsumed⟩
    rcases ha.kept tokenId record hrow with hrow' | hrow'
    · exact ⟨record, hrow', hconsumed⟩
    · exact ⟨_, hrow', rfl⟩
  by_cases hconsume : ∃ now binding, e = .store (.consumeConfirmation now tokenId binding)
  · obtain ⟨now, binding, rfl⟩ := hconsume
    rcases World.consume_row ha with
      ⟨⟨err, rfl⟩, hrow⟩ | ⟨⟨found, rfl⟩, record, hrow, hunconsumed, hrow'⟩
    · -- refused
      simp only [spends, Bool.false_eq_true, if_false, Nat.add_zero] at hsum
      refine ⟨hsum ▸ h.once, fun hone => hspent (h.spent (hsum ▸ hone)),
        fun hzero record hrecord => ?_⟩
      rw [hrow]
      exact h.kept (hsum ▸ hzero) record hrecord
    · -- the row was not consumed, so no task had consumed it
      have hnone : total (consumptions tokenId) c = 0 := by
        have honce := h.once
        by_contra hne
        obtain ⟨record', hfound, hconsumed⟩ := h.spent (by omega)
        rw [hrow] at hfound
        cases hfound
        rw [hunconsumed] at hconsumed
        cases hconsumed
      simp only [spends, BEq.rfl, if_true] at hsum
      refine ⟨by omega, fun _ => ⟨_, hrow', rfl⟩, fun hzero => ?_⟩
      omega
  · have hquiet : spends tokenId ⟨e, r⟩ = false := by
      by_contra hspends
      obtain ⟨now, binding, _, he⟩ := spends_iff.mp (by simpa using hspends)
      cases he
      exact hconsume ⟨now, binding, rfl⟩
    rw [hquiet] at hsum
    simp only [Bool.false_eq_true, if_false, Nat.add_zero] at hsum
    refine ⟨hsum ▸ h.once, fun hone => hspent (h.spent (hsum ▸ hone)),
      fun hzero record hrecord => ?_⟩
    exact ha.row (fun now binding he => hconsume ⟨now, binding, he⟩)
      (h.kept (hsum ▸ hzero) record hrecord)

/-- **A token is consumed once.**  In every run of the daemon its tasks consume a token once
at most; its row is consumed from then on, and is as it was until then. -/
theorem run_spentOnce (hrun : Run (daemon lib handle) allowed world c) :
    SpentOnce tokenId world c := by
  refine hrun.invariant ⟨by simp [total], by simp [total], fun _ _ => id⟩ ?_
  intro c l c' _ h _ hs
  have hsum : total (consumptions tokenId) c' = total (consumptions tokenId) c +
      l.event?.toList.countP (spends tokenId) := hs.total_count (spends tokenId)
  rcases step_stores hs with ⟨ev, hev, ha⟩ | ⟨hev, hsame⟩
  · rw [hev, Option.toList_some, List.countP_singleton] at hsum
    exact h.act ha hsum
  · rw [hev, Option.toList_none, List.countP_nil, Nat.add_zero] at hsum
    exact ⟨hsum ▸ h.once, fun hone => hsame ▸ h.spent (hsum ▸ hone),
      fun hzero => hsame ▸ h.kept (hsum ▸ hzero)⟩

end Token

end SnowAgent
