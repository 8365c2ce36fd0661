import SnowAgent.OperationPlan
import SnowAgent.Runs
import SnowAgent.Table

/-! # The idempotency store

One row per key and tool, with the hash of the operation that reserved it, the
instant an apply was started and the receipt once there is one.  Rows expire: a
reservation of an expired key deletes the row and makes a new one, perhaps for
another operation.  `save_receipt` does not look at the operation hash, so
`replay_saved` needs every receipt to meet a row of its own operation.
-/
namespace SnowAgent

/-- One row of `mcp_idempotency`. -/
structure IdempotencyRecord where
  key : String
  opHash : String
  tool : String
  receipt : Option OperationReceipt
  createdAt : DateTime
  expiresAt : DateTime
  applyStartedAt : Option DateTime
deriving DecidableEq

inductive IdempotencyOutcome where
  | newKey
  | pending (retryable transient : Bool)
  | replay (receipt : OperationReceipt)
  | conflict (reason : String)
deriving DecidableEq

/-- The table, by key and tool. -/
abbrev SqliteIdempotencyStore := Table (String × String) IdempotencyRecord

namespace SqliteIdempotencyStore

/-- `lookup_record`. -/
def lookupRecord (store : SqliteIdempotencyStore) (key tool : String) : Option IdempotencyRecord :=
  store.row (key, tool)

/-- The row a reservation inserts. -/
def reservation (now : DateTime) (key tool opHash : String) (windowSeconds : Nat) :
    IdempotencyRecord where
  key := key
  opHash := opHash
  tool := tool
  receipt := none
  createdAt := now
  expiresAt := now + durationSeconds windowSeconds
  applyStartedAt := none

/-- `check_and_record`. -/
def checkAndRecord (now : DateTime) (key tool opHash : String) (windowSeconds : Nat)
    (store : SqliteIdempotencyStore) : SqliteIdempotencyStore × IdempotencyOutcome :=
  let reserve (store : SqliteIdempotencyStore) :=
    (store.put (key, tool) (reservation now key tool opHash windowSeconds),
      IdempotencyOutcome.newKey)
  match store.row (key, tool) with
  | none => reserve store
  | some record =>
    if record.expiresAt ≤ now then reserve (store.delete (key, tool))
    else if record.opHash ≠ opHash then
      (store, .conflict "idempotency key reused with different op_hash")
    else match record.receipt with
      | some receipt => (store, .replay { receipt with idempotencyReplay := true })
      | none => (store, .pending true true)

/-- `mark_apply_started`. -/
def markApplyStarted (now : DateTime) (key tool : String) (store : SqliteIdempotencyStore) :
    SqliteIdempotencyStore :=
  store.update (key, tool) fun record =>
    { record with applyStartedAt := record.applyStartedAt.or (some now) }

/-- Whether `try_mark_apply_started` finds a row to mark. -/
def claimable (record : IdempotencyRecord) : Bool :=
  record.applyStartedAt.isNone && record.receipt.isNone

/-- `try_mark_apply_started`: whether this call marked the row. -/
def tryMarkApplyStarted (now : DateTime) (key tool : String) (store : SqliteIdempotencyStore) :
    SqliteIdempotencyStore × Bool :=
  (store.update (key, tool) fun record =>
      if claimable record then { record with applyStartedAt := some now } else record,
    (store.row (key, tool)).any claimable)

/-- `clear_apply_started`. -/
def clearApplyStarted (key tool : String) (store : SqliteIdempotencyStore) :
    SqliteIdempotencyStore :=
  store.update (key, tool) fun record =>
    if record.receipt.isNone then { record with applyStartedAt := none } else record

/-- `save_receipt`: the row is found by key and tool alone. -/
def saveReceipt (key : String) (receipt : OperationReceipt) (store : SqliteIdempotencyStore) :
    SqliteIdempotencyStore :=
  store.update (key, receipt.tool) fun record => { record with receipt := some receipt.reread }

/-- `lookup_receipt`. -/
def lookupReceipt (store : SqliteIdempotencyStore) (key tool opHash : String) :
    Option OperationReceipt :=
  (store.row (key, tool)).bind fun record =>
    if record.opHash = opHash then record.receipt else none

/-- **What a reservation does.**  It makes a new row where there is none in force, and
answers from the row that is there otherwise. -/
theorem checkAndRecord_cases (now : DateTime) (key tool opHash : String) (windowSeconds : Nat)
    (store : SqliteIdempotencyStore) :
    (checkAndRecord now key tool opHash windowSeconds store =
        (store.put (key, tool) (reservation now key tool opHash windowSeconds), .newKey) ∧
      ∀ record ∈ store.row (key, tool), record.expiresAt ≤ now) ∨
    ∃ record, store.row (key, tool) = some record ∧ now < record.expiresAt ∧
      (record.opHash ≠ opHash ∧ checkAndRecord now key tool opHash windowSeconds store =
            (store, .conflict "idempotency key reused with different op_hash") ∨
        record.opHash = opHash ∧ record.receipt = none ∧
          checkAndRecord now key tool opHash windowSeconds store = (store, .pending true true) ∨
        record.opHash = opHash ∧ ∃ receipt, record.receipt = some receipt ∧
          checkAndRecord now key tool opHash windowSeconds store =
            (store, .replay { receipt with idempotencyReplay := true })) := by
  unfold checkAndRecord
  cases hrow : store.row (key, tool) with
  | none => exact .inl ⟨rfl, by simp⟩
  | some record =>
    by_cases hexpired : record.expiresAt ≤ now
    · refine .inl ⟨?_, by simpa using hexpired⟩
      simp [hexpired]
    · refine .inr ⟨record, rfl, not_le.mp hexpired, ?_⟩
      by_cases hhash : record.opHash = opHash
      · cases hreceipt : record.receipt with
        | none => exact .inr (.inl ⟨hhash, rfl, by simp [hexpired, hhash, hreceipt]⟩)
        | some receipt =>
          exact .inr (.inr ⟨hhash, receipt, rfl, by simp [hexpired, hhash, hreceipt]⟩)
      · exact .inl ⟨hhash, by simp [hexpired, hhash]⟩

end SqliteIdempotencyStore

open SqliteIdempotencyStore

/-! ## Runs of the store -/

variable {store : SqliteIdempotencyStore}

/-- The operations that change the store. -/
inductive IdempotencyOp where
  | checkAndRecord (now : DateTime) (key tool opHash : String) (windowSeconds : Nat)
  | tryMarkApplyStarted (now : DateTime) (key tool : String)
  | markApplyStarted (now : DateTime) (key tool : String)
  | clearApplyStarted (key tool : String)
  | saveReceipt (key : String) (receipt : OperationReceipt)
deriving DecidableEq

/-- The store after an operation. -/
def IdempotencyOp.apply : IdempotencyOp → SqliteIdempotencyStore → SqliteIdempotencyStore
  | .checkAndRecord now key tool opHash window, store =>
    (SqliteIdempotencyStore.checkAndRecord now key tool opHash window store).1
  | .tryMarkApplyStarted now key tool, store =>
    (SqliteIdempotencyStore.tryMarkApplyStarted now key tool store).1
  | .markApplyStarted now key tool, store =>
    SqliteIdempotencyStore.markApplyStarted now key tool store
  | .clearApplyStarted key tool, store => SqliteIdempotencyStore.clearApplyStarted key tool store
  | .saveReceipt key receipt, store => SqliteIdempotencyStore.saveReceipt key receipt store

/-- Whether a receipt is saved over a row of its own operation, or over none. -/
def SavesOwn (store : SqliteIdempotencyStore) : IdempotencyOp → Prop
  | .saveReceipt key receipt =>
    ∀ record ∈ store.row (key, receipt.tool), record.opHash = receipt.opHash
  | _ => True

/-- Every stored receipt was saved, under the row's key, for the row's operation. -/
def ReceiptsSaved (ops : List IdempotencyOp) (store : SqliteIdempotencyStore) : Prop :=
  ∀ key tool record receipt, store.row (key, tool) = some record →
    record.receipt = some receipt →
    ∃ saved, .saveReceipt key saved ∈ ops ∧ saved.tool = tool ∧ saved.opHash = record.opHash ∧
      receipt = saved.reread

/-- An operation leaves every receipt with the operation it is for, but for the row a
receipt is saved in. -/
theorem IdempotencyOp.apply_row {op : IdempotencyOp} {key tool : String}
    {record : IdempotencyRecord} {receipt : OperationReceipt}
    (h : (op.apply store).row (key, tool) = some record)
    (hreceipt : record.receipt = some receipt) :
    ∃ before, store.row (key, tool) = some before ∧ before.opHash = record.opHash ∧
      (before.receipt = some receipt ∨
        ∃ saved, op = .saveReceipt key saved ∧ saved.tool = tool ∧ receipt = saved.reread) := by
  cases op with
  | checkAndRecord now key' tool' opHash window =>
    rw [IdempotencyOp.apply] at h
    rcases checkAndRecord_cases now key' tool' opHash window store with
      ⟨hcheck, _⟩ | ⟨_, _, _, ⟨_, hcheck⟩ | ⟨_, _, hcheck⟩ | ⟨_, _, _, hcheck⟩⟩
    · rw [hcheck] at h
      rcases Table.row_put_eq_some h with ⟨_, hbefore⟩ | ⟨_, rfl⟩
      · exact ⟨record, hbefore, rfl, .inl hreceipt⟩
      · cases hreceipt
    all_goals
      rw [hcheck] at h
      exact ⟨record, h, rfl, .inl hreceipt⟩
  | tryMarkApplyStarted now key' tool' =>
    obtain ⟨before, hbefore, ⟨_, rfl⟩ | ⟨_, rfl⟩⟩ := Table.row_update_eq_some h
    · exact ⟨record, hbefore, rfl, .inl hreceipt⟩
    · exact ⟨before, hbefore, by split <;> rfl, .inl (by split at hreceipt <;> exact hreceipt)⟩
  | markApplyStarted now key' tool' =>
    obtain ⟨before, hbefore, ⟨_, rfl⟩ | ⟨_, rfl⟩⟩ := Table.row_update_eq_some h
    · exact ⟨record, hbefore, rfl, .inl hreceipt⟩
    · exact ⟨before, hbefore, rfl, .inl hreceipt⟩
  | clearApplyStarted key' tool' =>
    obtain ⟨before, hbefore, ⟨_, rfl⟩ | ⟨_, rfl⟩⟩ := Table.row_update_eq_some h
    · exact ⟨record, hbefore, rfl, .inl hreceipt⟩
    · exact ⟨before, hbefore, by split <;> rfl, .inl (by split at hreceipt <;> exact hreceipt)⟩
  | saveReceipt key' saved =>
    obtain ⟨before, hbefore, ⟨_, rfl⟩ | ⟨hkey, rfl⟩⟩ := Table.row_update_eq_some h
    · exact ⟨record, hbefore, rfl, .inl hreceipt⟩
    · cases hkey
      exact ⟨before, hbefore, rfl, .inr ⟨saved, rfl, rfl, (Option.some.inj hreceipt).symm⟩⟩

/-- Saved receipts stay with their operations along a run whose saves all meet a row of
their own operation. -/
theorem receiptsSaved_run {ops : List IdempotencyOp}
    (hrun : Runs.Run IdempotencyOp.apply SavesOwn Table.empty ops store) :
    ReceiptsSaved ops store := by
  refine hrun.invariant (fun key tool record receipt h => by simp at h) ?_
  intro ops store op _ hsaved hop key tool record receipt hrow hreceipt
  obtain ⟨before, hbefore, hhash, hbefore' | ⟨saved, rfl, rfl, rfl⟩⟩ :=
    IdempotencyOp.apply_row hrow hreceipt
  · obtain ⟨saved, hmem, htool, hop', hreread⟩ := hsaved key tool before receipt hbefore hbefore'
    exact ⟨saved, List.mem_append_left _ hmem, htool, hop'.trans hhash, hreread⟩
  · exact ⟨saved, by simp, rfl, (hop before hbefore).symm.trans hhash, rfl⟩

/-- **A replay is the receipt of the same operation.**  Whatever the clock, in a run whose
saves all meet a row of their own operation, a reservation that answers with a replay
answers with a receipt saved for its key, its tool and its operation hash. -/
theorem replay_saved {ops : List IdempotencyOp} {store : SqliteIdempotencyStore}
    (hrun : Runs.Run IdempotencyOp.apply SavesOwn Table.empty ops store) {now : DateTime}
    {key tool opHash : String} {windowSeconds : Nat} {receipt : OperationReceipt}
    (h : (checkAndRecord now key tool opHash windowSeconds store).2 = .replay receipt) :
    ∃ saved, .saveReceipt key saved ∈ ops ∧ saved.tool = tool ∧ saved.opHash = opHash ∧
      receipt = { saved.reread with idempotencyReplay := true } := by
  rcases checkAndRecord_cases now key tool opHash windowSeconds store with
    ⟨hcheck, _⟩ | ⟨record, hrow, _, ⟨_, hcheck⟩ | ⟨_, _, hcheck⟩ | ⟨hhash, stored, hstored, hcheck⟩⟩
  all_goals rw [hcheck] at h
  · cases h
  · cases h
  · cases h
  · obtain ⟨saved, hmem, htool, hop, rfl⟩ :=
      receiptsSaved_run hrun key tool record stored hrow hstored
    exact ⟨saved, hmem, htool, hop.trans hhash, (IdempotencyOutcome.replay.inj h).symm⟩

/-! ## A slow apply -/

/-- The receipt of a write for the operation `opHash`. -/
def writeReceipt (opHash : String) : OperationReceipt where
  planId := "plan-1"
  auditId := "audit-1"
  parentAuditId := "audit-0"
  tool := "story_apply_create"
  status := .success
  appliedChangesSummary := none
  serviceNowMetadata := none
  idempotencyReplay := false
  completedAt := newYear
  opHash := opHash
  recordUrl := none
  recordSnapshot := none
  changedFields := []
  concurrencyTokenObserved := none
  applyStartedAt := none
  errorCode := none
  warnings := []

/-- A key is reserved, the receipt is saved, and the key is asked for again. -/
def promptOps : List IdempotencyOp :=
  [.checkAndRecord newYear "key-1" "story_apply_create" "hash-1" 60,
   .saveReceipt "key-1" (writeReceipt "hash-1")]

/-- The store after operations. -/
def storeAfter (ops : List IdempotencyOp) : SqliteIdempotencyStore :=
  ops.foldl (fun store op => op.apply store) Table.empty

/-- Over a receipt that is saved at once. -/
theorem replay_saved_prompt :
    ∃ saved, .saveReceipt "key-1" saved ∈ promptOps ∧ saved.tool = "story_apply_create" ∧
      saved.opHash = "hash-1" ∧
      { writeReceipt "hash-1" with idempotencyReplay := true } =
        { saved.reread with idempotencyReplay := true } := by
  have hrun : Runs.Run IdempotencyOp.apply SavesOwn Table.empty promptOps
      (storeAfter promptOps) := by
    refine .next (.next .start trivial) fun record hrecord => ?_
    have hreserved : record = reservation newYear "key-1" "story_apply_create" "hash-1" 60 :=
      (Option.some.inj hrecord).symm
    rw [hreserved]
    rfl
  have hreplay : (checkAndRecord newYear "key-1" "story_apply_create" "hash-1" 60
      (storeAfter promptOps)).2 =
        .replay { writeReceipt "hash-1" with idempotencyReplay := true } := by decide
  exact replay_saved hrun hreplay

/-- The key expires during a slow apply and is reserved for another operation; the receipt
of the first operation is then saved over that reservation. -/
def slowOps : List IdempotencyOp :=
  [.checkAndRecord newYear "key-1" "story_apply_create" "hash-1" 60,
   .checkAndRecord (newYear + durationSeconds 61) "key-1" "story_apply_create" "hash-2" 60,
   .saveReceipt "key-1" (writeReceipt "hash-1")]

/-- Both reservations were granted, each receipt carries the hash its caller reserved the
key under, and the second operation is answered with the receipt of the first. -/
theorem replay_other_operation :
    (checkAndRecord newYear "key-1" "story_apply_create" "hash-1" 60 Table.empty).2 = .newKey ∧
      (checkAndRecord (newYear + durationSeconds 61) "key-1" "story_apply_create" "hash-2" 60
        (storeAfter (slowOps.take 1))).2 = .newKey ∧
      (∀ key saved, .saveReceipt key saved ∈ slowOps → saved.opHash = "hash-1") ∧
      (checkAndRecord (newYear + durationSeconds 62) "key-1" "story_apply_create" "hash-2" 60
        (storeAfter slowOps)).2 =
          .replay { writeReceipt "hash-1" with idempotencyReplay := true } := by
  refine ⟨by decide, by decide, ?_, by decide⟩
  intro key saved h
  simp only [slowOps, List.mem_cons, List.not_mem_nil, or_false, reduceCtorEq, false_or,
    IdempotencyOp.saveReceipt.injEq] at h
  rw [h.2]
  rfl

end SnowAgent
