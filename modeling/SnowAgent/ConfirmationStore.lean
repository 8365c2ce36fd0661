import SnowAgent.Primitives
import SnowAgent.Table

/-! # The confirmation store

One row per confirmation token, bound to the caller, the tool, the operation and
the environment it was issued for.  A row is inserted once and is never replaced;
the only update marks it consumed.  `Spent` says that a row can no longer be
consumed, and `consume_spends` that one call of `consume` with the row's own
binding leaves it so, whatever it answers.
-/
namespace SnowAgent

/-- Who a token was issued to, and for what. -/
structure ConfirmationBinding where
  actor : String
  requester : String
  tool : String
  opHash : String
  environment : String
deriving DecidableEq

/-- One row of `mcp_confirmations`. -/
structure ConfirmationRecord where
  tokenId : String
  planId : String
  actor : String
  requester : String
  tool : String
  opHash : String
  environment : String
  issuedAt : DateTime
  expiresAt : DateTime
  consumed : Bool
  revoked : Bool
deriving DecidableEq

inductive ConfirmationConsumeError where
  | notFound
  | expired
  | alreadyConsumed
  | revoked
  | bindingMismatch (field : String)
deriving DecidableEq

/-- The text of a refusal. -/
def ConfirmationConsumeError.message : ConfirmationConsumeError → String
  | .notFound => "token not found"
  | .expired => "token expired"
  | .alreadyConsumed => "token already consumed"
  | .revoked => "token revoked"
  | .bindingMismatch field => "binding mismatch on field `" ++ field ++ "`"

variable {record : ConfirmationRecord}

namespace ConfirmationRecord

/-- What the row is bound to. -/
def binding (record : ConfirmationRecord) : ConfirmationBinding where
  actor := record.actor
  requester := record.requester
  tool := record.tool
  opHash := record.opHash
  environment := record.environment

/-- The first field in which a caller differs from the row, in the order they are checked. -/
def mismatch (record : ConfirmationRecord) (binding : ConfirmationBinding) : Option String :=
  if record.actor ≠ binding.actor then some "actor"
  else if record.requester ≠ binding.requester then some "requester"
  else if record.tool ≠ binding.tool then some "tool"
  else if record.opHash ≠ binding.opHash then some "op_hash"
  else if record.environment ≠ binding.environment then some "environment"
  else none

theorem mismatch_eq_none {binding : ConfirmationBinding} :
    record.mismatch binding = none ↔ record.binding = binding := by
  unfold mismatch ConfirmationRecord.binding
  cases binding
  split_ifs <;> simp_all

/-- Whether a row can no longer be consumed at an instant, nor later. -/
def Spent (record : ConfirmationRecord) (now : DateTime) : Prop :=
  record.consumed = true ∨ record.revoked = true ∨ record.expiresAt ≤ now

end ConfirmationRecord

/-- The table, by token. -/
abbrev SqliteConfirmationStore := Table String ConfirmationRecord

namespace SqliteConfirmationStore

/-- The row `issue` inserts. -/
def issuedRecord (now : DateTime) (tokenId planId : String) (binding : ConfirmationBinding)
    (ttlSeconds : Nat) : ConfirmationRecord where
  tokenId := tokenId
  planId := planId
  actor := binding.actor
  requester := binding.requester
  tool := binding.tool
  opHash := binding.opHash
  environment := binding.environment
  issuedAt := now
  expiresAt := now + durationSeconds ttlSeconds
  consumed := false
  revoked := false

/-- `issue`: the statement fails when the token is there already. -/
def issue (now : DateTime) (tokenId planId : String) (binding : ConfirmationBinding)
    (ttlSeconds : Nat) (store : SqliteConfirmationStore) :
    Option (SqliteConfirmationStore × ConfirmationRecord) :=
  let record := issuedRecord now tokenId planId binding ttlSeconds
  match store.row tokenId with
  | some _ => none
  | none => some (store.put tokenId record, record)

/-- `lookup`. -/
def lookup (store : SqliteConfirmationStore) (tokenId : String) : Option ConfirmationRecord :=
  store.row tokenId

/-- `consume`. -/
def consume (now : DateTime) (tokenId : String) (binding : ConfirmationBinding)
    (store : SqliteConfirmationStore) :
    SqliteConfirmationStore × Except ConfirmationConsumeError ConfirmationRecord :=
  match store.row tokenId with
  | none => (store, .error .notFound)
  | some record =>
    if record.revoked then (store, .error .revoked)
    else if record.consumed then (store, .error .alreadyConsumed)
    else if record.expiresAt ≤ now then (store, .error .expired)
    else match record.mismatch binding with
      | some field => (store, .error (.bindingMismatch field))
      | none =>
        (store.update tokenId fun record => { record with consumed := true },
          .ok { record with consumed := true })

/-- **What `consume` does.**  Either it refuses and leaves the table alone, or the row was
neither consumed nor revoked nor expired, is bound to the caller, and is now consumed. -/
theorem consume_cases (now : DateTime) (tokenId : String) (binding : ConfirmationBinding)
    (store : SqliteConfirmationStore) :
    (∃ err, consume now tokenId binding store = (store, .error err)) ∨
    ∃ record, store.row tokenId = some record ∧ ¬ record.Spent now ∧ record.binding = binding ∧
      consume now tokenId binding store = (store.put tokenId { record with consumed := true },
          .ok { record with consumed := true }) := by
  unfold consume
  cases hrow : store.row tokenId with
  | none => exact .inl ⟨_, rfl⟩
  | some record =>
    by_cases hrevoked : record.revoked = true
    · exact .inl ⟨.revoked, by simp [hrevoked]⟩
    by_cases hconsumed : record.consumed = true
    · exact .inl ⟨.alreadyConsumed, by simp [hrevoked, hconsumed]⟩
    by_cases hexpired : record.expiresAt ≤ now
    · exact .inl ⟨.expired, by simp [hrevoked, hconsumed, hexpired]⟩
    cases hmismatch : record.mismatch binding with
    | some field =>
      exact .inl ⟨.bindingMismatch field, by simp [hrevoked, hconsumed, hexpired, hmismatch]⟩
    | none =>
      refine .inr ⟨record, rfl, ?_, ConfirmationRecord.mismatch_eq_none.mp hmismatch, ?_⟩
      · rintro (h | h | h)
        · exact hconsumed h
        · exact hrevoked h
        · exact hexpired h
      · simp [hrevoked, hconsumed, hexpired, hmismatch, Table.update, Table.put, hrow]

variable {store : SqliteConfirmationStore} {now : DateTime} {tokenId : String}

/-- An unspent row is consumed by the caller it is bound to. -/
theorem consume_accepts (hrow : store.row tokenId = some record) (hunspent : ¬ record.Spent now) :
    consume now tokenId record.binding store =
      (store.update tokenId fun record => { record with consumed := true },
        .ok { record with consumed := true }) := by
  have hrevoked : record.revoked = false := by
    by_contra h
    exact hunspent (.inr (.inl (by simpa using h)))
  have hconsumed : record.consumed = false := by
    by_contra h
    exact hunspent (.inl (by simpa using h))
  have hexpired : ¬ record.expiresAt ≤ now := fun h => hunspent (.inr (.inr h))
  have hmismatch := ConfirmationRecord.mismatch_eq_none.mpr (rfl : record.binding = _)
  simp [consume, hrow, hrevoked, hconsumed, hexpired, hmismatch]

theorem consume_unspent (hrow : store.row tokenId = some record) (hunspent : ¬ record.Spent now) :
    (consume now tokenId record.binding store).2 = .ok { record with consumed := true } := by
  rw [consume_accepts hrow hunspent]

/-- A row that is there stays, and at most becomes consumed. -/
def Kept (store store' : SqliteConfirmationStore) : Prop :=
  ∀ tokenId record, store.row tokenId = some record →
    store'.row tokenId = some record ∨ store'.row tokenId = some { record with consumed := true }

theorem Kept.refl (store : SqliteConfirmationStore) : Kept store store := fun _ _ h => .inl h

/-- A row that is there is not touched by `issue`. -/
theorem issue_row {tokenId planId : String} {binding : ConfirmationBinding} {ttlSeconds : Nat}
    {store store' : SqliteConfirmationStore} {issued : ConfirmationRecord}
    (h : issue now tokenId planId binding ttlSeconds store = some (store', issued))
    {other : String} (hrecord : store.row other = some record) :
    store'.row other = some record := by
  unfold issue at h
  split at h
  · cases h
  · rename_i hnone
    cases h
    by_cases hother : other = tokenId
    · subst hother
      rw [hnone] at hrecord
      cases hrecord
    · rw [Table.row_put_of_ne _ _ hother, hrecord]

/-- `consume` touches only the row it is called for. -/
theorem consume_row_of_ne {tokenId other : String} {binding : ConfirmationBinding}
    (h : other ≠ tokenId) :
    (consume now tokenId binding store).1.row other = store.row other := by
  rcases consume_cases now tokenId binding store with ⟨err, hc⟩ | ⟨record, _, _, _, hc⟩
  · rw [hc]
  · rw [hc, Table.row_put_of_ne _ _ h]

theorem consume_kept (now : DateTime) (tokenId : String) (binding : ConfirmationBinding)
    (store : SqliteConfirmationStore) : Kept store (consume now tokenId binding store).1 := by
  intro other found hfound
  by_cases hother : other = tokenId
  · subst hother
    rcases consume_cases now other binding store with ⟨err, h⟩ | ⟨record, hrow, _, _, h⟩
    · exact .inl (by rw [h, hfound])
    · rw [hrow] at hfound
      cases hfound
      exact .inr (by rw [h, Table.row_put_self])
  · exact .inl (by rw [consume_row_of_ne hother, hfound])

/-- A spent row stays spent. -/
theorem Kept.spent {store store' : SqliteConfirmationStore} (h : Kept store store')
    (hrow : store.row tokenId = some record) (hspent : record.Spent now) :
    ∃ record', store'.row tokenId = some record' ∧ record'.Spent now := by
  rcases h tokenId record hrow with hrow' | hrow'
  · exact ⟨record, hrow', hspent⟩
  · exact ⟨_, hrow', .inl rfl⟩

/-- **A row is spent once it has been presented with its own binding**, whatever the
answer was. -/
theorem consume_spends (hrow : store.row tokenId = some record) :
    ∃ record', (consume now tokenId record.binding store).1.row tokenId = some record' ∧
      record'.Spent now := by
  by_cases hspent : record.Spent now
  · exact (consume_kept now tokenId record.binding store).spent hrow hspent
  · refine ⟨{ record with consumed := true }, ?_, .inl rfl⟩
    rw [consume_accepts hrow hspent, Table.row_update_self, hrow]
    rfl

end SqliteConfirmationStore

end SnowAgent
