import SnowAgent.ServiceNow
import SnowAgent.Table

/-! # The bulk incident store

Bulk plans, their receipts, and the two tables of `BulkStore`.  A key is claimed
by `mark_apply_started`, which marks a row only while it is unmarked and has
neither a receipt nor a terminal error.
-/
namespace SnowAgent

open Json

structure JsonRpcError where
  code : Int
  message : String
  data : Option Value
deriving DecidableEq

/-! ## Plans -/

structure BulkTargetIdentity where
  number : String
  sysId : String
deriving DecidableEq

/-- A target, the fields to set, and the `sys_updated_on` it was planned against. -/
structure BulkPlannedTarget where
  target : BulkTargetIdentity
  patch : StringMap String
  sysUpdatedOn : String
deriving DecidableEq

/-- The planned targets.  No two of them are the same record. -/
structure BulkPreview where
  targets : List BulkPlannedTarget
  distinct : (targets.map fun t => t.target.sysId).Nodup
deriving DecidableEq

structure BulkPlan where
  planId : String
  opHash : String
  actor : String
  requester : String
  environment : String
  preview : BulkPreview
  createdAt : DateTime
  expiresAt : DateTime
deriving DecidableEq

/-! ## Receipts -/

inductive BulkReceiptStatus where
  | success
  | partialSuccess
deriving DecidableEq

inductive BulkTargetStatus where
  | applied
  | failed
  | notAttempted
deriving DecidableEq

structure BulkFieldChange where
  field : String
  beforeHash : String
  afterHash : String
deriving DecidableEq

structure BulkTargetResult where
  number : String
  sysId : String
  status : BulkTargetStatus
  changedFields : List BulkFieldChange
  observedSysUpdatedOn : String
  errorCode : Option String
deriving DecidableEq

structure BulkReceipt where
  planId : String
  auditId : String
  parentAuditId : String
  tool : String
  status : BulkReceiptStatus
  opHash : String
  idempotencyReplay : Bool
  targetResults : List BulkTargetResult
  appliedCount : Nat
  failedCount : Nat
  notAttemptedCount : Nat
  cacheCoherent : Bool
  applyStartedAt : DateTime
  completedAt : DateTime
deriving DecidableEq

/-! ## The tables -/

/-- One row of `incident_bulk_plans`. -/
structure BulkPlanRow where
  plan : BulkPlan
  consumed : Bool
deriving DecidableEq

/-- One row of `incident_bulk_idempotency`. -/
structure BulkIdempotencyRecord where
  opHash : String
  receipt : Option BulkReceipt
  terminalError : Option JsonRpcError
  progress : Option BulkReceipt
  applyStartedAt : Option DateTime
  createdAt : DateTime
  expiresAt : DateTime
deriving DecidableEq

structure BulkStore where
  plans : Table String BulkPlanRow
  idempotency : Table (String × String) BulkIdempotencyRecord

namespace BulkIdempotencyRecord

/-- Whether a row has neither a receipt nor a terminal error. -/
def unsettled (record : BulkIdempotencyRecord) : Bool :=
  record.receipt.isNone && record.terminalError.isNone

/-- Whether `mark_apply_started` finds a row to mark. -/
def claimable (record : BulkIdempotencyRecord) : Bool :=
  record.applyStartedAt.isNone && record.unsettled

end BulkIdempotencyRecord

namespace BulkStore

def empty : BulkStore := ⟨Table.empty, Table.empty⟩

/-- `put_plan`: the statement fails when the plan is there already. -/
def putPlan (plan : BulkPlan) (store : BulkStore) : Option BulkStore :=
  match store.plans.row plan.planId with
  | some _ => none
  | none => some { store with plans := store.plans.put plan.planId ⟨plan, false⟩ }

/-- `get_plan`. -/
def getPlan (store : BulkStore) (planId : String) : Option BulkPlan :=
  (store.plans.row planId).map BulkPlanRow.plan

/-- `mark_plan_consumed`. -/
def markPlanConsumed (planId : String) (store : BulkStore) : BulkStore :=
  { store with plans := store.plans.update planId fun row => { row with consumed := true } }

/-- `reserve_idempotency`: the window is an `i64`, and the statement fails when the key is
there already. -/
def reserveIdempotency (now : DateTime) (key tool opHash : String) (windowSeconds : Nat)
    (store : BulkStore) : Option BulkStore :=
  if 2 ^ 63 ≤ windowSeconds then none
  else match store.idempotency.row (key, tool) with
    | some _ => none
    | none =>
      some { store with
        idempotency := store.idempotency.put (key, tool)
          { opHash := opHash
            receipt := none
            terminalError := none
            progress := none
            applyStartedAt := none
            createdAt := now
            expiresAt := now + durationSeconds windowSeconds } }

/-- `lookup_idempotency`: an expired row is deleted. -/
def lookupIdempotency (now : DateTime) (key tool : String) (store : BulkStore) :
    BulkStore × Option BulkIdempotencyRecord :=
  match store.idempotency.row (key, tool) with
  | none => (store, none)
  | some record =>
    if record.expiresAt ≤ now then
      ({ store with idempotency := store.idempotency.delete (key, tool) }, none)
    else (store, some record)

/-- Updates one row of `incident_bulk_idempotency`. -/
def updateIdempotency (key tool : String) (f : BulkIdempotencyRecord → BulkIdempotencyRecord)
    (store : BulkStore) : BulkStore :=
  { store with idempotency := store.idempotency.update (key, tool) f }

/-- `mark_apply_started`: whether this call marked the row. -/
def markApplyStarted (now : DateTime) (key tool : String) (store : BulkStore) :
    BulkStore × Bool :=
  (store.updateIdempotency key tool fun record =>
      if record.claimable then
        { record with applyStartedAt := some now }
      else record,
    (store.idempotency.row (key, tool)).any BulkIdempotencyRecord.claimable)

/-- `clear_apply_started`. -/
def clearApplyStarted (key tool : String) (store : BulkStore) : BulkStore :=
  store.updateIdempotency key tool fun record =>
    if record.unsettled then { record with applyStartedAt := none }
    else record

/-- `save_progress`. -/
def saveProgress (key tool : String) (receipt : BulkReceipt) (store : BulkStore) : BulkStore :=
  store.updateIdempotency key tool fun record => { record with progress := some receipt }

/-- `save_final_receipt`. -/
def saveFinalReceipt (key tool : String) (receipt : BulkReceipt) (store : BulkStore) :
    BulkStore :=
  store.updateIdempotency key tool fun record =>
    { record with receipt := some receipt, progress := some receipt }

/-- `save_terminal_error`. -/
def saveTerminalError (key tool : String) (error : JsonRpcError) (store : BulkStore) :
    BulkStore :=
  store.updateIdempotency key tool fun record => { record with terminalError := some error }

end BulkStore

end SnowAgent
