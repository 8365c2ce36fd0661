import SnowAgent.OperationPlan
import SnowAgent.Table

/-! # Operation plans and the plan store

A plan is what an apply call will carry out: a tool, an optional target and the
planned changes, with the hash of the three.  A stored plan also keeps what its
plan handler adds to `plan_json`.
-/
namespace SnowAgent

open Json

/-- What a plan call proposes and an apply call carries out. -/
structure OperationPlan where
  planId : String
  tool : String
  target : Option RecordRef
  plannedChanges : Value
  opHash : String
deriving DecidableEq

/-- `OperationPlanBuilder::build`, with a fresh identifier. -/
def OperationPlan.build (sha256 : Sha256) (planId tool : String) (target : Option RecordRef)
    (plannedChanges : Value) : OperationPlan where
  planId := planId
  tool := tool
  target := target
  plannedChanges := plannedChanges
  opHash := computeOpHash sha256 tool target plannedChanges

/-- `plan_json`: the plan, and the fields a plan handler adds to it. -/
structure PlanJson where
  plan : OperationPlan
  applyTool : String
  receiptWarnings : List ReceiptWarning
  auditWarningEmailSha256 : List String
deriving DecidableEq

inductive PlanLifecycleState where
  | pending
  | consumed
  | expired
deriving DecidableEq

/-- One row of `mcp_plans`. -/
structure PlanStoreRecord where
  planId : String
  tool : String
  actor : String
  opHash : String
  planJson : PlanJson
  concurrencyToken : Option ConcurrencyToken
  createdAt : DateTime
  expiresAt : DateTime
  state : PlanLifecycleState
deriving DecidableEq

/-- The table, by plan. -/
abbrev SqlitePlanStore := Table String PlanStoreRecord

/-- `plan_json` as it is read back from its text. -/
def PlanJson.reread (j : PlanJson) : PlanJson :=
  { j with receiptWarnings := j.receiptWarnings.map ReceiptWarning.reread }

namespace SqlitePlanStore

/-- `put`. -/
def put (record : PlanStoreRecord) (store : SqlitePlanStore) : SqlitePlanStore :=
  Table.put store record.planId { record with planJson := record.planJson.reread }

/-- `get`. -/
def get (store : SqlitePlanStore) (planId : String) : Option PlanStoreRecord := store.row planId

/-- `mark_consumed`. -/
def markConsumed (planId : String) (store : SqlitePlanStore) : SqlitePlanStore :=
  store.update planId fun record => { record with state := .consumed }

/-- `mark_expired`: a consumed plan stays consumed. -/
def markExpired (planId : String) (store : SqlitePlanStore) : SqlitePlanStore :=
  store.update planId fun record =>
    if record.state = .consumed then record else { record with state := .expired }

end SqlitePlanStore

end SnowAgent
