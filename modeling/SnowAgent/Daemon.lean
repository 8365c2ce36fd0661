import SnowAgent.AuditSink
import SnowAgent.BulkStore
import SnowAgent.ConfirmationStore
import SnowAgent.IdempotencyStore
import SnowAgent.Interleaving
import SnowAgent.PlanStore
import SnowAgent.Policy

/-! # The daemon

What a handler of the daemon can do, and the world all handlers share: the tables
of one database file, the audit sinks, the rate limits and the clock.  Every
handler is a program over this interface.  The daemon runs its connections as
tasks of one thread, so a handler runs alone until it waits for ServiceNow; a call
of a store is one action, and so is everything else it does on its own.

A store call may also fail, and then changes nothing.  What ServiceNow answers is
left open.
-/
namespace SnowAgent

open Json Interleaving

/-! ## Configuration and responses -/

/-- `McpRateLimitConfig`. -/
structure RateLimitConfig where
  readPerMinute : Nat
  writePerMinute : Nat
  failedConfirmationsPerMinute : Nat
deriving DecidableEq

/-- What the handlers read of `DaemonState`, and what they use of other crates. -/
structure DaemonState where
  crates : Crates
  /-- `format("%Y-%m-%d %H:%M:%S")` of an instant. -/
  formatTime : DateTime → String
  environment : McpEnvironment
  policy : PolicyConfig
  rateLimit : RateLimitConfig
  instanceUrl : String
  instanceUser : String
  /-- Where `mcp_story_write.sqlite3` lies. -/
  storePath : String
  /-- `mcp_config.audit.path`. -/
  auditPath : Option String
  /-- `mcp_config.audit.retention_days`. -/
  auditRetentionDays : UInt32

/-- A successful result: a receipt as it is, or any other JSON value. -/
inductive RpcResult where
  | receipt (receipt : OperationReceipt)
  | bulkReceipt (receipt : BulkReceipt)
  | value (v : Value)
deriving DecidableEq

/-- `JsonRpcResponse`, up to the request id it echoes. -/
inductive JsonRpcResponse where
  | ok (result : RpcResult)
  | error (err : JsonRpcError)
deriving DecidableEq

def JsonRpcResponse.isError : JsonRpcResponse → Bool
  | .ok _ => false
  | .error _ => true

/-! ## Store calls -/

/-- The calls of the stores, each with the clock reading it makes. -/
inductive StoreCall where
  | putPlan (record : PlanStoreRecord)
  | getPlan (planId : String)
  | markPlanConsumed (planId : String)
  | markPlanExpired (planId : String)
  | issueConfirmation (now : DateTime) (tokenId planId : String) (binding : ConfirmationBinding)
      (ttlSeconds : Nat)
  | lookupConfirmation (tokenId : String)
  | consumeConfirmation (now : DateTime) (tokenId : String) (binding : ConfirmationBinding)
  | lookupRecord (key tool : String)
  | checkAndRecord (now : DateTime) (key tool opHash : String) (windowSeconds : Nat)
  | markApplyStarted (now : DateTime) (key tool : String)
  | tryMarkApplyStarted (now : DateTime) (key tool : String)
  | clearApplyStarted (key tool : String)
  | saveReceipt (key : String) (receipt : OperationReceipt)
  | appendAudit (path : String) (now : DateTime) (event : AuditEvent)
  | enforceRetention (path : String) (now : DateTime) (retentionDays : UInt32)
  | putBulkPlan (plan : BulkPlan)
  | getBulkPlan (planId : String)
  | markBulkPlanConsumed (planId : String)
  | reserveBulkKey (now : DateTime) (key tool opHash : String) (windowSeconds : Nat)
  | lookupBulkKey (now : DateTime) (key tool : String)
  | markBulkStarted (now : DateTime) (key tool : String)
  | clearBulkStarted (key tool : String)
  | saveBulkProgress (key tool : String) (receipt : BulkReceipt)
  | saveBulkReceipt (key tool : String) (receipt : BulkReceipt)
  | saveBulkError (key tool : String) (error : JsonRpcError)

/-- What a store call answers with, but for its failure. -/
def StoreCall.Found : StoreCall → Type
  | .getPlan _ => Option PlanStoreRecord
  | .issueConfirmation .. => ConfirmationRecord
  | .lookupConfirmation _ => Option ConfirmationRecord
  | .consumeConfirmation .. => ConfirmationRecord
  | .lookupRecord .. => Option IdempotencyRecord
  | .checkAndRecord .. => IdempotencyOutcome
  | .tryMarkApplyStarted .. => Bool
  | .appendAudit .. => AuditEvent
  | .enforceRetention .. => Nat
  | .getBulkPlan _ => Option BulkPlan
  | .lookupBulkKey .. => Option BulkIdempotencyRecord
  | .markBulkStarted .. => Bool
  | _ => Unit

/-- How a store call fails. -/
def StoreCall.Failure : StoreCall → Type
  | .consumeConfirmation .. => ConfirmationConsumeError
  | _ => String

/-- What a store call answers with. -/
abbrev StoreCall.Ans (call : StoreCall) : Type := Except call.Failure call.Found

/-- The answer of a store call when a statement fails. -/
def StoreCall.failed (call : StoreCall) (text : String) : call.Ans :=
  match call with
  | .consumeConfirmation .. => .error ConfirmationConsumeError.notFound
  | .putPlan _ | .getPlan _ | .markPlanConsumed _ | .markPlanExpired _
  | .issueConfirmation .. | .lookupConfirmation _ | .lookupRecord .. | .checkAndRecord ..
  | .markApplyStarted .. | .tryMarkApplyStarted .. | .clearApplyStarted .. | .saveReceipt ..
  | .appendAudit .. | .enforceRetention .. | .putBulkPlan _ | .getBulkPlan _ | .markBulkPlanConsumed _
  | .reserveBulkKey .. | .lookupBulkKey .. | .markBulkStarted .. | .clearBulkStarted ..
  | .saveBulkProgress .. | .saveBulkReceipt .. | .saveBulkError .. => .error (text : String)

/-- The stores: one database, and the audit sinks by their paths. -/
structure Stores where
  plans : SqlitePlanStore
  confirmations : SqliteConfirmationStore
  idempotency : SqliteIdempotencyStore
  bulk : BulkStore
  audit : String → SqliteAuditSink

namespace Stores

def empty : Stores where
  plans := Table.empty
  confirmations := Table.empty
  idempotency := Table.empty
  bulk := BulkStore.empty
  audit := fun _ => SqliteAuditSink.empty

end Stores

/-- The answer of a statement that a primary key refuses. -/
def uniqueFailed {α : Type} : Except String α := .error "UNIQUE constraint failed"

/-- The stores after a call, and its answer. -/
def StoreCall.run (lib : Crates) (s : Stores) : (call : StoreCall) → Stores × call.Ans
  | .putPlan record => ({ s with plans := SqlitePlanStore.put record s.plans }, .ok ())
  | .getPlan planId => (s, .ok (SqlitePlanStore.get s.plans planId))
  | .markPlanConsumed planId =>
    ({ s with plans := SqlitePlanStore.markConsumed planId s.plans }, .ok ())
  | .markPlanExpired planId =>
    ({ s with plans := SqlitePlanStore.markExpired planId s.plans }, .ok ())
  | .issueConfirmation now tokenId planId binding ttlSeconds =>
    match SqliteConfirmationStore.issue now tokenId planId binding ttlSeconds
      s.confirmations with
    | none => (s, (uniqueFailed : Except String ConfirmationRecord))
    | some (confirmations, record) =>
      ({ s with confirmations := confirmations },
        (.ok record : Except String ConfirmationRecord))
  | .lookupConfirmation tokenId =>
    (s, .ok (SqliteConfirmationStore.lookup s.confirmations tokenId))
  | .consumeConfirmation now tokenId binding =>
    let (confirmations, answer) :=
      SqliteConfirmationStore.consume now tokenId binding s.confirmations
    ({ s with confirmations := confirmations }, answer)
  | .lookupRecord key tool => (s, .ok (SqliteIdempotencyStore.lookupRecord s.idempotency key tool))
  | .checkAndRecord now key tool opHash windowSeconds =>
    let (idempotency, outcome) :=
      SqliteIdempotencyStore.checkAndRecord now key tool opHash windowSeconds s.idempotency
    ({ s with idempotency := idempotency }, .ok outcome)
  | .markApplyStarted now key tool =>
    ({ s with idempotency := SqliteIdempotencyStore.markApplyStarted now key tool s.idempotency },
      .ok ())
  | .tryMarkApplyStarted now key tool =>
    let (idempotency, marked) :=
      SqliteIdempotencyStore.tryMarkApplyStarted now key tool s.idempotency
    ({ s with idempotency := idempotency }, .ok marked)
  | .clearApplyStarted key tool =>
    ({ s with idempotency := SqliteIdempotencyStore.clearApplyStarted key tool s.idempotency },
      .ok ())
  | .saveReceipt key receipt =>
    ({ s with idempotency := SqliteIdempotencyStore.saveReceipt key receipt s.idempotency },
      .ok ())
  | .appendAudit path now event =>
    match SqliteAuditSink.append lib now event (s.audit path) with
    | none => (s, (uniqueFailed : Except String AuditEvent))
    | some (sink, event) =>
      ({ s with audit := Function.update s.audit path sink },
        (.ok event : Except String AuditEvent))
  | .enforceRetention path now retentionDays =>
    ({ s with
        audit := Function.update s.audit path
          (SqliteAuditSink.enforceRetention lib now retentionDays (s.audit path)).1 },
      .ok (SqliteAuditSink.enforceRetention lib now retentionDays (s.audit path)).2)
  | .putBulkPlan plan =>
    match s.bulk.putPlan plan with
    | none => (s, (uniqueFailed : Except String Unit))
    | some bulk => ({ s with bulk := bulk }, (.ok () : Except String Unit))
  | .getBulkPlan planId => (s, .ok (s.bulk.getPlan planId))
  | .markBulkPlanConsumed planId => ({ s with bulk := s.bulk.markPlanConsumed planId }, .ok ())
  | .reserveBulkKey now key tool opHash windowSeconds =>
    match s.bulk.reserveIdempotency now key tool opHash windowSeconds with
    | none => (s, (uniqueFailed : Except String Unit))
    | some bulk => ({ s with bulk := bulk }, (.ok () : Except String Unit))
  | .lookupBulkKey now key tool =>
    let (bulk, record) := s.bulk.lookupIdempotency now key tool
    ({ s with bulk := bulk }, .ok record)
  | .markBulkStarted now key tool =>
    let (bulk, marked) := s.bulk.markApplyStarted now key tool
    ({ s with bulk := bulk }, .ok marked)
  | .clearBulkStarted key tool => ({ s with bulk := s.bulk.clearApplyStarted key tool }, .ok ())
  | .saveBulkProgress key tool receipt =>
    ({ s with bulk := s.bulk.saveProgress key tool receipt }, .ok ())
  | .saveBulkReceipt key tool receipt =>
    ({ s with bulk := s.bulk.saveFinalReceipt key tool receipt }, .ok ())
  | .saveBulkError key tool error =>
    ({ s with bulk := s.bulk.saveTerminalError key tool error }, .ok ())

/-! ## Rate limits -/

/-- The instants recorded for each bucket. -/
abbrev RateLimits := Table String (List DateTime)

/-- `RATE_LIMIT_WINDOW_SECONDS`. -/
def rateLimitWindowSeconds : Nat := 60

/-- The guarded part of `rate_limit`: the seconds to wait when the bucket is full. -/
def RateLimits.take (bucket : String) (now : DateTime) (limitPerMinute : Nat)
    (recordEvent : Bool) (limits : RateLimits) : RateLimits × Option Int :=
  let cutoff := now - durationSeconds rateLimitWindowSeconds
  let entries := ((limits.row bucket).getD []).filter fun timestamp => cutoff < timestamp
  if limitPerMinute ≤ entries.length then
    (limits.put bucket entries,
      entries.head?.map fun oldest =>
        max ((oldest + durationSeconds rateLimitWindowSeconds - now).tdiv 1000000000) 1)
  else if recordEvent then (limits.put bucket (entries ++ [now]), none)
  else (limits.put bucket entries, none)

/-! ## Actions -/

/-- The actions of a handler. -/
inductive DaemonAct where
  /-- `Utc::now()`. -/
  | now
  /-- `Uuid::new_v4()`. -/
  | uuid
  /-- `std::env::var`. -/
  | envVar (name : String)
  /-- Opens the stores, or fails to. -/
  | openStores
  | rateLimit (bucket : String) (now : DateTime) (limitPerMinute : Nat) (recordEvent : Bool)
  | store (call : StoreCall)
  | read (r : SnowRead)
  /-- A write, with the plan it is made for; ServiceNow is not told the plan. -/
  | write (planId : String) (w : SnowWrite)

/-- What an action is answered with. -/
def DaemonAct.Ans : DaemonAct → Type
  | .now => DateTime
  | .uuid => String
  | .envVar _ => Option String
  | .openStores => Except String Unit
  | .rateLimit .. => Option Int
  | .store call => call.Ans
  | .read r => r.Ans
  | .write _ w => w.Ans

/-- The interface of the handlers. -/
abbrev DaemonIO : Interface := ⟨DaemonAct, DaemonAct.Ans⟩

/-- A part of a handler. -/
abbrev Handler (A : Type) := Program DaemonIO A

namespace Daemon

def now : Handler DateTime := .perform (S := DaemonIO) .now

def uuid : Handler String := .perform (S := DaemonIO) .uuid

def envVar (name : String) : Handler (Option String) := .perform (S := DaemonIO) (.envVar name)

def openStores : Handler (Except String Unit) := .perform (S := DaemonIO) .openStores

def store (call : StoreCall) : Handler call.Ans := .perform (S := DaemonIO) (.store call)

def write (planId : String) (w : SnowWrite) : Handler w.Ans :=
  .perform (S := DaemonIO) (.write planId w)

/-- A part that only reads from ServiceNow. -/
def reading {A : Type} (p : Program SnowReads A) : Handler A :=
  p.embed (T := DaemonIO) .read fun _ answer => answer

/-- `rate_limit`. -/
def rateLimit (bucket actor tool : String) (limitPerMinute : Nat) (recordEvent : Bool) :
    Handler (Option Int) := do
  if limitPerMinute = 0 then return some rateLimitWindowSeconds
  let t ← now
  .perform (S := DaemonIO)
    (.rateLimit (bucket ++ ":" ++ actor ++ ":" ++ tool) t limitPerMinute recordEvent)

/-! Each call of a store that reads the clock reads it once. -/

def issueConfirmation (planId : String) (binding : ConfirmationBinding) (ttlSeconds : Nat) :
    Handler (Except String ConfirmationRecord) := do
  let t ← now
  let tokenId ← uuid
  store (.issueConfirmation t tokenId planId binding ttlSeconds)

def consumeConfirmation (tokenId : String) (binding : ConfirmationBinding) :
    Handler (Except ConfirmationConsumeError ConfirmationRecord) := do
  let t ← now
  store (.consumeConfirmation t tokenId binding)

def checkAndRecord (key tool opHash : String) (windowSeconds : Nat) :
    Handler (Except String IdempotencyOutcome) := do
  let t ← now
  store (.checkAndRecord t key tool opHash windowSeconds)

def markApplyStarted (key tool : String) : Handler (Except String Unit) := do
  let t ← now
  store (.markApplyStarted t key tool)

def tryMarkApplyStarted (key tool : String) : Handler (Except String Bool) := do
  let t ← now
  store (.tryMarkApplyStarted t key tool)

def appendAudit (path : String) (event : AuditEvent) : Handler (Except String AuditEvent) := do
  let t ← now
  store (.appendAudit path t event)

end Daemon

/-! ## Routine actions -/

variable {P : DaemonAct → Prop}

/-- Auditing, and what a handler does on its own. -/
def DaemonAct.routine : DaemonAct → Prop
  | .store (.appendAudit ..) => True
  | .store _ | .read _ | .write _ _ => False
  | _ => True

/-- A part of a handler that does nothing but routine, and ends as promised. -/
abbrev Handler.Routine {A : Type} (R : A → Prop) (p : Handler A) : Prop :=
  p.Uses DaemonAct.routine R

/-- An action of the daemon that is permitted. -/
theorem performs {e : DaemonAct} (h : P e) :
    Program.Uses (S := DaemonIO) P (fun _ => True) (.perform e) := Program.uses_performed h

namespace Daemon

open Program

theorem uses_reading {A : Type} (h : ∀ r, P (.read r))
    (p : Program SnowReads A) : (reading p).Uses P fun _ => True :=
  uses_embed h p

theorem routine_rateLimit (bucket actor tool : String) (limitPerMinute : Nat)
    (recordEvent : Bool) :
    Handler.Routine (fun _ => True) (rateLimit bucket actor tool limitPerMinute recordEvent) := by
  unfold rateLimit
  split
  · exact uses_pure trivial
  · exact uses_perform trivial fun _ => performs trivial

theorem routine_appendAudit (path : String) (event : AuditEvent) :
    Handler.Routine (fun _ => True) (appendAudit path event) :=
  uses_perform trivial fun _ => performs trivial

end Daemon

/-! ## The world -/

/-- What the handlers share, and the records that were created in ServiceNow: by other
users, or for a plan. -/
structure World where
  stores : Stores
  rateLimits : RateLimits
  clock : DateTime
  uuids : List String
  created : List (String × Option String)

/-- How the world may answer an action, and what becomes of it. -/
def World.Answers (lib : Crates) (w : World) :
    (e : DaemonAct) → e.Ans → World → Prop
  | .now, t, w' => w' = { w with clock := t }
  | .uuid, id, w' => id ∉ w.uuids ∧ w' = { w with uuids := id :: w.uuids }
  | .envVar _, _, w' => w' = w
  | .openStores, _, w' => w' = w
  | .rateLimit bucket now limitPerMinute recordEvent, wait, w' =>
    (w', wait) =
      ({ w with rateLimits := (w.rateLimits.take bucket now limitPerMinute recordEvent).1 },
        (w.rateLimits.take bucket now limitPerMinute recordEvent).2)
  | .store call, answer, w' =>
    w' = { w with stores := (call.run lib w.stores).1 } ∧ answer = (call.run lib w.stores).2 ∨
      w' = w ∧ ∃ text, answer = call.failed text
  | .read _, _, w' => w' = w
  | .write _ _, _, w' => w' = w

/-- Whether a handler waits for the answer of an action while others run. -/
def DaemonAct.yields : DaemonAct → Bool
  | .read _ | .write _ _ => true
  | _ => false

/-- ServiceNow creates a record, with an identifier of its own: for another user, or for a
plan whose write has been sent off. -/
def World.Creates (w w' : World) : Prop :=
  ∃ sysId by', sysId ∉ w.created.map Prod.fst ∧
    w' = { w with created := (sysId, by') :: w.created }

/-- The daemon, with a handler for every call. -/
def daemon {Call : Type} (lib : Crates) (handle : Call → Handler JsonRpcResponse) :
    System DaemonIO World Call JsonRpcResponse where
  program := handle
  answers w e r w' := w.Answers lib e r w'
  yields := DaemonAct.yields
  environment := World.Creates

/-- What a step does to the stores: an action is answered, or they stay. -/
theorem step_stores {Call : Type} {lib : Crates} {handle : Call → Handler JsonRpcResponse}
    {c c' : Config DaemonIO World Call JsonRpcResponse} {l : Label DaemonIO World Call}
    (hs : Step (daemon lib handle) c l c') :
    (∃ ev, l.event? = some ev ∧ c.world.Answers lib ev.1 ev.2 c'.world) ∨
      l.event? = none ∧ c'.world.stores = c.world.stores := by
  cases hs with
  | act hr htask hrest hy ha | receive hr htask hrest hy ha => exact .inl ⟨_, rfl, ha⟩
  | environment hcreates =>
    obtain ⟨_, _, _, rfl⟩ := hcreates
    exact .inr ⟨rfl, rfl⟩
  | _ => exact .inr ⟨rfl, rfl⟩

/-- A store call fails only where its statement does, and the stores can be opened. -/
def Faultless {Call : Type} (lib : Crates) (c : Config DaemonIO World Call JsonRpcResponse) :
    Label DaemonIO World Call → Prop
  | .act _ (.store call) answer => answer.isOk = (call.run lib c.world.stores).2.isOk
  | .act _ .openStores opened => opened = .ok ()
  | _ => True

instance {Call : Type} {lib : Crates} {c : Config DaemonIO World Call JsonRpcResponse} :
    (l : Label DaemonIO World Call) → Decidable (Faultless lib c l)
  | .act _ (.store call) answer =>
    inferInstanceAs (Decidable (answer.isOk = (call.run lib c.world.stores).2.isOk))
  | .act _ .openStores (.ok ()) => .isTrue rfl
  | .act _ .openStores (.error _) => .isFalse nofun
  | .act _ .now _ | .act _ .uuid _ | .act _ (.envVar _) _ | .act _ (.rateLimit ..) _
  | .act _ (.read _) _ | .act _ (.write _ _) _ | .spawn _ | .send _ _ | .receive _ _ _
  | .finish _ | .environment _ => .isTrue trivial

/-! ## A scripted world -/

/-- A ServiceNow that always gives the same answers. -/
structure ScriptedServiceNow where
  read : (r : SnowRead) → r.Ans
  write : (w : SnowWrite) → w.Ans

/-- A daemon whose clock stands still, whose stores do not fail and whose ServiceNow is
scripted. -/
def scripted {Call : Type} (lib : Crates) (handle : Call → Handler JsonRpcResponse)
    (snow : ScriptedServiceNow) : Player (daemon lib handle) where
  answer w e :=
    match e with
    | .now => some (w.clock, w)
    | .uuid =>
      let id := "id-" ++ toString w.uuids.length
      if id ∈ w.uuids then none else some (id, { w with uuids := id :: w.uuids })
    | .envVar _ => some (none, w)
    | .openStores => some (.ok (), w)
    | .rateLimit bucket now limitPerMinute recordEvent =>
      let (rateLimits, wait) := w.rateLimits.take bucket now limitPerMinute recordEvent
      some (wait, { w with rateLimits := rateLimits })
    | .store call =>
      some ((call.run lib w.stores).2, { w with stores := (call.run lib w.stores).1 })
    | .read r => some (snow.read r, w)
    | .write _ x => some (snow.write x, w)
  sound := by
    intro w e r w' h
    cases e with
    | uuid =>
      simp only at h
      split_ifs at h with hid
      cases h
      exact ⟨hid, rfl⟩
    | store call =>
      cases h
      exact .inl ⟨rfl, rfl⟩
    | _ =>
      cases h
      rfl

/-- The same daemon, some of whose store calls fail. -/
def faulty {Call : Type} (lib : Crates) (handle : Call → Handler JsonRpcResponse)
    (snow : ScriptedServiceNow) (fails : StoreCall → Bool) : Player (daemon lib handle) where
  answer w e :=
    match e with
    | .store call =>
      if fails call then some (call.failed "database is locked", w)
      else (scripted lib handle snow).answer w (.store call)
    | e => (scripted lib handle snow).answer w e
  sound := by
    intro w e r w' h
    cases e with
    | store call =>
      simp only at h
      split_ifs at h with hfails
      · cases h
        exact .inr ⟨rfl, _, rfl⟩
      · exact (scripted lib handle snow).sound h
    | _ => exact (scripted lib handle snow).sound h

/-! ## A sample configuration -/

/-- A board without allowed sprints. -/
def sampleBoard : BoardBinding where
  instanceHost := "dev.example.com"
  boardSysId := "board"
  storyTable := "rm_story"
  taskTable := "rm_scrum_task"
  assignmentGroup := "group"
  allowedTaskAssignmentGroups := []
  allowedSprints := []
  allowProduction := false
  allowedStoryStates := []
  allowedTaskStates := []
  allowedPriorities := []

/-- A tool that is enabled on that board, with its default fields. -/
def sampleTool (tool : String) : String × ToolPolicy :=
  (tool,
    { enabled := true
      fieldAllowlist := defaultFieldAllowlist tool
      environments := ["test"]
      maxTargets := none
      skipTerminalRecords := false
      storyBoardId := some "board" })

/-- A digest of 32 bytes. -/
def shortCrates : Crates := { plainCrates with sha256 := fun bytes => (plainDigest bytes).take 32 }

/-- A daemon that may create Stories. -/
def sampleState : DaemonState where
  crates := shortCrates
  formatTime := plainTime
  environment := ⟨"test", .explicitConfig⟩
  policy :=
    { idempotencyWindowSeconds := 86400
      productionHosts := []
      boards := [("board", sampleBoard)]
      tools := ["story_plan_create", "story_apply_create"].map sampleTool }
  rateLimit := ⟨60, 60, 60⟩
  instanceUrl := "https://dev.example.com"
  instanceUser := "snow"
  storePath := "mcp_story_write.sqlite3"
  auditPath := none
  auditRetentionDays := 365

/-- A Story as ServiceNow returns it. -/
def sampleStory : SnowRecord where
  sysId := "story-1"
  number := "STRY0000001"
  table := "rm_story"
  state := "Draft"
  fields := []
  references := []
  json := .null

/-- A ServiceNow that finds nothing and carries out every write. -/
def sampleServiceNow : ScriptedServiceNow where
  read
    | .recordFresh _ | .recordLive _ => .ok none
    | .fieldChoices _ _ => .ok []
    | .query _ => .ok []
    | .incidentGet _ _ => .error .notFound
    | .recordCached _ | .recordByTable _ _ => .ok none
    | .fieldSupport _ _ => .ok (.available true)
    | .timecardFresh _ => .ok none
    | .allocationEvidence _ => .ok (0, [])
  write
    | .create _ _ | .update _ _ _ | .updateIncident _ _ | .createResourcePlan _
    | .updateResourcePlan _ _ => .ok ⟨sampleStory, ⟨"2026-01-01 00:00:00", none⟩⟩
    | .patchIncident _ _ => .ok none
    | .refreshProjection _ => .ok ()
    | .setTimecardHours sysId _ _ _ =>
      .ok ⟨sysId, "", "", none, "", none, "Pending", "2026-01-01 00:00:00", none, .null⟩
    | .addWorkNote _ _ => ⟨some ("rm_story", "story-1"), .ok (some sampleStory)⟩
    | .createKnowledgeDraft _ _ base category => .ok ⟨sampleStory, "draft", base, category⟩
    | .submitCatalogRequest itemSysId _ =>
      .ok ⟨itemSysId, none, none, none, none, none, none, .null, .null⟩

/-- The world before any call. -/
def emptyWorld : World := ⟨Stores.empty, Table.empty, newYear, [], []⟩

/-- A world in which a plan has been made, and confirmed for a tool. -/
def confirmedWorld (plan : OperationPlan) (tool : String)
    (concurrencyToken : Option ConcurrencyToken) : World :=
  { emptyWorld with
    stores :=
      { Stores.empty with
        plans := Table.empty.put plan.planId
          { planId := plan.planId
            tool := plan.tool
            actor := "snow"
            opHash := plan.opHash
            planJson := ⟨plan, tool, [], []⟩
            concurrencyToken := concurrencyToken
            createdAt := newYear
            expiresAt := newYear + durationSeconds 600
            state := .pending }
        confirmations := Table.empty.put "token-1"
          (SqliteConfirmationStore.issuedRecord newYear "token-1" plan.planId
            ⟨"snow", "snow", tool, plan.opHash, "test"⟩ 600) } }

end SnowAgent
