import SnowAgent.Interleaving
import SnowAgent.RecordCache

/-! # The knowledge sync

`sync_knowledge` brings the cached articles up to date with the knowledge table of
ServiceNow.  Any process may call it, so a call first takes a lock, which is a column of
the row that also keeps how far the last sync has come: the **watermark**, the pair of
the last update it has seen and the article that bears it.

A call is a program over the store, the clock and the table.  What the middle of its
work does inside (tags, indexes, the semantic index) is one action each.
-/
namespace SnowAgent.Knowledge

open Core Program

/-! ## What a sync keeps -/

/-- `KnowledgeSyncMode`. -/
inductive KnowledgeSyncMode where
  | full
  | incremental
deriving DecidableEq

/-- `KbSyncStateRow`. -/
structure KbSyncStateRow where
  lastFullAt : Option DateTime
  lastIncrAt : Option DateTime
  watermarkUpdatedAt : Option String
  watermarkSysId : Option String
  kbSyncLock : Option Int
deriving DecidableEq

/-- The row of a new store. -/
def KbSyncStateRow.empty : KbSyncStateRow := ⟨none, none, none, none, none⟩

/-- `KB_LOCK_STALE_MS`. -/
def kbLockStaleMs : Int := 30 * 60 * 1000

/-- `DateTime::timestamp_millis`. -/
def timestampMillis (t : DateTime) : Int := t / 1000000

/-- `HashSet::insert`. -/
def insertId (id : String) (ids : List String) : List String :=
  if id ∈ ids then ids else ids ++ [id]

/-- `LocalKnowledgeIngest`. -/
structure LocalKnowledgeIngest where
  changedRecordSysIds : List String
  changedBaseSysIds : List String
deriving DecidableEq

/-- `WatermarkProgress`. -/
structure WatermarkProgress where
  processed : Nat
  tombstoned : Nat
  pruned : Nat
  watermarkUpdatedAt : Option String
  watermarkSysId : Option String
  seenSysIds : List String
  changedRecordSysIds : List String
  removedRecordSysIds : List String
  changedBaseSysIds : List String
deriving DecidableEq

/-- `WatermarkProgress::default`. -/
def WatermarkProgress.default : WatermarkProgress := ⟨0, 0, 0, none, none, [], [], [], []⟩

/-- `KnowledgeSyncOutcome`. -/
structure KnowledgeSyncOutcome where
  accepted : Bool
  mode : KnowledgeSyncMode
  withBodies : Bool
  status : String
  details : Option String
deriving DecidableEq

/-- What a sync takes from the client and the configuration. -/
structure SyncLib where
  /-- `get_str`, of the field. -/
  getStr : LiveField → Option String
  /-- The `sys_id` that `knowledge_base_reference` finds in a row. -/
  knowledgeBase : Record → Option String
  /-- The configured `full_sync_interval`, parsed. -/
  fullSyncInterval : Option Int

variable (lib : SyncLib)

/-- What a row says of its last update, trimmed. -/
def updatedAt (record : Record) : String :=
  Text.trim (((record.getRaw "sys_updated_on").orElse
    fun _ => (record.fields.get "sys_updated_on").bind lib.getStr).getD "")

/-- Whether a row is to replace the watermark. -/
def shouldReplace (progress : WatermarkProgress) (updatedAt sysId : String) : Bool :=
  match progress.watermarkUpdatedAt, progress.watermarkSysId with
  | none, _ => true
  | some existing, some existingSysId =>
    decide (existing < updatedAt) || (updatedAt == existing && decide (existingSysId < sysId))
  | some existing, none => decide (existing ≤ updatedAt)

/-- What `observe` keeps of a row, its watermark apart. -/
def WatermarkProgress.noteSeen (progress : WatermarkProgress) (record : Record) :
    WatermarkProgress :=
  { progress with
    processed := progress.processed + 1
    seenSysIds := insertId record.sysId progress.seenSysIds
    changedRecordSysIds := insertId record.sysId progress.changedRecordSysIds
    changedBaseSysIds :=
      match (lib.knowledgeBase record).filter (· ≠ "") with
      | some base => insertId base progress.changedBaseSysIds
      | none => progress.changedBaseSysIds }

/-- `WatermarkProgress::observe`. -/
def WatermarkProgress.observe (progress : WatermarkProgress) (record : Record) :
    WatermarkProgress :=
  let noted := progress.noteSeen lib record
  if updatedAt lib record = "" ∨ record.sysId = "" then noted
  else if shouldReplace noted (updatedAt lib record) record.sysId then
    { noted with
      watermarkUpdatedAt := some (updatedAt lib record)
      watermarkSysId := some record.sysId }
  else noted

/-! ## What a sync asks for -/

/-- The rows that a query of the knowledge table is after. -/
inductive KnowledgeWindow where
  /-- `base_knowledge_query` as it is. -/
  | all
  /-- `incremental_same_timestamp_query`. -/
  | sameTimestamp (updatedAt sysId : String)
  /-- `incremental_newer_timestamp_query`. -/
  | newerTimestamp (updatedAt : String)
deriving DecidableEq

/-- A query of the knowledge table. -/
structure KnowledgeQuery where
  window : KnowledgeWindow
  withBodies : Bool
deriving DecidableEq

/-- `RecordLifecycle`. -/
inductive RecordLifecycle where
  | active
  | tombstoned
  | pruned
deriving DecidableEq

/-- The actions of a sync. -/
inductive SyncAct where
  | ingestLocalKnowledgeState
  | now
  | acquireKbSyncLock (nowMs staleAfterMs : Int)
  | getKbSyncState
  | query (query : KnowledgeQuery)
  /-- The `knowledge_base_sys_id` of the stored article, by `get_knowledge_article`. -/
  | articleBase (sysId : String)
  | persistRecord (record : Record)
  /-- `list_records_by_resource_type`, of knowledge. -/
  | listKnowledgeRecords
  | tombstoneRecord (sysId : String)
  | pruneRecord (sysId : String)
  | refreshKnowledgeAutoTags (mode : KnowledgeSyncMode) (ingest : LocalKnowledgeIngest)
      (progress : WatermarkProgress)
  | rebuildKnowledgeIndexes (mode : KnowledgeSyncMode) (changedBaseSysIds : List String)
  | setKbSyncState (row : KbSyncStateRow)
  | maybeRunInlineSemanticRebuild
  | releaseKbSyncLock

/-- What each action is answered with. -/
def SyncAct.Ans : SyncAct → Type
  | ingestLocalKnowledgeState => Except String LocalKnowledgeIngest
  | now => DateTime
  | acquireKbSyncLock _ _ => Except String Bool
  | getKbSyncState => Except String KbSyncStateRow
  -- The rows of the pages that are read, and what the reading ends with.
  | query _ => List Record × Except String Unit
  | articleBase _ => Except String (Option String)
  | listKnowledgeRecords => Except String (List (String × RecordLifecycle))
  | refreshKnowledgeAutoTags _ _ _ => Except String Nat
  | persistRecord _ | tombstoneRecord _ | pruneRecord _ | rebuildKnowledgeIndexes _ _
  | setKbSyncState _ | releaseKbSyncLock => Except String Unit
  | maybeRunInlineSemanticRebuild => Unit

/-- The interface of a sync. -/
abbrev SyncIO : Interface := ⟨SyncAct, SyncAct.Ans⟩

/-- A part of a sync, which may fail. -/
abbrev SyncM := ExceptT String (Program SyncIO)

/-- An action that may fail. -/
def attempt {A : Type} (p : Program SyncIO (Except String A)) : SyncM A := ExceptT.mk p

/-- An action that cannot fail. -/
def always {A : Type} (p : Program SyncIO A) : SyncM A := ExceptT.mk do return .ok (← p)

/-- The outcome of a part that is over. -/
def settled {A : Type} (result : Except String A) : SyncM A := ExceptT.mk (Pure.pure result)

/-- `Utc::now`. -/
def utcNow : SyncM DateTime := always (perform (S := SyncIO) .now)

/-! ## The sync -/

/-- `determine_sync_mode`. -/
def determineSyncMode (requestedFull : Bool) (previous : KbSyncStateRow) (now : DateTime) :
    KnowledgeSyncMode :=
  if requestedFull || previous.watermarkUpdatedAt.isNone || previous.watermarkSysId.isNone then
    .full
  else
    match lib.fullSyncInterval with
    | none => .incremental
    | some interval =>
      match previous.lastFullAt with
      | none => .full
      | some lastFullAt =>
        if now - lastFullAt < 0 ∨ interval ≤ now - lastFullAt then .full else .incremental

/-- `observe_existing_base_for_record`. -/
def observeExistingBaseForRecord (progress : WatermarkProgress) (record : Record) :
    SyncM WatermarkProgress := do
  let existing ← attempt (perform (S := SyncIO) (.articleBase record.sysId))
  match existing with
  | some base =>
    if base ≠ "" ∧ base ≠ (lib.knowledgeBase record).getD "" then
      return { progress with changedBaseSysIds := insertId base progress.changedBaseSysIds }
    else return progress
  | none => return progress

/-- Persists a row and takes note of it. -/
def syncRecord (progress : WatermarkProgress) (record : Record) : SyncM WatermarkProgress := do
  let progress ← observeExistingBaseForRecord lib progress record
  attempt (perform (S := SyncIO) (.persistRecord record))
  return progress.observe lib record

/-- Reads a query to its end and persists its rows. -/
def syncQuery (progress : WatermarkProgress) (query : KnowledgeQuery) :
    SyncM WatermarkProgress := do
  let pages ← always (perform (S := SyncIO) (.query query))
  let progress ← pages.1.foldlM (syncRecord lib) progress
  settled pages.2
  return progress

/-- One step of `reconcile_full_knowledge_sync`. -/
def reconcileRow (progress : WatermarkProgress) (row : String × RecordLifecycle) :
    SyncM WatermarkProgress := do
  if row.1 ∈ progress.seenSysIds then
    return progress
  else do
    let existing ← attempt (perform (S := SyncIO) (.articleBase row.1))
    let progress :=
      match existing.filter (· ≠ "") with
      | some base =>
        { progress with changedBaseSysIds := insertId base progress.changedBaseSysIds }
      | none => progress
    match row.2 with
    | .active => do
      attempt (perform (S := SyncIO) (.tombstoneRecord row.1))
      return { progress with
        tombstoned := progress.tombstoned + 1
        removedRecordSysIds := insertId row.1 progress.removedRecordSysIds }
    | .tombstoned => do
      attempt (perform (S := SyncIO) (.pruneRecord row.1))
      return { progress with
        pruned := progress.pruned + 1
        removedRecordSysIds := insertId row.1 progress.removedRecordSysIds }
    | .pruned => return progress

/-- `run_full_knowledge_sync`. -/
def runFullKnowledgeSync (withBodies : Bool) : SyncM WatermarkProgress := do
  let progress ← syncQuery lib .default ⟨.all, withBodies⟩
  let rows ← attempt (perform (S := SyncIO) .listKnowledgeRecords)
  rows.foldlM reconcileRow progress

/-- `run_incremental_knowledge_sync`. -/
def runIncrementalKnowledgeSync (previous : KbSyncStateRow) : SyncM WatermarkProgress :=
  match previous.watermarkUpdatedAt, previous.watermarkSysId with
  | some updatedAt, some sysId => do
    let progress ← syncQuery lib .default ⟨.sameTimestamp updatedAt sysId, true⟩
    syncQuery lib progress ⟨.newerTimestamp updatedAt, true⟩
  | _, _ => runFullKnowledgeSync lib true

/-- Brings the articles up to date, by the mode. -/
def runKnowledgeSync (mode : KnowledgeSyncMode) (withBodies : Bool) (previous : KbSyncStateRow) :
    SyncM WatermarkProgress :=
  match mode with
  | .full => runFullKnowledgeSync lib withBodies
  | .incremental => runIncrementalKnowledgeSync lib previous

/-- The row that a completed sync saves. -/
def savedState (mode : KnowledgeSyncMode) (previous : KbSyncStateRow) (now : DateTime)
    (progress : WatermarkProgress) : KbSyncStateRow where
  lastFullAt := if mode = .full then some now else previous.lastFullAt
  lastIncrAt := if mode = .incremental then some now else previous.lastIncrAt
  watermarkUpdatedAt := progress.watermarkUpdatedAt.orElse fun _ => previous.watermarkUpdatedAt
  watermarkSysId := progress.watermarkSysId.orElse fun _ => previous.watermarkSysId
  kbSyncLock := none

/-- `sync_knowledge_locked`. -/
def syncKnowledgeLocked (requestedFull requestedWithBodies : Bool)
    (localIngest : LocalKnowledgeIngest) : SyncM KnowledgeSyncOutcome := do
  let now ← utcNow
  let previous ← attempt (perform (S := SyncIO) .getKbSyncState)
  let mode := determineSyncMode lib requestedFull previous now
  let actualWithBodies := requestedWithBodies || mode == .incremental
  let progress ← runKnowledgeSync lib mode actualWithBodies previous
  let autoTagDrift ←
    attempt (perform (S := SyncIO) (.refreshKnowledgeAutoTags mode localIngest progress))
  let changedBaseSysIds :=
    localIngest.changedBaseSysIds.foldl (fun ids id => insertId id ids) progress.changedBaseSysIds
  attempt (perform (S := SyncIO) (.rebuildKnowledgeIndexes mode changedBaseSysIds))
  attempt (perform (S := SyncIO) (.setKbSyncState (savedState mode previous now progress)))
  -- The lock is gone from the row, and the call goes on.
  always (perform (S := SyncIO) .maybeRunInlineSemanticRebuild)
  return {
    accepted := true
    mode := mode
    withBodies := actualWithBodies
    status := "completed"
    details := some ("processed " ++ toString progress.processed ++ " articles, auto-tag drift " ++
      toString autoTagDrift ++ ", tombstoned " ++ toString progress.tombstoned ++ ", pruned " ++
      toString progress.pruned) }

/-- What a call answers with that finds the lock taken. -/
def lockedOutcome (full withBodies : Bool) : KnowledgeSyncOutcome where
  accepted := false
  mode := if full then .full else .incremental
  withBodies := withBodies
  status := "locked"
  details := some "another KB sync is already in progress"

/-- What a call answers with, from what its work and the release of its lock came to. -/
def syncAnswer : Except String KnowledgeSyncOutcome → Except String Unit →
    Except String KnowledgeSyncOutcome
  | .ok outcome, .ok () => .ok outcome
  | .error err, .ok () => .error err
  | .ok _, .error err => .error err
  | .error primary, .error releaseErr =>
    .error (primary ++ "; failed to release KB sync lock: " ++ releaseErr)

/-- `sync_knowledge`. -/
def syncKnowledge (full withBodies : Bool) : SyncM KnowledgeSyncOutcome := do
  let localIngest ← attempt (perform (S := SyncIO) .ingestLocalKnowledgeState)
  let now ← utcNow
  let lockAcquired ←
    attempt (perform (S := SyncIO) (.acquireKbSyncLock (timestampMillis now) kbLockStaleMs))
  if lockAcquired = false then
    return lockedOutcome full withBodies
  else do
    let result ← always (syncKnowledgeLocked lib full withBodies localIngest).run
    let released ← always (perform (S := SyncIO) .releaseKbSyncLock)
    settled (syncAnswer result released)

end SnowAgent.Knowledge
