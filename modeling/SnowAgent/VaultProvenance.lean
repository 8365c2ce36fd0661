import Mathlib.Data.List.TakeWhile
import SnowAgent.FullTextIndex

/-! # The provenance of records

A record that is persisted has its Markdown file written before its row is; a record that is
projected has a row without a file.  The provenance of a row says whether it was backed by a file: it
outlives the path of the file, so that the record can be recovered.
-/
namespace SnowAgent.Core

open Savepoints Runs

/-! ## Calls of the store -/

/-- What the statements of `mark_records_cache_only` are answered with. -/
structure MarkIO where
  transaction : TransactionIO
  prepare : Outcome String
  update : String → Outcome String

/-- The update of one record, which has no file. -/
def RecordTables.markCacheOnly (tables : RecordTables) (sysId : String) : RecordTables :=
  { tables with
    records := tables.records.update
      (fun row => row.sysId = sysId ∧ row.columns.filePath = none)
      fun row => (row.columns, .cacheOnly) }

/-- `mark_records_cache_only`.  A transaction that is not committed is rolled back. -/
def markRecordsCacheOnly (s : Session RecordTables) (io : MarkIO) (sysIds : List String) :
    Except String Unit × Session RecordTables :=
  if sysIds = [] then (.ok (), s)
  else
    Session.andThen (s.begin io.transaction.opening
      "cannot start a transaction within a transaction") fun _ s =>
      match Session.statements ((io.prepare, fun tables => .ok tables) ::
          sysIds.map fun sysId => (io.update sysId, fun tables => .ok (tables.markCacheOnly sysId)))
          s with
      | (.error err, s) => (.error err, s.rollback io.transaction.rollback)
      | (.ok (), s) =>
        match s.commit io.transaction.closing with
        | (.ok (), s) => (.ok (), s)
        | (.error err, s) => (.error err, s.rollback io.transaction.rollback)

/-- `adopt_legacy_cache_only_records`. -/
def adoptLegacyCacheOnlyRecords (s : Session RecordTables) (outcome : Outcome String) :
    Except String Unit × Session RecordTables :=
  s.statement outcome fun tables => .ok { tables with
    records := tables.records.update
      (fun row => row.columns.filePath = none ∧ row.vaultProvenance = .legacyUnknown ∧
        row.columns.inScope = true ∧ row.columns.prunedAt = none)
      fun row => (row.columns, .cacheOnly) }

/-! ## Calls of the context -/

/-- A record that is to be persisted or projected, and what that is answered with. -/
structure LiveEntry where
  /-- `persist_document`, or `runtime_document_from_servicenow`. -/
  document : Except String Unit
  /-- The path of its Markdown file in the vault. -/
  path : String
  version : RecordVersion
  io : UpsertAnswers

/-- The row of a record that has a file. -/
def LiveEntry.filed (entry : LiveEntry) : RecordVersion :=
  { entry.version with columns := { entry.version.columns with filePath := some entry.path } }

/-- The row of a record that has none. -/
def LiveEntry.projected (entry : LiveEntry) : RecordVersion :=
  { entry.version with columns := { entry.version.columns with filePath := none } }

/-- A cache: the connection, and whose document is at each path of the vault. -/
structure VaultCache where
  session : Session RecordTables
  vault : Table String String

/-- `persist_document` of one record after the other, up to one that fails. -/
def persistDocuments : List LiveEntry → Table String String → Except String Unit × Table String String
  | [], vault => (.ok (), vault)
  | entry :: entries, vault =>
    match entry.document with
    | .error err => (.error err, vault)
    | .ok () => persistDocuments entries (vault.put entry.path entry.version.sysId)

/-- `runtime_document_from_servicenow` of one record after the other. -/
def runtimeDocuments : List LiveEntry → Except String Unit
  | [] => .ok ()
  | entry :: entries =>
    match entry.document with
    | .error err => .error err
    | .ok () => runtimeDocuments entries

namespace VaultCache

variable (cache : VaultCache)

/-- `persist_record`.  What fails after the row is written is reported aside. -/
def persistRecord (entry : LiveEntry) : Except String Unit × VaultCache :=
  match persistDocuments [entry] cache.vault with
  | (.error err, vault) => (.error err, { cache with vault := vault })
  | (.ok (), vault) =>
    let stored := upsertRecordWithTags cache.session entry.io entry.filed
    (stored.1, ⟨stored.2, vault⟩)

/-- `persist_records`. -/
def persistRecords (io : TransactionIO) (entries : List LiveEntry) :
    Except String Unit × VaultCache :=
  if entries = [] then (.ok (), cache)
  else
    match persistDocuments entries cache.vault with
    | (.error err, vault) => (.error err, { cache with vault := vault })
    | (.ok (), vault) =>
      let stored := upsertRecords cache.session io
        (entries.map fun entry => (entry.io, entry.filed))
      (stored.1, ⟨stored.2, vault⟩)

/-- `project_live_records_without_vault`; `rest` is what comes of the other tables. -/
def projectLiveRecordsWithoutVault (io : TransactionIO) (mark : MarkIO) (rest : Except String Unit)
    (entries : List LiveEntry) : Except String Unit × VaultCache :=
  if entries = [] then (.ok (), cache)
  else
    match runtimeDocuments entries with
    | .error err => (.error err, cache)
    | .ok () =>
      let stored := Session.andThen (upsertRecords cache.session io
        (entries.map fun entry => (entry.io, entry.projected))) fun _ s =>
        Session.andThen (markRecordsCacheOnly s mark
          (entries.map fun entry => entry.version.sysId)) fun _ s => (rest, s)
      (stored.1, { cache with session := stored.2 })

end VaultCache

/-! ## Runs -/

/-- A call on the cache. -/
inductive VaultCall where
  | persistRecord (entry : LiveEntry)
  | persistRecords (io : TransactionIO) (entries : List LiveEntry)
  | projectLiveRecordsWithoutVault (io : TransactionIO) (mark : MarkIO) (rest : Except String Unit)
      (entries : List LiveEntry)
  | adoptLegacyCacheOnlyRecords (outcome : Outcome String)
  | tombstoneRecord (outcome : Outcome String) (sysId : String) (stamp : DateTime)

namespace VaultCall

/-- Runs a call. -/
def run (cache : VaultCache) : VaultCall → Except String Unit × VaultCache
  | persistRecord entry => cache.persistRecord entry
  | persistRecords io entries => cache.persistRecords io entries
  | projectLiveRecordsWithoutVault io mark rest entries =>
    cache.projectLiveRecordsWithoutVault io mark rest entries
  | adoptLegacyCacheOnlyRecords outcome =>
    let stored := Core.adoptLegacyCacheOnlyRecords cache.session outcome
    (stored.1, { cache with session := stored.2 })
  | tombstoneRecord outcome sysId stamp =>
    let stored := Core.tombstoneRecord cache.session outcome sysId stamp
    (stored.1, { cache with session := stored.2 })

/-- The records that a call persists. -/
def persisted : VaultCall → List LiveEntry
  | persistRecord entry => [entry]
  | persistRecords _ entries => entries
  | _ => []

/-- The records that a call persists or projects. -/
def entries : VaultCall → List LiveEntry
  | persistRecord entry => [entry]
  | persistRecords _ entries | projectLiveRecordsWithoutVault _ _ _ entries => entries
  | _ => []

end VaultCall

/-- A cache with its history: which files were written for which records, and the file of each record
whose last call has persisted it and succeeded. -/
structure Filed where
  cache : VaultCache
  written : List (String × String)
  kept : Table String String

namespace Filed

/-- The files that are written, up to a failure. -/
def filesOf (entries : List LiveEntry) : List (String × String) :=
  (entries.takeWhile fun entry => entry.document.isOk).map fun entry =>
    (entry.version.sysId, entry.path)

/-- The records of a call are not kept any more. -/
def released (kept : Table String String) (entries : List LiveEntry) : Table String String :=
  entries.foldl (fun kept entry => kept.delete entry.version.sysId) kept

/-- The records of a call that has persisted them are kept from now on. -/
def keptNow (kept : Table String String) (entries : List LiveEntry) : Table String String :=
  entries.foldl (fun kept entry => kept.put entry.version.sysId entry.path) kept

/-- One call.  A record is kept if the call succeeds and leaves no transaction open. -/
def step (call : VaultCall) (s : Filed) : Filed where
  cache := (call.run s.cache).2
  written := s.written ++ filesOf call.persisted
  kept :=
    if (call.run s.cache).1.isOk ∧ (call.run s.cache).2.session.saved = [] then
      keptNow (released s.kept call.entries) call.persisted
    else released s.kept call.entries

/-- A cache without records. -/
def empty : Filed := ⟨⟨Indexed.empty.session, Table.empty⟩, [], Table.empty⟩

end Filed

/-! ## What every statement keeps -/

/-- An update that keeps the paths, and sets no provenance but that of rows without one. -/
def Harmless (p : StoredRecord → Bool)
    (f : StoredRecord → RecordColumns × VaultProjectionProvenance) : Prop :=
  ∀ row, p row = true → (f row).1.filePath = row.columns.filePath ∧
    ((f row).2 = row.vaultProvenance ∨ row.columns.filePath = none ∧ (f row).2 = .cacheOnly)

/-- What depends on the records alone, and is kept by updates of that kind. -/
structure Stable (P : RecordTables → Prop) : Prop where
  fts : ∀ t t', t'.records = t.records → P t → P t'
  update : ∀ t p f, Harmless p f → P t → P { t with records := t.records.update p f }

namespace Stable

variable {P : RecordTables → Prop} {s : Session RecordTables}

theorem upsert (hP : Stable P) {io : UpsertAnswers} {version : RecordVersion}
    (hwrite : ∀ t, P t → P (t.write io.choice version)) (h : s.Everywhere P) :
    (upsertRecordWithTags s io version).2.Everywhere P := by
  refine (h.statement _ ?_).andThen fun _ s h => ((h.query _ _).andThen fun rowid s h =>
    ((h.statement _ ?_).andThen fun _ s h => h.statement _ ?_))
  · intro t t' ht heq
    obtain rfl := Except.ok.inj heq
    exact hwrite t ht
  · intro t t' ht heq
    obtain rfl := Except.ok.inj heq
    exact hP.fts t _ rfl ht
  · intro t t' ht heq
    refine hP.fts t t' ?_ ht
    unfold RecordTables.addTexts at heq
    split at heq
    · cases heq
    · obtain rfl := Except.ok.inj heq
      rfl

theorem upsertEach (hP : Stable P) (entries : List (UpsertAnswers × RecordVersion))
    (hwrite : ∀ entry ∈ entries, ∀ t, P t → P (t.write entry.1.choice entry.2))
    {s : Session RecordTables} (h : s.Everywhere P) : (upsertEach entries s).2.Everywhere P := by
  induction entries generalizing s with
  | nil => exact h
  | cons entry entries ih =>
    exact (hP.upsert (hwrite entry (.head entries)) h).andThen fun _ s h =>
      ih (fun other hother => hwrite other (.tail entry hother)) h

theorem upsertRecords (hP : Stable P) (io : TransactionIO)
    {entries : List (UpsertAnswers × RecordVersion)}
    (hwrite : ∀ entry ∈ entries, ∀ t, P t → P (t.write entry.1.choice entry.2))
    (h : s.Everywhere P) : (Core.upsertRecords s io entries).2.Everywhere P := by
  unfold Core.upsertRecords
  by_cases hempty : entries = []
  · rw [if_pos hempty]
    exact h
  · rw [if_neg hempty]
    refine (h.begin _ _).andThen fun _ s h => ?_
    have heach := hP.upsertEach entries hwrite h
    cases hrun : Core.upsertEach entries s with
    | mk result s' =>
      rw [hrun] at heach
      cases result with
      | ok _ => exact heach.commit _
      | error err => exact heach.rollback _

theorem mark (hP : Stable P) (io : MarkIO) (sysIds : List String) (h : s.Everywhere P) :
    (markRecordsCacheOnly s io sysIds).2.Everywhere P := by
  unfold markRecordsCacheOnly
  by_cases hempty : sysIds = []
  · rw [if_pos hempty]
    exact h
  · rw [if_neg hempty]
    refine (h.begin _ _).andThen fun _ s h => ?_
    have hbody := h.statements ((io.prepare, fun tables => .ok tables) ::
      sysIds.map fun sysId => (io.update sysId, fun tables => .ok (tables.markCacheOnly sysId))) (by
        intro entry hentry t t' ht heq
        rcases List.mem_cons.mp hentry with rfl | hentry
        · obtain rfl := Except.ok.inj heq
          exact ht
        · obtain ⟨sysId, -, rfl⟩ := List.mem_map.mp hentry
          obtain rfl := Except.ok.inj heq
          refine hP.update t _ _ (fun row hrow => ⟨rfl, .inr ⟨?_, rfl⟩⟩) ht
          exact (of_decide_eq_true hrow).2)
    cases hrun : Session.statements ((io.prepare, fun tables => .ok tables) ::
      sysIds.map fun sysId => (io.update sysId, fun tables => .ok (tables.markCacheOnly sysId)))
      s with
    | mk result s' =>
      rw [hrun] at hbody
      cases result with
      | error err => exact hbody.rollback _
      | ok _ =>
        have hcommit := hbody.commit io.transaction.closing
        dsimp only at hcommit ⊢
        cases hclose : s'.commit io.transaction.closing with
        | mk result s'' =>
          rw [hclose] at hcommit
          cases result with
          | ok _ => exact hcommit
          | error err => exact hcommit.rollback _

theorem adopt (hP : Stable P) (outcome : Outcome String) (h : s.Everywhere P) :
    (adoptLegacyCacheOnlyRecords s outcome).2.Everywhere P := by
  refine h.statement _ fun t t' ht heq => ?_
  obtain rfl := Except.ok.inj heq
  refine hP.update t _ _ (fun row hrow => ⟨rfl, .inr ⟨?_, rfl⟩⟩) ht
  exact (of_decide_eq_true hrow).1

theorem tombstone (hP : Stable P) (outcome : Outcome String) (sysId : String) (stamp : DateTime)
    (h : s.Everywhere P) : (tombstoneRecord s outcome sysId stamp).2.Everywhere P := by
  refine h.statement _ fun t t' ht heq => ?_
  obtain rfl := Except.ok.inj heq
  exact hP.update t _ _ (fun _ _ => ⟨rfl, .inl rfl⟩) ht

end Stable

/-! ## Calls -/

section

variable {P : RecordTables → Prop} {cache : VaultCache}

theorem documents_of_persisted {entries : List LiveEntry} {vault vault' : Table String String}
    (h : persistDocuments entries vault = (.ok (), vault')) :
    ∀ entry ∈ entries, entry.document = .ok () := by
  induction entries generalizing vault with
  | nil => exact fun entry hentry => (List.not_mem_nil hentry).elim
  | cons entry entries ih =>
    rw [persistDocuments] at h
    cases hdocument : entry.document with
    | error err =>
      rw [hdocument] at h
      cases h
    | ok _ =>
      rw [hdocument] at h
      intro other hother
      rcases List.mem_cons.mp hother with rfl | hother
      · exact hdocument
      · exact ih h other hother

/-- **What every call keeps**, if the upserts of the records that it persists or projects do. -/
theorem VaultCall.run_keeps (hP : Stable P) (call : VaultCall)
    (hpersist : (∀ entry ∈ call.persisted, entry.document = .ok ()) →
      ∀ entry ∈ call.persisted, ∀ t, P t → P (t.write entry.io.choice entry.filed))
    (hproject : ∀ entry ∈ call.entries, ∀ t, P t → P (t.write entry.io.choice entry.projected))
    (h : cache.session.Everywhere P) : (call.run cache).2.session.Everywhere P := by
  cases call with
  | persistRecord entry =>
    show (cache.persistRecord entry).2.session.Everywhere P
    unfold VaultCache.persistRecord
    cases hdocuments : persistDocuments [entry] cache.vault with
    | mk result vault =>
      cases result with
      | error err => exact h
      | ok _ =>
        exact hP.upsert (hpersist (documents_of_persisted hdocuments) entry (.head _)) h
  | persistRecords io entries =>
    show (cache.persistRecords io entries).2.session.Everywhere P
    unfold VaultCache.persistRecords
    by_cases hempty : entries = []
    · rw [if_pos hempty]
      exact h
    rw [if_neg hempty]
    cases hdocuments : persistDocuments entries cache.vault with
    | mk result vault =>
      cases result with
      | error err => exact h
      | ok _ =>
        refine hP.upsertRecords io (fun other hother => ?_) h
        obtain ⟨entry, hentry, rfl⟩ := List.mem_map.mp hother
        exact hpersist (documents_of_persisted hdocuments) entry hentry
  | projectLiveRecordsWithoutVault io mark rest entries =>
    show (cache.projectLiveRecordsWithoutVault io mark rest entries).2.session.Everywhere P
    unfold VaultCache.projectLiveRecordsWithoutVault
    by_cases hempty : entries = []
    · rw [if_pos hempty]
      exact h
    rw [if_neg hempty]
    cases runtimeDocuments entries with
    | error err => exact h
    | ok _ =>
      refine (hP.upsertRecords io (fun other hother => ?_) h).andThen fun _ s h =>
        ((hP.mark mark _ h).andThen fun _ s h => h)
      obtain ⟨entry, hentry, rfl⟩ := List.mem_map.mp hother
      exact hproject entry hentry
  | adoptLegacyCacheOnlyRecords outcome => exact hP.adopt outcome h
  | tombstoneRecord outcome sysId stamp => exact hP.tombstone outcome sysId stamp h

end

/-! ## Paths tell of files -/

/-- **Paths and provenance tell of files that were written**: a path is that of a file written for the
record, and such a row is backed by the vault; a row that is backed had a file written for it. -/
def Truthful (written : List (String × String)) (tables : RecordTables) : Prop :=
  ∀ row ∈ tables.records.rows,
    (∀ path, row.columns.filePath = some path →
      row.vaultProvenance = .vaultBacked ∧ (row.sysId, path) ∈ written) ∧
    (row.vaultProvenance = .vaultBacked → ∃ path, (row.sysId, path) ∈ written)

/-- The row of a record has a path. -/
def HasPath (sysId path : String) (tables : RecordTables) : Prop :=
  ∃ row ∈ tables.records.rows, row.sysId = sysId ∧ row.columns.filePath = some path

section

variable {written : List (String × String)} {tables : RecordTables} {sysId path : String}
  {version : RecordVersion} {choice : RowidChoice}

theorem Truthful.mono {more : List (String × String)} (h : Truthful written tables) :
    Truthful (written ++ more) tables := by
  intro row hrow
  obtain ⟨hpath, hbacked⟩ := h row hrow
  refine ⟨fun path hfile => ?_, fun hprovenance => ?_⟩
  · obtain ⟨hprovenance, hmem⟩ := hpath path hfile
    exact ⟨hprovenance, List.mem_append_left more hmem⟩
  · obtain ⟨path, hmem⟩ := hbacked hprovenance
    exact ⟨path, List.mem_append_left more hmem⟩

theorem stable_truthful : Stable (Truthful written) where
  fts t t' hrecords ht := by
    unfold Truthful
    rw [hrecords]
    exact ht
  update t p f hharmless ht := by
    intro row hrow
    obtain ⟨old, hold, rfl⟩ := RecordsTable.mem_update.mp hrow
    obtain ⟨hpath, hbacked⟩ := ht old hold
    by_cases hp : p old = true
    · obtain ⟨hfile, hprovenance⟩ := hharmless old hp
      rw [StoredRecord.change, if_pos hp]
      refine ⟨fun path hset => ?_, fun hset => ?_⟩
      · rw [hfile] at hset
        obtain ⟨hold, hmem⟩ := hpath path hset
        rcases hprovenance with hsame | ⟨hnone, -⟩
        · exact ⟨hsame.trans hold, hmem⟩
        · rw [hnone] at hset
          cases hset
      · rcases hprovenance with hsame | ⟨-, hcache⟩
        · exact hbacked (hsame.symm.trans hset)
        · cases hcache.symm.trans hset
    · rw [StoredRecord.change, if_neg hp]
      exact ⟨hpath, hbacked⟩

theorem Truthful.write (h : Truthful written tables)
    (hfile : ∀ path, version.columns.filePath = some path → (version.sysId, path) ∈ written) :
    Truthful written (tables.write choice version) := by
  obtain ⟨new, hid, hcolumns, hrows, hold, hnew⟩ :=
    RecordsTable.upsert_spec tables.records choice version
  intro row hrow
  rcases (hrows row).mp hrow with rfl | ⟨hrow, -⟩
  · rw [hid, hcolumns]
    refine ⟨fun path hpath => ⟨?_, hfile path hpath⟩, fun hbacked => ?_⟩
    · have hset : version.columns.filePath.isSome = true := by rw [hpath]; rfl
      by_cases hpresent : ∃ old ∈ tables.records.rows, old.sysId = version.sysId
      · obtain ⟨old, hmem, hsame⟩ := hpresent
        rw [(hold old hmem hsame).2, RecordsTable.provenanceOf, if_pos hset]
      · rw [hnew fun old hmem hsame => hpresent ⟨old, hmem, hsame⟩, RecordsTable.provenanceOf,
          if_pos hset]
    · cases hpath : version.columns.filePath with
      | some path => exact ⟨path, hfile path hpath⟩
      | none =>
        -- Without a path the provenance is that of the row before, and so is what it tells.
        by_cases hpresent : ∃ old ∈ tables.records.rows, old.sysId = version.sysId
        · obtain ⟨old, hmem, hsame⟩ := hpresent
          rw [(hold old hmem hsame).2, RecordsTable.provenanceOf, hpath, if_neg (by simp)] at hbacked
          rw [← hsame]
          exact (h old hmem).2 hbacked
        · rw [hnew fun old hmem hsame => hpresent ⟨old, hmem, hsame⟩, RecordsTable.provenanceOf,
            hpath, if_neg (by simp)] at hbacked
          cases hbacked
  · exact h row hrow

theorem stable_hasPath : Stable (HasPath sysId path) where
  fts t t' hrecords ht := by
    unfold HasPath
    rw [hrecords]
    exact ht
  update t p f hharmless ht := by
    obtain ⟨row, hrow, hid, hpath⟩ := ht
    refine ⟨row.change p f, RecordsTable.mem_update.mpr ⟨row, hrow, rfl⟩,
      (row.change_sysId p f).trans hid, ?_⟩
    by_cases hp : p row = true
    · rw [StoredRecord.change, if_pos hp]
      exact (hharmless row hp).1.trans hpath
    · rw [StoredRecord.change, if_neg hp]
      exact hpath

theorem HasPath.write (h : HasPath sysId path tables) (hother : version.sysId ≠ sysId) :
    HasPath sysId path (tables.write choice version) := by
  obtain ⟨new, -, -, hrows, -, -⟩ := RecordsTable.upsert_spec tables.records choice version
  obtain ⟨row, hrow, hid, hpath⟩ := h
  refine ⟨row, (hrows row).mpr (.inr ⟨hrow, fun hsame => hother ?_⟩), hid, hpath⟩
  exact hsame.symm.trans hid

theorem upserted_records : (tables.upserted choice version).records =
    (tables.write choice version).records := by
  obtain ⟨written, -, -, -, hupserted⟩ := RecordTables.upserted_spec tables choice version
  rw [hupserted]

/-- After an upsert the row has the path that was given. -/
theorem hasPath_upserted (hpath : version.columns.filePath = some path) :
    HasPath version.sysId path (tables.upserted choice version) := by
  obtain ⟨new, hid, hcolumns, hrows, -, -⟩ := RecordsTable.upsert_spec tables.records choice version
  unfold HasPath
  rw [upserted_records]
  exact ⟨new, (hrows new).mpr (.inl rfl), hid, by rw [hcolumns]; exact hpath⟩

theorem HasPath.upserted (h : HasPath sysId path tables) (hother : version.sysId ≠ sysId) :
    HasPath sysId path (tables.upserted choice version) :=
  stable_hasPath.fts _ _ upserted_records (h.write hother)

end

namespace Filed

/-! ## Kept records -/

theorem released_eq_some {kept : Table String String} {entries : List LiveEntry}
    {sysId path : String} (h : (released kept entries).row sysId = some path) :
    kept.row sysId = some path ∧ ∀ entry ∈ entries, entry.version.sysId ≠ sysId := by
  induction entries generalizing kept with
  | nil => exact ⟨h, fun entry hentry => (List.not_mem_nil hentry).elim⟩
  | cons entry entries ih =>
    obtain ⟨hrow, hothers⟩ := ih h
    have hother : sysId ≠ entry.version.sysId := by
      rintro rfl
      rw [Table.row_delete_self] at hrow
      cases hrow
    rw [Table.row_delete_of_ne _ hother] at hrow
    refine ⟨hrow, fun other hmem => ?_⟩
    rcases List.mem_cons.mp hmem with rfl | hmem
    · exact hother.symm
    · exact hothers other hmem

/-- Upserts of rows with paths give the last path of each. -/
theorem keptNow_hasPath {kept : Table String String} (entries : List LiveEntry)
    {tables : RecordTables}
    (h : ∀ sysId path, kept.row sysId = some path → HasPath sysId path tables)
    {sysId path : String} (hkept : (keptNow kept entries).row sysId = some path) :
    HasPath sysId path (tables.upsertedAll (entries.map fun entry => (entry.io, entry.filed))) := by
  induction entries generalizing kept tables with
  | nil => exact h sysId path hkept
  | cons entry entries ih =>
    show HasPath sysId path ((tables.upserted entry.io.choice entry.filed).upsertedAll
      (entries.map fun entry => (entry.io, entry.filed)))
    refine ih (fun sysId path hrow => ?_) hkept
    by_cases hsame : sysId = entry.version.sysId
    · subst hsame
      rw [Table.row_put_self] at hrow
      obtain rfl := Option.some.inj hrow
      show HasPath entry.filed.sysId _ _
      exact hasPath_upserted rfl
    · rw [Table.row_put_of_ne _ _ hsame] at hrow
      have hother : entry.filed.sysId ≠ sysId := Ne.symm hsame
      exact (h sysId path hrow).upserted hother

/-- A call that has persisted records and leaves no transaction open has written their rows. -/
theorem persisted_ok {call : VaultCall} {cache : VaultCache} (hsome : call.persisted ≠ [])
    (hok : (call.run cache).1.isOk) (hclosed : (call.run cache).2.session.saved = []) :
    (call.run cache).2.session = ⟨cache.session.tables.upsertedAll
      (call.persisted.map fun entry => (entry.io, entry.filed)), []⟩ := by
  have hresult : (call.run cache).1 = .ok () := by
    cases hrun : (call.run cache).1 with
    | ok _ => rfl
    | error err =>
      rw [hrun] at hok
      cases hok
  clear hok
  revert hclosed hresult
  cases call with
  | persistRecord entry =>
    show (cache.persistRecord entry).2.session.saved = [] → (cache.persistRecord entry).1 = .ok () →
      (cache.persistRecord entry).2.session = _
    unfold VaultCache.persistRecord
    intro hclosed hresult
    cases hdocuments : persistDocuments [entry] cache.vault with
    | mk result vault =>
      rw [hdocuments] at hclosed hresult
      cases result with
      | error err => cases hresult
      | ok _ =>
        have hstored := upsert_of_ok hresult
        dsimp only at hclosed ⊢
        rw [hstored] at hclosed ⊢
        dsimp only at hclosed
        rw [hclosed]
        rfl
  | persistRecords io entries =>
    show (cache.persistRecords io entries).2.session.saved = [] →
      (cache.persistRecords io entries).1 = .ok () →
      (cache.persistRecords io entries).2.session = _
    unfold VaultCache.persistRecords
    have hne : entries ≠ [] := hsome
    simp only [if_neg hne]
    intro _ hresult
    cases hdocuments : persistDocuments entries cache.vault with
    | mk result vault =>
      rw [hdocuments] at hresult
      cases result with
      | error err => cases hresult
      | ok _ => exact upsertRecords_of_ok (fun h => hsome (List.map_eq_nil_iff.mp h)) hresult
  | projectLiveRecordsWithoutVault io mark rest entries => exact absurd rfl hsome
  | adoptLegacyCacheOnlyRecords outcome => exact absurd rfl hsome
  | tombstoneRecord outcome sysId stamp => exact absurd rfl hsome

/-! ## The run -/

/-- What holds along a run: all tables tell of files, those of an open transaction too, the files are
in the vault, and the rows of the records that are kept have their paths. -/
structure Sound (s : Filed) : Prop where
  truthful : s.cache.session.Everywhere (Truthful s.written)
  inVault : ∀ sysId path, (sysId, path) ∈ s.written → (s.cache.vault.row path).isSome
  kept : ∀ sysId path, s.kept.row sysId = some path →
    s.cache.session.Everywhere (HasPath sysId path)

theorem filesOf_eq {entries : List LiveEntry} (h : ∀ entry ∈ entries, entry.document = .ok ()) :
    filesOf entries = entries.map fun entry => (entry.version.sysId, entry.path) := by
  unfold filesOf
  rw [List.takeWhile_eq_self_iff.mpr fun entry hentry => by rw [h entry hentry]; rfl]

/-- The files that are written are in the vault, and no file leaves it. -/
theorem persistDocuments_vault (entries : List LiveEntry) (vault : Table String String) :
    (∀ path, (vault.row path).isSome → ((persistDocuments entries vault).2.row path).isSome) ∧
      ∀ sysId path, (sysId, path) ∈ filesOf entries →
        ((persistDocuments entries vault).2.row path).isSome := by
  induction entries generalizing vault with
  | nil => exact ⟨fun _ h => h, fun _ _ h => (List.not_mem_nil h).elim⟩
  | cons entry entries ih =>
    unfold filesOf persistDocuments
    cases hdocument : entry.document with
    | error err =>
      rw [List.takeWhile_cons_of_neg (by rw [hdocument]; simp [Except.isOk, Except.toBool])]
      exact ⟨fun _ h => h, fun _ _ h => (List.not_mem_nil h).elim⟩
    | ok _ =>
      obtain ⟨hkeeps, hfiles⟩ := ih (vault.put entry.path entry.version.sysId)
      have hput : ∀ path, (vault.row path).isSome ∨ path = entry.path →
          ((vault.put entry.path entry.version.sysId).row path).isSome := by
        intro path hpath
        by_cases hsame : path = entry.path
        · rw [hsame, Table.row_put_self]
          rfl
        · rw [Table.row_put_of_ne _ _ hsame]
          exact hpath.resolve_right hsame
      refine ⟨fun path h => hkeeps path (hput path (.inl h)), fun sysId path hmem => ?_⟩
      rw [List.takeWhile_cons_of_pos (by rw [hdocument]; rfl), List.map_cons] at hmem
      rcases List.mem_cons.mp hmem with heq | hmem
      · exact hkeeps path (hput path (.inr (congrArg Prod.snd heq)))
      · exact hfiles sysId path hmem

/-- The vault after a call. -/
theorem run_vault (call : VaultCall) (cache : VaultCache) :
    (call.run cache).2.vault = (persistDocuments call.persisted cache.vault).2 := by
  cases call with
  | persistRecord entry =>
    show (cache.persistRecord entry).2.vault = (persistDocuments [entry] cache.vault).2
    unfold VaultCache.persistRecord
    rcases persistDocuments [entry] cache.vault with ⟨result, vault⟩
    cases result <;> rfl
  | persistRecords io entries =>
    show (cache.persistRecords io entries).2.vault = (persistDocuments entries cache.vault).2
    unfold VaultCache.persistRecords
    by_cases hempty : entries = []
    · rw [if_pos hempty, hempty]
      rfl
    · rw [if_neg hempty]
      rcases persistDocuments entries cache.vault with ⟨result, vault⟩
      cases result <;> rfl
  | projectLiveRecordsWithoutVault io mark rest entries =>
    show (cache.projectLiveRecordsWithoutVault io mark rest entries).2.vault = cache.vault
    unfold VaultCache.projectLiveRecordsWithoutVault
    by_cases hempty : entries = []
    · rw [if_pos hempty]
    · rw [if_neg hempty]
      cases runtimeDocuments entries <;> rfl
  | adoptLegacyCacheOnlyRecords outcome => rfl
  | tombstoneRecord outcome sysId stamp => rfl

theorem persisted_subset (call : VaultCall) : call.persisted = [] ∨ call.persisted = call.entries := by
  cases call with
  | persistRecord entry => exact .inr rfl
  | persistRecords io entries => exact .inr rfl
  | projectLiveRecordsWithoutVault io mark rest entries => exact .inl rfl
  | adoptLegacyCacheOnlyRecords outcome => exact .inl rfl
  | tombstoneRecord outcome sysId stamp => exact .inl rfl

/-- The records that a call is not about have their paths after it. -/
theorem run_kept {call : VaultCall} {cache : VaultCache} {sysId path : String}
    (hothers : ∀ entry ∈ call.entries, entry.version.sysId ≠ sysId)
    (h : cache.session.Everywhere (HasPath sysId path)) :
    (call.run cache).2.session.Everywhere (HasPath sysId path) := by
  refine call.run_keeps stable_hasPath (fun _ entry hentry t ht => ?_)
    (fun entry hentry t ht => ht.write (hothers entry hentry)) h
  rcases persisted_subset call with hnone | hsame
  · rw [hnone] at hentry
    exact (List.not_mem_nil hentry).elim
  · rw [hsame] at hentry
    exact ht.write (hothers entry hentry)

/-- **One call**, whatever fails in it. -/
theorem Sound.step {s : Filed} (h : Sound s) (call : VaultCall) : Sound (step call s) := by
  have hreleased : ∀ sysId path, (released s.kept call.entries).row sysId = some path →
      (call.run s.cache).2.session.Everywhere (HasPath sysId path) := by
    intro sysId path hrow
    obtain ⟨hkept, hothers⟩ := released_eq_some hrow
    exact run_kept hothers (h.kept sysId path hkept)
  refine ⟨?_, fun sysId path hmem => ?_, fun sysId path hrow => ?_⟩
  · refine call.run_keeps stable_truthful (fun hdocuments entry hentry t ht => ?_)
      (fun entry _ t ht => ht.write fun path hpath => by cases hpath)
      ⟨h.truthful.1.mono, fun t ht => (h.truthful.2 t ht).mono⟩
    refine ht.write fun path hpath => List.mem_append_right _ ?_
    obtain rfl := Option.some.inj hpath
    rw [filesOf_eq hdocuments]
    exact List.mem_map_of_mem (f := fun entry => (entry.version.sysId, entry.path)) hentry
  · obtain ⟨hkeeps, hfiles⟩ := persistDocuments_vault call.persisted s.cache.vault
    show ((call.run s.cache).2.vault.row path).isSome
    rw [run_vault]
    rcases List.mem_append.mp hmem with hmem | hmem
    · exact hkeeps path (h.inVault sysId path hmem)
    · exact hfiles sysId path hmem
  · by_cases hnow : (call.run s.cache).1.isOk ∧ (call.run s.cache).2.session.saved = []
    · rw [show (Filed.step call s).kept = keptNow (released s.kept call.entries) call.persisted from
        if_pos hnow] at hrow
      by_cases hsome : call.persisted = []
      · rw [hsome] at hrow
        exact hreleased sysId path hrow
      · have hstored := persisted_ok hsome hnow.1 hnow.2
        show (call.run s.cache).2.session.Everywhere _
        rw [hstored]
        refine .of_closed (keptNow_hasPath call.persisted (fun sysId path hrow => ?_) hrow)
        exact (h.kept sysId path (released_eq_some hrow).1).1
    · rw [show (Filed.step call s).kept = released s.kept call.entries from if_neg hnow] at hrow
      exact hreleased sysId path hrow

/-- **What provenance tells.**  After every call, whatever has failed: a row with a path is backed by
the vault, and the path is that of a file of the vault that was written for the record; a row that is
backed had a file written for it; and a record that was persisted by a call that succeeded has the path
of its file until a later call persists or projects it again. -/
theorem provenance_tells_of_files {calls : List VaultCall} {s : Filed}
    (h : Run step (fun _ _ => True) empty calls s) :
    (∀ row ∈ s.cache.session.tables.records.rows,
      (∀ path, row.columns.filePath = some path → row.vaultProvenance = .vaultBacked ∧
        (row.sysId, path) ∈ s.written ∧ (s.cache.vault.row path).isSome) ∧
      (row.vaultProvenance = .vaultBacked → ∃ path, (row.sysId, path) ∈ s.written)) ∧
    ∀ sysId path, s.kept.row sysId = some path → HasPath sysId path s.cache.session.tables := by
  have hsound : Sound s := by
    refine Run.invariant (I := fun _ s => Sound s) ?_ (fun _ _ call _ hs _ => hs.step call) h
    refine ⟨.of_closed fun row hrow => (List.not_mem_nil hrow).elim,
      fun sysId path hmem => (List.not_mem_nil hmem).elim, fun sysId path hrow => ?_⟩
    cases hrow
  refine ⟨fun row hrow => ?_, fun sysId path hkept => (hsound.kept sysId path hkept).1⟩
  obtain ⟨hpath, hbacked⟩ := hsound.truthful.1 row hrow
  refine ⟨fun path hfile => ?_, hbacked⟩
  obtain ⟨hprovenance, hmem⟩ := hpath path hfile
  exact ⟨hprovenance, hmem, hsound.inVault row.sysId path hmem⟩

/-! ## A path that is lost -/

/-- An incident with its file. -/
def printerEntry : LiveEntry where
  document := .ok ()
  path := "incidents/INC0000001.md"
  version := Indexed.incidentVersion "Printer jam"
  io := Indexed.steadyUpsert

/-- It is persisted. -/
def persistPrinter : VaultCall := .persistRecord printerEntry

/-- It is projected without a file, and cannot be marked. -/
def projectPrinter : VaultCall :=
  .projectLiveRecordsWithoutVault ⟨.ran, .ran, .ran⟩
    ⟨⟨.failed "database is locked", .ran, .ran⟩, .ran, fun _ => .ran⟩ (.ok ()) [printerEntry]

/-- **A row stays backed by the vault without a path**: the record was persisted, and then projected;
its file is in the vault still. -/
theorem projected_path_lost :
    Run step (fun _ _ => True) empty [persistPrinter, projectPrinter]
        (step projectPrinter (step persistPrinter empty)) ∧
      (step projectPrinter (step persistPrinter empty)).cache.vault.row "incidents/INC0000001.md" =
        some "a1" ∧
      ("a1", "incidents/INC0000001.md") ∈ (step projectPrinter (step persistPrinter empty)).written ∧
      ∃ row ∈ (step projectPrinter (step persistPrinter empty)).cache.session.tables.records.rows,
        row.sysId = "a1" ∧ row.vaultProvenance = .vaultBacked ∧ row.columns.filePath = none := by
  refine ⟨.next (.next .start trivial) trivial, by decide +kernel, by decide +kernel, ?_⟩
  exact ⟨⟨1, "a1", (Indexed.incidentVersion "Printer jam").columns, .vaultBacked⟩,
    by decide +kernel, rfl, rfl, rfl⟩

/-- While it is only persisted, it has its path. -/
theorem persisted_path_kept :
    (∀ row ∈ (step persistPrinter empty).cache.session.tables.records.rows,
      (∀ path, row.columns.filePath = some path → row.vaultProvenance = .vaultBacked ∧
        (row.sysId, path) ∈ (step persistPrinter empty).written ∧
        ((step persistPrinter empty).cache.vault.row path).isSome) ∧
      (row.vaultProvenance = .vaultBacked →
        ∃ path, (row.sysId, path) ∈ (step persistPrinter empty).written)) ∧
    ∀ sysId path, (step persistPrinter empty).kept.row sysId = some path →
      HasPath sysId path (step persistPrinter empty).cache.session.tables :=
  provenance_tells_of_files (.next .start trivial)

end Filed

end SnowAgent.Core
