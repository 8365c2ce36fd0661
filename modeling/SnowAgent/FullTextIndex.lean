import Mathlib.Algebra.Order.BigOperators.Group.List
import SnowAgent.RecordStore
import SnowAgent.Runs

/-! # The full text index

Each row of `records` should have one row in the full text index, with its rowid and the texts of the
version that was stored last.  An upsert writes the two tables by statements of their own, in a
transaction or by themselves, and so does pruning: what fails halfway leaves one side behind.
-/
namespace SnowAgent.Core

open Savepoints Runs

/-! ## Calls -/

/-- A call of the store, with what its statements are answered with. -/
inductive RecordStoreCall where
  | upsertRecordWithTags (io : UpsertAnswers) (version : RecordVersion)
  | upsertRecords (io : TransactionIO) (entries : List (UpsertAnswers × RecordVersion))
  | tombstoneRecord (outcome : Outcome String) (sysId : String) (stamp : DateTime)
  | pruneRecord (outcome : PruneStatement → Outcome String) (sysId : String) (stamp : DateTime)

namespace RecordStoreCall

/-- Runs a call. -/
def run (s : Session RecordTables) : RecordStoreCall → Except String Unit × Session RecordTables
  | upsertRecordWithTags io version => Core.upsertRecordWithTags s io version
  | upsertRecords io entries => Core.upsertRecords s io entries
  | tombstoneRecord outcome sysId stamp => Core.tombstoneRecord s outcome sysId stamp
  | pruneRecord outcome sysId stamp => pruneStoredRecord s outcome sysId stamp

/-- The versions that a call upserts, in order. -/
def versions : RecordStoreCall → List RecordVersion
  | upsertRecordWithTags _ version => [version]
  | upsertRecords _ entries => entries.map Prod.snd
  | tombstoneRecord _ _ _ | pruneRecord _ _ _ => []

end RecordStoreCall

/-- The connection, and the texts of the last version of each record whose upsert succeeded. -/
structure Indexed where
  session : Session RecordTables
  succeeded : Table String FtsTexts

namespace Indexed

/-- Notes versions whose upsert succeeded. -/
def noted (succeeded : Table String FtsTexts) (versions : List RecordVersion) :
    Table String FtsTexts :=
  versions.foldl (fun texts version => texts.put version.sysId version.texts) succeeded

/-- One call. -/
def step (call : RecordStoreCall) (s : Indexed) : Indexed where
  session := (call.run s.session).2
  succeeded := match (call.run s.session).1 with
    | .ok () => noted s.succeeded call.versions
    | .error _ => s.succeeded

/-- A store without rows. -/
def empty : Indexed := ⟨⟨⟨⟨[], .nil, .nil⟩, Table.empty⟩, []⟩, Table.empty⟩

/-- **The index mirrors the records**: the row of each record has its texts in the index, and the index
has nothing else. -/
structure Mirrors (tables : RecordTables) (succeeded : Table String FtsTexts) : Prop where
  indexed : ∀ row ∈ tables.records.rows, ∃ texts,
    succeeded.row row.sysId = some texts ∧ tables.fts.row row.rowid = some texts
  only : ∀ rowid texts, tables.fts.row rowid = some texts →
    ∃ row ∈ tables.records.rows, row.rowid = rowid

/-- **Nothing is left halfway.**  No statement of an upsert by itself fails once the record is written,
and none of a prune once the record is marked; a transaction is not left open. -/
def Whole (s : Indexed) : RecordStoreCall → Prop
  | .upsertRecordWithTags io _ =>
    io.write = .ran → io.read = .ran ∧ io.drop = .ran ∧ io.add = .ran
  | .upsertRecords io _ => ∀ err, io.closing ≠ .failed err ∧ io.rollback ≠ .failed err
  | .tombstoneRecord _ _ _ => True
  | .pruneRecord outcome sysId _ =>
    (∃ row ∈ s.session.tables.records.rows, row.sysId = sysId) →
    outcome (.deleteDerived .catalogProductsComplete) = .ran →
    outcome (.deleteDerived .catalogProductsNarrowed) = .ran → outcome .setPrunedAt = .ran →
    ∀ statement ∈ pruneStatements, outcome statement = .ran

/-! ## What each change keeps -/

section

variable {tables : RecordTables} {succeeded : Table String FtsTexts}

theorem Mirrors.upserted (h : Mirrors tables succeeded) (choice : RowidChoice)
    (version : RecordVersion) :
    Mirrors (tables.upserted choice version) (succeeded.put version.sysId version.texts) := by
  obtain ⟨written, hmem, hid, -, hupserted⟩ := RecordTables.upserted_spec tables choice version
  obtain ⟨new, hnew, -, hrows, hold, -⟩ := RecordsTable.upsert_spec tables.records choice version
  obtain rfl : written = new := by
    refine RecordsTable.eq_of_sysId hmem ((hrows new).mpr (.inl rfl)) (hid.trans hnew.symm)
  have hnewRows : (tables.upserted choice version).records =
      tables.records.upsert choice version := by
    rw [hupserted]
    rfl
  have hfts : (tables.upserted choice version).fts =
      (tables.fts.delete written.rowid).put written.rowid version.texts := by
    rw [hupserted]
  have hapart : ∀ row ∈ tables.records.rows, row.sysId ≠ version.sysId →
      row.rowid ≠ written.rowid := by
    intro row hrow hother hsame
    refine hother ?_
    rw [RecordsTable.eq_of_rowid ((hrows row).mpr (.inr ⟨hrow, hother⟩)) hmem hsame]
    exact hid
  constructor
  · intro row hrow
    rw [hnewRows] at hrow
    rcases (hrows row).mp hrow with rfl | ⟨hrow, hother⟩
    · refine ⟨version.texts, ?_, ?_⟩
      · rw [hid]
        exact Table.row_put_self _ _ _
      · rw [hfts]
        exact Table.row_put_self _ _ _
    · obtain ⟨texts, hnoted, htexts⟩ := h.indexed row hrow
      have hrowid := hapart row hrow hother
      refine ⟨texts, ?_, ?_⟩
      · rw [Table.row_put_of_ne _ _ hother]
        exact hnoted
      · rw [hfts, Table.row_put_of_ne _ _ hrowid, Table.row_delete_of_ne _ hrowid]
        exact htexts
  · intro rowid texts htexts
    rw [hnewRows]
    by_cases hsame : rowid = written.rowid
    · exact ⟨written, hmem, hsame.symm⟩
    · rw [hfts, Table.row_put_of_ne _ _ hsame, Table.row_delete_of_ne _ hsame] at htexts
      obtain ⟨row, hrow, hrowid⟩ := h.only rowid texts htexts
      refine ⟨row, (hrows row).mpr (.inr ⟨hrow, fun hid' => hsame ?_⟩), hrowid⟩
      rw [← hrowid]
      exact (hold row hrow hid').1.symm

theorem Mirrors.upsertedAll (entries : List (UpsertAnswers × RecordVersion))
    (h : Mirrors tables succeeded) :
    Mirrors (tables.upsertedAll entries) (noted succeeded (entries.map Prod.snd)) := by
  induction entries generalizing tables succeeded with
  | nil => exact h
  | cons entry entries ih => exact ih (h.upserted entry.1.choice entry.2)

/-- A change of the columns leaves the index as it is. -/
theorem Mirrors.update (h : Mirrors tables succeeded) (p : StoredRecord → Bool)
    (f : StoredRecord → RecordColumns × VaultProjectionProvenance) :
    Mirrors { tables with records := tables.records.update p f } succeeded := by
  constructor
  · intro row hrow
    obtain ⟨old, hold, rfl⟩ := RecordsTable.mem_update.mp hrow
    rw [StoredRecord.change_sysId, StoredRecord.change_rowid]
    exact h.indexed old hold
  · intro rowid texts htexts
    obtain ⟨row, hrow, hrowid⟩ := h.only rowid texts htexts
    exact ⟨row.change p f, RecordsTable.mem_update.mpr ⟨row, hrow, rfl⟩,
      (row.change_rowid p f).trans hrowid⟩

variable {row : StoredRecord}

/-- Both sides of a record go. -/
theorem Mirrors.delete (h : Mirrors tables succeeded) (hrow : row ∈ tables.records.rows) :
    Mirrors ⟨tables.records.delete row.sysId, tables.fts.delete row.rowid⟩ succeeded := by
  constructor
  · intro other hother
    obtain ⟨hother, hid⟩ := RecordsTable.mem_delete.mp hother
    obtain ⟨texts, hnoted, htexts⟩ := h.indexed other hother
    refine ⟨texts, hnoted, ?_⟩
    have hrowid : other.rowid ≠ row.rowid := fun hsame =>
      hid (congrArg StoredRecord.sysId (RecordsTable.eq_of_rowid hother hrow hsame))
    show (tables.fts.delete row.rowid).row other.rowid = some texts
    rw [Table.row_delete_of_ne _ hrowid]
    exact htexts
  · intro rowid texts htexts
    by_cases hsame : rowid = row.rowid
    · subst hsame
      rw [show (tables.fts.delete row.rowid).row row.rowid = none from Table.row_delete_self _ _]
        at htexts
      cases htexts
    · have hkept : tables.fts.row rowid = some texts := by
        rw [← htexts]
        exact (Table.row_delete_of_ne _ hsame).symm
      obtain ⟨other, hother, hrowid⟩ := h.only rowid texts hkept
      refine ⟨other, RecordsTable.mem_delete.mpr ⟨hother, fun hid => hsame ?_⟩, hrowid⟩
      rw [← hrowid, RecordsTable.eq_of_sysId hother hrow hid]

/-! ## Pruning -/

variable {sysId : String}

/-- Pruning a record that there is not changes nothing. -/
theorem prune_absent (h : ∀ row ∈ tables.records.rows, row.sysId ≠ sysId) (stamp : DateTime)
    (statement : PruneStatement) :
    tables.prune sysId stamp statement = tables := by
  have hrows : ∀ {records : RecordsTable}, records.rows = tables.records.rows →
      { tables with records := records } = tables := by
    intro records hsame
    obtain ⟨⟨rows, keys, rowids⟩, fts⟩ := tables
    obtain ⟨rows', keys', rowids'⟩ := records
    obtain rfl : rows' = rows := hsame
    rfl
  cases statement with
  | setPrunedAt =>
    refine hrows ((List.map_congr_left fun row hrow => ?_).trans (List.map_id' _))
    rw [StoredRecord.change, if_neg (by simpa using h row hrow)]
  | deleteRecord =>
    refine hrows (List.filter_eq_self.mpr fun row hrow => ?_)
    exact decide_eq_true (h row hrow)
  | deleteDerived table =>
    cases table with
    | ftsRecords =>
      rw [RecordTables.prune, RecordsTable.get_eq_none.mpr h]
    | _ => rfl

/-- Pruning, all of whose statements run. -/
theorem prune_present (hrow : row ∈ tables.records.rows) (stamp : DateTime)
    (h : Mirrors tables succeeded) :
    Mirrors (pruneStatements.foldl (fun tables => tables.prune row.sysId stamp) tables)
      succeeded := by
  have hmarked := h.update (fun other => other.sysId = row.sysId)
    fun other => ({ other.columns with prunedAt := some stamp }, other.vaultProvenance)
  have hmem := RecordsTable.mem_update.mpr
    ⟨row, hrow, (rfl : row.change (fun other => other.sysId = row.sysId)
      (fun other => ({ other.columns with prunedAt := some stamp }, other.vaultProvenance)) = _)⟩
  have hget := RecordsTable.get_eq_some.mpr ⟨hmem, StoredRecord.change_sysId _ _ row⟩
  have hdeleted := hmarked.delete hmem
  rw [StoredRecord.change_sysId, StoredRecord.change_rowid] at hdeleted
  simp only [pruneStatements, List.foldl_cons, List.foldl_nil, RecordTables.prune, hget,
    RecordTables.dropTexts, StoredRecord.change_rowid]
  exact hdeleted

/-- **A prune** that leaves nothing halfway is done, or has changed nothing. -/
theorem prune_cases {outcome : PruneStatement → Outcome String} {stamp : DateTime}
    (h : Mirrors tables succeeded)
    (hwhole : Whole ⟨⟨tables, []⟩, succeeded⟩ (.pruneRecord outcome sysId stamp)) :
    (∃ after, pruneStoredRecord ⟨tables, []⟩ outcome sysId stamp = (.ok (), ⟨after, []⟩) ∧
        Mirrors after succeeded) ∨
      ∃ err, pruneStoredRecord ⟨tables, []⟩ outcome sysId stamp = (.error err, ⟨tables, []⟩) := by
  by_cases hpresent : ∃ row ∈ tables.records.rows, row.sysId = sysId
  · -- A statement before the record is marked fails, or none does.
    by_cases hcomplete : outcome (.deleteDerived .catalogProductsComplete) = .ran
    · by_cases hnarrowed : outcome (.deleteDerived .catalogProductsNarrowed) = .ran
      · by_cases hmark : outcome .setPrunedAt = .ran
        · obtain ⟨row, hrow, rfl⟩ := hpresent
          refine .inl ⟨_, statements_ran pruneStatements
            (hwhole ⟨row, hrow, rfl⟩ hcomplete hnarrowed hmark) tables [], ?_⟩
          exact prune_present hrow stamp h
        · obtain ⟨err, hfail⟩ := statement_closed tables
            (fun tables => Except.ok (tables.prune sysId stamp .setPrunedAt)) hmark
          refine .inr ⟨err, ?_⟩
          simp only [pruneStoredRecord, pruneStatements, List.map_cons, Session.statements,
            hcomplete, hnarrowed, Session.statement, RecordTables.prune] at hfail ⊢
          rw [hfail]
      · obtain ⟨err, hfail⟩ := statement_closed tables (fun tables => Except.ok
            (tables.prune sysId stamp (.deleteDerived .catalogProductsNarrowed))) hnarrowed
        refine .inr ⟨err, ?_⟩
        simp only [pruneStoredRecord, pruneStatements, List.map_cons, Session.statements, hcomplete,
          Session.statement, RecordTables.prune] at hfail ⊢
        rw [hfail]
    · obtain ⟨err, hfail⟩ := statement_closed tables (fun tables => Except.ok
          (tables.prune sysId stamp (.deleteDerived .catalogProductsComplete))) hcomplete
      refine .inr ⟨err, ?_⟩
      simp only [pruneStoredRecord, pruneStatements, List.map_cons, Session.statements,
        Session.statement, RecordTables.prune] at hfail ⊢
      rw [hfail]
  · have hidle : (pruneStoredRecord ⟨tables, []⟩ outcome sysId stamp).2 = ⟨tables, []⟩ := by
      refine statements_idle _ fun entry hentry => ?_
      obtain ⟨statement, -, rfl⟩ := List.mem_map.mp hentry
      exact congrArg Except.ok
        (prune_absent (fun row hrow hid => hpresent ⟨row, hrow, hid⟩) stamp statement)
    cases hrun : pruneStoredRecord ⟨tables, []⟩ outcome sysId stamp with
    | mk result session =>
      rw [hrun] at hidle
      obtain rfl : session = ⟨tables, []⟩ := hidle
      cases result with
      | ok _ => exact .inl ⟨tables, rfl, h⟩
      | error err => exact .inr ⟨err, rfl⟩

/-! ## Runs -/

/-- **One call** that leaves nothing halfway: it is done, and the index mirrors the records, or it has
failed and changed nothing. -/
theorem run_cases {call : RecordStoreCall} (h : Mirrors tables succeeded)
    (hwhole : Whole ⟨⟨tables, []⟩, succeeded⟩ call) :
    (∃ after, call.run ⟨tables, []⟩ = (.ok (), ⟨after, []⟩) ∧
        Mirrors after (noted succeeded call.versions)) ∨
      ∃ err, call.run ⟨tables, []⟩ = (.error err, ⟨tables, []⟩) := by
  cases call with
  | upsertRecordWithTags io version =>
    by_cases hwrite : io.write = .ran
    · obtain ⟨hread, hdrop, hadd⟩ := hwhole hwrite
      exact .inl ⟨_, upsert_ok tables [] version hwrite hread hdrop hadd, h.upserted _ _⟩
    · obtain ⟨err, hfail⟩ := statement_closed tables
        (fun tables => Except.ok (tables.write io.choice version)) hwrite
      refine .inr ⟨err, ?_⟩
      simp only [RecordStoreCall.run, Core.upsertRecordWithTags, hfail, Session.andThen]
  | upsertRecords io entries =>
    rcases upsertRecords_cases tables io entries with hrun | ⟨err, hrun | ⟨⟨err', hopen⟩, -⟩⟩
    · exact .inl ⟨_, hrun, h.upsertedAll entries⟩
    · exact .inr ⟨err, hrun⟩
    · rcases hopen with hopen | hopen
      · exact absurd hopen (hwhole err').1
      · exact absurd hopen (hwhole err').2
  | tombstoneRecord outcome sysId stamp =>
    by_cases hran : outcome = .ran
    · subst hran
      exact .inl ⟨_, rfl, h.update _ _⟩
    · obtain ⟨err, hfail⟩ := statement_closed tables (fun tables => Except.ok { tables with
          records := tables.records.update (fun row => row.sysId = sysId) fun row =>
            ({ row.columns with
              inScope := false
              tombstonedAt := some stamp
              lastSeenAt := stamp }, row.vaultProvenance) }) hran
      exact .inr ⟨err, hfail⟩
  | pruneRecord outcome sysId stamp => exact prune_cases h hwhole

end

/-- **The full text index mirrors the records** along every run whose calls leave nothing halfway:
after every call each record has its row in the index, with the texts of its last version, and the
index has no other row; and a call that fails leaves both tables as they were. -/
theorem index_mirrors_records {calls : List RecordStoreCall} {s : Indexed}
    (h : Run step Whole empty calls s) :
    Mirrors s.session.tables s.succeeded ∧
      ∀ call, Whole s call → ∀ err, (call.run s.session).1 = .error err →
        (step call s).session.tables = s.session.tables := by
  have hmirrors : s.session.saved = [] ∧ Mirrors s.session.tables s.succeeded := by
    refine Run.invariant (I := fun _ s => s.session.saved = [] ∧
      Mirrors s.session.tables s.succeeded) ?_ ?_ h
    · refine ⟨rfl, fun row hrow => (List.not_mem_nil hrow).elim, fun rowid texts htexts => ?_⟩
      cases htexts
    · rintro - ⟨⟨tables, saved⟩, succeeded⟩ call - ⟨rfl, hmirrors⟩ hwhole
      rcases run_cases hmirrors hwhole with ⟨after, hrun, hafter⟩ | ⟨err, hrun⟩
      · simp only [step, hrun]
        exact ⟨trivial, hafter⟩
      · simp only [step, hrun]
        exact ⟨trivial, hmirrors⟩
  refine ⟨hmirrors.2, fun call hwhole err herr => ?_⟩
  obtain ⟨⟨tables, saved⟩, succeeded⟩ := s
  obtain ⟨rfl, hmirrors⟩ := hmirrors
  rcases run_cases hmirrors hwhole with ⟨after, hrun, -⟩ | ⟨err', hrun⟩
  · rw [hrun] at herr
    cases herr
  · simp only [step, hrun]

/-! ## An upsert that fails halfway -/

/-- A new row gets a rowid above all others. -/
def largestRowid : RowidChoice where
  next rows := (rows.map StoredRecord.rowid).sum + 1
  unused rows h := by
    have := List.le_sum_of_mem h
    omega

/-- All statements run. -/
def steadyUpsert : UpsertAnswers := ⟨.ran, .ran, .ran, .ran, largestRowid⟩

/-- The texts are not added. -/
def brokenUpsert : UpsertAnswers := { steadyUpsert with add := .failed "disk I/O error" }

/-- A version of an incident. -/
def incidentVersion (shortDesc : String) : RecordVersion where
  sysId := "a1"
  columns := {
    number := "INC0000001"
    tableName := "incident"
    resourceType := .incident
    state := some "New"
    shortDesc := some shortDesc
    description := none
    assignedTo := none
    parentId := none
    filePath := none
    syncedAt := 0
    sysUpdatedOn := 0
    etag := none
    inScope := true
    lastSeenAt := 0
    tombstonedAt := none
    prunedAt := none
    rawJson := "\x7b\x7d" }
  workNotes := ""
  content := ""
  tagTokens := ""

/-- The incident is stored. -/
def storedIncident : RecordStoreCall :=
  .upsertRecordWithTags steadyUpsert (incidentVersion "Printer jam")

/-- A second version is stored by half. -/
def brokenIncident : RecordStoreCall :=
  .upsertRecordWithTags brokenUpsert (incidentVersion "Printer on fire")

/-- **An upsert that fails at its last statement** has changed the record, and the record is gone from
the index. -/
theorem failed_upsert_unindexes :
    Run step (fun _ _ => True) empty [storedIncident, brokenIncident]
        (step brokenIncident (step storedIncident empty)) ∧
      (brokenIncident.run (step storedIncident empty).session).1 = .error "disk I/O error" ∧
      ¬ Mirrors (step brokenIncident (step storedIncident empty)).session.tables
        (step brokenIncident (step storedIncident empty)).succeeded := by
  refine ⟨.next (.next .start trivial) trivial, rfl, fun h => ?_⟩
  obtain ⟨texts, -, htexts⟩ := h.indexed ⟨1, "a1", (incidentVersion "Printer on fire").columns,
    .legacyUnknown⟩ (by decide +kernel)
  have hnone : (step brokenIncident (step storedIncident empty)).session.tables.fts.row 1 = none :=
    rfl
  rw [hnone] at htexts
  cases htexts

/-- When its statements run, the incident is in the index. -/
theorem stored_incident_indexed :
    Mirrors (step storedIncident empty).session.tables (step storedIncident empty).succeeded ∧
      ∀ call, Whole (step storedIncident empty) call → ∀ err,
        (call.run (step storedIncident empty).session).1 = .error err →
        (step call (step storedIncident empty)).session.tables =
          (step storedIncident empty).session.tables :=
  index_mirrors_records (.next .start fun _ => ⟨rfl, rfl, rfl⟩)

end Indexed

end SnowAgent.Core
