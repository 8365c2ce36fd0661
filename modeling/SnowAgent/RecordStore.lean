import Mathlib.Data.List.Nodup
import SnowAgent.RecordPrune
import SnowAgent.Table
import SnowAgent.Transactions

/-! # The records of the store

The `records` table of the cache database and the full text index beside it, with the functions of
the store that write them, statement by statement.  The two tables are linked by the rowid, which
SQLite gives to a new row.
-/
namespace SnowAgent.Core

open Savepoints

/-! ## Tables -/

/-- `VaultProjectionProvenance`. -/
inductive VaultProjectionProvenance where
  | vaultBacked
  | cacheOnly
  | legacyUnknown
deriving DecidableEq

/-- The columns of `records` that an upsert writes, but for the key. -/
structure RecordColumns where
  number : String
  tableName : String
  resourceType : ResourceType
  state : Option String
  shortDesc : Option String
  description : Option String
  assignedTo : Option String
  parentId : Option String
  filePath : Option String
  syncedAt : DateTime
  sysUpdatedOn : DateTime
  etag : Option String
  inScope : Bool
  lastSeenAt : DateTime
  tombstonedAt : Option DateTime
  prunedAt : Option DateTime
  rawJson : String
deriving DecidableEq

/-- A row of `records`. -/
structure StoredRecord where
  rowid : Nat
  sysId : String
  columns : RecordColumns
  vaultProvenance : VaultProjectionProvenance
deriving DecidableEq

/-- The `records` table: a row for each `sys_id`, and for each rowid. -/
structure RecordsTable where
  rows : List StoredRecord
  keys : (rows.map StoredRecord.sysId).Nodup
  rowids : (rows.map StoredRecord.rowid).Nodup

/-- The texts of a row of `fts_records`. -/
structure FtsTexts where
  number : String
  shortDesc : String
  description : String
  workNotes : String
  content : String
  tagTokens : String
deriving DecidableEq

/-- The two tables. -/
structure RecordTables where
  records : RecordsTable
  fts : Table Nat FtsTexts

/-- What an upsert is given: a `RecordRow` and the texts for the index. -/
structure RecordVersion where
  sysId : String
  columns : RecordColumns
  workNotes : String
  content : String
  tagTokens : String

/-- The texts of a version. -/
def RecordVersion.texts (version : RecordVersion) : FtsTexts where
  number := version.columns.number
  shortDesc := version.columns.shortDesc.getD ""
  description := version.columns.description.getD ""
  workNotes := version.workNotes
  content := version.content
  tagTokens := version.tagTokens

/-- How SQLite chooses the rowid of a new row: any that no row has, be it one that a deleted row
had. -/
structure RowidChoice where
  next : List StoredRecord → Nat
  unused : ∀ rows, next rows ∉ rows.map StoredRecord.rowid

/-! ## Statements -/

namespace StoredRecord

/-- `UPDATE`, of one row. -/
def change (p : StoredRecord → Bool)
    (f : StoredRecord → RecordColumns × VaultProjectionProvenance) (row : StoredRecord) :
    StoredRecord :=
  if p row then { row with columns := (f row).1, vaultProvenance := (f row).2 } else row

variable (p : StoredRecord → Bool) (f : StoredRecord → RecordColumns × VaultProjectionProvenance)

variable (row : StoredRecord)

@[simp] theorem change_sysId : (row.change p f).sysId = row.sysId := by
  unfold change
  split <;> rfl

@[simp] theorem change_rowid : (row.change p f).rowid = row.rowid := by
  unfold change
  split <;> rfl

end StoredRecord

namespace RecordsTable

/-- `UPDATE … WHERE`. -/
def update (table : RecordsTable) (p : StoredRecord → Bool)
    (f : StoredRecord → RecordColumns × VaultProjectionProvenance) : RecordsTable where
  rows := table.rows.map (StoredRecord.change p f)
  keys := by
    rw [List.map_map, show StoredRecord.sysId ∘ StoredRecord.change p f = StoredRecord.sysId from
      funext fun row => row.change_sysId p f]
    exact table.keys
  rowids := by
    rw [List.map_map, show StoredRecord.rowid ∘ StoredRecord.change p f = StoredRecord.rowid from
      funext fun row => row.change_rowid p f]
    exact table.rowids

/-- `DELETE … WHERE sys_id = ?1`. -/
def delete (table : RecordsTable) (sysId : String) : RecordsTable where
  rows := table.rows.filter fun row => row.sysId ≠ sysId
  keys := (List.filter_sublist.map _).nodup table.keys
  rowids := (List.filter_sublist.map _).nodup table.rowids

/-- The provenance that an upsert gives a row. -/
def provenanceOf (columns : RecordColumns) (before : VaultProjectionProvenance) :
    VaultProjectionProvenance :=
  if columns.filePath.isSome then .vaultBacked else before

/-- `INSERT … ON CONFLICT(sys_id) DO UPDATE`. -/
def upsert (table : RecordsTable) (choice : RowidChoice) (version : RecordVersion) : RecordsTable :=
  if h : version.sysId ∈ table.rows.map StoredRecord.sysId then
    table.update (fun row => row.sysId = version.sysId) fun row =>
      (version.columns, provenanceOf version.columns row.vaultProvenance)
  else
    { rows := table.rows ++ [⟨choice.next table.rows, version.sysId, version.columns,
        provenanceOf version.columns .legacyUnknown⟩]
      keys := by
        rw [List.map_append]
        exact table.keys.append (List.nodup_singleton _) (List.disjoint_singleton.mpr h)
      rowids := by
        rw [List.map_append]
        exact table.rowids.append (List.nodup_singleton _)
          (List.disjoint_singleton.mpr (choice.unused table.rows)) }

/-- The row of a `sys_id`. -/
def get (table : RecordsTable) (sysId : String) : Option StoredRecord :=
  table.rows.find? fun row => row.sysId = sysId

variable {table : RecordsTable} {row other : StoredRecord} {sysId : String}

theorem eq_of_sysId (hrow : row ∈ table.rows) (hother : other ∈ table.rows)
    (h : row.sysId = other.sysId) : row = other :=
  List.inj_on_of_nodup_map table.keys hrow hother h

theorem eq_of_rowid (hrow : row ∈ table.rows) (hother : other ∈ table.rows)
    (h : row.rowid = other.rowid) : row = other :=
  List.inj_on_of_nodup_map table.rowids hrow hother h

theorem get_eq_some : table.get sysId = some row ↔ row ∈ table.rows ∧ row.sysId = sysId := by
  constructor
  · intro h
    exact ⟨List.mem_of_find?_eq_some h, by simpa using List.find?_some h⟩
  · rintro ⟨hrow, rfl⟩
    cases hget : table.get row.sysId with
    | none =>
      have := List.find?_eq_none.mp hget row hrow
      simp at this
    | some other =>
      have hother := List.mem_of_find?_eq_some hget
      have hid : other.sysId = row.sysId := by simpa using List.find?_some hget
      rw [eq_of_sysId hother hrow hid]

theorem get_eq_none : table.get sysId = none ↔ ∀ row ∈ table.rows, row.sysId ≠ sysId := by
  unfold get
  simp [List.find?_eq_none]

theorem mem_update {p : StoredRecord → Bool}
    {f : StoredRecord → RecordColumns × VaultProjectionProvenance} :
    row ∈ (table.update p f).rows ↔ ∃ old ∈ table.rows, old.change p f = row := List.mem_map

theorem mem_delete : row ∈ (table.delete sysId).rows ↔ row ∈ table.rows ∧ row.sysId ≠ sysId := by
  show row ∈ table.rows.filter _ ↔ _
  rw [List.mem_filter, decide_eq_true_iff]

/-- **What an upsert does.**  It writes one row, which keeps the rowid of the row before it, and its
provenance too if no path is written; the rows of other records stay. -/
theorem upsert_spec (table : RecordsTable) (choice : RowidChoice) (version : RecordVersion) :
    ∃ written, written.sysId = version.sysId ∧ written.columns = version.columns ∧
      (∀ row, row ∈ (table.upsert choice version).rows ↔
        row = written ∨ row ∈ table.rows ∧ row.sysId ≠ version.sysId) ∧
      (∀ old ∈ table.rows, old.sysId = version.sysId → written.rowid = old.rowid ∧
        written.vaultProvenance = provenanceOf version.columns old.vaultProvenance) ∧
      ((∀ old ∈ table.rows, old.sysId ≠ version.sysId) →
        written.vaultProvenance = provenanceOf version.columns .legacyUnknown) := by
  unfold upsert
  by_cases h : version.sysId ∈ table.rows.map StoredRecord.sysId
  · rw [dif_pos h]
    obtain ⟨old, hold, hid⟩ := List.mem_map.mp h
    refine ⟨⟨old.rowid, old.sysId, version.columns,
      provenanceOf version.columns old.vaultProvenance⟩, hid, rfl, fun row => ?_, ?_, ?_⟩
    · rw [mem_update]
      constructor
      · rintro ⟨other, hother, rfl⟩
        by_cases hsame : other.sysId = version.sysId
        · rw [eq_of_sysId hother hold (hsame.trans hid.symm), StoredRecord.change,
            if_pos (decide_eq_true hid)]
          exact .inl rfl
        · rw [StoredRecord.change, if_neg (by simpa using hsame)]
          exact .inr ⟨hother, hsame⟩
      · rintro (rfl | ⟨hrow, hother⟩)
        · exact ⟨old, hold, by rw [StoredRecord.change, if_pos (decide_eq_true hid)]⟩
        · exact ⟨row, hrow, by rw [StoredRecord.change, if_neg (by simpa using hother)]⟩
    · intro other hother hsame
      rw [eq_of_sysId hother hold (hsame.trans hid.symm)]
      exact ⟨rfl, rfl⟩
    · intro hnone
      exact absurd hid (hnone old hold)
  · rw [dif_neg h]
    have hnone : ∀ old ∈ table.rows, old.sysId ≠ version.sysId := fun old hold hid =>
      h (List.mem_map.mpr ⟨old, hold, hid⟩)
    refine ⟨⟨choice.next table.rows, version.sysId, version.columns,
      provenanceOf version.columns .legacyUnknown⟩, rfl, rfl, fun row => ?_, ?_, fun _ => rfl⟩
    · rw [List.mem_append, List.mem_singleton]
      constructor
      · rintro (hrow | rfl)
        · exact .inr ⟨hrow, hnone row hrow⟩
        · exact .inl rfl
      · rintro (rfl | ⟨hrow, -⟩)
        · exact .inr rfl
        · exact .inl hrow
    · intro old hold hid
      exact absurd hid (hnone old hold)

end RecordsTable

namespace RecordTables

variable (tables : RecordTables)

/-- The upsert of a row. -/
def write (choice : RowidChoice) (version : RecordVersion) : RecordTables :=
  { tables with records := tables.records.upsert choice version }

/-- `SELECT rowid FROM records WHERE sys_id = ?1`. -/
def rowid (sysId : String) : Except String Nat :=
  match tables.records.get sysId with
  | some row => .ok row.rowid
  | none => .error "Query returned no rows"

/-- `DELETE FROM fts_records WHERE rowid = ?1`. -/
def dropTexts (rowid : Nat) : RecordTables := { tables with fts := tables.fts.delete rowid }

/-- `INSERT INTO fts_records`, whose rowids are unique. -/
def addTexts (rowid : Nat) (texts : FtsTexts) : Except String RecordTables :=
  if (tables.fts.row rowid).isSome then .error "constraint failed"
  else .ok { tables with fts := tables.fts.put rowid texts }

/-- A statement of `prune_record`, on these tables. -/
def prune (sysId : String) (stamp : DateTime) : PruneStatement → RecordTables
  | .setPrunedAt => { tables with
      records := tables.records.update (fun row => row.sysId = sysId) fun row =>
        ({ row.columns with prunedAt := some stamp }, row.vaultProvenance) }
  | .deleteDerived .ftsRecords =>
    match tables.records.get sysId with
    | some row => tables.dropTexts row.rowid
    | none => tables
  | .deleteDerived _ => tables
  | .deleteRecord => { tables with records := tables.records.delete sysId }

end RecordTables

/-! ## The functions of the store -/

/-- What the statements of one upsert are answered with. -/
structure UpsertAnswers where
  write : Outcome String
  read : Outcome String
  drop : Outcome String
  add : Outcome String
  choice : RowidChoice

section

variable (s : Session RecordTables)

/-- `upsert_record_with_tags`. -/
def upsertRecordWithTags (io : UpsertAnswers) (version : RecordVersion) :
    Except String Unit × Session RecordTables :=
  Session.andThen (s.statement io.write fun tables => .ok (tables.write io.choice version))
    fun _ s =>
  Session.andThen (s.query io.read fun tables => tables.rowid version.sysId) fun rowid s =>
  Session.andThen (s.statement io.drop fun tables => .ok (tables.dropTexts rowid)) fun _ s =>
  s.statement io.add fun tables => tables.addTexts rowid version.texts

/-- `try_for_each` of `upsert_records`. -/
def upsertEach : List (UpsertAnswers × RecordVersion) → Session RecordTables →
    Except String Unit × Session RecordTables
  | [], s => (.ok (), s)
  | (io, version) :: entries, s =>
    Session.andThen (upsertRecordWithTags s io version) fun _ s => upsertEach entries s

/-- What the statements of a transaction are answered with. -/
structure TransactionIO where
  opening : Outcome String
  closing : Outcome String
  rollback : Outcome String

/-- `upsert_records`. -/
def upsertRecords (io : TransactionIO) (entries : List (UpsertAnswers × RecordVersion)) :
    Except String Unit × Session RecordTables :=
  if entries = [] then (.ok (), s)
  else
    Session.andThen (s.begin io.opening "cannot start a transaction within a transaction") fun _ s =>
      match upsertEach entries s with
      | (.ok (), s) => s.commit io.closing
      | (.error err, s) => (.error err, s.rollback io.rollback)

/-- `tombstone_record`. -/
def tombstoneRecord (outcome : Outcome String) (sysId : String) (stamp : DateTime) :
    Except String Unit × Session RecordTables :=
  s.statement outcome fun tables => .ok { tables with
    records := tables.records.update (fun row => row.sysId = sysId) fun row =>
      ({ row.columns with
        inScope := false
        tombstonedAt := some stamp
        lastSeenAt := stamp }, row.vaultProvenance) }

/-- `prune_record`. -/
def pruneStoredRecord (outcome : PruneStatement → Outcome String) (sysId : String)
    (stamp : DateTime) : Except String Unit × Session RecordTables :=
  Session.statements (pruneStatements.map fun statement =>
    (outcome statement, fun tables => .ok (tables.prune sysId stamp statement))) s

end

/-! ## What an upsert comes to -/

namespace RecordTables

variable (tables : RecordTables)

/-- An upsert as a whole. -/
def upserted (choice : RowidChoice) (version : RecordVersion) : RecordTables :=
  let written := tables.write choice version
  match written.records.get version.sysId with
  | some row => { written with fts := (written.fts.delete row.rowid).put row.rowid version.texts }
  | none => written

variable {tables} {choice : RowidChoice} {version : RecordVersion}

/-- **What an upsert does to the two tables.** -/
theorem upserted_spec (tables : RecordTables) (choice : RowidChoice) (version : RecordVersion) :
    ∃ written, written ∈ (tables.write choice version).records.rows ∧
      written.sysId = version.sysId ∧
      (tables.write choice version).records.get version.sysId = some written ∧
      tables.upserted choice version = { tables.write choice version with
        fts := (tables.fts.delete written.rowid).put written.rowid version.texts } := by
  obtain ⟨written, hid, -, hrows, -, -⟩ := RecordsTable.upsert_spec tables.records choice version
  have hmem : written ∈ (tables.write choice version).records.rows := (hrows written).mpr (.inl rfl)
  have hget : (tables.write choice version).records.get version.sysId = some written :=
    RecordsTable.get_eq_some.mpr ⟨hmem, hid⟩
  refine ⟨written, hmem, hid, hget, ?_⟩
  simp only [upserted, hget]
  rfl

end RecordTables

variable {io : UpsertAnswers}

/-- **One upsert**, all of whose statements run. -/
theorem upsert_ok (tables : RecordTables) (saved : List RecordTables) (version : RecordVersion)
    (hwrite : io.write = .ran) (hread : io.read = .ran)
    (hdrop : io.drop = .ran) (hadd : io.add = .ran) :
    upsertRecordWithTags ⟨tables, saved⟩ io version =
      (.ok (), ⟨tables.upserted io.choice version, saved⟩) := by
  obtain ⟨written, -, -, hget, hupserted⟩ := RecordTables.upserted_spec tables io.choice version
  have hrowid : (tables.write io.choice version).rowid version.sysId = .ok written.rowid := by
    rw [RecordTables.rowid, hget]
  have hadds : ((tables.write io.choice version).dropTexts written.rowid).addTexts written.rowid
      version.texts = .ok (tables.upserted io.choice version) := by
    rw [hupserted, RecordTables.addTexts, if_neg]
    · rfl
    · simp [RecordTables.dropTexts]
  simp only [upsertRecordWithTags, Session.statement, Session.query, Session.andThen, hwrite, hread,
    hdrop, hadd, hrowid, hadds]

/-- An upsert that has succeeded is done, in a transaction or by itself. -/
theorem upsert_of_ok {s : Session RecordTables} {version : RecordVersion}
    (h : (upsertRecordWithTags s io version).1 = .ok ()) :
    (upsertRecordWithTags s io version).2 = ⟨s.tables.upserted io.choice version, s.saved⟩ := by
  obtain ⟨_, hwritten, hrest⟩ := andThen_ok h
  obtain ⟨hwrite, _, -, hrun⟩ := statement_ok hwritten
  rw [hrun] at hrest
  obtain ⟨rowid, hqueried, hrest⟩ := andThen_ok hrest
  obtain ⟨hread, -, hrun⟩ := query_ok hqueried
  rw [hrun] at hrest
  obtain ⟨_, hdropped, hrest⟩ := andThen_ok hrest
  obtain ⟨hdrop, _, -, hrun⟩ := statement_ok hdropped
  rw [hrun] at hrest
  rw [upsert_ok s.tables s.saved version hwrite hread hdrop (statement_ok hrest).1]

/-- **One upsert in a transaction** is done, or it has failed with the transaction open still, or
undone. -/
theorem upsert_within (tables before : RecordTables) (io : UpsertAnswers) (version : RecordVersion) :
    upsertRecordWithTags ⟨tables, [before]⟩ io version =
        (.ok (), ⟨tables.upserted io.choice version, [before]⟩) ∨
      ∃ err, (∃ tables', upsertRecordWithTags ⟨tables, [before]⟩ io version =
          (.error err, ⟨tables', [before]⟩)) ∨
        upsertRecordWithTags ⟨tables, [before]⟩ io version = (.error err, ⟨before, []⟩) := by
  have hwithin : Session.Within before (upsertRecordWithTags ⟨tables, [before]⟩ io version) :=
    .andThen (.statement rfl _ _) fun _ _ hs => .andThen (.query hs _ _) fun _ _ hs =>
      .andThen (.statement hs _ _) fun _ _ hs => .statement hs _ _
  cases hrun : upsertRecordWithTags ⟨tables, [before]⟩ io version with
  | mk result after =>
    rw [hrun] at hwithin
    cases result with
    | ok _ =>
      have hafter := upsert_of_ok (congrArg Prod.fst hrun)
      rw [hrun] at hafter
      exact .inl (congrArg _ hafter)
    | error err =>
      rcases hwithin with hsaved | ⟨-, hafter⟩
      · exact .inr ⟨err, .inl ⟨after.tables, by rw [← hsaved]⟩⟩
      · exact .inr ⟨err, .inr (congrArg _ hafter)⟩

/-- The upserts of a batch as a whole. -/
def RecordTables.upsertedAll (tables : RecordTables) (entries : List (UpsertAnswers × RecordVersion)) :
    RecordTables :=
  entries.foldl (fun tables entry => tables.upserted entry.1.choice entry.2) tables

theorem upsertEach_within (entries : List (UpsertAnswers × RecordVersion))
    (tables before : RecordTables) :
    upsertEach entries ⟨tables, [before]⟩ = (.ok (), ⟨tables.upsertedAll entries, [before]⟩) ∨
      ∃ err, (∃ tables', upsertEach entries ⟨tables, [before]⟩ =
          (.error err, ⟨tables', [before]⟩)) ∨
        upsertEach entries ⟨tables, [before]⟩ = (.error err, ⟨before, []⟩) := by
  induction entries generalizing tables with
  | nil => exact .inl rfl
  | cons entry entries ih =>
    obtain ⟨io, version⟩ := entry
    rcases upsert_within tables before io version with hrun | ⟨err, ⟨tables', hrun⟩ | hrun⟩
    · rw [upsertEach, hrun]
      exact ih (tables.upserted io.choice version)
    · rw [upsertEach, hrun]
      exact .inr ⟨err, .inl ⟨tables', rfl⟩⟩
    · rw [upsertEach, hrun]
      exact .inr ⟨err, .inr rfl⟩

/-- **A batch outside a transaction** is done as a whole or not at all, unless its transaction is left
open. -/
theorem upsertRecords_cases (tables : RecordTables) (io : TransactionIO)
    (entries : List (UpsertAnswers × RecordVersion)) :
    upsertRecords ⟨tables, []⟩ io entries = (.ok (), ⟨tables.upsertedAll entries, []⟩) ∨
      ∃ err, upsertRecords ⟨tables, []⟩ io entries = (.error err, ⟨tables, []⟩) ∨
        ((∃ err', io.closing = .failed err' ∨ io.rollback = .failed err') ∧
          ∃ tables', upsertRecords ⟨tables, []⟩ io entries = (.error err, ⟨tables', [tables]⟩)) := by
  unfold upsertRecords
  by_cases hempty : entries = []
  · subst hempty
    exact .inl (if_pos rfl)
  · rw [if_neg hempty]
    cases hopen : io.opening with
    | failed err => exact .inr ⟨err, .inl rfl⟩
    | undone err => exact .inr ⟨err, .inl rfl⟩
    | ran =>
      have hbegin : Session.begin ⟨tables, []⟩ (.ran : Outcome String)
          "cannot start a transaction within a transaction" = (.ok (), ⟨tables, [tables]⟩) := rfl
      rw [hbegin]
      simp only [Session.andThen]
      rcases upsertEach_within entries tables tables with hrun | ⟨err, ⟨tables', hrun⟩ | hrun⟩
      · rw [hrun]
        cases hclose : io.closing with
        | failed err => exact .inr ⟨err, .inr ⟨⟨err, .inl rfl⟩, _, rfl⟩⟩
        | undone err => exact .inr ⟨err, .inl rfl⟩
        | ran => exact .inl rfl
      · rw [hrun]
        cases hroll : io.rollback with
        | failed err' => exact .inr ⟨err, .inr ⟨⟨err', .inr rfl⟩, tables', rfl⟩⟩
        | undone err' => exact .inr ⟨err, .inl rfl⟩
        | ran => exact .inr ⟨err, .inl rfl⟩
      · rw [hrun]
        cases hroll : io.rollback with
        | failed err' => exact .inr ⟨err, .inl rfl⟩
        | undone err' => exact .inr ⟨err, .inl rfl⟩
        | ran => exact .inr ⟨err, .inl rfl⟩

/-- A batch that has succeeded has run in a transaction of its own. -/
theorem upsertRecords_of_ok {s : Session RecordTables} {io : TransactionIO}
    {entries : List (UpsertAnswers × RecordVersion)} (hsome : entries ≠ [])
    (h : (upsertRecords s io entries).1 = .ok ()) :
    (upsertRecords s io entries).2 = ⟨s.tables.upsertedAll entries, []⟩ := by
  obtain ⟨tables, saved⟩ := s
  cases saved with
  | nil =>
    rcases upsertRecords_cases tables io entries with hrun | ⟨err, hrun | ⟨-, after, hrun⟩⟩
    · rw [hrun]
    · rw [hrun] at h
      cases h
    · rw [hrun] at h
      cases h
  | cons before saved =>
    unfold upsertRecords at h
    rw [if_neg hsome] at h
    cases hopen : io.opening with
    | failed err => simp [hopen, Session.begin, Session.andThen] at h
    | undone err => simp [hopen, Session.begin, Session.andThen] at h
    | ran => simp [hopen, Session.begin, Session.andThen] at h

end SnowAgent.Core
