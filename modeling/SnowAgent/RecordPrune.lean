import SnowAgent.RecordCache

/-! # Pruning a record

A record is pruned by its `sys_id`: its row, the rows derived of it and its Markdown file
are removed.  The row is found by the `sys_id`; the file is that of the record which is
preferred among those of the row's number.  Twelve statements delete the rows, each a
transaction of its own, while the file is set aside.
-/
namespace SnowAgent.Core

open Json Text

/-! ## What is pruned -/

/-- The tables of rows that are derived of a record. -/
inductive DerivedTable where
  | catalogProductsComplete
  | catalogProductsNarrowed
  | ftsRecords
  | relationships
  | recordTags
  | recordKeywords
  | recordAliases
  | knowledgeArticles
  | knowledgeArticleEmbeddings
  | kbArticleTerms
  | kbLocalFileState
  | businessApplications
  | businessApplicationFields
  | businessApplicationServers
  | businessApplicationServerInventoryHealth
deriving DecidableEq

/-- A row derived of a record and, for a relationship or a server of an application, of a
second one. -/
structure DerivedRow where
  table : DerivedTable
  sysId : String
  other : Option String
  content : Value

/-- Whether a row is derived of a record. -/
def DerivedRow.isOf (sysId : String) (row : DerivedRow) : Prop :=
  row.sysId = sysId ∨ row.other = some sysId

instance (sysId : String) (row : DerivedRow) : Decidable (row.isOf sysId) :=
  inferInstanceAs (Decidable (_ ∨ _))

/-- The rows of the cache, and the files of the vault by their path in it. -/
structure Shelf where
  records : RecordTable
  /-- The column `pruned_at`, by `sys_id`. -/
  prunedAt : Table String ℤ
  derived : List DerivedRow
  files : Table String String

/-- `DELETE FROM records WHERE sys_id = ?1`. -/
def RecordTable.delete (table : RecordTable) (sysId : String) : RecordTable where
  rows := table.rows.filter fun row => row.sysId ≠ sysId
  keys := (List.filter_sublist.map _).nodup table.keys

/-- A statement of `prune_record` of the store.  One that deletes from a table that others refer
to deletes what refers to the row there as well. -/
inductive PruneStatement where
  | deleteDerived (table : DerivedTable)
  | setPrunedAt
  | deleteRecord
deriving DecidableEq

/-- The tables a statement deletes from, by itself or by `ON DELETE CASCADE`. -/
def PruneStatement.tables : PruneStatement → List DerivedTable
  | .deleteDerived .knowledgeArticles => [.knowledgeArticles, .knowledgeArticleEmbeddings]
  | .deleteDerived table => [table]
  | .setPrunedAt => []
  | .deleteRecord => [.businessApplications, .businessApplicationFields,
      .businessApplicationServers, .businessApplicationServerInventoryHealth]

/-- The statements of `prune_record` of the store, with those of
`delete_catalog_product_projections`. -/
def pruneStatements : List PruneStatement :=
  [.deleteDerived .catalogProductsComplete, .deleteDerived .catalogProductsNarrowed, .setPrunedAt,
    .deleteDerived .ftsRecords, .deleteDerived .relationships, .deleteDerived .recordTags,
    .deleteDerived .recordKeywords, .deleteDerived .recordAliases,
    .deleteDerived .knowledgeArticles, .deleteDerived .kbArticleTerms,
    .deleteDerived .kbLocalFileState, .deleteRecord]

section Statements

variable (sysId : String) (now : ℤ)

/-- The rows without those derived of a record in some tables. -/
def withoutDerived (tables : List DerivedTable) (rows : List DerivedRow) : List DerivedRow :=
  rows.filter fun row => ¬ (row.isOf sysId ∧ row.table ∈ tables)

/-- What a statement does. -/
def PruneStatement.run (shelf : Shelf) (statement : PruneStatement) : Shelf where
  records := if statement = .deleteRecord then shelf.records.delete sysId else shelf.records
  prunedAt :=
    if statement = .deleteRecord then shelf.prunedAt.delete sysId
    else if statement = .setPrunedAt ∧ (shelf.records.getRecordBySysId sysId).isSome then
      shelf.prunedAt.put sysId now
    else shelf.prunedAt
  derived := withoutDerived sysId statement.tables shelf.derived
  files := shelf.files

end Statements

/-- What the database and the file system answer. -/
structure PruneIO where
  readRow : Except String Unit
  readPrimary : Except String Unit
  stage : Except String Unit
  statement : PruneStatement → Except String Unit
  removeStaged : Except String Unit
  restore : Except String Unit

/-- What is left open: how the Markdown of a row of some type is read, and the record that is
made of a row alone. -/
structure PruneLib where
  parseMarkdown : ResourceType → String → Option CachedRecord
  /-- `materialize_record_from_json`. -/
  materializeRecordFromJson : RecordRow → CachedRecord

section Functions

variable (lib : PruneLib) (io : PruneIO)

/-- `materialize_record`. -/
def PruneLib.materializeRecord (files : Table String String) (row : RecordRow) : CachedRecord :=
  ((row.filePath.bind files.row).bind (lib.parseMarkdown row.resourceType)).getD
    (lib.materializeRecordFromJson row)

/-- The path a file is set aside under. -/
def stagedPath (path : String) : String := path ++ ".pruning"

/-- `stage_markdown_for_prune`: the path the file was set aside from, if there was one. -/
def stageMarkdownForPrune (shelf : Shelf) (path : String) :
    Except String (Option String) × Shelf :=
  match shelf.files.row path with
  | none => (.ok none, shelf)
  | some text =>
    match io.stage with
    | .error err => (.error err, shelf)
    | .ok () => (.ok (some path),
        { shelf with files := (shelf.files.delete path).put (stagedPath path) text })

/-- `restore_staged_markdown`. -/
def restoreStagedMarkdown (shelf : Shelf) : Option String → Except String Unit × Shelf
  | none => (.ok (), shelf)
  | some path =>
    match shelf.files.row (stagedPath path) with
    | none => (.ok (), shelf)
    | some text =>
      match io.restore with
      | .error err => (.error err, shelf)
      | .ok () => (.ok (),
          { shelf with files := (shelf.files.delete (stagedPath path)).put path text })

/-- Statements, one after the other, up to the first that fails. -/
def runStatements (sysId : String) (now : ℤ) :
    List PruneStatement → Shelf → Except String Unit × Shelf
  | [], shelf => (.ok (), shelf)
  | statement :: rest, shelf =>
    match io.statement statement with
    | .error err => (.error err, shelf)
    | .ok () => runStatements sysId now rest (statement.run sysId now shelf)

/-- What follows the statements: the file that was set aside is removed, or put back. -/
def settleStaged (staged : Option String) : Except String Unit × Shelf → Except String Unit × Shelf
  | (.ok (), shelf) =>
    match staged with
    | none => (.ok (), shelf)
    | some path =>
      match io.removeStaged with
      | .error err => (.error err, shelf)
      | .ok () => (.ok (), { shelf with files := shelf.files.delete (stagedPath path) })
  | (.error err, shelf) =>
    match restoreStagedMarkdown io shelf staged with
    | (.error err, shelf) => (.error err, shelf)
    | (.ok (), shelf) => (.error err, shelf)

/-- Prunes a record that is found, given the path of the file. -/
def pruneWithFile (shelf : Shelf) (sysId : String) (now : DateTime) (path : String) :
    Except String Unit × Shelf :=
  match stageMarkdownForPrune io shelf path with
  | (.error err, shelf) => (.error err, shelf)
  | (.ok staged, shelf) =>
    settleStaged io staged (runStatements io sysId (timestampSeconds now) pruneStatements shelf)

/-- `prune_record`. -/
def pruneRecord (shelf : Shelf) (sysId : String) (now : DateTime) : Except String Unit × Shelf :=
  match io.readRow with
  | .error err => (.error err, shelf)
  | .ok () =>
    match shelf.records.getRecordBySysId sysId with
    | none => (.ok (), shelf)
    | some row =>
      match io.readPrimary with
      | .error err => (.error err, shelf)
      | .ok () =>
        match shelf.records.getPrimaryRecordByNumber row.number with
        | none => (.ok (), shelf)
        | some primary =>
          pruneWithFile io shelf sysId now
            (recordPath (lib.materializeRecord shelf.files primary))

end Functions

/-! ## What pruning is for -/

/-- Exactly one record is gone: its row, the rows derived of it and its file, and nothing of the
other records. -/
structure Removed (sysId : String) (before after : Shelf) : Prop where
  row : ∀ row ∈ after.records.rows, row.sysId ≠ sysId
  derived : ∀ row ∈ after.derived, ¬ row.isOf sysId
  file : ∀ row ∈ before.records.rows, row.sysId = sysId →
    ∀ path, row.filePath = some path → after.files.row path = none
  others : ∀ row : RecordRow, row.sysId ≠ sysId →
    (row ∈ after.records.rows ↔ row ∈ before.records.rows)
  othersPruned : ∀ other, other ≠ sysId → after.prunedAt.row other = before.prunedAt.row other
  othersDerived : ∀ row : DerivedRow, ¬ row.isOf sysId →
    (row ∈ after.derived ↔ row ∈ before.derived)
  othersFiles : ∀ row ∈ before.records.rows, row.sysId ≠ sysId →
    ∀ path, row.filePath = some path → after.files.row path = before.files.row path

/-- **All or nothing**: the record is removed and this is reported, or an error is reported and
everything is as it was. -/
def RemovedOrUntouched (sysId : String) (before : Shelf) : Except String Unit × Shelf → Prop
  | (.ok (), after) => Removed sysId before after
  | (.error _, after) => after = before

/-! ## When it is -/

/-- A statement finds nothing to do. -/
def PruneStatement.Idle (shelf : Shelf) (sysId : String) (now : ℤ) (statement : PruneStatement) :
    Prop :=
  (∀ row ∈ shelf.derived, row.table ∈ statement.tables → ¬ row.isOf sysId) ∧
    (statement = .setPrunedAt → shelf.prunedAt.row sysId = some now)

/-- The file that is removed is the record's own, and no other record's. -/
structure OwnFile (shelf : Shelf) (sysId path : String) : Prop where
  own : ∀ row ∈ shelf.records.rows, row.sysId = sysId → ∀ file, row.filePath = some file →
    file = path ∨ shelf.files.row file = none ∨
      (file = stagedPath path ∧ shelf.files.row path ≠ none)
  others : ∀ row ∈ shelf.records.rows, row.sysId ≠ sysId → ∀ file, row.filePath = some file →
    shelf.files.row path ≠ none → file = path ∨ file = stagedPath path → shelf.files.row file = none

section Condition

variable (io : PruneIO) (shelf : Shelf) (sysId : String) (now : ℤ) (path : String)

/-- All succeeds, and the file is the record's. -/
structure Succeeds : Prop where
  statements : ∀ statement ∈ pruneStatements, io.statement statement = .ok ()
  removed : shelf.files.row path ≠ none → io.removeStaged = .ok ()
  ownFile : OwnFile shelf sysId path

/-- A statement fails before which nothing was deleted, and the file is put back. -/
structure FailsEarly : Prop where
  fails : ∃ done statement rest err, pruneStatements = done ++ statement :: rest ∧
    (∀ earlier ∈ done, io.statement earlier = .ok () ∧ earlier.Idle shelf sysId now) ∧
      io.statement statement = .error err
  restored : shelf.files.row path ≠ none →
    io.restore = .ok () ∧ shelf.files.row (stagedPath path) = none

/-- When a record that is found is pruned as it should be. -/
def PrunesFile : Prop :=
  shelf.files.row path ≠ none ∧ (∃ err, io.stage = .error err) ∨
    (shelf.files.row path = none ∨ io.stage = .ok ()) ∧
      (Succeeds io shelf sysId path ∨ FailsEarly io shelf sysId now path)

end Condition

/-- When a record is pruned as it should be. -/
def Prunes (lib : PruneLib) (io : PruneIO) (shelf : Shelf) (sysId : String) (now : DateTime) :
    Prop :=
  (∃ err, io.readRow = .error err) ∨
    io.readRow = .ok () ∧
      ((∀ row ∈ shelf.records.rows, row.sysId ≠ sysId) ∧
          (∀ row ∈ shelf.derived, ¬ row.isOf sysId) ∨
        ∃ row ∈ shelf.records.rows, row.sysId = sysId ∧
          ((∃ err, io.readPrimary = .error err) ∨
            io.readPrimary = .ok () ∧ ∃ primary, First shelf.records row.number primary ∧
              PrunesFile io shelf sysId (timestampSeconds now)
                (recordPath (lib.materializeRecord shelf.files primary))))

/-! ## The preferred row -/

/-- A row bears a number, so some row of that number comes first. -/
theorem exists_primary {table : RecordTable} {row : RecordRow} (hrow : row ∈ table.rows) :
    ∃ primary, table.getPrimaryRecordByNumber row.number = some primary := by
  cases h : table.getPrimaryRecordByNumber row.number with
  | some primary => exact ⟨primary, rfl⟩
  | none =>
    have hnil := List.argmin_eq_none.mp h
    have hmem : row ∈ table.rows.filter fun other => other.number = row.number :=
      List.mem_filter.mpr ⟨hrow, by simp⟩
    rw [hnil] at hmem
    exact absurd hmem List.not_mem_nil

/-! ## The statements -/

variable {done : List PruneStatement}

section Statements

variable {io : PruneIO} {shelf : Shelf} {sysId : String} {now : ℤ}

variable {tables : List DerivedTable} {rows : List DerivedRow}

theorem mem_withoutDerived {row : DerivedRow} :
    row ∈ withoutDerived sysId tables rows ↔ row ∈ rows ∧ ¬ (row.isOf sysId ∧ row.table ∈ tables) := by
  rw [withoutDerived, List.mem_filter, decide_eq_true_iff]

theorem withoutDerived_withoutDerived (tables tables' : List DerivedTable)
    (rows : List DerivedRow) :
    withoutDerived sysId tables' (withoutDerived sysId tables rows) =
      withoutDerived sysId (tables ++ tables') rows := by
  rw [withoutDerived, withoutDerived, withoutDerived, List.filter_filter]
  congr 1
  funext row
  by_cases hof : row.isOf sysId
  · by_cases htable : row.table ∈ tables <;> simp [hof, htable]
  · simp [hof]

theorem withoutDerived_eq_self :
    withoutDerived sysId tables rows = rows ↔
      ∀ row ∈ rows, row.table ∈ tables → ¬ row.isOf sysId := by
  rw [withoutDerived, List.filter_eq_self]
  refine forall₂_congr fun row _ => ?_
  rw [decide_eq_true_iff]
  exact ⟨fun h ht ho => h ⟨ho, ht⟩, fun h hboth => h hboth.2 hboth.1⟩

/-- Statements that are answered with success are all run. -/
theorem runStatements_append {done rest : List PruneStatement}
    (hdone : ∀ earlier ∈ done, io.statement earlier = .ok ()) :
    runStatements io sysId now (done ++ rest) shelf =
      runStatements io sysId now rest (done.foldl (PruneStatement.run sysId now) shelf) := by
  induction done generalizing shelf with
  | nil => rfl
  | cons statement done ih =>
    obtain ⟨hfirst, hrest⟩ := List.forall_mem_cons.mp hdone
    rw [List.cons_append, runStatements, hfirst]
    exact ih hrest

/-- All statements succeed, or there is a first one that fails. -/
theorem statements_or (io : PruneIO) (statements : List PruneStatement) :
    (∀ statement ∈ statements, io.statement statement = .ok ()) ∨
      ∃ done statement rest err, statements = done ++ statement :: rest ∧
        (∀ earlier ∈ done, io.statement earlier = .ok ()) ∧ io.statement statement = .error err := by
  induction statements with
  | nil => exact .inl fun _ h => absurd h List.not_mem_nil
  | cons statement statements ih =>
    cases hfirst : io.statement statement with
    | error err => exact .inr ⟨[], statement, statements, err, rfl, by simp, hfirst⟩
    | ok _ =>
      rcases ih with hall | ⟨done, failed, rest, err, rfl, hdone, hfailed⟩
      · exact .inl (List.forall_mem_cons.mpr ⟨hfirst, hall⟩)
      · exact .inr ⟨statement :: done, failed, rest, err, rfl,
          List.forall_mem_cons.mpr ⟨hfirst, hdone⟩, hfailed⟩

/-- What statements other than the last one do together. -/
theorem foldl_run (hdone : .deleteRecord ∉ done)
    (hrow : (shelf.records.getRecordBySysId sysId).isSome) :
    done.foldl (PruneStatement.run sysId now) shelf =
      { shelf with
        prunedAt := if .setPrunedAt ∈ done then shelf.prunedAt.put sysId now else shelf.prunedAt
        derived := withoutDerived sysId (done.flatMap PruneStatement.tables) shelf.derived } := by
  induction done generalizing shelf with
  | nil => simp [withoutDerived]
  | cons statement done ih =>
    obtain ⟨hne, hrest⟩ := not_or.mp (mt List.mem_cons.mpr hdone)
    rw [List.foldl_cons, ih hrest (by simpa [PruneStatement.run, Ne.symm hne] using hrow)]
    have hput : ∀ table : Table String ℤ,
        (table.put sysId now).put sysId now = table.put sysId now := fun table => by
      simp [Table.put]
    have hderived : withoutDerived sysId _ (withoutDerived sysId _ shelf.derived) = _ :=
      withoutDerived_withoutDerived statement.tables (done.flatMap PruneStatement.tables) _
    by_cases hset : statement = .setPrunedAt
    · subst hset
      simp [PruneStatement.run, hrow, hput, hderived]
    · simp [PruneStatement.run, Ne.symm hne, hset, Ne.symm hset, hderived]

/-- Statements other than the last one change nothing exactly when each finds nothing to do. -/
theorem foldl_run_eq_self_iff (hdone : .deleteRecord ∉ done)
    (hrow : (shelf.records.getRecordBySysId sysId).isSome) :
    done.foldl (PruneStatement.run sysId now) shelf = shelf ↔
      ∀ earlier ∈ done, earlier.Idle shelf sysId now := by
  have hput : shelf.prunedAt.put sysId now = shelf.prunedAt ↔
      shelf.prunedAt.row sysId = some now := by
    constructor
    · intro h
      rw [← h]
      exact Table.row_put_self _ _ _
    · intro h
      rw [Table.put, ← h, Function.update_eq_self]
  have hshelf : done.foldl (PruneStatement.run sysId now) shelf = shelf ↔
      (.setPrunedAt ∈ done → shelf.prunedAt.row sysId = some now) ∧
        ∀ row ∈ shelf.derived, row.table ∈ done.flatMap PruneStatement.tables →
          ¬ row.isOf sysId := by
    rw [foldl_run hdone hrow, ← withoutDerived_eq_self, ← hput]
    obtain ⟨records, prunedAt, derived, files⟩ := shelf
    rw [Shelf.mk.injEq]
    by_cases hset : .setPrunedAt ∈ done
    · simp [hset]
    · simp [hset]
  rw [hshelf]
  constructor
  · rintro ⟨hset, hderived⟩ earlier hearlier
    refine ⟨fun row hmem htable => ?_, fun heq => hset (heq ▸ hearlier)⟩
    exact hderived row hmem (List.mem_flatMap.mpr ⟨earlier, hearlier, htable⟩)
  · intro hidle
    refine ⟨fun hset => (hidle _ hset).2 rfl, fun row hmem htable => ?_⟩
    obtain ⟨earlier, hearlier, hin⟩ := List.mem_flatMap.mp htable
    exact (hidle earlier hearlier).1 row hmem hin

/-- The statements do not look at the files. -/
theorem foldl_run_files (done : List PruneStatement) (files : Table String String) :
    done.foldl (PruneStatement.run sysId now) { shelf with files := files } =
      { done.foldl (PruneStatement.run sysId now) shelf with files := files } := by
  induction done generalizing shelf with
  | nil => rfl
  | cons statement done ih =>
    rw [List.foldl_cons, List.foldl_cons, ← ih]
    rfl

theorem foldl_run_keeps_files (done : List PruneStatement) :
    (done.foldl (PruneStatement.run sysId now) shelf).files = shelf.files := by
  induction done generalizing shelf with
  | nil => rfl
  | cons statement done ih => exact ih

variable {files : Table String String}

theorem with_files_eq_iff {ran : Shelf} (hran : ran.files = shelf.files) :
    { ran with files := files } = shelf ↔ ran = shelf ∧ files = shelf.files := by
  obtain ⟨records, prunedAt, derived, files'⟩ := ran
  obtain ⟨records', prunedAt', derived', files''⟩ := shelf
  cases hran
  simp only [Shelf.mk.injEq]
  tauto

/-- The rows once all statements are run. -/
def Shelf.purged (shelf : Shelf) (sysId : String) (now : ℤ) : Shelf :=
  pruneStatements.foldl (PruneStatement.run sysId now) shelf

theorem purged_eq (hrow : (shelf.records.getRecordBySysId sysId).isSome) :
    shelf.purged sysId now =
      { records := shelf.records.delete sysId
        prunedAt := (shelf.prunedAt.put sysId now).delete sysId
        derived := withoutDerived sysId (pruneStatements.flatMap PruneStatement.tables) shelf.derived
        files := shelf.files } := by
  have hsplit : pruneStatements = pruneStatements.dropLast ++ [.deleteRecord] := rfl
  have hmem : PruneStatement.setPrunedAt ∈ pruneStatements.dropLast := by decide
  rw [Shelf.purged, hsplit, List.foldl_append, foldl_run (by decide) hrow, if_pos hmem]
  simp only [List.foldl_cons, List.foldl_nil, PruneStatement.run, if_true,
    withoutDerived_withoutDerived, List.flatMap_append, List.flatMap_cons, List.flatMap_nil,
    List.append_nil]

/-- The statements delete from every table. -/
theorem mem_pruned_tables (table : DerivedTable) :
    table ∈ pruneStatements.flatMap PruneStatement.tables := by
  cases table <;> decide

/-- Once all statements are run nothing but the files is left to ask about. -/
theorem removed_purged_iff (hrow : (shelf.records.getRecordBySysId sysId).isSome) :
    Removed sysId shelf { shelf.purged sysId now with files := files } ↔
      (∀ row ∈ shelf.records.rows, row.sysId = sysId →
        ∀ path, row.filePath = some path → files.row path = none) ∧
      ∀ row ∈ shelf.records.rows, row.sysId ≠ sysId →
        ∀ path, row.filePath = some path → files.row path = shelf.files.row path := by
  rw [purged_eq hrow]
  constructor
  · intro h
    exact ⟨h.file, h.othersFiles⟩
  · rintro ⟨hfile, hothers⟩
    refine ⟨?_, ?_, hfile, ?_, ?_, ?_, hothers⟩
    · intro row hmem
      exact of_decide_eq_true (List.mem_filter.mp hmem).2
    · intro row hmem hof
      exact (mem_withoutDerived.mp hmem).2 ⟨hof, mem_pruned_tables row.table⟩
    · intro row hne
      show row ∈ shelf.records.rows.filter _ ↔ _
      rw [List.mem_filter, decide_eq_true_iff]
      exact and_iff_left hne
    · intro other hne
      rw [Table.row_delete_of_ne _ hne, Table.row_put_of_ne _ _ hne]
    · intro row hof
      rw [mem_withoutDerived]
      exact and_iff_left fun h => hof h.1

end Statements

/-! ## The file -/

variable {text : String} {statement : PruneStatement}

section Files

variable {io : PruneIO} {shelf : Shelf} {sysId path : String} {now : ℤ}

theorem stagedPath_ne (path : String) : stagedPath path ≠ path := by
  intro h
  have hlength := congrArg String.length h
  rw [stagedPath, String.length_append] at hlength
  have : (".pruning" : String).length = 8 := rfl
  omega

/-- The shelf while the file is set aside. -/
def Shelf.staged (shelf : Shelf) (path text : String) : Shelf :=
  { shelf with files := (shelf.files.delete path).put (stagedPath path) text }

/-- Where no file is set aside, what is left is what the statements leave. -/
theorem settle_none (result : Except String Unit × Shelf) :
    settleStaged io none result = result := by
  rcases result with ⟨_ | _, _⟩ <;> rfl

/-- A file that was set aside and put back is as it was, unless it took the place of another. -/
theorem restored_files_iff (hfile : shelf.files.row path = some text) :
    ((((shelf.files.delete path).put (stagedPath path) text).delete (stagedPath path)).put path
        text = shelf.files) ↔ shelf.files.row (stagedPath path) = none := by
  constructor
  · intro h
    rw [← h, Table.row_put_of_ne _ _ (stagedPath_ne path), Table.row_delete_self]
  · intro h
    have hrows : ∀ files files' : Table String String,
        (∀ q, files.row q = files'.row q) → files = files' := fun files files' hq => by
      obtain ⟨row⟩ := files
      obtain ⟨row'⟩ := files'
      exact congrArg Table.mk (funext hq)
    refine hrows _ _ fun q => ?_
    by_cases hpath : q = path
    · rw [hpath, Table.row_put_self, hfile]
    · rw [Table.row_put_of_ne _ _ hpath]
      by_cases hstaged : q = stagedPath path
      · rw [hstaged, Table.row_delete_self, h]
      · rw [Table.row_delete_of_ne _ hstaged, Table.row_put_of_ne _ _ hstaged,
          Table.row_delete_of_ne _ hpath]

/-- A file that was set aside and removed leaves no file at either path. -/
theorem removed_files_row (q : String) :
    (((shelf.files.delete path).put (stagedPath path) text).delete (stagedPath path)).row q =
      if q = path ∨ q = stagedPath path then none else shelf.files.row q := by
  by_cases hstaged : q = stagedPath path
  · rw [hstaged, Table.row_delete_self, if_pos (.inr rfl)]
  · rw [Table.row_delete_of_ne _ hstaged, Table.row_put_of_ne _ _ hstaged]
    by_cases hpath : q = path
    · rw [hpath, Table.row_delete_self, if_pos (.inl rfl)]
    · rw [Table.row_delete_of_ne _ hpath, if_neg (by simp [hpath, hstaged])]

/-- Without a file at the path, the record is removed when it has no file. -/
theorem removed_unstaged_iff (hrow : (shelf.records.getRecordBySysId sysId).isSome)
    (hfile : shelf.files.row path = none) :
    Removed sysId shelf (shelf.purged sysId now) ↔ OwnFile shelf sysId path := by
  have hfiles : (shelf.purged sysId now) = { shelf.purged sysId now with files := shelf.files } := by
    rw [purged_eq hrow]
  rw [hfiles, removed_purged_iff hrow]
  constructor
  · rintro ⟨hown, -⟩
    refine ⟨fun row hmem hid file hpath => .inr (.inl (hown row hmem hid file hpath)), ?_⟩
    intro row _ _ file _ hsome
    exact absurd hfile hsome
  · rintro ⟨hown, -⟩
    refine ⟨fun row hmem hid file hpath => ?_, fun _ _ _ _ _ => rfl⟩
    rcases hown row hmem hid file hpath with rfl | hnone | ⟨-, hsome⟩
    · exact hfile
    · exact hnone
    · exact absurd hfile hsome

/-- With a file at the path, the record is removed when that is its file, and no other's. -/
theorem removed_staged_iff (hrow : (shelf.records.getRecordBySysId sysId).isSome)
    (hfile : shelf.files.row path = some text) :
    Removed sysId shelf { shelf.purged sysId now with
        files := ((shelf.files.delete path).put (stagedPath path) text).delete (stagedPath path) } ↔
      OwnFile shelf sysId path := by
  have hsome : shelf.files.row path ≠ none := by simp [hfile]
  rw [removed_purged_iff hrow]
  simp only [removed_files_row]
  constructor
  · rintro ⟨hown, hothers⟩
    constructor
    · intro row hmem hid file hpath
      by_cases hgone : file = path ∨ file = stagedPath path
      · exact hgone.imp id fun h => .inr ⟨h, hsome⟩
      · have hnone := hown row hmem hid file hpath
        rw [if_neg hgone] at hnone
        exact .inr (.inl hnone)
    · intro row hmem hid file hpath _ hgone
      have hsame := hothers row hmem hid file hpath
      rw [if_pos hgone] at hsame
      exact hsame.symm
  · rintro ⟨hown, hothers⟩
    constructor
    · intro row hmem hid file hpath
      rcases hown row hmem hid file hpath with heq | hnone | ⟨heq, -⟩
      · exact if_pos (.inl heq)
      · rw [hnone, ite_self]
      · exact if_pos (.inr heq)
    · intro row hmem hid file hpath
      by_cases hgone : file = path ∨ file = stagedPath path
      · rw [if_pos hgone, hothers row hmem hid file hpath hsome hgone]
      · rw [if_neg hgone]

/-- When all statements succeed, all depends on the file. -/
theorem succeeds_iff {io : PruneIO}
    (hall : ∀ statement ∈ pruneStatements, io.statement statement = .ok ()) :
    (Succeeds io shelf sysId path ∨ FailsEarly io shelf sysId now path) ↔
      (shelf.files.row path ≠ none → io.removeStaged = .ok ()) ∧ OwnFile shelf sysId path := by
  constructor
  · rintro (h | h)
    · exact ⟨h.removed, h.ownFile⟩
    · obtain ⟨done, statement, rest, err, heq, -, hfails⟩ := h.fails
      have hmem : statement ∈ pruneStatements := by simp [heq]
      rw [hall statement hmem] at hfails
      cases hfails
  · rintro ⟨hremoved, hown⟩
    exact .inl ⟨hall, hremoved, hown⟩

/-- The part of a list before its first failure is determined. -/
theorem failsEarly_iff {io : PruneIO} {done rest : List PruneStatement} {err : String}
    (hsplit : pruneStatements = done ++ statement :: rest)
    (hdone : ∀ earlier ∈ done, io.statement earlier = .ok ())
    (hfails : io.statement statement = .error err) :
    (Succeeds io shelf sysId path ∨ FailsEarly io shelf sysId now path) ↔
      (∀ earlier ∈ done, earlier.Idle shelf sysId now) ∧ (shelf.files.row path ≠ none →
          io.restore = .ok () ∧ shelf.files.row (stagedPath path) = none) := by
  constructor
  · rintro (h | h)
    · have hmem : statement ∈ pruneStatements := by simp [hsplit]
      rw [h.statements statement hmem] at hfails
      cases hfails
    · refine ⟨?_, h.restored⟩
      obtain ⟨done', statement', rest', err', hsplit', hdone', hfails'⟩ := h.fails
      intro earlier hearlier
      refine (hdone' earlier ?_).2
      -- The first failure of the one list is that of the other.
      rcases List.append_eq_append_iff.mp (hsplit.symm.trans hsplit') with
        ⟨more, rfl, hmore⟩ | ⟨more, rfl, hmore⟩
      · exact List.mem_append_left _ hearlier
      · cases more with
        | nil => simpa using hearlier
        | cons first more =>
          obtain ⟨rfl, -⟩ := List.cons.inj hmore
          have hok := hdone statement' (by simp)
          rw [hfails'] at hok
          cases hok
  · rintro ⟨hidle, hrestored⟩
    exact .inr ⟨⟨done, statement, rest, err, hsplit,
      fun earlier h => ⟨hdone earlier h, hidle earlier h⟩, hfails⟩, hrestored⟩

end Files

/-! ## Pruning -/

section Pruning

variable {io : PruneIO} {shelf : Shelf} {sysId path : String} {now : ℤ}

/-- What precedes the last statement does not delete the row. -/
theorem deleteRecord_not_mem {done rest : List PruneStatement}
    (hsplit : pruneStatements = done ++ statement :: rest) : .deleteRecord ∉ done := by
  intro hmem
  have hdup : (done ++ statement :: rest).Nodup := hsplit ▸ (by decide)
  have hlast : (done ++ statement :: rest).getLast (by simp) = .deleteRecord := by
    simp only [← hsplit]
    rfl
  rw [List.getLast_append_of_ne_nil _ (by simp)] at hlast
  have hin : PruneStatement.deleteRecord ∈ statement :: rest := hlast ▸ List.getLast_mem _
  exact (List.disjoint_of_nodup_append hdup) hmem hin

section

variable (hrow : (shelf.records.getRecordBySysId sysId).isSome)

include hrow

/-- Pruning without a file at the path. -/
theorem unstaged_iff (hfile : shelf.files.row path = none) :
    RemovedOrUntouched sysId shelf (runStatements io sysId now pruneStatements shelf) ↔
      Succeeds io shelf sysId path ∨ FailsEarly io shelf sysId now path := by
  have hnone : ¬ shelf.files.row path ≠ none := not_not.mpr hfile
  rcases statements_or io pruneStatements with hall | ⟨done, statement, rest, err, hsplit, hdone,
    hfails⟩
  · have hrun : runStatements io sysId now (pruneStatements ++ []) shelf = _ :=
      runStatements_append hall
    have hremoved : Removed sysId shelf (shelf.purged sysId now) ↔ _ :=
      removed_unstaged_iff hrow hfile
    rw [List.append_nil] at hrun
    rw [hrun, succeeds_iff hall, ← hremoved]
    exact (and_iff_right fun h => absurd h hnone).symm
  · rw [failsEarly_iff hsplit hdone hfails, hsplit, runStatements_append hdone, runStatements,
      hfails, ← foldl_run_eq_self_iff (deleteRecord_not_mem hsplit) hrow]
    exact (and_iff_left fun h => absurd h hnone).symm

/-- Pruning once the file at the path is set aside. -/
theorem staged_iff (hfile : shelf.files.row path = some text) :
    RemovedOrUntouched sysId shelf (settleStaged io (some path)
        (runStatements io sysId now pruneStatements (shelf.staged path text))) ↔
      Succeeds io shelf sysId path ∨ FailsEarly io shelf sysId now path := by
  have hsome : shelf.files.row path ≠ none := by simp [hfile]
  rcases statements_or io pruneStatements with hall | ⟨done, statement, rest, err, hsplit, hdone,
    hfails⟩
  · have hrun : runStatements io sysId now (pruneStatements ++ []) (shelf.staged path text) = _ :=
      runStatements_append hall
    rw [List.append_nil] at hrun
    rw [hrun, succeeds_iff hall, runStatements, Shelf.staged, foldl_run_files, settleStaged]
    cases hremove : io.removeStaged with
    | ok _ =>
      have hremoved : Removed sysId shelf { shelf.purged sysId now with files := _ } ↔ _ :=
        removed_staged_iff hrow hfile
      rw [← hremoved]
      exact (and_iff_right fun _ => rfl).symm
    | error err =>
      refine iff_of_false (fun h => ?_) fun h => nomatch h.1 hsome
      -- The row is gone, and it was there.
      have hrecords := congrArg Shelf.records h
      obtain ⟨row, hfound⟩ := Option.isSome_iff_exists.mp hrow
      obtain ⟨hmem, hid⟩ := getRecordBySysId_eq_some.mp hfound
      have hpurged : (shelf.purged sysId now).records = shelf.records := hrecords
      rw [purged_eq hrow] at hpurged
      have hgone : row ∈ (shelf.records.delete sysId).rows := by
        rw [show shelf.records.delete sysId = shelf.records from hpurged]
        exact hmem
      exact of_decide_eq_true (List.mem_filter.mp hgone).2 hid
  · rw [failsEarly_iff hsplit hdone hfails, hsplit, runStatements_append hdone, runStatements,
      hfails, Shelf.staged, foldl_run_files,
      ← foldl_run_eq_self_iff (deleteRecord_not_mem hsplit) hrow, ← restored_files_iff hfile]
    simp only [settleStaged, restoreStagedMarkdown, Table.row_put_self]
    cases hrestore : io.restore with
    | error err' =>
      refine iff_of_false (fun h => ?_) fun h => nomatch (h.2 hsome).1
      have hfiles := congrArg (fun s : Shelf => s.files.row path) h
      have hpath : ((shelf.files.delete path).put (stagedPath path) text).row path = none := by
        rw [Table.row_put_of_ne _ _ (stagedPath_ne path).symm, Table.row_delete_self]
      exact hsome (hfiles.symm.trans hpath)
    | ok put =>
      cases put
      rw [RemovedOrUntouched, with_files_eq_iff (foldl_run_keeps_files done)]
      exact and_congr_right fun _ => ⟨fun h _ => ⟨rfl, h⟩, fun h => (h hsome).2⟩

/-- **When a record that is found is pruned exactly.** -/
theorem pruneWithFile_iff {now : DateTime} :
    RemovedOrUntouched sysId shelf (pruneWithFile io shelf sysId now path) ↔
      PrunesFile io shelf sysId (timestampSeconds now) path := by
  rw [pruneWithFile, stageMarkdownForPrune, PrunesFile]
  cases hfile : shelf.files.row path with
  | none =>
    simp only [settle_none, unstaged_iff hrow hfile]
    simp
  | some text =>
    cases hstage : io.stage with
    | error err => simp [RemovedOrUntouched]
    | ok _ =>
      have hstaged : RemovedOrUntouched sysId shelf (settleStaged io (some path)
          (runStatements io sysId (timestampSeconds now) pruneStatements
            (shelf.staged path text))) ↔ _ := staged_iff hrow hfile
      simp only [Shelf.staged] at hstaged
      simp [hstaged]

end

/-- **Pruning removes its target or nothing, exactly when it does.**  A prune that is answered
with success has removed the row of the `sys_id`, the rows derived of it and its own file, and
one that is answered with an error has changed nothing, exactly when one of these holds: the row
or the preferred row of its number cannot be read; there is no such row, nor a row derived of
it; the file cannot be set aside; all succeeds and the file of the preferred row is the
record's own and no other's; or a statement fails before anything was deleted, and the file is
put back where it was. -/
theorem prune_record_exact (lib : PruneLib) (io : PruneIO) (shelf : Shelf) (sysId : String)
    (now : DateTime) :
    RemovedOrUntouched sysId shelf (pruneRecord lib io shelf sysId now) ↔
      Prunes lib io shelf sysId now := by
  rw [pruneRecord, Prunes]
  cases hread : io.readRow with
  | error err => simp [RemovedOrUntouched]
  | ok _ =>
    cases hfound : shelf.records.getRecordBySysId sysId with
    | none =>
      have habsent := getRecordBySysId_eq_none.mp hfound
      constructor
      · intro h
        exact .inr ⟨rfl, .inl ⟨habsent, h.derived⟩⟩
      · rintro (⟨err, herr⟩ | ⟨-, ⟨-, hderived⟩ | ⟨row, hmem, hid, -⟩⟩)
        · cases herr
        · exact ⟨habsent, hderived, fun row hmem hid => absurd hid (habsent row hmem),
            fun _ _ => Iff.rfl, fun _ _ => rfl, fun _ _ => Iff.rfl, fun _ _ _ _ _ => rfl⟩
        · exact absurd hid (habsent row hmem)
    | some row =>
      obtain ⟨hmem, hid⟩ := getRecordBySysId_eq_some.mp hfound
      have hrow : (shelf.records.getRecordBySysId sysId).isSome := by simp [hfound]
      obtain ⟨primary, hprimary⟩ := exists_primary hmem
      have hfirst := getPrimaryRecordByNumber_first hprimary
      have hsame : ∀ other ∈ shelf.records.rows, other.sysId = sysId → other = row :=
        fun other hother hid' =>
          List.inj_on_of_nodup_map shelf.records.keys hother hmem (hid'.trans hid.symm)
      cases hreadPrimary : io.readPrimary with
      | error err =>
        refine iff_of_true rfl (.inr ⟨rfl, .inr ⟨row, hmem, hid, .inl ⟨err, rfl⟩⟩⟩)
      | ok _ =>
        simp only [hprimary, pruneWithFile_iff hrow]
        constructor
        · intro h
          exact .inr ⟨trivial, .inr ⟨row, hmem, hid, .inr ⟨trivial, primary, hfirst, h⟩⟩⟩
        · rintro (⟨err, herr⟩ | ⟨-, ⟨habsent, -⟩ | ⟨other, hother, hid', hcase⟩⟩)
          · cases herr
          · exact absurd hid (habsent row hmem)
          · rcases hcase with ⟨err, herr⟩ | ⟨-, primary', hfirst', h⟩
            · cases herr
            · cases hsame other hother hid'
              cases hfirst.unique hfirst'
              exact h

end Pruning

/-! ## An approval and the record it is about -/

/-- The cached row of an incident, with its file. -/
def approvedRow : RecordRow where
  sysId := "b1"
  number := "INC0000001"
  tableName := "incident"
  resourceType := .incident
  state := some "New"
  shortDesc := none
  description := none
  filePath := some "incidents/INC0000001.md"
  syncedAt := newYear
  inScope := true
  rawJson := .null

/-- The row of an approval under the same number. -/
def approvalRow : RecordRow :=
  { approvedRow with
    sysId := "a1"
    tableName := "sysapproval_approver"
    resourceType := .approval
    filePath := some "approvals/INC0000001.md" }

/-- Both, with their files. -/
def approvalShelf : Shelf where
  records := ⟨[approvedRow, approvalRow], by decide⟩
  prunedAt := Table.empty
  derived := []
  files := (Table.empty.put "incidents/INC0000001.md" "").put "approvals/INC0000001.md" ""

/-- No file of the vault reads as a document. -/
def bareLib : PruneLib := ⟨fun _ _ => none, materializeRecordFromJson⟩

/-- Every operation succeeds. -/
def steadyPrune : PruneIO := ⟨.ok (), .ok (), .ok (), fun _ => .ok (), .ok (), .ok ()⟩

/-- **To prune an approval removes the file of the record it is about.**  The two rows bear one
number, under which the approval comes last. -/
theorem prunes_approved_file :
    ¬ ∀ (lib : PruneLib) (io : PruneIO) (shelf : Shelf) (sysId : String) (now : DateTime),
      RemovedOrUntouched sysId shelf (pruneRecord lib io shelf sysId now) := by
  intro hall
  have hremoved := hall bareLib steadyPrune approvalShelf "a1" newYear
  have hok : (pruneRecord bareLib steadyPrune approvalShelf "a1" newYear).1 = .ok () := by
    decide +kernel
  have hgone : (pruneRecord bareLib steadyPrune approvalShelf "a1" newYear).2.files.row
      "incidents/INC0000001.md" = none := by
    decide +kernel
  generalize pruneRecord bareLib steadyPrune approvalShelf "a1" newYear = result at *
  obtain ⟨outcome, after⟩ := result
  cases hok
  have hkept := Removed.othersFiles hremoved approvedRow (List.mem_cons_self ..) (by decide)
    "incidents/INC0000001.md" rfl
  have hthere : approvalShelf.files.row "incidents/INC0000001.md" = some "" := by decide
  rw [hthere] at hkept
  cases hgone.symm.trans hkept

end SnowAgent.Core
