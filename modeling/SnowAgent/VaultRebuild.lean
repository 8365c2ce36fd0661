import Mathlib.Data.List.Lex
import Mathlib.Data.Set.Finite.Basic
import SnowAgent.RecordPrune
import SnowAgent.Runs

/-! # Rebuilding the cache from the vault

The cache and the vault are written together: a document is put into a file whose path is made
of the document, and into the row of its `sys_id`.  A rebuild reads all files in the order of
their paths and makes the row of each; the last file of a `sys_id` wins.  Persisting does not look
at the file a record had before.
-/
namespace SnowAgent.Core

open Json Text

/-! ## Paths -/

/-- The components of a path. -/
def components (path : String) : List String := (path.toList.splitOn '/').map String.ofList

/-- The name of a file: what follows the last slash of its path. -/
def lastComponent (path : String) : String :=
  String.ofList (path.toList.reverse.takeWhile (· ≠ '/')).reverse

/-- Whether the scan takes a file for a document: its extension is `md`, and it is no index. -/
def isDocumentPath (path : String) : Bool :=
  endsWith (lastComponent path) ".md" && lastComponent path ≠ ".md" &&
    lastComponent path ≠ "INDEX.md"

/-- A path that names its file as the scan does. -/
def PlainPath (path : String) : Prop :=
  ∀ component ∈ components path, component ≠ "" ∧ component ≠ "." ∧ component ≠ ".."

instance (path : String) : Decidable (PlainPath path) :=
  inferInstanceAs (Decidable (∀ _ ∈ _, _))

/-- Some list of the files of the vault, as the directories are read. -/
structure Lists (files : Table String String) (listing : List String) : Prop where
  nodup : listing.Nodup
  mem : ∀ path, path ∈ listing ↔ files.row path ≠ none

/-! ## The cache and the vault -/

/-- The cache and the vault, with the column `parent_id` of the records. -/
structure Mirror where
  shelf : Shelf
  parentId : Table String String

/-- Neither rows nor files. -/
def Mirror.empty : Mirror := ⟨⟨⟨[], List.nodup_nil⟩, Table.empty, [], Table.empty⟩, Table.empty⟩

/-- What is left open: how documents are read, and the rows that are derived of them. -/
structure RebuildLib extends CoreLib where
  /-- `materialize_record_from_json`. -/
  materializeRecordFromJson : RecordRow → CachedRecord
  /-- `parse_document`: an article, an approval or a record. -/
  parseDocument : String → Option CachedRecord
  /-- `serialize_vault_document`. -/
  serializeVaultDocument : CachedRecord → Value
  /-- The derived rows once a document is projected. -/
  projectDocument : Document → List DerivedRow → List DerivedRow

variable (lib : RebuildLib)

/-- What pruning needs of it. -/
def RebuildLib.prune : PruneLib := ⟨lib.parseMarkdown, lib.materializeRecordFromJson⟩

/-- Sets the parent of a row. -/
def setParent (column : Table String String) (sysId : String) (parent : Option RecordRef) :
    Table String String :=
  match parent with
  | none => column.delete sysId
  | some parent => column.put sysId parent.sysId

/-- `persist_record`, given the document that is made of the row. -/
def Mirror.persist (mirror : Mirror) (answers : CacheIO) (record : Record)
    (built : Except String Document) : Mirror :=
  match built with
  | .error _ => mirror
  | .ok document =>
    match answers.writeFile with
    | .error _ => mirror
    | .ok () =>
      let path := recordPath document.record
      let files := mirror.shelf.files.put path document.text
      match answers.writeRow with
      | .error _ => { mirror with shelf := { mirror.shelf with files } }
      | .ok () =>
        { shelf :=
            { records := mirror.shelf.records.upsert
                (recordRowFromSnowRecord lib.toCoreLib document.record record path)
              prunedAt := mirror.shelf.prunedAt.delete document.record.sysId
              derived := lib.projectDocument document mirror.shelf.derived
              files }
          parentId := setParent mirror.parentId document.record.sysId
            (lib.parentRecordRef record) }

/-- `prune_record`. -/
def Mirror.prune (mirror : Mirror) (io : PruneIO) (sysId : String) (now : DateTime) : Mirror :=
  let shelf := (pruneRecord lib.prune io mirror.shelf sysId now).2
  { shelf
    parentId :=
      if (shelf.records.getRecordBySysId sysId).isSome then mirror.parentId
      else mirror.parentId.delete sysId }

/-- The calls that write to the cache and the vault. -/
inductive MirrorOp where
  | persist (answers : CacheIO) (record : Record) (built : Except String Document)
  | prune (io : PruneIO) (sysId : String) (now : DateTime)

/-- One call. -/
def mirrorStep : MirrorOp → Mirror → Mirror
  | .persist answers record built, mirror => mirror.persist lib answers record built
  | .prune io sysId now, mirror => mirror.prune lib io sysId now

/-! ## The rebuild -/

/-- `record_row_from_runtime_record`. -/
def recordRowFromRuntimeRecord (record : CachedRecord) (path : String) (rawJson : Value) :
    RecordRow where
  sysId := record.sysId
  number := record.number
  tableName := record.table
  resourceType := record.resourceType
  state := some record.state
  shortDesc := some record.shortDescription
  description := some record.description
  filePath := some path
  syncedAt := record.syncedAt
  inScope := true
  rawJson := rawJson

/-- The records of the new cache. -/
structure Rebuilt where
  records : RecordTable
  parentId : Table String String

/-- The document of a file. -/
def readDocument (files : Table String String) (path : String) :
    Except String (String × CachedRecord) :=
  match (files.row path).bind lib.parseDocument with
  | some record => .ok (path, record)
  | none => .error ("failed to parse vault markdown " ++ path)

/-- The order in which the files are taken. -/
def pathLe (path other : String) : Bool := decide (components path ≤ components other)

/-- `scan_documents`, given the files as the directories are read. -/
def scanDocuments (files : Table String String) (listing : List String) :
    Except String (List (String × CachedRecord)) :=
  ((listing.filter isDocumentPath).mergeSort pathLe).mapM (readDocument lib files)

/-- `rebuild_document_into_store`, with what it writes to the records. -/
def rebuildDocumentIntoStore (rebuilt : Rebuilt) (entry : String × CachedRecord) : Rebuilt where
  records := rebuilt.records.upsert
    (recordRowFromRuntimeRecord entry.2 entry.1 (lib.serializeVaultDocument entry.2))
  parentId := setParent rebuilt.parentId entry.2.sysId entry.2.parent

/-- `rebuild_cache_from_vault`: the records of the cache that takes the place of the old one. -/
def rebuildCacheFromVault (files : Table String String) (listing : List String) :
    Except String Rebuilt := do
  let entries ← scanDocuments lib files listing
  return entries.foldl (rebuildDocumentIntoStore lib) ⟨⟨[], List.nodup_nil⟩, Table.empty⟩

/-! ## What the rebuild is for -/

/-- What a cache says of a record. -/
structure RecordFacts where
  number : String
  state : Option String
  shortDesc : Option String
  description : Option String
  parent : Option String
  filePath : Option String
deriving DecidableEq

/-- What a cache says of the active record of a `sys_id`. -/
def factsOf (records : RecordTable) (parentId : Table String String) (sysId : String) :
    Option RecordFacts :=
  ((records.getRecordBySysId sysId).filter RecordRow.inScope).map fun row =>
    ⟨row.number, row.state, row.shortDesc, row.description, parentId.row sysId, row.filePath⟩

/-- **The vault reproduces the cache**: a rebuild succeeds, in whatever order the directories are
read, and the new cache says of every `sys_id` what the live one says. -/
def Reproduces (mirror : Mirror) : Prop :=
  (∃ listing, Lists mirror.shelf.files listing) ∧
    ∀ listing, Lists mirror.shelf.files listing →
      ∃ rebuilt, rebuildCacheFromVault lib mirror.shelf.files listing = .ok rebuilt ∧
        ∀ sysId, factsOf rebuilt.records rebuilt.parentId sysId =
          factsOf mirror.shelf.records mirror.parentId sysId

/-! ## When it does -/

section Conditions

variable (mirror : Mirror)

/-- Parsing undoes rendering for a document. -/
def ReadsBack (document : Document) : Prop :=
  lib.parseDocument document.text = some document.record ∧
    lib.parseMarkdown document.record.resourceType document.text = some document.record

/-- A file of the vault holds a document of a `sys_id`. -/
def HoldsDocument (path sysId : String) : Prop :=
  isDocumentPath path = true ∧ ∃ text record, mirror.shelf.files.row path = some text ∧
    lib.parseDocument text = some record ∧ record.sysId = sysId

/-- A document is persisted: it reads back, its path is one the scan takes and no other record's,
the files that already hold documents of its `sys_id` are taken before it, its row has the parent
that it has, and it is written to both places. -/
structure PersistsMirror (answers : CacheIO) (record : Record) (document : Document) : Prop where
  writeRow : answers.writeRow = .ok ()
  readsBack : ReadsBack lib document
  isDocument : isDocumentPath (recordPath document.record) = true
  plain : PlainPath (recordPath document.record)
  own : ∀ row ∈ mirror.shelf.records.rows, row.sysId ≠ document.record.sysId →
    row.filePath ≠ some (recordPath document.record)
  last : ∀ path, HoldsDocument lib mirror path document.record.sysId →
    path = recordPath document.record ∨ components path < components (recordPath document.record)
  parent : (lib.parentRecordRef record).map RecordRef.sysId =
    document.record.parent.map RecordRef.sysId

/-- A row is pruned: all succeeds, the file that is removed is the row's, and it is the only one
that holds a document of its `sys_id`. -/
structure PrunesMirror (io : PruneIO) (row : RecordRow) (path : String) : Prop where
  stage : io.stage = .ok ()
  statements : ∀ statement ∈ pruneStatements, io.statement statement = .ok ()
  removed : io.removeStaged = .ok ()
  own : row.filePath = some path
  only : ∀ other, HoldsDocument lib mirror other row.sysId → other = path

/-- A row is not pruned: the file cannot be set aside, or a statement fails and the file is put
back. -/
def KeepsMirror (io : PruneIO) (path : String) : Prop :=
  mirror.shelf.files.row path ≠ none ∧ (∃ err, io.stage = .error err) ∨
    (∃ statement ∈ pruneStatements, ∃ err, io.statement statement = .error err) ∧
      (mirror.shelf.files.row path ≠ none →
        io.restore = .ok () ∧ mirror.shelf.files.row (stagedPath path) = none)

/-- The calls after which the vault still reproduces the cache. -/
def AllowedCall : MirrorOp → Prop
  | .persist answers record built => ∀ document, built = .ok document →
      answers.writeFile = .ok () → PersistsMirror lib mirror answers record document
  | .prune io sysId _ => io.readRow = .ok () →
      ∀ row ∈ mirror.shelf.records.rows, row.sysId = sysId → io.readPrimary = .ok () →
        ∀ primary, First mirror.shelf.records row.number primary →
          PrunesMirror lib mirror io row
              (recordPath (lib.prune.materializeRecord mirror.shelf.files primary)) ∨
            KeepsMirror mirror io
              (recordPath (lib.prune.materializeRecord mirror.shelf.files primary))

/-- Every operation of a call succeeds, and its document reads back. -/
def SteadyCall : MirrorOp → Prop
  | .persist answers record built => answers.writeFile = .ok () ∧ answers.writeRow = .ok () ∧
      ∃ document, built = .ok document ∧ ReadsBack lib document ∧
        document.record.sysId = record.sysId
  | .prune io _ _ => io = ⟨.ok (), .ok (), .ok (), fun _ => .ok (), .ok (), .ok ()⟩

end Conditions

/-! ## The rows of a cache -/

variable {entry : String × CachedRecord} {entries : List (String × CachedRecord)}

section Facts

variable {lib} {table : RecordTable} {row : RecordRow} {column : Table String String}
  {parent : Option RecordRef} {sysId : String}

theorem getRecordBySysId_upsert_self :
    (table.upsert row).getRecordBySysId row.sysId = some row :=
  getRecordBySysId_eq_some.mpr ⟨List.mem_append_right _ (List.mem_singleton_self _), rfl⟩

theorem mem_upsert {other : RecordRow} (hne : other.sysId ≠ row.sysId) :
    other ∈ (table.upsert row).rows ↔ other ∈ table.rows := by
  show other ∈ table.rows.filter _ ++ [row] ↔ _
  rw [List.mem_append, List.mem_filter, List.mem_singleton, decide_eq_true_iff]
  constructor
  · rintro (h | rfl)
    · exact h.1
    · exact absurd rfl hne
  · intro h
    exact .inl ⟨h, hne⟩

theorem getRecordBySysId_upsert_of_ne (hne : sysId ≠ row.sysId) :
    (table.upsert row).getRecordBySysId sysId = table.getRecordBySysId sysId := by
  refine Option.ext fun other => ?_
  rw [getRecordBySysId_eq_some, getRecordBySysId_eq_some]
  constructor
  · rintro ⟨hmem, rfl⟩
    exact ⟨(mem_upsert hne).mp hmem, rfl⟩
  · rintro ⟨hmem, rfl⟩
    exact ⟨(mem_upsert hne).mpr hmem, rfl⟩

@[simp] theorem row_setParent_self :
    (setParent column sysId parent).row sysId = parent.map RecordRef.sysId := by
  cases parent with
  | none => exact Table.row_delete_self _ _
  | some parent => exact Table.row_put_self _ _ _

theorem row_setParent_of_ne {other : String} (hne : other ≠ sysId) :
    (setParent column sysId parent).row other = column.row other := by
  cases parent with
  | none => exact Table.row_delete_of_ne _ hne
  | some parent => exact Table.row_put_of_ne _ _ hne

/-- What a rebuild says of the record of a document. -/
def documentFacts (record : CachedRecord) (path : String) : RecordFacts :=
  ⟨record.number, some record.state, some record.shortDescription, some record.description,
    record.parent.map RecordRef.sysId, some path⟩

variable (rebuilt : Rebuilt)

theorem factsOf_rebuild_self (entry : String × CachedRecord) :
    factsOf (rebuildDocumentIntoStore lib rebuilt entry).records
        (rebuildDocumentIntoStore lib rebuilt entry).parentId entry.2.sysId =
      some (documentFacts entry.2 entry.1) := by
  have hrow : (rebuildDocumentIntoStore lib rebuilt entry).records.getRecordBySysId
      entry.2.sysId = some (recordRowFromRuntimeRecord entry.2 entry.1
        (lib.serializeVaultDocument entry.2)) := getRecordBySysId_upsert_self
  have hparent : (rebuildDocumentIntoStore lib rebuilt entry).parentId.row entry.2.sysId =
      entry.2.parent.map RecordRef.sysId := row_setParent_self
  have hscope : (recordRowFromRuntimeRecord entry.2 entry.1
      (lib.serializeVaultDocument entry.2)).inScope = true := rfl
  rw [factsOf, hrow, Option.filter_some, if_pos hscope, Option.map_some, hparent]
  rfl

theorem factsOf_rebuild_of_ne (hne : sysId ≠ entry.2.sysId) :
    factsOf (rebuildDocumentIntoStore lib rebuilt entry).records
        (rebuildDocumentIntoStore lib rebuilt entry).parentId sysId =
      factsOf rebuilt.records rebuilt.parentId sysId := by
  have hrow : (rebuildDocumentIntoStore lib rebuilt entry).records.getRecordBySysId sysId =
      rebuilt.records.getRecordBySysId sysId := getRecordBySysId_upsert_of_ne hne
  have hparent : (rebuildDocumentIntoStore lib rebuilt entry).parentId.row sysId =
      rebuilt.parentId.row sysId := row_setParent_of_ne hne
  rw [factsOf, hrow, hparent, factsOf]

/-- The documents of other records do not matter to a record. -/
theorem factsOf_foldl_of_absent (habsent : ∀ entry ∈ entries, entry.2.sysId ≠ sysId)
    (rebuilt : Rebuilt) :
    factsOf (entries.foldl (rebuildDocumentIntoStore lib) rebuilt).records
        (entries.foldl (rebuildDocumentIntoStore lib) rebuilt).parentId sysId =
      factsOf rebuilt.records rebuilt.parentId sysId := by
  induction entries generalizing rebuilt with
  | nil => rfl
  | cons entry entries ih =>
    obtain ⟨hne, hrest⟩ := List.forall_mem_cons.mp habsent
    rw [List.foldl_cons, ih hrest, factsOf_rebuild_of_ne rebuilt (Ne.symm hne)]

/-- **The last document of a record wins.** -/
theorem factsOf_foldl_of_last {before after : List (String × CachedRecord)}
    (hlast : ∀ later ∈ after, later.2.sysId ≠ entry.2.sysId)
    (rebuilt : Rebuilt) :
    factsOf ((before ++ entry :: after).foldl (rebuildDocumentIntoStore lib) rebuilt).records
        ((before ++ entry :: after).foldl (rebuildDocumentIntoStore lib) rebuilt).parentId
        entry.2.sysId = some (documentFacts entry.2 entry.1) := by
  rw [List.foldl_append, List.foldl_cons, factsOf_foldl_of_absent hlast, factsOf_rebuild_self]

end Facts

/-! ## The scan -/

section Scan

variable {lib} {files : Table String String} {listing : List String}

theorem pathLe_total (path other : String) : pathLe path other || pathLe other path := by
  rw [pathLe, pathLe, Bool.or_eq_true, decide_eq_true_iff, decide_eq_true_iff]
  exact le_total _ _

theorem pathLe_trans (path other third : String) (h : pathLe path other = true)
    (h' : pathLe other third = true) : pathLe path third = true := by
  rw [pathLe, decide_eq_true_iff] at *
  exact h.trans h'

theorem readDocument_eq_ok {path : String} :
    readDocument lib files path = .ok entry ↔
      path = entry.1 ∧ (files.row path).bind lib.parseDocument = some entry.2 := by
  obtain ⟨name, record⟩ := entry
  rw [readDocument]
  cases (files.row path).bind lib.parseDocument with
  | none => simp
  | some found => simp

/-- When every file reads, so do all. -/
theorem mapM_readDocument {paths : List String}
    (hreads : ∀ path ∈ paths, ∃ record, (files.row path).bind lib.parseDocument = some record) :
    ∃ entries, paths.mapM (readDocument lib files) = .ok entries ∧
      List.Forall₂ (fun path entry => readDocument lib files path = .ok entry) paths entries := by
  induction paths with
  | nil => exact ⟨[], rfl, .nil⟩
  | cons path paths ih =>
    obtain ⟨⟨record, hrecord⟩, hrest⟩ := List.forall_mem_cons.mp hreads
    obtain ⟨entries, hentries, hall⟩ := ih hrest
    have hread : readDocument lib files path = .ok (path, record) :=
      readDocument_eq_ok.mpr ⟨rfl, hrecord⟩
    refine ⟨(path, record) :: entries, ?_, .cons hread hall⟩
    rw [List.mapM_cons, hread, hentries]
    rfl

/-- What a scan gives when every document reads: the documents of the vault, by their paths. -/
structure Scanned (lib : RebuildLib) (files : Table String String)
    (entries : List (String × CachedRecord)) : Prop where
  sorted : entries.Pairwise fun entry later => components entry.1 ≤ components later.1
  nodup : (entries.map Prod.fst).Nodup
  mem : ∀ path record, (path, record) ∈ entries ↔ isDocumentPath path = true ∧
    (files.row path).bind lib.parseDocument = some record

theorem scanDocuments_ok (hlists : Lists files listing)
    (hreads : ∀ path text, files.row path = some text → isDocumentPath path = true →
      ∃ record, lib.parseDocument text = some record) :
    ∃ entries, scanDocuments lib files listing = .ok entries ∧ Scanned lib files entries := by
  have hperm : ((listing.filter isDocumentPath).mergeSort pathLe).Perm
      (listing.filter isDocumentPath) := List.mergeSort_perm _ _
  have hmem : ∀ path, path ∈ (listing.filter isDocumentPath).mergeSort pathLe ↔
      isDocumentPath path = true ∧ files.row path ≠ none := fun path => by
    rw [hperm.mem_iff, List.mem_filter, hlists.mem]
    exact and_comm
  have hreads' : ∀ path ∈ (listing.filter isDocumentPath).mergeSort pathLe,
      ∃ record, (files.row path).bind lib.parseDocument = some record := by
    intro path hpath
    obtain ⟨hdocument, hfile⟩ := (hmem path).mp hpath
    obtain ⟨text, htext⟩ := Option.ne_none_iff_exists'.mp hfile
    rw [htext]
    exact hreads path text htext hdocument
  obtain ⟨entries, hentries, hall⟩ := mapM_readDocument hreads'
  have hpaths : entries.map Prod.fst = (listing.filter isDocumentPath).mergeSort pathLe := by
    have heq := List.forall₂_map_right_iff.mpr
      (hall.imp fun path entry h => (readDocument_eq_ok.mp h).1)
    exact (List.forall₂_eq_eq_eq ▸ heq).symm
  have hrecord : ∀ entry ∈ entries, (files.row entry.1).bind lib.parseDocument = some entry.2 := by
    intro entry hentry
    obtain ⟨n, hn, rfl⟩ := List.getElem_of_mem hentry
    have hread := hall.get (by rw [hall.length_eq]; exact hn) hn
    obtain ⟨hpath, hparse⟩ := readDocument_eq_ok.mp hread
    rw [hpath] at hparse
    exact hparse
  refine ⟨entries, hentries, ?_, ?_, ?_⟩
  · have hsorted := List.pairwise_mergeSort pathLe_trans pathLe_total
      (listing.filter isDocumentPath)
    rw [← hpaths, List.pairwise_map] at hsorted
    exact hsorted.imp fun h => of_decide_eq_true h
  · rw [hpaths, hperm.nodup_iff]
    exact hlists.nodup.filter _
  · intro path record
    constructor
    · intro hentry
      have hpath : path ∈ entries.map Prod.fst := List.mem_map_of_mem hentry
      rw [hpaths, hmem] at hpath
      exact ⟨hpath.1, hrecord _ hentry⟩
    · rintro ⟨hdocument, hparse⟩
      have hfile : files.row path ≠ none := by
        intro hnone
        rw [hnone] at hparse
        cases hparse
      have hpath : path ∈ entries.map Prod.fst := by
        rw [hpaths, hmem]
        exact ⟨hdocument, hfile⟩
      obtain ⟨entry, hentry, rfl⟩ := List.mem_map.mp hpath
      have hsame := (hrecord entry hentry).symm.trans hparse
      rw [← Option.some.inj hsame]
      exact hentry

end Scan

/-! ## The vault and the cache agree -/

section Agree

variable {lib} {mirror : Mirror}

/-- The row of a record and the document of its file say the same. -/
structure HasDocument (lib : RebuildLib) (mirror : Mirror) (row : RecordRow) (path : String)
    (record : CachedRecord) : Prop where
  active : row.inScope = true
  filePath : row.filePath = some path
  isDocument : isDocumentPath path = true
  reads : (mirror.shelf.files.row path).bind lib.parseDocument = some record
  sysId : record.sysId = row.sysId
  facts : RecordFacts.mk row.number row.state row.shortDesc row.description
    (mirror.parentId.row row.sysId) row.filePath = documentFacts record path

/-- **The vault and the cache agree**: every row has its document, and every document is that of a
row, or an older one that the scan takes before it. -/
structure Agreed (lib : RebuildLib) (mirror : Mirror) : Prop where
  rows : ∀ row ∈ mirror.shelf.records.rows, ∃ path record, HasDocument lib mirror row path record
  files : ∀ path text, mirror.shelf.files.row path = some text → isDocumentPath path = true →
    ∃ record, lib.parseDocument text = some record ∧
      ∃ row ∈ mirror.shelf.records.rows, row.sysId = record.sysId ∧
        ∃ own, row.filePath = some own ∧ (path = own ∨ components path < components own)
  finite : {path | mirror.shelf.files.row path ≠ none}.Finite

variable {files : Table String String}

/-- Some list of the files exists. -/
theorem exists_lists
    (hfinite : {path | files.row path ≠ none}.Finite) : ∃ listing, Lists files listing := by
  refine ⟨hfinite.toFinset.toList, Finset.nodup_toList _, fun path => ?_⟩
  rw [Finset.mem_toList, Set.Finite.mem_toFinset]
  rfl

variable {row : RecordRow}

/-- Of the documents of a record the scan takes its own last. -/
theorem own_last (hscanned : Scanned lib
    mirror.shelf.files entries) (hagreed : Agreed lib mirror)
    (hrow : row ∈ mirror.shelf.records.rows) {own : String} {record : CachedRecord}
    (hown : HasDocument lib mirror row own record) :
    ∃ before after, entries = before ++ (own, record) :: after ∧
      ∀ later ∈ after, later.2.sysId ≠ row.sysId := by
  have hentry : (own, record) ∈ entries := (hscanned.mem own record).mpr ⟨hown.isDocument, hown.reads⟩
  obtain ⟨before, after, rfl⟩ := List.append_of_mem hentry
  refine ⟨before, after, rfl, fun later hlater hid => ?_⟩
  obtain ⟨path, other⟩ := later
  have hmem : (path, other) ∈ before ++ (own, record) :: after := by simp [hlater]
  obtain ⟨hdocument, hreads⟩ := (hscanned.mem path other).mp hmem
  obtain ⟨text, htext, hparse⟩ := Option.bind_eq_some_iff.mp hreads
  obtain ⟨record', hparse', row', hrow', hid', own', hpath', hbefore⟩ :=
    hagreed.files path text htext hdocument
  cases hparse.symm.trans hparse'
  have hsame : row' = row :=
    List.inj_on_of_nodup_map mirror.shelf.records.keys hrow' hrow (hid'.trans hid)
  cases hsame
  cases hpath'.symm.trans hown.filePath
  have hsorted := (List.pairwise_cons.mp (List.pairwise_append.mp hscanned.sorted).2.1).1
    (path, other) hlater
  rcases hbefore with rfl | hlt
  · -- No path is listed twice.
    have hnodup := hscanned.nodup
    rw [List.map_append, List.map_cons] at hnodup
    have hcons := (List.nodup_cons.mp (List.nodup_append.mp hnodup).2.1).1
    exact hcons (List.mem_map.mpr ⟨(path, other), hlater, rfl⟩)
  · exact absurd hsorted (not_le_of_gt hlt)

/-- **A vault and a cache that agree reproduce each other.** -/
theorem reproduces_of_agreed (hagreed : Agreed lib mirror) : Reproduces lib mirror := by
  refine ⟨exists_lists hagreed.finite, fun listing hlists => ?_⟩
  obtain ⟨entries, hscan, hscanned⟩ := scanDocuments_ok hlists fun path text htext hdocument => by
    obtain ⟨record, hparse, -⟩ := hagreed.files path text htext hdocument
    exact ⟨record, hparse⟩
  refine ⟨entries.foldl (rebuildDocumentIntoStore lib) ⟨⟨[], List.nodup_nil⟩, Table.empty⟩, ?_,
    fun sysId => ?_⟩
  · rw [rebuildCacheFromVault, hscan]
    rfl
  · cases hfound : mirror.shelf.records.getRecordBySysId sysId with
    | none =>
      have habsent : ∀ entry ∈ entries, entry.2.sysId ≠ sysId := by
        rintro ⟨path, record⟩ hentry rfl
        obtain ⟨hdocument, hreads⟩ := (hscanned.mem path record).mp hentry
        obtain ⟨text, htext, hparse⟩ := Option.bind_eq_some_iff.mp hreads
        obtain ⟨record', hparse', row, hrow, hid, -⟩ := hagreed.files path text htext hdocument
        cases hparse.symm.trans hparse'
        exact getRecordBySysId_eq_none.mp hfound row hrow hid
      rw [factsOf_foldl_of_absent habsent, factsOf, factsOf, hfound]
      rfl
    | some row =>
      obtain ⟨hrow, rfl⟩ := getRecordBySysId_eq_some.mp hfound
      obtain ⟨own, record, hown⟩ := hagreed.rows row hrow
      obtain ⟨before, after, rfl, hlast⟩ := own_last hscanned hagreed hrow hown
      have hid : record.sysId = row.sysId := hown.sysId
      have hlast' : ∀ later ∈ after, later.2.sysId ≠ (own, record).2.sysId := by
        rw [hid]
        exact hlast
      rw [← hid, factsOf_foldl_of_last hlast', hid, factsOf, hfound, Option.filter_some, if_pos
          hown.active, Option.map_some,
        hown.facts]

/-- Records and files that stay as they are still agree. -/
theorem Agreed.congr (hagreed : Agreed lib mirror) {mirror' : Mirror}
    (hrecords : mirror'.shelf.records = mirror.shelf.records)
    (hfiles : mirror'.shelf.files = mirror.shelf.files)
    (hparents : ∀ row ∈ mirror.shelf.records.rows,
      mirror'.parentId.row row.sysId = mirror.parentId.row row.sysId) : Agreed lib mirror' where
  rows := by
    rw [hrecords]
    intro row hrow
    obtain ⟨path, record, h⟩ := hagreed.rows row hrow
    refine ⟨path, record, h.active, h.filePath, h.isDocument, ?_, h.sysId, ?_⟩
    · rw [hfiles]
      exact h.reads
    · rw [hparents row hrow]
      exact h.facts
  files := by
    rw [hrecords, hfiles]
    exact hagreed.files
  finite := by
    rw [hfiles]
    exact hagreed.finite

/-! ## Persisting -/

theorem finite_put (hfinite : {path | files.row path ≠ none}.Finite) (path text : String) :
    {other | (files.put path text).row other ≠ none}.Finite := by
  refine (hfinite.insert path).subset fun other hother => ?_
  by_cases heq : other = path
  · exact .inl heq
  · rw [Set.mem_ofPred_eq, Table.row_put_of_ne _ _ heq] at hother
    exact .inr hother

theorem finite_delete (hfinite : {path | files.row path ≠ none}.Finite) (path : String) :
    {other | (files.delete path).row other ≠ none}.Finite := by
  refine hfinite.subset fun other hother => ?_
  by_cases heq : other = path
  · rw [Set.mem_ofPred_eq, heq, Table.row_delete_self] at hother
    exact absurd rfl hother
  · rw [Set.mem_ofPred_eq, Table.row_delete_of_ne _ heq] at hother
    exact hother

/-- A document that is persisted as the vault expects it agrees with its row. -/
theorem agreed_persist (hagreed : Agreed lib mirror) {answers : CacheIO} {record : Record}
    {built : Except String Document}
    (hallowed : AllowedCall lib mirror (.persist answers record built)) :
    Agreed lib (mirror.persist lib answers record built) := by
  cases built with
  | error err => exact hagreed
  | ok document =>
    rw [Mirror.persist]
    cases hwrite : answers.writeFile with
    | error err => exact hagreed
    | ok done =>
      cases done
      have hpersists := hallowed document rfl hwrite
      simp only [hpersists.writeRow]
      constructor
      · intro row hrow
        by_cases hid : row.sysId = document.record.sysId
        · have hsame : row = recordRowFromSnowRecord lib.toCoreLib document.record record
              (recordPath document.record) := by
            refine List.inj_on_of_nodup_map (RecordTable.upsert _ _).keys hrow
              (List.mem_append_right _ (List.mem_singleton_self _)) hid
          refine ⟨recordPath document.record, document.record, ?_⟩
          rw [hsame]
          refine ⟨rfl, rfl, hpersists.isDocument, ?_, rfl, ?_⟩
          · show ((mirror.shelf.files.put _ _).row _).bind _ = _
            rw [Table.row_put_self]
            exact hpersists.readsBack.1
          · show RecordFacts.mk _ _ _ _ ((setParent _ document.record.sysId _).row
              document.record.sysId) _ = _
            rw [row_setParent_self, hpersists.parent]
            rfl
        · have hold := (mem_upsert hid).mp hrow
          obtain ⟨path, record', h⟩ := hagreed.rows row hold
          have hne : path ≠ recordPath document.record := fun heq =>
            hpersists.own row hold hid (heq ▸ h.filePath)
          refine ⟨path, record', h.active, h.filePath, h.isDocument, ?_, h.sysId, ?_⟩
          · show ((mirror.shelf.files.put _ _).row _).bind _ = _
            rw [Table.row_put_of_ne _ _ hne]
            exact h.reads
          · show RecordFacts.mk _ _ _ _ ((setParent _ _ _).row row.sysId) _ = _
            rw [row_setParent_of_ne hid]
            exact h.facts
      · intro path text htext hdocument
        have hnew : recordRowFromSnowRecord lib.toCoreLib document.record record
            (recordPath document.record) ∈ (mirror.shelf.records.upsert
              (recordRowFromSnowRecord lib.toCoreLib document.record record
                (recordPath document.record))).rows :=
          List.mem_append_right _ (List.mem_singleton_self _)
        by_cases hpath : path = recordPath document.record
        · subst hpath
          have hsame : document.text = text := by
            have hput : (mirror.shelf.files.put _ _).row _ = some text := htext
            rw [Table.row_put_self] at hput
            exact Option.some.inj hput
          exact ⟨document.record, hsame ▸ hpersists.readsBack.1, _, hnew, rfl, _, rfl, .inl rfl⟩
        · have hold : mirror.shelf.files.row path = some text := by
            have hput : (mirror.shelf.files.put _ _).row path = some text := htext
            rwa [Table.row_put_of_ne _ _ hpath] at hput
          obtain ⟨record', hparse, row, hrow, hid, own, hown, hbefore⟩ :=
            hagreed.files path text hold hdocument
          by_cases hsame : record'.sysId = document.record.sysId
          · refine ⟨record', hparse, _, hnew, hsame.symm, _, rfl, ?_⟩
            exact hpersists.last path ⟨hdocument, text, record', hold, hparse, hsame⟩
          · exact ⟨record', hparse, row, (mem_upsert (hid ▸ hsame)).mpr hrow, hid, own, hown,
              hbefore⟩
      · exact finite_put hagreed.finite _ _

/-! ## Pruning -/

section Prune

variable {io : PruneIO} {sysId path : String} {now : DateTime}

/-- Where a statement fails, the records stay as they are. -/
theorem foldl_run_keeps_records {shelf : Shelf} {done : List PruneStatement} {time : ℤ}
    (hdone : .deleteRecord ∉ done) (hrow : (shelf.records.getRecordBySysId sysId).isSome) :
    (done.foldl (PruneStatement.run sysId time) shelf).records = shelf.records := by
  rw [foldl_run hdone hrow]

/-- Nothing happens to the records and the files. -/
theorem pruneWithFile_keeps (hrow : (mirror.shelf.records.getRecordBySysId sysId).isSome)
    (hkeeps : KeepsMirror mirror io path) :
    (pruneWithFile io mirror.shelf sysId now path).2.records = mirror.shelf.records ∧
      (pruneWithFile io mirror.shelf sysId now path).2.files = mirror.shelf.files := by
  rcases hkeeps with ⟨hfile, err, hstage⟩ | ⟨⟨statement, hmem, err, hfails⟩, hrestored⟩
  · obtain ⟨text, htext⟩ := Option.ne_none_iff_exists'.mp hfile
    rw [pruneWithFile, stageMarkdownForPrune, htext, hstage]
    exact ⟨rfl, rfl⟩
  · obtain ⟨done, failed, rest, err, hsplit, hdone, hfailed⟩ :=
      (statements_or io pruneStatements).resolve_left fun hall => by
        rw [hall statement hmem] at hfails
        cases hfails
    have hlast := deleteRecord_not_mem hsplit
    rw [pruneWithFile, stageMarkdownForPrune]
    cases htext : mirror.shelf.files.row path with
    | none =>
      simp only [settle_none, hsplit, runStatements_append hdone, runStatements, hfailed]
      exact ⟨foldl_run_keeps_records hlast hrow, foldl_run_keeps_files done⟩
    | some text =>
      have hsome : mirror.shelf.files.row path ≠ none := by simp [htext]
      obtain ⟨hrestore, hfree⟩ := hrestored hsome
      cases hstage : io.stage with
      | error err => exact ⟨rfl, rfl⟩
      | ok _ =>
        simp only [hsplit, runStatements_append hdone, runStatements, hfailed, foldl_run_files,
          settleStaged, restoreStagedMarkdown, Table.row_put_self, hrestore]
        exact ⟨foldl_run_keeps_records hlast hrow, (restored_files_iff htext).mpr hfree⟩

variable {text : String}

/-- The record and its file are removed. -/
theorem pruneWithFile_removes (hrow : (mirror.shelf.records.getRecordBySysId row.sysId).isSome)
    (htext : mirror.shelf.files.row path = some text)
    (hprunes : PrunesMirror lib mirror io row path) :
    (pruneWithFile io mirror.shelf row.sysId now path).2.records =
        mirror.shelf.records.delete row.sysId ∧
      (pruneWithFile io mirror.shelf row.sysId now path).2.files =
        ((mirror.shelf.files.delete path).put (stagedPath path) text).delete (stagedPath path) := by
  have hrun : runStatements io row.sysId (timestampSeconds now) (pruneStatements ++ [])
      (mirror.shelf.staged path text) = _ := runStatements_append hprunes.statements
  rw [List.append_nil] at hrun
  rw [pruneWithFile, stageMarkdownForPrune, htext]
  simp only [hprunes.stage]
  show (settleStaged io (some path) (runStatements io row.sysId (timestampSeconds now)
    pruneStatements (mirror.shelf.staged path text))).2.records = _ ∧
    (settleStaged io (some path) (runStatements io row.sysId (timestampSeconds now)
      pruneStatements (mirror.shelf.staged path text))).2.files = _
  rw [hrun, runStatements, Shelf.staged, foldl_run_files, settleStaged]
  simp only [hprunes.removed]
  have hpurged : mirror.shelf.purged row.sysId (timestampSeconds now) = _ := purged_eq hrow
  exact ⟨congrArg Shelf.records hpurged, trivial⟩

/-- A file that was set aside is no document. -/
theorem staged_not_document (path : String) : isDocumentPath (stagedPath path) = false := by
  have hname : lastComponent (stagedPath path) =
      String.ofList ((path.toList.reverse.takeWhile (· ≠ '/')).reverse ++ ".pruning".toList) := by
    have hplain : ∀ c ∈ ".pruning".toList.reverse, decide (c ≠ '/') = true := by simp
    rw [lastComponent, stagedPath, String.toList_append, List.reverse_append,
      List.takeWhile_append_of_pos hplain, List.reverse_append, List.reverse_reverse]
  have hends : endsWith (lastComponent (stagedPath path)) ".md" = false := by
    rw [hname, endsWith, String.toList_ofList, List.reverse_append]
    rfl
  rw [isDocumentPath, hends]
  rfl

/-- A call that leaves the records and the files as they are. -/
theorem agreed_kept (hagreed : Agreed lib mirror)
    (hkept : (pruneRecord lib.prune io mirror.shelf sysId now).2.records = mirror.shelf.records ∧
      (pruneRecord lib.prune io mirror.shelf sysId now).2.files = mirror.shelf.files) :
    Agreed lib (mirror.prune lib io sysId now) := by
  refine hagreed.congr hkept.1 hkept.2 fun row hrow => ?_
  show (if _ then _ else _ : Table String String).row row.sysId = _
  by_cases hsome : ((pruneRecord lib.prune io mirror.shelf sysId now).2.records.getRecordBySysId
      sysId).isSome = true
  · rw [if_pos hsome]
  · have hnone := getRecordBySysId_eq_none.mp (Option.not_isSome_iff_eq_none.mp hsome)
    rw [if_neg hsome, Table.row_delete_of_ne]
    rw [hkept.1] at hnone
    exact hnone row hrow

/-- A record that is removed with its only file. -/
theorem agreed_removed (hagreed : Agreed lib mirror) (hrow : row ∈ mirror.shelf.records.rows)
    (hid : row.sysId = sysId)
    (htext : mirror.shelf.files.row path = some text)
    (hprunes : PrunesMirror lib mirror io row path)
    (hresult : pruneRecord lib.prune io mirror.shelf sysId now =
      pruneWithFile io mirror.shelf sysId now path) :
    Agreed lib (mirror.prune lib io sysId now) := by
  subst hid
  have hfound : (mirror.shelf.records.getRecordBySysId row.sysId).isSome := by
    rw [getRecordBySysId_eq_some.mpr ⟨hrow, rfl⟩]
    rfl
  have hremoves : (pruneWithFile io mirror.shelf row.sysId now path).2.records = _ ∧
      (pruneWithFile io mirror.shelf row.sysId now path).2.files = _ :=
    pruneWithFile_removes hfound htext hprunes
  rw [← hresult] at hremoves
  obtain ⟨hrecords, hfiles⟩ := hremoves
  have hparents : ∀ other, other ≠ row.sysId →
      (mirror.prune lib io row.sysId now).parentId.row other = mirror.parentId.row other := by
    intro other hne
    show (if _ then _ else _ : Table String String).row other = _
    split_ifs
    · rfl
    · exact Table.row_delete_of_ne _ hne
  have hkept : ∀ other, isDocumentPath other = true → other ≠ path →
      (mirror.prune lib io row.sysId now).shelf.files.row other = mirror.shelf.files.row other := by
    intro other hdocument hne
    have hstaged : other ≠ stagedPath path := by
      rintro rfl
      rw [staged_not_document] at hdocument
      cases hdocument
    show (pruneRecord lib.prune io mirror.shelf row.sysId now).2.files.row other = _
    rw [hfiles, removed_files_row, if_neg (by simp [hne, hstaged])]
  obtain ⟨own, document, hown⟩ := hagreed.rows row hrow
  obtain rfl : own = path := Option.some.inj (hown.filePath.symm.trans hprunes.own)
  constructor
  · intro other hother
    have hmem : other ∈ mirror.shelf.records.rows ∧ other.sysId ≠ row.sysId := by
      have hdeleted : other ∈ (mirror.shelf.records.delete row.sysId).rows := hrecords ▸ hother
      obtain ⟨hmem, hne⟩ := List.mem_filter.mp hdeleted
      exact ⟨hmem, of_decide_eq_true hne⟩
    obtain ⟨file, record, h⟩ := hagreed.rows other hmem.1
    have hne : file ≠ own := by
      rintro rfl
      have hsame := h.reads.symm.trans hown.reads
      rw [Option.some.inj hsame] at h
      exact hmem.2 (h.sysId.symm.trans hown.sysId)
    refine ⟨file, record, h.active, h.filePath, h.isDocument, ?_, h.sysId, ?_⟩
    · rw [hkept file h.isDocument hne]
      exact h.reads
    · rw [hparents other.sysId hmem.2]
      exact h.facts
  · intro file text' hfile hdocument
    have hne : file ≠ own := by
      rintro rfl
      have hgone : (mirror.prune lib io row.sysId now).shelf.files.row file = none := by
        show (pruneRecord lib.prune io mirror.shelf row.sysId now).2.files.row file = _
        rw [hfiles, removed_files_row, if_pos (.inl rfl)]
      rw [hgone] at hfile
      cases hfile
    rw [hkept file hdocument hne] at hfile
    obtain ⟨record, hparse, other, hother, hid, hbefore⟩ := hagreed.files file text' hfile hdocument
    refine ⟨record, hparse, other, ?_, hid, hbefore⟩
    have hdeleted : other ∈ (mirror.shelf.records.delete row.sysId).rows := by
      refine List.mem_filter.mpr ⟨hother, decide_eq_true fun heq => hne ?_⟩
      exact hprunes.only file ⟨hdocument, text', record, hfile, hparse, hid.symm.trans heq⟩
    show other ∈ (pruneRecord lib.prune io mirror.shelf row.sysId now).2.records.rows
    rw [hrecords]
    exact hdeleted
  · show {other | (pruneRecord lib.prune io mirror.shelf row.sysId now).2.files.row other ≠
      none}.Finite
    rw [hfiles]
    exact finite_delete (finite_put (finite_delete hagreed.finite _) _ _) _

/-- Pruning as the vault expects it leaves the cache and the vault in agreement. -/
theorem agreed_prune (hagreed : Agreed lib mirror)
    (hallowed : AllowedCall lib mirror (.prune io sysId now)) :
    Agreed lib (mirror.prune lib io sysId now) := by
  cases hread : io.readRow with
  | error err =>
    refine agreed_kept hagreed ?_
    rw [pruneRecord, hread]
    exact ⟨rfl, rfl⟩
  | ok _ =>
    cases hfound : mirror.shelf.records.getRecordBySysId sysId with
    | none =>
      refine agreed_kept hagreed ?_
      rw [pruneRecord, hread, hfound]
      exact ⟨rfl, rfl⟩
    | some row =>
      obtain ⟨hmem, hid⟩ := getRecordBySysId_eq_some.mp hfound
      cases hprimary : io.readPrimary with
      | error err =>
        refine agreed_kept hagreed ?_
        rw [pruneRecord, hread, hfound, hprimary]
        exact ⟨rfl, rfl⟩
      | ok _ =>
        obtain ⟨primary, hpreferred⟩ := exists_primary hmem
        have hresult : pruneRecord lib.prune io mirror.shelf sysId now =
            pruneWithFile io mirror.shelf sysId now
              (recordPath (lib.prune.materializeRecord mirror.shelf.files primary)) := by
          rw [pruneRecord, hread, hfound, hprimary]
          simp only [hpreferred]
        rcases hallowed hread row hmem hid hprimary primary
          (getPrimaryRecordByNumber_first hpreferred) with hprunes | hkeeps
        · obtain ⟨own, document, hown⟩ := hagreed.rows row hmem
          obtain ⟨text, htext, -⟩ := Option.bind_eq_some_iff.mp hown.reads
          rw [Option.some.inj (hown.filePath.symm.trans hprunes.own)] at htext
          exact agreed_removed hagreed hmem hid htext hprunes hresult
        · refine agreed_kept hagreed ?_
          rw [hresult]
          exact pruneWithFile_keeps (by rw [hfound]; rfl) hkeeps

end Prune

end Agree

/-! ## Every history -/

/-- **When the vault reproduces the cache.**  After every sequence of calls in which each document
that is persisted goes to a path that is no other record's and that the scan takes after the other
files of its `sys_id`, and each record that is pruned is found by its number, with one file, the
rebuild succeeds and says of every record what the cache says. -/
theorem rebuild_reproduces {lib : RebuildLib} {ops : List MirrorOp} {mirror : Mirror}
    (h : Runs.Run (mirrorStep lib) (AllowedCall lib) Mirror.empty ops mirror) :
    Reproduces lib mirror := by
  refine reproduces_of_agreed (h.invariant (I := fun _ mirror => Agreed lib mirror) ?_ ?_)
  · refine ⟨fun row hrow => ?_, fun path text htext => ?_, ?_⟩
    · cases hrow
    · cases htext
    · exact Set.Finite.subset Set.finite_empty fun path hpath => hpath rfl
  · intro _ mirror op _ hagreed hallowed
    cases op with
    | persist answers record built => exact agreed_persist hagreed hallowed
    | prune io sysId now => exact agreed_prune hagreed hallowed

/-! ## A record that is renumbered -/

/-- The Markdown of an incident, by its number. -/
def numberedMarkdown (number : String) : String :=
  "\n".intercalate ["---", "sys_id: \"b1\"", "number: \"" ++ number ++ "\"", "table: \"incident\"",
    "resource_type: \"incident\"", "state: \"New\"", "short_description: \"\"",
    "description: |", "  ", "synced_at: \"2026-01-01T00:00:00Z\"", "source: \"api\"", "fields:",
    "  state:", "    value: \"1\"", "    display_value: \"New\"", "---", "",
    "# " ++ number ++ ": ", "", "## Description", "", "_(empty)_", "", "## Work Notes", "",
    "_(none)_", "", "## Comments", "", "_(none)_", "", ""]

/-- The record of that Markdown. -/
def numberedRecord (number : String) : CachedRecord :=
  { incidentRecord with
    number
    fields := [("state", ⟨"1", some "New"⟩)] }

/-- Reads the incident under two numbers, given the two texts. -/
def readNumbered (one two text : String) : Option CachedRecord :=
  if text = one then some (numberedRecord "INC0000001")
  else if text = two then some (numberedRecord "INC0000002")
  else none

/-- What is open, for that incident. -/
def numberedLib (one two : String) : RebuildLib where
  getStr field := field.displayValue.orElse fun _ => field.value.bind Value.asStr
  fromTable table := if table = "incident" then .incident else .unknown
  parentRecordRef _ := none
  references _ := []
  knowledgeArticle _ _ _ := .error "no article"
  renderRecord record := if record.number = "INC0000001" then one else two
  renderApproval _ _ := ""
  parseMarkdown _ := readNumbered one two
  serializeRecordDocument _ := .null
  materializeRecordFromJson := materializeRecordFromJson
  parseDocument := readNumbered one two
  serializeVaultDocument _ := .null
  projectDocument _ rows := rows

/-- The incident is persisted under a number. -/
def persistNumbered (number text : String) : MirrorOp :=
  .persist steadyIO liveIncident (.ok ⟨numberedRecord number, text⟩)

section Numbered

variable {one two : String}

theorem readNumbered_one : readNumbered one two one = some (numberedRecord "INC0000001") :=
  if_pos rfl

theorem readNumbered_two (hne : two ≠ one) :
    readNumbered one two two = some (numberedRecord "INC0000002") := by
  rw [readNumbered, if_neg hne, if_pos rfl]

theorem numbered_path_one :
    recordPath (numberedRecord "INC0000001") = "incidents/INC0000001.md" := by decide +kernel

theorem numbered_path_two :
    recordPath (numberedRecord "INC0000002") = "incidents/INC0000002.md" := by decide +kernel

/-- The cache and the vault once the incident is persisted under both numbers. -/
def renumbered (one two : String) : Mirror :=
  mirrorStep (numberedLib one two) (persistNumbered "INC0000001" one)
    (mirrorStep (numberedLib one two) (persistNumbered "INC0000002" two) Mirror.empty)

theorem renumbered_files : (renumbered one two).shelf.files =
    (Table.empty.put "incidents/INC0000002.md" two).put "incidents/INC0000001.md" one := by
  rw [← numbered_path_one, ← numbered_path_two]
  rfl

/-- The scan takes the old file last. -/
theorem renumbered_scan (hne : two ≠ one) :
    scanDocuments (numberedLib one two) (renumbered one two).shelf.files
        ["incidents/INC0000001.md", "incidents/INC0000002.md"] =
      .ok [("incidents/INC0000001.md", numberedRecord "INC0000001"),
        ("incidents/INC0000002.md", numberedRecord "INC0000002")] := by
  have hfilter : ["incidents/INC0000001.md", "incidents/INC0000002.md"].filter isDocumentPath =
      ["incidents/INC0000001.md", "incidents/INC0000002.md"] := by decide +kernel
  have hsorted : ["incidents/INC0000001.md", "incidents/INC0000002.md"].mergeSort pathLe =
      ["incidents/INC0000001.md", "incidents/INC0000002.md"] :=
    List.mergeSort_of_pairwise (by decide +kernel)
  have hpaths : ("incidents/INC0000002.md" : String) ≠ "incidents/INC0000001.md" := by decide
  have hone : readDocument (numberedLib one two) (renumbered one two).shelf.files
      "incidents/INC0000001.md" = .ok ("incidents/INC0000001.md", numberedRecord "INC0000001") := by
    refine readDocument_eq_ok.mpr ⟨rfl, ?_⟩
    rw [renumbered_files, Table.row_put_self]
    exact readNumbered_one
  have htwo : readDocument (numberedLib one two) (renumbered one two).shelf.files
      "incidents/INC0000002.md" = .ok ("incidents/INC0000002.md", numberedRecord "INC0000002") := by
    refine readDocument_eq_ok.mpr ⟨rfl, ?_⟩
    rw [renumbered_files, Table.row_put_of_ne _ _ hpaths, Table.row_put_self]
    exact readNumbered_two hne
  rw [scanDocuments, hfilter, hsorted, List.mapM_cons, hone, List.mapM_cons, htwo]
  rfl

theorem renumbered_lists : Lists (renumbered one two).shelf.files
    ["incidents/INC0000001.md", "incidents/INC0000002.md"] := by
  refine ⟨by decide, fun path => ?_⟩
  rw [renumbered_files]
  by_cases hone : path = "incidents/INC0000001.md"
  · simp [hone]
  · rw [Table.row_put_of_ne _ _ hone]
    by_cases htwo : path = "incidents/INC0000002.md"
    · simp [htwo]
    · rw [Table.row_put_of_ne _ _ htwo]
      simp [hone, htwo]

/-- The incident is persisted under its first number. -/
theorem numbered_persists (one two : String) :
    Runs.Run (mirrorStep (numberedLib one two)) (AllowedCall (numberedLib one two)) Mirror.empty
      [persistNumbered "INC0000001" one]
      (mirrorStep (numberedLib one two) (persistNumbered "INC0000001" one) Mirror.empty) := by
  refine .next .start fun document hbuilt _ => ?_
  cases hbuilt
  have hpath : isDocumentPath (recordPath (numberedRecord "INC0000001")) = true ∧
      PlainPath (recordPath (numberedRecord "INC0000001")) := by decide +kernel
  refine ⟨rfl, ⟨readNumbered_one, readNumbered_one⟩, hpath.1, hpath.2, ?_, ?_, rfl⟩
  · intro row hrow
    cases hrow
  · rintro path ⟨-, text, record, htext, -⟩
    cases htext

end Numbered

/-- One incident, persisted once. -/
theorem rebuild_reproduces_incident :
    Reproduces (numberedLib (numberedMarkdown "INC0000001") (numberedMarkdown "INC0000002"))
      (mirrorStep (numberedLib (numberedMarkdown "INC0000001") (numberedMarkdown "INC0000002"))
        (persistNumbered "INC0000001" (numberedMarkdown "INC0000001")) Mirror.empty) :=
  rebuild_reproduces (numbered_persists _ _)

/-- **A record that is renumbered is rebuilt under its old number.**  The file it had stays in the
vault, and here the scan takes it after the new one. -/
theorem renumbered_not_reproduced :
    ¬ ∀ (lib : RebuildLib) (ops : List MirrorOp) (mirror : Mirror),
      Runs.Run (mirrorStep lib) (fun _ op => SteadyCall lib op) Mirror.empty ops mirror →
        Reproduces lib mirror := by
  intro hall
  have hne : numberedMarkdown "INC0000002" ≠ numberedMarkdown "INC0000001" := by decide +kernel
  generalize numberedMarkdown "INC0000001" = one, numberedMarkdown "INC0000002" = two at hne
  have hrun : Runs.Run (mirrorStep (numberedLib one two))
      (fun _ op => SteadyCall (numberedLib one two) op) Mirror.empty
      [persistNumbered "INC0000002" two, persistNumbered "INC0000001" one] (renumbered one two) :=
    .next (.next .start ⟨rfl, rfl, _, rfl, ⟨readNumbered_two hne, readNumbered_two hne⟩, rfl⟩)
      ⟨rfl, rfl, _, rfl, ⟨readNumbered_one, readNumbered_one⟩, rfl⟩
  obtain ⟨rebuilt, hrebuilt, hfacts⟩ := (hall _ _ _ hrun).2 _ renumbered_lists
  rw [rebuildCacheFromVault, renumbered_scan hne] at hrebuilt
  cases hrebuilt
  have hnumber := congrArg (Option.map RecordFacts.number) (hfacts "b1")
  revert hnumber
  show ¬ (some "INC0000002" = some "INC0000001")
  decide

end SnowAgent.Core
