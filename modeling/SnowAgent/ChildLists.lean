import SnowAgent.RecordLists
import SnowAgent.Runs

/-! # Child lists

The children of a record are answered from the cache as soon as it has one of them, and fetched only
if it has none.  Records enter the cache one by one, by whatever reads them; so whether a list is
complete is a matter of all that was read before.
-/
namespace SnowAgent.Core

open Json Text FirstSorted

/-! ## Persisting a record -/

/-- The records of the cache and the files of the vault. -/
structure ListedCache where
  records : ListedTable
  files : Table String String

/-- Neither rows nor files. -/
def ListedCache.empty : ListedCache := ⟨⟨[], List.nodup_nil⟩, Table.empty⟩

/-- The cache, without the columns that a document is not made of. -/
def ListedCache.toCache (cache : ListedCache) : Cache where
  records := ⟨cache.records.rows.map ListedRow.toRecordRow, by
    rw [List.map_map]
    exact cache.records.keys⟩
  files := cache.files

variable (lib : CoreLib)

/-- `extract_reference_sys_id`. -/
def extractReferenceSysId (record : Record) (field : String) : Option String :=
  ((record.getRaw field).orElse fun _ => record.getStr lib field).filter fun value => trim value ≠ ""

/-- `record_owner_sys_id`. -/
def recordOwnerSysId (record : Record) : Option String :=
  ["assigned_to", "project_manager", "demand_manager"].findSome? (extractReferenceSysId lib record)

/-- `record_row_from_snow_record`, with the assignee and the parent. -/
def listedRowFromSnowRecord (document : CachedRecord) (record : Record) (path : String) : ListedRow :=
  { recordRowFromSnowRecord lib document record path with
    assignedTo := recordOwnerSysId lib record
    parentId := (lib.parentRecordRef record).map RecordRef.sysId }

/-- `persist_record`: the cache as it is left, and whether all went well. -/
def ListedCache.persist (cache : ListedCache) (answers : CacheIO) (now : DateTime)
    (record : Record) : ListedCache × Except String Unit :=
  match runtimeDocumentFromServicenow lib cache.toCache now record with
  | .error err => (cache, .error err)
  | .ok document =>
    match answers.writeFile with
    | .error err => (cache, .error err)
    | .ok () =>
      let path := recordPath document.record
      let files := cache.files.put path document.text
      match answers.writeRow with
      | .error err => ({ cache with files }, .error err)
      | .ok () =>
        ({ records := cache.records.upsert
            (listedRowFromSnowRecord lib document.record record path)
           files }, .ok ())

/-- Persists records in turn, up to the first failure. -/
def ListedCache.persistAll (answers : Record → CacheIO) (now : DateTime) :
    List Record → ListedCache → ListedCache × Except String Unit
  | [], cache => (cache, .ok ())
  | record :: records, cache =>
    match cache.persist lib (answers record) now record with
    | (after, .error err) => (after, .error err)
    | (after, .ok ()) => persistAll answers now records after

/-! ## The children of a record -/

/-- The records of the server, what `lookup_number` finds among them, and how the tables of records
and of their children hang together for the client. -/
structure Site where
  records : List Record
  lookup : String → Option Record
  /-- `child_relation_for_table`. -/
  childRelationForTable : String → Option (String × String)
  lookup_mem : ∀ number record, lookup number = some record → record ∈ records

variable (listing : ListedTable → List ListedRow) (site : Site)

/-- `child_relation_for_parent_table`. -/
def Site.childRelationForParentTable (table : String) : Option (String × String) :=
  if table = "pm_project" ∨ table = "dmn_demand" then some ("resource_plan", "task")
  else site.childRelationForTable table

/-- The records of a table that a field links to a parent. -/
def Site.linked (table field : String) (parent : Record) : List Record :=
  site.records.filter fun record =>
    record.table = table && record.getRaw field = some parent.sysId

/-- The children of a record. -/
def Site.children (parent : Record) : List Record :=
  match site.childRelationForParentTable parent.table with
  | none => []
  | some (table, field) => site.linked table field parent

/-- `get_children` of the query engine. -/
def ListedCache.cachedChildren (cache : ListedCache) (number : String) : List CachedRecord :=
  match cache.records.getPrimaryRecordByNumber number with
  | none => []
  | some row =>
    let parent := materializeRecord lib cache.files row.toRecordRow
    listRecords lib cache.files { parentSysId := some parent.sysId } (listing cache.records)

/-- What the server, the disk and the database answer. -/
structure ChildrenIO where
  lookup : Except String Unit
  query : Except String Unit
  persist : Record → CacheIO

/-- `get_children`, once none is cached and the parent is looked up. -/
def ListedCache.fetchChildren (cache : ListedCache) (io : ChildrenIO) (now : DateTime)
    (number : String) (parent : Record) : ListedCache × Except String (List CachedRecord) :=
  match cache.persist lib (io.persist parent) now parent with
  | (after, .error err) => (after, .error err)
  | (after, .ok ()) =>
    match site.childRelationForParentTable parent.table with
    | none => (after, .ok [])
    | some (table, field) =>
      match io.query with
      | .error err => (after, .error err)
      | .ok () =>
        match after.persistAll lib io.persist now
          ((site.linked table field parent).take 500) with
        | (last, .error err) => (last, .error err)
        | (last, .ok ()) => (last, .ok (last.cachedChildren lib listing number))

/-- `get_children`. -/
def ListedCache.getChildren (cache : ListedCache) (io : ChildrenIO) (now : DateTime)
    (number : String) : ListedCache × Except String (List CachedRecord) :=
  let cached := cache.cachedChildren lib listing number
  if cached.isEmpty then
    match io.lookup with
    | .error err => (cache, .error err)
    | .ok () =>
      match site.lookup number with
      | none => (cache, .ok [])
      | some parent => cache.fetchChildren lib listing site io now number parent
  else (cache, .ok cached)

/-! ## Runs -/

/-- The operations that persist records: reads and hydrations of any kind, by the records they
persist and the answers to each, and `get_children`. -/
inductive ChildOp where
  | persist (writes : List (Record × CacheIO)) (now : DateTime)
  | getChildren (number : String) (io : ChildrenIO) (now : DateTime)

/-- One operation. -/
def childStep : ChildOp → ListedCache → ListedCache
  | .persist writes now, cache =>
    writes.foldl (fun cache write => (cache.persist lib write.2 now write.1).1) cache
  | .getChildren number io now, cache => (cache.getChildren lib listing site io now number).1

/-- **A child list is complete**: whatever `get_children` answers of a number, it has each child of
the record of that number exactly once. -/
def CompleteList (number : String) (parent : Record) (cache : ListedCache) : Prop :=
  ∀ io now result, (cache.getChildren lib listing site io now number).2 = .ok result →
    (result.map CachedRecord.sysId).Perm ((site.children parent).map Record.sysId)

/-- A record that is made a document of. -/
def Built (record : Record) (document : Document) : Prop :=
  ∃ cache now, runtimeDocumentFromServicenow lib cache now record = .ok document

/-- The server has one record of the number; its records are told apart by the files of their
documents, which read as nothing but them; and the children of the record are those that name it as
their parent, at most 500. -/
structure Separate (number : String) (parent : Record) : Prop where
  keys : (site.records.map Record.sysId).Nodup
  lookup : site.lookup number = some parent
  sysId : ∀ record ∈ site.records, ∀ document, Built lib record document →
    document.record.sysId = record.sysId
  number : ∀ record ∈ site.records, ∀ document, Built lib record document →
    (document.record.number = number ↔ record = parent)
  reads : ∀ record ∈ site.records, ∀ document, Built lib record document →
    ∀ resourceType read, lib.parseMarkdown resourceType document.text = some read →
      read.sysId = record.sysId
  paths : ∀ record ∈ site.records, ∀ other ∈ site.records, ∀ document document',
    Built lib record document → Built lib other document' →
    recordPath document.record = recordPath document'.record → record = other
  relation : ∀ record ∈ site.records,
    ((lib.parentRecordRef record).map RecordRef.sysId = some parent.sysId ↔
      record ∈ site.children parent)
  few : (site.children parent).length ≤ 500

/-- The records that fetching the children of a record is to persist, in turn. -/
def Site.fetches (io : ChildrenIO) (parent : Record) : List (Record × CacheIO) :=
  (parent, io.persist parent) ::
    match io.query with
    | .ok () => ((site.children parent).take 500).map fun child => (child, io.persist child)
    | .error _ => []

/-- The records that an operation is to persist, in turn. -/
def ChildOp.writes (cache : ListedCache) : ChildOp → List (Record × CacheIO)
  | .persist writes _ => writes
  | .getChildren number io _ =>
    if (cache.cachedChildren lib listing number).isEmpty then
      match io.lookup, site.lookup number with
      | .ok (), some parent => site.fetches io parent
      | _, _ => []
    else []

/-- All goes well with a record. -/
structure WellWritten (write : Record × CacheIO) : Prop where
  writeFile : write.2.writeFile = .ok ()
  writeRow : write.2.writeRow = .ok ()
  built : ∀ cache now, ∃ document, runtimeDocumentFromServicenow lib cache now write.1 = .ok document

/-- The cache has a row of a record. -/
def ListedCache.Holds (cache : ListedCache) (record : Record) : Prop :=
  ∃ row ∈ cache.records.rows, row.sysId = record.sysId

/-- An operation that brings in all children or none: it persists records of the server, and of the
children that are not cached either none, or all of them and without a failure. -/
structure AllOrNone (parent : Record) (cache : ListedCache) (op : ChildOp) : Prop where
  server : ∀ write ∈ op.writes lib listing site cache, write.1 ∈ site.records
  together : (∀ write ∈ op.writes lib listing site cache, write.1 ∈ site.children parent →
      cache.Holds write.1) ∨
    (∀ write ∈ op.writes lib listing site cache, WellWritten lib write) ∧
      ∀ child ∈ site.children parent, cache.Holds child ∨
        ∃ write ∈ op.writes lib listing site cache, write.1 = child

/-! ## What persisting a record changes -/

variable {document : Document} {row : ListedRow} {files : Table String String}

section Persist

variable {lib} {site : Site} {number : String} {parent record other : Record}
  {cache : ListedCache} {answers : CacheIO} {now : DateTime}

variable (lib cache answers now record) in
/-- **What persisting does**: nothing, or it writes the file, or the file and the row. -/
theorem persist_spec :
    (∃ err, cache.persist lib answers now record = (cache, .error err)) ∨
    ∃ document, Built lib record document ∧ ((∃ err, cache.persist lib answers now record =
          (⟨cache.records, cache.files.put (recordPath document.record) document.text⟩, .error err)) ∨
        cache.persist lib answers now record = (⟨cache.records.upsert
              (listedRowFromSnowRecord lib document.record record (recordPath document.record)),
            cache.files.put (recordPath document.record) document.text⟩, .ok ())) := by
  unfold ListedCache.persist
  split
  · rename_i err herr
    exact Or.inl ⟨err, rfl⟩
  · rename_i document hbuilt
    split
    · rename_i err herr
      exact Or.inl ⟨err, rfl⟩
    · refine Or.inr ⟨document, ⟨_, _, hbuilt⟩, ?_⟩
      simp only
      split
      · rename_i err herr
        exact Or.inl ⟨err, rfl⟩
      · exact Or.inr rfl

variable (cache now) in
theorem persist_ok (h : WellWritten lib (record, answers)) :
    (cache.persist lib answers now record).2 = .ok () := by
  obtain ⟨document, hdocument⟩ := h.built cache.toCache now
  have hfile : answers.writeFile = .ok () := h.writeFile
  have hrow : answers.writeRow = .ok () := h.writeRow
  simp only [ListedCache.persist, hdocument, hfile, hrow]

/-- A row is that of a record of the server, and so is its file. -/
structure RowOf (lib : CoreLib) (number : String) (parent : Record) (files : Table String String)
    (row : ListedRow) (record : Record) : Prop where
  sysId : row.sysId = record.sysId
  number : row.number = number ↔ record = parent
  parentId : row.parentId = (lib.parentRecordRef record).map RecordRef.sysId
  inScope : row.inScope = true
  path : ∃ document, Built lib record document ∧ row.filePath = some (recordPath document.record)
  reads : ∀ text, row.filePath.bind files.row = some text →
    ∀ resourceType read, lib.parseMarkdown resourceType text = some read → read.sysId = record.sysId

/-- The rows of the cache are those of records of the server. -/
def Mirrors (lib : CoreLib) (site : Site) (number : String) (parent : Record)
    (cache : ListedCache) : Prop :=
  ∀ row ∈ cache.records.rows, ∃ record ∈ site.records, RowOf lib number parent cache.files row record

variable (hsep : Separate lib site number parent)
include hsep

/-- A file that is written is none of another record's row. -/
theorem RowOf.put (hrow : RowOf lib number parent files row record)
    (hrecord : record ∈ site.records)
    (hother : other ∈ site.records) (hbuilt : Built lib other document) :
    RowOf lib number parent (files.put (recordPath document.record) document.text) row record := by
  refine ⟨hrow.sysId, hrow.number, hrow.parentId, hrow.inScope, hrow.path, ?_⟩
  obtain ⟨own, hown, hpath⟩ := hrow.path
  intro text htext resourceType read hread
  rw [hpath, Option.bind_some] at htext
  by_cases hsame : recordPath own.record = recordPath document.record
  · have heq : record = other := hsep.paths record hrecord other hother own document hown hbuilt hsame
    subst heq
    rw [hsame, Table.row_put_self] at htext
    obtain rfl := Option.some.inj htext
    exact hsep.reads record hrecord document hbuilt resourceType read hread
  · rw [Table.row_put_of_ne _ _ hsame] at htext
    refine hrow.reads text ?_ resourceType read hread
    rw [hpath, Option.bind_some]
    exact htext

theorem rowOf_written (files : Table String String) (hrecord : record ∈ site.records)
    (hbuilt : Built lib record document) :
    RowOf lib number parent (files.put (recordPath document.record) document.text)
      (listedRowFromSnowRecord lib document.record record (recordPath document.record)) record := by
  refine ⟨hsep.sysId record hrecord document hbuilt, hsep.number record hrecord document hbuilt, rfl,
    rfl, ⟨document, hbuilt, rfl⟩, ?_⟩
  intro text htext resourceType read hread
  have hself : (files.put (recordPath document.record) document.text).row
      (recordPath document.record) = some text := htext
  rw [Table.row_put_self] at hself
  obtain rfl := Option.some.inj hself
  exact hsep.reads record hrecord document hbuilt resourceType read hread

theorem mirrors_persist (hrecord : record ∈ site.records)
    (h : Mirrors lib site number parent cache) :
    Mirrors lib site number parent (cache.persist lib answers now record).1 := by
  rcases persist_spec lib record cache answers now with ⟨err, heq⟩ |
      ⟨document, hbuilt, ⟨err, heq⟩ | heq⟩
  · rw [heq]
    exact h
  · rw [heq]
    intro row hrow
    obtain ⟨own, hown, hrowOf⟩ := h row hrow
    exact ⟨own, hown, hrowOf.put hsep hown hrecord hbuilt⟩
  · rw [heq]
    intro row hrow
    rcases ListedTable.mem_upsert.mp hrow with ⟨hold, -⟩ | rfl
    · obtain ⟨own, hown, hrowOf⟩ := h row hold
      exact ⟨own, hown, hrowOf.put hsep hown hrecord hbuilt⟩
    · exact ⟨record, hrecord, rowOf_written hsep cache.files hrecord hbuilt⟩

/-- What is cached afterwards was cached before, or is the record. -/
theorem holds_of_persist (hrecord : record ∈ site.records)
    (h : (cache.persist lib answers now record).1.Holds other) :
    cache.Holds other ∨ other.sysId = record.sysId := by
  rcases persist_spec lib record cache answers now with ⟨err, heq⟩ |
      ⟨document, hbuilt, ⟨err, heq⟩ | heq⟩
  · rw [heq] at h
    exact Or.inl h
  · rw [heq] at h
    exact Or.inl h
  · rw [heq] at h
    obtain ⟨row, hrow, hid⟩ := h
    rcases ListedTable.mem_upsert.mp hrow with ⟨hold, -⟩ | rfl
    · exact Or.inl ⟨row, hold, hid⟩
    · exact Or.inr (hid.symm.trans (hsep.sysId record hrecord document hbuilt))

theorem holds_persist_self (hrecord : record ∈ site.records)
    (h : (cache.persist lib answers now record).2 = .ok ()) :
    (cache.persist lib answers now record).1.Holds record := by
  rcases persist_spec lib record cache answers now with ⟨err, heq⟩ |
      ⟨document, hbuilt, ⟨err, heq⟩ | heq⟩
  · rw [heq] at h
    cases h
  · rw [heq] at h
    cases h
  · rw [heq]
    exact ⟨_, ListedTable.mem_upsert.mpr (Or.inr rfl), hsep.sysId record hrecord document hbuilt⟩

omit hsep in
/-- What is cached stays cached. -/
theorem holds_persist (h : cache.Holds other) :
    (cache.persist lib answers now record).1.Holds other := by
  rcases persist_spec lib record cache answers now with ⟨err, heq⟩ |
      ⟨document, hbuilt, ⟨err, heq⟩ | heq⟩
  · rw [heq]
    exact h
  · rw [heq]
    exact h
  · rw [heq]
    obtain ⟨row, hrow, hid⟩ := h
    by_cases hsame : row.sysId =
        (listedRowFromSnowRecord lib document.record record (recordPath document.record)).sysId
    · exact ⟨_, ListedTable.mem_upsert.mpr (Or.inr rfl), hsame.symm.trans hid⟩
    · exact ⟨row, ListedTable.mem_upsert.mpr (Or.inl ⟨hrow, hsame⟩), hid⟩

end Persist

/-! ## Persisting several records -/

section Writes

variable {lib : CoreLib} {site : Site} {number : String} {parent child : Record}
  {cache : ListedCache} {now : DateTime} {writes : List (Record × CacheIO)}

variable (lib now writes cache) in
/-- The cache once some records are persisted in turn. -/
def ListedCache.persistWrites : ListedCache :=
  writes.foldl (fun cache write => (cache.persist lib write.2 now write.1).1) cache

theorem holds_persistWrites (h : cache.Holds child) :
    (cache.persistWrites lib now writes).Holds child := by
  induction writes generalizing cache with
  | nil => exact h
  | cons write writes step => exact step (holds_persist h)

variable (lib cache now) in
/-- Persisting in turn up to the first failure is persisting the first ones, and all of them if there
is no failure. -/
theorem persistAll_prefix (answers : Record → CacheIO) (records : List Record) :
    ∃ done, done <+: records.map (fun record => (record, answers record)) ∧
      (cache.persistAll lib answers now records).1 = cache.persistWrites lib now done ∧
      ((∀ record ∈ records, WellWritten lib (record, answers record)) →
        done = records.map fun record => (record, answers record)) := by
  induction records generalizing cache with
  | nil => exact ⟨[], List.prefix_rfl, rfl, fun _ => rfl⟩
  | cons record records step =>
    unfold ListedCache.persistAll
    split
    · rename_i after err heq
      refine ⟨[(record, answers record)], ⟨_, rfl⟩, ?_, fun hall => ?_⟩
      · show after = (cache.persist lib (answers record) now record).1
        rw [heq]
      · have hok := persist_ok cache now (hall record List.mem_cons_self)
        rw [heq] at hok
        cases hok
    · rename_i after heq
      obtain ⟨done, hfirst, hcache, hwell⟩ := @step after
      refine ⟨(record, answers record) :: done, (List.cons_prefix_cons).mpr ⟨rfl, hfirst⟩, ?_,
        fun hall => ?_⟩
      · rw [hcache]
        show _ = (cache.persist lib (answers record) now record).1.persistWrites lib now done
        rw [heq]
      · rw [hwell fun other hother => hall other (List.mem_cons_of_mem _ hother)]
        rfl

variable (hsep : Separate lib site number parent)
include hsep

section

variable (hserver : ∀ write ∈ writes, write.1 ∈ site.records)

include hserver

theorem mirrors_persistWrites (h : Mirrors lib site number parent cache) :
    Mirrors lib site number parent (cache.persistWrites lib now writes) := by
  induction writes generalizing cache with
  | nil => exact h
  | cons write writes step =>
    exact step (fun other hother => hserver other (List.mem_cons_of_mem _ hother))
      (mirrors_persist hsep (hserver write List.mem_cons_self) h)

/-- What is cached afterwards was cached before, or is one of the records. -/
theorem holds_of_persistWrites (hchild : child ∈ site.records) (h : (cache.persistWrites lib now writes).Holds child) :
    cache.Holds child ∨ ∃ write ∈ writes, write.1 = child := by
  induction writes generalizing cache with
  | nil => exact Or.inl h
  | cons write writes step =>
    have hwrite := hserver write List.mem_cons_self
    rcases step (fun other hother => hserver other (List.mem_cons_of_mem _ hother)) h with
      hbefore | ⟨other, hother, heq⟩
    · rcases holds_of_persist hsep hwrite hbefore with hbefore | hid
      · exact Or.inl hbefore
      · exact Or.inr ⟨write, List.mem_cons_self,
          (List.inj_on_of_nodup_map hsep.keys hchild hwrite hid).symm⟩
    · exact Or.inr ⟨other, List.mem_cons_of_mem _ hother, heq⟩

theorem holds_persistWrites_self (hwell : ∀ write ∈ writes, WellWritten lib write) {write : Record × CacheIO}
    (hwrite : write ∈ writes) : (cache.persistWrites lib now writes).Holds write.1 := by
  induction writes generalizing cache with
  | nil => exact absurd hwrite List.not_mem_nil
  | cons first writes step =>
    rcases List.mem_cons.mp hwrite with rfl | hwrite
    · have hself : (cache.persist lib write.2 now write.1).1.Holds write.1 :=
        holds_persist_self hsep (hserver write List.mem_cons_self)
          (persist_ok _ _ (hwell write List.mem_cons_self))
      show ((cache.persist lib write.2 now write.1).1.persistWrites lib now writes).Holds write.1
      exact holds_persistWrites hself
    · exact step (fun other hother => hserver other (List.mem_cons_of_mem _ hother))
        (fun other hother => hwell other (List.mem_cons_of_mem _ hother)) hwrite

end

/-- What is persisted without a failure is cached. -/
theorem persistAll_ok (answers : Record → CacheIO) {records : List Record}
    (hserver : ∀ record ∈ records, record ∈ site.records)
    (h : Mirrors lib site number parent cache)
    (hok : (cache.persistAll lib answers now records).2 = .ok ()) :
    Mirrors lib site number parent (cache.persistAll lib answers now records).1 ∧
      (∀ record, cache.Holds record → (cache.persistAll lib answers now records).1.Holds record) ∧
      ∀ record ∈ records, (cache.persistAll lib answers now records).1.Holds record := by
  induction records generalizing cache with
  | nil => exact ⟨h, fun _ hheld => hheld, fun record hrecord => absurd hrecord List.not_mem_nil⟩
  | cons record records step =>
    have hrecord := hserver record List.mem_cons_self
    unfold ListedCache.persistAll at hok ⊢
    split at hok
    · cases hok
    · rename_i after heq
      have hmirrors : Mirrors lib site number parent
          (cache.persist lib (answers record) now record).1 := mirrors_persist hsep hrecord h
      have hself : (cache.persist lib (answers record) now record).1.Holds record :=
        holds_persist_self hsep hrecord (by rw [heq])
      have hkept : ∀ other, cache.Holds other →
          (cache.persist lib (answers record) now record).1.Holds other := fun _ => holds_persist
      rw [heq] at hmirrors hself hkept
      obtain ⟨hmirrors, hheld, hnew⟩ :=
        step (fun other hother => hserver other (List.mem_cons_of_mem _ hother)) hmirrors hok
      refine ⟨hmirrors, fun other hother => hheld other (hkept other hother), fun other hother => ?_⟩
      rcases List.mem_cons.mp hother with rfl | hother
      · exact hheld other hself
      · exact hnew other hother

end Writes

/-! ## Complete lists -/

section Complete

variable {lib : CoreLib} {listing : ListedTable → List ListedRow} {site : Site} {number : String}
  {parent : Record} {cache : ListedCache}

/-- The record of a row has its `sys_id`. -/
theorem RowOf.materialized {record : Record} (h : RowOf lib number parent files row record) :
    (materializeRecord lib files row.toRecordRow).sysId = row.sysId := by
  rw [materializeRecord, loadRecordFromVault]
  rcases htext : row.filePath.bind files.row with _ | text
  · rfl
  · rcases hread : lib.parseMarkdown row.resourceType text with _ | read
    · rw [Option.bind_some, hread]
      rfl
    · rw [Option.bind_some, hread]
      exact (h.reads text htext row.resourceType read hread).trans h.sysId.symm

theorem Separate.parent_mem (hsep : Separate lib site number parent) : parent ∈ site.records :=
  site.lookup_mem number parent hsep.lookup

theorem Site.children_sublist (parent : Record) : (site.children parent).Sublist site.records := by
  unfold Site.children
  split
  · exact List.nil_sublist _
  · exact List.filter_sublist

theorem Site.child_mem {child : Record} (h : child ∈ site.children parent) : child ∈ site.records :=
  (Site.children_sublist parent).subset h

variable (hsep : Separate lib site number parent)
  (hlisting : ∀ table, ListActiveRecords none table (listing table))
  (hmirrors : Mirrors lib site number parent cache)
include hsep hmirrors

/-- A row with the `sys_id` of a record is its row. -/
theorem rowOf_of_sysId {record : Record} (hrow : row ∈ cache.records.rows)
    (hrecord : record ∈ site.records) (hid : row.sysId = record.sysId) :
    RowOf lib number parent cache.files row record := by
  obtain ⟨other, hother, hrowOf⟩ := hmirrors row hrow
  have hsame : other = record :=
    List.inj_on_of_nodup_map hsep.keys hother hrecord (hrowOf.sysId.symm.trans hid)
  exact hsame ▸ hrowOf

include hlisting

/-- **The cached children** are the rows that name the record as their parent, if it is cached. -/
theorem cachedChildren_sysIds (hparent : cache.Holds parent) :
    ((cache.cachedChildren lib listing number).map CachedRecord.sysId).Perm
      ((cache.records.rows.filter fun row => row.parentId = some parent.sysId).map fun row =>
        row.sysId) := by
  obtain ⟨held, hheld, hid⟩ := hparent
  have hnamed : held.number = number :=
    (rowOf_of_sysId hsep hmirrors hheld hsep.parent_mem hid).number.mpr rfl
  unfold ListedCache.cachedChildren
  rcases hfirst : cache.records.getPrimaryRecordByNumber number with _ | row
  · have hmem : held ∈ cache.records.rows.filter fun row => row.number = number :=
      List.mem_filter.mpr ⟨hheld, decide_eq_true hnamed⟩
    rw [List.argmin_eq_none.mp hfirst] at hmem
    exact absurd hmem List.not_mem_nil
  · obtain ⟨hrow, hnumber⟩ := List.mem_filter.mp (List.argmin_mem hfirst)
    obtain ⟨record, hrecord, hrowOf⟩ := hmirrors row hrow
    have hsame : record = parent := hrowOf.number.mp (of_decide_eq_true hnumber)
    have hparentId : (materializeRecord lib cache.files row.toRecordRow).sysId = parent.sysId := by
      rw [hrowOf.materialized, hrowOf.sysId, hsame]
    simp only [hparentId]
    have hmap : (listRecords lib cache.files { parentSysId := some parent.sysId }
        (listing cache.records)).map CachedRecord.sysId = ((listing cache.records).filter
            (ListQuery.isMatch { parentSysId := some parent.sysId })).map fun row => row.sysId := by
      show (((listing cache.records).filter _).map _).map _ = _
      rw [List.map_map]
      refine List.map_congr_left fun other hother => ?_
      have hmem : other ∈ cache.records.rows := (List.mem_filter.mp
        ((hlisting cache.records).perm.mem_iff.mp (List.mem_filter.mp hother).1)).1
      obtain ⟨_, -, hrowOf⟩ := hmirrors other hmem
      exact hrowOf.materialized
    rw [hmap]
    refine ((((hlisting cache.records).perm.filter _).map _).trans ?_)
    rw [activeRows, List.filter_filter]
    refine List.Perm.of_eq (congrArg _ (List.filter_congr fun other hother => ?_))
    obtain ⟨_, -, hrowOf⟩ := hmirrors other hother
    simp [ListQuery.isMatch, hrowOf.inScope]

omit hlisting in
/-- Without the record no children are found. -/
theorem cachedChildren_of_not_holds (hparent : ¬ cache.Holds parent) :
    cache.cachedChildren lib listing number = [] := by
  unfold ListedCache.cachedChildren
  rcases hfirst : cache.records.getPrimaryRecordByNumber number with _ | row
  · rfl
  · obtain ⟨hrow, hnumber⟩ := List.mem_filter.mp (List.argmin_mem hfirst)
    obtain ⟨record, hrecord, hrowOf⟩ := hmirrors row hrow
    obtain rfl : record = parent := hrowOf.number.mp (of_decide_eq_true hnumber)
    exact absurd ⟨row, hrow, hrowOf.sysId⟩ hparent

/-- When the record and all its children are cached, all are found. -/
theorem cachedChildren_complete (hparent : cache.Holds parent)
    (hchildren : ∀ child ∈ site.children parent, cache.Holds child) :
    ((cache.cachedChildren lib listing number).map CachedRecord.sysId).Perm
      ((site.children parent).map Record.sysId) := by
  refine (cachedChildren_sysIds hsep hlisting hmirrors hparent).trans ?_
  refine (List.perm_ext_iff_of_nodup ((List.filter_sublist.map _).nodup cache.records.keys)
    (((Site.children_sublist parent).map _).nodup hsep.keys)).mpr fun sysId => ?_
  rw [List.mem_map, List.mem_map]
  constructor
  · rintro ⟨row, hrow, rfl⟩
    obtain ⟨hrow, hlinked⟩ := List.mem_filter.mp hrow
    obtain ⟨record, hrecord, hrowOf⟩ := hmirrors row hrow
    refine ⟨record, (hsep.relation record hrecord).mp ?_, hrowOf.sysId.symm⟩
    rw [← hrowOf.parentId]
    exact of_decide_eq_true hlinked
  · rintro ⟨child, hchild, rfl⟩
    obtain ⟨row, hrow, hid⟩ := hchildren child hchild
    have hmem := Site.child_mem hchild
    have hrowOf := rowOf_of_sysId hsep hmirrors hrow hmem hid
    refine ⟨row, List.mem_filter.mpr ⟨hrow, decide_eq_true ?_⟩, hid⟩
    rw [hrowOf.parentId]
    exact (hsep.relation child hmem).mpr hchild

/-- A child that is found is cached. -/
theorem holds_of_cachedChildren (hne : cache.cachedChildren lib listing number ≠ []) :
    cache.Holds parent ∧ ∃ child ∈ site.children parent, cache.Holds child := by
  by_cases hparent : cache.Holds parent
  · refine ⟨hparent, ?_⟩
    obtain ⟨found, hfound⟩ := List.exists_mem_of_ne_nil _ hne
    have hmem := (cachedChildren_sysIds hsep hlisting hmirrors hparent).mem_iff.mp
      (List.mem_map_of_mem hfound)
    obtain ⟨row, hrow, -⟩ := List.mem_map.mp hmem
    obtain ⟨hrow, hlinked⟩ := List.mem_filter.mp hrow
    obtain ⟨record, hrecord, hrowOf⟩ := hmirrors row hrow
    refine ⟨record, (hsep.relation record hrecord).mp ?_, row, hrow, hrowOf.sysId⟩
    rw [← hrowOf.parentId]
    exact of_decide_eq_true hlinked
  · exact absurd (cachedChildren_of_not_holds hsep hmirrors hparent) hne

/-- **Where all children are cached or none**, the list of children is complete. -/
theorem completeList_of_together (htogether : (∀ child ∈ site.children parent, cache.Holds child) ∨
      ∀ child ∈ site.children parent, ¬ cache.Holds child) :
    CompleteList lib listing site number parent cache := by
  intro io now result hresult
  unfold ListedCache.getChildren at hresult
  by_cases hempty : cache.cachedChildren lib listing number = []
  · -- nothing is cached, and all is fetched
    simp only [hempty, List.isEmpty_nil, if_true, hsep.lookup] at hresult
    split at hresult
    · cases hresult
    · unfold ListedCache.fetchChildren at hresult
      split at hresult
      · cases hresult
      · rename_i after heq
        have hafter : Mirrors lib site number parent
            (cache.persist lib (io.persist parent) now parent).1 :=
          mirrors_persist hsep hsep.parent_mem hmirrors
        have hheld : (cache.persist lib (io.persist parent) now parent).1.Holds parent :=
          holds_persist_self hsep hsep.parent_mem (by rw [heq])
        rw [heq] at hafter hheld
        split at hresult
        · rename_i hrelation
          obtain rfl := Except.ok.inj hresult
          unfold Site.children
          rw [hrelation]
          exact List.Perm.refl _
        · rename_i table field hrelation
          have hchildren : site.children parent = site.linked table field parent := by
            unfold Site.children
            rw [hrelation]
          have hall : (site.linked table field parent).take 500 = site.children parent := by
            rw [← hchildren]
            exact List.take_of_length_le hsep.few
          rw [hall] at hresult
          split at hresult
          · cases hresult
          · split at hresult
            · cases hresult
            · rename_i last hlast
              obtain rfl := Except.ok.inj hresult
              obtain ⟨hmirrors', hkept, hnew⟩ := persistAll_ok hsep io.persist
                (fun child hchild => Site.child_mem hchild) hafter (by rw [hlast])
              rw [hlast] at hmirrors' hkept hnew
              exact cachedChildren_complete hsep hlisting hmirrors' (hkept parent hheld) hnew
  · -- a child is cached, and so all are
    rw [if_neg (by simpa using hempty)] at hresult
    obtain rfl := Except.ok.inj hresult
    obtain ⟨hparent, child, hchild, hholds⟩ := holds_of_cachedChildren hsep hlisting hmirrors hempty
    refine cachedChildren_complete hsep hlisting hmirrors hparent ?_
    rcases htogether with hall | hnone
    · exact hall
    · exact absurd hholds (hnone child hchild)

end Complete

/-! ## Complete lists along a run -/

section Runs

variable {lib : CoreLib} {listing : ListedTable → List ListedRow} {site : Site} {number : String}
  {parent : Record} {cache : ListedCache}

/-- Fetching the children of a record persists it, and then of the children what the server answers
with, up to the first failure. -/
theorem fetchChildren_writes (io : ChildrenIO) (now : DateTime) (asked : String) (found : Record) :
    ∃ done, done <+: site.fetches io found ∧
      (cache.fetchChildren lib listing site io now asked found).1 =
        cache.persistWrites lib now done ∧
      ((∀ write ∈ site.fetches io found, WellWritten lib write) → done = site.fetches io found) := by
  unfold ListedCache.fetchChildren
  split
  · rename_i after err heq
    refine ⟨[(found, io.persist found)], List.cons_prefix_cons.mpr ⟨rfl, List.nil_prefix⟩, ?_,
      fun hall => ?_⟩
    · show after = (cache.persist lib (io.persist found) now found).1
      rw [heq]
    · have hok := persist_ok cache now (hall _ List.mem_cons_self)
      rw [heq] at hok
      cases hok
  · rename_i after heq
    have hafter : after = cache.persistWrites lib now [(found, io.persist found)] := by
      show after = (cache.persist lib (io.persist found) now found).1
      rw [heq]
    rcases hrelation : site.childRelationForParentTable found.table with _ | ⟨table, field⟩
    · have hnone : site.children found = [] := by
        unfold Site.children
        rw [hrelation]
      refine ⟨[(found, io.persist found)], List.cons_prefix_cons.mpr ⟨rfl, List.nil_prefix⟩, hafter,
        fun _ => ?_⟩
      rw [Site.fetches, hnone]
      rcases io.query with _ | ⟨⟩
      · rfl
      · rfl
    · have hchildren : site.children found = site.linked table field found := by
        unfold Site.children
        rw [hrelation]
      rcases hquery : io.query with err | ⟨⟩
      · refine ⟨[(found, io.persist found)], List.cons_prefix_cons.mpr ⟨rfl, List.nil_prefix⟩, hafter,
          fun _ => ?_⟩
        rw [Site.fetches, hquery]
      · obtain ⟨done, hfirst, hcache, hwell⟩ := persistAll_prefix lib after now
          io.persist ((site.linked table field found).take 500)
        have hfetches : site.fetches io found = (found, io.persist found) ::
            ((site.linked table field found).take 500).map fun child => (child, io.persist child) := by
          rw [Site.fetches, hquery, hchildren]
        rw [hfetches]
        refine ⟨(found, io.persist found) :: done, List.cons_prefix_cons.mpr ⟨rfl, hfirst⟩, ?_,
          fun hall => ?_⟩
        · have hlast : (after.persistAll lib io.persist now
              ((site.linked table field found).take 500)).1 =
                cache.persistWrites lib now ((found, io.persist found) :: done) := by
            rw [hcache, hafter]
            rfl
          rw [← hlast]
          simp only
          split
          · rename_i last err heq'
            rw [heq']
          · rename_i last heq'
            rw [heq']
        · rw [hwell fun child hchild => hall _ (List.mem_cons_of_mem _ (List.mem_map_of_mem hchild))]

variable (lib listing site cache) in
/-- **What an operation does**: it persists some of its records, the first ones, and all of them if
there is no failure. -/
theorem childStep_writes (op : ChildOp) :
    ∃ now done, done <+: op.writes lib listing site cache ∧
      childStep lib listing site op cache = cache.persistWrites lib now done ∧
      ((∀ write ∈ op.writes lib listing site cache, WellWritten lib write) →
        done = op.writes lib listing site cache) := by
  rcases op with ⟨writes, now⟩ | ⟨asked, io, now⟩
  · exact ⟨now, writes, List.prefix_rfl, rfl, fun _ => rfl⟩
  · refine ⟨now, ?_⟩
    unfold ChildOp.writes childStep ListedCache.getChildren
    by_cases hempty : (cache.cachedChildren lib listing asked).isEmpty = true
    · simp only [hempty, if_true]
      rcases io.lookup with err | ⟨⟩
      · exact ⟨[], List.prefix_rfl, rfl, fun _ => rfl⟩
      · rcases site.lookup asked with _ | found
        · exact ⟨[], List.prefix_rfl, rfl, fun _ => rfl⟩
        · exact fetchChildren_writes io now asked found
    · simp only [hempty]
      exact ⟨[], List.prefix_rfl, rfl, fun _ => rfl⟩

/-- Nothing is cached at first. -/
theorem not_holds_empty (record : Record) : ¬ ListedCache.empty.Holds record := by
  rintro ⟨row, hrow, -⟩
  exact List.not_mem_nil hrow

/-- **When the lists of children are complete.**  In every run of the operations that persist records,
if each of them brings in all children of a record or none, then whatever `get_children` answers of
its number has each child exactly once. -/
theorem get_children_complete (hsep : Separate lib site number parent)
    (hlisting : ∀ table, ListActiveRecords none table (listing table)) {ops : List ChildOp}
    (hrun : Runs.Run (childStep lib listing site) (AllOrNone lib listing site parent)
      ListedCache.empty ops cache) :
    CompleteList lib listing site number parent cache := by
  have hinvariant : Mirrors lib site number parent cache ∧
      ((∀ child ∈ site.children parent, cache.Holds child) ∨
        ∀ child ∈ site.children parent, ¬ cache.Holds child) := by
    refine hrun.invariant (I := fun _ cache => Mirrors lib site number parent cache ∧
      ((∀ child ∈ site.children parent, cache.Holds child) ∨
        ∀ child ∈ site.children parent, ¬ cache.Holds child)) ?_ ?_
    · exact ⟨fun row hrow => absurd hrow List.not_mem_nil,
        Or.inr fun child _ => not_holds_empty child⟩
    · rintro - before op - ⟨hmirrors, htogether⟩ hallowed
      obtain ⟨now, done, hfirst, hstep, hall⟩ := childStep_writes lib listing site before op
      rw [hstep]
      have hserver : ∀ write ∈ done, write.1 ∈ site.records := fun write hwrite =>
        hallowed.server write (hfirst.subset hwrite)
      refine ⟨mirrors_persistWrites hsep hserver hmirrors, ?_⟩
      rcases hallowed.together with hold | ⟨hwell, hnew⟩
      · rcases htogether with hheld | hnone
        · exact Or.inl fun child hchild => holds_persistWrites (hheld child hchild)
        · refine Or.inr fun child hchild hholds => ?_
          rcases holds_of_persistWrites hsep hserver (Site.child_mem hchild) hholds with
            hbefore | ⟨write, hwrite, rfl⟩
          · exact hnone child hchild hbefore
          · exact hnone write.1 hchild (hold write (hfirst.subset hwrite) hchild)
      · obtain rfl := hall hwell
        refine Or.inl fun child hchild => ?_
        rcases hnew child hchild with hbefore | ⟨write, hwrite, rfl⟩
        · exact holds_persistWrites hbefore
        · exact holds_persistWrites_self hsep hserver hwell hwrite
  exact completeList_of_together hsep hlisting hinvariant.1 hinvariant.2

end Runs

/-! ## A change and its tasks -/

/-- A change with its number. -/
def liveChange : Record where
  sysId := "c1"
  table := "change_request"
  fields := [("number", ⟨some (.string "CHG0000001"), some "CHG0000001"⟩)]

/-- A task of that change. -/
def liveTask (sysId number : String) : Record where
  sysId := sysId
  table := "change_task"
  fields := [("change_request", ⟨some (.string "c1"), some "CHG0000001"⟩),
    ("number", ⟨some (.string number), some number⟩)]

/-- The first task. -/
def firstTask : Record := liveTask "t1" "CTASK0000001"

/-- The second task. -/
def secondTask : Record := liveTask "t2" "CTASK0000002"

/-- The parent of a task. -/
def changeOf (record : Record) : Option RecordRef :=
  if record.table = "change_task" then
    (record.getRaw "change_request").map fun sysId =>
      ⟨sysId, (record.getDisplay "change_request").getD "", "change_request"⟩
  else none

/-- The Markdown of a change or a task that was read at the beginning of 2026. -/
def changeMarkdown (record : CachedRecord) : String :=
  let quote (key value : String) : String := key ++ ": \"" ++ value ++ "\""
  "\n".intercalate (["---", quote "sys_id" record.sysId, quote "number" record.number,
      quote "table" record.table,
      quote "resource_type" (if record.resourceType = .change then "change" else "change_task"),
      quote "state" "", quote "short_description" "", "description: |", "  ",
      quote "synced_at" "2026-01-01T00:00:00Z", quote "source" "api"] ++
    (record.parent.toList.flatMap fun parent => ["parent:", quote "  sys_id" parent.sysId,
      quote "  number" parent.number, quote "  table" parent.table]) ++ ["fields:"] ++
    (record.fields.flatMap fun entry => ["  " ++ entry.1 ++ ":", quote "    value" entry.2.value,
      quote "    display_value" (entry.2.displayValue.getD "")]) ++
    ["---", "", "# " ++ record.number ++ ": ", "", "## Description", "", "_(empty)_", "",
      "## Work Notes", "", "_(none)_", "", "## Comments", "", "_(none)_", "", ""])

/-- The document of the change, with the fields that it has. -/
def cachedChange : CachedRecord where
  sysId := "c1"
  number := "CHG0000001"
  table := "change_request"
  resourceType := .change
  state := ""
  shortDescription := ""
  description := ""
  fields := [("number", ⟨"CHG0000001", some "CHG0000001"⟩)]
  parent := none
  references := []
  syncedAt := newYear

/-- The document of a task. -/
def cachedTask (sysId number : String) : CachedRecord where
  sysId := sysId
  number := number
  table := "change_task"
  resourceType := .changeTask
  state := ""
  shortDescription := ""
  description := ""
  fields := [("change_request", ⟨"c1", some "CHG0000001"⟩), ("number", ⟨number, some number⟩)]
  parent := some ⟨"c1", "CHG0000001", "change_request"⟩
  references := []
  syncedAt := newYear

/-- Renders and reads changes and tasks. -/
def changeLib : CoreLib where
  getStr field := field.displayValue.orElse fun _ => field.value.bind Value.asStr
  fromTable table :=
    if table = "change_request" then .change
    else if table = "change_task" then .changeTask
    else .unknown
  parentRecordRef := changeOf
  references _ := []
  knowledgeArticle _ _ _ := .error "no article"
  renderRecord := changeMarkdown
  renderApproval _ _ := ""
  parseMarkdown _ text :=
    [cachedChange, cachedTask "t1" "CTASK0000001", cachedTask "t2" "CTASK0000002"].find?
      fun record => changeMarkdown record = text
  serializeRecordDocument record := obj (record.fields.map fun entry =>
    (entry.1, obj [("value", entry.2.value.getD .null),
      ("display_value", .string (entry.2.displayValue.getD ""))]))

/-- A server with the change and its two tasks. -/
def changeSite : Site where
  records := [liveChange, firstTask, secondTask]
  lookup number := [liveChange, firstTask, secondTask].find? fun record =>
    record.getRaw "number" = some number
  childRelationForTable table :=
    if table = "change_request" then some ("change_task", "change_request") else none
  lookup_mem _ _ h := List.mem_of_find?_eq_some h

theorem changeMarkdown_syncedAt (record : CachedRecord) (now : DateTime) :
    changeMarkdown { record with syncedAt := now } = changeMarkdown record := rfl

/-- The documents of the change and of its tasks. -/
def changeDocuments : List CachedRecord :=
  [cachedChange, cachedTask "t1" "CTASK0000001", cachedTask "t2" "CTASK0000002"]

/-- The document of a record is that, whenever it is read. -/
theorem built_change {record : Record} (hrecord : record ∈ changeSite.records)
    (h : Built changeLib record document) : ∃ kept ∈ changeDocuments,
      kept.sysId = record.sysId ∧ (∃ now, document.record = { kept with syncedAt := now }) ∧
        document.text = changeMarkdown kept := by
  obtain ⟨cache, now, h⟩ := h
  have htext : ∀ kept : CachedRecord, document.record = { kept with syncedAt := now } →
      document.text = changeMarkdown document.record → document.text = changeMarkdown kept := by
    intro kept hkept htext
    rw [htext, hkept, changeMarkdown_syncedAt]
  simp only [changeSite, List.mem_cons, List.not_mem_nil, or_false] at hrecord
  rcases hrecord with rfl | rfl | rfl
  · obtain rfl := Except.ok.inj h
    exact ⟨cachedChange, by simp [changeDocuments], rfl, ⟨now, rfl⟩, htext _ rfl rfl⟩
  · obtain rfl := Except.ok.inj h
    exact ⟨cachedTask "t1" "CTASK0000001", by simp [changeDocuments], rfl, ⟨now, rfl⟩,
      htext _ rfl rfl⟩
  · obtain rfl := Except.ok.inj h
    exact ⟨cachedTask "t2" "CTASK0000002", by simp [changeDocuments], rfl, ⟨now, rfl⟩,
      htext _ rfl rfl⟩

/-- The Markdown and the path tell the three documents apart. -/
theorem changeDocuments_apart : ∀ a ∈ changeDocuments, ∀ b ∈ changeDocuments,
    changeMarkdown a = changeMarkdown b ∨ recordPath a = recordPath b → a.sysId = b.sysId := by
  decide +kernel

theorem changeSite_sysId : ∀ a ∈ changeSite.records, ∀ b ∈ changeSite.records,
    a.sysId = b.sysId → a = b := by
  decide

/-- The three records of the server are told apart. -/
theorem changeSite_separate : Separate changeLib changeSite "CHG0000001" liveChange := by
  refine ⟨by decide, by decide, ?_, ?_, ?_, ?_, by decide, by decide⟩
  · intro record hrecord document hbuilt
    obtain ⟨kept, -, hid, ⟨now, hkept⟩, -⟩ := built_change hrecord hbuilt
    rw [hkept]
    exact hid
  · intro record hrecord document hbuilt
    obtain ⟨kept, hmem, hid, ⟨now, hkept⟩, -⟩ := built_change hrecord hbuilt
    have hnumber : ∀ kept ∈ changeDocuments, ∀ record ∈ changeSite.records,
        kept.sysId = record.sysId → (kept.number = "CHG0000001" ↔ record = liveChange) := by
      decide
    rw [hkept]
    exact hnumber kept hmem record hrecord hid
  · intro record hrecord document hbuilt resourceType read hread
    obtain ⟨kept, hmem, hid, -, htext⟩ := built_change hrecord hbuilt
    rw [htext] at hread
    have hfind : changeDocuments.find? (fun record => decide (changeMarkdown record =
      changeMarkdown kept)) = some read := hread
    have hsame := List.find?_some hfind
    rw [← hid]
    exact changeDocuments_apart read (List.mem_of_find?_eq_some hfind) kept hmem
      (.inl (of_decide_eq_true hsame))
  · intro record hrecord other hother document document' hbuilt hbuilt' hpath
    obtain ⟨kept, hmem, hid, ⟨now, hkept⟩, -⟩ := built_change hrecord hbuilt
    obtain ⟨kept', hmem', hid', ⟨now', hkept'⟩, -⟩ := built_change hother hbuilt'
    rw [hkept, hkept'] at hpath
    refine changeSite_sysId record hrecord other hother ?_
    rw [← hid, ← hid']
    exact changeDocuments_apart kept hmem kept' hmem' (.inr hpath)

/-- The active rows, sorted by their number. -/
def numberListing (table : ListedTable) : List ListedRow :=
  (activeRows none table).mergeSort fun a b => decide (a.number ≤ b.number)

theorem numberListing_lists (table : ListedTable) :
    ListActiveRecords none table (numberListing table) :=
  listedBy_mergeSort _ _

/-- The server, the disk and the database answer. -/
def steadyChildren : ChildrenIO := ⟨.ok (), .ok (), fun _ => steadyIO⟩

theorem wellWritten_change (record : Record) (hrecord : record ∈ changeSite.records) :
    WellWritten changeLib (record, steadyIO) := by
  refine ⟨rfl, rfl, fun cache now => ?_⟩
  have htable : record.table ≠ "kb_knowledge" ∧ record.table ≠ "sysapproval_approver" := by
    revert record
    decide
  simp only [runtimeDocumentFromServicenow, if_neg htable.1, if_neg htable.2]
  exact ⟨_, rfl⟩

/-- The tasks are asked for at once. -/
theorem children_complete_of_change :
    ∃ cache, Runs.Run (childStep changeLib numberListing changeSite)
        (AllOrNone changeLib numberListing changeSite liveChange) ListedCache.empty
        [.getChildren "CHG0000001" steadyChildren newYear] cache ∧
      CompleteList changeLib numberListing changeSite "CHG0000001" liveChange cache := by
  have hallowed : AllOrNone changeLib numberListing changeSite liveChange ListedCache.empty
      (.getChildren "CHG0000001" steadyChildren newYear) := by
    have hwrites : ChildOp.writes changeLib numberListing changeSite ListedCache.empty
        (.getChildren "CHG0000001" steadyChildren newYear) =
          [(liveChange, steadyIO), (firstTask, steadyIO), (secondTask, steadyIO)] := by
      rfl
    refine ⟨?_, Or.inr ⟨?_, ?_⟩⟩
    · rw [hwrites]
      decide
    · rw [hwrites]
      intro write hwrite
      simp only [List.mem_cons, List.not_mem_nil, or_false] at hwrite
      rcases hwrite with rfl | rfl | rfl <;> exact wellWritten_change _ (by decide)
    · rw [hwrites]
      intro child hchild
      have hchild : child = firstTask ∨ child = secondTask := by
        revert hchild child
        decide
      refine Or.inr ?_
      rcases hchild with rfl | rfl
      · exact ⟨(firstTask, steadyIO), by simp, rfl⟩
      · exact ⟨(secondTask, steadyIO), by simp, rfl⟩
  exact ⟨_, .next .start hallowed,
    get_children_complete changeSite_separate numberListing_lists (.next .start hallowed)⟩

/-- The cache once the first task and the change are read, each alone. -/
def taskAlone : ListedCache :=
  childStep changeLib numberListing changeSite (.persist [(liveChange, steadyIO)] newYear)
    (childStep changeLib numberListing changeSite (.persist [(firstTask, steadyIO)] newYear)
      ListedCache.empty)

/-- Its only child is the first task. -/
theorem taskAlone_children :
    ((taskAlone.cachedChildren changeLib numberListing "CHG0000001").map CachedRecord.sysId).Perm
      ["t1"] := by
  have hserver : ∀ write ∈ [(firstTask, steadyIO), (liveChange, steadyIO)],
      write.1 ∈ changeSite.records := by decide
  have hcache : taskAlone = ListedCache.empty.persistWrites changeLib newYear
      [(firstTask, steadyIO), (liveChange, steadyIO)] := rfl
  have hmirrors : Mirrors changeLib changeSite "CHG0000001" liveChange taskAlone := by
    rw [hcache]
    exact mirrors_persistWrites changeSite_separate hserver
      fun row hrow => absurd hrow List.not_mem_nil
  have hholds : taskAlone.Holds liveChange := by
    rw [hcache]
    have hlast : (liveChange, steadyIO) ∈ [(firstTask, steadyIO), (liveChange, steadyIO)] :=
      List.mem_cons_of_mem _ List.mem_cons_self
    refine holds_persistWrites_self changeSite_separate hserver (fun write hwrite => ?_) hlast
    have hwell := wellWritten_change write.1 (hserver write hwrite)
    simp only [List.mem_cons, List.not_mem_nil, or_false] at hwrite
    rcases hwrite with rfl | rfl
    · exact hwell
    · exact hwell
  have hrows : (taskAlone.records.rows.filter fun row => row.parentId = some "c1").map
      (fun row => row.sysId) = ["t1"] := by
    decide +kernel
  exact hrows ▸ cachedChildren_sysIds changeSite_separate numberListing_lists hmirrors hholds

/-- **A child that was read alone hides the others.**  A task and its change are read, each alone and
without a failure; the tasks of the change are then the one that was read. -/
theorem children_hidden :
    ∃ cache, Runs.Run (childStep changeLib numberListing changeSite)
        (fun before op => ∀ write ∈ op.writes changeLib numberListing changeSite before,
          write.1 ∈ changeSite.records ∧ WellWritten changeLib write) ListedCache.empty
        [.persist [(firstTask, steadyIO)] newYear, .persist [(liveChange, steadyIO)] newYear] cache ∧
      Separate changeLib changeSite "CHG0000001" liveChange ∧
      (∀ table, ListActiveRecords none table (numberListing table)) ∧
      ¬ CompleteList changeLib numberListing changeSite "CHG0000001" liveChange cache := by
  have hrun : Runs.Run (childStep changeLib numberListing changeSite)
      (fun before op => ∀ write ∈ op.writes changeLib numberListing changeSite before,
        write.1 ∈ changeSite.records ∧ WellWritten changeLib write) ListedCache.empty
      [.persist [(firstTask, steadyIO)] newYear, .persist [(liveChange, steadyIO)] newYear]
      taskAlone := by
    refine .next (.next .start ?_) ?_
    · intro write hwrite
      obtain rfl := List.mem_singleton.mp hwrite
      exact ⟨by decide, wellWritten_change _ (by decide)⟩
    · intro write hwrite
      obtain rfl := List.mem_singleton.mp hwrite
      exact ⟨by decide, wellWritten_change _ (by decide)⟩
  refine ⟨taskAlone, hrun, changeSite_separate, numberListing_lists, fun hcomplete => ?_⟩
  have hnonempty : (taskAlone.cachedChildren changeLib numberListing
      "CHG0000001").isEmpty = false := by
    rw [List.isEmpty_eq_false_iff]
    intro hempty
    have hlength := taskAlone_children.length_eq
    rw [hempty] at hlength
    cases hlength
  have hanswer : (taskAlone.getChildren changeLib numberListing changeSite steadyChildren newYear
      "CHG0000001").2 = .ok (taskAlone.cachedChildren changeLib numberListing "CHG0000001") := by
    unfold ListedCache.getChildren
    simp only [hnonempty]
    rfl
  have hlength := (taskAlone_children.symm.trans (hcomplete _ _ _ hanswer)).length_eq
  rw [List.length_map] at hlength
  exact absurd hlength (by decide)

end SnowAgent.Core
