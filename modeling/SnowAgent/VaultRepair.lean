import Mathlib.Data.List.Induction
import SnowAgent.RecordLists
import SnowAgent.RecordStore

/-! # Vault repair

A row of the cache without a file is repaired: the document of its number is loaded, written to the
vault, and what it says is put into the row.  The row is named by its `sys_id`, and the document by a
number, which several rows may bear; what is loaded is the document of the row that comes first.
-/
namespace SnowAgent.Core

open Json Text FirstSorted

/-- `VaultDocument`: of an article and of an approval, the record and the rest. -/
inductive VaultDocument where
  | record (record : CachedRecord)
  | knowledge (record : CachedRecord) (rest : Value)
  | approval (record : CachedRecord) (rest : Value)

/-- `document.record()`. -/
def VaultDocument.cached : VaultDocument → CachedRecord
  | .record read => read
  | .knowledge read _ => read
  | .approval read _ => read

/-- What is left open: how documents are rendered, read and serialized, and what the JSON of a row
says beyond its columns. -/
structure RepairLib where
  /-- `parse_snow_record`. -/
  parseSnowRecord : String → Option CachedRecord
  /-- `parse_knowledge_article`. -/
  parseKnowledgeArticle : String → Option (CachedRecord × Value)
  /-- `parse_approval_record`. -/
  parseApprovalRecord : String → Option (CachedRecord × Value)
  /-- `render_snow_record`, `render_knowledge_article` and `render_approval_record`. -/
  renderDocument : VaultDocument → String
  /-- `serialize_vault_document`. -/
  serializeVaultDocument : VaultDocument → Value
  /-- `reference_to_record_ref` of the field `parent`. -/
  parentReference : Value → Option RecordRef
  /-- `collect_references`. -/
  collectReferences : Value → String → StringMap Reference
  /-- The fields and references of a normalized article of a row, and the rest of it. -/
  articleParts : ListedRow → CachedRecord → StringMap FieldValue × StringMap Reference × Value
  /-- The approver, the target and the times of the approval of a row. -/
  approvalParts : ListedRow → Value

/-! ## The store and the vault -/

-- The preferred row is computed: of the orders Mathlib has on `ℤ`, the one that runs.
local instance vaultRepairOrder : LinearOrder ℤ := Int.instLinearOrder

local instance vaultRepairPreorder : Preorder ℤ := Int.instLinearOrder.toPreorder

/-- The order of `get_record_by_number_and_type`: rows in scope first, then the last synced, and of
these the smallest `sys_id`. -/
def typedPreference (row : ListedRow) : ℕ ×ₗ ℤ ×ₗ String :=
  toLex (if row.inScope then 0 else 1, toLex (-timestampSeconds row.syncedAt, row.sysId))

/-- `get_record_by_number_and_type`. -/
def ListedTable.getRecordByNumberAndType (table : ListedTable) (number : String)
    (resourceType : ResourceType) : Option ListedRow :=
  (table.rows.filter fun row => row.number = number ∧ row.resourceType = resourceType).argmin
    typedPreference

/-- The records of the cache, with the columns `vault_provenance` and `pruned_at`, and the files of
the vault. -/
structure RepairStore where
  records : ListedTable
  provenance : String → VaultProjectionProvenance
  prunedAt : Table String DateTime
  files : Table String String

/-- `active_record_vault_provenance`. -/
def RepairStore.activeRecordVaultProvenance (store : RepairStore) (sysId : String) :
    Option VaultProjectionProvenance :=
  if (store.records.rows.any fun row => row.sysId = sysId && row.inScope) ∧
      store.prunedAt.row sysId = none then
    some (store.provenance sysId)
  else none

variable (lib : RepairLib)

/-! ## Documents of rows -/

/-- What a file reads as, for a row of some type. -/
def RepairLib.readAs (resourceType : ResourceType) (text : String) : Option CachedRecord :=
  match resourceType with
  | .knowledge => (lib.parseKnowledgeArticle text).map Prod.fst
  | .approval => (lib.parseApprovalRecord text).map Prod.fst
  | _ => lib.parseSnowRecord text

/-- The text of the file of a row. -/
def fileText (files : Table String String) (row : ListedRow) : Option String :=
  row.filePath.bind files.row

/-- `load_record_from_vault`. -/
def RepairLib.loadRecordFromVault (files : Table String String) (row : ListedRow) :
    Option CachedRecord :=
  (fileText files row).bind (lib.readAs row.resourceType)

/-- `materialize_record_from_json`. -/
def RepairLib.materializeRecordFromJson (row : ListedRow) : CachedRecord :=
  { Core.materializeRecordFromJson row.toRecordRow with
    parent := row.parentId.map fun sysId => (lib.parentReference row.rawJson).getD ⟨sysId, "", ""⟩
    references := lib.collectReferences row.rawJson row.tableName }

/-- `materialize_record`. -/
def RepairLib.materializeRecord (files : Table String String) (row : ListedRow) : CachedRecord :=
  (lib.loadRecordFromVault files row).getD (lib.materializeRecordFromJson row)

/-- `materialize_knowledge_article`. -/
def RepairLib.materializeKnowledgeArticle (files : Table String String) (row : ListedRow) :
    VaultDocument :=
  match (fileText files row).bind lib.parseKnowledgeArticle with
  | some (record, rest) => .knowledge record rest
  | none =>
    let record := lib.materializeRecordFromJson row
    let (fields, references, rest) := lib.articleParts row record
    .knowledge { record with fields, references } rest

/-- `materialize_approval`. -/
def RepairLib.materializeApproval (files : Table String String) (row : ListedRow) : VaultDocument :=
  match (fileText files row).bind lib.parseApprovalRecord with
  | some (record, rest) => .approval record rest
  | none => .approval (lib.materializeRecordFromJson row) (lib.approvalParts row)

/-- `load_runtime_document`. -/
def RepairLib.loadRuntimeDocument (store : RepairStore) (number : String)
    (resourceType : ResourceType) : Option VaultDocument :=
  match resourceType with
  | .knowledge =>
    (store.records.getRecordByNumberAndType number .knowledge).map
      (lib.materializeKnowledgeArticle store.files)
  | .approval =>
    (store.records.getRecordByNumberAndType number .approval).map
      (lib.materializeApproval store.files)
  | _ =>
    (store.records.getPrimaryRecordByNumber number).map
      fun row => .record (lib.materializeRecord store.files row)

/-! ## The repair -/

/-- The file of a document, below the root of the vault. -/
def VaultDocument.path : VaultDocument → String
  | .record read => recordPath read
  | .knowledge read _ => recordPath read
  | .approval read _ => "approvals/" ++ fileName read.number read.sysId

/-- `document_assigned_to`. -/
def documentAssignedTo (record : CachedRecord) : Option String :=
  ["assigned_to", "project_manager", "demand_manager"].findSome? fun field =>
    ((record.references.get field).map Reference.sysId).orElse fun _ =>
      ((record.fields.get field).map FieldValue.value).filter fun value => trim value ≠ ""

/-- The repaired row. -/
def RepairLib.repairedRow (row : ListedRow) (document : VaultDocument) : ListedRow :=
  { row with
    shortDesc := some document.cached.shortDescription
    description := some document.cached.description
    assignedTo := documentAssignedTo document.cached
    parentId := document.cached.parent.map RecordRef.sysId
    filePath := some document.path
    rawJson := lib.serializeVaultDocument document }

/-- The store and the vault once a row is repaired with a document. -/
def RepairStore.repaired (store : RepairStore) (entry : ListedRow × VaultDocument) : RepairStore where
  records := store.records.upsert (lib.repairedRow entry.1 entry.2)
  provenance := Function.update store.provenance entry.1.sysId .vaultBacked
  prunedAt := store.prunedAt
  files := store.files.put entry.2.path (lib.renderDocument entry.2)

/-- What the disk and the database answer to the steps of one repair. -/
structure RepairIO where
  load : Except String Unit
  writeFile : Except String Unit
  writeRow : Except String Unit
  project : Except String Unit

/-- The store, the rows repaired so far with their documents, and how many were skipped. -/
structure RepairState where
  store : RepairStore
  repaired : List (ListedRow × VaultDocument)
  skipped : Nat

/-- `RepairReport`. -/
structure RepairReport where
  scannedRecords : Nat
  repairedRecords : Nat
  skippedRecords : Nat

/-- The body of the loop. -/
def RepairLib.repairRow (answers : ListedRow → RepairIO)
    (provenance : String → Option VaultProjectionProvenance) (state : RepairState)
    (row : ListedRow) : Except String RepairState :=
  if provenance row.sysId = some .cacheOnly then .ok { state with skipped := state.skipped + 1 }
  else do
    (answers row).load
    match lib.loadRuntimeDocument state.store row.number row.resourceType with
    | none => return { state with skipped := state.skipped + 1 }
    | some document =>
      (answers row).writeFile
      (answers row).writeRow
      (answers row).project
      return { store := state.store.repaired lib (row, document)
               repaired := state.repaired ++ [(row, document)]
               skipped := state.skipped }

/-- `repair_vault`, given the rows that the store lists as active. -/
def RepairLib.repairVault (answers : ListedRow → RepairIO) (store : RepairStore)
    (listed : List ListedRow) : Except String (RepairState × RepairReport) := do
  let state ← (listed.filter fun row => row.filePath = none).foldlM
    (lib.repairRow answers store.activeRecordVaultProvenance) ⟨store, [], 0⟩
  return (state, ⟨listed.length, state.repaired.length, state.skipped⟩)

/-! ## What a repair is to do -/

/-- The rows that a repair is about. -/
def pendingRows (store : RepairStore) (listed : List ListedRow) : List ListedRow :=
  listed.filter fun row =>
    row.filePath = none && store.activeRecordVaultProvenance row.sysId ≠ some .cacheOnly

/-- The row has the file of a document, which reads as a record of its own `sys_id`, and its fields
are those of such a record. -/
structure OwnDocument (after : RepairStore) (entry : ListedRow × VaultDocument) : Prop where
  stored : lib.repairedRow entry.1 entry.2 ∈ after.records.rows
  taken : entry.2.cached.sysId = entry.1.sysId
  reads : ∃ read, lib.loadRecordFromVault after.files (lib.repairedRow entry.1 entry.2) = some read ∧
    read.sysId = entry.1.sysId

/-- **A repair mixes no records**: each row it repaired has its own document, all others are as they
were, and a repair right after, which sees all files, repairs nothing. -/
structure NeverMixes (before : RepairStore) (after : RepairState) : Prop where
  own : ∀ entry ∈ after.repaired, OwnDocument lib after.store entry
  kept : ∀ row, (∀ entry ∈ after.repaired, entry.1.sysId ≠ row.sysId) →
    (row ∈ after.store.records.rows ↔ row ∈ before.records.rows)
  done : ∀ listed answers again, ListActiveRecords none after.store.records listed →
    lib.repairVault answers after.store listed = .ok again → again.1.repaired = []

/-- The row whose document is loaded for a row. -/
def RepairStore.found (store : RepairStore) (row : ListedRow) : Option ListedRow :=
  match row.resourceType with
  | .knowledge => store.records.getRecordByNumberAndType row.number .knowledge
  | .approval => store.records.getRecordByNumberAndType row.number .approval
  | _ => store.records.getPrimaryRecordByNumber row.number

/-- The document that a row is found to have before the repair. -/
def RepairLib.documentOf (store : RepairStore) (row : ListedRow) : Option VaultDocument :=
  lib.loadRuntimeDocument store row.number row.resourceType

/-- The rows that can be repaired: each one is found itself, or a row whose file reads as its record;
its document is written so that it reads as its record, to a file that is neither that of another
one nor the one that a later one is read of. -/
structure Repairable (store : RepairStore) (listed : List ListedRow) : Prop where
  found : ∀ row ∈ pendingRows store listed, ∃ found, store.found row = some found ∧
    (found = row ∨ ∃ read, lib.loadRecordFromVault store.files found = some read ∧
      read.sysId = row.sysId)
  reads : ∀ row ∈ pendingRows store listed, ∀ document, lib.documentOf store row = some document →
    ∃ read, lib.readAs row.resourceType (lib.renderDocument document) = some read ∧
      read.sysId = row.sysId
  apart : (pendingRows store listed).Pairwise fun a b =>
    ∀ document, lib.documentOf store a = some document →
      (∀ other, lib.documentOf store b = some other → document.path ≠ other.path) ∧
      ∀ found, store.found b = some found → found.filePath ≠ some document.path

/-- All parsers read the `sys_id` of the front matter. -/
def OneSysId : Prop :=
  ∀ (a b : ResourceType) (text : String) (read read' : CachedRecord),
    lib.readAs a text = some read → lib.readAs b text = some read' → read.sysId = read'.sysId

/-! ## The store after some repairs -/

section Stored

variable {lib} {store : RepairStore} {entries : List (ListedRow × VaultDocument)} {row : ListedRow}

variable (lib store) in
/-- The store once some rows are repaired. -/
def RepairStore.stored (entries : List (ListedRow × VaultDocument)) : RepairStore :=
  entries.foldl (RepairStore.repaired lib) store

theorem stored_concat (entry : ListedRow × VaultDocument) :
    store.stored lib (entries ++ [entry]) = (store.stored lib entries).repaired lib entry :=
  List.foldl_concat _ _ _ _

/-- The rows are the old ones that are not repaired, and the repaired ones. -/
theorem mem_stored (hnodup : (entries.map fun entry => entry.1.sysId).Nodup) :
    row ∈ (store.stored lib entries).records.rows ↔
      row ∈ store.records.rows ∧ (∀ entry ∈ entries, entry.1.sysId ≠ row.sysId) ∨
        ∃ entry ∈ entries, row = lib.repairedRow entry.1 entry.2 := by
  induction entries using List.reverseRecOn with
  | nil => simp [RepairStore.stored]
  | append_singleton entries entry ih =>
    rw [List.map_append, List.nodup_append] at hnodup
    obtain ⟨hold, -, hnew⟩ := hnodup
    have hfresh : ∀ done ∈ entries, done.1.sysId ≠ entry.1.sysId := fun done hdone =>
      hnew _ (List.mem_map_of_mem hdone) _ (List.mem_singleton_self _)
    rw [stored_concat, RepairStore.repaired, ListedTable.mem_upsert, ih hold]
    constructor
    · rintro (⟨⟨hrow, hnot⟩ | ⟨done, hdone, rfl⟩, hne⟩ | rfl)
      · refine Or.inl ⟨hrow, fun other hother => ?_⟩
        rcases List.mem_append.mp hother with hother | hother
        · exact hnot other hother
        · rw [List.mem_singleton.mp hother]
          exact Ne.symm hne
      · exact Or.inr ⟨done, List.mem_append_left _ hdone, rfl⟩
      · exact Or.inr ⟨entry, List.mem_append_right _ (List.mem_singleton_self _), rfl⟩
    · rintro (⟨hrow, hnot⟩ | ⟨done, hdone, rfl⟩)
      · refine Or.inl ⟨Or.inl ⟨hrow, fun other hother => hnot other
          (List.mem_append_left _ hother)⟩, ?_⟩
        exact Ne.symm (hnot entry (List.mem_append_right _ (List.mem_singleton_self _)))
      · rcases List.mem_append.mp hdone with hdone | hdone
        · exact Or.inl ⟨Or.inr ⟨done, hdone, rfl⟩, hfresh done hdone⟩
        · rw [List.mem_singleton.mp hdone]
          exact Or.inr rfl

theorem prunedAt_stored : (store.stored lib entries).prunedAt = store.prunedAt := by
  induction entries using List.reverseRecOn with
  | nil => rfl
  | append_singleton entries entry ih =>
    rw [stored_concat]
    exact ih

theorem provenance_stored_of_ne {sysId : String} (h : ∀ entry ∈ entries, entry.1.sysId ≠ sysId) :
    (store.stored lib entries).provenance sysId = store.provenance sysId := by
  induction entries using List.reverseRecOn with
  | nil => rfl
  | append_singleton entries entry ih =>
    have hlast := h entry (List.mem_append_right _ (List.mem_singleton_self _))
    rw [stored_concat]
    exact (Function.update_of_ne (Ne.symm hlast) _ _).trans
      (ih fun other hother => h other (List.mem_append_left _ hother))

theorem files_stored_of_ne {path : String} (h : ∀ entry ∈ entries, entry.2.path ≠ path) :
    (store.stored lib entries).files.row path = store.files.row path := by
  induction entries using List.reverseRecOn with
  | nil => rfl
  | append_singleton entries entry ih =>
    rw [stored_concat, RepairStore.repaired, Table.row_put_of_ne]
    · exact ih fun other hother => h other (List.mem_append_left _ hother)
    · exact Ne.symm (h entry (List.mem_append_right _ (List.mem_singleton_self _)))

theorem files_stored_self {entry : ListedRow × VaultDocument}
    (happart : entries.Pairwise fun a b => a.2.path ≠ b.2.path) (hentry : entry ∈ entries) :
    (store.stored lib entries).files.row entry.2.path = some (lib.renderDocument entry.2) := by
  induction entries using List.reverseRecOn with
  | nil => exact absurd hentry List.not_mem_nil
  | append_singleton entries last ih =>
    obtain ⟨hold, -, hnew⟩ := List.pairwise_append.mp happart
    rw [stored_concat, RepairStore.repaired]
    rcases List.mem_append.mp hentry with hentry | hentry
    · rw [Table.row_put_of_ne _ _ (hnew entry hentry last (List.mem_singleton_self _))]
      exact ih hold hentry
    · rw [List.mem_singleton.mp hentry]
      exact Table.row_put_self _ _ _

/-- The row that comes first in an order which a repair does not change still does. -/
theorem argmin_stored {K : Type} [LinearOrder K] (p : ListedRow → Bool) (f : ListedRow → K)
    (hp : ∀ row document, p (lib.repairedRow row document) = p row)
    (hf : ∀ row document, f (lib.repairedRow row document) = f row)
    (hinj : ∀ a b, f a = f b → a.sysId = b.sysId)
    (hentries : ∀ entry ∈ entries, entry.1 ∈ store.records.rows)
    (hnodup : (entries.map fun entry => entry.1.sysId).Nodup)
    (h : (store.records.rows.filter p).argmin f = some row) :
    ∃ row', ((store.stored lib entries).records.rows.filter p).argmin f = some row' ∧
      (row' = row ∧ (∀ entry ∈ entries, entry.1.sysId ≠ row.sysId) ∨
        ∃ entry ∈ entries, entry.1 = row ∧ row' = lib.repairedRow entry.1 entry.2) := by
  obtain ⟨hrow, hprow⟩ := List.mem_filter.mp (List.argmin_mem h)
  -- the row as it is now
  obtain ⟨row', hnow, hkey, hpnow⟩ : ∃ row',
      (row' = row ∧ (∀ entry ∈ entries, entry.1.sysId ≠ row.sysId) ∨
        ∃ entry ∈ entries, entry.1 = row ∧ row' = lib.repairedRow entry.1 entry.2) ∧
      f row' = f row ∧ p row' = true := by
    by_cases hdone : ∃ entry ∈ entries, entry.1.sysId = row.sysId
    · obtain ⟨entry, hentry, hid⟩ := hdone
      have hsame : entry.1 = row := List.inj_on_of_nodup_map store.records.keys
        (hentries entry hentry) hrow hid
      refine ⟨_, Or.inr ⟨entry, hentry, hsame, rfl⟩, ?_, ?_⟩
      · rw [hf, hsame]
      · rw [hp, hsame, hprow]
    · push Not at hdone
      exact ⟨row, Or.inl ⟨rfl, hdone⟩, rfl, hprow⟩
  have hmem : row' ∈ (store.stored lib entries).records.rows := by
    rw [mem_stored hnodup]
    rcases hnow with ⟨rfl, hnot⟩ | ⟨entry, hentry, -, rfl⟩
    · exact Or.inl ⟨hrow, hnot⟩
    · exact Or.inr ⟨entry, hentry, rfl⟩
  have hfilter : row' ∈ (store.stored lib entries).records.rows.filter p :=
    List.mem_filter.mpr ⟨hmem, hpnow⟩
  rcases hleast : ((store.stored lib entries).records.rows.filter p).argmin f with _ | least
  · rw [List.argmin_eq_none] at hleast
    rw [hleast] at hfilter
    exact absurd hfilter List.not_mem_nil
  · refine ⟨least, rfl, ?_⟩
    obtain ⟨hleastmem, hpleast⟩ := List.mem_filter.mp (List.argmin_mem hleast)
    have hle : f least ≤ f row' := List.le_of_mem_argmin hfilter hleast
    have hge : f row' ≤ f least := by
      rw [hkey]
      rcases (mem_stored hnodup).mp hleastmem with ⟨hold, -⟩ | ⟨entry, hentry, rfl⟩
      · exact List.le_of_mem_argmin (List.mem_filter.mpr ⟨hold, hpleast⟩) h
      · rw [hp] at hpleast
        rw [hf]
        exact List.le_of_mem_argmin (List.mem_filter.mpr ⟨hentries entry hentry, hpleast⟩) h
    have hsame : least = row' := List.inj_on_of_nodup_map
      (store.stored lib entries).records.keys hleastmem hmem (hinj _ _ (le_antisymm hle hge))
    rw [hsame]
    exact hnow

variable (lib) in
/-- The row that is found for a row is found again, repaired or as it was. -/
theorem found_stored {found : ListedRow}
    (hentries : ∀ entry ∈ entries, entry.1 ∈ store.records.rows)
    (hnodup : (entries.map fun entry => entry.1.sysId).Nodup) (h : store.found row = some found) :
    ∃ found', (store.stored lib entries).found row = some found' ∧
      (found' = found ∧ (∀ entry ∈ entries, entry.1.sysId ≠ found.sysId) ∨
        ∃ entry ∈ entries, entry.1 = found ∧ found' = lib.repairedRow entry.1 entry.2) := by
  have htyped : ∀ a b, typedPreference a = typedPreference b → a.sysId = b.sysId := fun a b hab =>
    congrArg (fun k => (ofLex (ofLex k).2).2) hab
  have hprimary : ∀ a b : ListedRow, preference a.toRecordRow = preference b.toRecordRow →
      a.sysId = b.sysId := fun a b hab =>
    congrArg (fun k => (ofLex (ofLex (ofLex k).2).2).2) hab
  unfold RepairStore.found at h ⊢
  split at h
  · exact argmin_stored _ _ (fun _ _ => rfl) (fun _ _ => rfl) htyped hentries hnodup h
  · exact argmin_stored _ _ (fun _ _ => rfl) (fun _ _ => rfl) htyped hentries hnodup h
  · exact argmin_stored _ _ (fun _ _ => rfl) (fun _ _ => rfl) hprimary hentries hnodup h

theorem mem_of_found {found : ListedRow} (h : store.found row = some found) :
    found ∈ store.records.rows := by
  unfold RepairStore.found at h
  split at h
  · exact (List.mem_filter.mp (List.argmin_mem h)).1
  · exact (List.mem_filter.mp (List.argmin_mem h)).1
  · exact (List.mem_filter.mp (List.argmin_mem h)).1

/-- A row of the store is found, or another one of its number. -/
theorem exists_found (hrow : row ∈ store.records.rows) : ∃ found, store.found row = some found := by
  have hargmin : ∀ {K : Type} [LinearOrder K] (p : ListedRow → Bool) (f : ListedRow → K),
      p row = true → ∃ found, (store.records.rows.filter p).argmin f = some found := by
    intro K _ p f hp
    rcases hleast : (store.records.rows.filter p).argmin f with _ | least
    · rw [List.argmin_eq_none] at hleast
      have hmem := List.mem_filter.mpr ⟨hrow, hp⟩
      rw [hleast] at hmem
      exact absurd hmem List.not_mem_nil
    · exact ⟨least, rfl⟩
  unfold RepairStore.found
  split
  · rename_i htype
    exact hargmin _ _ (by simp [htype])
  · rename_i htype
    exact hargmin _ _ (by simp [htype])
  · exact hargmin _ _ (by simp)

end Stored

/-! ## The documents that are loaded -/

section Documents

variable {lib} {store : RepairStore} {row found : ListedRow}

variable (lib) in
/-- The document that is made of the row that is found, for a row of some type. -/
def RepairLib.documentFrom (resourceType : ResourceType) (files : Table String String)
    (found : ListedRow) : VaultDocument :=
  match resourceType with
  | .knowledge => lib.materializeKnowledgeArticle files found
  | .approval => lib.materializeApproval files found
  | _ => .record (lib.materializeRecord files found)

theorem documentOf_eq :
    lib.documentOf store row =
      (store.found row).map (lib.documentFrom row.resourceType store.files) := by
  unfold RepairLib.documentOf RepairLib.loadRuntimeDocument RepairStore.found
  rcases row.resourceType <;> rfl

theorem documentFrom_congr {resourceType : ResourceType} {files files' : Table String String}
    (h : fileText files found = fileText files' found) :
    lib.documentFrom resourceType files found = lib.documentFrom resourceType files' found := by
  simp only [RepairLib.documentFrom, RepairLib.materializeKnowledgeArticle,
    RepairLib.materializeApproval, RepairLib.materializeRecord, RepairLib.loadRecordFromVault, h]

/-- For an article an article is found, and for an approval an approval. -/
theorem found_resourceType (h : store.found row = some found)
    (htype : row.resourceType = .knowledge ∨ row.resourceType = .approval) :
    found.resourceType = row.resourceType := by
  unfold RepairStore.found at h
  rcases htype with htype | htype
  · rw [htype] at h ⊢
    have hmem := (List.mem_filter.mp (List.argmin_mem h)).2
    exact (of_decide_eq_true hmem).2
  · rw [htype] at h ⊢
    have hmem := (List.mem_filter.mp (List.argmin_mem h)).2
    exact (of_decide_eq_true hmem).2

/-- The document is of the record that the file of the row found reads as, and otherwise of the row
found. -/
theorem documentFrom_sysId (files : Table String String) (hfound : store.found row = some found) :
    (lib.documentFrom row.resourceType files found).cached.sysId =
      ((lib.loadRecordFromVault files found).map CachedRecord.sysId).getD found.sysId := by
  unfold RepairLib.documentFrom
  split
  · rename_i htype
    rw [RepairLib.loadRecordFromVault, found_resourceType hfound (Or.inl htype), htype,
      RepairLib.materializeKnowledgeArticle]
    rcases htext : fileText files found with _ | text
    · rfl
    · rcases hread : lib.parseKnowledgeArticle text with _ | ⟨read, rest⟩
      · simp [hread, RepairLib.readAs]
        rfl
      · simp [hread, RepairLib.readAs, VaultDocument.cached]
  · rename_i htype
    rw [RepairLib.loadRecordFromVault, found_resourceType hfound (Or.inr htype), htype,
      RepairLib.materializeApproval]
    rcases htext : fileText files found with _ | text
    · rfl
    · rcases hread : lib.parseApprovalRecord text with _ | ⟨read, rest⟩
      · simp [hread, RepairLib.readAs]
        rfl
      · simp [hread, RepairLib.readAs, VaultDocument.cached]
  · rw [VaultDocument.cached, RepairLib.materializeRecord]
    rcases lib.loadRecordFromVault files found with _ | read
    · rfl
    · rfl

end Documents

/-! ## A run of the loop -/

section Loop

variable {lib} {answers : ListedRow → RepairIO}
  {provenance : String → Option VaultProjectionProvenance}

variable (lib) in
/-- Each row is repaired with the document that is loaded at its turn. -/
def Loads (store : RepairStore) (entries : List (ListedRow × VaultDocument)) : Prop :=
  ∀ done entry rest, entries = done ++ entry :: rest →
    lib.documentOf (store.stored lib done) entry.1 = some entry.2

theorem Loads.cons {store : RepairStore} {entry : ListedRow × VaultDocument}
    {entries : List (ListedRow × VaultDocument)} (h : lib.documentOf store entry.1 = some entry.2)
    (hrest : Loads lib (store.repaired lib entry) entries) : Loads lib store (entry :: entries) := by
  intro done other rest hsplit
  rcases done with _ | ⟨first, done⟩
  · obtain ⟨rfl, -⟩ := List.cons_eq_cons.mp hsplit
    exact h
  · obtain ⟨rfl, htail⟩ := List.cons_eq_cons.mp hsplit
    exact hrest done other rest htail

/-- **What one step does**: it skips a row that only the cache has, and repairs any other one. -/
theorem repairRow_ok {state after : RepairState} {row : ListedRow}
    (hmem : row ∈ state.store.records.rows)
    (h : lib.repairRow answers provenance state row = .ok after) :
    (provenance row.sysId = some .cacheOnly ∧ after = { state with skipped := state.skipped + 1 }) ∨
    (provenance row.sysId ≠ some .cacheOnly ∧ ∃ document,
      lib.documentOf state.store row = some document ∧
      after = ⟨state.store.repaired lib (row, document), state.repaired ++ [(row, document)],
        state.skipped⟩) := by
  unfold RepairLib.repairRow at h
  split at h
  · rename_i hcache
    exact Or.inl ⟨hcache, (Except.ok.inj h).symm⟩
  · rename_i hcache
    obtain ⟨_, _, h⟩ := bind_eq_ok h
    obtain ⟨found, hfound⟩ := exists_found hmem
    have hload : lib.loadRuntimeDocument state.store row.number row.resourceType =
        some (lib.documentFrom row.resourceType state.store.files found) := by
      have hdocument : lib.documentOf state.store row = _ := documentOf_eq
      rw [hfound, Option.map_some] at hdocument
      exact hdocument
    rw [hload] at h
    obtain ⟨_, _, h⟩ := bind_eq_ok h
    obtain ⟨_, _, h⟩ := bind_eq_ok h
    obtain ⟨_, _, h⟩ := bind_eq_ok h
    exact Or.inr ⟨hcache, _, hload, (Except.ok.inj h).symm⟩

/-- **What the loop does.** -/
theorem repairRows_ok {rows : List ListedRow} {state after : RepairState}
    (hmem : ∀ row ∈ rows, row ∈ state.store.records.rows)
    (hnodup : (rows.map fun row => row.sysId).Nodup)
    (h : rows.foldlM (lib.repairRow answers provenance) state = .ok after) :
    ∃ entries, entries.map Prod.fst =
        rows.filter (fun row => decide (provenance row.sysId ≠ some .cacheOnly)) ∧
      after.store = state.store.stored lib entries ∧ after.repaired = state.repaired ++ entries ∧
      Loads lib state.store entries := by
  induction rows generalizing state with
  | nil =>
    obtain rfl : state = after := Except.ok.inj h
    refine ⟨[], rfl, rfl, (List.append_nil _).symm, ?_⟩
    intro done entry rest hsplit
    simp at hsplit
  | cons row rows step =>
    rw [List.foldlM_cons] at h
    obtain ⟨middle, hrow, h⟩ := bind_eq_ok h
    obtain ⟨hnot, hnodup⟩ := List.nodup_cons.mp hnodup
    rcases repairRow_ok (hmem row List.mem_cons_self) hrow with
      ⟨hcache, rfl⟩ | ⟨hcache, document, hdocument, rfl⟩
    · have hstill : ∀ other ∈ rows, other ∈
          ({ state with skipped := state.skipped + 1 } : RepairState).store.records.rows :=
        fun other hother => hmem other (List.mem_cons_of_mem _ hother)
      obtain ⟨entries, hrows, hstore, hrepaired, hloads⟩ := step hstill hnodup h
      refine ⟨entries, ?_, hstore, hrepaired, hloads⟩
      rw [List.filter_cons_of_neg (by simpa using hcache)]
      exact hrows
    · have hstill : ∀ other ∈ rows,
          other ∈ (state.store.repaired lib (row, document)).records.rows := by
        intro other hother
        refine ListedTable.mem_upsert.mpr (Or.inl ⟨hmem other (List.mem_cons_of_mem _ hother), ?_⟩)
        intro hid
        exact hnot (List.mem_map.mpr ⟨other, hother, hid⟩)
      obtain ⟨entries, hrows, hstore, hrepaired, hloads⟩ := step hstill hnodup h
      refine ⟨(row, document) :: entries, ?_, hstore, ?_, hloads.cons hdocument⟩
      · rw [List.filter_cons_of_pos (by simpa using hcache), List.map_cons, hrows]
      · rw [hrepaired, List.append_assoc]
        rfl

/-- **What a repair that succeeds has done.** -/
theorem repairVault_ok {store : RepairStore} {listed : List ListedRow}
    {after : RepairState × RepairReport}
    (hlisted : ListActiveRecords none store.records listed)
    (h : lib.repairVault answers store listed = .ok after) :
    ∃ entries, entries.map Prod.fst = pendingRows store listed ∧
      after.1.store = store.stored lib entries ∧ after.1.repaired = entries ∧
      Loads lib store entries := by
  obtain ⟨state, hstate, h⟩ := bind_eq_ok h
  obtain rfl := Except.ok.inj h
  have hrows : ∀ row ∈ listed, row ∈ store.records.rows := fun row hrow =>
    (List.mem_filter.mp (hlisted.perm.mem_iff.mp hrow)).1
  have hnodup : (listed.map fun row => row.sysId).Nodup :=
    ((hlisted.perm.map _).nodup_iff).mpr ((List.filter_sublist.map _).nodup store.records.keys)
  obtain ⟨entries, hentries, hstore, hrepaired, hloads⟩ := repairRows_ok
    (fun row hrow => hrows row (List.mem_filter.mp hrow).1)
    ((List.filter_sublist.map _).nodup hnodup) hstate
  refine ⟨entries, ?_, hstore, hrepaired, hloads⟩
  rw [hentries, List.filter_filter, pendingRows]
  refine List.filter_congr fun row _ => ?_
  exact Bool.and_comm _ _

end Loop

/-! ## When no records are mixed -/

section Mixes

variable {lib} {store : RepairStore} {listed : List ListedRow}
  {entries : List (ListedRow × VaultDocument)}

theorem mem_pendingRows (hlisted : ListActiveRecords none store.records listed) {row : ListedRow} :
    row ∈ pendingRows store listed ↔ row ∈ store.records.rows ∧ row.inScope = true ∧
      row.filePath = none ∧ store.activeRecordVaultProvenance row.sysId ≠ some .cacheOnly := by
  rw [pendingRows, List.mem_filter, hlisted.perm.mem_iff, activeRows, List.mem_filter]
  simp [and_assoc]

theorem pendingRows_nodup (hlisted : ListActiveRecords none store.records listed) :
    ((pendingRows store listed).map fun row => row.sysId).Nodup := by
  refine (List.filter_sublist.map _).nodup ?_
  exact ((hlisted.perm.map _).nodup_iff).mpr ((List.filter_sublist.map _).nodup store.records.keys)

/-- What holds of each element and those before it holds of each two in their order. -/
theorem pairwise_of_splits {α : Type} {R : α → α → Prop} {items : List α}
    (h : ∀ done item rest, items = done ++ item :: rest → ∀ other ∈ done, R other item) :
    items.Pairwise R := by
  induction items using List.reverseRecOn with
  | nil => exact List.Pairwise.nil
  | append_singleton items last ih =>
    refine List.pairwise_append.mpr ⟨ih ?_, List.pairwise_singleton _ _, ?_⟩
    · rintro done item rest rfl other hother
      exact h done item (rest ++ [last]) (by simp) other hother
    · intro other hother item hitem
      rw [List.mem_singleton.mp hitem]
      exact h items last [] rfl other hother

/-- The rows that a run repairs, one after the other, with their documents. -/
structure RunOf (lib : RepairLib) (store : RepairStore) (listed : List ListedRow)
    (entries : List (ListedRow × VaultDocument)) : Prop where
  lists : ListActiveRecords none store.records listed
  rows : entries.map Prod.fst = pendingRows store listed
  loads : Loads lib store entries

namespace RunOf

variable (run : RunOf lib store listed entries)
include run

variable {entry : ListedRow × VaultDocument}

theorem mem_pending (h : entry ∈ entries) : entry.1 ∈ pendingRows store listed := by
  rw [← run.rows]
  exact List.mem_map_of_mem h

theorem stored (h : entry ∈ entries) : entry.1 ∈ store.records.rows :=
  ((mem_pendingRows run.lists).mp (run.mem_pending h)).1

theorem without_file (h : entry ∈ entries) : entry.1.filePath = none :=
  ((mem_pendingRows run.lists).mp (run.mem_pending h)).2.2.1

theorem nodup : (entries.map fun entry => entry.1.sysId).Nodup := by
  have h := pendingRows_nodup run.lists
  rw [← run.rows, List.map_map] at h
  exact h

variable {done rest : List (ListedRow × VaultDocument)}

/-- The rows repaired before another one have other `sys_id`s. -/
theorem split_nodup (hsplit : entries = done ++ entry :: rest) :
    (done.map fun other => other.1.sysId).Nodup ∧
      ∀ other ∈ done, other.1.sysId ≠ entry.1.sysId := by
  have h := run.nodup
  rw [hsplit, List.map_append, List.nodup_append] at h
  exact ⟨h.1, fun other hother => h.2.2 _ (List.mem_map_of_mem hother) _ List.mem_cons_self⟩

/-- A row is given the document it had before the run, if what is found for it was not repaired
before, and its file was not written. -/
theorem document_unchanged {found : ListedRow} (hsplit : entries = done ++ entry :: rest)
    (hfound : store.found entry.1 = some found)
    (hnot : ∀ other ∈ done, other.1.sysId ≠ found.sysId)
    (hfile : ∀ other ∈ done, found.filePath ≠ some other.2.path) :
    lib.documentOf (store.stored lib done) entry.1 = lib.documentOf store entry.1 := by
  have hdone : ∀ other ∈ done, other ∈ entries := fun other hother => by
    rw [hsplit]
    exact List.mem_append_left _ hother
  obtain ⟨found', hfound', hcases⟩ := found_stored lib
    (fun other hother => run.stored (hdone other hother)) (run.split_nodup hsplit).1 hfound
  rcases hcases with ⟨rfl, -⟩ | ⟨other, hother, rfl, -⟩
  · rw [documentOf_eq, documentOf_eq, hfound, hfound', Option.map_some, Option.map_some]
    refine congrArg some (documentFrom_congr ?_)
    rw [fileText, fileText]
    rcases hpath : found'.filePath with _ | path
    · rfl
    · refine files_stored_of_ne fun other hother hsame => hfile other hother ?_
      rw [hpath, hsame]
  · exact absurd rfl (hnot other hother)

/-- **A repairable store is repaired with the documents it had before.** -/
theorem documents (hcondition : Repairable lib store listed) (hsplit : entries = done ++ rest) :
    ∀ entry ∈ done, lib.documentOf store entry.1 = some entry.2 := by
  induction done using List.reverseRecOn generalizing rest with
  | nil =>
    intro entry hentry
    exact absurd hentry List.not_mem_nil
  | append_singleton done last ih =>
    rw [List.append_assoc] at hsplit
    have hdone := ih hsplit
    intro entry hentry
    rcases List.mem_append.mp hentry with hentry | hentry
    · exact hdone entry hentry
    · obtain rfl := List.mem_singleton.mp hentry
      have hmem : ∀ other ∈ done, other ∈ entries := fun other hother => by
        rw [hsplit]
        exact List.mem_append_left _ hother
      have hlast : entry ∈ entries := by
        rw [hsplit]
        exact List.mem_append_right _ List.mem_cons_self
      have happart := hcondition.apart
      rw [← run.rows, List.pairwise_map, hsplit] at happart
      obtain ⟨found, hfound, hown⟩ := hcondition.found entry.1 (run.mem_pending hlast)
      have hfile : ∀ other ∈ done, found.filePath ≠ some other.2.path := fun other hother =>
        ((List.pairwise_append.mp happart).2.2 other hother entry List.mem_cons_self other.2
          (hdone other hother)).2 found hfound
      have hnot : ∀ other ∈ done, other.1.sysId ≠ found.sysId := by
        intro other hother hid
        rcases hown with rfl | ⟨read, hread, -⟩
        · exact (run.split_nodup hsplit).2 other hother hid
        · -- a row with a file is not one of those that are repaired
          have hsame : other.1 = found := List.inj_on_of_nodup_map store.records.keys
            (run.stored (hmem other hother)) (mem_of_found hfound) hid
          rw [← hsame, RepairLib.loadRecordFromVault, fileText,
            run.without_file (hmem other hother)] at hread
          cases hread
      rw [← run.document_unchanged hsplit hfound hnot hfile]
      exact run.loads done entry rest hsplit

/-- Then the files of the repaired rows are different ones. -/
theorem apart_of_repairable (hcondition : Repairable lib store listed) :
    entries.Pairwise fun a b => a.2.path ≠ b.2.path := by
  have hdocuments := run.documents hcondition (List.append_nil entries).symm
  have happart := hcondition.apart
  rw [← run.rows, List.pairwise_map] at happart
  refine happart.imp_of_mem fun {a b} ha hb h => ?_
  exact (h a.2 (hdocuments a ha)).1 b.2 (hdocuments b hb)

theorem own_of_repairable (hcondition : Repairable lib store listed) :
    ∀ entry ∈ entries, OwnDocument lib (store.stored lib entries) entry := by
  intro entry hentry
  have hdocument := run.documents hcondition (List.append_nil entries).symm entry hentry
  refine ⟨(mem_stored run.nodup).mpr (Or.inr ⟨entry, hentry, rfl⟩), ?_, ?_⟩
  · obtain ⟨found, hfound, hown⟩ := hcondition.found entry.1 (run.mem_pending hentry)
    rw [documentOf_eq, hfound, Option.map_some, Option.some.injEq] at hdocument
    rw [← hdocument, documentFrom_sysId _ hfound]
    rcases hown with rfl | ⟨read, hread, hid⟩
    · rw [RepairLib.loadRecordFromVault, fileText, run.without_file hentry]
      rfl
    · rw [hread]
      exact hid
  · obtain ⟨read, hread, hid⟩ := hcondition.reads entry.1 (run.mem_pending hentry) entry.2 hdocument
    refine ⟨read, ?_, hid⟩
    show ((store.stored lib entries).files.row entry.2.path).bind (lib.readAs entry.1.resourceType) = _
    rw [files_stored_self (run.apart_of_repairable hcondition) hentry]
    exact hread

section Own

variable (hlib : OneSysId lib)
  (hown : ∀ entry ∈ entries, OwnDocument lib (store.stored lib entries) entry)
include hlib hown

/-- Rows that have their own documents have different files. -/
theorem apart_of_own : entries.Pairwise fun a b => a.2.path ≠ b.2.path := by
  have hids : entries.Pairwise fun a b => a.1.sysId ≠ b.1.sysId := List.pairwise_map.mp run.nodup
  refine hids.imp_of_mem fun {a b} ha hb hne hpath => hne ?_
  obtain ⟨read, hread, hid⟩ := (hown a ha).reads
  obtain ⟨read', hread', hid'⟩ := (hown b hb).reads
  have htext : fileText (store.stored lib entries).files (lib.repairedRow b.1 b.2) =
      fileText (store.stored lib entries).files (lib.repairedRow a.1 a.2) := by
    show (store.stored lib entries).files.row b.2.path =
      (store.stored lib entries).files.row a.2.path
    rw [hpath]
  rw [RepairLib.loadRecordFromVault] at hread hread'
  rw [htext] at hread'
  obtain ⟨text, htext, hread⟩ := Option.bind_eq_some_iff.mp hread
  rw [htext] at hread'
  rw [← hid, ← hid', hlib _ _ text read read' hread hread']

theorem rendered_reads (hentry : entry ∈ entries) :
    ∃ read, lib.readAs entry.1.resourceType (lib.renderDocument entry.2) = some read ∧
      read.sysId = entry.1.sysId := by
  obtain ⟨read, hread, hid⟩ := (hown entry hentry).reads
  refine ⟨read, ?_, hid⟩
  have htext : ((store.stored lib entries).files.row entry.2.path).bind
      (lib.readAs entry.1.resourceType) = some read := hread
  rw [files_stored_self (run.apart_of_own hlib hown) hentry] at htext
  exact htext

/-- **The turn of a row that is given its own document.** -/
theorem turn_of_own (hsplit : entries = done ++ entry :: rest) :
    ∃ found, store.found entry.1 = some found ∧
      (found = entry.1 ∨ ∃ read, lib.loadRecordFromVault store.files found = some read ∧
        read.sysId = entry.1.sysId) ∧
      (∀ other ∈ done, found.filePath ≠ some other.2.path) ∧
      lib.documentOf store entry.1 = some entry.2 := by
  have hmem : ∀ other ∈ done, other ∈ entries := fun other hother => by
    rw [hsplit]
    exact List.mem_append_left _ hother
  have hentry : entry ∈ entries := by
    rw [hsplit]
    exact List.mem_append_right _ List.mem_cons_self
  obtain ⟨hnodup, hother⟩ := run.split_nodup hsplit
  have happart : done.Pairwise fun a b => a.2.path ≠ b.2.path := by
    have h := run.apart_of_own hlib hown
    rw [hsplit] at h
    exact (List.pairwise_append.mp h).1
  obtain ⟨found, hfound⟩ := exists_found (run.stored hentry)
  obtain ⟨found', hfound', hcases⟩ :=
    found_stored lib (fun other hother => run.stored (hmem other hother)) hnodup hfound
  have hload := run.loads done entry rest hsplit
  rw [documentOf_eq, hfound', Option.map_some, Option.some.injEq] at hload
  have htaken := (hown entry hentry).taken
  rw [← hload, documentFrom_sysId _ hfound'] at htaken
  rcases hcases with ⟨rfl, hnot⟩ | ⟨first, hfirst, rfl, rfl⟩
  · have hfile : ∀ other ∈ done, found'.filePath ≠ some other.2.path := by
      intro written hwritten hpath
      obtain ⟨read, hread, hid⟩ := run.rendered_reads hlib hown (hmem written hwritten)
      have htext : fileText (store.stored lib done).files found' =
          some (lib.renderDocument written.2) := by
        rw [fileText, hpath]
        exact files_stored_self happart hwritten
      rw [RepairLib.loadRecordFromVault, htext, Option.bind_some] at htaken
      rcases hread' : lib.readAs found'.resourceType (lib.renderDocument written.2) with _ | read'
      · rw [hread'] at htaken
        have hsame : found' = entry.1 := List.inj_on_of_nodup_map store.records.keys
          (mem_of_found hfound) (run.stored hentry) htaken
        rw [hsame, run.without_file hentry] at hpath
        cases hpath
      · rw [hread'] at htaken
        refine hother written hwritten ?_
        rw [← hid, hlib _ _ _ read read' hread hread']
        exact htaken
    have hdocument := run.document_unchanged hsplit hfound hnot hfile
    rw [run.loads done entry rest hsplit] at hdocument
    refine ⟨found', hfound, ?_, hfile, hdocument.symm⟩
    have htext : fileText (store.stored lib done).files found' = fileText store.files found' := by
      rw [fileText, fileText]
      rcases hpath : found'.filePath with _ | path
      · rfl
      · refine files_stored_of_ne fun other hother hsame => hfile other hother ?_
        rw [hpath, hsame]
    rw [RepairLib.loadRecordFromVault, htext] at htaken
    rcases hread : lib.loadRecordFromVault store.files found' with _ | read
    · rw [RepairLib.loadRecordFromVault] at hread
      rw [hread] at htaken
      exact Or.inl (List.inj_on_of_nodup_map store.records.keys (mem_of_found hfound)
        (run.stored hentry) htaken)
    · refine Or.inr ⟨read, rfl, ?_⟩
      rw [RepairLib.loadRecordFromVault] at hread
      rw [hread] at htaken
      exact htaken
  · -- a row that is repaired before has a file, which reads as its own record
    obtain ⟨read, hread, hid⟩ := run.rendered_reads hlib hown (hmem first hfirst)
    have htext : fileText (store.stored lib done).files (lib.repairedRow first.1 first.2) =
        some (lib.renderDocument first.2) := files_stored_self happart hfirst
    have hloaded : lib.loadRecordFromVault (store.stored lib done).files
        (lib.repairedRow first.1 first.2) = some read := by
      rw [RepairLib.loadRecordFromVault, htext]
      exact hread
    rw [hloaded] at htaken
    refine absurd ?_ (hother first hfirst)
    rw [← hid]
    exact htaken

theorem repairable_of_own : Repairable lib store listed := by
  have hsplits : ∀ entry ∈ entries, ∃ done rest, entries = done ++ entry :: rest := fun entry h =>
    List.append_of_mem h
  have hturn : ∀ entry ∈ entries, lib.documentOf store entry.1 = some entry.2 := fun entry hentry => by
    obtain ⟨done, rest, hsplit⟩ := hsplits entry hentry
    obtain ⟨found, -, -, -, hdocument⟩ := run.turn_of_own hlib hown hsplit
    exact hdocument
  have hrow : ∀ row ∈ pendingRows store listed, ∃ document, (row, document) ∈ entries := by
    intro row hrow
    rw [← run.rows] at hrow
    obtain ⟨entry, hentry, rfl⟩ := List.mem_map.mp hrow
    exact ⟨entry.2, hentry⟩
  refine ⟨fun row hpending => ?_, fun row hpending document hdocument => ?_, ?_⟩
  · obtain ⟨document, hentry⟩ := hrow row hpending
    obtain ⟨done, rest, hsplit⟩ := hsplits _ hentry
    obtain ⟨found, hfound, hcases, -, -⟩ := run.turn_of_own hlib hown hsplit
    exact ⟨found, hfound, hcases⟩
  · obtain ⟨document', hentry⟩ := hrow row hpending
    obtain rfl : document' = document :=
      Option.some.inj ((hturn (row, document') hentry).symm.trans hdocument)
    exact run.rendered_reads hlib hown hentry
  · rw [← run.rows, List.pairwise_map]
    have hread : entries.Pairwise fun a b => ∀ found, store.found b.1 = some found →
        found.filePath ≠ some a.2.path := by
      refine pairwise_of_splits fun done entry rest hsplit other hother found hfound => ?_
      obtain ⟨found', hfound', -, hfile, -⟩ := run.turn_of_own hlib hown hsplit
      obtain rfl : found' = found := Option.some.inj (hfound'.symm.trans hfound)
      exact hfile other hother
    refine ((run.apart_of_own hlib hown).and hread).imp_of_mem ?_
    rintro a b ha hb ⟨hpath, hfile⟩ document hdocument
    obtain rfl : a.2 = document := Option.some.inj ((hturn a ha).symm.trans hdocument)
    refine ⟨fun other hdocument' => ?_, hfile⟩
    obtain rfl : b.2 = other := Option.some.inj ((hturn b hb).symm.trans hdocument')
    exact hpath

end Own

/-- Once all rows are repaired there is none left to repair. -/
theorem none_pending {listed' : List ListedRow}
    (hlisted' : ListActiveRecords none (store.stored lib entries).records listed') :
    pendingRows (store.stored lib entries) listed' = [] := by
  refine List.eq_nil_iff_forall_not_mem.mpr fun row hrow => ?_
  obtain ⟨hmem, hscope, hpath, hprovenance⟩ := (mem_pendingRows hlisted').mp hrow
  rcases (mem_stored run.nodup).mp hmem with ⟨hold, hnot⟩ | ⟨entry, hentry, rfl⟩
  · have hbefore : row ∉ pendingRows store listed := by
      rw [← run.rows]
      intro h
      obtain ⟨entry, hentry, rfl⟩ := List.mem_map.mp h
      exact hnot entry hentry rfl
    rw [mem_pendingRows run.lists] at hbefore
    have hcache : store.activeRecordVaultProvenance row.sysId = some .cacheOnly := by
      by_contra hne
      exact hbefore ⟨hold, hscope, hpath, hne⟩
    refine hprovenance ?_
    have hactive : ((store.stored lib entries).records.rows.any fun other =>
        other.sysId = row.sysId && other.inScope) = true :=
      List.any_eq_true.mpr ⟨row, hmem, by simp [hscope]⟩
    unfold RepairStore.activeRecordVaultProvenance at hcache ⊢
    split at hcache
    · rename_i hcase
      rw [prunedAt_stored, provenance_stored_of_ne hnot, if_pos ⟨hactive, hcase.2⟩]
      exact hcache
    · cases hcache
  · cases hpath

end RunOf

/-- **When a repair mixes no records**: exactly if the rows to repair can be.  That the other rows are
as they were, and that a second repair repairs nothing, is so in any case. -/
theorem repair_vault_mixes_iff (hlib : OneSysId lib) {answers : ListedRow → RepairIO}
    {after : RepairState × RepairReport} (hlisted : ListActiveRecords none store.records listed)
    (h : lib.repairVault answers store listed = .ok after) :
    NeverMixes lib store after.1 ↔ Repairable lib store listed := by
  obtain ⟨entries, hrows, hstore, hrepaired, hloads⟩ := repairVault_ok hlisted h
  have run : RunOf lib store listed entries := ⟨hlisted, hrows, hloads⟩
  constructor
  · intro hmixes
    refine run.repairable_of_own hlib fun entry hentry => ?_
    rw [← hstore]
    exact hmixes.own entry (hrepaired ▸ hentry)
  · intro hcondition
    refine ⟨fun entry hentry => ?_, fun row hnot => ?_,
        fun listed' answers' again hlisted' hagain => ?_⟩
    · rw [hstore]
      exact run.own_of_repairable hcondition entry (hrepaired ▸ hentry)
    · rw [hstore, mem_stored run.nodup]
      rw [hrepaired] at hnot
      constructor
      · rintro (⟨hrow, -⟩ | ⟨entry, hentry, rfl⟩)
        · exact hrow
        · exact absurd rfl (hnot entry hentry)
      · intro hrow
        exact Or.inl ⟨hrow, hnot⟩
    · obtain ⟨entries', hrows', -, hrepaired', -⟩ := repairVault_ok hlisted' hagain
      rw [hstore] at hlisted' hrows'
      rw [run.none_pending hlisted', List.map_eq_nil_iff] at hrows'
      rw [hrepaired', hrows']

end Mixes

/-! ## An incident and its namesake -/

/-- An incident that was read from the cache. -/
def diskIncident (sysId : String) : CachedRecord := { incidentRecord with sysId }

/-- Its Markdown. -/
def diskMarkdown (sysId : String) : String :=
  "\n".intercalate ["---", "sys_id: \"" ++ sysId ++ "\"", "number: \"INC0000001\"",
    "table: \"incident\"", "resource_type: \"incident\"", "state: \"New\"",
    "short_description: \"\"", "description: |", "  ", "synced_at: \"2026-01-01T00:00:00Z\"",
    "source: \"disk\"", "fields:", "  number:", "    value: \"INC0000001\"",
    "    display_value: \"INC0000001\"", "  state:", "    value: \"1\"",
    "    display_value: \"New\"", "---", "", "# INC0000001: ", "", "## Description", "", "_(empty)_",
    "", "## Work Notes", "", "_(none)_", "", "## Comments", "", "_(none)_", "", ""]

/-- Renders and reads that incident, of one of two `sys_id`s. -/
def diskLib : RepairLib where
  parseSnowRecord text :=
    ["a1", "b1"].findSome? fun sysId =>
      if text = diskMarkdown sysId then some (diskIncident sysId) else none
  parseKnowledgeArticle _ := none
  parseApprovalRecord _ := none
  renderDocument document := diskMarkdown document.cached.sysId
  serializeVaultDocument document := obj ([("description", .string document.cached.description),
    ("short_description", .string document.cached.shortDescription),
    ("sys_id", .string document.cached.sysId)] ++ document.cached.fields.map fun entry =>
      (entry.1, obj [("display_value", .string (entry.2.displayValue.getD "")),
        ("value", .string entry.2.value)]))
  parentReference _ := none
  collectReferences _ _ := []
  articleParts _ record := (record.fields, record.references, .null)
  approvalParts _ := .null

theorem diskLib_oneSysId : OneSysId diskLib := by
  have hsnow : ∀ (resourceType : ResourceType) (text : String) (read : CachedRecord),
      diskLib.readAs resourceType text = some read → diskLib.parseSnowRecord text = some read := by
    intro resourceType text read h
    unfold RepairLib.readAs at h
    split at h
    · cases h
    · cases h
    · exact h
  intro a b text read read' h h'
  rw [Option.some.inj ((hsnow a text read h).symm.trans (hsnow b text read' h'))]

/-- The row of the incident, without a file. -/
def unfiledIncident (sysId : String) : ListedRow where
  sysId := sysId
  number := "INC0000001"
  tableName := "incident"
  resourceType := .incident
  state := some "New"
  shortDesc := some ""
  description := some ""
  filePath := none
  syncedAt := newYear
  inScope := true
  rawJson := obj [("number", obj [("display_value", .string "INC0000001"),
    ("value", .string "INC0000001")]), ("state", obj [("display_value", .string "New"),
    ("value", .string "1")])]
  assignedTo := none
  parentId := none

/-- Every step succeeds. -/
def steadyRepair : RepairIO := ⟨.ok (), .ok (), .ok (), .ok ()⟩

/-- A cache with the one row. -/
def unfiledStore : RepairStore where
  records := ⟨[unfiledIncident "b1"], List.nodup_singleton _⟩
  provenance _ := .legacyUnknown
  prunedAt := Table.empty
  files := Table.empty

/-- A cache with that row, and a row of the same number that is only to be in the cache. -/
def namesakeStore : RepairStore where
  records := ⟨[unfiledIncident "a1", unfiledIncident "b1"], by decide⟩
  provenance sysId := if sysId = "a1" then .cacheOnly else .legacyUnknown
  prunedAt := Table.empty
  files := Table.empty

/-- The repair of the one row. -/
theorem repair_alone :
    ∃ after, diskLib.repairVault (fun _ => steadyRepair) unfiledStore [unfiledIncident "b1"] =
        .ok after ∧
      (NeverMixes diskLib unfiledStore after.1 ↔
        Repairable diskLib unfiledStore [unfiledIncident "b1"]) := by
  have hrun : (diskLib.repairVault (fun _ => steadyRepair) unfiledStore
      [unfiledIncident "b1"]).map (fun after => after.1.skipped) = .ok 0 := by
    decide +kernel
  obtain ⟨after, hafter, -⟩ := map_eq_ok_iff.mp hrun
  have hlisted : ListActiveRecords none unfiledStore.records [unfiledIncident "b1"] :=
    ⟨List.Perm.refl _, List.pairwise_singleton _ _⟩
  exact ⟨after, hafter, repair_vault_mixes_iff diskLib_oneSysId hlisted hafter⟩

/-- **A row is repaired with the document of its namesake**, which is then in its fields and under
its path. -/
theorem repair_mixes_namesakes :
    ∃ (listed : List ListedRow) (after : RepairState × RepairReport),
      ListActiveRecords none namesakeStore.records listed ∧
      diskLib.repairVault (fun _ => steadyRepair) namesakeStore listed = .ok after ∧
      after.2.repairedRecords = 1 ∧ ¬ NeverMixes diskLib namesakeStore after.1 := by
  have hrun : (diskLib.repairVault (fun _ => steadyRepair) namesakeStore
      [unfiledIncident "a1", unfiledIncident "b1"]).map (fun after =>
        (after.2.repairedRecords, after.1.repaired.map fun entry =>
          (entry.1.sysId, entry.2.cached.sysId))) = .ok (1, [("b1", "a1")]) := by
    decide +kernel
  obtain ⟨after, hafter, hmap⟩ := map_eq_ok_iff.mp hrun
  obtain ⟨hcount, hentries⟩ := Prod.mk.inj hmap
  refine ⟨_, after, ⟨List.Perm.refl _, by decide⟩, hafter, hcount, fun hmixes => ?_⟩
  obtain ⟨entry, hentry, hids⟩ : ∃ entry ∈ after.1.repaired,
      (entry.1.sysId, entry.2.cached.sysId) = ("b1", "a1") := by
    rw [← List.mem_map, hentries]
    exact List.mem_singleton_self _
  obtain ⟨hid, hid'⟩ := Prod.mk.inj hids
  have htaken := (hmixes.own entry hentry).taken
  rw [hid, hid'] at htaken
  exact absurd htaken (by decide)

end SnowAgent.Core
