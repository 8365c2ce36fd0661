import Mathlib.Data.List.MinMax
import Mathlib.Data.List.Nodup
import Mathlib.Data.Prod.Lex
import Mathlib.Data.String.Basic
import SnowAgent.Primitives
import SnowAgent.ServiceNow
import SnowAgent.Table
import SnowAgent.Text

/-! # The record cache

The core reads a row of ServiceNow by its `sys_id`, writes it to a Markdown file of the
vault and to a row of the cache database, and answers with what the cache has under the
row's number.  Several rows may bear one number, and several may share one file; which
of them is answered with is a matter of an order on the rows.

What the Markdown of a document looks like, and how it is read back, is left open, as
are the functions of the ServiceNow client.
-/
namespace SnowAgent.Core

open Json Text

/-! ## Rows of ServiceNow -/

/-- `ResourceType` of the client. -/
inductive ResourceType where
  | task
  | incident
  | change
  | changeTask
  | request
  | requestTask
  | project
  | demand
  | demandTask
  | resourcePlan
  | story
  | scrumTask
  | timecard
  | knowledge
  | approval
  | businessApplication
  | server
  | privateTask
  | unknown
deriving DecidableEq

/-- A field of a fetched row. -/
structure LiveField where
  value : Option Value
  displayValue : Option String
deriving DecidableEq

/-- `Record` of the client. -/
structure Record where
  sysId : String
  table : String
  fields : StringMap LiveField
deriving DecidableEq

namespace Record

/-- `get_raw`. -/
def getRaw (record : Record) (field : String) : Option String :=
  (record.fields.get field).bind fun f => f.value.bind Value.asStr

/-- `get_display`. -/
def getDisplay (record : Record) (field : String) : Option String :=
  (record.fields.get field).bind LiveField.displayValue

/-- `set`. -/
def set (record : Record) (field : String) (value : LiveField) : Record :=
  { record with fields := (field, value) :: record.fields.filter fun entry => entry.1 != field }

end Record

/-- `Reference`, with what the file of a document is named after. -/
structure Reference where
  sysId : String
  displayName : String
deriving DecidableEq

/-- `SnowRecord` of the core, with what the cache reads of it. -/
structure CachedRecord where
  sysId : String
  number : String
  table : String
  resourceType : ResourceType
  state : String
  shortDescription : String
  description : String
  fields : StringMap FieldValue
  parent : Option RecordRef
  references : StringMap Reference
  syncedAt : DateTime
deriving DecidableEq

/-- A document that is to be persisted: its record, and the Markdown rendered of it. -/
structure Document where
  record : CachedRecord
  text : String

/-! ## The cache -/

/-- `RecordRow`. -/
structure RecordRow where
  sysId : String
  number : String
  tableName : String
  resourceType : ResourceType
  state : Option String
  shortDesc : Option String
  description : Option String
  filePath : Option String
  syncedAt : DateTime
  inScope : Bool
  rawJson : Value

/-- The `records` table: one row for each `sys_id`. -/
structure RecordTable where
  rows : List RecordRow
  keys : (rows.map RecordRow.sysId).Nodup

/-- The cache database and the files of the vault, by their path in it. -/
structure Cache where
  records : RecordTable
  files : Table String String

/-- What is left open: `get_str` and `ResourceType::from_table` of the client, the parts of
a document taken from reference fields, how an article is built, and Markdown and JSON. -/
structure CoreLib where
  /-- `get_str`, of the field. -/
  getStr : LiveField → Option String
  /-- `ResourceType::from_table`. -/
  fromTable : String → ResourceType
  /-- `parent_record_ref`. -/
  parentRecordRef : Record → Option RecordRef
  /-- The reference fields of a row. -/
  references : Record → StringMap Reference
  /-- `build_knowledge_article` with its Markdown, or the text of the failure. -/
  knowledgeArticle : Cache → DateTime → Record → Except String Document
  /-- `render_snow_record`. -/
  renderRecord : CachedRecord → String
  /-- `render_approval_record`, of the row and the record made of it. -/
  renderApproval : Record → CachedRecord → String
  /-- How the Markdown of a row of some type is read; none when that fails. -/
  parseMarkdown : ResourceType → String → Option CachedRecord
  /-- `serialize_record_document`. -/
  serializeRecordDocument : Record → Value

variable (lib : CoreLib)

/-- `get_str`. -/
def Record.getStr (record : Record) (field : String) : Option String :=
  (record.fields.get field).bind lib.getStr

/-! ## Names of tables -/

/-- `normalize_table_name`. -/
def normalizeTableName (table : String) : String :=
  String.ofList ((toAsciiLowercase (trim table)).toList.map fun c =>
    if c = ' ' ∨ c = '-' then '_' else c)

/-- `is_business_application_alias`. -/
def isBusinessApplicationAlias (value : String) : Bool :=
  ["business_application", "business_app", "cmdb_ci_business_app"].contains
    (normalizeTableName value)

/-- `canonical_server_table_alias`. -/
def canonicalServerTableAlias (value : String) : String :=
  let normalized := normalizeTableName value
  if ["server", "servers"].contains normalized then "server"
  else if ["linux", "linux_server", "linux_servers"].contains normalized then
    "cmdb_ci_linux_server"
  else if ["windows", "window", "windows_server", "windows_servers", "win_server",
      "win_servers"].contains normalized then "cmdb_ci_win_server"
  else normalized

/-- `is_server_table`. -/
def isServerTable (value : String) : Bool :=
  ["cmdb_ci_server", "cmdb_ci_linux_server", "cmdb_ci_win_server"].contains
    (canonicalServerTableAlias value)

/-- `is_change_request_table`. -/
def isChangeRequestTable (normalized : String) : Bool :=
  ["change", "change_request", "normal_change", "standard_change", "emergency_change"].contains
      normalized ||
    startsWithChars normalized.toList "change_request_".toList

/-- `is_change_request_number`. -/
def isChangeRequestNumber (number : String) : Bool :=
  startsWithChars (toAsciiLowercase (trim number)).toList "chg".toList

/-- `canonical_record_table_for_number`. -/
def canonicalRecordTableForNumber (table number : String) : String :=
  let normalized := normalizeTableName table
  if isBusinessApplicationAlias normalized then "cmdb_ci_business_app"
  else if isChangeRequestTable normalized || isChangeRequestNumber number then "change_request"
  else normalized

/-! ## A row as a document -/

/-- A text, trimmed, if it is not blank. -/
def nonBlank (text : Option String) : Option String := (text.map trim).filter (· ≠ "")

/-- `business_application_number` and `server_number`, which differ in the prefix of the
number that is made up for a row without one. -/
def ciNumber (fallback : String) (record : Record) : String :=
  (nonBlank (((record.getRaw "number").orElse fun _ => record.getDisplay "number").orElse
    fun _ => record.getStr lib "number")).getD (fallback ++ record.sysId)

/-- `business_application_number`. -/
def businessApplicationNumber (record : Record) : String := ciNumber lib "BA:" record

/-- `server_number`. -/
def serverNumber (record : Record) : String := ciNumber lib "SERVER:" record

/-- `first_record_value`. -/
def firstRecordValue (record : Record) (fields : List String) : Option String :=
  fields.findSome? fun field =>
    nonBlank (((record.getDisplay field).orElse fun _ => record.getRaw field).orElse
      fun _ => record.getStr lib field)

/-- `business_application_state`, by the baseline field. -/
def businessApplicationState (record : Record) : String :=
  (((record.getDisplay "operational_status").orElse
    fun _ => record.getRaw "operational_status").orElse
      fun _ => record.getStr lib "operational_status").getD ""

/-- The value of a field as text. -/
def fieldText : Value → String
  | .string s => s
  | v => v.text

/-- `SnowRecord::from_servicenow`. -/
def fromServicenow (now : DateTime) (record : Record) : CachedRecord :=
  let text (field : String) : String := (record.getStr lib field).getD ""
  let application := isBusinessApplicationAlias record.table
  let server := isServerTable record.table
  let number :=
    if application then businessApplicationNumber lib record
    else if server then serverNumber lib record
    else text "number"
  let table := canonicalRecordTableForNumber record.table number
  { sysId := record.sysId
    number := number
    table := table
    resourceType := lib.fromTable table
    state :=
      if application then businessApplicationState lib record
      else if server then
        (firstRecordValue lib record ["operational_status", "install_status"]).getD ""
      else text "state"
    shortDescription :=
      if application then
        (firstRecordValue lib record ["name", "short_description"]).getD record.sysId
      else if server then
        (firstRecordValue lib record ["name", "fqdn", "dns_domain"]).getD record.sysId
      else text "short_description"
    description :=
      if application then
        (firstRecordValue lib record ["short_description", "description"]).getD ""
      else if server then
        (firstRecordValue lib record ["short_description", "description", "fqdn"]).getD ""
      else text "description"
    fields := record.fields.map fun entry =>
      (entry.1, ⟨(entry.2.value.map fieldText).getD "", entry.2.displayValue⟩)
    parent := none
    references := []
    syncedAt := now }

/-- `runtime_document_from_servicenow`, rendered. -/
def runtimeDocumentFromServicenow (cache : Cache) (now : DateTime) (record : Record) :
    Except String Document :=
  if record.table = "kb_knowledge" then lib.knowledgeArticle cache now record
  else if record.table = "sysapproval_approver" then
    let approval :=
      { fromServicenow lib now record with
        resourceType := .approval
        table := "sysapproval_approver" }
    .ok ⟨approval, lib.renderApproval record approval⟩
  else
    let document :=
      { fromServicenow lib now record with
        parent := lib.parentRecordRef record
        references := lib.references record }
    .ok ⟨document, lib.renderRecord document⟩

/-! ## Files of the vault -/

/-- `slugify`, from the characters, with whether the last one was a dash. -/
def slugChars : List Char → Bool → List Char
  | [], _ => []
  | c :: cs, dash =>
    let lower := lowerChar c
    if lower.isAlphanum then lower :: slugChars cs false
    else if dash then slugChars cs true
    else '-' :: slugChars cs true

/-- `slugify`. -/
def slugify (value : String) : String :=
  String.ofList
    ((((slugChars value.toList false).dropWhile (· == '-')).reverse.dropWhile (· == '-')).reverse)

/-- `stable_slug`. -/
def stableSlug (pre sysId displayName : String) : String :=
  let slug := slugify displayName
  if slug = "" then pre ++ "_" ++ sysId else pre ++ "_" ++ sysId ++ "_" ++ slug

/-- `file_name`. -/
def fileName (primary fallback : String) : String :=
  (if primary = "" then fallback else primary) ++ ".md"

/-- `hierarchical_parent_record_path`. -/
def hierarchicalParentRecordPath (root number sysId : String) : String :=
  if number = "" then root ++ "/" ++ fileName number sysId
  else root ++ "/" ++ number ++ "/" ++ fileName number sysId

/-- `hierarchical_child_record_path`. -/
def hierarchicalChildRecordPath (root number : String) (parent : Option RecordRef)
    (sysId : String) : String :=
  match parent with
  | some parent =>
    if parent.number ≠ "" then root ++ "/" ++ parent.number ++ "/" ++ fileName number sysId
    else root ++ "/" ++ fileName number sysId
  | none => root ++ "/" ++ fileName number sysId

/-- The name a configuration item's file is made of. -/
def ciDisplayName (record : CachedRecord) : String :=
  match ((record.fields.get "name").map fun f => f.displayValue.getD f.value).filter
      fun value => trim value ≠ "" with
  | some name => name
  | none =>
    if trim record.shortDescription ≠ "" then record.shortDescription
    else if trim record.number ≠ "" then record.number
    else record.sysId

/-- `record_path`, below the root of the vault. -/
def recordPath (record : CachedRecord) : String :=
  let flat (folder : String) : String := folder ++ "/" ++ fileName record.number record.sysId
  let parent (folder : String) : String :=
    hierarchicalParentRecordPath folder record.number record.sysId
  let child (folder : String) : String :=
    hierarchicalChildRecordPath folder record.number record.parent record.sysId
  let item (folder pre : String) : String :=
    folder ++ "/" ++ stableSlug pre record.sysId (ciDisplayName record) ++ ".md"
  match record.resourceType with
  | .task => flat "tasks"
  | .incident => flat "incidents"
  | .change => parent "changes"
  | .changeTask => child "changes"
  | .request => parent "requests"
  | .requestTask => child "requests"
  | .project => parent "projects"
  | .demand => parent "demands"
  | .demandTask => child "demands"
  | .resourcePlan => flat "resource_plans"
  | .story => parent "stories"
  | .scrumTask => child "stories"
  | .timecard => flat "timecards"
  | .knowledge =>
    match record.references.get "knowledge_base", record.references.get "category" with
    | some base, some category =>
      "knowledge/bases/" ++ stableSlug "kb" base.sysId base.displayName ++ "/" ++
        stableSlug "cat" category.sysId category.displayName ++ "/" ++
          fileName record.number record.sysId
    | _, _ => flat "knowledge"
  | .approval => flat "approvals"
  | .businessApplication => item "business_applications" "business_application"
  | .server => item "servers" "server"
  | .privateTask => flat "private_tasks"
  | .unknown => flat "unknown"

/-! ## Persisting and reading back -/

variable {table : RecordTable}

/-- `record_row_from_snow_record`. -/
def recordRowFromSnowRecord (document : CachedRecord) (record : Record) (path : String) :
    RecordRow where
  sysId := document.sysId
  number := document.number
  tableName := document.table
  resourceType := document.resourceType
  state := some document.state
  shortDesc := some document.shortDescription
  description := some document.description
  filePath := some path
  syncedAt := document.syncedAt
  inScope := true
  rawJson := lib.serializeRecordDocument record

/-- `upsert_record_with_tags`: the row of the `sys_id` is made, or made anew. -/
def RecordTable.upsert (table : RecordTable) (row : RecordRow) : RecordTable where
  rows := table.rows.filter (fun other => other.sysId ≠ row.sysId) ++ [row]
  keys := by
    rw [List.map_append]
    refine List.nodup_append.mpr ⟨(List.filter_sublist.map _).nodup table.keys,
      List.nodup_singleton _, ?_⟩
    intro a ha b hb
    obtain ⟨other, hother, rfl⟩ := List.mem_map.mp ha
    have hne := (List.mem_filter.mp hother).2
    rw [List.map_singleton, List.mem_singleton] at hb
    rw [hb]
    simpa using hne

/-- `get_record_by_sys_id`. -/
def RecordTable.getRecordBySysId (table : RecordTable) (sysId : String) : Option RecordRow :=
  table.rows.find? fun row => row.sysId = sysId

theorem getRecordBySysId_eq_some {sysId : String} {row : RecordRow} :
    table.getRecordBySysId sysId = some row ↔ row ∈ table.rows ∧ row.sysId = sysId := by
  constructor
  · intro h
    exact ⟨List.mem_of_find?_eq_some h, by simpa using List.find?_some h⟩
  · rintro ⟨hmem, rfl⟩
    cases hfound : table.getRecordBySysId row.sysId with
    | none => simpa using List.find?_eq_none.mp hfound row hmem
    | some other =>
      have hother : other.sysId = row.sysId := by simpa using List.find?_some hfound
      rw [List.inj_on_of_nodup_map table.keys (List.mem_of_find?_eq_some hfound) hmem hother]

theorem getRecordBySysId_eq_none {sysId : String} :
    table.getRecordBySysId sysId = none ↔ ∀ row ∈ table.rows, row.sysId ≠ sysId := by
  simp [RecordTable.getRecordBySysId]

-- The preferred row is computed: of the orders Mathlib has on `ℤ`, the one that runs.
local instance recordCacheOrder : LinearOrder ℤ := Int.instLinearOrder

local instance recordCachePreorder : Preorder ℤ := Int.instLinearOrder.toPreorder

/-- The order in which the rows of a number are preferred: approvals last, rows in scope
first, then the last synced, to the second, and of these the smallest `sys_id`. -/
def preference (row : RecordRow) : ℕ ×ₗ ℕ ×ₗ ℤ ×ₗ String :=
  toLex (if row.resourceType = .approval then 1 else 0,
    toLex (if row.inScope then 0 else 1, toLex (-timestampSeconds row.syncedAt, row.sysId)))

/-- `get_primary_record_by_number`. -/
def RecordTable.getPrimaryRecordByNumber (table : RecordTable) (number : String) :
    Option RecordRow :=
  (table.rows.filter fun row => row.number = number).argmin preference

/-- `json_value_to_string`. -/
def jsonValueToString : Value → String
  | .string s => s
  | .null => ""
  | v => v.text

/-- `field_value_from_json`. -/
def fieldValueFromJson : Value → FieldValue
  | .object fields =>
    ⟨((lookup "value" fields).map jsonValueToString).getD "",
      (lookup "display_value" fields).bind Value.asStr⟩
  | v => ⟨jsonValueToString v, none⟩

/-- `collect_fields`. -/
def collectFields (json : Value) : StringMap FieldValue :=
  (json.asObject.getD []).map fun entry => (entry.1, fieldValueFromJson entry.2)

/-- `load_record_from_vault`: what the file of a row reads as. -/
def loadRecordFromVault (files : Table String String) (row : RecordRow) : Option CachedRecord :=
  (row.filePath.bind files.row).bind (lib.parseMarkdown row.resourceType)

/-- `materialize_record_from_json`, with what the cache reads of it. -/
def materializeRecordFromJson (row : RecordRow) : CachedRecord where
  sysId := row.sysId
  number := row.number
  table := row.tableName
  resourceType := row.resourceType
  state := row.state.getD ""
  shortDescription := row.shortDesc.getD ""
  description := row.description.getD ""
  fields := collectFields row.rawJson
  parent := none
  references := []
  syncedAt := row.syncedAt

/-- `materialize_record`. -/
def materializeRecord (files : Table String String) (row : RecordRow) : CachedRecord :=
  (loadRecordFromVault lib files row).getD (materializeRecordFromJson row)

/-- `get_record` of the query engine. -/
def getRecord (cache : Cache) (number : String) : Option CachedRecord :=
  (cache.records.getPrimaryRecordByNumber number).map (materializeRecord lib cache.files)

/-- What the file system and the database answer to the three steps. -/
structure CacheIO where
  writeFile : Except String Unit
  writeRow : Except String Unit
  readRow : Except String Unit

/-- The cache once a document of a row is persisted. -/
def Cache.persisted (cache : Cache) (record : Record) (document : Document) : Cache where
  records := cache.records.upsert
    (recordRowFromSnowRecord lib document.record record (recordPath document.record))
  files := cache.files.put (recordPath document.record) document.text

/-- `persist_record`. -/
def persistRecord (answers : CacheIO) (cache : Cache) (now : DateTime) (record : Record) :
    Except String Cache := do
  let document ← runtimeDocumentFromServicenow lib cache now record
  answers.writeFile
  answers.writeRow
  return cache.persisted lib record document

/-- One journal field of a row, replaced by what the journal row has for it. -/
def enrichJournal (journal record : Record) (field : String) : Record :=
  match journal.fields.get field with
  | none => record
  | some value =>
    let blob := (value.displayValue.orElse fun _ => value.value.bind Value.asStr).getD ""
    if trim blob = "" then record else record.set field ⟨none, some blob⟩

/-- `enrich_record_journals`, given the journal row, if it could be fetched. -/
def enrichRecordJournals (record : Record) (journal : Option Record) : Record :=
  match journal with
  | none => record
  | some journal => enrichJournal journal (enrichJournal journal record "work_notes") "comments"

/-- The number under which a fetched row is read back. -/
def freshNumber (table sysId : String) (record : Record) : Except String String :=
  if isBusinessApplicationAlias record.table then .ok (businessApplicationNumber lib record)
  else
    match nonBlank ((record.getRaw "number").orElse fun _ => record.getStr lib "number") with
    | some number => .ok number
    | none =>
      .error ("fresh " ++ table ++ " row " ++ sysId ++ " did not include a record number")

/-- `get_record_by_table_sys_id_fresh_with_source`, given what the client answers. -/
def getRecordByTableSysIdFreshWithSource (answers : CacheIO) (cache : Cache) (now : DateTime)
    (table sysId : String) (fetched : Except String Record) (journal : Option Record) :
    Except String (Option (Record × CachedRecord)) := do
  let record ← fetched
  let record :=
    if eqIgnoreAsciiCase record.sysId sysId then { record with sysId := sysId } else record
  let number ← freshNumber lib table sysId record
  let record := enrichRecordJournals record journal
  let cache ← persistRecord lib answers cache now record
  answers.readRow
  return (getRecord lib cache number).map fun found => (record, found)

/-! ## The first row of a number -/

variable {number : String}

/-- The row that comes first among the rows of a number. -/
structure First (table : RecordTable) (number : String) (row : RecordRow) : Prop where
  mem : row ∈ table.rows
  named : row.number = number
  least : ∀ other ∈ table.rows, other.number = number → preference row ≤ preference other

/-- No two rows are equally preferred. -/
theorem preference_inj {row other : RecordRow} (hrow : row ∈ table.rows)
    (hother : other ∈ table.rows) (h : preference row = preference other) : row = other := by
  have hid : row.sysId = other.sysId := by
    have hlast := congrArg (fun k => (ofLex (ofLex (ofLex k).2).2).2) h
    exact hlast
  exact List.inj_on_of_nodup_map table.keys hrow hother hid

theorem First.unique {row other : RecordRow} (hrow : First table number row)
    (hother : First table number other) : row = other :=
  preference_inj hrow.mem hother.mem (le_antisymm (hrow.least other hother.mem hother.named)
      (hother.least row hrow.mem hrow.named))

/-- The query finds the row that comes first. -/
theorem getPrimaryRecordByNumber_first {row : RecordRow}
    (h : table.getPrimaryRecordByNumber number = some row) : First table number row := by
  have hmem := List.mem_filter.mp (List.argmin_mem h)
  refine ⟨hmem.1, by simpa using hmem.2, ?_⟩
  intro other hother hnumber
  exact List.le_of_mem_argmin (List.mem_filter.mpr ⟨hother, by simpa using hnumber⟩) h

/-! ## What is read back -/

/-- A record is that of the row asked for: it has its `sys_id`, its state and its fields. -/
structure Agrees (sysId : String) (document found : CachedRecord) : Prop where
  sysId : found.sysId = sysId
  state : found.state = document.state
  fields : ∀ field, found.fields.get field = document.fields.get field

variable {lib}

section Restores

variable (lib) (sysId : String) (cache : Cache) (document : Document) (row : RecordRow)

/-- The Markdown of a row once a document is persisted: the one just written, if the row has
the same file, and otherwise the one that was there. -/
def rowText : Option String :=
  if row.filePath = some (recordPath document.record) then some document.text
  else row.filePath.bind cache.files.row

/-- What is kept for a row restores the document: its Markdown reads as the document, or is
not there or does not read, and then the JSON of the row does. -/
def Restores : Prop :=
  (∃ found, (rowText cache document row).bind (lib.parseMarkdown row.resourceType) = some found ∧
      Agrees sysId document.record found) ∨
    ((rowText cache document row).bind (lib.parseMarkdown row.resourceType) = none ∧
      Agrees sysId document.record (materializeRecordFromJson row))

end Restores

theorem files_persisted (cache : Cache) (record : Record) (document : Document) (row : RecordRow) :
    row.filePath.bind (cache.persisted lib record document).files.row =
      rowText cache document row := by
  rw [rowText]
  cases hpath : row.filePath with
  | none => rfl
  | some path =>
    by_cases hsame : path = recordPath document.record
    · subst hsame
      rw [if_pos rfl]
      exact Table.row_put_self _ _ _
    · rw [if_neg fun h => hsame (Option.some.inj h)]
      exact Table.row_put_of_ne _ _ hsame

variable {record : Record}

theorem restores_iff {sysId : String} {cache : Cache} {document : Document} {row : RecordRow} :
    Agrees sysId document.record
        (materializeRecord lib (cache.persisted lib record document).files row) ↔
      Restores lib sysId cache document row := by
  rw [materializeRecord, loadRecordFromVault, files_persisted, Restores]
  cases (rowText cache document row).bind (lib.parseMarkdown row.resourceType) with
  | none => simp
  | some found => simp

/-! ## The number of an enriched row -/

theorem get_set_of_ne {field other : String} {value : LiveField}
    (hne : other ≠ field) : (record.set field value).fields.get other = record.fields.get other := by
  have hhead : (field == other) = false := by simpa using Ne.symm hne
  show StringMap.get ((field, value) :: record.fields.filter _) other = _
  rw [StringMap.get, List.find?_cons, hhead]
  show ((record.fields.filter _).find? _).map _ = _
  rw [List.find?_filter, StringMap.get]
  congr 2
  funext entry
  by_cases hentry : entry.1 = other
  · simp [hentry, hne]
  · simp [hentry]

/-- A journal field changes neither the number of a row, nor its table, nor its `sys_id`. -/
theorem enrichJournal_kept (journal record : Record) {field : String} (hne : "number" ≠ field) :
    (enrichJournal journal record field).fields.get "number" = record.fields.get "number" ∧
      (enrichJournal journal record field).table = record.table ∧
        (enrichJournal journal record field).sysId = record.sysId := by
  rw [enrichJournal]
  cases journal.fields.get field with
  | none => exact ⟨rfl, rfl, rfl⟩
  | some value =>
    simp only
    split_ifs
    · exact ⟨rfl, rfl, rfl⟩
    · exact ⟨get_set_of_ne hne, rfl, rfl⟩

theorem freshNumber_congr {table sysId : String} {record record' : Record}
    (hnumber : record'.fields.get "number" = record.fields.get "number")
    (htable : record'.table = record.table) (hid : record'.sysId = record.sysId) :
    freshNumber lib table sysId record' = freshNumber lib table sysId record := by
  simp only [freshNumber, businessApplicationNumber, ciNumber, Record.getRaw, Record.getDisplay,
    Record.getStr, hnumber, htable, hid]

/-- The journals do not change the number under which a row is read back. -/
theorem freshNumber_enrich (table sysId : String) (record : Record) (journal : Option Record) :
    freshNumber lib table sysId (enrichRecordJournals record journal) =
      freshNumber lib table sysId record := by
  cases journal with
  | none => rfl
  | some journal =>
    have hne : "number" ≠ "work_notes" ∧ "number" ≠ "comments" := by decide
    obtain ⟨hnumber, htable, hid⟩ :=
      enrichJournal_kept journal (enrichJournal journal record "work_notes") hne.2
    obtain ⟨hnumber', htable', hid'⟩ := enrichJournal_kept journal record hne.1
    exact freshNumber_congr (hnumber.trans hnumber') (htable.trans htable') (hid.trans hid')

/-! ## A fresh read -/

/-- A new incident, as ServiceNow has it. -/
def liveIncident : Record where
  sysId := "b1"
  table := "incident"
  fields := [("number", ⟨some (.string "INC0000001"), some "INC0000001"⟩),
    ("state", ⟨some (.string "1"), some "New"⟩)]

/-- Its Markdown. -/
def incidentMarkdown : String :=
  "\n".intercalate ["---", "sys_id: \"b1\"", "number: \"INC0000001\"", "table: \"incident\"",
    "resource_type: \"incident\"", "state: \"New\"", "short_description: \"\"",
    "description: |", "  ", "synced_at: \"2026-01-01T00:00:00Z\"", "source: \"api\"", "fields:",
    "  number:", "    value: \"INC0000001\"", "    display_value: \"INC0000001\"", "  state:",
    "    value: \"1\"", "    display_value: \"New\"", "---", "", "# INC0000001: ", "",
    "## Description", "", "_(empty)_", "", "## Work Notes", "", "_(none)_", "", "## Comments", "",
    "_(none)_", "", ""]

/-- The record that this Markdown is rendered of and reads as. -/
def incidentRecord : CachedRecord where
  sysId := "b1"
  number := "INC0000001"
  table := "incident"
  resourceType := .incident
  state := "New"
  shortDescription := ""
  description := ""
  fields := [("number", ⟨"INC0000001", some "INC0000001"⟩), ("state", ⟨"1", some "New"⟩)]
  parent := none
  references := []
  syncedAt := newYear

/-- Renders and reads that one incident. -/
def incidentLib : CoreLib where
  getStr field := field.displayValue.orElse fun _ => field.value.bind Value.asStr
  fromTable table := if table = "incident" then .incident else .unknown
  parentRecordRef _ := none
  references _ := []
  knowledgeArticle _ _ _ := .error "no article"
  renderRecord _ := incidentMarkdown
  renderApproval _ _ := ""
  parseMarkdown _ text := if text = incidentMarkdown then some incidentRecord else none
  serializeRecordDocument record := obj (record.fields.map fun entry =>
    (entry.1, obj [("value", entry.2.value.getD .null),
      ("display_value", .string (entry.2.displayValue.getD ""))]))

/-- Every step succeeds. -/
def steadyIO : CacheIO := ⟨.ok (), .ok (), .ok ()⟩

/-- A cache without rows. -/
def emptyCache : Cache := ⟨⟨[], List.nodup_nil⟩, Table.empty⟩

/-- A row of the same number that was cached without a file in the same second. -/
def namesake : RecordRow where
  sysId := "a1"
  number := "INC0000001"
  tableName := "incident"
  resourceType := .incident
  state := some "Closed"
  shortDesc := none
  description := none
  filePath := none
  syncedAt := newYear
  inScope := true
  rawJson := .null

/-- A cache with that row. -/
def namesakeCache : Cache := ⟨⟨[namesake], List.nodup_singleton _⟩, Table.empty⟩

end SnowAgent.Core
