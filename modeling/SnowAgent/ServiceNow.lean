import SnowAgent.OperationPlan
import SnowAgent.Program

/-! # ServiceNow as the daemon sees it

The records the core client returns, and the calls of it the write handlers make.
A record is what the handlers read of it, next to the JSON of the whole, which
they only pass on.  Nothing is assumed of the answers: ServiceNow is shared with
other users, and a call can fail before or after it has taken effect.
-/
namespace SnowAgent

open Json

/-- A map with text keys, as its entries. -/
abbrev StringMap (α : Type) := List (String × α)

/-- The entry of a key. -/
def StringMap.get {α : Type} (m : StringMap α) (key : String) : Option α :=
  (m.find? fun entry => entry.1 == key).map Prod.snd

structure FieldValue where
  value : String
  displayValue : Option String
deriving DecidableEq

/-- `SnowRecord`. -/
structure SnowRecord where
  sysId : String
  number : String
  table : String
  state : String
  fields : StringMap FieldValue
  /-- The `sys_id` of every reference. -/
  references : StringMap String
  /-- What `serde_json::to_value` writes for the record. -/
  json : Value
deriving DecidableEq

/-- `record_ref_from_snow`. -/
def SnowRecord.ref (record : SnowRecord) : RecordRef where
  sysId := record.sysId
  number := record.number
  table := record.table

/-- One choice of a choice field. -/
structure FieldChoice where
  label : String
  value : String
  terminal : Bool
deriving DecidableEq

/-- `TimeCard`. -/
structure TimeCard where
  sysId : String
  weekStartsOn : String
  /-- The `sys_id` of the card's user. -/
  userSysId : String
  /-- The `sys_id` and the number of the task. -/
  task : Option (String × String)
  category : String
  projectTimeCategory : Option String
  state : String
  sysUpdatedOn : String
  sysModCount : Option Int
  /-- What `serde_json::to_value` writes for the card. -/
  json : Value
deriving DecidableEq

inductive Weekday where
  | sun
  | mon
  | tue
  | wed
  | thu
  | fri
  | sat
deriving DecidableEq

inductive SetMode where
  | set
  | add
deriving DecidableEq

/-- `CatalogSubmitResult`, as far as a receipt shows it. -/
structure CatalogSubmitResult where
  itemSysId : String
  table : Option String
  sysId : Option String
  number : Option String
  requestNumber : Option String
  requestItemNumber : Option String
  browserUrl : Option String
  rawResult : Value
  /-- What `serde_json::to_value` writes for the result. -/
  json : Value
deriving DecidableEq

/-- `UnavailableReason`. -/
inductive UnavailableReason where
  | notReturnedByInstance
  | aclDenied
  | notSupportedByOperation
deriving DecidableEq

/-- `FieldSupport` of whether a table has a field. -/
inductive FieldSupport where
  | available (value : Bool)
  | unavailable (reason : UnavailableReason)
deriving DecidableEq

/-! ## Reads -/

inductive QueryFilter where
  | equals (field value : String)
  | greaterThan (field value : String)
deriving DecidableEq

/-- A query of the Table API. -/
structure TableQuery where
  table : String
  filters : List QueryFilter
  fields : List String
  limit : Nat
deriving DecidableEq

/-- One row of a query's answer: `get_raw` reads `raw`, and `get_str` reads `text`. -/
structure TableRow where
  sysId : String
  raw : StringMap String
  text : StringMap String
deriving DecidableEq

/-- `IncidentReadError`; an unresolved state keeps only the text asked for. -/
inductive IncidentReadError where
  | invalidParams (message : String)
  | stateUnresolved (requested : String)
  | notFound
  | numberAmbiguous
  | lookupUnavailable
  | aclDenied
  | serviceNowUnavailable
  | serviceNowError
deriving DecidableEq

/-- The text of a failed incident read. -/
def IncidentReadError.message : IncidentReadError → String
  | .invalidParams message => message
  | .stateUnresolved requested => "incident state `" ++ requested ++ "` could not be resolved"
  | .notFound => "incident not found"
  | .numberAmbiguous => "incident number is ambiguous"
  | .lookupUnavailable => "incident lookup is unavailable"
  | .aclDenied => "access to incident was denied"
  | .serviceNowUnavailable => "ServiceNow is unavailable"
  | .serviceNowError => "ServiceNow request failed"

/-- The reads the handlers make. -/
inductive SnowRead where
  /-- `get_record_fresh`. -/
  | recordFresh (number : String)
  /-- `get_record_live_without_persistence`. -/
  | recordLive (number : String)
  /-- `field_choices`. -/
  | fieldChoices (table field : String)
  /-- `client().table(..)..execute()`. -/
  | query (q : TableQuery)
  /-- `incident_get`, by number or by `sys_id`. -/
  | incidentGet (number sysId : Option String)
  /-- `get_record`, from the cache. -/
  | recordCached (number : String)
  /-- `get_record_by_table_sys_id_fresh`. -/
  | recordByTable (table sysId : String)
  /-- `supports_field`. -/
  | fieldSupport (table field : String)
  /-- `get_timecard_fresh`. -/
  | timecardFresh (sysId : String)
  /-- `resource_plan_allocation_evidence`. -/
  | allocationEvidence (sysId : String)
deriving DecidableEq

/-- What a read answers with; a failed call answers with its text. -/
def SnowRead.Ans : SnowRead → Type
  | .recordFresh _ => Except String (Option SnowRecord)
  | .recordLive _ => Except String (Option SnowRecord)
  | .fieldChoices _ _ => Except String (List FieldChoice)
  | .query _ => Except String (List TableRow)
  | .incidentGet _ _ => Except IncidentReadError (StringMap FieldValue)
  | .recordCached _ => Except String (Option SnowRecord)
  | .recordByTable _ _ => Except String (Option SnowRecord)
  | .fieldSupport _ _ => Except String FieldSupport
  | .timecardFresh _ => Except String (Option TimeCard)
  | .allocationEvidence _ => Except String (Nat × List String)

/-- The interface of programs that only read. -/
abbrev SnowReads : Interface := ⟨SnowRead, SnowRead.Ans⟩

namespace SnowRead

def getRecordFresh (number : String) : Program SnowReads (Except String (Option SnowRecord)) :=
  .perform (S := SnowReads) (.recordFresh number)

def getRecordLive (number : String) : Program SnowReads (Except String (Option SnowRecord)) :=
  .perform (S := SnowReads) (.recordLive number)

def getFieldChoices (table field : String) :
    Program SnowReads (Except String (List FieldChoice)) :=
  .perform (S := SnowReads) (.fieldChoices table field)

def execute (q : TableQuery) : Program SnowReads (Except String (List TableRow)) :=
  .perform (S := SnowReads) (.query q)

def getIncident (number sysId : Option String) :
    Program SnowReads (Except IncidentReadError (StringMap FieldValue)) :=
  .perform (S := SnowReads) (.incidentGet number sysId)

def getRecord (number : String) : Program SnowReads (Except String (Option SnowRecord)) :=
  .perform (S := SnowReads) (.recordCached number)

def getRecordByTable (table sysId : String) :
    Program SnowReads (Except String (Option SnowRecord)) :=
  .perform (S := SnowReads) (.recordByTable table sysId)

def supportsField (table field : String) : Program SnowReads (Except String FieldSupport) :=
  .perform (S := SnowReads) (.fieldSupport table field)

def getTimecardFresh (sysId : String) : Program SnowReads (Except String (Option TimeCard)) :=
  .perform (S := SnowReads) (.timecardFresh sysId)

def getAllocationEvidence (sysId : String) :
    Program SnowReads (Except String (Nat × List String)) :=
  .perform (S := SnowReads) (.allocationEvidence sysId)

end SnowRead

/-! ## Writes -/

/-- A written record, read back, with its version. -/
structure WriteResult where
  record : SnowRecord
  concurrency : ConcurrencyToken
deriving DecidableEq

/-- `IncidentWriteError`; `localCoherence` is a write that ServiceNow did accept. -/
inductive IncidentWriteError where
  | upstream (text : String)
  | localCoherence
deriving DecidableEq

/-- `KnowledgeDraftWriteResult`. -/
structure KnowledgeDraft where
  record : SnowRecord
  workflowState : String
  knowledgeBaseSysId : String
  categorySysId : Option String
deriving DecidableEq

/-- How a write that may be made once only is answered with an error.  Whether ServiceNow
carried it out all the same is part of what happened, but the daemon is not told. -/
structure WriteFailure where
  /-- The HTTP status, when ServiceNow answered with one. -/
  status : Option Nat
  text : String
  performed : Bool
deriving DecidableEq

/-- How `add_work_note_without_retry` ends.  The daemon is told the result only, which can fail,
or be empty, though the note was added. -/
structure NoteAnswer where
  /-- The table and the `sys_id` of the record that ServiceNow added the note to, if it did. -/
  addedTo : Option (String × String)
  result : Except String (Option SnowRecord)
deriving DecidableEq

/-- The writes the handlers make, and what they have the local cache do after one. -/
inductive SnowWrite where
  /-- `create_rm_story`, `create_rm_scrum_task`, `create_change_request`, `create_change_task`. -/
  | create (table : String) (payload : Value)
  /-- `update_rm_story`, `update_rm_scrum_task`, `update_change_request`, `update_change_task`. -/
  | update (table sysId : String) (payload : Value)
  /-- `update_incident`. -/
  | updateIncident (sysId : String) (payload : Value)
  /-- `update_incident_without_retry`. -/
  | patchIncident (sysId : String) (patch : StringMap String)
  /-- `replace_incident_projection_after_write`. -/
  | refreshProjection (sysId : String)
  /-- `set_timecard_hours`. -/
  | setTimecardHours (sysId : String) (day : Weekday) (hours : String) (mode : SetMode)
  /-- `add_work_note_without_retry`. -/
  | addWorkNote (number text : String)
  /-- `create_resource_plan`. -/
  | createResourcePlan (payload : Value)
  /-- `update_resource_plan`. -/
  | updateResourcePlan (sysId : String) (payload : Value)
  /-- `create_knowledge_draft`. -/
  | createKnowledgeDraft (shortDescription text knowledgeBaseSysId : String)
      (categorySysId : Option String)
  /-- `submit_catalog_request`. -/
  | submitCatalogRequest (itemSysId : String) (requestBody : Value)
deriving DecidableEq

/-- What a write answers with; a patched incident with its `sys_updated_on`, if there. -/
def SnowWrite.Ans : SnowWrite → Type
  | .create _ _ => Except String WriteResult
  | .update _ _ _ => Except String WriteResult
  | .updateIncident _ _ => Except IncidentWriteError WriteResult
  | .patchIncident _ _ => Except String (Option String)
  | .refreshProjection _ => Except String Unit
  | .setTimecardHours _ _ _ _ => Except String TimeCard
  | .addWorkNote _ _ => NoteAnswer
  | .createResourcePlan _ => Except WriteFailure WriteResult
  | .updateResourcePlan _ _ => Except WriteFailure WriteResult
  | .createKnowledgeDraft _ _ _ _ => Except WriteFailure KnowledgeDraft
  | .submitCatalogRequest _ _ => Except String CatalogSubmitResult

/-- Whether a write succeeded. -/
def SnowWrite.succeeded : (w : SnowWrite) → w.Ans → Bool
  | .create _ _, .ok _ | .update _ _ _, .ok _ | .updateIncident _ _, .ok _
  | .patchIncident _ _, .ok _ | .refreshProjection _, .ok _
  | .setTimecardHours _ _ _ _, .ok _ | .addWorkNote _ _, ⟨_, .ok (some _)⟩
  | .createResourcePlan _, .ok _ | .updateResourcePlan _ _, .ok _
  | .createKnowledgeDraft _ _ _ _, .ok _ | .submitCatalogRequest _ _, .ok _ => true
  | _, _ => false

end SnowAgent
