import SnowAgent.ArticleBodies
import SnowAgent.Program
import SnowAgent.TableApi

/-! # Catalog items

`catalog_item_get` reads a catalog item with its variables: the item itself, the variables of
its own, the variable sets it is linked to, the variables of these sets, and the choices of all
the variables.  The policy of the cache says whether an item may come from the cache, and
whether one that was read is kept there.

The tables of ServiceNow are read by `Listing`s, which say what fields of a row are answered.
Serialization of an item in the cache is left out.
-/
namespace SnowAgent.Catalog

open Json Text Core Program Knowledge

/-! ## Reading ServiceNow -/

/-- `TableApi` with its fields and its order. -/
structure Listing where
  table : String
  fields : List String
  conditions : List Atom
  orderBy : String
  limit : Nat
deriving DecidableEq

namespace Listing

/-- `equals`. -/
def equals (query : Listing) (field value : String) : Listing :=
  { query with conditions := query.conditions ++ [.equals field value] }

/-- `in_list`. -/
def inList (query : Listing) (field : String) (values : List String) : Listing :=
  { query with conditions := query.conditions ++ [.inList field values] }

end Listing

/-- `QueryResult`. -/
structure QueryResult where
  records : List Record
  errors : List String

/-- A read of ServiceNow: one row, or the rows of a listing. -/
inductive Read where
  | get (table : String) (fields : List String) (sysId : String)
  | execute (query : Listing)

/-- What the client answers. -/
@[reducible] def CatalogReads : Interface where
  Act := Read
  Ans
    | .get _ _ _ => Except SnowApiError Record
    | .execute _ => Except SnowApiError QueryResult

/-- Why no item is answered. -/
inductive CatalogError where
  | invalid (message : String)
  | client (error : SnowApiError)
  | cacheMiss (operation object : String)
  | store (message : String)
deriving DecidableEq

/-- A program that reads ServiceNow and may fail. -/
abbrev CatalogM (A : Type) := ExceptT CatalogError (Program CatalogReads) A

/-- `get`. -/
def get (table : String) (fields : List String) (sysId : String) : CatalogM Record :=
  ExceptT.mk do
    return (← perform (S := CatalogReads) (.get table fields sysId)).mapError .client

/-- `execute`. -/
def execute (query : Listing) : CatalogM QueryResult :=
  ExceptT.mk do
    return (← perform (S := CatalogReads) (.execute query)).mapError .client

/-! ## Fields of a row -/

section Fields

variable (lib : CoreLib) (record : Record)

/-- `record_field_raw_or_display`. -/
def recordFieldRawOrDisplay (field : String) : Option String :=
  nonBlank (((record.getRaw field).orElse fun _ => record.getDisplay field).orElse
    fun _ => record.getStr lib field)

/-- `record_field_display_or_raw`. -/
def recordFieldDisplayOrRaw (field : String) : Option String :=
  nonBlank (((record.getDisplay field).orElse fun _ => record.getRaw field).orElse
    fun _ => record.getStr lib field)

/-- `record_bool`. -/
def recordBool (field : String) : Bool :=
  ["true", "1", "yes", "y"].contains
    (toAsciiLowercase ((recordFieldRawOrDisplay lib record field).getD ""))

/-- `str::parse` to a `u32`. -/
def parseU32 (s : String) : Option Nat :=
  let n := match s.toList with
    | '+' :: cs => digitsValue cs
    | cs => digitsValue cs
  n.filter (· < 2 ^ 32)

end Fields

/-! ## Items -/

/-- `CatalogChoice`. -/
structure CatalogChoice where
  value : String
  label : String
deriving DecidableEq

/-- `CatalogVariable`. -/
structure CatalogVariable where
  sysId : String
  name : String
  label : String
  variableType : String
  mandatory : Bool
  defaultValue : Option String
  referenceTable : Option String
  lookupTable : Option String
  maxLength : Option Nat
  choices : List CatalogChoice
deriving DecidableEq

/-- `CatalogItem`. -/
structure CatalogItem where
  sysId : String
  name : String
  shortDescription : String
  table : String
  variableList : List CatalogVariable
deriving DecidableEq

section Items

variable (lib : CoreLib)

/-- A value that is not blank, as it is. -/
def unlessBlank (value : Option String) : Option String := value.filter (trim · ≠ "")

/-- `catalog_variable_from_record`. -/
def catalogVariableFromRecord (choices : Table String (List CatalogChoice)) (record : Record) :
    CatalogVariable :=
  let name := (recordFieldRawOrDisplay lib record "name").getD record.sysId
  { sysId := record.sysId
    name := name
    label := (unlessBlank ((record.getDisplay "question_text").orElse
      fun _ => record.getRaw "question_text")).getD name
    variableType := (recordFieldDisplayOrRaw lib record "type").getD ""
    mandatory := recordBool lib record "mandatory"
    defaultValue := unlessBlank (recordFieldRawOrDisplay lib record "default_value")
    referenceTable := unlessBlank (recordFieldRawOrDisplay lib record "reference")
    lookupTable := unlessBlank ((recordFieldRawOrDisplay lib record "lookup_table").orElse
      fun _ => recordFieldRawOrDisplay lib record "list_table")
    maxLength := (recordFieldRawOrDisplay lib record "max_length").bind parseU32
    choices := (choices.row record.sysId).getD [] }

/-- `catalog_item_from_record`. -/
def catalogItemFromRecord (record : Record) (variableList : List CatalogVariable) : CatalogItem where
  sysId := record.sysId
  name := (nonBlank (record.getStr lib "name")).getD record.sysId
  shortDescription := (record.getStr lib "short_description").getD ""
  table := ((record.getRaw "sys_class_name").orElse
    fun _ => record.getDisplay "sys_class_name").getD "sc_cat_item"
  variableList := variableList

/-- The choice of a row of `question_choice`. -/
def catalogChoice (choice : Record) : CatalogChoice :=
  let value := (recordFieldRawOrDisplay lib choice "value").getD ""
  ⟨value, (recordFieldDisplayOrRaw lib choice "text").getD value⟩

/-- One more choice, after those of the same question. -/
def groupChoice (grouped : Table String (List CatalogChoice)) (choice : Record) :
    Table String (List CatalogChoice) :=
  match recordFieldRawOrDisplay lib choice "question" with
  | none => grouped
  | some question =>
    grouped.put question (((grouped.row question).getD []) ++ [catalogChoice lib choice])

end Items

/-! ## A live read -/

/-- The fields that are read of an item. -/
def itemFields : List String := ["sys_id", "name", "short_description", "sys_class_name", "active"]

/-- The variables whose field has one of the values, active or not. -/
def variableQuery (field : String) (values : List String) : Listing :=
  let query : Listing :=
    { table := "item_option_new"
      fields := ["sys_id", "name", "question_text", "type", "mandatory", "default_value",
        "reference", "lookup_table", "list_table", "max_length", "order", "active"]
      conditions := []
      orderBy := "order"
      limit := 1000 }
  match values with
  | [value] => query.equals field value
  | values => query.inList field values

/-- The variables that are active. -/
def activeVariableQuery (field : String) (values : List String) : Listing :=
  (variableQuery field values).equals "active" "true"

/-- The links of an item to its variable sets. -/
def variableSetQuery (itemSysId : String) : Listing :=
  Listing.equals
    { table := "io_set_item", fields := ["sys_id", "variable_set", "order"], conditions := []
      orderBy := "order", limit := 200 } "sc_cat_item" itemSysId

/-- The choices of some variables. -/
def choiceQuery (variableSysIds : List String) : Listing :=
  Listing.inList
    { table := "question_choice", fields := ["sys_id", "question", "value", "text", "order"]
      conditions := [], orderBy := "order", limit := 1000 } "question" variableSysIds

section Live

variable (lib : CoreLib)

/-- `catalog_variable_rows`: when the read of the active variables fails, all are read. -/
def catalogVariableRows (field : String) (values : List String) : CatalogM (List Record) :=
  if values = [] then return []
  else ExceptT.mk do
    match ← perform (S := CatalogReads) (.execute (activeVariableQuery field values)) with
    | .ok result => return .ok result.records
    | .error _ =>
      let all ← perform (S := CatalogReads) (.execute (variableQuery field values))
      return (all.map QueryResult.records).mapError .client

/-- `catalog_variable_set_ids`: when the read fails, there are none. -/
def catalogVariableSetIds (itemSysId : String) : CatalogM (List String) :=
  ExceptT.mk do
    match ← perform (S := CatalogReads) (.execute (variableSetQuery itemSysId)) with
    | .ok result =>
      return .ok (result.records.filterMap fun r => recordFieldRawOrDisplay lib r "variable_set")
    | .error _ => return .ok []

/-- `catalog_choices_for_variables`. -/
def catalogChoicesForVariables (variableSysIds : List String) :
    CatalogM (Table String (List CatalogChoice)) :=
  let named := variableSysIds.filter (trim · ≠ "")
  if named = [] then return Table.empty
  else do
    return (← execute (choiceQuery named)).records.foldl (groupChoice lib) Table.empty

/-- The rows whose `sys_id` is neither among those seen nor that of an earlier row. -/
def retainUnseen : List String → List Record → List Record
  | _, [] => []
  | seen, record :: records =>
    if record.sysId ∈ seen then retainUnseen seen records
    else record :: retainUnseen (record.sysId :: seen) records

/-- `catalog_item_variables`. -/
def catalogItemVariables (itemSysId : String) : CatalogM (List CatalogVariable) := do
  let own ← catalogVariableRows "cat_item" [itemSysId]
  let variableSetIds ← catalogVariableSetIds lib itemSysId
  let ofSets ← catalogVariableRows "variable_set" variableSetIds
  let records := retainUnseen [] (own ++ ofSets)
  let choices ← catalogChoicesForVariables lib (records.map Record.sysId)
  return records.map (catalogVariableFromRecord lib choices)

/-- `get_catalog_item_live`. -/
def getCatalogItemLive (sysId : String) : CatalogM (Record × CatalogItem) := do
  let sysId ← ExceptT.mk (return (normalizeRecordLookupSysId sysId).mapError .invalid)
  let item ← get "sc_cat_item" itemFields sysId
  let variableList ← catalogItemVariables lib sysId
  return (item, catalogItemFromRecord lib item variableList)

end Live

/-! ## The cache -/

/-- `Source`. -/
inductive Source where
  | live
  | cache (lastRefreshedAt : DateTime)
deriving DecidableEq

/-- `PartialReason`. -/
inductive PartialReason where
  | narrowedProjection
  | pageLimitReached
  | upstreamTruncated
deriving DecidableEq

/-- `Completeness`. -/
inductive Completeness where
  /-- The response is the whole result. -/
  | complete
  /-- The response is partial, with the reason why. -/
  | partialFor (reason : PartialReason)
deriving DecidableEq

/-- `OperationEnvelope` of an item. -/
structure OperationEnvelope where
  operation : String
  source : Source
  completeness : Completeness
  item : CatalogItem
deriving DecidableEq

/-- `CatalogProductProjectionRow`. -/
structure CatalogProductRow where
  item : CatalogItem
  lastRefreshedAt : DateTime

/-- `catalog_products_complete`. -/
abbrev CatalogProducts := Table String CatalogProductRow

/-- `to_ts` and back: whole seconds. -/
def toTs (t : DateTime) : DateTime := t / durationSeconds 1 * durationSeconds 1

/-- `upsert_complete_catalog_product`. -/
def upsertCompleteCatalogProduct (item : CatalogItem) (lastRefreshedAt : DateTime)
    (products : CatalogProducts) : CatalogProducts :=
  products.put item.sysId ⟨item, toTs lastRefreshedAt⟩

/-- `delete_catalog_product_projections`. -/
def deleteCatalogProductProjections (sysId : String) (products : CatalogProducts) :
    CatalogProducts :=
  products.delete sysId

/-- What a call of `catalog_item_get` meets: the rule of the policy, the clock at the look into
the cache and after the read, the answers of ServiceNow, and how the steps of the cache go:
the look, `project_live_records_without_vault` of the item's row, and the write. -/
structure Call where
  sysId : String
  rule : CacheRule
  now : DateTime
  refreshedAt : DateTime
  answer : (read : CatalogReads.Act) → CatalogReads.Ans read
  looks : Except String Unit
  projects : Record → Except String Unit
  writes : Except String Unit

def operation : String := "catalog_item_get"

def object : String := "service_catalog_product"

/-- The look into the cache: an answer, or none. -/
def lookUp (call : Call) (products : CatalogProducts) (sysId : String) :
    Except CatalogError (Option OperationEnvelope) :=
  if call.rule.mode = .live then .ok none
  else do
    call.looks.mapError .store
    match products.row sysId with
    | some cached =>
      let fresh := call.rule.ttl.any fun ttl => cached.lastRefreshedAt + ttl > call.now
      if call.rule.mode = .cacheOnly ∨ fresh then
        .ok (some ⟨operation, .cache cached.lastRefreshedAt, .complete, cached.item⟩)
      else .ok none
    | none =>
      if call.rule.mode = .cacheOnly then .error (.cacheMiss operation object) else .ok none

/-- What follows a live read: the item is kept under a policy that reads through the cache. -/
def keep (call : Call) (products : CatalogProducts) (record : Record) (item : CatalogItem) :
    Except CatalogError OperationEnvelope × CatalogProducts :=
  let answer := ⟨operation, .live, .complete, item⟩
  if call.rule.mode = .readThrough then
    match call.projects record, call.writes with
    | .error message, _ => (.error (.store message), products)
    | .ok (), .error message => (.error (.store message), products)
    | .ok (), .ok () => (.ok answer, upsertCompleteCatalogProduct item call.refreshedAt products)
  else (.ok answer, products)

/-- What follows the live read of a call. -/
def afterRead (call : Call) (products : CatalogProducts)
    (live : List Read × Except CatalogError (Record × CatalogItem)) :
    List Read × Except CatalogError OperationEnvelope × CatalogProducts :=
  match live.2 with
  | .error err => (live.1, .error err, products)
  | .ok (record, item) => (live.1, keep call products record item)

/-- `catalog_item_get_envelope`: the reads of ServiceNow, the answer and the cache after it. -/
def catalogItemGetEnvelope (lib : CoreLib) (call : Call) (products : CatalogProducts) :
    List Read × Except CatalogError OperationEnvelope × CatalogProducts :=
  match normalizeRecordLookupSysId call.sysId with
  | .error message => ([], .error (.invalid message), products)
  | .ok sysId =>
    match lookUp call products sysId with
    | .error err => ([], .error err, products)
    | .ok (some cached) => ([], .ok cached, products)
    | .ok none => afterRead call products ((getCatalogItemLive lib sysId).run.answered call.answer)

end SnowAgent.Catalog
