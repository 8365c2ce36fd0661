import SnowAgent.Letters
import SnowAgent.RecordCache
import SnowAgent.TableApi
import SnowAgent.Trimming

/-! # Answers to a catalog order

ServiceNow answers an order with JSON that speaks of a request item, of the request and, at its top,
of some record.  The result of the submission takes each field from whichever place has it, and two
reads that follow put other values into some of the fields.
-/
namespace SnowAgent.Core

open Json Text Trimming

/-! ## Reading the answer -/

/-- `Value::as_array`. -/
def arrayOf : Value → Option (List Value)
  | .array items => some items
  | _ => none

/-- `first_result_item`. -/
def firstResultItem (value : Value) : Option Value :=
  ((["items", "request_items"].findSome? fun field => (value.get field).bind arrayOf).bind
    List.head?).orElse fun _ => value.get "request_item"

/-- `string_at`. -/
def stringAt (value : Value) (path : List String) : Option String :=
  nonBlank ((path.foldlM Value.get value).bind Value.asStr)

/-- `is_server_alias`. -/
def isServerAlias (value : String) : Bool :=
  canonicalServerTableAlias value = "server" || isServerTable value

/-- `canonical_record_table`. -/
def canonicalRecordTable (table : String) : String :=
  let normalized := normalizeTableName table
  if isBusinessApplicationAlias normalized then "cmdb_ci_business_app"
  else if isServerAlias normalized then
    if canonicalServerTableAlias normalized = "server" then "cmdb_ci_server"
    else canonicalServerTableAlias normalized
  else if isChangeRequestTable normalized then "change_request"
  else normalized

/-- `table_at`. -/
def tableAt (value : Value) (path : List String) : Option String :=
  (stringAt value path).map canonicalRecordTable

/-- `catalog_browser_url`. -/
def catalogBrowserUrl (baseUrl portal table sysId : String) : String :=
  let portal := if trim portal = "" then "sp" else trim portal
  trimEndMatches baseUrl '/' ++ "/" ++ portal ++ "?id=ticket&table=" ++ table ++ "&sys_id=" ++
    sysId ++ "&view=sp"

/-- `CatalogSubmitResult`. -/
structure OrderedRequest where
  itemSysId : String
  table : Option String
  sysId : Option String
  number : Option String
  requestTable : Option String
  requestSysId : Option String
  requestNumber : Option String
  requestItemSysId : Option String
  requestItemNumber : Option String
  browserUrl : Option String
  rawResult : Value

/-- The `sys_id` of the request item. -/
def itemSysIdOf (raw : Value) : Option String :=
  (firstResultItem raw).bind fun item => stringAt item ["sys_id"]

/-- The number of the request item. -/
def itemNumberOf (raw : Value) : Option String :=
  (firstResultItem raw).bind fun item => stringAt item ["number"]

/-- Whether a number is taken for that of a request. -/
def isRequestNumber (number : String) : Bool :=
  startsWithChars ((toAsciiLowercase number).toList) "req".toList

/-- The `sys_id` of the request. -/
def requestSysIdOf (raw : Value) : Option String :=
  ((stringAt raw ["request_id"]).orElse fun _ => stringAt raw ["request", "sys_id"]).orElse fun _ =>
    if tableAt raw ["table"] = some "sc_request" then stringAt raw ["sys_id"] else none

/-- The number of the request. -/
def requestNumberOf (raw : Value) : Option String :=
  ((stringAt raw ["request_number"]).orElse fun _ => stringAt raw ["request", "number"]).orElse
    fun _ => (stringAt raw ["number"]).filter isRequestNumber

/-- `catalog_submit_result_from_response`. -/
def catalogSubmitResultFromResponse (itemSysId : String) (raw : Value) (baseUrl portal : String) :
    OrderedRequest :=
  let table := (((itemSysIdOf raw).map fun _ => "sc_req_item").orElse
    fun _ => tableAt raw ["table"]).orElse fun _ => tableAt raw ["request", "table"]
  let sysId := ((itemSysIdOf raw).orElse fun _ => stringAt raw ["sys_id"]).orElse
    fun _ => requestSysIdOf raw
  let number := ((itemNumberOf raw).orElse fun _ => stringAt raw ["number"]).orElse
    fun _ => requestNumberOf raw
  { itemSysId
    table
    sysId
    number
    requestTable := (requestSysIdOf raw).map fun _ => "sc_request"
    requestSysId := requestSysIdOf raw
    requestNumber := requestNumberOf raw
    requestItemSysId := itemSysIdOf raw
    requestItemNumber := itemNumberOf raw
    browserUrl := table.bind fun table =>
      sysId.map fun sysId => catalogBrowserUrl baseUrl portal table sysId
    rawResult := raw }

/-! ## The reads that follow -/

/-- What the reads after an order answer: the fresh read of a record, by its table and `sys_id`, and
each attempt to find the item of a request. -/
structure OrderReads where
  fresh : String → String → Except String (Option CachedRecord)
  requestItem : String → Nat → Except String (Option Record)

/-- The attempts of `lookup_catalog_request_item` from one on. -/
def lookupAttempts (answer : Nat → Except String (Option Record)) : Nat → Nat → Option Record
  | 0, _ => none
  | left + 1, attempt =>
    match answer attempt with
    | .ok (some record) => some record
    | .ok none => lookupAttempts answer left (attempt + 1)
    | .error _ => none

/-- `lookup_catalog_request_item`. -/
def lookupCatalogRequestItem (reads : OrderReads) (requestSysId : String) : Option Record :=
  lookupAttempts (reads.requestItem requestSysId) 4 0

/-- The record that a fresh read answers with. -/
def OrderReads.read (reads : OrderReads) (table sysId : String) : Option CachedRecord :=
  match reads.fresh table sysId with
  | .ok found => found
  | .error _ => none

/-- The tables of orders. -/
def orderTables : List String := ["sc_req_item", "sc_request"]

/-- The record that the fresh read answers with, if it is done. -/
def freshOf (reads : OrderReads) (result : OrderedRequest) : Option CachedRecord :=
  result.table.bind fun table => result.sysId.bind fun sysId =>
    if canonicalRecordTable table ∈ orderTables then reads.read (canonicalRecordTable table) sysId
    else none

/-- The result once the fresh read is done. -/
def takeFresh (result : OrderedRequest) : Option CachedRecord → OrderedRequest
  | none => result
  | some fresh =>
    { result with table := some fresh.table, sysId := some fresh.sysId, number := some fresh.number }

variable (lib : CoreLib)

/-- The number of a request item. -/
def itemNumber (item : Record) : Option String :=
  nonBlank ((item.getRaw "number").orElse fun _ => item.getStr lib "number")

/-- The result once the item of the request is looked up. -/
def takeItem (baseUrl portal : String) (result : OrderedRequest) (item : Record) : OrderedRequest :=
  { result with
    table := some "sc_req_item"
    sysId := some item.sysId
    number := itemNumber lib item
    requestItemSysId := some item.sysId
    requestItemNumber := itemNumber lib item
    browserUrl := some (catalogBrowserUrl baseUrl portal "sc_req_item" item.sysId) }

/-- The item that is looked up for a result, if it is. -/
def lookedUpItem (reads : OrderReads) (result : OrderedRequest) : Option Record :=
  if result.requestItemSysId = none then
    result.requestSysId.bind (lookupCatalogRequestItem reads)
  else none

/-- `submit_catalog_request`, given what the order is answered with. -/
def submitCatalogRequest (reads : OrderReads) (baseUrl portal itemSysId : String)
    (answer : Except String Value) : Except String OrderedRequest := do
  let itemSysId ← normalizeRecordLookupSysId itemSysId
  let raw ← answer
  let result := catalogSubmitResultFromResponse itemSysId raw baseUrl portal
  let result := takeFresh result (freshOf reads result)
  match lookedUpItem reads result with
  | none => return result
  | some item => return takeItem lib baseUrl portal result item

/-! ## One record -/

/-- A record of ServiceNow. -/
structure NamedRecord where
  table : String
  sysId : String
  number : String

/-- The records of ServiceNow, told apart by their `sys_id` and by their number. -/
structure Records where
  Is : NamedRecord → Prop
  sysId : ∀ record other, Is record → Is other → record.sysId = other.sysId → record = other
  number : ∀ record other, Is record → Is other → record.number = other.number → record = other

/-- Table, `sys_id`, number and link of a result are those of a record, where they are present. -/
structure Describes (baseUrl portal : String) (result : OrderedRequest) (record : NamedRecord) :
    Prop where
  table : ∀ table, result.table = some table → table = record.table
  sysId : ∀ sysId, result.sysId = some sysId → sysId = record.sysId
  number : ∀ number, result.number = some number → number = record.number
  browserUrl : ∀ url, result.browserUrl = some url →
    url = catalogBrowserUrl baseUrl portal record.table record.sysId

/-- **A result describes one record**: the item if its `sys_id` is known, and else the request; and
what it says of the request and of the item is said of records of these kinds. -/
structure OneRecord (baseUrl portal : String) (records : Records) (request : NamedRecord)
    (result : OrderedRequest) : Prop where
  item : ∀ sysId, result.requestItemSysId = some sysId → ∃ record, records.Is record ∧
    record.table = "sc_req_item" ∧ record.sysId = sysId ∧ Describes baseUrl portal result record
  request : result.requestItemSysId = none → Describes baseUrl portal result request
  requestTable : ∀ table, result.requestTable = some table → table = "sc_request"
  requestSysId : ∀ sysId, result.requestSysId = some sysId →
    ∃ record, records.Is record ∧ record.table = "sc_request" ∧ record.sysId = sysId
  requestNumber : ∀ number, result.requestNumber = some number →
    ∃ record, records.Is record ∧ record.table = "sc_request" ∧ record.number = number
  itemNumber : ∀ number, result.requestItemNumber = some number →
    ∃ record, records.Is record ∧ record.table = "sc_req_item" ∧ record.number = number

/-- **What an answer speaks of**: each of its three places is about one record of ServiceNow, the
first about a request item and the second about a request. -/
structure Speaks (raw : Value) (records : Records) (item request top : NamedRecord) : Prop where
  is_item : records.Is item ∧ item.table = "sc_req_item"
  is_request : records.Is request ∧ request.table = "sc_request"
  is_top : records.Is top
  itemSysId : ∀ sysId, itemSysIdOf raw = some sysId → sysId = item.sysId
  itemNumber : ∀ number, itemNumberOf raw = some number → number = item.number
  requestId : ∀ sysId, stringAt raw ["request_id"] = some sysId → sysId = request.sysId
  requestSysId : ∀ sysId, stringAt raw ["request", "sys_id"] = some sysId → sysId = request.sysId
  requestName : ∀ number, stringAt raw ["request_number"] = some number → number = request.number
  requestNumber : ∀ number, stringAt raw ["request", "number"] = some number →
    number = request.number
  requestTable : ∀ table, tableAt raw ["request", "table"] = some table → table = request.table
  table : ∀ table, tableAt raw ["table"] = some table → table = top.table
  sysId : ∀ sysId, stringAt raw ["sys_id"] = some sysId → sysId = top.sysId
  number : ∀ number, stringAt raw ["number"] = some number → number = top.number

/-- The lookups find request items. -/
def FindsItems (records : Records) (reads : OrderReads) : Prop :=
  ∀ sysId attempt found, reads.requestItem sysId attempt = .ok (some found) →
    ∃ record, records.Is record ∧ record.table = "sc_req_item" ∧ record.sysId = found.sysId ∧
      ∀ number, itemNumber lib found = some number → number = record.number

/-- What the fresh read answers with is a record. -/
structure Names (fresh : CachedRecord) (record : NamedRecord) : Prop where
  table : fresh.table = record.table
  sysId : fresh.sysId = record.sysId
  number : fresh.number = record.number

/-- The fresh read of the request, if the answer says of what table and of what `sys_id` it is. -/
def requestRead (reads : OrderReads) (raw : Value) (request : NamedRecord) : Option CachedRecord :=
  if ((tableAt raw ["table"]).orElse fun _ => tableAt raw ["request", "table"]).isSome ∧
      ((stringAt raw ["sys_id"]).orElse fun _ => requestSysIdOf raw).isSome then
    reads.read "sc_request" request.sysId
  else none

/-- An answer, and reads, of which the result describes one record.  A number at the top that is
taken for that of a request is one.  With an item, the fresh read answers with it, or without an
answer the number is that of the item.  Without one, unless the item of the request is looked up, the
top speaks of the request and the fresh read answers with it, or without an answer no number is that
of another record. -/
structure Coherent (reads : OrderReads) (raw : Value) (item request top : NamedRecord) : Prop where
  requestNumber : stringAt raw ["request_number"] = none → stringAt raw ["request", "number"] = none →
    ∀ number, stringAt raw ["number"] = some number → isRequestNumber number = true →
      top.table = "sc_request"
  item : itemSysIdOf raw ≠ none →
    (∀ fresh, reads.read "sc_req_item" item.sysId = some fresh → Names fresh item) ∧
    (reads.read "sc_req_item" item.sysId = none → itemNumberOf raw = none →
      (stringAt raw ["number"] ≠ none → top = item) ∧
      (stringAt raw ["number"] = none →
        stringAt raw ["request_number"] = none ∧ stringAt raw ["request", "number"] = none))
  request : itemSysIdOf raw = none →
    (requestSysIdOf raw).bind (lookupCatalogRequestItem reads) = none →
    (tableAt raw ["table"] ≠ none → top.table = "sc_request") ∧
    (stringAt raw ["sys_id"] ≠ none → top = request) ∧
    (∀ fresh, requestRead reads raw request = some fresh → Names fresh request) ∧
    (requestRead reads raw request = none →
      itemNumberOf raw = none ∧ (stringAt raw ["number"] ≠ none → top = request))

/-! ## Tables and links -/

variable (table : String)

/-- A character of a normalized name. -/
def nameChar (c : Char) : Char := if c = ' ' ∨ c = '-' then '_' else c

theorem isWhitespace_nameChar {c : Char} (h : isWhitespace c = false) :
    isWhitespace (nameChar (lowerChar c)) = false := by
  unfold nameChar
  split
  · decide
  · rw [isWhitespace_lowerChar]
    exact h

theorem lowerChar_nameChar (c : Char) :
    nameChar (lowerChar (nameChar (lowerChar c))) = nameChar (lowerChar c) := by
  by_cases h : lowerChar c = ' ' ∨ lowerChar c = '-'
  · have hname : nameChar (lowerChar c) = '_' := if_pos h
    rw [hname]
    decide
  · have hname : nameChar (lowerChar c) = lowerChar c := if_neg h
    rw [hname, lowerChar_lowerChar, hname]

theorem normalizeTableName_toList :
    (normalizeTableName table).toList =
      (trimChars table.toList).map fun c => nameChar (lowerChar c) := by
  rw [normalizeTableName, toAsciiLowercase, trim, String.toList_ofList, String.toList_ofList,
    String.toList_ofList, List.map_map]
  rfl

/-- A normalized name is one. -/
theorem normalizeTableName_idem :
    normalizeTableName (normalizeTableName table) = normalizeTableName table := by
  have htrim : trimChars ((trimChars table.toList).map fun c => nameChar (lowerChar c)) =
      (trimChars table.toList).map fun c => nameChar (lowerChar c) := by
    refine trimmed_of ?_ ?_
    · intro c hc
      rw [List.head?_map, Option.mem_def, Option.map_eq_some_iff] at hc
      obtain ⟨d, hd, rfl⟩ := hc
      exact isWhitespace_nameChar (stops_trimmed table.toList d hd)
    · intro c hc
      rw [List.getLast?_map, Option.mem_def, Option.map_eq_some_iff] at hc
      obtain ⟨d, hd, rfl⟩ := hc
      exact isWhitespace_nameChar (ends_trimmed table.toList d hd)
  refine String.toList_injective ?_
  rw [normalizeTableName_toList, normalizeTableName_toList, htrim, List.map_map]
  exact List.map_congr_left fun c _ => lowerChar_nameChar c

theorem canonicalRecordTable_eq :
    canonicalRecordTable table =
      if isBusinessApplicationAlias (normalizeTableName table) = true then "cmdb_ci_business_app"
      else if isServerAlias (normalizeTableName table) = true then
        if canonicalServerTableAlias (normalizeTableName table) = "server" then "cmdb_ci_server"
        else canonicalServerTableAlias (normalizeTableName table)
      else if isChangeRequestTable (normalizeTableName table) = true then "change_request"
      else normalizeTableName table := rfl

/-- The canonical names of some tables. -/
def knownTables : List String :=
  ["cmdb_ci_business_app", "cmdb_ci_server", "cmdb_ci_linux_server", "cmdb_ci_win_server",
    "change_request"]

/-- A canonical name is one of these, or the normalized name, which is canonical. -/
theorem canonicalRecordTable_cases :
    canonicalRecordTable table ∈ knownTables ∨
      canonicalRecordTable (canonicalRecordTable table) = canonicalRecordTable table := by
  by_cases happlication : isBusinessApplicationAlias (normalizeTableName table) = true
  · left
    rw [canonicalRecordTable_eq, if_pos happlication]
    decide
  · by_cases hserver : isServerAlias (normalizeTableName table) = true
    · left
      rw [canonicalRecordTable_eq, if_neg happlication, if_pos hserver]
      by_cases hname : canonicalServerTableAlias (normalizeTableName table) = "server"
      · rw [if_pos hname]
        decide
      · rw [if_neg hname]
        rw [isServerAlias, Bool.or_eq_true, decide_eq_true_iff, isServerTable,
          List.contains_eq_mem, decide_eq_true_iff] at hserver
        exact List.mem_cons_of_mem _ (List.mem_append_left ["change_request"]
          (hserver.resolve_left hname))
    · by_cases hchange : isChangeRequestTable (normalizeTableName table) = true
      · left
        rw [canonicalRecordTable_eq, if_neg happlication, if_neg hserver, if_pos hchange]
        decide
      · right
        have heq : canonicalRecordTable table = normalizeTableName table := by
          rw [canonicalRecordTable_eq, if_neg happlication, if_neg hserver, if_neg hchange]
        rw [heq, canonicalRecordTable_eq, normalizeTableName_idem, if_neg happlication,
          if_neg hserver, if_neg hchange]

theorem known_not_order : ∀ table ∈ knownTables, canonicalRecordTable table ∉ orderTables := by
  decide +kernel

/-- A canonical name that stands for a table of orders is one. -/
theorem canonicalRecordTable_order {table : String}
    (h : canonicalRecordTable (canonicalRecordTable table) ∈ orderTables) :
    canonicalRecordTable table ∈ orderTables := by
  rcases canonicalRecordTable_cases table with hknown | hidem
  · exact absurd h (known_not_order _ hknown)
  · rw [← hidem]
    exact h

/-- The link of a record of an order is of no other one. -/
theorem catalogBrowserUrl_inj {baseUrl portal table table' sysId sysId' : String}
    (htable : table ∈ orderTables) (htable' : table' ∈ orderTables)
    (h : catalogBrowserUrl baseUrl portal table sysId =
      catalogBrowserUrl baseUrl portal table' sysId') : table = table' ∧ sysId = sysId' := by
  have hchars := congrArg String.toList h
  simp only [catalogBrowserUrl, String.toList_append, List.append_assoc,
    List.append_cancel_left_eq] at hchars
  have hsame : table = table' := by
    simp only [orderTables, List.mem_cons, List.not_mem_nil, or_false] at htable htable'
    rcases htable with rfl | rfl
    · rcases htable' with rfl | rfl
      · rfl
      · simp at hchars
    · rcases htable' with rfl | rfl
      · simp at hchars
      · rfl
  subst hsame
  rw [List.append_cancel_left_eq, List.append_cancel_left_eq, List.append_cancel_right_eq] at hchars
  exact ⟨rfl, String.toList_injective hchars⟩

/-! ## What the answer says of the request and of the item -/

variable {record : NamedRecord}

section Kinds

variable {lib} {raw : Value} {records : Records} {item request top : NamedRecord} {reads : OrderReads}

theorem Speaks.item_ne_request (h : Speaks raw records item request top) :
    item.number ≠ request.number := by
  intro hnumber
  have hsame := records.number item request h.is_item.1 h.is_request.1 hnumber
  have htable := h.is_item.2
  rw [hsame, h.is_request.2] at htable
  exact absurd htable (by decide)

theorem Speaks.top_eq_of_number (h : Speaks raw records item request top)
    (hrecord : records.Is record) {number : String} (htop : stringAt raw ["number"] = some number)
    (hnumber : number = record.number) : top = record :=
  records.number top record h.is_top hrecord ((h.number number htop).symm.trans hnumber)

/-- What is said of the first value that there is. -/
theorem forall_orElse {A : Type} {x y : Option A} {P : A → Prop} :
    (∀ a, (x.orElse fun _ => y) = some a → P a) ↔
      (∀ a, x = some a → P a) ∧ (x = none → ∀ a, y = some a → P a) := by
  rcases x with _ | x
  · simp
  · simp

theorem orElse_eq_none {A : Type} {x y : Option A} :
    (x.orElse fun _ => y) = none ↔ x = none ∧ y = none := by
  rcases x with _ | x
  · simp
  · simp

section

variable (h : Speaks raw records item request top)

include h

/-- The `sys_id` of the request is that of a request. -/
theorem Speaks.requestSysIdOf_spec :
    ∀ sysId, requestSysIdOf raw = some sysId →
      ∃ record, records.Is record ∧ record.table = "sc_request" ∧ record.sysId = sysId := by
  have hrequest := h.is_request
  refine forall_orElse.mpr ⟨forall_orElse.mpr ⟨fun id hid => ?_, fun _ id hid => ?_⟩,
    fun _ id hid => ?_⟩
  · exact ⟨request, hrequest.1, hrequest.2, (h.requestId id hid).symm⟩
  · exact ⟨request, hrequest.1, hrequest.2, (h.requestSysId id hid).symm⟩
  · rw [Option.ite_none_right_eq_some] at hid
    exact ⟨top, h.is_top, (h.table _ hid.1).symm, (h.sysId id hid.2).symm⟩

/-- When the number of the request is that of a request. -/
theorem Speaks.requestNumberOf_iff :
    (∀ number, requestNumberOf raw = some number →
      ∃ record, records.Is record ∧ record.table = "sc_request" ∧ record.number = number) ↔
    (stringAt raw ["request_number"] = none → stringAt raw ["request", "number"] = none →
      ∀ number, stringAt raw ["number"] = some number → isRequestNumber number = true →
        top.table = "sc_request") := by
  have hrequest := h.is_request
  unfold requestNumberOf
  rw [forall_orElse, forall_orElse]
  constructor
  · rintro ⟨-, htop⟩ hname hnested number hnumber hkind
    obtain ⟨record, hrecord, htable, hsame⟩ := htop (by rw [hname, hnested]; rfl) number
      (Option.filter_eq_some_iff.mpr ⟨hnumber, hkind⟩)
    rw [h.top_eq_of_number hrecord hnumber hsame.symm]
    exact htable
  · intro hcondition
    refine ⟨⟨fun name hname => ?_, fun _ name hname => ?_⟩, fun hnone number hnumber => ?_⟩
    · exact ⟨request, hrequest.1, hrequest.2, (h.requestName name hname).symm⟩
    · exact ⟨request, hrequest.1, hrequest.2, (h.requestNumber name hname).symm⟩
    · obtain ⟨htop, hkind⟩ := Option.filter_eq_some_iff.mp hnumber
      obtain ⟨hname, hnested⟩ := orElse_eq_none.mp hnone
      exact ⟨top, h.is_top, hcondition hname hnested number htop hkind, (h.number number htop).symm⟩

/-- When the number at the top is that of a record. -/
theorem Speaks.number_iff (hrecord : records.Is record) :
    (∀ number, stringAt raw ["number"] = some number → number = record.number) ↔
      (stringAt raw ["number"] ≠ none → top = record) := by
  constructor
  · intro hnumber hne
    obtain ⟨number, htop⟩ := Option.ne_none_iff_exists'.mp hne
    exact h.top_eq_of_number hrecord htop (hnumber number htop)
  · intro htop number hnumber
    rw [h.number number hnumber, htop (by rw [hnumber]; exact Option.some_ne_none _)]

/-- Without a number at the top, the number of the request is that of the request. -/
theorem Speaks.requestNumberOf_spec (hnone : stringAt raw ["number"] = none) :
    ∀ number, requestNumberOf raw = some number → number = request.number := by
  unfold requestNumberOf
  rw [hnone, forall_orElse, forall_orElse]
  exact ⟨⟨h.requestName, fun _ => h.requestNumber⟩, fun _ _ hnumber => by cases hnumber⟩

end

theorem lookupAttempts_spec {answer : Nat → Except String (Option Record)} {left attempt : Nat}
    {record : Record} (h : lookupAttempts answer left attempt = some record) :
    ∃ n, answer n = .ok (some record) := by
  induction left generalizing attempt with
  | zero => cases h
  | succ left step =>
    unfold lookupAttempts at h
    split at h
    · rename_i found heq
      obtain rfl := Option.some.inj h
      exact ⟨attempt, heq⟩
    · exact step h
    · cases h

/-- An item that is looked up is a request item. -/
theorem FindsItems.lookup (h : FindsItems lib records reads) {sysId : String} {found : Record}
    (hfound : lookupCatalogRequestItem reads sysId = some found) :
    ∃ record, records.Is record ∧ record.table = "sc_req_item" ∧ record.sysId = found.sysId ∧
      ∀ number, itemNumber lib found = some number → number = record.number := by
  obtain ⟨attempt, hattempt⟩ := lookupAttempts_spec hfound
  exact h sysId attempt found hattempt

end Kinds

/-! ## The result of the order -/

section Results

variable {lib} {raw : Value} {records : Records} {item request top : NamedRecord} {reads : OrderReads}
  {baseUrl portal itemSysId : String}

theorem freshOf_eq {result : OrderedRequest} {table sysId : String}
    (htable : result.table = some table)
    (hsysId : result.sysId = some sysId) :
    freshOf reads result = if canonicalRecordTable table ∈ orderTables then
        reads.read (canonicalRecordTable table) sysId
      else none := by
  rw [freshOf, htable, hsysId, Option.bind_some, Option.bind_some]

/-- A fresh read was asked for by a table of orders and a `sys_id`. -/
theorem freshOf_some {result : OrderedRequest} {fresh : CachedRecord}
    (h : freshOf reads result = some fresh) :
    ∃ table sysId, result.table = some table ∧ result.sysId = some sysId ∧
      canonicalRecordTable table ∈ orderTables ∧
      reads.read (canonicalRecordTable table) sysId = some fresh := by
  rcases htable : result.table with _ | table
  · rw [freshOf, htable] at h
    cases h
  · rcases hsysId : result.sysId with _ | sysId
    · rw [freshOf, htable, hsysId] at h
      cases h
    · rw [freshOf_eq htable hsysId] at h
      split at h
      · rename_i horder
        exact ⟨table, sysId, rfl, rfl, horder, h⟩
      · cases h

theorem canonical_item : canonicalRecordTable "sc_req_item" = "sc_req_item" := by decide +kernel

theorem canonical_request : canonicalRecordTable "sc_request" = "sc_request" := by decide +kernel

/-- What an answer with an item is made of. -/
theorem fromResponse_item {sysId : String} (h : itemSysIdOf raw = some sysId) :
    catalogSubmitResultFromResponse itemSysId raw baseUrl portal =
      { itemSysId
        table := some "sc_req_item"
        sysId := some sysId
        number := ((itemNumberOf raw).orElse fun _ => stringAt raw ["number"]).orElse
          fun _ => requestNumberOf raw
        requestTable := (requestSysIdOf raw).map fun _ => "sc_request"
        requestSysId := requestSysIdOf raw
        requestNumber := requestNumberOf raw
        requestItemSysId := some sysId
        requestItemNumber := itemNumberOf raw
        browserUrl := some (catalogBrowserUrl baseUrl portal "sc_req_item" sysId)
        rawResult := raw } := by
  unfold catalogSubmitResultFromResponse
  rw [h]
  rfl

/-- When a result describes a record, with what the fresh read answers. -/
theorem describes_takeFresh_iff {result : OrderedRequest} {fresh : Option CachedRecord} :
    Describes baseUrl portal (takeFresh result fresh) record ↔
      (∀ found, fresh = some found → Names found record) ∧
      (fresh = none → (∀ table, result.table = some table → table = record.table) ∧
        (∀ sysId, result.sysId = some sysId → sysId = record.sysId) ∧
        ∀ number, result.number = some number → number = record.number) ∧
      ∀ url, result.browserUrl = some url →
        url = catalogBrowserUrl baseUrl portal record.table record.sysId := by
  rcases fresh with _ | fresh
  · constructor
    · intro h
      exact ⟨fun _ hfound => (by cases hfound), fun _ => ⟨h.table, h.sysId, h.number⟩, h.browserUrl⟩
    · rintro ⟨-, hresult, hurl⟩
      obtain ⟨htable, hsysId, hnumber⟩ := hresult rfl
      exact ⟨htable, hsysId, hnumber, hurl⟩
  · constructor
    · intro h
      refine ⟨fun found hfound => ?_, fun hnone => (Option.some_ne_none _ hnone).elim, h.browserUrl⟩
      obtain rfl := Option.some.inj hfound
      exact ⟨h.table _ rfl, h.sysId _ rfl, h.number _ rfl⟩
    · rintro ⟨hnames, -, hurl⟩
      have hfresh := hnames fresh rfl
      refine ⟨fun table htable => ?_, fun sysId hsysId => ?_, fun number hnumber => ?_, hurl⟩
      · rw [← Option.some.inj htable, hfresh.table]
      · rw [← Option.some.inj hsysId, hfresh.sysId]
      · rw [← Option.some.inj hnumber, hfresh.number]

/-- When the result of an answer with an item describes it. -/
theorem describes_item_iff (h : Speaks raw records item request top) {sysId : String}
    (hitem : itemSysIdOf raw = some sysId) :
    Describes baseUrl portal (takeFresh (catalogSubmitResultFromResponse itemSysId raw baseUrl portal)
        (reads.read "sc_req_item" item.sysId)) item ↔
      (∀ fresh, reads.read "sc_req_item" item.sysId = some fresh → Names fresh item) ∧
      (reads.read "sc_req_item" item.sysId = none → itemNumberOf raw = none →
        (stringAt raw ["number"] ≠ none → top = item) ∧
        (stringAt raw ["number"] = none →
          stringAt raw ["request_number"] = none ∧ stringAt raw ["request", "number"] = none)) := by
  have hid := h.itemSysId sysId hitem
  rw [describes_takeFresh_iff, fromResponse_item hitem, forall_orElse, forall_orElse,
    h.number_iff h.is_item.1]
  refine and_congr_right fun _ => ?_
  constructor
  · rintro ⟨hresult, -⟩ hread hnumber
    obtain ⟨-, -, ⟨-, htop⟩, hrequest⟩ := hresult hread
    refine ⟨htop hnumber, fun hnone => ?_⟩
    have hother : requestNumberOf raw = none := by
      by_contra hne
      obtain ⟨number, hsome⟩ := Option.ne_none_iff_exists'.mp hne
      exact h.item_ne_request ((hrequest (by rw [hnumber, hnone]; rfl) number hsome).symm.trans
        (h.requestNumberOf_spec hnone number hsome))
    exact orElse_eq_none.mp (orElse_eq_none.mp hother).1
  · intro hnumbers
    refine ⟨fun hread => ⟨fun table htable => ?_, fun other hother => ?_, ⟨h.itemNumber,
      fun hown => (hnumbers hread hown).1⟩, fun hnone => ?_⟩, fun url hurl => ?_⟩
    · rw [← Option.some.inj htable, h.is_item.2]
    · rw [← Option.some.inj hother, hid]
    · obtain ⟨hown, htop⟩ := orElse_eq_none.mp hnone
      obtain ⟨hname, hnested⟩ := (hnumbers hread hown).2 htop
      rw [requestNumberOf, hname, hnested, htop]
      exact fun _ hnumber => by cases hnumber
    · rw [← Option.some.inj hurl, h.is_item.2, hid]

/-- What an answer without an item is made of. -/
theorem fromResponse_request (h : itemSysIdOf raw = none) :
    catalogSubmitResultFromResponse itemSysId raw baseUrl portal =
      { itemSysId
        table := (tableAt raw ["table"]).orElse fun _ => tableAt raw ["request", "table"]
        sysId := (stringAt raw ["sys_id"]).orElse fun _ => requestSysIdOf raw
        number := ((itemNumberOf raw).orElse fun _ => stringAt raw ["number"]).orElse
          fun _ => requestNumberOf raw
        requestTable := (requestSysIdOf raw).map fun _ => "sc_request"
        requestSysId := requestSysIdOf raw
        requestNumber := requestNumberOf raw
        requestItemSysId := none
        requestItemNumber := itemNumberOf raw
        browserUrl := ((tableAt raw ["table"]).orElse fun _ => tableAt raw ["request", "table"]).bind
          fun table => ((stringAt raw ["sys_id"]).orElse fun _ => requestSysIdOf raw).map
            fun sysId => catalogBrowserUrl baseUrl portal table sysId
        rawResult := raw } := by
  unfold catalogSubmitResultFromResponse
  rw [h]
  rfl

/-- The table that an answer without an item names is canonical. -/
theorem named_canonical {table : String}
    (h : ((tableAt raw ["table"]).orElse fun _ => tableAt raw ["request", "table"]) = some table) :
    ∃ name, table = canonicalRecordTable name := by
  have hat : ∀ path table, tableAt raw path = some table →
      ∃ name, table = canonicalRecordTable name := by
    intro path table hpath
    obtain ⟨name, -, rfl⟩ := Option.map_eq_some_iff.mp hpath
    exact ⟨name, rfl⟩
  exact forall_orElse.mpr ⟨hat _, fun _ => hat _⟩ table h

/-- The answer's places for the table and the `sys_id` of the request hold no others. -/
def PlacesOfRequest (raw : Value) (request top : NamedRecord) : Prop :=
  (tableAt raw ["table"] ≠ none → top.table = "sc_request") ∧
    (stringAt raw ["sys_id"] ≠ none → top = request)

section

variable (h : Speaks raw records item request top)

include h

theorem Speaks.places_iff :
    PlacesOfRequest raw request top ↔
      (∀ table, ((tableAt raw ["table"]).orElse fun _ => tableAt raw ["request", "table"]) =
        some table → table = "sc_request") ∧
      (∀ sysId, stringAt raw ["sys_id"] = some sysId → sysId = request.sysId) := by
  rw [forall_orElse]
  refine and_congr ⟨fun htop => ⟨fun table hfirst => ?_, fun _ table hnested => ?_⟩,
    fun htable hne => ?_⟩ ⟨fun htop sysId hsysId => ?_, fun hsysId hne => ?_⟩
  · exact (h.table table hfirst).trans (htop (by rw [hfirst]; exact Option.some_ne_none _))
  · exact (h.requestTable table hnested).trans h.is_request.2
  · obtain ⟨table, hfirst⟩ := Option.ne_none_iff_exists'.mp hne
    exact (h.table table hfirst).symm.trans (htable.1 table hfirst)
  · rw [h.sysId sysId hsysId, htop (by rw [hsysId]; exact Option.some_ne_none _)]
  · obtain ⟨sysId, htop⟩ := Option.ne_none_iff_exists'.mp hne
    exact records.sysId top request h.is_top h.is_request.1
      ((h.sysId sysId htop).symm.trans (hsysId sysId htop))

/-- Then the `sys_id` is that of the request, wherever it is from. -/
theorem Speaks.sysId_of_places (hplaces : PlacesOfRequest raw request top) {sysId : String}
    (hsysId : ((stringAt raw ["sys_id"]).orElse fun _ => requestSysIdOf raw) = some sysId) :
    sysId = request.sysId := by
  refine forall_orElse.mpr ⟨(h.places_iff.mp hplaces).2, fun hnone => ?_⟩ sysId hsysId
  unfold requestSysIdOf
  rw [hnone, ite_self, forall_orElse, forall_orElse]
  exact ⟨⟨h.requestId, fun _ => h.requestSysId⟩, fun _ _ hother => by cases hother⟩

/-- Then the fresh read that is done is that of the request. -/
theorem Speaks.freshOf_of_places (hplaces : PlacesOfRequest raw request top) (hitem : itemSysIdOf raw = none) :
    freshOf reads (catalogSubmitResultFromResponse itemSysId raw baseUrl portal) =
      requestRead reads raw request := by
  rw [fromResponse_request hitem, requestRead]
  rcases htable : (tableAt raw ["table"]).orElse fun _ => tableAt raw ["request", "table"] with
    _ | table
  · rw [if_neg (by simp)]
    rfl
  · rcases hsysId : (stringAt raw ["sys_id"]).orElse fun _ => requestSysIdOf raw with _ | sysId
    · rw [if_neg (by simp)]
      rfl
    · obtain rfl := (h.places_iff.mp hplaces).1 table htable
      obtain rfl := h.sysId_of_places hplaces hsysId
      rw [if_pos ⟨rfl, rfl⟩, freshOf_eq rfl rfl, canonical_request, if_pos (by decide)]

/-- When the result of an answer without an item describes the request. -/
theorem describes_request_iff (hitem : itemSysIdOf raw = none) :
    Describes baseUrl portal (takeFresh (catalogSubmitResultFromResponse itemSysId raw baseUrl portal)
        (freshOf reads (catalogSubmitResultFromResponse itemSysId raw baseUrl portal))) request ↔
      (tableAt raw ["table"] ≠ none → top.table = "sc_request") ∧
      (stringAt raw ["sys_id"] ≠ none → top = request) ∧
      (∀ fresh, requestRead reads raw request = some fresh → Names fresh request) ∧
      (requestRead reads raw request = none →
        itemNumberOf raw = none ∧ (stringAt raw ["number"] ≠ none → top = request)) := by
  have hplaces : Describes baseUrl portal
      (takeFresh (catalogSubmitResultFromResponse itemSysId raw baseUrl portal)
        (freshOf reads (catalogSubmitResultFromResponse itemSysId raw baseUrl portal))) request →
      PlacesOfRequest raw request top := by
    rw [describes_takeFresh_iff, h.places_iff, fromResponse_request hitem]
    rintro ⟨-, hresult, hurl⟩
    rcases hfresh : freshOf reads _ with _ | fresh
    · obtain ⟨htable, hsysId, -⟩ := hresult hfresh
      exact ⟨fun table hsome => (htable table hsome).trans h.is_request.2,
        (forall_orElse.mp hsysId).1⟩
    · -- what was asked for is still in the link
      obtain ⟨table, sysId, htable, hsysId, horder, -⟩ := freshOf_some hfresh
      dsimp only at htable hsysId
      obtain ⟨name, hname⟩ := named_canonical htable
      rw [hname] at horder
      have horder := canonicalRecordTable_order horder
      rw [← hname] at horder
      obtain ⟨hsame, hid⟩ := catalogBrowserUrl_inj horder (by rw [h.is_request.2]; decide)
        (hurl (catalogBrowserUrl baseUrl portal table sysId) (by rw [htable, hsysId]; rfl))
      refine ⟨fun other hother => ?_, fun other hother => ?_⟩
      · rw [Option.some.inj (hother.symm.trans htable), hsame, h.is_request.2]
      · rw [hother] at hsysId
        rw [Option.some.inj hsysId, hid]
  constructor
  · intro hdescribes
    have hown := hplaces hdescribes
    rw [h.freshOf_of_places hown hitem, describes_takeFresh_iff, fromResponse_request hitem]
      at hdescribes
    obtain ⟨hnames, hresult, -⟩ := hdescribes
    refine ⟨hown.1, hown.2, hnames, fun hnone => ?_⟩
    obtain ⟨hitemNumber, htop⟩ := forall_orElse.mp (forall_orElse.mp (hresult hnone).2.2).1
    rw [h.number_iff h.is_request.1] at htop
    have hnone' : itemNumberOf raw = none := by
      by_contra hne
      obtain ⟨number, hnumber⟩ := Option.ne_none_iff_exists'.mp hne
      exact h.item_ne_request ((h.itemNumber number hnumber).symm.trans (hitemNumber number hnumber))
    exact ⟨hnone', htop hnone'⟩
  · rintro ⟨htable, hsysId, hnames, hnumber⟩
    have hown : PlacesOfRequest raw request top := ⟨htable, hsysId⟩
    rw [h.freshOf_of_places hown hitem, describes_takeFresh_iff, fromResponse_request hitem]
    refine ⟨hnames, fun hnone => ⟨?_, fun _ => h.sysId_of_places hown, forall_orElse.mpr
      ⟨forall_orElse.mpr ⟨?_, fun _ => (h.number_iff h.is_request.1).mpr (hnumber hnone).2⟩,
        fun hother => h.requestNumberOf_spec (orElse_eq_none.mp hother).2⟩⟩, fun url hurl => ?_⟩
    · rw [h.is_request.2]
      exact (h.places_iff.mp hown).1
    · rw [(hnumber hnone).1]
      exact fun _ hother => by cases hother
    · obtain ⟨table, htable', hurl⟩ := Option.bind_eq_some_iff.mp hurl
      obtain ⟨sysId, hsysId', rfl⟩ := Option.map_eq_some_iff.mp hurl
      rw [(h.places_iff.mp hown).1 table htable', h.sysId_of_places hown hsysId', h.is_request.2]

end

/-- The fresh read keeps what is said of the request and of the item. -/
theorem takeFresh_kept (result : OrderedRequest) (fresh : Option CachedRecord) :
    (takeFresh result fresh).requestTable = result.requestTable ∧
      (takeFresh result fresh).requestSysId = result.requestSysId ∧
      (takeFresh result fresh).requestNumber = result.requestNumber ∧
      (takeFresh result fresh).requestItemSysId = result.requestItemSysId ∧
      (takeFresh result fresh).requestItemNumber = result.requestItemNumber := by
  rcases fresh with _ | fresh
  · exact ⟨rfl, rfl, rfl, rfl, rfl⟩
  · exact ⟨rfl, rfl, rfl, rfl, rfl⟩

/-- What is said of the request, and of an item that is not looked up. -/
theorem Speaks.one_record_iff (h : Speaks raw records item request top) {result : OrderedRequest}
    (htable : result.requestTable = (requestSysIdOf raw).map fun _ => "sc_request")
    (hsysId : result.requestSysId = requestSysIdOf raw)
    (hnumber : result.requestNumber = requestNumberOf raw)
    (hitemNumber : ∀ number, result.requestItemNumber = some number →
      ∃ record, records.Is record ∧ record.table = "sc_req_item" ∧ record.number = number) :
    OneRecord baseUrl portal records request result ↔
      (∀ sysId, result.requestItemSysId = some sysId → ∃ record, records.Is record ∧
        record.table = "sc_req_item" ∧ record.sysId = sysId ∧ Describes baseUrl portal result record) ∧
      (result.requestItemSysId = none → Describes baseUrl portal result request) ∧
      (stringAt raw ["request_number"] = none → stringAt raw ["request", "number"] = none →
        ∀ number, stringAt raw ["number"] = some number → isRequestNumber number = true →
          top.table = "sc_request") := by
  rw [← h.requestNumberOf_iff]
  constructor
  · intro hone
    refine ⟨hone.item, hone.request, ?_⟩
    rw [← hnumber]
    exact hone.requestNumber
  · rintro ⟨hitem, hrequest, hnumbers⟩
    rw [← hnumber] at hnumbers
    refine ⟨hitem, hrequest, fun table hsome => ?_, fun sysId hsome => ?_, hnumbers, hitemNumber⟩
    · rw [htable] at hsome
      obtain ⟨_, -, rfl⟩ := Option.map_eq_some_iff.mp hsome
      rfl
    · rw [hsysId] at hsome
      exact h.requestSysIdOf_spec _ hsome

end Results

variable {lib} in
/-- **When the result of an order describes one record.** -/
theorem submit_one_record_iff {raw : Value} {records : Records} {item request top : NamedRecord}
    {reads : OrderReads} {baseUrl portal itemSysId : String} {result : OrderedRequest}
    (h : Speaks raw records item request top) (hfinds : FindsItems lib records reads)
    (hsubmit : submitCatalogRequest lib reads baseUrl portal itemSysId (.ok raw) = .ok result) :
    OneRecord baseUrl portal records request result ↔ Coherent reads raw item request top := by
  obtain ⟨normalized, -, hsubmit⟩ := bind_eq_ok hsubmit
  obtain ⟨_, hraw, hsubmit⟩ := bind_eq_ok hsubmit
  obtain rfl := Except.ok.inj hraw
  obtain ⟨answered, hanswered⟩ :
    ∃ answered, catalogSubmitResultFromResponse normalized raw baseUrl portal = answered := ⟨_, rfl⟩
  have hkept := takeFresh_kept answered
  have hrequestSysId : answered.requestSysId = requestSysIdOf raw := by rw [← hanswered]; rfl
  rw [hanswered] at hsubmit
  rcases hitem : itemSysIdOf raw with _ | sysId
  · have hnone : answered.requestItemSysId = none := by rw [← hanswered]; exact hitem
    have hlooked : lookedUpItem reads (takeFresh answered (freshOf reads answered)) =
        (requestSysIdOf raw).bind (lookupCatalogRequestItem reads) := by
      rw [lookedUpItem, (hkept _).2.2.2.1, if_pos hnone, (hkept _).2.1, hrequestSysId]
    rcases hfound : (requestSysIdOf raw).bind (lookupCatalogRequestItem reads) with _ | found
    · -- no item is known, and none is found
      rw [hfound] at hlooked
      simp only [hlooked] at hsubmit
      obtain rfl := Except.ok.inj hsubmit
      have hnone' := (hkept (freshOf reads answered)).2.2.2.1.trans hnone
      subst hanswered
      obtain ⟨htable, hsysId, hname, -, hitemNumber⟩ := hkept (freshOf reads _)
      rw [h.one_record_iff htable hsysId hname (fun number hnumber =>
        ⟨item, h.is_item.1, h.is_item.2, (h.itemNumber number (hitemNumber.symm.trans hnumber)).symm⟩),
        hnone', describes_request_iff h hitem]
      constructor
      · rintro ⟨-, hrequest, hnumber⟩
        exact ⟨hnumber, fun hne => absurd hitem hne, fun _ _ => hrequest rfl⟩
      · intro hcoherent
        exact ⟨fun _ hsome => (Option.some_ne_none _ hsome.symm).elim,
          fun _ => hcoherent.request hitem hfound, hcoherent.requestNumber⟩
    · -- the item is looked up
      rw [hfound] at hlooked
      simp only [hlooked] at hsubmit
      obtain rfl := Except.ok.inj hsubmit
      obtain ⟨requestSysId, -, hfound'⟩ := Option.bind_eq_some_iff.mp hfound
      obtain ⟨record, hrecord, htable, hsysId, hnumber⟩ := hfinds.lookup hfound'
      subst hanswered
      have htaken := hkept (freshOf reads (catalogSubmitResultFromResponse normalized raw
          baseUrl portal))
      have hrequestTable : (takeItem lib baseUrl portal (takeFresh _ _) found).requestTable = _ :=
        htaken.1
      rw [h.one_record_iff hrequestTable htaken.2.1 htaken.2.2.1 (fun number hsome =>
        ⟨record, hrecord, htable, (hnumber number hsome).symm⟩)]
      constructor
      · rintro ⟨-, -, hnumbers⟩
        refine ⟨hnumbers, fun hne => absurd hitem hne, fun _ hnone => ?_⟩
        rw [hfound] at hnone
        cases hnone
      · intro hcoherent
        refine ⟨fun sysId hsome => ⟨record, hrecord, htable, ?_, ?_, ?_, ?_, ?_⟩, fun hnone => ?_,
          hcoherent.requestNumber⟩
        · rw [hsysId]
          exact Option.some.inj hsome
        · intro table htable'
          rw [← Option.some.inj htable', htable]
        · intro other hother
          rw [← Option.some.inj hother, hsysId]
        · exact hnumber
        · intro url hurl
          rw [← Option.some.inj hurl, htable, hsysId]
        · cases hnone
  · -- the item is known
    have hid := h.itemSysId sysId hitem
    have hfresh : freshOf reads answered = reads.read "sc_req_item" item.sysId := by
      rw [← hanswered, fromResponse_item hitem, freshOf_eq rfl rfl, canonical_item,
        if_pos (by decide), hid]
    obtain ⟨htable, hsysId, hname, hitemSysId, hitemNumber⟩ :=
      hkept (reads.read "sc_req_item" item.sysId)
    have hsome : answered.requestItemSysId = some sysId := by rw [← hanswered]; exact hitem
    rw [hsome] at hitemSysId
    have hlooked : lookedUpItem reads
        (takeFresh answered (reads.read "sc_req_item" item.sysId)) = none := by
      rw [lookedUpItem, hitemSysId, if_neg (Option.some_ne_none _)]
    simp only [hfresh, hlooked] at hsubmit
    obtain rfl := Except.ok.inj hsubmit
    subst hanswered
    rw [h.one_record_iff htable hsysId hname (fun number hnumber =>
      ⟨item, h.is_item.1, h.is_item.2, (h.itemNumber number (hitemNumber.symm.trans hnumber)).symm⟩),
      hitemSysId]
    constructor
    · rintro ⟨hone, -, hnumber⟩
      refine ⟨hnumber, fun _ => ?_, fun hnone => ?_⟩
      · obtain ⟨record, hrecord, -, hsame, hdescribes⟩ := hone sysId rfl
        have heq : record = item := records.sysId record item hrecord h.is_item.1 (hsame.trans hid)
        rw [heq] at hdescribes
        exact (describes_item_iff h hitem).mp hdescribes
      · rw [hitem] at hnone
        cases hnone
    · intro hcoherent
      refine ⟨fun other hother => ?_, fun hnone => (Option.some_ne_none _ hnone).elim,
        hcoherent.requestNumber⟩
      refine ⟨item, h.is_item.1, h.is_item.2, ?_, (describes_item_iff h hitem).mpr
        (hcoherent.item (by rw [hitem]; exact Option.some_ne_none _))⟩
      rw [← Option.some.inj hother, hid]

/-! ## An order -/

/-- The item that is ordered. -/
def orderedItemId : String := "0123456789abcdef0123456789abcdef"

/-- A request item. -/
def ticketItem : NamedRecord := ⟨"sc_req_item", "1a1a1a1a1a1a1a1a1a1a1a1a1a1a1a1a", "RITM0010001"⟩

/-- Its request. -/
def ticketRequest : NamedRecord := ⟨"sc_request", "2b2b2b2b2b2b2b2b2b2b2b2b2b2b2b2b", "REQ0010001"⟩

/-- The records of ServiceNow: these two. -/
def ticketRecords : Records where
  Is record := record = ticketItem ∨ record = ticketRequest
  sysId record other hrecord hother h := by
    rcases hrecord with rfl | rfl <;> rcases hother with rfl | rfl
    · rfl
    · exact absurd h (by decide)
    · exact absurd h (by decide)
    · rfl
  number record other hrecord hother h := by
    rcases hrecord with rfl | rfl <;> rcases hother with rfl | rfl
    · rfl
    · exact absurd h (by decide)
    · exact absurd h (by decide)
    · rfl

/-- An answer that speaks of the request, with some items. -/
def orderAnswer (items : List Value) : Value :=
  .object [("items", .array items), ("number", .string "REQ0010001"),
    ("request_id", .string "2b2b2b2b2b2b2b2b2b2b2b2b2b2b2b2b"),
    ("request_number", .string "REQ0010001"),
    ("sys_id", .string "2b2b2b2b2b2b2b2b2b2b2b2b2b2b2b2b"), ("table", .string "sc_request")]

/-- The item, by its `sys_id` alone. -/
def bareItem : Value := .object [("sys_id", .string "1a1a1a1a1a1a1a1a1a1a1a1a1a1a1a1a")]

/-- No read answers. -/
def silentReads : OrderReads where
  fresh _ _ := .error "connection closed"
  requestItem _ _ := .error "connection closed"

theorem silentReads_find : FindsItems incidentLib ticketRecords silentReads := by
  rintro sysId attempt found ⟨⟩

theorem orderAnswer_speaks {items : List Value}
    (hsysId : ∀ sysId, itemSysIdOf (orderAnswer items) = some sysId → sysId = ticketItem.sysId)
    (hnumber : ∀ number, itemNumberOf (orderAnswer items) = some number →
      number = ticketItem.number) :
    Speaks (orderAnswer items) ticketRecords ticketItem ticketRequest ticketRequest := by
  have hid : nonBlank (some ticketRequest.sysId) = some ticketRequest.sysId := by
    decide +kernel
  have hname : nonBlank (some ticketRequest.number) = some ticketRequest.number := by
    decide +kernel
  have htable : nonBlank (some "sc_request") = some "sc_request" := by decide +kernel
  refine ⟨⟨.inl rfl, rfl⟩, ⟨.inr rfl, rfl⟩, .inr rfl, hsysId, hnumber, ?_, ?_, ?_, ?_, ?_, ?_, ?_, ?_⟩
  · intro sysId h
    exact (Option.some.inj (hid.symm.trans h)).symm
  · intro sysId h
    cases h
  · intro number h
    exact (Option.some.inj (hname.symm.trans h)).symm
  · intro number h
    cases h
  · intro table h
    cases h
  · intro table h
    obtain ⟨given, hgiven, hcanonical⟩ := Option.map_eq_some_iff.mp h
    rw [← hcanonical, ← Option.some.inj (htable.symm.trans hgiven)]
    exact canonical_request
  · intro sysId h
    exact (Option.some.inj (hid.symm.trans h)).symm
  · intro number h
    exact (Option.some.inj (hname.symm.trans h)).symm

theorem silentReads_read (table sysId : String) : silentReads.read table sysId = none := rfl

theorem silentReads_fresh (result : OrderedRequest) : freshOf silentReads result = none := by
  rw [freshOf, Option.bind_eq_none_iff]
  intro table htable
  rw [Option.bind_eq_none_iff]
  intro sysId hsysId
  rw [silentReads_read, ite_self]

theorem silentReads_lookup (result : OrderedRequest) : lookedUpItem silentReads result = none := by
  rw [lookedUpItem]
  split
  · rcases result.requestSysId with _ | sysId
    · rfl
    · rfl
  · rfl

theorem ordered_normalized : normalizeRecordLookupSysId orderedItemId = .ok orderedItemId := by
  decide +kernel

/-- Without a read that answers, the result is what the order is answered with. -/
theorem submit_silent (raw : Value) (baseUrl portal : String) :
    submitCatalogRequest incidentLib silentReads baseUrl portal orderedItemId (.ok raw) =
      .ok (catalogSubmitResultFromResponse orderedItemId raw baseUrl portal) := by
  rw [submitCatalogRequest, ordered_normalized]
  show (match lookedUpItem silentReads (takeFresh _ (freshOf silentReads _)) with
    | none => Except.ok (takeFresh _ (freshOf silentReads _))
    | some item => _) = _
  rw [silentReads_fresh, silentReads_lookup]
  rfl

/-- An order whose answer has no item, and no read answers. -/
theorem request_alone :
    OneRecord "https://example.service-now.com" "sp" ticketRecords ticketRequest
        (catalogSubmitResultFromResponse orderedItemId (orderAnswer [])
          "https://example.service-now.com" "sp") ↔
      Coherent silentReads (orderAnswer []) ticketItem ticketRequest ticketRequest := by
  have hitem : itemSysIdOf (orderAnswer []) = none := by decide +kernel
  have hnumber : itemNumberOf (orderAnswer []) = none := by decide +kernel
  have hspeaks : Speaks (orderAnswer []) ticketRecords ticketItem ticketRequest ticketRequest :=
    orderAnswer_speaks (fun _ h => (Option.some_ne_none _ (h.symm.trans hitem)).elim)
      (fun _ h => (Option.some_ne_none _ (h.symm.trans hnumber)).elim)
  exact submit_one_record_iff hspeaks silentReads_find (submit_silent _ _ _)

/-- **The number of the request on the row of its item.**  The answer names the item by its `sys_id`
alone, and the read that would tell its number does not answer. -/
theorem item_under_request_number :
    Speaks (orderAnswer [bareItem]) ticketRecords ticketItem ticketRequest ticketRequest ∧
      ∃ result, submitCatalogRequest incidentLib silentReads "https://example.service-now.com" "sp"
          orderedItemId (.ok (orderAnswer [bareItem])) = .ok result ∧
        ¬ OneRecord "https://example.service-now.com" "sp" ticketRecords ticketRequest result := by
  have hitem : itemSysIdOf (orderAnswer [bareItem]) = some ticketItem.sysId := by decide +kernel
  have hnumber : itemNumberOf (orderAnswer [bareItem]) = none := by decide +kernel
  refine ⟨orderAnswer_speaks (fun _ h => (Option.some.inj (hitem.symm.trans h)).symm)
    (fun _ h => (Option.some_ne_none _ (h.symm.trans hnumber)).elim), _, submit_silent _ _ _, ?_⟩
  intro hone
  obtain ⟨record, hrecord, -, hsysId, hdescribes⟩ := hone.item _ hitem
  have heq : record = ticketItem := ticketRecords.sysId _ _ hrecord (.inl rfl) hsysId
  have hsome : ((itemNumberOf (orderAnswer [bareItem])).orElse
      fun _ => stringAt (orderAnswer [bareItem]) ["number"]).orElse
        (fun _ => requestNumberOf (orderAnswer [bareItem])) = some "REQ0010001" := by
    decide +kernel
  have hsame := hdescribes.number _ hsome
  rw [heq] at hsame
  exact absurd hsame (by decide)

end SnowAgent.Core
