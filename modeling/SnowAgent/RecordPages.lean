import SnowAgent.Keyset
import SnowAgent.TableApi

/-! # Pages of live records

Four operations of the core read a table of ServiceNow page by page: `record_query`, the tasks
of a Change Request, the incidents of an assignment group and `incident_query`.  Each builds
its own query, asks for the first rows in ascending order of their `sys_id` after the cursor,
and gives the `sys_id` of the last row it has inspected as the next cursor.

A page is answered with the rows as they were read.  The filters of a request are taken as
they are after their validation; the limit and the cursor are taken raw.
-/
namespace SnowAgent.Core

open Json Text Keyset

/-! ## ServiceNow -/

/-- The rows of a table: one for each `sys_id`. -/
structure LiveTable where
  rows : List Record
  keys : (rows.map Record.sysId).Nodup
  wellFormed : ∀ r ∈ rows, IsSysId r.sysId

/-- What a request for a table meets: its rows, and the errors the page reports. -/
structure LiveAnswer where
  table : LiveTable
  errors : List String

/-- ServiceNow during one call. -/
structure Snapshot where
  tables : String → Except SnowApiError LiveAnswer
  /-- The answer of `field_choices`. -/
  choices : String → String → Except String (List FieldChoice)

/-- How ServiceNow evaluates conditions.  A row that is found by a reference shows it. -/
structure Provider where
  holds : Atom → Record → Bool
  shows : ∀ field ∈ ["task", "parent", "top_task"], ∀ value record,
    holds (.equals field value) record = true → record.getRaw field = some value

variable (provider : Provider)

/-- Whether a row meets the conditions of a query. -/
def TableApi.holds (query : TableApi) (r : Record) : Bool :=
  query.conditions.all fun alternatives => alternatives.any fun atom => provider.holds atom r

/-- `execute`, in ascending order of `sys_id`. -/
def TableApi.execute (query : TableApi) (s : Snapshot) :
    Except SnowApiError (List Record × List String) := do
  let answer ← s.tables query.table
  return (firstRows Record.sysId
    (fun r => query.holds provider r && isAfter Record.sysId query.after r) query.limit
    answer.table.rows, answer.errors)

/-! ## Requests -/

/-- `RecordQueryError`. -/
inductive RecordQueryError where
  | invalidParams (message : String)
  | unresolvedState (requested table field : String) (ambiguous : Bool)
      (choices : List FieldChoice)
deriving DecidableEq

/-- `IncidentAssignmentGroupListError`. -/
inductive IncidentAssignmentGroupListError where
  | invalidParams (message : String)
  | unresolvedState (requested : String) (ambiguous : Bool) (choices : List FieldChoice)
deriving DecidableEq

/-- The errors of a page. -/
inductive PageError where
  | recordQuery (err : RecordQueryError)
  | incidentList (err : IncidentAssignmentGroupListError)
  | incidentRead (err : IncidentReadError)
  | client (err : SnowApiError)
  | text (message : String)
deriving DecidableEq

/-- `validate_limit`, whose bounds the incident list checks in the same words. -/
def validateLimit : Option Nat → Except String Nat
  | none => .ok 50
  | some limit =>
    if limit = 0 then .error "`limit` must be at least 1"
    else if 200 < limit then .error "`limit` must be at most 200"
    else .ok limit

/-- `normalize_cursor`. -/
def normalizeCursor (cursor : Option String) : Except RecordQueryError (Option String) :=
  match cursor with
  | none => .ok none
  | some value =>
    match normalizeRecordLookupSysId (trim value) with
    | .ok value => .ok (some value)
    | .error err => .error (.invalidParams ("`cursor` must be a sys_id: " ++ err))

/-- `resolve_record_query_state`. -/
def resolveRecordQueryState (selector table : String) (choices : List FieldChoice) :
    Except RecordQueryError String :=
  match choices.find? fun choice => choice.value == selector with
  | some choice => .ok choice.value
  | none =>
    match choices.filter fun choice => eqIgnoreAsciiCase choice.label selector with
    | [choice] => .ok choice.value
    | [] => .error (.unresolvedState selector table "state" false choices)
    | _ => .error (.unresolvedState selector table "state" true choices)

/-- The states of a story filter, resolved one after the other; none twice. -/
def resolveStoryStates (choices : List FieldChoice) :
    List String → List String → Except RecordQueryError (List String)
  | [], resolved => .ok resolved
  | selector :: selectors, resolved => do
    let value ← resolveRecordQueryState selector "rm_story" choices
    if resolved.contains value then
      throw (.unresolvedState selector "rm_story" "state" true choices)
    else resolveStoryStates choices selectors (resolved ++ [value])

/-- `ResolvedIncidentState`. -/
structure ResolvedIncidentState where
  value : String
  label : String
deriving DecidableEq

/-- `resolve_incident_state`. -/
def resolveIncidentState (selector : String) (choices : List FieldChoice) :
    Except IncidentAssignmentGroupListError ResolvedIncidentState :=
  let selector := trim selector
  match choices.find? fun choice => choice.value == selector with
  | some choice => .ok ⟨choice.value, choice.label⟩
  | none =>
    match choices.filter fun choice => eqIgnoreAsciiCase choice.label selector with
    | [choice] => .ok ⟨choice.value, choice.label⟩
    | [] => .error (.unresolvedState selector false choices)
    | _ => .error (.unresolvedState selector true choices)

/-- `resolve_incident_states`. -/
def resolveIncidentStates (choices : List FieldChoice) :
    List String → List String → Except IncidentReadError (List String)
  | [], resolved => .ok resolved
  | selector :: selectors, resolved =>
    let rawMatches := choices.filter fun choice => choice.value == selector
    let found :=
      if rawMatches.isEmpty then
        choices.filter fun choice => eqIgnoreAsciiCase choice.label selector
      else rawMatches
    match found with
    | [choice] =>
      if resolved.contains choice.value then .error (.stateUnresolved selector)
      else resolveIncidentStates choices selectors (resolved ++ [choice.value])
    | _ => .error (.stateUnresolved selector)

/-! ## Pages -/

/-- `RecordQueryPage`; the pages of the other operations have the same parts. -/
structure RecordQueryPage where
  records : List Record
  nextCursor : Option String
  complete : Bool
  limit : Nat
  rowsInspected : Nat
deriving DecidableEq

/-- The page of some rows that were read. -/
def livePage (limit : Nat) (rows : List Record) : RecordQueryPage :=
  let complete := decide (rows.length < limit)
  { records := rows
    nextCursor := if complete then none else rows.getLast?.map Record.sysId
    complete := complete
    limit := limit
    rowsInspected := rows.length }

/-- The parent of a child query: one of its two selectors. -/
inductive ChildQueryFilters where
  | parentNumber (number : String)
  | parentSysId (sysId : String)
deriving DecidableEq

/-- The `sys_id` of the parent. -/
def parentOf (s : Snapshot) : ChildQueryFilters → Except PageError String
  | .parentSysId sysId => .ok sysId
  | .parentNumber number => do
    let (records, errors) ←
      (((TableApi.new "task" 2).filter (.equals "number" number)).execute provider s).mapError
        .client
    match records with
    | [record] =>
      if errors.isEmpty ∧ record.getRaw "number" = some number then
        (normalizeRecordLookupSysId record.sysId).mapError .text
      else throw (.text parentUnresolved)
    | _ => throw (.text parentUnresolved)
where
  parentUnresolved : String :=
    "parent number is missing, inaccessible, ambiguous, or did not match; " ++
      "child enumeration was not performed"

/-- The field that links a child to its parent. -/
def childLink (table : String) : String := if table = "resource_plan" then "task" else "parent"

/-- The query of the children of a parent. -/
def childQuery (table parent : String) (limit : Nat) (cursor : Option String) : TableApi :=
  let query := (TableApi.new table limit).filter (.equals (childLink table) parent)
  let query :=
    if table = "pm_project_task" then query.orFilter (.equals "top_task" parent) else query
  { query with after := cursor }

/-- Whether a row shows its parent. -/
def linked (table parent : String) (row : Record) : Bool :=
  row.getRaw (childLink table) == some parent ||
    (table == "pm_project_task" && row.getRaw "top_task" == some parent)

/-- The rows of a child page, checked one after the other. -/
def checkChildren (table parent : String) : List Record → String → Except PageError String
  | [], previous => .ok previous
  | row :: rows, previous => do
    let id ← (normalizeRecordLookupSysId row.sysId).mapError .text
    if id ≤ previous ∨ ¬ linked table parent row = true then
      throw (.text "child query returned a non-progressing or unrelated record")
    else checkChildren table parent rows id

/-- The page of some children, whose last key has been checked. -/
def childPage (limit : Nat) (rows : List Record) (last : String) : RecordQueryPage :=
  let complete := decide (rows.length < limit)
  { records := rows
    nextCursor := if complete then none else some last
    complete := complete
    limit := limit
    rowsInspected := rows.length }

/-- `query_children`. -/
def queryChildren (table : String) (filters : ChildQueryFilters) (limit : Nat)
    (cursor : Option String) (s : Snapshot) : Except PageError RecordQueryPage := do
  let parent ← parentOf provider s filters
  let (rows, errors) ← ((childQuery table parent limit cursor).execute provider s).mapError .client
  if ¬ errors.isEmpty ∨ limit < rows.length then
    throw (.text "child query returned an incomplete or oversized provider page")
  else
    let last ← checkChildren table parent rows (cursor.getD "")
    return childPage limit rows last

/-- `ChangeRequestQueryFilters`. -/
structure ChangeRequestQueryFilters where
  assignmentGroup : Option String
  assignedTo : Option String
  state : Option String
  startDateAfter : Option String
  startDateBefore : Option String

/-- `StoryQueryFilters`. -/
structure StoryQueryFilters where
  assignmentGroup : Option String
  assignedTo : Option String
  storyOwner : Option String
  leadDeveloper : Option String
  states : Option (List String)
  sprint : Option String
  project : Option String
  cmdbCi : Option String
  blocked : Option Bool
  dueDateAfter : Option String
  dueDateBefore : Option String
  updatedAfter : Option String
  numbers : Option (List String)
  text : Option String

/-- The choices of a field, for a record query. -/
def fieldChoices (s : Snapshot) (table field : String) : Except PageError (List FieldChoice) :=
  (s.choices table field).mapError .text

/-- The state of a change filter, resolved. -/
def changeRequestState (s : Snapshot) : Option String → Except PageError (Option String)
  | some selector => do
    let choices ← fieldChoices s "change_request" "state"
    let value ← (resolveRecordQueryState selector "change_request" choices).mapError .recordQuery
    return some value
  | none => return none

/-- The query of change requests. -/
def changeRequestQuery (filters : ChangeRequestQueryFilters) (limit : Nat) (s : Snapshot) :
    Except PageError TableApi := do
  let state ← changeRequestState s filters.state
  let query := TableApi.new "change_request" limit
  let query := query.filterSome (.equals "assignment_group") filters.assignmentGroup
  let query := query.filterSome (.equals "assigned_to") filters.assignedTo
  let query := query.filterSome (.equals "state") state
  let query := query.filterSome (.greaterThan "start_date") filters.startDateAfter
  return query.filterSome (.lessThan "start_date") filters.startDateBefore

/-- A truth value in a filter. -/
def boolText (value : Bool) : String := if value then "true" else "false"

/-- The states of a story filter, resolved. -/
def storyStates (s : Snapshot) : Option (List String) → Except PageError (Option (List String))
  | some selectors => do
    let choices ← fieldChoices s "rm_story" "state"
    let values ← (resolveStoryStates choices selectors []).mapError .recordQuery
    return some values
  | none => return none

/-- One condition for a list of values, if there is one. -/
def TableApi.oneOfSome (query : TableApi) (field : String) : Option (List String) → TableApi
  | some values => query.oneOf field values
  | none => query

/-- The query of stories. -/
def storyQuery (filters : StoryQueryFilters) (limit : Nat) (s : Snapshot) :
    Except PageError TableApi := do
  let states ← storyStates s filters.states
  let query := TableApi.new "rm_story" limit
  let query := query.filterSome (.equals "assignment_group") filters.assignmentGroup
  let query := query.filterSome (.equals "assigned_to") filters.assignedTo
  let query := query.filterSome (.equals "u_story_owner") filters.storyOwner
  let query := query.filterSome (.equals "u_lead_dev") filters.leadDeveloper
  let query := query.oneOfSome "state" states
  let query := query.filterSome (.equals "sprint") filters.sprint
  let query := query.filterSome (.equals "project") filters.project
  let query := query.filterSome (.equals "cmdb_ci") filters.cmdbCi
  let query := query.filterSome (fun value => .equals "blocked" (boolText value)) filters.blocked
  let query := query.filterSome (.greaterThan "due_date") filters.dueDateAfter
  let query := query.filterSome (.lessThan "due_date") filters.dueDateBefore
  let query := query.filterSome (.greaterThan "sys_updated_on") filters.updatedAfter
  let query := query.oneOfSome "number" filters.numbers
  return query.filterSome (.contains "short_description") filters.text

/-- The page of a query after a cursor. -/
def TableApi.page (query : TableApi) (cursor : Option String) (s : Snapshot) :
    Except PageError RecordQueryPage := do
  let (rows, _) ← ({ query with after := cursor }.execute provider s).mapError .client
  return livePage query.limit rows

/-- `RecordQueryInput`, without its limit and cursor. -/
inductive RecordQueryInput where
  | resourcePlan (filters : ChildQueryFilters)
  | projectTask (filters : ChildQueryFilters)
  | task (filters : ChildQueryFilters)
  | changeRequest (filters : ChangeRequestQueryFilters)
  | story (filters : StoryQueryFilters)

/-- `record_query`. -/
def recordQuery (input : RecordQueryInput) (limit : Option Nat) (cursor : Option String)
    (s : Snapshot) : Except PageError RecordQueryPage := do
  let limit ← (validateLimit limit).mapError fun message => .recordQuery (.invalidParams message)
  let cursor ← (normalizeCursor cursor).mapError .recordQuery
  match input with
  | .resourcePlan filters => queryChildren provider "resource_plan" filters limit cursor s
  | .projectTask filters => queryChildren provider "pm_project_task" filters limit cursor s
  | .task filters => queryChildren provider "task" filters limit cursor s
  | .changeRequest filters => do
    let query ← changeRequestQuery filters limit s
    query.page provider cursor s
  | .story filters => do
    let query ← storyQuery filters limit s
    query.page provider cursor s

/-- `change_request_list_tasks`. -/
def changeRequestListTasks (changeRequestNumber : String) (limit : Option Nat)
    (cursor : Option String) (s : Snapshot) : Except PageError RecordQueryPage := do
  let limit ← (validateLimit limit).mapError fun message => .recordQuery (.invalidParams message)
  let cursor ← (normalizeCursor cursor).mapError .recordQuery
  ((TableApi.new "change_task" limit).filter
    (.equals "change_request.number" changeRequestNumber)).page provider cursor s

/-! ## Incidents -/

/-- `is_terminal_state`. -/
def isTerminalState : Option String → Bool
  | none => false
  | some label =>
    ["closed", "resolved", "cancel", "complete", "completed", "rejected"].any fun needle =>
      Text.contains (toAsciiLowercase label) needle

/-- `servicenow_record_field_is_false`. -/
def servicenowRecordFieldIsFalse (record : Record) (field : String) : Bool :=
  ([record.getRaw field, record.getDisplay field].filterMap id).any fun value =>
    ["false", "0", "no"].contains (toAsciiLowercase (trim value))

variable (lib : CoreLib)

/-- `servicenow_record_is_open_user_work`. -/
def servicenowRecordIsOpenUserWork (record : Record) : Bool :=
  !isTerminalState ((record.getDisplay "state").orElse fun _ => record.getStr lib "state") &&
    !servicenowRecordFieldIsFalse record "active"

/-- `IncidentAssignmentGroupListInput`, its group normalized. -/
structure IncidentGroupInput where
  assignmentGroupSysId : String
  state : Option String

/-- The state of an incident list, resolved; a blank one is none. -/
def incidentGroupState (s : Snapshot) (state : Option String) :
    Except PageError (Option ResolvedIncidentState) :=
  match (state.map trim).filter (· ≠ "") with
  | some selector => do
    let choices ← fieldChoices s "incident" "state"
    let state ← (resolveIncidentState selector choices).mapError .incidentList
    return some state
  | none => return none

/-- The query of the incidents of a group. -/
def incidentGroupQuery (input : IncidentGroupInput) (limit : Nat) (s : Snapshot) :
    Except PageError TableApi := do
  let state ← incidentGroupState s input.state
  let query := TableApi.new "incident" limit
  let query := query.filter (.equals "assignment_group" input.assignmentGroupSysId)
  let query := query.filter (.equals "active" "true")
  return query.filterSome (.equals "state") (state.map ResolvedIncidentState.value)

/-- The cursor of the incident list: a blank one is none. -/
def normalizeGroupCursor (cursor : Option String) :
    Except IncidentAssignmentGroupListError (Option String) :=
  match (cursor.map trim).filter (· ≠ "") with
  | none => .ok none
  | some value =>
    match normalizeRecordLookupSysId value with
    | .ok value => .ok (some value)
    | .error err => .error (.invalidParams
        ("`cursor` must be a sys_id returned as a previous `next_cursor`: " ++ err))

/-- `incident_list_by_assignment_group`: the cursor is that of the last row inspected, not of
the last one kept. -/
def incidentListByAssignmentGroup (input : IncidentGroupInput) (limit : Option Nat)
    (cursor : Option String) (s : Snapshot) : Except PageError RecordQueryPage := do
  let cursor ← (normalizeGroupCursor cursor).mapError .incidentList
  let limit ← (validateLimit limit).mapError fun message => .incidentList (.invalidParams message)
  let query ← incidentGroupQuery input limit s
  let page ← query.page provider cursor s
  return { page with records := page.records.filter (servicenowRecordIsOpenUserWork lib) }

/-- The filters of `IncidentQueryInput`. -/
structure IncidentQueryFilters where
  numbers : List String
  assignmentGroup : Option String
  assignedTo : Option String
  callerId : Option String
  cmdbCi : Option String
  states : List String
  priorities : List String
  active : Option Bool
  openedAfter : Option String
  openedBefore : Option String
  updatedAfter : Option String
  updatedBefore : Option String

/-- One condition for a list of values that is not empty. -/
def TableApi.inListOf (query : TableApi) (field : String) (values : List String) : TableApi :=
  if values.isEmpty then query else query.filter (.inList field values)

/-- The states of an incident query, resolved. -/
def incidentQueryStates (states : List String) (s : Snapshot) :
    Except IncidentReadError (List String) :=
  match states with
  | [] => .ok []
  | requested :: _ =>
    match s.choices "incident" "state" with
    | .error _ => .error (.stateUnresolved requested)
    | .ok choices =>
      if choices.isEmpty then .error (.stateUnresolved requested)
      else resolveIncidentStates choices states []

/-- The query of incidents. -/
def incidentTableQuery (filters : IncidentQueryFilters) (limit : Nat) (s : Snapshot) :
    Except PageError TableApi := do
  let states ← (incidentQueryStates filters.states s).mapError .incidentRead
  let query := TableApi.new "incident" limit
  let query := query.inListOf "number" filters.numbers
  let query := query.filterSome (.equals "assignment_group") filters.assignmentGroup
  let query := query.filterSome (.equals "assigned_to") filters.assignedTo
  let query := query.filterSome (.equals "caller_id") filters.callerId
  let query := query.filterSome (.equals "cmdb_ci") filters.cmdbCi
  let query := query.inListOf "state" states
  let query := query.inListOf "priority" filters.priorities
  let query := query.filterSome (fun value => .equals "active" (boolText value)) filters.active
  let query := query.filterSome (.greaterThan "opened_at") filters.openedAfter
  let query := query.filterSome (.greaterThan "sys_updated_on") filters.updatedAfter
  let query := query.filterSome (.lessThan "opened_at") filters.openedBefore
  return query.filterSome (.lessThan "sys_updated_on") filters.updatedBefore

/-- `classify_incident_api_error`. -/
def classifyIncidentApiError : SnowApiError → IncidentReadError
  | .api 401 | .api 403 | .auth (some 401) | .auth (some 403) => .aclDenied
  | .http => .serviceNowUnavailable
  | _ => .serviceNowError

/-- The cursor of `incident_query`. -/
def normalizeIncidentCursor : Option String → Except PageError (Option String)
  | none => .ok none
  | some value =>
    match normalizeRecordLookupSysId value with
    | .ok value => .ok (some value)
    | .error message => .error (.incidentRead (.invalidParams message))

/-- `incident_query`. -/
def incidentQuery (filters : IncidentQueryFilters) (limit : Option Nat) (cursor : Option String)
    (s : Snapshot) : Except PageError RecordQueryPage := do
  let limit := limit.getD 50
  if limit < 1 ∨ 200 < limit then
    throw (.incidentRead (.invalidParams "limit must be between 1 and 200"))
  else
    let cursor ← normalizeIncidentCursor cursor
    let query ← incidentTableQuery filters limit s
    let (rows, _) ← ({ query with after := cursor }.execute provider s).mapError fun err =>
      .incidentRead (classifyIncidentApiError err)
    return livePage limit rows

/-! ## The four operations -/

/-- The requests that are answered page by page. -/
inductive PagedRequest where
  | recordQuery (input : RecordQueryInput)
  | changeRequestListTasks (changeRequestNumber : String)
  | incidentListByAssignmentGroup (input : IncidentGroupInput)
  | incidentQuery (filters : IncidentQueryFilters)

/-- A request with its limit. -/
structure PagedOperation where
  request : PagedRequest
  limit : Option Nat

/-- The parts of a page that its caller goes on by. -/
def RecordQueryPage.toPage (page : RecordQueryPage) : Page Record String where
  rows := page.records
  inspected := page.rowsInspected
  next := page.nextCursor
  complete := page.complete

namespace PagedOperation

variable (op : PagedOperation)

/-- A call for the page after a cursor. -/
def call (cursor : Option String) (s : Snapshot) : Except PageError RecordQueryPage :=
  match op.request with
  | .recordQuery input => recordQuery provider input op.limit cursor s
  | .changeRequestListTasks number => changeRequestListTasks provider number op.limit cursor s
  | .incidentListByAssignmentGroup input =>
    incidentListByAssignmentGroup provider lib input op.limit cursor s
  | .incidentQuery filters => incidentQuery provider filters op.limit cursor s

/-- The page of a call. -/
def read (cursor : Option String) (s : Snapshot) : Except PageError (Page Record String) :=
  (op.call provider lib cursor s).map RecordQueryPage.toPage

/-- The table a request is about. -/
def table : String :=
  match op.request with
  | .recordQuery (.resourcePlan _) => "resource_plan"
  | .recordQuery (.projectTask _) => "pm_project_task"
  | .recordQuery (.task _) => "task"
  | .recordQuery (.changeRequest _) => "change_request"
  | .recordQuery (.story _) => "rm_story"
  | .changeRequestListTasks _ => "change_task"
  | .incidentListByAssignmentGroup _ | .incidentQuery _ => "incident"

/-- The rows of that table. -/
def rows (s : Snapshot) : List Record :=
  match s.tables op.table with
  | .ok answer => answer.table.rows
  | .error _ => []

/-- The most rows of a page. -/
def pageLimit : Nat := op.limit.getD 50

/-- The filter of a request, with its parent and its states resolved. -/
def query (s : Snapshot) : Except PageError TableApi :=
  match op.request with
  | .recordQuery (.resourcePlan filters) | .recordQuery (.projectTask filters)
  | .recordQuery (.task filters) =>
    (parentOf provider s filters).map fun parent => childQuery op.table parent op.pageLimit none
  | .recordQuery (.changeRequest filters) => changeRequestQuery filters op.pageLimit s
  | .recordQuery (.story filters) => storyQuery filters op.pageLimit s
  | .changeRequestListTasks number =>
    .ok ((TableApi.new "change_task" op.pageLimit).filter
      (.equals "change_request.number" number))
  | .incidentListByAssignmentGroup input => incidentGroupQuery input op.pageLimit s
  | .incidentQuery filters => incidentTableQuery filters op.pageLimit s

/-- Whether a row matches the filter of a request. -/
def wanted (s : Snapshot) (r : Record) : Bool :=
  match op.query provider s with
  | .ok query => query.holds provider r
  | .error _ => false

/-- The local row filter of a request. -/
def keeps (r : Record) : Bool :=
  match op.request with
  | .incidentListByAssignmentGroup _ => servicenowRecordIsOpenUserWork lib r
  | _ => true

end PagedOperation

end SnowAgent.Core
