import Mathlib.Data.Rat.Defs
import Mathlib.Algebra.Order.Field.Rat
import SnowAgent.RecordPages
import SnowAgent.Timestamps

/-! # The queue of an assignment group

`incident_assignment_group_queue` scans the open incidents of a group up to a limit, drops those that
are no open work, asks for their SLAs, sorts and counts what is left, and answers a slice of it.  The
pages that the client gives are taken in order until it says that there are no more.

What the code asks of ServiceNow is a parameter.  Percentages are rational numbers.
-/
namespace SnowAgent.Core

open Json Text Chrono

/-! ## Requests -/

/-- `IncidentQueueSortBy`. -/
inductive IncidentQueueSortBy where
  | priority
  | openedAt
  | updatedAt
  | assignee
  | slaRisk
deriving DecidableEq

/-- `IncidentQueueSortDirection`. -/
inductive IncidentQueueSortDirection where
  | asc
  | desc
deriving DecidableEq

/-- `IncidentQueueSlaRisk`. -/
inductive IncidentQueueSlaRisk where
  | any
  | healthy
  | atRisk
  | breached
  | unavailable
deriving DecidableEq

/-- `IncidentAssignmentGroupQueueInput`. -/
structure QueueInput where
  group : String
  state : Option String := none
  assignedTo : Option String := none
  priorities : List Nat := []
  openedAfter : Option String := none
  openedBefore : Option String := none
  updatedSince : Option String := none
  updatedBefore : Option String := none
  staleBefore : Option String := none
  staleOnly : Bool := false
  slaRisk : IncidentQueueSlaRisk := .any
  slaAtRiskPercentage : ℚ := 80
  sortBy : IncidentQueueSortBy := .priority
  sortDirection : IncidentQueueSortDirection := .asc
  limit : Option Nat := none
  offset : Option Nat := none
  scanLimit : Option Nat := none
  knownSysIds : List String := []

/-- `IncidentAssignmentGroup`. -/
structure IncidentAssignmentGroup where
  sysId : String
  name : String
deriving DecidableEq

/-- Why a queue is not answered. -/
inductive QueueError where
  | invalidParams (message : String)
  | groupNotFound (requested : String) (available : List IncidentAssignmentGroup)
  | ambiguousGroup (requested : String) (found : List IncidentAssignmentGroup)
  | state (err : IncidentAssignmentGroupListError)
  | client (err : SnowApiError)
  | text (message : String)
deriving DecidableEq

/-- `ValidatedIncidentQueueInput`. -/
structure ValidatedQueueInput where
  limit : Nat
  offset : Nat
  scanLimit : Nat
  knownSysIds : List String
deriving DecidableEq

/-- The timestamps of a request, with their names. -/
def queueTimestamps (input : QueueInput) : List (String × Option String) :=
  [("opened_after", input.openedAfter), ("opened_before", input.openedBefore),
    ("updated_since", input.updatedSince), ("updated_before", input.updatedBefore),
    ("stale_before", input.staleBefore)]

/-- A timestamp of a request is read, without the blanks around it. -/
def checkQueueTimestamp : String × Option String → Except QueueError Unit
  | (_, none) => .ok ()
  | (name, some value) =>
    match parseDateTime (trim value) with
    | some _ => .ok ()
    | none => .error (.invalidParams (name ++ " must use YYYY-MM-DD HH:MM:SS"))

/-- The baseline of a request, each `sys_id` once. -/
def knownIds : List String → List String → Except QueueError (List String)
  | [], known => .ok known
  | sysId :: sysIds, known => do
    let sysId ← (normalizeRecordLookupSysId sysId).mapError .text
    knownIds sysIds (if known.contains sysId then known else known ++ [sysId])

/-- `incident_queue_invalid`, unless a condition holds. -/
def checkInput (condition : Bool) (message : String) : Except QueueError Unit :=
  if condition then .ok () else .error (.invalidParams message)

/-- `validate_incident_queue_input`. -/
def validateIncidentQueueInput (input : QueueInput) : Except QueueError ValidatedQueueInput := do
  let limit := input.limit.getD 50
  let offset := input.offset.getD 0
  let scanLimit := input.scanLimit.getD 2000
  checkInput (trim input.group ≠ "") "group must not be empty"
  checkInput (1 ≤ limit ∧ limit ≤ 200) "limit must be between 1 and 200"
  checkInput (1 ≤ scanLimit ∧ scanLimit ≤ 5000) "scan_limit must be between 1 and 5000"
  checkInput (offset < scanLimit) "offset must be smaller than scan_limit"
  checkInput (input.knownSysIds.length ≤ 1000) "known_sys_ids must contain at most 1000 entries"
  checkInput (0 ≤ input.slaAtRiskPercentage ∧ input.slaAtRiskPercentage ≤ 100)
    "sla_at_risk_percentage must be between 0 and 100"
  checkInput (input.priorities.all fun priority => 1 ≤ priority ∧ priority ≤ 5)
    "priorities must contain only values from 1 through 5"
  (queueTimestamps input).forM checkQueueTimestamp
  let known ← knownIds input.knownSysIds []
  return ⟨limit, offset, scanLimit, known⟩

/-- What a request that is accepted has. -/
structure AcceptedQueue (input : QueueInput) (validated : ValidatedQueueInput) : Prop where
  limit : validated.limit = input.limit.getD 50
  limit_pos : 1 ≤ validated.limit
  offset : validated.offset = input.offset.getD 0
  scanLimit : validated.scanLimit = input.scanLimit.getD 2000
  offset_lt : validated.offset < validated.scanLimit
  timestamps : (queueTimestamps input).forM checkQueueTimestamp = .ok ()
  known : knownIds input.knownSysIds [] = .ok validated.knownSysIds

theorem checkInput_ok_iff {condition : Bool} {message : String} :
    checkInput condition message = .ok () ↔ condition = true := by
  unfold checkInput
  cases condition <;> simp

theorem validateIncidentQueueInput_accepted {input : QueueInput} {validated : ValidatedQueueInput}
    (h : validateIncidentQueueInput input = .ok validated) : AcceptedQueue input validated := by
  obtain ⟨-, -, h⟩ := bind_eq_ok h
  obtain ⟨⟨⟩, hlimit, h⟩ := bind_eq_ok h
  obtain ⟨-, -, h⟩ := bind_eq_ok h
  obtain ⟨⟨⟩, hoffset, h⟩ := bind_eq_ok h
  obtain ⟨-, -, h⟩ := bind_eq_ok h
  obtain ⟨-, -, h⟩ := bind_eq_ok h
  obtain ⟨-, -, h⟩ := bind_eq_ok h
  obtain ⟨⟨⟩, htimes, h⟩ := bind_eq_ok h
  obtain ⟨known, hknown, h⟩ := bind_eq_ok h
  cases h
  rw [checkInput_ok_iff, decide_eq_true_iff] at hlimit hoffset
  exact ⟨rfl, hlimit.1, rfl, rfl, hoffset, htimes, hknown⟩

/-- `resolve_incident_queue_group`. -/
def resolveIncidentQueueGroup (selector : String) (groups : List IncidentAssignmentGroup) :
    Except QueueError IncidentAssignmentGroup :=
  let selector := trim selector
  match groups.filter fun group =>
      eqIgnoreAsciiCase group.sysId selector || eqIgnoreAsciiCase group.name selector with
  | [group] => .ok group
  | [] => .error (.groupNotFound selector groups)
  | found => .error (.ambiguousGroup selector found)

/-! ## Service levels -/

/-- `TaskSlaReadability`. -/
inductive TaskSlaReadability where
  | readableRows
  | emptyOrAclRestricted
  | parentNotFound
  | notApplicable
deriving DecidableEq

/-- `TaskSlaSummaryView`. -/
structure TaskSlaSummaryView where
  total : Nat
  active : Nat
  breached : Nat
  highestBusinessElapsed : Option ℚ
deriving DecidableEq

/-- `TaskSlaStatus`. -/
structure TaskSlaStatus where
  recordNumber : String
  recordTable : String
  recordSysId : String
  summary : TaskSlaSummaryView
  readable : TaskSlaReadability
deriving DecidableEq

/-- `TaskSlaParentRef`. -/
structure TaskSlaParentRef where
  recordNumber : String
  recordTable : String
  recordSysId : String
deriving DecidableEq

/-- `unavailable_incident_sla`. -/
def unavailableIncidentSla (record : CachedRecord) : TaskSlaStatus where
  recordNumber := record.number
  recordTable := record.table
  recordSysId := record.sysId
  summary := ⟨0, 0, 0, none⟩
  readable := .emptyOrAclRestricted

/-- `IncidentSlaBucket`. -/
inductive IncidentSlaBucket where
  | unavailable
  | healthy
  | atRisk
  | breached
deriving DecidableEq

namespace IncidentSlaBucket

/-- `label`. -/
def label : IncidentSlaBucket → String
  | unavailable => "unavailable"
  | healthy => "healthy"
  | atRisk => "at_risk"
  | breached => "breached"

/-- The place of a bucket in the derived order. -/
def rank : IncidentSlaBucket → Nat
  | unavailable => 0
  | healthy => 1
  | atRisk => 2
  | breached => 3

/-- `matches`. -/
def isMatch (bucket : IncidentSlaBucket) : IncidentQueueSlaRisk → Bool
  | .any => true
  | .unavailable => bucket = .unavailable
  | .healthy => bucket = .healthy
  | .atRisk => bucket = .atRisk
  | .breached => bucket = .breached

end IncidentSlaBucket

/-- `incident_sla_bucket`. -/
def incidentSlaBucket (status : TaskSlaStatus) (threshold : ℚ) : IncidentSlaBucket :=
  if status.readable ≠ .readableRows then .unavailable
  else if 0 < status.summary.breached then .breached
  else if status.summary.highestBusinessElapsed.any fun percentage => threshold ≤ percentage then
    .atRisk
  else .healthy

/-! ## Items -/

/-- `IncidentAssignmentGroupQueueItem`. -/
structure QueueItem where
  record : CachedRecord
  sla : TaskSlaStatus
deriving DecidableEq

/-- `incident_field_value`. -/
def incidentFieldValue (record : CachedRecord) (field : String) : String :=
  ((record.fields.get field).map FieldValue.value).getD ""

/-- `incident_assignee_label`. -/
def incidentAssigneeLabel (record : CachedRecord) : String :=
  (((record.references.get "assigned_to").map Reference.displayName).filter (trim · ≠ "")).getD
    "unassigned"

/-- `str::parse` to a `u8`. -/
def parseU8 (s : String) : Option Nat :=
  let n := match s.toList with
    | '+' :: cs => digitsValue cs
    | cs => digitsValue cs
  n.filter (· < 2 ^ 8)

/-- What items are compared by. -/
def compareQueueItems (sortBy : IncidentQueueSortBy) (threshold : ℚ) (left right : QueueItem) :
    Ordering :=
  match sortBy with
  | .priority =>
    compare ((parseU8 (incidentFieldValue left.record "priority")).getD 255)
      ((parseU8 (incidentFieldValue right.record "priority")).getD 255)
  | .openedAt =>
    compare (incidentFieldValue left.record "opened_at")
      (incidentFieldValue right.record "opened_at")
  | .updatedAt =>
    compare (incidentFieldValue left.record "sys_updated_on")
      (incidentFieldValue right.record "sys_updated_on")
  | .assignee =>
    compare (toAsciiLowercase (incidentAssigneeLabel left.record))
      (toAsciiLowercase (incidentAssigneeLabel right.record))
  | .slaRisk =>
    compare (incidentSlaBucket left.sla threshold).rank (incidentSlaBucket right.sla threshold).rank

/-- The order of the items: in the direction that is asked for, then by `sys_id`. -/
def queueOrder (sortBy : IncidentQueueSortBy) (direction : IncidentQueueSortDirection)
    (threshold : ℚ) (left right : QueueItem) : Ordering :=
  let ordering := compareQueueItems sortBy threshold left right
  (match direction with
    | .asc => ordering
    | .desc => ordering.swap).then (compare left.record.sysId right.record.sysId)

/-- `sort_incident_queue_items`. -/
def sortIncidentQueueItems (sortBy : IncidentQueueSortBy) (direction : IncidentQueueSortDirection)
    (threshold : ℚ) (items : List QueueItem) : List QueueItem :=
  items.mergeSort fun left right => (queueOrder sortBy direction threshold left right).isLE

/-! ## Counting -/

/-- One more of a key. -/
def countKey (key : String) : StringMap Nat → StringMap Nat
  | [] => [(key, 1)]
  | (other, n) :: counts =>
    if other = key then (other, n + 1) :: counts else (other, n) :: countKey key counts

/-- `IncidentAssignmentGroupQueueAggregates`. -/
structure QueueAggregates where
  byState : StringMap Nat
  byPriority : StringMap Nat
  byAssignee : StringMap Nat
  bySlaRisk : StringMap Nat
  unassigned : Nat
  stale : Nat
  complete : Bool
deriving DecidableEq

/-- The counts with one more item. -/
def countItem (staleBefore : String) (threshold : ℚ) (counts : QueueAggregates) (item : QueueItem) :
    QueueAggregates where
  byState := countKey item.record.state counts.byState
  byPriority := countKey (incidentFieldValue item.record "priority") counts.byPriority
  byAssignee := countKey (incidentAssigneeLabel item.record) counts.byAssignee
  bySlaRisk := countKey (incidentSlaBucket item.sla threshold).label counts.bySlaRisk
  unassigned :=
    if incidentAssigneeLabel item.record = "unassigned" then counts.unassigned + 1
    else counts.unassigned
  stale :=
    if incidentFieldValue item.record "sys_updated_on" < staleBefore then counts.stale + 1
    else counts.stale
  complete := counts.complete

/-- `incident_queue_aggregates`. -/
def incidentQueueAggregates (items : List QueueItem) (staleBefore : String) (threshold : ℚ)
    (complete : Bool) : QueueAggregates :=
  items.foldl (countItem staleBefore threshold) ⟨[], [], [], [], 0, 0, complete⟩

/-! ## Reading ServiceNow -/

/-- A condition of the query of a queue. -/
inductive QueueCondition where
  | is (atom : Atom)
  | isEmptyField (field : String)
deriving DecidableEq

/-- A page of the client, and whether it knows after it that there are no more. -/
structure ClientPage where
  records : List Record
  isDone : Bool

/-- What the pages of a query are: after the last of them the client has no more, or fails.  It is
done only when that was the last one. -/
structure Paginator where
  pages : List ClientPage
  failure : Option SnowApiError
  done_last : ∀ earlier page later, pages = earlier ++ page :: later → page.isDone = true →
    later = [] ∧ failure = none

/-- The rows that a query has. -/
def Paginator.rows (paginator : Paginator) : List Record :=
  paginator.pages.flatMap ClientPage.records

/-- What a call asks of ServiceNow, and how the answers are read. -/
structure QueueReads where
  groups : Except String (List IncidentAssignmentGroup)
  choices : Except String (List FieldChoice)
  currentUserSysId : Except String String
  resolveUserSysId : String → Except String String
  paginate : List QueueCondition → Except SnowApiError Paginator
  taskSlaStatuses : List TaskSlaParentRef → Except String (StringMap TaskSlaStatus)
  incidentDepartures : String → List String → Except String (List String)
  /-- `format("%Y-%m-%d %H:%M:%S")`. -/
  format : DateTime → String

/-- The scan: the rows, and whether these are all. -/
def scanPages (scanLimit : Nat) (failure : Option SnowApiError) :
    List ClientPage → List Record → Except SnowApiError (List Record × Bool)
  | [], rows =>
    if scanLimit ≤ rows.length then .ok (rows, false)
    else
      match failure with
      | some err => .error err
      | none => .ok (rows, true)
  | page :: pages, rows =>
    if scanLimit ≤ rows.length then .ok (rows, false)
    else
      let remaining := scanLimit - rows.length
      let scanned := rows ++ page.records.take remaining
      if remaining < page.records.length then .ok (scanned, false)
      else if page.isDone then .ok (scanned, true)
      else scanPages scanLimit failure pages scanned

section Rows

variable (lib : CoreLib)

/-- `reference_from_record` of an incident. -/
def incidentReference (record : Record) (field : String) : Option Reference :=
  ((record.getRaw field).orElse fun _ => record.getStr lib field).map fun sysId =>
    ⟨sysId, (record.getDisplay field).getD sysId⟩

/-- `IncidentResource::from_servicenow`. -/
def incidentFromServicenow (now : DateTime) (record : Record) : CachedRecord :=
  { fromServicenow lib now record with
    resourceType := .incident
    table := "incident"
    references := ["caller_id", "assigned_to", "assignment_group", "cmdb_ci",
      "business_service"].filterMap fun field =>
        (incidentReference lib record field).map fun reference => (field, reference) }

end Rows

/-- Each record with the status of its `sys_id`, which is taken once. -/
def attachStatuses : List CachedRecord → StringMap TaskSlaStatus → List QueueItem
  | [], _ => []
  | record :: records, statuses =>
    ⟨record, (statuses.get record.sysId).getD (unavailableIncidentSla record)⟩ ::
      attachStatuses records (statuses.filter fun entry => entry.1 != record.sysId)

/-! ## The operation -/

/-- The assignee of a request: none, unassigned, or a user. -/
def queueAssignee (reads : QueueReads) (selector : Option String) :
    Except QueueError (Option QueueCondition) :=
  match selector.map trim with
  | none => .ok none
  | some selector =>
    if selector = "" then .ok none
    else if eqIgnoreAsciiCase selector "unassigned" then .ok (some (.isEmptyField "assigned_to"))
    else do
      let sysId ← (if eqIgnoreAsciiCase selector "me" then reads.currentUserSysId
        else match normalizeRecordLookupSysId selector with
          | .ok sysId => .ok sysId
          | .error _ => reads.resolveUserSysId selector).mapError .text
      return some (.is (.equals "assigned_to" sysId))

/-- The state of a request. -/
def queueState (reads : QueueReads) : Option String → Except QueueError (Option String)
  | none => .ok none
  | some selector => do
    let choices ← reads.choices.mapError .text
    let resolved ← (resolveIncidentState selector choices).mapError .state
    return some resolved.value

/-- The instant before which an incident is stale: the one that is asked for, or a day ago. -/
def staleBefore (reads : QueueReads) (input : QueueInput) (watermarkAt : DateTime) : String :=
  input.staleBefore.getD (reads.format (watermarkAt - durationSeconds 86400))

/-- The query of a queue. -/
def queueConditions (input : QueueInput) (group : String) (state : Option String)
    (assignee : Option QueueCondition) (stale : String) : List QueueCondition :=
  [.is (.equals "assignment_group" group), .is (.equals "active" "true")] ++
    (state.map fun value => .is (.equals "state" value)).toList ++ assignee.toList ++
    (if input.priorities = [] then []
      else [.is (.inList "priority" (input.priorities.map toString))]) ++
    (input.openedAfter.map fun value => .is (.greaterThan "opened_at" value)).toList ++
    (input.openedBefore.map fun value => .is (.lessThan "opened_at" value)).toList ++
    (input.updatedSince.map fun value => .is (.greaterThan "sys_updated_on" value)).toList ++
    (input.updatedBefore.map fun value => .is (.lessThan "sys_updated_on" value)).toList ++
    (if input.staleOnly then [.is (.lessThan "sys_updated_on" stale)] else [])

/-- `IncidentAssignmentGroupQueuePage`. -/
structure QueuePage where
  group : IncidentAssignmentGroup
  items : List QueueItem
  offset : Nat
  nextOffset : Option Nat
  complete : Bool
  scanComplete : Bool
  rowsScanned : Nat
  watermark : String
  departedSysIds : List String
  aggregates : QueueAggregates
deriving DecidableEq

/-- The records of the rows that are open work. -/
def openRecords (lib : CoreLib) (now : DateTime) (rows : List Record) : List CachedRecord :=
  (rows.filter (servicenowRecordIsOpenUserWork lib)).map (incidentFromServicenow lib now)

/-- The items of some rows that have a service level as it is asked for. -/
def itemsWith (lib : CoreLib) (input : QueueInput) (now : DateTime) (rows : List Record)
    (statuses : StringMap TaskSlaStatus) : List QueueItem :=
  (attachStatuses (openRecords lib now rows) statuses).filter fun item =>
    (incidentSlaBucket item.sla input.slaAtRiskPercentage).isMatch input.slaRisk

/-- The items of some rows, by the service levels that are read of them. -/
def filteredItems (lib : CoreLib) (reads : QueueReads) (input : QueueInput) (now : DateTime)
    (rows : List Record) : Except QueueError (List QueueItem) := do
  let statuses ← (reads.taskSlaStatuses ((openRecords lib now rows).map fun record =>
    ⟨record.number, "incident", record.sysId⟩)).mapError .text
  return itemsWith lib input now rows statuses

/-- The slice of the items that a page shows. -/
def queueSlice (group : IncidentAssignmentGroup) (validated : ValidatedQueueInput)
    (items : List QueueItem) (aggregates : QueueAggregates) (scanComplete : Bool) (rowsScanned : Nat)
    (watermark : String) (departed : List String) : QueuePage :=
  let pageItems := (items.drop validated.offset).take validated.limit
  let consumed := validated.offset + pageItems.length
  let nextOffset := if consumed < items.length then some consumed else none
  { group := group
    items := pageItems
    offset := validated.offset
    nextOffset := nextOffset
    complete := scanComplete && nextOffset.isNone
    scanComplete := scanComplete
    rowsScanned := rowsScanned
    watermark := watermark
    departedSysIds := departed
    aggregates := aggregates }

/-- The group of a request, and the pages of its query. -/
def queuePaginator (reads : QueueReads) (input : QueueInput) (stale : String) :
    Except QueueError (IncidentAssignmentGroup × Paginator) := do
  let groups ← reads.groups.mapError .text
  let group ← resolveIncidentQueueGroup input.group groups
  let state ← queueState reads input.state
  let assignee ← queueAssignee reads input.assignedTo
  let paginator ← (reads.paginate (queueConditions input group.sysId state assignee stale)).mapError
    .client
  return (group, paginator)

/-- `incident_assignment_group_queue`. -/
def incidentAssignmentGroupQueue (lib : CoreLib) (reads : QueueReads) (now : DateTime)
    (input : QueueInput) : Except QueueError QueuePage := do
  let validated ← validateIncidentQueueInput input
  let stale := staleBefore reads input now
  let (group, paginator) ← queuePaginator reads input stale
  let scan ← (scanPages validated.scanLimit paginator.failure paginator.pages []).mapError .client
  let filtered ← filteredItems lib reads input now scan.1
  let items := sortIncidentQueueItems input.sortBy input.sortDirection
    input.slaAtRiskPercentage filtered
  let aggregates := incidentQueueAggregates items stale input.slaAtRiskPercentage scan.2
  let departed ← (reads.incidentDepartures group.sysId validated.knownSysIds).mapError .text
  return queueSlice group validated items aggregates scan.2 scan.1.length (reads.format now) departed

end SnowAgent.Core
