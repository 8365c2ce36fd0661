import SnowAgent.IncidentQueue
import SnowAgent.OffsetPages

/-! # The pages of a queue

Each call scans, sorts and counts the whole queue anew and shows a slice of it.  As long as
ServiceNow answers the same, the slices are those of one list, and the counts are those of that list.
The items without an assignee are counted by the name they show: a name that is blank, or the word
the count looks for, makes an item with an assignee one without.
-/
namespace SnowAgent.Core

open Json Text OffsetPages

/-- A call for the page at an offset. -/
def queueAt (lib : CoreLib) (reads : QueueReads) (clock : Nat → DateTime) (input : QueueInput)
    (offset : Nat) : Except QueueError QueuePage :=
  incidentAssignmentGroupQueue lib reads (clock offset) { input with offset := some offset }

/-- An item without the time at which its row was read. -/
def QueueItem.at (now : DateTime) (item : QueueItem) : QueueItem :=
  { item with record := { item.record with syncedAt := now } }

/-- The items of a page, whenever they were read. -/
def QueuePage.shown (page : QueuePage) : List QueueItem := page.items.map (QueueItem.at 0)

/-- An item has no value for its assignee. -/
def withoutAssignee (item : QueueItem) : Bool := incidentFieldValue item.record "assigned_to" = ""

/-- An item shows as unassigned. -/
def showsUnassigned (item : QueueItem) : Bool := incidentAssigneeLabel item.record = "unassigned"

/-- As many items with an assignee show as unassigned as there are items without one that show a
name. -/
def NamesFit (items : List QueueItem) : Prop :=
  (items.countP fun item => showsUnassigned item && !withoutAssignee item) =
    items.countP fun item => withoutAssignee item && !showsUnassigned item

/-- The pages of a queue fit together: their items are the filtered ones, in one strict order; the
counts of each page are those of all items; the scan is complete only if all rows were scanned, and
a page is complete if the scan is and nothing is left. -/
structure ConsistentQueue (input : QueueInput) (rows : List Record) (filtered : List QueueItem)
    (pages : List QueuePage) : Prop where
  listed : (pages.flatMap QueuePage.shown).Perm filtered
  ordered : (pages.flatMap QueuePage.shown).Pairwise fun a b =>
    queueOrder input.sortBy input.sortDirection input.slaAtRiskPercentage a b = .lt
  strict : ∀ a ∈ filtered, ∀ b ∈ filtered,
    queueOrder input.sortBy input.sortDirection input.slaAtRiskPercentage a b = .eq → a = b
  counted : ∀ page ∈ pages, ∀ counts ∈ [page.aggregates.byState, page.aggregates.byPriority,
    page.aggregates.byAssignee, page.aggregates.bySlaRisk],
      (counts.map Prod.snd).sum = filtered.length
  unassigned : ∀ page ∈ pages, page.aggregates.unassigned = filtered.countP withoutAssignee
  scanned : ∀ page ∈ pages, page.scanComplete = true →
    rows.take (input.scanLimit.getD 2000) = rows ∧ page.rowsScanned = rows.length
  complete : ∀ page ∈ pages, page.complete = true ↔
    page.scanComplete = true ∧ page.nextOffset = none

/-! ## The scan -/

/-- The scan reads the first rows, and says that these are all only if they are. -/
theorem scanPages_spec {scanLimit : Nat} {failure : Option SnowApiError} {pages : List ClientPage}
    {rows scanned : List Record} {all : Bool}
    (hdone : ∀ earlier page later, pages = earlier ++ page :: later → page.isDone = true → later = [])
    (hrows : rows.length ≤ scanLimit) (h : scanPages scanLimit failure pages rows = .ok
    (scanned, all)) :
    scanned = (rows ++ pages.flatMap ClientPage.records).take scanLimit ∧
      (all = true → (rows ++ pages.flatMap ClientPage.records).length ≤ scanLimit) := by
  induction pages generalizing rows with
  | nil =>
    rw [List.flatMap_nil, List.append_nil, List.take_of_length_le hrows]
    unfold scanPages at h
    split_ifs at h
    · cases h
      exact ⟨rfl, fun hall => nomatch hall⟩
    · rcases failure with _ | err
      · cases h
        exact ⟨rfl, fun _ => hrows⟩
      · cases h
  | cons page pages step =>
    rw [List.flatMap_cons]
    rw [scanPages] at h
    by_cases hfull : scanLimit ≤ rows.length
    · rw [if_pos hfull] at h
      cases h
      refine ⟨?_, fun hall => nomatch hall⟩
      rw [List.take_append_of_le_length hfull, List.take_of_length_le (by omega)]
    · rw [if_neg hfull] at h
      dsimp only at h
      by_cases hmore : scanLimit - rows.length < page.records.length
      · rw [if_pos hmore] at h
        cases h
        refine ⟨?_, fun hall => nomatch hall⟩
        rw [List.take_append, List.take_of_length_le hrows,
          List.take_append_of_le_length (by omega)]
      · rw [if_neg hmore, List.take_of_length_le (by omega)] at h
        have hlength : (rows ++ page.records).length ≤ scanLimit := by
          rw [List.length_append]
          omega
        by_cases hlast : page.isDone = true
        · rw [if_pos hlast] at h
          cases h
          obtain rfl := hdone [] page pages rfl hlast
          rw [List.flatMap_nil, List.append_nil]
          exact ⟨(List.take_of_length_le hlength).symm, fun _ => hlength⟩
        · rw [if_neg hlast] at h
          have hrest : ∀ earlier p later, pages = earlier ++ p :: later → p.isDone = true →
              later = [] := by
            rintro earlier p later rfl hp
            exact hdone (page :: earlier) p later rfl hp
          rw [← List.append_assoc]
          exact step hrest hlength h

theorem Paginator.scan_spec {paginator : Paginator} {scanLimit : Nat} {scanned : List Record}
    {all : Bool} (h : scanPages scanLimit paginator.failure paginator.pages [] = .ok (scanned, all)) :
    scanned = paginator.rows.take scanLimit ∧
      (all = true → paginator.rows.take scanLimit = paginator.rows) := by
  obtain ⟨hscanned, hall⟩ := scanPages_spec
    (fun earlier page later hpages hdone => (paginator.done_last earlier page later hpages hdone).1)
    (Nat.zero_le _) h
  exact ⟨hscanned, fun h => List.take_of_length_le (hall h)⟩

/-! ## The time of the reading -/

theorem attachStatuses_at (now : DateTime) (records : List CachedRecord)
    (statuses : StringMap TaskSlaStatus) :
    attachStatuses (records.map fun record => { record with syncedAt := now }) statuses =
      (attachStatuses records statuses).map (QueueItem.at now) := by
  induction records generalizing statuses with
  | nil => rfl
  | cons record records step =>
    rw [List.map_cons, attachStatuses, attachStatuses, List.map_cons, step]
    rfl

theorem openRecords_at (lib : CoreLib) (now : DateTime) (rows : List Record) :
    openRecords lib now rows =
      (openRecords lib 0 rows).map fun record => { record with syncedAt := now } := by
  rw [openRecords, openRecords, List.map_map]
  refine List.map_congr_left fun record _ => ?_
  rw [Function.comp_apply]
  simp only [incidentFromServicenow, fromServicenow]

theorem itemsWith_at (lib : CoreLib) (input : QueueInput) (now : DateTime) (rows : List Record)
    (statuses : StringMap TaskSlaStatus) :
    itemsWith lib input now rows statuses =
      (itemsWith lib input 0 rows statuses).map (QueueItem.at now) := by
  rw [itemsWith, openRecords_at lib now, attachStatuses_at, List.filter_map]
  rfl

/-- The items are the same whenever the rows are read, but for that time. -/
theorem filteredItems_at (lib : CoreLib) (reads : QueueReads) (input : QueueInput) (now : DateTime)
    (rows : List Record) :
    filteredItems lib reads input now rows =
      (filteredItems lib reads input 0 rows).map (List.map (QueueItem.at now)) := by
  have hparents : (openRecords lib now rows).map (fun record =>
      (⟨record.number, "incident", record.sysId⟩ : TaskSlaParentRef)) =
      (openRecords lib 0 rows).map fun record => ⟨record.number, "incident", record.sysId⟩ := by
    rw [openRecords_at, List.map_map]
    rfl
  have hitems : itemsWith lib input now rows =
      fun statuses => (itemsWith lib input 0 rows statuses).map (QueueItem.at now) :=
    funext fun statuses => itemsWith_at lib input now rows statuses
  rw [filteredItems, filteredItems, hparents, hitems]
  rcases (reads.taskSlaStatuses _).mapError QueueError.text with err | statuses
  · rfl
  · rfl

theorem sort_at (input : QueueInput) (now : DateTime) (items : List QueueItem) :
    sortIncidentQueueItems input.sortBy input.sortDirection input.slaAtRiskPercentage
        (items.map (QueueItem.at now)) =
      (sortIncidentQueueItems input.sortBy input.sortDirection input.slaAtRiskPercentage items).map
        (QueueItem.at now) := by
  rw [sortIncidentQueueItems, sortIncidentQueueItems]
  refine (List.map_mergeSort fun a _ b _ => ?_).symm
  unfold queueOrder compareQueueItems
  cases input.sortBy <;> rfl

theorem aggregates_at (items : List QueueItem) (now : DateTime) (stale : String) (threshold : ℚ)
    (complete : Bool) :
    incidentQueueAggregates (items.map (QueueItem.at now)) stale threshold complete =
      incidentQueueAggregates items stale threshold complete := by
  rw [incidentQueueAggregates, incidentQueueAggregates, List.foldl_map]
  rfl

/-! ## The order -/

section Order

variable (sortBy : IncidentQueueSortBy) (direction : IncidentQueueSortDirection) (threshold : ℚ)

instance compareQueueItems_trans : Std.TransCmp (compareQueueItems sortBy threshold) := by
  cases sortBy with
  | priority =>
    exact inferInstanceAs (Std.TransCmp (compareOn fun item : QueueItem =>
      (parseU8 (incidentFieldValue item.record "priority")).getD 255))
  | openedAt =>
    exact inferInstanceAs (Std.TransCmp (compareOn fun item : QueueItem =>
      incidentFieldValue item.record "opened_at"))
  | updatedAt =>
    exact inferInstanceAs (Std.TransCmp (compareOn fun item : QueueItem =>
      incidentFieldValue item.record "sys_updated_on"))
  | assignee =>
    exact inferInstanceAs (Std.TransCmp (compareOn fun item : QueueItem =>
      toAsciiLowercase (incidentAssigneeLabel item.record)))
  | slaRisk =>
    exact inferInstanceAs (Std.TransCmp (compareOn fun item : QueueItem =>
      (incidentSlaBucket item.sla threshold).rank))

/-- The order of the items is one: its parts are compared one after the other. -/
instance queueOrder_trans : Std.TransCmp (queueOrder sortBy direction threshold) := by
  cases direction with
  | asc =>
    exact inferInstanceAs (Std.TransCmp (compareLex (compareQueueItems sortBy threshold)
      (compareOn fun item : QueueItem => item.record.sysId)))
  | desc =>
    have hswap : queueOrder sortBy .desc threshold =
        compareLex (fun a b => compareQueueItems sortBy threshold b a)
          (compareOn fun item : QueueItem => item.record.sysId) := by
      funext a b
      show ((compareQueueItems sortBy threshold a b).swap).then _ = _
      have hback : compareQueueItems sortBy threshold b a =
          (compareQueueItems sortBy threshold a b).swap := Std.OrientedCmp.eq_swap
      rw [← hback]
      rfl
    rw [hswap]
    infer_instance

/-- Only items of one `sys_id` are level. -/
theorem queueOrder_eq {a b : QueueItem} (h : queueOrder sortBy direction threshold a b = .eq) :
    a.record.sysId = b.record.sysId := by
  have hlast := (Ordering.then_eq_eq.mp h).2
  exact Std.LawfulEqOrd.eq_of_compare hlast

theorem sort_perm (items : List QueueItem) :
    (sortIncidentQueueItems sortBy direction threshold items).Perm items :=
  List.mergeSort_perm items _

/-- Items of different `sys_id`s are sorted strictly. -/
theorem sort_strict {items : List QueueItem} (hdistinct : (items.map (·.record.sysId)).Nodup) :
    (sortIncidentQueueItems sortBy direction threshold items).Pairwise fun a b =>
      queueOrder sortBy direction threshold a b = .lt := by
  have hsorted : (sortIncidentQueueItems sortBy direction threshold items).Pairwise fun a b =>
      (queueOrder sortBy direction threshold a b).isLE = true := by
    refine List.pairwise_mergeSort ?_ ?_ items
    · intro a b c hab hbc
      exact Std.TransCmp.isLE_trans hab hbc
    · intro a b
      rw [Bool.or_eq_true]
      rcases hab : queueOrder sortBy direction threshold a b with _ | _ | _
      · exact Or.inl rfl
      · exact Or.inl rfl
      · right
        have hback : queueOrder sortBy direction threshold b a =
            (queueOrder sortBy direction threshold a b).swap := Std.OrientedCmp.eq_swap
        rw [hback, hab]
        rfl
  have hdifferent : (sortIncidentQueueItems sortBy direction threshold items).Pairwise fun a b =>
      a.record.sysId ≠ b.record.sysId :=
    List.pairwise_map.mp (((sort_perm sortBy direction threshold items).map _).nodup_iff.mpr hdistinct)
  refine hsorted.imp₂ (fun a b hle hne => ?_) hdifferent
  rcases hab : queueOrder sortBy direction threshold a b with _ | _ | _
  · rfl
  · exact absurd (queueOrder_eq sortBy direction threshold hab) hne
  · rw [hab] at hle
    cases hle

end Order

/-! ## The counts -/

theorem sum_countKey (key : String) (counts : StringMap Nat) :
    ((countKey key counts).map Prod.snd).sum = (counts.map Prod.snd).sum + 1 := by
  induction counts with
  | nil => rfl
  | cons count counts step =>
    obtain ⟨other, n⟩ := count
    unfold countKey
    split
    · rw [List.map_cons, List.map_cons, List.sum_cons, List.sum_cons]
      omega
    · rw [List.map_cons, List.map_cons, List.sum_cons, List.sum_cons, step]
      omega

/-- What the counts of some items are, after those that were counted before. -/
structure Counted (items : List QueueItem) (before counts : QueueAggregates) : Prop where
  byState : (counts.byState.map Prod.snd).sum = (before.byState.map Prod.snd).sum + items.length
  byPriority :
    (counts.byPriority.map Prod.snd).sum = (before.byPriority.map Prod.snd).sum + items.length
  byAssignee :
    (counts.byAssignee.map Prod.snd).sum = (before.byAssignee.map Prod.snd).sum + items.length
  bySlaRisk :
    (counts.bySlaRisk.map Prod.snd).sum = (before.bySlaRisk.map Prod.snd).sum + items.length
  unassigned : counts.unassigned = before.unassigned + items.countP showsUnassigned

theorem foldl_counted (items : List QueueItem) (stale : String) (threshold : ℚ)
    (before : QueueAggregates) :
    Counted items before (items.foldl (countItem stale threshold) before) := by
  induction items generalizing before with
  | nil => exact ⟨rfl, rfl, rfl, rfl, rfl⟩
  | cons item items step =>
    have hrest := step (countItem stale threshold before item)
    have hsum := fun key counts => sum_countKey key counts
    rw [List.foldl_cons]
    refine ⟨?_, ?_, ?_, ?_, ?_⟩
    · rw [hrest.byState, countItem, hsum, List.length_cons]
      omega
    · rw [hrest.byPriority, countItem, hsum, List.length_cons]
      omega
    · rw [hrest.byAssignee, countItem, hsum, List.length_cons]
      omega
    · rw [hrest.bySlaRisk, countItem, hsum, List.length_cons]
      omega
    · rw [hrest.unassigned, List.countP_cons, countItem]
      by_cases hlabel : incidentAssigneeLabel item.record = "unassigned"
      · rw [if_pos hlabel, if_pos (show showsUnassigned item = true from decide_eq_true hlabel)]
        dsimp only
        omega
      · rw [if_neg hlabel, if_neg (show ¬ showsUnassigned item = true from
          fun h => hlabel (of_decide_eq_true h))]
        dsimp only
        omega

theorem countP_split {α : Type} (p q : α → Bool) (items : List α) :
    items.countP p = (items.countP fun a => p a && q a) + items.countP fun a => p a && !q a := by
  induction items with
  | nil => rfl
  | cons a items step =>
    rw [List.countP_cons, List.countP_cons, List.countP_cons, step]
    rcases p a with _ | _
    · simp
    · rcases q a with _ | _ <;> simp <;> omega

/-- Two counts are the same when the exceptions on both sides are as many. -/
theorem countP_eq_iff {α : Type} (p q : α → Bool) (items : List α) :
    items.countP p = items.countP q ↔
      (items.countP fun a => p a && !q a) = items.countP fun a => q a && !p a := by
  have hcomm : (items.countP fun a => q a && p a) = items.countP fun a => p a && q a :=
    List.countP_congr fun a _ => by rw [Bool.and_comm]
  have hp := countP_split p q items
  have hq := countP_split q p items
  omega

/-! ## One call -/

section Calls

variable {lib : CoreLib} {reads : QueueReads} {clock : Nat → DateTime} {input : QueueInput}

/-- What the page at an offset is made of: the accepted request, the pages of the query, the scan,
and the items whenever they are read. -/
structure Answered (lib : CoreLib) (reads : QueueReads) (input : QueueInput) (stale : String)
    (now : DateTime) (offset : Nat) (paginator : Paginator) (all : Bool)
    (filtered : List QueueItem) (page : QueuePage) : Prop where
  limit : ∃ limit, 1 ≤ limit ∧ limit = input.limit.getD 50 ∧
    page.items = slice limit ((sortIncidentQueueItems input.sortBy input.sortDirection
      input.slaAtRiskPercentage filtered).map (QueueItem.at now)) offset ∧
    page.nextOffset = next limit ((sortIncidentQueueItems input.sortBy input.sortDirection
      input.slaAtRiskPercentage filtered).map (QueueItem.at now)) offset
  complete : page.complete = (all && page.nextOffset.isNone)
  scanComplete : page.scanComplete = all
  rowsScanned : page.rowsScanned = (paginator.rows.take (input.scanLimit.getD 2000)).length
  aggregates : page.aggregates = incidentQueueAggregates (sortIncidentQueueItems input.sortBy
    input.sortDirection input.slaAtRiskPercentage filtered) stale input.slaAtRiskPercentage all

/-- What a call that is answered has read. -/
theorem queueAt_ok {offset : Nat} {page : QueuePage}
    (h : queueAt lib reads clock input offset = .ok page) :
    ∃ group paginator all filtered,
      queuePaginator reads input (staleBefore reads input (clock offset)) = .ok (group, paginator) ∧
      filteredItems lib reads input 0 (paginator.rows.take (input.scanLimit.getD 2000)) =
        .ok filtered ∧
      (all = true → paginator.rows.take (input.scanLimit.getD 2000) = paginator.rows) ∧
      Answered lib reads input (staleBefore reads input (clock offset)) (clock offset) offset paginator
        all filtered page := by
  obtain ⟨validated, hvalidated, h⟩ := bind_eq_ok h
  obtain ⟨⟨group, paginator⟩, hpaginator, h⟩ := bind_eq_ok h
  obtain ⟨⟨scanned, all⟩, hscan, h⟩ := bind_eq_ok h
  obtain ⟨items, hitems, h⟩ := bind_eq_ok h
  obtain ⟨departed, -, h⟩ := bind_eq_ok h
  cases h
  have haccepted := validateIncidentQueueInput_accepted hvalidated
  rw [mapError_eq_ok_iff, haccepted.scanLimit] at hscan
  obtain ⟨rfl, hall⟩ := Paginator.scan_spec hscan
  rw [filteredItems_at, map_eq_ok_iff] at hitems
  obtain ⟨filtered, hfiltered, rfl⟩ := hitems
  refine ⟨group, paginator, all, filtered, hpaginator, hfiltered, hall, ?_⟩
  have hoffset : validated.offset = offset := haccepted.offset
  refine ⟨⟨validated.limit, haccepted.limit_pos, haccepted.limit, ?_, ?_⟩, rfl, rfl, rfl, ?_⟩
  · rw [← hoffset, ← sort_at]
    rfl
  · rw [← hoffset, ← sort_at]
    rfl
  · have haggregates := aggregates_at (sortIncidentQueueItems input.sortBy input.sortDirection
      input.slaAtRiskPercentage filtered) (clock offset) (staleBefore reads input (clock offset))
      input.slaAtRiskPercentage all
    rw [← sort_at] at haggregates
    exact haggregates

/-- A request that is accepted is accepted at any offset that the scan reaches. -/
theorem validate_offset {offset offset' : Nat} {validated : ValidatedQueueInput}
    (h : validateIncidentQueueInput { input with offset := some offset } = .ok validated)
    (hlt : offset' < validated.scanLimit) :
    validateIncidentQueueInput { input with offset := some offset' } =
      .ok { validated with offset := offset' } := by
  obtain ⟨⟨⟩, hgroup, h⟩ := bind_eq_ok h
  obtain ⟨⟨⟩, hlimit, h⟩ := bind_eq_ok h
  obtain ⟨⟨⟩, hscan, h⟩ := bind_eq_ok h
  obtain ⟨⟨⟩, -, h⟩ := bind_eq_ok h
  obtain ⟨⟨⟩, hknown, h⟩ := bind_eq_ok h
  obtain ⟨⟨⟩, hsla, h⟩ := bind_eq_ok h
  obtain ⟨⟨⟩, hpriorities, h⟩ := bind_eq_ok h
  obtain ⟨⟨⟩, htimes, h⟩ := bind_eq_ok h
  obtain ⟨known, hids, h⟩ := bind_eq_ok h
  cases h
  have hoffset : checkInput (offset' < input.scanLimit.getD 2000)
      "offset must be smaller than scan_limit" = .ok () :=
    checkInput_ok_iff.mpr (decide_eq_true hlt)
  have htimes' : (queueTimestamps { input with offset := some offset' }).forM checkQueueTimestamp =
      .ok () := htimes
  dsimp only at hgroup hlimit hscan hknown hsla hpriorities hids
  simp only [validateIncidentQueueInput, Option.getD_some, hgroup, hlimit, hscan, hoffset, hknown,
    hsla, hpriorities, htimes', hids, Bind.bind, Except.bind, Pure.pure, Except.pure]

theorem queuePaginator_stale {stale stale' : String} (h : input.staleOnly = true → stale = stale') :
    queuePaginator reads input stale = queuePaginator reads input stale' := by
  rcases hstale : input.staleOnly with _ | _
  · simp only [queuePaginator, queueConditions, hstale]
    rfl
  · rw [h hstale]

/-- When the call from the start is answered, so is that at any offset that the scan reaches. -/
theorem queueAt_exists {offset : Nat} {first : QueuePage}
    (h : queueAt lib reads clock input 0 = .ok first)
    (hclock : input.staleOnly = true →
      staleBefore reads input (clock offset) = staleBefore reads input (clock 0))
    (hlt : offset < input.scanLimit.getD 2000) :
    ∃ page, queueAt lib reads clock input offset = .ok page := by
  obtain ⟨validated, hvalidated, h⟩ := bind_eq_ok h
  obtain ⟨⟨group, paginator⟩, hpaginator, h⟩ := bind_eq_ok h
  obtain ⟨scan, hscan, h⟩ := bind_eq_ok h
  obtain ⟨items, hitems, h⟩ := bind_eq_ok h
  obtain ⟨departed, hdeparted, -⟩ := bind_eq_ok h
  have hscanLimit := (validateIncidentQueueInput_accepted hvalidated).scanLimit
  have hvalidated' := validate_offset hvalidated (hscanLimit ▸ hlt)
  have hpaginator' : queuePaginator reads { input with offset := some offset }
      (staleBefore reads { input with offset := some offset } (clock offset)) =
        .ok (group, paginator) :=
    (queuePaginator_stale hclock).trans hpaginator
  rw [filteredItems_at, map_eq_ok_iff] at hitems
  obtain ⟨filtered, hfiltered, -⟩ := hitems
  have hitems' : filteredItems lib reads { input with offset := some offset } (clock offset) scan.1 =
      .ok (filtered.map (QueueItem.at (clock offset))) := by
    rw [filteredItems_at]
    exact congrArg (Except.map (List.map (QueueItem.at (clock offset)))) hfiltered
  unfold queueAt incidentAssignmentGroupQueue
  simp only [hvalidated', hpaginator', hscan, hitems', hdeparted, Bind.bind, Except.bind]
  exact ⟨_, rfl⟩

/-- The `sys_id`s of the items are those of rows. -/
theorem filteredItems_distinct {rows : List Record} {filtered : List QueueItem}
    (h : filteredItems lib reads input 0 rows = .ok filtered)
    (hrows : (rows.map Record.sysId).Nodup) : (filtered.map (·.record.sysId)).Nodup := by
  obtain ⟨statuses, -, h⟩ := bind_eq_ok h
  cases h
  have hattach : ∀ (records : List CachedRecord) (statuses : StringMap TaskSlaStatus),
      (attachStatuses records statuses).map (·.record.sysId) = records.map (·.sysId) := by
    intro records
    induction records with
    | nil => exact fun _ => rfl
    | cons record records step =>
      intro statuses
      rw [attachStatuses, List.map_cons, List.map_cons, step]
  have hopen : ((openRecords lib 0 rows).map (·.sysId)).Sublist (rows.map Record.sysId) := by
    rw [openRecords, List.map_map]
    exact List.filter_sublist.map _
  rw [itemsWith]
  refine (hrows.sublist hopen).sublist ?_
  rw [← hattach _ statuses]
  exact List.filter_sublist.map _

end Calls

/-! ## The pages together -/

section Pages

variable {lib : CoreLib} {reads : QueueReads} {clock : Nat → DateTime} {input : QueueInput}

/-- What a queue is about: the rows of its query, and the items of those that are scanned. -/
structure QueueOf (lib : CoreLib) (reads : QueueReads) (input : QueueInput) (stale : String)
    (rows : List Record) (filtered : List QueueItem) : Prop where
  queried : ∃ group paginator, queuePaginator reads input stale = .ok (group, paginator) ∧
    paginator.rows = rows
  scanned : filteredItems lib reads input 0 (rows.take (input.scanLimit.getD 2000)) = .ok filtered
  distinct : (rows.map Record.sysId).Nodup

variable {rows : List Record} {filtered : List QueueItem}

/-- The items, sorted. -/
def sortedItems (input : QueueInput) (filtered : List QueueItem) : List QueueItem :=
  sortIncidentQueueItems input.sortBy input.sortDirection input.slaAtRiskPercentage filtered

/-- The items are those of a reading at no time. -/
theorem QueueOf.at_zero {stale : String} (h : QueueOf lib reads input stale rows filtered) :
    filtered.map (QueueItem.at 0) = filtered := by
  have hscanned := h.scanned
  rw [filteredItems_at, map_eq_ok_iff] at hscanned
  obtain ⟨items, hitems, hmap⟩ := hscanned
  rw [h.scanned, Except.ok.injEq] at hitems
  subst hitems
  exact hmap

theorem at_at (now now' : DateTime) (items : List QueueItem) :
    (items.map (QueueItem.at now)).map (QueueItem.at now') = items.map (QueueItem.at now') := by
  rw [List.map_map]
  rfl

theorem QueueOf.sorted_distinct {stale : String} (h : QueueOf lib reads input stale rows filtered) :
    (filtered.map (·.record.sysId)).Nodup := by
  refine filteredItems_distinct h.scanned (h.distinct.sublist ?_)
  exact (List.take_sublist _ _).map _

variable (clock) in
/-- **What every page is**, of the one queue that all calls read. -/
theorem QueueOf.page {offset : Nat} {page : QueuePage}
    (h : QueueOf lib reads input (staleBefore reads input (clock 0)) rows filtered)
    (hclock : input.staleOnly = true →
      staleBefore reads input (clock offset) = staleBefore reads input (clock 0))
    (hpage : queueAt lib reads clock input offset = .ok page) :
    ∃ paginator all, paginator.rows = rows ∧
      (all = true → rows.take (input.scanLimit.getD 2000) = rows) ∧
      Answered lib reads input (staleBefore reads input (clock offset)) (clock offset) offset paginator
        all filtered page := by
  obtain ⟨group, paginator, all, items, hpaginator, hitems, hall, hanswered⟩ := queueAt_ok hpage
  obtain ⟨group', paginator', hpaginator', hrows⟩ := h.queried
  rw [queuePaginator_stale hclock, hpaginator', Except.ok.injEq, Prod.mk.injEq] at hpaginator
  obtain ⟨-, rfl⟩ := hpaginator
  rw [hrows] at hitems hall
  rw [h.scanned, Except.ok.injEq] at hitems
  subst hitems
  exact ⟨paginator', all, hrows, hall, hanswered⟩

variable (clock) in
/-- A page shows its slice of the sorted items. -/
theorem QueueOf.serves {offset : Nat} {page : QueuePage}
    (h : QueueOf lib reads input (staleBefore reads input (clock 0)) rows filtered)
    (hclock : input.staleOnly = true →
      staleBefore reads input (clock offset) = staleBefore reads input (clock 0))
    (hpage : queueAt lib reads clock input offset = .ok page) :
    Serves QueuePage.shown QueuePage.nextOffset (input.limit.getD 50) (sortedItems input filtered)
      offset page := by
  obtain ⟨paginator, all, -, -, hanswered⟩ := h.page clock hclock hpage
  obtain ⟨limit, -, rfl, hitems, hnext⟩ := hanswered.limit
  constructor
  · have hzero : (sortedItems input filtered).map (QueueItem.at 0) = sortedItems input filtered := by
      rw [sortedItems, ← sort_at, h.at_zero]
    rw [QueuePage.shown, hitems, slice_map, at_at, ← slice_map]
    show slice _ ((sortedItems input filtered).map _) offset = _
    rw [hzero]
  · rw [hnext, next_map]
    rfl

theorem sortedItems_perm (input : QueueInput) (filtered : List QueueItem) :
    (sortedItems input filtered).Perm filtered :=
  sort_perm _ _ _ filtered

/-- **The pages fit together, when the names do.** -/
theorem QueueOf.consistent_iff {pages : List QueuePage}
    (h : QueueOf lib reads input (staleBefore reads input (clock 0)) rows filtered)
    (hclock : input.staleOnly = true → ∀ offset,
      staleBefore reads input (clock offset) = staleBefore reads input (clock 0))
    (hpages : Followed (queueAt lib reads clock input) QueuePage.nextOffset 0 pages) :
    ConsistentQueue input rows filtered pages ↔ NamesFit filtered := by
  have hperm := sortedItems_perm input filtered
  have hshown : pages.flatMap QueuePage.shown = sortedItems input filtered :=
    hpages.shown_eq fun offset page hpage => h.serves clock (fun hstale => hclock hstale offset) hpage
  have hpage : ∀ page ∈ pages, ∃ offset paginator all, paginator.rows = rows ∧
      (all = true → rows.take (input.scanLimit.getD 2000) = rows) ∧
      Answered lib reads input (staleBefore reads input (clock offset)) (clock offset) offset paginator
        all filtered page := by
    intro page hmem
    obtain ⟨offset, hcall⟩ := hpages.mem page hmem
    exact ⟨offset, h.page clock (fun hstale => hclock hstale offset) hcall⟩
  have hunassigned : ∀ page ∈ pages, page.aggregates.unassigned = filtered.countP showsUnassigned := by
    intro page hmem
    obtain ⟨offset, paginator, all, -, -, hanswered⟩ := hpage page hmem
    rw [hanswered.aggregates, incidentQueueAggregates, (foldl_counted _ _ _ _).unassigned,
      Nat.zero_add]
    exact hperm.countP_eq _
  have hfit : NamesFit filtered ↔
      filtered.countP showsUnassigned = filtered.countP withoutAssignee :=
    (countP_eq_iff showsUnassigned withoutAssignee filtered).symm
  rw [hfit]
  constructor
  · intro hconsistent
    obtain ⟨page, hmem⟩ := hpages.exists_mem
    rw [← hunassigned page hmem]
    exact hconsistent.unassigned page hmem
  · intro hcount
    refine ⟨?_, ?_, ?_, ?_, ?_, ?_, ?_⟩
    · rw [hshown]
      exact hperm
    · rw [hshown]
      exact sort_strict _ _ _ h.sorted_distinct
    · intro a ha b hb hab
      exact List.inj_on_of_nodup_map h.sorted_distinct ha hb (queueOrder_eq _ _ _ hab)
    · intro page hmem counts hcounts
      obtain ⟨offset, paginator, all, -, -, hanswered⟩ := hpage page hmem
      have hcounted := foldl_counted (sortedItems input filtered)
        (staleBefore reads input (clock offset)) input.slaAtRiskPercentage ⟨[], [], [], [], 0, 0, all⟩
      have haggregates : page.aggregates = (sortedItems input filtered).foldl _ _ :=
        hanswered.aggregates
      have hlength : (sortedItems input filtered).length = filtered.length := hperm.length_eq
      rw [← haggregates] at hcounted
      rw [List.mem_cons, List.mem_cons, List.mem_cons, List.mem_singleton] at hcounts
      rcases hcounts with rfl | rfl | rfl | rfl
      · rw [hcounted.byState, hlength]
        exact Nat.zero_add _
      · rw [hcounted.byPriority, hlength]
        exact Nat.zero_add _
      · rw [hcounted.byAssignee, hlength]
        exact Nat.zero_add _
      · rw [hcounted.bySlaRisk, hlength]
        exact Nat.zero_add _
    · intro page hmem
      rw [hunassigned page hmem]
      exact hcount
    · intro page hmem hcomplete
      obtain ⟨offset, paginator, all, hrows, hall, hanswered⟩ := hpage page hmem
      rw [hanswered.scanComplete] at hcomplete
      refine ⟨hall hcomplete, ?_⟩
      rw [hanswered.rowsScanned, hrows, hall hcomplete]
    · intro page hmem
      obtain ⟨offset, paginator, all, -, -, hanswered⟩ := hpage page hmem
      rw [hanswered.complete, hanswered.scanComplete, Bool.and_eq_true, Option.isNone_iff_eq_none]

theorem QueueOf.length_le {stale : String} (h : QueueOf lib reads input stale rows filtered) :
    (sortedItems input filtered).length ≤ input.scanLimit.getD 2000 := by
  obtain ⟨statuses, -, hitems⟩ := bind_eq_ok h.scanned
  cases hitems
  have hattach : ∀ (records : List CachedRecord) (statuses : StringMap TaskSlaStatus),
      (attachStatuses records statuses).length = records.length := by
    intro records
    induction records with
    | nil => exact fun _ => rfl
    | cons record records step =>
      intro statuses
      rw [attachStatuses, List.length_cons, List.length_cons, step]
  rw [(sortedItems_perm input _).length_eq]
  calc (itemsWith lib input 0 _ statuses).length
      ≤ (attachStatuses (openRecords lib 0 (rows.take (input.scanLimit.getD 2000))) statuses).length :=
        List.length_filter_le _ _
    _ ≤ (rows.take (input.scanLimit.getD 2000)).length := by
        rw [hattach, openRecords, List.length_map]
        exact List.length_filter_le _ _
    _ ≤ input.scanLimit.getD 2000 := by
        rw [List.length_take]
        exact Nat.min_le_left _ _

/-- A request that is answered has a limit, and scans something. -/
theorem queueAt_bounds {first : QueuePage} (h : queueAt lib reads clock input 0 = .ok first) :
    1 ≤ input.limit.getD 50 ∧ 0 < input.scanLimit.getD 2000 := by
  obtain ⟨validated, hvalidated, -⟩ := bind_eq_ok h
  have haccepted := validateIncidentQueueInput_accepted hvalidated
  have hlimit : validated.limit = input.limit.getD 50 := haccepted.limit
  have hscan : validated.scanLimit = input.scanLimit.getD 2000 := haccepted.scanLimit
  have hpos := haccepted.limit_pos
  have hlt := haccepted.offset_lt
  omega

/-- **When the pages of a queue are consistent.**  While ServiceNow answers the same, with no `sys_id`
twice, and the calls look for the incidents that are stale before one moment, the pages end, and they
are consistent exactly if as many items with an assignee show as unassigned as there are items
without one that show a name. -/
theorem queue_pages_consistent_iff (lib : CoreLib) (reads : QueueReads) (clock : Nat → DateTime)
    (input : QueueInput) (first : QueuePage) (hfirst : queueAt lib reads clock input 0 = .ok first)
    (hdistinct : ∀ conditions paginator, reads.paginate conditions = .ok paginator →
      (paginator.rows.map Record.sysId).Nodup)
    (hclock : input.staleOnly = true → ∀ offset,
      staleBefore reads input (clock offset) = staleBefore reads input (clock 0)) :
    ∃ rows filtered, QueueOf lib reads input (staleBefore reads input (clock 0)) rows filtered ∧
      (∃ pages, Followed (queueAt lib reads clock input) QueuePage.nextOffset 0 pages) ∧
      ∀ pages, Followed (queueAt lib reads clock input) QueuePage.nextOffset 0 pages →
        (ConsistentQueue input rows filtered pages ↔ NamesFit filtered) := by
  obtain ⟨group, paginator, -, filtered, hpaginator, hfiltered, -, -⟩ := queueAt_ok hfirst
  have hqueue : QueueOf lib reads input (staleBefore reads input (clock 0)) paginator.rows
      filtered := by
    refine ⟨⟨group, paginator, hpaginator, rfl⟩, hfiltered, ?_⟩
    obtain ⟨_, -, h⟩ := bind_eq_ok hpaginator
    obtain ⟨_, -, h⟩ := bind_eq_ok h
    obtain ⟨_, -, h⟩ := bind_eq_ok h
    obtain ⟨_, -, h⟩ := bind_eq_ok h
    obtain ⟨found, hfound, h⟩ := bind_eq_ok h
    rw [mapError_eq_ok_iff] at hfound
    cases h
    exact hdistinct _ _ hfound
  refine ⟨paginator.rows, filtered, hqueue, ?_, fun pages hpages =>
    hqueue.consistent_iff (fun h offset => hclock h offset) hpages⟩
  have hbound := hqueue.length_le
  obtain ⟨hlimit, hpos⟩ := queueAt_bounds hfirst
  have hcall : ∀ offset, offset = 0 ∨ offset < (sortedItems input filtered).length →
      ∃ page, queueAt lib reads clock input offset = .ok page ∧
        Serves QueuePage.shown QueuePage.nextOffset (input.limit.getD 50) (sortedItems input filtered)
          offset page := by
    intro offset hoffset
    have hlt : offset < input.scanLimit.getD 2000 := by
      rcases hoffset with rfl | hoffset
      · exact hpos
      · exact hoffset.trans_le hbound
    obtain ⟨page, hpage⟩ := queueAt_exists hfirst (fun h => hclock h offset) hlt
    exact ⟨page, hpage, hqueue.serves clock (fun h => hclock h offset) hpage⟩
  exact exists_followed hlimit hcall

end Pages

/-! ## Queues of few incidents -/

/-- An incident with an assignee. -/
def queueRow (sysId assignedTo display : String) : Record where
  sysId := sysId
  table := "incident"
  fields := [("number", ⟨some (.string sysId), none⟩), ("state", ⟨some (.string "1"), some "New"⟩),
    ("assigned_to", ⟨some (.string assignedTo), some display⟩)]

/-- All rows in one page. -/
def onePage (rows : List Record) : Paginator where
  pages := [⟨rows, true⟩]
  failure := none
  done_last := by
    intro earlier page later h _
    have hlength := congrArg List.length h
    rw [List.length_append, List.length_cons, List.length_cons, List.length_nil] at hlength
    exact ⟨List.eq_nil_of_length_eq_zero (by omega), rfl⟩

/-- ServiceNow with one group, and rows for each query. -/
def fewIncidents (rows : List QueueCondition → List Record) : QueueReads where
  groups := .ok [⟨"g1", "Network"⟩]
  choices := .ok []
  currentUserSysId := .ok "u1"
  resolveUserSysId _ := .ok "u1"
  paginate conditions := .ok (onePage (rows conditions))
  taskSlaStatuses _ := .ok []
  incidentDepartures _ _ := .ok []
  format t := if t < 0 then "2026-02-08 00:00:00" else "2026-02-09 00:00:00"

/-- A request for the queue. -/
def networkQueue : QueueInput where
  group := "Network"

/-- The item of a row. -/
def queueItemOf (row : Record) : QueueItem :=
  ⟨incidentFromServicenow incidentLib 0 row,
    unavailableIncidentSla (incidentFromServicenow incidentLib 0 row)⟩

/-- A queue of one incident that is assigned to a user. -/
theorem assigned_queue_consistent :
    ∃ rows filtered, QueueOf incidentLib (fewIncidents fun _ => [queueRow "1" "u7" "Ann"])
        networkQueue "2026-02-08 00:00:00" rows filtered ∧
      (∃ pages, Followed (queueAt incidentLib (fewIncidents fun _ => [queueRow "1" "u7" "Ann"])
        (fun _ => 0) networkQueue) QueuePage.nextOffset 0 pages) ∧
      ∀ pages, Followed (queueAt incidentLib (fewIncidents fun _ => [queueRow "1" "u7" "Ann"])
        (fun _ => 0) networkQueue) QueuePage.nextOffset 0 pages →
        (ConsistentQueue networkQueue rows filtered pages ↔ NamesFit filtered) := by
  have hfirst : ∃ page, queueAt incidentLib (fewIncidents fun _ => [queueRow "1" "u7" "Ann"])
      (fun _ => 0) networkQueue 0 = .ok page := ⟨_, rfl⟩
  obtain ⟨page, hpage⟩ := hfirst
  refine queue_pages_consistent_iff incidentLib (fewIncidents fun _ => [queueRow "1" "u7" "Ann"])
    (fun _ => 0) networkQueue page hpage (fun conditions paginator hpaginator => ?_)
    (fun h => nomatch h)
  cases hpaginator
  exact List.nodup_singleton _

/-- Items that are in order stay so. -/
theorem sortedItems_eq {input : QueueInput} {items : List QueueItem} (h : items.Pairwise fun a b =>
      (queueOrder input.sortBy input.sortDirection input.slaAtRiskPercentage a b).isLE = true) :
    sortedItems input items = items :=
  List.mergeSort_of_pairwise h

/-- A request for the stale incidents of a day, one on a page. -/
def staleQueue : QueueInput where
  group := "Network"
  staleOnly := true
  limit := some 1

/-- Two incidents that are stale before the first day, and one more before the second. -/
def agingRows (conditions : List QueueCondition) : List Record :=
  if conditions.contains (.is (.lessThan "sys_updated_on" "2026-02-08 00:00:00")) then
    [queueRow "b" "u7" "Ann", queueRow "c" "u7" "Ann"]
  else [queueRow "a" "u7" "Ann", queueRow "b" "u7" "Ann", queueRow "c" "u7" "Ann"]

/-- The first call is made a day before the others. -/
def passingClock (offset : Nat) : DateTime := if offset = 0 then 0 else durationSeconds 172800

/-- The page at an offset, of the items that the call at that time finds. -/
theorem agingQueue_page {offset : Nat} {stale : String} {rows : List Record}
    {filtered : List QueueItem} {page : QueuePage}
    (hqueue : QueueOf incidentLib (fewIncidents agingRows) staleQueue stale rows filtered)
    (hstale : staleBefore (fewIncidents agingRows) staleQueue (passingClock offset) = stale)
    (hsorted : filtered.Pairwise fun a b =>
      (queueOrder .priority .asc 80 a b).isLE = true)
    (hpage : queueAt incidentLib (fewIncidents agingRows) passingClock staleQueue offset = .ok page) :
    page.shown = slice 1 filtered offset ∧ page.nextOffset = next 1 filtered offset := by
  subst hstale
  have hserves := hqueue.serves (fun _ => passingClock offset) (fun _ => rfl) hpage
  rw [sortedItems_eq hsorted] at hserves
  exact hserves

/-- An incident whose assignee has a blank name is counted as unassigned; and when a day passes
between the calls for the stale incidents, one of them is listed twice and another one not at all. -/
theorem queue_pages_inconsistent :
    (∃ page, queueAt incidentLib (fewIncidents fun _ => [queueRow "1" "u7" " "]) (fun _ => 0)
        networkQueue 0 = .ok page ∧ page.aggregates.unassigned = 1 ∧
      page.shown = [queueItemOf (queueRow "1" "u7" " ")] ∧
      withoutAssignee (queueItemOf (queueRow "1" "u7" " ")) = false) ∧
    ∃ pages, Followed (queueAt incidentLib (fewIncidents agingRows) passingClock staleQueue)
        QueuePage.nextOffset 0 pages ∧
      (pages.flatMap QueuePage.shown).map (·.record.sysId) = ["b", "b", "c"] := by
  constructor
  · have hcall : ∃ page, queueAt incidentLib (fewIncidents fun _ => [queueRow "1" "u7" " "])
        (fun _ => 0) networkQueue 0 = .ok page := ⟨_, rfl⟩
    obtain ⟨page, hpage⟩ := hcall
    have hqueue : QueueOf incidentLib (fewIncidents fun _ => [queueRow "1" "u7" " "]) networkQueue
        "2026-02-08 00:00:00" [queueRow "1" "u7" " "] [queueItemOf (queueRow "1" "u7" " ")] :=
      ⟨⟨_, _, rfl, rfl⟩, rfl, List.nodup_singleton _⟩
    have hsorted : sortedItems networkQueue [queueItemOf (queueRow "1" "u7" " ")] =
        [queueItemOf (queueRow "1" "u7" " ")] := sortedItems_eq (List.pairwise_singleton _ _)
    obtain ⟨hshown, -⟩ := hqueue.serves (fun _ => 0) (fun h => nomatch h) hpage
    obtain ⟨paginator, all, -, -, hanswered⟩ := hqueue.page (fun _ => 0) (fun h => nomatch h) hpage
    rw [hsorted] at hshown
    refine ⟨page, hpage, ?_, hshown, by decide⟩
    have haggregates := hanswered.aggregates
    rw [← sortedItems, hsorted] at haggregates
    rw [haggregates]
    rfl
  · have hearly : QueueOf incidentLib (fewIncidents agingRows) staleQueue "2026-02-08 00:00:00"
        [queueRow "b" "u7" "Ann", queueRow "c" "u7" "Ann"]
        [queueItemOf (queueRow "b" "u7" "Ann"), queueItemOf (queueRow "c" "u7" "Ann")] :=
      ⟨⟨_, _, rfl, rfl⟩, rfl, by decide⟩
    have hlate : QueueOf incidentLib (fewIncidents agingRows) staleQueue "2026-02-09 00:00:00"
        [queueRow "a" "u7" "Ann", queueRow "b" "u7" "Ann", queueRow "c" "u7" "Ann"]
        [queueItemOf (queueRow "a" "u7" "Ann"), queueItemOf (queueRow "b" "u7" "Ann"),
          queueItemOf (queueRow "c" "u7" "Ann")] :=
      ⟨⟨_, _, rfl, rfl⟩, rfl, by decide⟩
    have hcall : (∃ page, queueAt incidentLib (fewIncidents agingRows) passingClock staleQueue 0 =
          .ok page) ∧
        (∃ page, queueAt incidentLib (fewIncidents agingRows) passingClock staleQueue 1 = .ok page) ∧
        ∃ page, queueAt incidentLib (fewIncidents agingRows) passingClock staleQueue 2 = .ok page :=
      ⟨⟨_, rfl⟩, ⟨_, rfl⟩, ⟨_, rfl⟩⟩
    obtain ⟨⟨first, hfirst⟩, ⟨second, hsecond⟩, ⟨third, hthird⟩⟩ := hcall
    obtain ⟨hshown, hnext⟩ := agingQueue_page hearly rfl (by decide) hfirst
    obtain ⟨hshown', hnext'⟩ := agingQueue_page hlate rfl (by decide) hsecond
    obtain ⟨hshown'', hnext''⟩ := agingQueue_page hlate rfl (by decide) hthird
    refine ⟨[first, second, third], .more hfirst hnext
        (.more hsecond hnext' (.last hthird hnext'')), ?_⟩
    rw [List.flatMap_cons, List.flatMap_cons, List.flatMap_singleton, hshown, hshown', hshown'']
    rfl

end SnowAgent.Core
