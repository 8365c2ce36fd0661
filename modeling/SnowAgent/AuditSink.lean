import Mathlib.Data.List.Sort
import Mathlib.Data.Prod.Lex
import SnowAgent.AuditChain
import SnowAgent.Runs

/-! # The audit sink

The table of audit rows, the two operations that change it and the verification
of a range.  Rows are read in the order of timestamp text and audit id, which is
also where `append` looks for the hash to link to: the chain follows the sort
order, not the order of the appends.
-/
namespace SnowAgent

open HashChain

/-! ## Rows -/

/-- One row of `mcp_audit_events`; `event` is what `event_json` reads back as. -/
structure AuditRow where
  auditId : String
  timestamp : String
  prevHash : String
  rowHash : String
  event : AuditEvent
deriving DecidableEq

/-- What the rows are ordered by. -/
def AuditRow.key (r : AuditRow) : String ×ₗ String := toLex (r.timestamp, r.auditId)

/-- `ORDER BY timestamp ASC, audit_id ASC`. -/
def ordered (rows : List AuditRow) : List AuditRow := rows.insertionSort (fun a b => a.key ≤ b.key)

/-- The table: its primary key is the audit id. -/
structure SqliteAuditSink where
  rows : List AuditRow
  primaryKey : (rows.map AuditRow.auditId).Nodup

namespace SqliteAuditSink

/-- A new sink. -/
def empty : SqliteAuditSink := ⟨[], List.nodup_nil⟩

/-- The hash of the row that sorts last. -/
def lastHashOf (rows : List AuditRow) : String :=
  ((ordered rows).getLast?.map AuditRow.rowHash).getD genesis

/-- `last_hash`. -/
def lastHash (sink : SqliteAuditSink) : String := lastHashOf sink.rows

end SqliteAuditSink

variable (lib : Crates)

/-- The row an event is inserted as. -/
def AuditRow.ofEvent (event : AuditEvent) : AuditRow where
  auditId := event.auditId
  timestamp := lib.rfc3339 event.timestamp
  prevHash := event.prevHash
  rowHash := event.rowHash
  event := event.reread

theorem AuditRow.ofEvent_auditId (event : AuditEvent) :
    (AuditRow.ofEvent lib event).auditId = event.auditId := rfl

namespace SqliteAuditSink

/-! ## The operations -/

/-- The event `append` writes: an instant in the epoch's first second is replaced by the
clock, and the event is linked to the last hash. -/
def appendedEvent (now : DateTime) (event : AuditEvent) (sink : SqliteAuditSink) : AuditEvent :=
  let event := if timestampSeconds event.timestamp = 0 then { event with timestamp := now } else event
  event.stamp lib sink.lastHash

/-- `append`; nothing when the insert breaks the primary key. -/
def append (now : DateTime) (event : AuditEvent) (sink : SqliteAuditSink) :
    Option (SqliteAuditSink × AuditEvent) :=
  let event := appendedEvent lib now event sink
  if h : event.auditId ∈ sink.rows.map AuditRow.auditId then none
  else some
    (⟨sink.rows ++ [AuditRow.ofEvent lib event], by
        rw [List.map_append]
        exact List.Nodup.append sink.primaryKey (List.nodup_singleton _)
          (by simpa [AuditRow.ofEvent] using h)⟩,
     event)

/-- `UPDATE ... WHERE audit_id = ?4` of the rebuild. -/
def updateRow (event : AuditEvent) (rows : List AuditRow) : List AuditRow :=
  rows.map fun row =>
    if row.auditId = event.auditId then
      { row with prevHash := event.prevHash, rowHash := event.rowHash, event := event.reread }
    else row

/-- The loop of `enforce_retention` over the retained events. -/
def rebuild (previous : String) : List AuditEvent → List AuditRow → List AuditRow
  | [], rows => rows
  | event :: events, rows =>
    let event := event.stamp lib previous
    rebuild event.rowHash events (updateRow event rows)

theorem updateRow_auditId (event : AuditEvent) (rows : List AuditRow) :
    (updateRow event rows).map AuditRow.auditId = rows.map AuditRow.auditId := by
  rw [updateRow, List.map_map]
  refine List.map_congr_left fun row _ => ?_
  simp only [Function.comp]
  split <;> rfl

theorem rebuild_auditId (previous : String) (events : List AuditEvent) (rows : List AuditRow) :
    (rebuild lib previous events rows).map AuditRow.auditId = rows.map AuditRow.auditId := by
  induction events generalizing previous rows with
  | nil => rfl
  | cons event events ih => rw [rebuild, ih, updateRow_auditId]

/-- The rows `DELETE ... WHERE timestamp < ?1` leaves. -/
def retained (cutoff : String) (rows : List AuditRow) : List AuditRow :=
  rows.filter fun row => ¬ row.timestamp < cutoff

/-- `enforce_retention`, with the number of deleted rows.  The chain of the retained rows
is rebuilt only when a row was deleted. -/
def enforceRetention (now : DateTime) (retentionDays : UInt32) (sink : SqliteAuditSink) :
    SqliteAuditSink × Nat :=
  let cutoff := lib.rfc3339 (now - durationSeconds (86400 * retentionDays.toNat))
  let kept := retained cutoff sink.rows
  let deleted := sink.rows.length - kept.length
  if deleted = 0 then (sink, 0)
  else
    (⟨rebuild lib genesis ((ordered kept).map AuditRow.event) kept, by
        rw [rebuild_auditId]
        exact sink.primaryKey.sublist (List.filter_sublist.map _)⟩,
     deleted)

/-! ## Verification -/

end SqliteAuditSink

structure AuditChainRange where
  fromAuditId : Option String
  toAuditId : Option String

/-- The loop of `list_in_range` over the ordered events. -/
def collectRange (range : AuditChainRange) (included : Bool) : List AuditEvent → List AuditEvent
  | [] => []
  | event :: events =>
    let included := included || range.fromAuditId = some event.auditId
    if included then
      if range.toAuditId = some event.auditId then [event]
      else event :: collectRange range included events
    else collectRange range included events

namespace SqliteAuditSink

/-- `list_in_range`. -/
def listInRange (range : AuditChainRange) (sink : SqliteAuditSink) : List AuditEvent :=
  collectRange range range.fromAuditId.isNone ((ordered sink.rows).map AuditRow.event)

/-- `verify_chain`: the breaks of a range, at most one. -/
def verifyChain (range : AuditChainRange) (sink : SqliteAuditSink) : List AuditChainBreak :=
  match verifyChainRange lib (sink.listInRange range) with
  | .ok () => []
  | .error chainBreak => [chainBreak]

theorem verifyChain_eq_nil_iff (range : AuditChainRange) (sink : SqliteAuditSink) :
    sink.verifyChain lib range = [] ↔
      Linked (eventHash lib) AuditEvent.rowHash genesis (sink.listInRange range) := by
  rw [← verifyFrom_ok_iff, verifyChain, verifyChainRange]
  cases verifyFrom lib genesis (sink.listInRange range) with
  | ok _ => simp
  | error b => simp

/-- The range of all rows. -/
def fullRange : AuditChainRange := ⟨none, none⟩

theorem listInRange_full (sink : SqliteAuditSink) :
    sink.listInRange fullRange = (ordered sink.rows).map AuditRow.event := by
  rw [listInRange]
  generalize (ordered sink.rows).map AuditRow.event = events
  induction events with
  | nil => rfl
  | cons event events ih =>
    have hcollect : collectRange fullRange true (event :: events) =
        event :: collectRange fullRange true events := by simp [collectRange, fullRange]
    exact hcollect.trans (congrArg (event :: ·) ih)

/-! ## The order of the rows -/

variable {rows : List AuditRow}

theorem mem_ordered {row : AuditRow} : row ∈ ordered rows ↔ row ∈ rows := List.mem_insertionSort _

/-- Reading in order meets the keys in strictly increasing order. -/
theorem ordered_strict (hkey : (rows.map AuditRow.auditId).Nodup) :
    (ordered rows).Pairwise (fun a b => a.key < b.key) := by
  have hsorted : (ordered rows).Pairwise (fun a b => a.key ≤ b.key) :=
    List.pairwise_insertionSort _ _
  have hnodup : ((ordered rows).map AuditRow.auditId).Nodup :=
    ((List.perm_insertionSort _ rows).map _).nodup_iff.mpr hkey
  refine (hsorted.and (List.pairwise_map.mp hnodup)).imp fun h => ?_
  refine lt_of_le_of_ne h.1 fun hkeys => h.2 ?_
  exact congrArg (fun k => (ofLex k).2) hkeys

/-- A list in order is how its rows are read. -/
theorem ordered_eq {rows sorted : List AuditRow} (hperm : sorted.Perm rows)
    (hsorted : sorted.Pairwise (fun a b => a.key < b.key)) : ordered rows = sorted := by
  have hnodup : (sorted.map AuditRow.key).Nodup :=
    List.pairwise_map.mpr (hsorted.imp fun h => ne_of_lt h)
  have horder : (ordered rows).Perm sorted := (List.perm_insertionSort _ rows).trans hperm.symm
  refine horder.eq_of_pairwise ?_ (List.pairwise_insertionSort _ _) (hsorted.imp le_of_lt)
  intro a b ha hb hab hba
  exact List.inj_on_of_nodup_map hnodup (horder.mem_iff.mp ha) hb (le_antisymm hab hba)

/-- A row that sorts after all others is read last. -/
theorem ordered_append {row : AuditRow} (hkey : (rows.map AuditRow.auditId).Nodup)
    (hlast : ∀ r ∈ rows, r.key < row.key) :
    ordered (rows ++ [row]) = ordered rows ++ [row] := by
  refine ordered_eq ((List.perm_insertionSort _ rows).append_right [row]) ?_
  refine List.pairwise_append.mpr ⟨ordered_strict hkey, List.pairwise_singleton _ _, ?_⟩
  intro a ha b hb
  rw [List.mem_singleton.mp hb]
  exact hlast a (mem_ordered.mp ha)

/-! ## Intact sinks -/

/-- The hash a row should carry after `prev`. -/
def rowLink (prev : String) (row : AuditRow) : String := eventHash lib prev row.event

/-- A row's columns are those of the event in it. -/
structure Sound (row : AuditRow) : Prop where
  auditId : row.auditId = row.event.auditId
  rowHash : row.rowHash = row.event.rowHash

/-- What a sink keeps: its rows are sound, and in reading order they form a chain. -/
structure Valid (sink : SqliteAuditSink) : Prop where
  sound : ∀ row ∈ sink.rows, Sound row
  linked : Linked (rowLink lib) AuditRow.rowHash genesis (ordered sink.rows)

variable {lib}

/-- A valid sink verifies over its full range. -/
theorem Valid.verifyChain {sink : SqliteAuditSink} (h : Valid lib sink) :
    sink.verifyChain lib fullRange = [] := by
  rw [verifyChain_eq_nil_iff, listInRange_full]
  have hkept : ∀ row ∈ ordered sink.rows, row.rowHash = row.event.rowHash :=
    fun row hrow => (h.sound row (mem_ordered.mp hrow)).rowHash
  exact (linked_map (eventHash lib) AuditEvent.rowHash AuditRow.event _ genesis hkept).mpr h.linked

theorem lastHashOf_eq (rows : List AuditRow) :
    lastHashOf rows = head AuditRow.rowHash genesis (ordered rows) := (head_eq ..).symm

theorem valid_empty : Valid lib empty := ⟨by simp [empty], trivial⟩

/-- The row a successful append inserts links to the last hash. -/
theorem rowLink_appended (now : DateTime) (event : AuditEvent) (sink : SqliteAuditSink) :
    (AuditRow.ofEvent lib (appendedEvent lib now event sink)).rowHash =
      rowLink lib sink.lastHash (AuditRow.ofEvent lib (appendedEvent lib now event sink)) := by
  rw [rowLink, AuditRow.ofEvent, eventHash_reread]
  exact AuditEvent.stamp_rowHash ..

/-- What a successful append does. -/
theorem append_cases {now : DateTime} {event written : AuditEvent} {sink sink' : SqliteAuditSink}
    (h : sink.append lib now event = some (sink', written)) :
    written = appendedEvent lib now event sink ∧
      sink'.rows = sink.rows ++ [AuditRow.ofEvent lib written] := by
  simp only [SqliteAuditSink.append] at h
  split at h
  · cases h
  · cases h
    exact ⟨rfl, rfl⟩

/-- An append whose row sorts last keeps the sink valid. -/
theorem Valid.append {now : DateTime} {event written : AuditEvent} {sink sink' : SqliteAuditSink}
    (hvalid : Valid lib sink) (h : sink.append lib now event = some (sink', written))
    (hlast : ∀ r ∈ sink.rows, r.key < (AuditRow.ofEvent lib written).key) : Valid lib sink' := by
  obtain ⟨rfl, hrows⟩ := append_cases h
  refine ⟨?_, ?_⟩
  · intro row hrow
    rw [hrows] at hrow
    rcases List.mem_append.mp hrow with hrow | hrow
    · exact hvalid.sound row hrow
    · rw [List.mem_singleton.mp hrow]
      exact ⟨rfl, rfl⟩
  · rw [hrows, ordered_append sink.primaryKey hlast]
    refine hvalid.linked.concat (rowLink lib) AuditRow.rowHash ?_
    rw [← lastHashOf_eq]
    exact rowLink_appended now event sink

/-! ## Retention rebuilds the chain -/

theorem ordered_updateRow (event : AuditEvent) (rows : List AuditRow) :
    ordered (updateRow event rows) = updateRow event (ordered rows) := by
  refine (List.map_insertionSort _ _ _ rows fun a _ b _ => ?_).symm
  have hkey : ∀ row : AuditRow, (if row.auditId = event.auditId then
      { row with prevHash := event.prevHash, rowHash := event.rowHash, event := event.reread }
    else row).key = row.key := fun row => by split <;> rfl
  rw [hkey, hkey]

theorem ordered_rebuild (previous : String) (events : List AuditEvent) (rows : List AuditRow) :
    ordered (rebuild lib previous events rows) = rebuild lib previous events (ordered rows) := by
  induction events generalizing previous rows with
  | nil => rfl
  | cons event events ih => rw [rebuild, ih, ordered_updateRow, rebuild]

variable (lib) in
/-- A row with its event linked to `prev`. -/
def relinkRow (prev : String) (row : AuditRow) : AuditRow :=
  let event := row.event.stamp lib prev
  { row with prevHash := event.prevHash, rowHash := event.rowHash, event := event.reread }

theorem updateRow_other {event : AuditEvent}
    (h : event.auditId ∉ rows.map AuditRow.auditId) : updateRow event rows = rows := by
  rw [updateRow]
  refine (List.map_congr_left fun row hrow => ?_).trans (List.map_id rows)
  have hne : row.auditId ≠ event.auditId := fun heq => h (heq ▸ List.mem_map_of_mem hrow)
  exact if_neg hne

/-- One `UPDATE` of the rebuild changes the event's own row and no other. -/
theorem updateRow_own {before after : List AuditRow} {row : AuditRow} (hsound : Sound row)
    (hkey : ((before ++ row :: after).map AuditRow.auditId).Nodup) (prev : String) :
    updateRow (row.event.stamp lib prev) (before ++ row :: after) =
      before ++ relinkRow lib prev row :: after := by
  have hid : (row.event.stamp lib prev).auditId = row.auditId := hsound.auditId.symm
  rw [List.map_append, List.map_cons, List.nodup_middle, List.nodup_cons] at hkey
  have hbefore : (row.event.stamp lib prev).auditId ∉ before.map AuditRow.auditId :=
    fun h => hkey.1 (List.mem_append_left _ (hid ▸ h))
  have hafter : (row.event.stamp lib prev).auditId ∉ after.map AuditRow.auditId :=
    fun h => hkey.1 (List.mem_append_right _ (hid ▸ h))
  have hown : updateRow (row.event.stamp lib prev) (row :: after) =
      relinkRow lib prev row :: updateRow (row.event.stamp lib prev) after := by
    rw [updateRow, List.map_cons, if_pos hid.symm]
    rfl
  calc updateRow (row.event.stamp lib prev) (before ++ row :: after)
      = updateRow (row.event.stamp lib prev) before ++
          updateRow (row.event.stamp lib prev) (row :: after) := List.map_append ..
    _ = before ++ relinkRow lib prev row :: after := by
      rw [hown, updateRow_other hbefore, updateRow_other hafter]

/-- The loop of the rebuild relinks the rows that are still ahead of it. -/
theorem rebuild_eq : ∀ (prev : String) (before rows : List AuditRow),
    (∀ row ∈ rows, Sound row) → ((before ++ rows).map AuditRow.auditId).Nodup →
    rebuild lib prev (rows.map AuditRow.event) (before ++ rows) =
      before ++ relink AuditRow.rowHash (relinkRow lib) prev rows
  | _, before, [], _, _ => rfl
  | prev, before, row :: rows, hsound, hkey => by
    have hids : (((before ++ [relinkRow lib prev row]) ++ rows).map AuditRow.auditId).Nodup := by
      simpa [relinkRow] using hkey
    rw [List.map_cons, rebuild, updateRow_own (hsound row (List.mem_cons_self ..)) hkey,
      List.append_cons, rebuild_eq _ _ rows (fun r hr => hsound r (List.mem_cons_of_mem _ hr)) hids,
      List.append_assoc]
    rfl

theorem relinkRow_linked (prev : String) (row : AuditRow) :
    (relinkRow lib prev row).rowHash = rowLink lib prev (relinkRow lib prev row) := by
  rw [rowLink, relinkRow, eventHash_reread]
  exact AuditEvent.stamp_rowHash ..

theorem relink_sound {prev : String} (h : ∀ row ∈ rows, Sound row) :
    ∀ row ∈ relink AuditRow.rowHash (relinkRow lib) prev rows, Sound row := by
  induction rows generalizing prev with
  | nil => simp [relink]
  | cons row rows ih =>
    intro r hr
    rcases List.mem_cons.mp hr with rfl | hr
    · exact ⟨(h row (List.mem_cons_self ..)).auditId, rfl⟩
    · exact ih (fun r hr => h r (List.mem_cons_of_mem _ hr)) r hr

/-- The rebuild of some of a valid sink's rows, read in order, is their relinking. -/
theorem ordered_rebuild_eq (hkey : (rows.map AuditRow.auditId).Nodup)
    (hsound : ∀ row ∈ rows, Sound row) :
    ordered (rebuild lib genesis ((ordered rows).map AuditRow.event) rows) =
      relink AuditRow.rowHash (relinkRow lib) genesis (ordered rows) := by
  rw [ordered_rebuild]
  have hids : ((ordered rows).map AuditRow.auditId).Nodup :=
    ((List.perm_insertionSort _ rows).map _).nodup_iff.mpr hkey
  exact rebuild_eq genesis [] (ordered rows) (fun row hrow => hsound row (mem_ordered.mp hrow)) hids

/-- **Retention keeps the sink valid**, whatever it deletes. -/
theorem Valid.enforceRetention {sink : SqliteAuditSink} (hvalid : Valid lib sink)
    (now : DateTime) (retentionDays : UInt32) :
    Valid lib (sink.enforceRetention lib now retentionDays).1 := by
  simp only [SqliteAuditSink.enforceRetention]
  split
  · exact hvalid
  · have hsub : ∀ cutoff, (retained cutoff sink.rows).Sublist sink.rows :=
      fun cutoff => List.filter_sublist
    have hsound : ∀ cutoff, ∀ row ∈ retained cutoff sink.rows, Sound row :=
      fun cutoff row hrow => hvalid.sound row ((hsub cutoff).subset hrow)
    have hrows := fun cutoff => @ordered_rebuild_eq lib _
      (sink.primaryKey.sublist ((hsub cutoff).map _)) (hsound cutoff)
    refine ⟨fun row hrow => ?_, ?_⟩
    · have hmem := mem_ordered.mpr hrow
      rw [hrows] at hmem
      exact relink_sound (fun r hr => hsound _ r (mem_ordered.mp hr)) row hmem
    · show Linked (rowLink lib) AuditRow.rowHash genesis (ordered (rebuild lib genesis _ _))
      rw [hrows]
      exact relink_linked (rowLink lib) AuditRow.rowHash relinkRow_linked genesis _

end SqliteAuditSink

/-! ## Runs of the sink -/

open SqliteAuditSink

/-- The operations that change the sink, each with the clock it reads. -/
inductive SinkOp where
  | append (now : DateTime) (event : AuditEvent)
  | enforceRetention (now : DateTime) (retentionDays : UInt32)

/-- The sink after an operation; a refused append changes nothing. -/
def SinkOp.apply : SinkOp → SqliteAuditSink → SqliteAuditSink
  | .append now event, sink => ((sink.append lib now event).map Prod.fst).getD sink
  | .enforceRetention now retentionDays, sink => (sink.enforceRetention lib now retentionDays).1

/-- Whether an append finds every stored row sorting before the one it writes. -/
def AppendsLast (sink : SqliteAuditSink) : SinkOp → Prop
  | .append now event =>
    ∀ r ∈ sink.rows, r.key < (AuditRow.ofEvent lib (appendedEvent lib now event sink)).key
  | .enforceRetention _ _ => True

variable {lib}

/-- **The chain is intact after every step** of a run whose appends all sort last. -/
theorem verifyChain_run {ops : List SinkOp} {sink : SqliteAuditSink}
    (hrun : Runs.Run (SinkOp.apply lib) (AppendsLast lib) empty ops sink) :
    sink.verifyChain lib fullRange = [] := by
  suffices hvalid : Valid lib sink from hvalid.verifyChain
  refine hrun.invariant (I := fun _ s => Valid lib s) valid_empty fun ops sink op _ hvalid hop => ?_
  cases op with
  | enforceRetention now retentionDays => exact hvalid.enforceRetention now retentionDays
  | append now event =>
    rw [SinkOp.apply]
    cases happend : sink.append lib now event with
    | none => exact hvalid
    | some written =>
      obtain ⟨hwritten, _⟩ := append_cases happend
      exact hvalid.append happend (by rw [hwritten]; exact hop)

theorem appendedEvent_auditId (now : DateTime) (event : AuditEvent) (sink : SqliteAuditSink) :
    (appendedEvent lib now event sink).auditId = event.auditId := by
  simp only [appendedEvent, AuditEvent.stamp]
  split <;> rfl

/-- An append whose audit id is new inserts its row. -/
theorem SinkOp.append_rows {now : DateTime} {event : AuditEvent} {sink : SqliteAuditSink}
    (h : event.auditId ∉ sink.rows.map AuditRow.auditId) :
    (SinkOp.apply lib (.append now event) sink).rows =
      sink.rows ++ [AuditRow.ofEvent lib (appendedEvent lib now event sink)] := by
  rw [SinkOp.apply, SqliteAuditSink.append, dif_neg (by rw [appendedEvent_auditId]; exact h)]
  rfl

/-- The key an event is inserted under. -/
theorem appendedEvent_key (now : DateTime) (event : AuditEvent) (sink : SqliteAuditSink)
    (h : timestampSeconds event.timestamp ≠ 0) :
    (AuditRow.ofEvent lib (appendedEvent lib now event sink)).key =
      toLex (lib.rfc3339 event.timestamp, event.auditId) := by
  simp only [appendedEvent, if_neg h]
  rfl

/-- A story plan logged `second` seconds into 2026. -/
def loggedEvent (second : Nat) (auditId : String) : AuditEvent :=
  AuditEvent.newPlan (newYear + durationSeconds second) auditId "test" ⟨"u1", "Ada", "sub"⟩
    ⟨"u1", "Ada", "sub"⟩ ⟨none, none, "stdio"⟩ "story_plan_create"

/-- The row it is logged in. -/
def loggedRow (second : Nat) (auditId : String) (sink : SqliteAuditSink) : AuditRow :=
  AuditRow.ofEvent plainCrates (appendedEvent plainCrates newYear (loggedEvent second auditId) sink)

/-- The sink after logging it. -/
def logEvent (second : Nat) (auditId : String) (sink : SqliteAuditSink) : SqliteAuditSink :=
  SinkOp.apply plainCrates (.append newYear (loggedEvent second auditId)) sink

theorem logEvent_empty (second : Nat) (auditId : String) :
    (logEvent second auditId empty).rows = [loggedRow second auditId empty] :=
  SinkOp.append_rows (by simp [empty])

theorem loggedRow_auditId (second : Nat) (auditId : String) (sink : SqliteAuditSink) :
    (loggedRow second auditId sink).auditId = auditId := by
  rw [loggedRow, AuditRow.ofEvent_auditId, appendedEvent_auditId]
  rfl

theorem logEvent_second (first second : Nat) :
    (logEvent second "audit-2" (logEvent first "audit-1" empty)).rows =
      [loggedRow first "audit-1" empty,
       loggedRow second "audit-2" (logEvent first "audit-1" empty)] := by
  have hne : "audit-2" ≠ "audit-1" := by decide
  have hnew : "audit-2" ∉ (logEvent first "audit-1" empty).rows.map AuditRow.auditId := by
    rw [logEvent_empty, List.map_singleton, loggedRow_auditId, List.mem_singleton]
    exact hne
  have hrows := @SinkOp.append_rows plainCrates newYear (loggedEvent second "audit-2")
    (logEvent first "audit-1" empty) hnew
  rw [logEvent, hrows, logEvent_empty, List.singleton_append, loggedRow, loggedRow]

theorem loggedRow_key (second : Nat) (auditId : String) (sink : SqliteAuditSink)
    (h : timestampSeconds (loggedEvent second auditId).timestamp ≠ 0) :
    (loggedRow second auditId sink).key =
      toLex (plainCrates.rfc3339 (newYear + durationSeconds second), auditId) :=
  appendedEvent_key _ _ _ h

/-- Over two appends in the order of their timestamps, and a retention cut. -/
theorem verifyChain_run_two :
    (SinkOp.apply plainCrates (.enforceRetention newYear 30)
      (logEvent 2 "audit-2" (logEvent 1 "audit-1" empty))).verifyChain plainCrates fullRange =
        [] := by
  refine verifyChain_run (.next (.next (.next .start ?_) ?_) trivial)
  · simp [AppendsLast, empty]
  · intro r hr
    have hr' : r ∈ (logEvent 1 "audit-1" empty).rows := hr
    rw [logEvent_empty, List.mem_singleton] at hr'
    rw [hr', loggedRow_key _ _ _ (by decide), appendedEvent_key _ _ _ (by decide)]
    decide

/-- A clock that steps back by a second breaks the chain: the later append is read first,
but is linked to the row after it. -/
theorem verifyChain_run_clock_back :
    ¬ ∀ (lib : Crates) (ops : List SinkOp) (sink : SqliteAuditSink),
      Runs.Run (SinkOp.apply lib) (fun _ _ => True) empty ops sink →
        sink.verifyChain lib fullRange = [] := by
  intro hintact
  have hrun := hintact plainCrates _ (logEvent 1 "audit-2" (logEvent 2 "audit-1" empty))
    (.next (.next .start trivial) trivial)
  have hfirst := @rowLink_appended plainCrates newYear (loggedEvent 2 "audit-1") empty
  have hsecond := @rowLink_appended plainCrates newYear (loggedEvent 1 "audit-2")
    (logEvent 2 "audit-1" empty)
  have hkeys : (loggedRow 1 "audit-2" (logEvent 2 "audit-1" empty)).key <
      (loggedRow 2 "audit-1" empty).key := by
    rw [loggedRow_key _ _ _ (by decide), loggedRow_key _ _ _ (by decide)]
    decide
  have hlast : (logEvent 2 "audit-1" empty).lastHash = (loggedRow 2 "audit-1" empty).rowHash := by
    rw [lastHash, lastHashOf, logEvent_empty]
    rfl
  rw [hlast] at hsecond
  rw [verifyChain_eq_nil_iff, listInRange_full, logEvent_second,
    ordered_eq (List.Perm.swap ..) (by simpa using hkeys), List.map_cons, linked_cons] at hrun
  have hgenesis := (eventHash_inj plainDigest_injective plainCrates_serializeTime
    (hrun.1.symm.trans hsecond)).1
  exact eventHash_ne_genesis _ _ (hfirst.symm.trans hgenesis.symm)

end SnowAgent
