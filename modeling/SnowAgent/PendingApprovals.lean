import Mathlib.Data.Finset.Sort
import Mathlib.Data.Prod.Lex
import SnowAgent.FirstSeen
import SnowAgent.FixedWidth
import SnowAgent.PagedReads
import SnowAgent.UserCache

/-! # The pending approvals of a user

The approvals of the user and those of the user's groups are read page by page, the groups in batches,
and put together, each of them once.  The pages are ordered by a time that need not tell two rows
apart, and those of the groups not at all, so what is complete depends on what the requests are
answered with.
-/
namespace SnowAgent.Core

open Json Text PagedReads

/-! ## References -/

/-- `Reference` of an approver. -/
structure ApproverReference where
  sysId : String
  table : String
  displayName : String
deriving DecidableEq

/-- `ApprovalRoutedVia`. -/
inductive ApprovalRoutedVia where
  | direct
  | group
deriving DecidableEq

/-- `ApprovalRecord`, without its times. -/
structure ApprovalRecord where
  sysId : String
  number : String
  approver : ApproverReference
  target : RecordRef
  routedVia : ApprovalRoutedVia
  approverGroup : Option ApproverReference
deriving DecidableEq

/-- `ApprovalQuerySummary`. -/
structure ApprovalQuerySummary where
  directApprovalsFound : Nat
  groupApprovalsFound : Nat
  totalApprovals : Nat
  callerGroupMembershipsResolved : Nat
  groupQueryBatches : Nat
  deduplicationRemoved : Nat
deriving DecidableEq

/-- `ListMyApprovalsResponse`. -/
structure ListMyApprovalsResponse where
  records : List ApprovalRecord
  querySummary : ApprovalQuerySummary
deriving DecidableEq

/-- What is left open: how fields are read, what an approval is about, and its own number. -/
structure ApprovalLib where
  core : CoreLib
  /-- `target_reference`. -/
  targetReference : Record → RecordRef
  /-- The number of `SnowRecord::from_servicenow`. -/
  number : Record → String

section

variable (lib : ApprovalLib)

/-- `servicenow_reference_sys_id`. -/
def servicenowReferenceSysId (record : Record) (field : String) : Option String :=
  ((record.getRaw field).orElse fun _ => record.getStr lib.core field).bind fun value =>
    (normalizeRecordLookupSysId value).toOption

/-- `servicenow_record_text`. -/
def servicenowRecordText (record : Record) (field : String) : Option String :=
  nonBlank (((record.getDisplay field).orElse fun _ => record.getRaw field).orElse fun _ =>
    record.getStr lib.core field)

/-- `reference_from_record`. -/
def referenceFromRecord (record : Record) (field table : String) : Option ApproverReference :=
  ((record.getRaw field).orElse fun _ => record.getStr lib.core field).map fun sysId =>
    ⟨sysId, table, (record.getDisplay field).getD sysId⟩

/-- `approval_group_reference_from_membership`. -/
def approvalGroupReferenceFromMembership (record : Record) : Except String ApproverReference :=
  match servicenowReferenceSysId lib record "group" with
  | none => .error ("sys_user_grmember row " ++ record.sysId ++
      " is missing a readable group reference")
  | some sysId => .ok ⟨sysId, "sys_user_group", (firstNonEmptyStr [record.getDisplay "group",
      record.getStr lib.core "group.name", record.getRaw "group",
      record.getStr lib.core "group"]).getD sysId⟩

/-- `approval_group_reference_from_approval`. -/
def approvalGroupReferenceFromApproval (groups : List ApproverReference) (record : Record) :
    Except String ApproverReference :=
  match servicenowReferenceSysId lib record "approver" with
  | none => .error ("group approval row " ++ record.sysId ++
      " is missing a readable approver reference")
  | some sysId =>
    let display := servicenowRecordText lib record "approver"
    let group := (groups.find? fun group => group.sysId = sysId).getD
      ((referenceFromRecord lib record "approver" "sys_user_group").getD
        ⟨sysId, "sys_user_group", display.getD sysId⟩)
    let named := if trim group.displayName = "" ∨ group.displayName = group.sysId then
        display.getD group.displayName
      else group.displayName
    .ok ⟨group.sysId, "sys_user_group", named⟩

/-! ## Reading -/

/-- What the pages of the three queries are answered with, by the number of the page. -/
structure ApprovalReads where
  currentUserSysId : Except String String
  direct : String → Nat → Except String (List Record)
  memberships : String → Nat → Except String (List Record)
  groups : List String → Nat → Except String (List Record)
  persistRecords : List Record → Except String Unit

variable (reads : ApprovalReads)

/-- `pending_approval_rows_for_approver`. -/
def pendingApprovalRowsForApprover (user : String) : Except String (List Record) :=
  readPages 200 "direct approval query truncated after 50 pages" (reads.direct user) 50 0

/-- `pending_approval_rows_for_groups`. -/
def pendingApprovalRowsForGroups (groups : List String) : Except String (List Record) :=
  readPages 200 "group approval query truncated after 50 pages" (reads.groups groups) 50 0

/-- `BTreeMap::entry` with `or_insert`, of a group. -/
def insertGroup (group : ApproverReference) : List ApproverReference → List ApproverReference
  | [] => [group]
  | other :: rest =>
    if group.sysId < other.sysId then group :: other :: rest
    else if group.sysId = other.sysId then other :: rest
    else other :: insertGroup group rest

/-- The groups of some memberships. -/
def groupsOf : List Record → List ApproverReference → Except String (List ApproverReference)
  | [], groups => .ok groups
  | record :: records, groups =>
    match approvalGroupReferenceFromMembership lib record with
    | .error err => .error err
    | .ok group => groupsOf records (insertGroup group groups)

/-- `approval_group_memberships_for_user`. -/
def approvalGroupMembershipsForUser (user : String) : Except String (List ApproverReference) :=
  match readPages 500 "group membership lookup truncated after 50 pages" (reads.memberships user)
    50 0 with
  | .error err => .error err
  | .ok records => groupsOf lib records []

/-- `chunks`, of a list that is not longer than the fuel. -/
def chunks (size : Nat) : Nat → List String → List (List String)
  | 0, _ => []
  | _, [] => []
  | fuel + 1, item :: items =>
    (item :: items).take size :: chunks size fuel ((item :: items).drop size)

/-- The batches of the groups, whose identifiers are in order. -/
def groupBatches (groups : List ApproverReference) : List (List String) :=
  chunks 20 groups.length (groups.map ApproverReference.sysId)

/-- The approvals of all batches. -/
def batchRows : List (List String) → Except String (List Record)
  | [] => .ok []
  | batch :: batches =>
    match pendingApprovalRowsForGroups reads batch with
    | .error err => .error ("group approval query failure: " ++ err)
    | .ok rows => (batchRows batches).map (rows ++ ·)

/-! ## Putting together -/

/-- What is put together so far. -/
structure Routed where
  seen : List String
  records : List ApprovalRecord
  removed : Nat

/-- Takes in rows, each `sys_id` once. -/
def routeRows (route : Record → Except String ApprovalRecord) :
    List Record → Routed → Except String Routed
  | [], routed => .ok routed
  | row :: rows, routed =>
    if row.sysId ∈ routed.seen then
      routeRows route rows { routed with removed := routed.removed + 1 }
    else
      match route row with
      | .error err => .error err
      | .ok record => routeRows route rows
          ⟨row.sysId :: routed.seen, routed.records ++ [record], routed.removed⟩

/-- `from_servicenow_with_routing`. -/
def fromServicenowWithRouting (row : Record) (approver : ApproverReference)
    (routedVia : ApprovalRoutedVia) (approverGroup : Option ApproverReference) : ApprovalRecord :=
  ⟨row.sysId, lib.number row, approver, lib.targetReference row, routedVia, approverGroup⟩

/-- A row of the user's own. -/
def routeDirect (row : Record) : Except String ApprovalRecord :=
  match referenceFromRecord lib row "approver" "sys_user" with
  | none => .error ("direct approval row " ++ row.sysId ++
      " is missing a readable approver reference")
  | some approver => .ok (fromServicenowWithRouting lib row approver .direct none)

/-- A row of one of the user's groups. -/
def routeGroup (groups : List ApproverReference) (row : Record) : Except String ApprovalRecord :=
  (approvalGroupReferenceFromApproval lib groups row).map fun group =>
    fromServicenowWithRouting lib row group .group (some group)

/-- The order of the answer. -/
def approvalOrder (a b : ApprovalRecord) : Bool :=
  toLex (a.target.number, a.number) ≤ toLex (b.target.number, b.number)

/-- `materialize_my_approvals_response`. -/
def materializeMyApprovalsResponse (directRows groupRows : List Record)
    (memberships : List ApproverReference) (batches : Nat) :
    Except String ListMyApprovalsResponse := do
  let direct ← routeRows (routeDirect lib) directRows ⟨[], [], 0⟩
  let routed ← routeRows (routeGroup lib memberships) groupRows direct
  return {
    records := routed.records.mergeSort approvalOrder
    querySummary := {
      directApprovalsFound := directRows.length
      groupApprovalsFound := groupRows.length
      totalApprovals := routed.records.length
      callerGroupMembershipsResolved := memberships.length
      groupQueryBatches := batches
      deduplicationRemoved := routed.removed } }

/-- `my_approvals_with_routing_fresh`. -/
def myApprovalsWithRoutingFresh : Except String ListMyApprovalsResponse := do
  let user ← reads.currentUserSysId
  let directRows ← (pendingApprovalRowsForApprover reads user).mapError
    ("direct approval query failure: " ++ ·)
  let memberships ← (approvalGroupMembershipsForUser lib reads user).mapError
    ("group membership lookup failure: " ++ ·)
  let groupRows ← batchRows reads (groupBatches memberships)
  reads.persistRecords directRows
  materializeMyApprovalsResponse lib directRows groupRows memberships
    (groupBatches memberships).length

end


/-! ## What is put together -/

/-- What is said of an approval: that it is listed, for whom, and for which group. -/
def ApprovalRecord.mark (record : ApprovalRecord) : String × ApprovalRoutedVia × Option String :=
  (record.sysId, record.routedVia, record.approverGroup.map ApproverReference.sysId)

/-- **Taking in rows.**  Each row not seen before is listed with its mark, and every row is listed or
counted as removed. -/
theorem routeRows_ok {route : Record → Except String ApprovalRecord}
    {markOf : Record → String × ApprovalRoutedVia × Option String} (rows : List Record)
    (hroute : ∀ row ∈ rows, ∃ record, route row = .ok record ∧ record.mark = markOf row)
    (before : Routed) :
    ∃ after, routeRows route rows before = .ok after ∧
      after.records.map ApprovalRecord.mark = before.records.map ApprovalRecord.mark ++
        (FirstSeen.freshBy Record.sysId before.seen rows).map markOf ∧
      (∀ sysId, sysId ∈ after.seen ↔ sysId ∈ before.seen ∨ sysId ∈ rows.map Record.sysId) ∧
      after.removed + after.records.length =
        before.removed + before.records.length + rows.length := by
  induction rows generalizing before with
  | nil => exact ⟨before, rfl, by simp [FirstSeen.freshBy], by simp, rfl⟩
  | cons row rows ih =>
    have hrest := fun r hr => hroute r (.tail row hr)
    by_cases hseen : row.sysId ∈ before.seen
    · obtain ⟨after, hafter, hmarks, hids, hcount⟩ :=
        ih hrest { before with removed := before.removed + 1 }
      refine ⟨after, ?_, ?_, ?_, ?_⟩
      · rw [routeRows, if_pos hseen]
        exact hafter
      · rw [hmarks, FirstSeen.freshBy, if_pos hseen]
      · intro sysId
        rw [hids, List.map_cons, List.mem_cons]
        constructor
        · rintro (h | h)
          · exact .inl h
          · exact .inr (.inr h)
        · rintro (h | rfl | h)
          · exact .inl h
          · exact .inl hseen
          · exact .inr h
      · rw [List.length_cons]
        dsimp only at hcount
        omega
    · obtain ⟨record, hrecord, hmark⟩ := hroute row (.head rows)
      obtain ⟨after, hafter, hmarks, hids, hcount⟩ :=
        ih hrest ⟨row.sysId :: before.seen, before.records ++ [record], before.removed⟩
      refine ⟨after, ?_, ?_, ?_, ?_⟩
      · rw [routeRows, if_neg hseen, hrecord]
        exact hafter
      · rw [hmarks, FirstSeen.freshBy, if_neg hseen]
        simp [hmark]
      · intro sysId
        rw [hids, List.map_cons, List.mem_cons, List.mem_cons]
        tauto
      · rw [List.length_append] at hcount
        simp only [List.length_cons, List.length_nil] at hcount ⊢
        omega

/-! ## A site that does not change -/

section

variable (lib : ApprovalLib)

/-- Pending approvals and memberships, with what the code reads of them. -/
structure ApprovalSite where
  user : String
  pending : List Record
  memberships : List Record
  approver : Record → String
  group : Record → String
  once : (pending.map Record.sysId).Nodup
  approver_readable : ∀ row ∈ pending,
    servicenowReferenceSysId lib row "approver" = some (approver row)
  group_readable : ∀ row ∈ memberships, servicenowReferenceSysId lib row "group" = some (group row)

variable {lib} {batch : List String}

namespace ApprovalSite

variable (site : ApprovalSite lib)

/-- The groups of the user. -/
def groups : List String := site.memberships.map site.group

/-- The pending approvals of the user. -/
def own : List Record := site.pending.filter fun row => site.approver row = site.user

/-- The pending approvals of some groups. -/
def assigned (batch : List String) : List Record :=
  site.pending.filter fun row => site.approver row ∈ batch

/-- The approvals of the user's groups that are not the user's own. -/
def routed : List Record :=
  site.pending.filter fun row => site.approver row ≠ site.user ∧ site.approver row ∈ site.groups

/-- The mark of an approval of the user. -/
def directMark (row : Record) : String × ApprovalRoutedVia × Option String :=
  (row.sysId, .direct, none)

/-- The mark of an approval of a group. -/
def groupMark (row : Record) : String × ApprovalRoutedVia × Option String :=
  (row.sysId, .group, some (site.approver row))

/-- **The list is complete and exact**: each approval of the user and of the user's groups, once, and
marked with whom it is assigned to. -/
def Complete (response : ListMyApprovalsResponse) : Prop :=
  (response.records.map ApprovalRecord.mark).Perm
    (site.own.map directMark ++ site.routed.map site.groupMark)

variable {site}

theorem sysId_inj {a b : Record} (ha : a ∈ site.pending) (hb : b ∈ site.pending)
    (h : a.sysId = b.sysId) : a = b :=
  List.inj_on_of_nodup_map site.once ha hb h

theorem mem_own {row : Record} :
    row ∈ site.own ↔ row ∈ site.pending ∧ site.approver row = site.user := by
  rw [own, List.mem_filter, decide_eq_true_iff]

theorem mem_assigned {row : Record} :
    row ∈ site.assigned batch ↔ row ∈ site.pending ∧ site.approver row ∈ batch := by
  rw [assigned, List.mem_filter, decide_eq_true_iff]

theorem mem_routed {row : Record} : row ∈ site.routed ↔ row ∈ site.pending ∧
    site.approver row ≠ site.user ∧ site.approver row ∈ site.groups := by
  rw [routed, List.mem_filter, decide_eq_true_iff]

section

variable {response : ListMyApprovalsResponse} {directRows groupRows : List Record}
variable {seen : List String}

/-- **The list is complete if and only if everything is read**: every row of the user's own, and every
row of the user's groups that is not. -/
theorem complete_iff (hmarks : (response.records.map ApprovalRecord.mark).Perm
      ((FirstSeen.freshBy Record.sysId [] directRows).map directMark ++
        (FirstSeen.freshBy Record.sysId seen groupRows).map site.groupMark))
    (hseen : ∀ sysId, sysId ∈ seen ↔ sysId ∈ directRows.map Record.sysId)
    (hdirect : ∀ row ∈ directRows, row ∈ site.own)
    (hgroup : ∀ row ∈ groupRows, row ∈ site.pending ∧ site.approver row ∈ site.groups) :
    site.Complete response ↔
      (∀ row ∈ site.own, row ∈ directRows) ∧ ∀ row ∈ site.routed, row ∈ groupRows := by
  have hpending : ∀ row ∈ directRows, row ∈ site.pending := fun row h =>
    (mem_own.mp (hdirect row h)).1
  have hfirst : ∀ row, row ∈ FirstSeen.freshBy Record.sysId [] directRows ↔ row ∈ directRows := by
    intro row
    rw [FirstSeen.mem_freshBy Record.sysId fun a ha b hb =>
      sysId_inj (hpending a ha) (hpending b hb)]
    simp
  have hsecond : ∀ row, row ∈ FirstSeen.freshBy Record.sysId seen groupRows ↔
      row ∈ groupRows ∧ row ∉ directRows := by
    intro row
    rw [FirstSeen.mem_freshBy Record.sysId fun a ha b hb =>
      sysId_inj (hgroup a ha).1 (hgroup b hb).1]
    refine and_congr_right fun hrow => not_congr ((hseen _).trans ⟨fun h => ?_, fun h => ?_⟩)
    · obtain ⟨other, hother, hsame⟩ := List.mem_map.mp h
      rw [← sysId_inj (hpending other hother) (hgroup row hrow).1 hsame]
      exact hother
    · exact List.mem_map_of_mem h
  have hlisted : ∀ mark, mark ∈ response.records.map ApprovalRecord.mark ↔
      (∃ row ∈ directRows, directMark row = mark) ∨
        ∃ row ∈ groupRows, row ∉ directRows ∧ site.groupMark row = mark := by
    intro mark
    rw [hmarks.mem_iff, List.mem_append, List.mem_map, List.mem_map]
    refine or_congr (exists_congr fun row => and_congr_left' (hfirst row))
      (exists_congr fun row => ?_)
    rw [hsecond row, and_assoc]
  constructor
  · intro hcomplete
    refine ⟨fun row hrow => ?_, fun row hrow => ?_⟩
    · have hmem := hcomplete.mem_iff.mpr
        (List.mem_append_left (site.routed.map site.groupMark) (List.mem_map_of_mem hrow))
      rcases (hlisted _).mp hmem with ⟨other, hother, hmark⟩ | ⟨other, -, -, hmark⟩
      · rw [← sysId_inj (hpending other hother) (mem_own.mp hrow).1 (congrArg Prod.fst hmark)]
        exact hother
      · cases congrArg (fun mark => mark.2.1) hmark
    · have hmem := hcomplete.mem_iff.mpr
        (List.mem_append_right (site.own.map directMark) (List.mem_map_of_mem hrow))
      rcases (hlisted _).mp hmem with ⟨other, -, hmark⟩ | ⟨other, hother, -, hmark⟩
      · cases congrArg (fun mark => mark.2.1) hmark
      · rw [← sysId_inj (hgroup other hother).1 (mem_routed.mp hrow).1 (congrArg Prod.fst hmark)]
        exact hother
  · rintro ⟨hown, hrouted⟩
    have hnodupOf : ∀ {rows : List Record}
        {markOf : Record → String × ApprovalRoutedVia × Option String},
        (∀ row, (markOf row).1 = row.sysId) → (rows.map Record.sysId).Nodup →
        (rows.map markOf).Nodup := by
      intro rows markOf hkey hnodup
      refine List.Nodup.of_map Prod.fst ?_
      rw [List.map_map]
      exact (List.map_congr_left fun row _ => hkey row) ▸ hnodup
    have hapart : ∀ {a b : List Record}, List.Disjoint (a.map directMark) (b.map site.groupMark) := by
      intro a b mark hleft hright
      obtain ⟨row, -, rfl⟩ := List.mem_map.mp hleft
      obtain ⟨other, -, hmark⟩ := List.mem_map.mp hright
      cases congrArg (fun mark => mark.2.1) hmark
    refine (List.perm_ext_iff_of_nodup (hmarks.nodup_iff.mpr ?_) ?_).mpr fun mark => ?_
    · exact (hnodupOf (fun _ => rfl) (FirstSeen.freshBy_nodup _ _ _)).append
        (hnodupOf (fun _ => rfl) (FirstSeen.freshBy_nodup _ _ _)) hapart
    · exact (hnodupOf (fun _ => rfl) (site.once.sublist (List.filter_sublist.map _))).append
        (hnodupOf (fun _ => rfl) (site.once.sublist (List.filter_sublist.map _))) hapart
    · rw [hlisted, List.mem_append, List.mem_map, List.mem_map]
      constructor
      · rintro (⟨row, hrow, hmark⟩ | ⟨row, hrow, hnew, hmark⟩)
        · exact .inl ⟨row, hdirect row hrow, hmark⟩
        · obtain ⟨hpend, hmember⟩ := hgroup row hrow
          refine .inr ⟨row, mem_routed.mpr ⟨hpend, fun huser => ?_, hmember⟩, hmark⟩
          exact hnew (hown row (mem_own.mpr ⟨hpend, huser⟩))
      · rintro (⟨row, hrow, hmark⟩ | ⟨row, hrow, hmark⟩)
        · exact .inl ⟨row, hown row hrow, hmark⟩
        · refine .inr ⟨row, hrouted row hrow, fun hread => ?_, hmark⟩
          exact (mem_routed.mp hrow).2.1 (mem_own.mp (hdirect row hread)).2

end

end ApprovalSite

/-! ## Groups and batches -/

theorem mem_insertGroup (group : ApproverReference) (groups : List ApproverReference)
    (sysId : String) : sysId ∈ (insertGroup group groups).map ApproverReference.sysId ↔
      sysId = group.sysId ∨ sysId ∈ groups.map ApproverReference.sysId := by
  induction groups with
  | nil => simp [insertGroup]
  | cons other rest ih =>
    rw [insertGroup]
    split_ifs with hlt heq
    · simp
    · rw [heq]
      simp
    · rw [List.map_cons, List.mem_cons, ih, List.map_cons, List.mem_cons]
      exact or_left_comm

/-- The groups stay in order. -/
theorem insertGroup_sorted {group : ApproverReference} {groups : List ApproverReference}
    (h : (groups.map ApproverReference.sysId).Pairwise (· < ·)) :
    ((insertGroup group groups).map ApproverReference.sysId).Pairwise (· < ·) := by
  induction groups with
  | nil => simp [insertGroup]
  | cons other rest ih =>
    obtain ⟨hother, hrest⟩ := List.pairwise_cons.mp h
    rw [insertGroup]
    split_ifs with hlt heq
    · refine List.pairwise_cons.mpr ⟨fun sysId hmem => ?_, h⟩
      rcases List.mem_cons.mp hmem with rfl | hmem
      · exact hlt
      · exact lt_trans hlt (hother sysId hmem)
    · exact h
    · refine List.pairwise_cons.mpr ⟨fun sysId hmem => ?_, ih hrest⟩
      rcases (mem_insertGroup group rest sysId).mp hmem with rfl | hmem
      · exact lt_of_le_of_ne (not_lt.mp hlt) (Ne.symm heq)
      · exact hother sysId hmem

variable (lib) in
/-- **The groups of memberships**, each once and in order. -/
theorem groupsOf_ok {groupOf : Record → String} (records : List Record)
    (hread : ∀ row ∈ records, servicenowReferenceSysId lib row "group" = some (groupOf row))
    (groups : List ApproverReference)
    (h : (groups.map ApproverReference.sysId).Pairwise (· < ·)) :
    ∃ after, groupsOf lib records groups = .ok after ∧
      (after.map ApproverReference.sysId).Pairwise (· < ·) ∧
      ∀ sysId, sysId ∈ after.map ApproverReference.sysId ↔
        sysId ∈ groups.map ApproverReference.sysId ∨ sysId ∈ records.map groupOf := by
  induction records generalizing groups with
  | nil => exact ⟨groups, rfl, h, by simp⟩
  | cons row rows ih =>
    obtain ⟨group, hgroup, hid⟩ : ∃ group,
        approvalGroupReferenceFromMembership lib row = .ok group ∧ group.sysId = groupOf row := by
      rw [approvalGroupReferenceFromMembership, hread row (.head rows)]
      exact ⟨_, rfl, rfl⟩
    obtain ⟨after, hafter, hsorted, hids⟩ :=
      ih (fun r hr => hread r (.tail row hr)) (insertGroup group groups) (insertGroup_sorted h)
    refine ⟨after, ?_, hsorted, fun sysId => ?_⟩
    · rw [groupsOf, hgroup]
      exact hafter
    · rw [hids, mem_insertGroup, hid, List.map_cons, List.mem_cons]
      tauto

theorem mem_of_mem_chunks {size fuel : Nat} {items batch : List String} {item : String}
    (hbatch : batch ∈ chunks size fuel items) (hitem : item ∈ batch) : item ∈ items := by
  induction fuel generalizing items with
  | zero => exact (List.not_mem_nil hbatch).elim
  | succ fuel ih =>
    cases items with
    | nil => exact (List.not_mem_nil hbatch).elim
    | cons first rest =>
      rcases List.mem_cons.mp hbatch with rfl | hbatch
      · exact List.mem_of_mem_take hitem
      · exact List.mem_of_mem_drop (ih hbatch)

/-- The approvals of all batches, where each batch can be read. -/
theorem batchRows_ok {reads : ApprovalReads} {rowsOf : List String → List Record}
    (batches : List (List String))
    (h : ∀ batch ∈ batches, pendingApprovalRowsForGroups reads batch = .ok (rowsOf batch)) :
    batchRows reads batches = .ok (batches.flatMap rowsOf) := by
  induction batches with
  | nil => rfl
  | cons batch batches ih =>
    rw [batchRows, h batch (.head batches), ih fun b hb => h b (.tail batch hb)]
    rfl

/-- A row of a group that was asked for is marked with that group. -/
theorem routeGroup_mark (groups : List ApproverReference) {row : Record} {sysId : String}
    (hread : servicenowReferenceSysId lib row "approver" = some sysId)
    (hmem : sysId ∈ groups.map ApproverReference.sysId) :
    ∃ record, routeGroup lib groups row = .ok record ∧
      record.mark = (row.sysId, .group, some sysId) := by
  obtain ⟨group, hgroup, hid⟩ := List.mem_map.mp hmem
  have hsome : (groups.find? fun group => group.sysId = sysId).isSome :=
    List.find?_isSome.mpr ⟨group, hgroup, decide_eq_true hid⟩
  obtain ⟨found, hfound⟩ := Option.isSome_iff_exists.mp hsome
  have hfoundId : found.sysId = sysId := by simpa using List.find?_some hfound
  rw [routeGroup, approvalGroupReferenceFromApproval, hread]
  dsimp only
  rw [hfound]
  exact ⟨_, rfl, by rw [← hfoundId]; rfl⟩

/-- A row of the user's own is marked as such. -/
theorem routeDirect_mark {row : Record} {sysId : String}
    (hread : servicenowReferenceSysId lib row "approver" = some sysId) :
    ∃ record, routeDirect lib row = .ok record ∧ record.mark = ApprovalSite.directMark row := by
  obtain ⟨value, hvalue, -⟩ := Option.bind_eq_some_iff.mp hread
  rw [routeDirect, referenceFromRecord, hvalue]
  exact ⟨_, rfl, rfl⟩

/-- The answer of what is put together. -/
def answerOf (directRows groupRows : List Record) (memberships : List ApproverReference)
    (routed : Routed) : ListMyApprovalsResponse where
  records := routed.records.mergeSort approvalOrder
  querySummary := {
    directApprovalsFound := directRows.length
    groupApprovalsFound := groupRows.length
    totalApprovals := routed.records.length
    callerGroupMembershipsResolved := memberships.length
    groupQueryBatches := (groupBatches memberships).length
    deduplicationRemoved := routed.removed }

theorem materialize_ok {directRows groupRows : List Record} {memberships : List ApproverReference}
    {direct after : Routed}
    (hdirect : routeRows (routeDirect lib) directRows ⟨[], [], 0⟩ = .ok direct)
    (hafter : routeRows (routeGroup lib memberships) groupRows direct = .ok after) :
    materializeMyApprovalsResponse lib directRows groupRows memberships
      (groupBatches memberships).length = .ok (answerOf directRows groupRows memberships after) := by
  simp only [materializeMyApprovalsResponse, bind, Except.bind, hdirect, hafter]
  rfl

/-! ## What the requests are answered with -/

/-- The pages of a site, each in the order of its own request: the orders of two requests may differ
where the asked order does not tell two rows apart. -/
structure Answers (site : ApprovalSite lib) (reads : ApprovalReads) where
  directOrder : Nat → List Record
  membershipOrder : Nat → List Record
  groupOrder : List String → Nat → List Record
  direct_perm : ∀ k, (directOrder k).Perm site.own
  membership_perm : ∀ k, (membershipOrder k).Perm site.memberships
  group_perm : ∀ batch k, (groupOrder batch k).Perm (site.assigned batch)
  direct_page : ∀ k, reads.direct site.user k = .ok (pageOf 200 directOrder k)
  membership_page : ∀ k, reads.memberships site.user k = .ok (pageOf 500 membershipOrder k)
  group_page : ∀ batch k, reads.groups batch k = .ok (pageOf 200 (groupOrder batch) k)
  current_user : reads.currentUserSysId = .ok site.user
  stored : ∀ rows, reads.persistRecords rows = .ok ()

namespace Answers

variable {site : ApprovalSite lib} {reads : ApprovalReads} (answers : Answers site reads)

open Classical in
/-- The groups of the memberships that are on a page. -/
noncomputable def resolved : Finset String :=
  ((site.memberships.filter fun row => OnPage 500 answers.membershipOrder row).map
    site.group).toFinset

/-- The batches of these groups, in order. -/
noncomputable def batches : List (List String) :=
  chunks 20 answers.resolved.card (answers.resolved.sort (· ≤ ·))

/-- The site stays within the page caps. -/
structure WithinCaps : Prop where
  direct : site.own.length < 50 * 200
  memberships : site.memberships.length < 50 * 500
  groups : ∀ batch ∈ answers.batches, (site.assigned batch).length < 50 * 200

/-- **No page border passes over an approval**: each one of the user is on a page, and each one of a
group is on a page of a batch that was asked for. -/
structure NothingMoves : Prop where
  direct : ∀ row ∈ site.own, OnPage 200 answers.directOrder row
  groups : ∀ row ∈ site.routed, ∃ batch ∈ answers.batches, OnPage 200 (answers.groupOrder batch) row

variable {answers}

theorem mem_resolved {sysId : String} : sysId ∈ answers.resolved ↔
    ∃ row ∈ site.memberships, OnPage 500 answers.membershipOrder row ∧ site.group row = sysId := by
  rw [resolved, List.mem_toFinset, List.mem_map]
  simp only [List.mem_filter, decide_eq_true_eq, and_assoc]

theorem mem_groups_of_batch (hbatch : batch ∈ answers.batches) {sysId : String}
    (h : sysId ∈ batch) : sysId ∈ answers.resolved :=
  (Finset.mem_sort _).mp (mem_of_mem_chunks hbatch h)

theorem group_of_resolved {sysId : String} (h : sysId ∈ answers.resolved) :
    sysId ∈ site.groups := by
  obtain ⟨row, hrow, -, rfl⟩ := mem_resolved.mp h
  exact List.mem_map_of_mem hrow

variable (answers) in
/-- The groups that are resolved are those of the memberships that are on a page. -/
theorem memberships_ok (hcap : site.memberships.length < 50 * 500) :
    ∃ groups, approvalGroupMembershipsForUser lib reads site.user = .ok groups ∧
      groups.map ApproverReference.sysId = answers.resolved.sort (· ≤ ·) := by
  have hmem : ∀ row, row ∈ pagesFrom 500 answers.membershipOrder site.memberships.length 50 0 ↔
      OnPage 500 answers.membershipOrder row := fun row =>
    mem_pagesFrom_zero answers.membership_perm 50 hcap
  obtain ⟨groups, hgroups, hsorted, hids⟩ := groupsOf_ok lib
    (pagesFrom 500 answers.membershipOrder site.memberships.length 50 0)
    (fun row hrow => site.group_readable row
      (mem_of_onPage answers.membership_perm ((hmem row).mp hrow))) [] .nil
  refine ⟨groups, ?_, ?_⟩
  · rw [approvalGroupMembershipsForUser, readPages_ok answers.membership_perm
      answers.membership_page 50 0 (by omega) (by omega)]
    exact hgroups
  · have hsame : ∀ sysId, sysId ∈ groups.map ApproverReference.sysId ↔
        sysId ∈ answers.resolved.sort (· ≤ ·) := by
      intro sysId
      rw [hids, Finset.mem_sort, mem_resolved]
      simp only [List.map_nil, List.not_mem_nil, false_or, List.mem_map]
      refine exists_congr fun row => ⟨fun ⟨hrow, hid⟩ => ?_, fun ⟨_, hpage, hid⟩ => ?_⟩
      · exact ⟨mem_of_onPage answers.membership_perm ((hmem row).mp hrow), (hmem row).mp hrow, hid⟩
      · exact ⟨(hmem row).mpr hpage, hid⟩
    exact List.Subset.antisymm_of_sortedLT (fun sysId h => (hsame sysId).mp h)
      (fun sysId h => (hsame sysId).mpr h) hsorted.sortedLT (Finset.sortedLT_sort _)

end Answers

/-- **An answer.**  Within the page caps the list is answered from the rows that are on some page, and
its counts add up. -/
theorem myApprovals_ok {site : ApprovalSite lib} {reads : ApprovalReads}
    (answers : Answers site reads) (hcaps : answers.WithinCaps) :
    ∃ (response : ListMyApprovalsResponse) (directRows groupRows : List Record),
      myApprovalsWithRoutingFresh lib reads = .ok response ∧
      response.querySummary.directApprovalsFound + response.querySummary.groupApprovalsFound =
        response.querySummary.totalApprovals + response.querySummary.deduplicationRemoved ∧
      (site.Complete response ↔
        (∀ row ∈ site.own, row ∈ directRows) ∧ ∀ row ∈ site.routed, row ∈ groupRows) ∧
      (∀ row, row ∈ directRows ↔ OnPage 200 answers.directOrder row) ∧
      ∀ row, row ∈ groupRows ↔
        ∃ batch ∈ answers.batches, OnPage 200 (answers.groupOrder batch) row := by
  obtain ⟨groups, hgroups, hsorted⟩ := Answers.memberships_ok answers hcaps.memberships
  have hbatches : groupBatches groups = answers.batches := by
    have hlength := congrArg List.length hsorted
    rw [List.length_map, Finset.length_sort] at hlength
    rw [groupBatches, Answers.batches, hsorted, hlength]
  have hdirectRows : pendingApprovalRowsForApprover reads site.user =
      .ok (pagesFrom 200 answers.directOrder site.own.length 50 0) :=
    readPages_ok answers.direct_perm answers.direct_page 50 0
      (by have := hcaps.direct; omega) (by omega)
  have hgroupRows : batchRows reads answers.batches = .ok (answers.batches.flatMap fun batch =>
      pagesFrom 200 (answers.groupOrder batch) (site.assigned batch).length 50 0) :=
    batchRows_ok _ fun batch hbatch => readPages_ok (answers.group_perm batch)
      (answers.group_page batch) 50 0 (by have := hcaps.groups batch hbatch; omega) (by omega)
  have hmemDirect : ∀ row, row ∈ pagesFrom 200 answers.directOrder site.own.length 50 0 ↔
      OnPage 200 answers.directOrder row := fun row =>
    mem_pagesFrom_zero answers.direct_perm 50 hcaps.direct
  have hmemGroup : ∀ row, row ∈ (answers.batches.flatMap fun batch =>
      pagesFrom 200 (answers.groupOrder batch) (site.assigned batch).length 50 0) ↔
      ∃ batch ∈ answers.batches, OnPage 200 (answers.groupOrder batch) row := by
    intro row
    rw [List.mem_flatMap]
    exact exists_congr fun batch => and_congr_right fun hbatch =>
      mem_pagesFrom_zero (answers.group_perm batch) 50 (hcaps.groups batch hbatch)
  generalize pagesFrom 200 answers.directOrder site.own.length 50 0 = directRows
    at hdirectRows hmemDirect
  generalize (answers.batches.flatMap fun batch =>
    pagesFrom 200 (answers.groupOrder batch) (site.assigned batch).length 50 0) = groupRows
    at hgroupRows hmemGroup
  have hown : ∀ row ∈ directRows, row ∈ site.own := fun row hrow =>
    mem_of_onPage answers.direct_perm ((hmemDirect row).mp hrow)
  -- Each row of a batch is of a group that was resolved.
  have hassigned : ∀ row ∈ groupRows,
      row ∈ site.pending ∧ site.approver row ∈ answers.resolved := by
    intro row hrow
    obtain ⟨batch, hbatch, hpage⟩ := (hmemGroup row).mp hrow
    obtain ⟨hpending, happrover⟩ :=
      ApprovalSite.mem_assigned.mp (mem_of_onPage (answers.group_perm batch) hpage)
    exact ⟨hpending, Answers.mem_groups_of_batch hbatch happrover⟩
  obtain ⟨direct, hdirect, hdirectMarks, hseen, hdirectCount⟩ := routeRows_ok directRows
    (fun row hrow => routeDirect_mark (site.approver_readable row
      (ApprovalSite.mem_own.mp (hown row hrow)).1)) ⟨[], [], 0⟩
  obtain ⟨after, hafter, hmarks, -, hcount⟩ := routeRows_ok groupRows
    (fun row hrow => routeGroup_mark groups (site.approver_readable row (hassigned row hrow).1) (by
        rw [hsorted, Finset.mem_sort]
        exact (hassigned row hrow).2)) direct
  have hresponse : myApprovalsWithRoutingFresh lib reads =
      .ok (answerOf directRows groupRows groups after) := by
    rw [myApprovalsWithRoutingFresh, answers.current_user]
    simp only [bind, Except.bind, hdirectRows, Except.mapError, hgroups, hbatches, hgroupRows,
      answers.stored]
    rw [← hbatches]
    exact materialize_ok hdirect hafter
  refine ⟨_, directRows, groupRows, hresponse, ?_, ?_, hmemDirect, hmemGroup⟩
  · show directRows.length + groupRows.length = after.records.length + after.removed
    simp only [List.length_nil] at hdirectCount
    omega
  · have hmarkings : ((answerOf directRows groupRows groups after).records.map
        ApprovalRecord.mark).Perm
        ((FirstSeen.freshBy Record.sysId [] directRows).map ApprovalSite.directMark ++
          (FirstSeen.freshBy Record.sysId direct.seen groupRows).map site.groupMark) := by
      refine ((List.mergeSort_perm _ _).map _).trans (.of_eq ?_)
      rw [hmarks, hdirectMarks]
      rfl
    exact ApprovalSite.complete_iff hmarkings (fun sysId => by simpa using hseen sysId) hown
      fun row hrow => ⟨(hassigned row hrow).1, Answers.group_of_resolved (hassigned row hrow).2⟩

/-- **The pending approvals of a user.**  Within the page caps the list is always answered, and its
counts add up; it is complete and exact if and only if no page border passes over an approval, from
one request to the next. -/
theorem my_approvals_complete_iff (site : ApprovalSite lib) (reads : ApprovalReads)
    (answers : Answers site reads) (hcaps : answers.WithinCaps) :
    ∃ response, myApprovalsWithRoutingFresh lib reads = .ok response ∧
      response.querySummary.directApprovalsFound + response.querySummary.groupApprovalsFound =
        response.querySummary.totalApprovals + response.querySummary.deduplicationRemoved ∧
      (site.Complete response ↔ answers.NothingMoves) := by
  obtain ⟨response, directRows, groupRows, hresponse, hcounts, hcomplete, hdirect, hgroup⟩ :=
    myApprovals_ok answers hcaps
  refine ⟨response, hresponse, hcounts, hcomplete.trans ⟨fun ⟨hown, hrouted⟩ => ?_, fun hstill => ?_⟩⟩
  · exact ⟨fun row hrow => (hdirect row).mp (hown row hrow),
      fun row hrow => (hgroup row).mp (hrouted row hrow)⟩
  · exact ⟨fun row hrow => (hdirect row).mpr (hstill.direct row hrow),
      fun row hrow => (hgroup row).mpr (hstill.groups row hrow)⟩

end

/-! ## A tie at the page border -/

/-- Fields are read as they are shown. -/
def plainApprovals : ApprovalLib where
  core := incidentLib
  targetReference := fun row => ⟨row.sysId, row.sysId, row.table⟩
  number := Record.sysId

/-- Whom the approvals are assigned to. -/
def approverId : String := "11111111111111111111111111111111"

/-- One of the approvals, all requested at the same time. -/
def tiedApproval (n : Nat) : Record where
  sysId := String.ofList (FixedWidth.digits 32 n)
  table := "sysapproval_approver"
  fields := [("approver", ⟨some (.string approverId), some "Example User"⟩)]

/-- The approvals of the first page. -/
def tiedFront : List Record := (List.range 200).map tiedApproval

/-- The last approval is the first one when the second page is asked for. -/
def tiedOrder : Nat → List Record
  | 0 => tiedFront ++ [tiedApproval 200]
  | _ + 1 => tiedApproval 200 :: tiedFront

theorem tiedApproval_inj {m n : Nat} (hm : m ≤ 200) (hn : n ≤ 200)
    (h : (tiedApproval m).sysId = (tiedApproval n).sysId) : m = n :=
  (@FixedWidth.digits_inj 32 m n (by omega) (by omega)).mp (String.ofList_injective h)

theorem tied_nodup : ((tiedFront ++ [tiedApproval 200]).map Record.sysId).Nodup := by
  have hrange : tiedFront ++ [tiedApproval 200] = (List.range 201).map tiedApproval := by
    rw [List.range_succ, List.map_append]
    rfl
  rw [hrange, List.map_map]
  refine List.Nodup.map_on (fun m hm n hn h => ?_) List.nodup_range
  rw [List.mem_range] at hm hn
  exact tiedApproval_inj (by omega) (by omega) h

theorem tied_last : tiedApproval 200 ∉ tiedFront := by
  intro h
  obtain ⟨n, hn, heq⟩ := List.mem_map.mp h
  rw [List.mem_range] at hn
  have := tiedApproval_inj (by omega) (by omega) (congrArg Record.sysId heq)
  omega

/-- **The last approval is on no page.** -/
theorem tied_missed : ¬ OnPage 200 tiedOrder (tiedApproval 200) := by
  rintro ⟨k, hk⟩
  cases k with
  | zero =>
    have hpage : pageOf 200 tiedOrder 0 = tiedFront := by
      show ((tiedFront ++ [tiedApproval 200]).drop (0 * 200)).take 200 = tiedFront
      rw [Nat.zero_mul, List.drop_zero]
      exact List.take_left' (by simp [tiedFront])
    rw [hpage] at hk
    exact tied_last hk
  | succ k =>
    have hrest : tiedApproval 200 ∈ tiedFront.drop ((k + 1) * 200 - 1) := by
      have hmem := List.mem_of_mem_take hk
      rw [show (k + 1) * 200 = ((k + 1) * 200 - 1) + 1 by omega] at hmem
      exact hmem
    exact tied_last (List.mem_of_mem_drop hrest)

theorem tied_readable (row : Record) (hrow : row ∈ tiedFront ++ [tiedApproval 200]) :
    servicenowReferenceSysId plainApprovals row "approver" = some approverId := by
  have hfields : row.fields = [("approver", ⟨some (.string approverId), some "Example User"⟩)] := by
    rcases List.mem_append.mp hrow with h | h
    · obtain ⟨n, -, rfl⟩ := List.mem_map.mp h
      rfl
    · rw [List.mem_singleton.mp h]
      rfl
  have hraw : row.getRaw "approver" = some approverId := by
    rw [Record.getRaw, hfields]
    rfl
  have hid : normalizeRecordLookupSysId approverId = .ok approverId := by decide +kernel
  rw [servicenowReferenceSysId, hraw]
  show (normalizeRecordLookupSysId approverId).toOption = some approverId
  rw [hid]
  rfl

/-- The approvals of one user who is in no group. -/
def tiedSite : ApprovalSite plainApprovals where
  user := approverId
  pending := tiedFront ++ [tiedApproval 200]
  memberships := []
  approver := fun _ => approverId
  group := Record.sysId
  once := tied_nodup
  approver_readable := tied_readable
  group_readable := fun _ h => (List.not_mem_nil h).elim

/-- What the requests are answered with. -/
def tiedReads : ApprovalReads where
  currentUserSysId := .ok approverId
  direct := fun _ k => .ok (pageOf 200 tiedOrder k)
  memberships := fun _ _ => .ok []
  groups := fun batch k => .ok (pageOf 200 (fun _ => tiedSite.assigned batch) k)
  persistRecords := fun _ => .ok ()

theorem tied_own : tiedSite.own = tiedFront ++ [tiedApproval 200] :=
  List.filter_eq_self.mpr fun _ _ => decide_eq_true rfl

theorem tied_length : tiedFront.length = 200 := by
  rw [tiedFront, List.length_map, List.length_range]

/-- These are answers of the site. -/
def tiedAnswers : Answers tiedSite tiedReads where
  directOrder := tiedOrder
  membershipOrder := fun _ => []
  groupOrder := fun batch _ => tiedSite.assigned batch
  direct_perm := by
    intro k
    rw [tied_own]
    cases k with
    | zero => exact .refl _
    | succ k => exact (List.perm_append_singleton _ _).symm
  membership_perm := fun _ => .refl _
  group_perm := fun _ _ => .refl _
  direct_page := fun _ => rfl
  membership_page := fun k => by
    show Except.ok [] = Except.ok (pageOf 500 (fun _ => []) k)
    simp [pageOf, OffsetPages.slice]
  group_page := fun _ _ => rfl
  current_user := rfl
  stored := fun _ => rfl

theorem tied_withinCaps : tiedAnswers.WithinCaps where
  direct := by
    rw [tied_own, List.length_append, tied_length]
    decide
  memberships := by decide
  groups := by
    intro batch _
    have hpending : tiedSite.pending.length = 201 := by
      show (tiedFront ++ [tiedApproval 200]).length = 201
      rw [List.length_append, tied_length]
      rfl
    have hle : (tiedSite.assigned batch).length ≤ tiedSite.pending.length :=
      List.length_filter_le _ _
    omega

/-- **A tie at the page border loses an approval.**  Of 201 approvals requested at the same time the
last one is on neither page. -/
theorem tied_approvals_incomplete : tiedAnswers.WithinCaps ∧
    ∃ response, myApprovalsWithRoutingFresh plainApprovals tiedReads = .ok response ∧
      ¬ tiedSite.Complete response := by
  refine ⟨tied_withinCaps, ?_⟩
  obtain ⟨response, directRows, groupRows, hresponse, -, hcomplete, hdirect, -⟩ :=
    myApprovals_ok tiedAnswers tied_withinCaps
  refine ⟨response, hresponse, fun h => ?_⟩
  have hlast : tiedApproval 200 ∈ tiedSite.own := by
    rw [tied_own]
    exact List.mem_append_right _ (List.mem_singleton.mpr rfl)
  exact tied_missed ((hdirect _).mp ((hcomplete.mp h).1 _ hlast))

/-- The counts of that list add up. -/
theorem tied_approvals_answered : tiedAnswers.WithinCaps ∧
    ∃ response, myApprovalsWithRoutingFresh plainApprovals tiedReads = .ok response ∧
      response.querySummary.directApprovalsFound + response.querySummary.groupApprovalsFound =
        response.querySummary.totalApprovals + response.querySummary.deduplicationRemoved ∧
      (tiedSite.Complete response ↔ tiedAnswers.NothingMoves) :=
  ⟨tied_withinCaps, my_approvals_complete_iff tiedSite tiedReads tiedAnswers tied_withinCaps⟩

end SnowAgent.Core
