import SnowAgent.FirstSorted
import SnowAgent.Rankings
import SnowAgent.RecordCache

/-! # Lists of stored records

`list_records` takes the rows in scope from the store, by their number, and keeps those that match
its query, up to the limit.  The store is asked for neither the rows out of scope nor an order, so
two options of a query have no effect.

What a field of the sort option means of a row is a parameter: no code reads that option.
-/
namespace SnowAgent.Core

open Json Text FirstSorted

/-- `RecordRow`, with its assignee and its parent. -/
structure ListedRow extends RecordRow where
  assignedTo : Option String
  parentId : Option String

/-- The `records` table. -/
structure ListedTable where
  rows : List ListedRow
  keys : (rows.map (·.sysId)).Nodup

/-- `upsert_record_with_tags`: the row of the `sys_id` is made, or made anew. -/
def ListedTable.upsert (table : ListedTable) (row : ListedRow) : ListedTable where
  rows := table.rows.filter (fun other => other.sysId ≠ row.sysId) ++ [row]
  keys := by
    rw [List.map_append]
    refine List.nodup_append.mpr ⟨(List.filter_sublist.map _).nodup table.keys,
      List.nodup_singleton _, ?_⟩
    intro a ha b hb
    obtain ⟨other, hother, rfl⟩ := List.mem_map.mp ha
    have hne := (List.mem_filter.mp hother).2
    rw [List.map_singleton, List.mem_singleton] at hb
    rw [hb]
    simpa using hne

theorem ListedTable.mem_upsert {table : ListedTable} {row other : ListedRow} :
    other ∈ (table.upsert row).rows ↔
      other ∈ table.rows ∧ other.sysId ≠ row.sysId ∨ other = row := by
  show other ∈ table.rows.filter _ ++ [row] ↔ _
  rw [List.mem_append, List.mem_filter, List.mem_singleton, decide_eq_true_iff]

-- The preferred row is computed: of the orders Mathlib has on `ℤ`, the one that runs.
local instance recordListsOrder : LinearOrder ℤ := Int.instLinearOrder

local instance recordListsPreorder : Preorder ℤ := Int.instLinearOrder.toPreorder

/-- `get_primary_record_by_number`. -/
def ListedTable.getPrimaryRecordByNumber (table : ListedTable) (number : String) :
    Option ListedRow :=
  (table.rows.filter fun row => row.number = number).argmin fun row => preference row.toRecordRow

/-- `SortDirection`. -/
inductive SortDirection where
  | asc
  | desc
deriving DecidableEq

/-- `SortField`. -/
structure SortField where
  field : String
  direction : SortDirection
deriving DecidableEq

/-- `ListQuery`. -/
structure ListQuery where
  resourceType : Option ResourceType := none
  number : Option String := none
  numbers : List String := []
  states : List String := []
  assignedTo : Option String := none
  parentSysId : Option String := none
  includeTombstoned : Bool := false
  limit : Option Nat := none
  sort : List SortField := []

/-- `matches`. -/
def ListQuery.isMatch (query : ListQuery) (row : ListedRow) : Bool :=
  (query.includeTombstoned || row.inScope) &&
    query.resourceType.all (row.resourceType = ·) &&
    query.number.all (row.number = ·) &&
    (query.numbers.isEmpty || query.numbers.contains row.number) &&
    (query.states.isEmpty || row.state.any fun state => query.states.contains state) &&
    query.assignedTo.all (row.assignedTo = some ·) &&
    query.parentSysId.all (row.parentId = some ·)

/-- `WHERE in_scope = 1`, with the resource type if there is one. -/
def activeRows (resourceType : Option ResourceType) (table : ListedTable) : List ListedRow :=
  table.rows.filter fun row => row.inScope && resourceType.all (row.resourceType = ·)

/-- What `list_active_records` may answer: `ORDER BY number`, and nothing of rows with one number. -/
def ListActiveRecords (resourceType : Option ResourceType) (table : ListedTable)
    (listed : List ListedRow) : Prop :=
  ListedBy (fun row => row.number) (activeRows resourceType table) listed

/-- The rows of `list_records`, of those that the store answers. -/
def listRows (query : ListQuery) (listed : List ListedRow) : List ListedRow :=
  truncate query.limit (listed.filter query.isMatch)

/-- `list_records`: all matching rows are read before the list is cut. -/
def listRecords (lib : CoreLib) (files : Table String String) (query : ListQuery)
    (listed : List ListedRow) : List CachedRecord :=
  truncate query.limit
    ((listed.filter query.isMatch).map fun row => materializeRecord lib files row.toRecordRow)

/-! ## What a query asks for -/

/-- The sort option of a query, by what its fields mean of a row. -/
def sortCompare (value : ListedRow → String → String) (sort : List SortField) (a b : ListedRow) :
    Ordering :=
  sort.foldr (fun sortField rest =>
    let ordering := compare (value a sortField.field) (value b sortField.field)
    (match sortField.direction with
      | .asc => ordering
      | .desc => ordering.swap).then rest) .eq

/-- A row is not after another one. -/
def sortLe (value : ListedRow → String → String) (sort : List SortField) (a b : ListedRow) : Bool :=
  (sortCompare value sort a b).isLE

/-- The matching rows. -/
def matchingRows (query : ListQuery) (table : ListedTable) : List ListedRow :=
  table.rows.filter query.isMatch

/-- The matching rows that are in scope. -/
def matchingActive (query : ListQuery) (table : ListedTable) : List ListedRow :=
  (matchingRows query table).filter (·.inScope)

/-- A list honours a query: it has the matching rows, in the order of the sort option, up to the
limit. -/
def Honours (value : ListedRow → String → String) (query : ListQuery) (table : ListedTable)
    (rows : List ListedRow) : Prop :=
  FirstOf (sortLe value query.sort) query.limit (matchingRows query table) rows

/-- A query that the rows in scope, by their number, can answer: all matching rows are in scope, or
there are enough that are; and a matching row in scope that has few enough of them with a smaller
number is, by the sort option, not after another matching row that is out of scope, or whose number
is not smaller. -/
structure ByNumber (value : ListedRow → String → String) (query : ListQuery) (table : ListedTable) :
    Prop where
  scope : (∀ row ∈ matchingRows query table, row.inScope = true) ∨
    ∃ k, query.limit = some k ∧ k ≤ (matchingActive query table).length
  order : ∀ a ∈ matchingActive query table,
    (∀ k, query.limit = some k → below (fun row => row.number) (matchingActive query table) a < k) →
    ∀ b ∈ matchingRows query table, b ≠ a → (b.inScope = true → a.number ≤ b.number) →
      sortLe value query.sort a b = true

/-! ## The order of the sort option -/

instance sortCompare_trans (value : ListedRow → String → String) (sort : List SortField) :
    Std.TransCmp (sortCompare value sort) := by
  induction sort with
  | nil =>
    exact inferInstanceAs (Std.TransCmp (compareOn fun _ : ListedRow => ()))
  | cons sortField sort step =>
    obtain ⟨field, direction⟩ := sortField
    cases direction with
    | asc =>
      exact inferInstanceAs (Std.TransCmp (compareLex (compareOn fun row => value row field)
        (sortCompare value sort)))
    | desc =>
      have hswap : sortCompare value (⟨field, .desc⟩ :: sort) =
          compareLex (fun a b => compareOn (fun row => value row field) b a)
            (sortCompare value sort) := by
        funext a b
        show ((compareOn (fun row => value row field) a b).swap).then _ = _
        have hback : compareOn (fun row => value row field) b a =
            (compareOn (fun row => value row field) a b).swap := Std.OrientedCmp.eq_swap
        rw [← hback]
        rfl
      rw [hswap]
      infer_instance

theorem sortLe_trans (value : ListedRow → String → String) (sort : List SortField)
    (a b c : ListedRow) (hab : sortLe value sort a b = true) (hbc : sortLe value sort b c = true) :
    sortLe value sort a c = true :=
  Std.TransCmp.isLE_trans hab hbc

theorem sortLe_total (value : ListedRow → String → String) (sort : List SortField)
    (a b : ListedRow) : (sortLe value sort a b || sortLe value sort b a) = true := by
  rw [Bool.or_eq_true, sortLe, sortLe]
  rcases hab : sortCompare value sort a b with _ | _ | _
  · exact Or.inl rfl
  · exact Or.inl rfl
  · right
    have hback : sortCompare value sort b a = (sortCompare value sort a b).swap :=
      Std.OrientedCmp.eq_swap
    rw [hback, hab]
    rfl

/-! ## The rows of a list -/

variable {row : ListedRow}

section Rows

variable {value : ListedRow → String → String} {query : ListQuery} {table : ListedTable}
  {listed : List ListedRow}

theorem ListedTable.nodup (table : ListedTable) : table.rows.Nodup := List.Nodup.of_map _ table.keys

/-- A matching row has the resource type of the query. -/
theorem isMatch_type (h : query.isMatch row = true) :
    query.resourceType.all (row.resourceType = ·) = true := by
  simp only [ListQuery.isMatch, Bool.and_eq_true] at h
  exact h.1.1.1.1.1.2

section

variable (h : ListActiveRecords query.resourceType table listed)

include h

/-- The matching rows of the store's answer are those in scope, by their number. -/
theorem listed_matching :
    ListedBy (fun row => row.number) (matchingActive query table) (listed.filter query.isMatch) := by
  have hsame : (activeRows query.resourceType table).filter query.isMatch =
      matchingActive query table := by
    rw [activeRows, matchingActive, matchingRows, List.filter_filter, List.filter_filter]
    refine List.filter_congr fun row _ => ?_
    rcases hmatch : query.isMatch row with _ | _
    · simp
    · rw [isMatch_type hmatch, Bool.and_true, Bool.true_and]
  rw [← hsame]
  exact ListedBy.filter h query.isMatch

/-- The list is the beginning of them. -/
theorem listRows_eq :
    listRows query listed =
      (listed.filter query.isMatch).take (query.limit.getD (matchingRows query table).length) := by
  refine truncate_eq_take ?_
  rw [(listed_matching h).perm.length_eq]
  exact List.length_filter_le _ _

theorem listRows_nodup :
    (listRows query listed).Nodup := by
  rw [listRows_eq h]
  refine List.Nodup.sublist (List.take_sublist _ _) ?_
  exact (listed_matching h).perm.nodup_iff.mpr ((table.nodup.filter _).filter _)

theorem mem_active_of_mem_listRows (hrow : row ∈ listRows query listed) : row ∈ matchingActive query table := by
  rw [listRows_eq h] at hrow
  exact (listed_matching h).perm.mem_iff.mp (List.mem_of_mem_take hrow)

end

theorem mem_matching_of_mem_active (h : row ∈ matchingActive query table) :
    row ∈ matchingRows query table ∧ row.inScope = true :=
  List.mem_filter.mp h

section

variable (h : ListActiveRecords query.resourceType table listed)

include h

/-- What it is for a list to honour its query. -/
theorem honours_iff :
    Honours value query table (listRows query listed) ↔ (listRows query listed).length =
        min (query.limit.getD (matchingRows query table).length) (matchingRows query table).length ∧
      ((listRows query listed).Pairwise fun a b => sortLe value query.sort a b = true) ∧
      ∀ a ∈ listRows query listed, ∀ b ∈ matchingRows query table, b ∉ listRows query listed →
        sortLe value query.sort a b = true := by
  classical
  exact firstOf_iff (sortLe_trans value query.sort) (sortLe_total value query.sort)
    (table.nodup.filter _) (listRows_nodup h)
    fun row hrow => (mem_matching_of_mem_active (mem_active_of_mem_listRows h hrow)).1

/-- The list has as many rows as it should, if all matching rows are in scope or enough are. -/
theorem length_listRows_iff :
    (listRows query listed).length =
        min (query.limit.getD (matchingRows query table).length) (matchingRows query table).length ↔
      (∀ row ∈ matchingRows query table, row.inScope = true) ∨
        ∃ k, query.limit = some k ∧ k ≤ (matchingActive query table).length := by
  have hle : (matchingActive query table).length ≤ (matchingRows query table).length :=
    List.length_filter_le _ _
  have hall : (matchingActive query table).length = (matchingRows query table).length ↔
      ∀ row ∈ matchingRows query table, row.inScope = true :=
    List.length_filter_eq_length_iff
  rw [listRows_eq h, List.length_take, (listed_matching h).perm.length_eq, ← hall]
  rcases query.limit with _ | k
  · rw [Option.getD_none]
    constructor
    · intro heq
      exact Or.inl (by omega)
    · rintro (heq | ⟨k, hk, -⟩)
      · omega
      · cases hk
  · rw [Option.getD_some]
    constructor
    · intro heq
      by_cases hk : k ≤ (matchingActive query table).length
      · exact Or.inr ⟨k, rfl, hk⟩
      · exact Or.inl (by omega)
    · rintro (heq | ⟨k', hk', hle'⟩)
      · omega
      · cases hk'
        omega

/-- The rows of a list have few enough rows with a smaller number. -/
theorem below_of_mem_listRows (hrow : row ∈ listRows query listed) (k : Nat) (hk : query.limit = some k) :
    below (fun row => row.number) (matchingActive query table) row < k := by
  rw [listRows_eq h, hk, Option.getD_some] at hrow
  exact (listed_matching h).below_lt hrow

end

/-- A query that the rows in scope can answer is honoured. -/
theorem ByNumber.honours (hquery : ByNumber value query table)
    (h : ListActiveRecords query.resourceType table listed) :
    Honours value query table (listRows query listed) := by
  have hlisted := listed_matching h
  have hrows := listRows_eq h
  refine (honours_iff h).mpr ⟨(length_listRows_iff h).mpr hquery.scope, ?_, ?_⟩
  · have hsorted : (listRows query listed).Pairwise fun a b => a.number ≤ b.number := by
      rw [hrows]
      exact hlisted.sorted.sublist (List.take_sublist _ _)
    refine (hsorted.and (listRows_nodup h)).imp_of_mem fun {a b} ha hb hab => ?_
    exact hquery.order a (mem_active_of_mem_listRows h ha) (below_of_mem_listRows h ha) b
      (mem_matching_of_mem_active (mem_active_of_mem_listRows h hb)).1 (Ne.symm hab.2) fun _ => hab.1
  · intro a ha b hb hnot
    refine hquery.order a (mem_active_of_mem_listRows h ha) (below_of_mem_listRows h ha) b hb ?_
      fun hscope => ?_
    · rintro rfl
      exact hnot ha
    · -- a row in scope that is not listed is listed later
      have hb' : b ∈ listed.filter query.isMatch :=
        hlisted.perm.mem_iff.mpr (List.mem_filter.mpr ⟨hb, hscope⟩)
      have hsorted := hlisted.sorted
      rw [hrows] at ha hnot
      rw [← List.take_append_drop (query.limit.getD (matchingRows query table).length)
        (listed.filter query.isMatch)] at hb' hsorted
      exact (List.pairwise_append.mp hsorted).2.2 a ha b ((List.mem_append.mp hb').resolve_left hnot)

/-- In some answer of the store, a row comes before all others that have its number. -/
theorem order_of_honours (h : ∀ listed, ListActiveRecords query.resourceType table listed →
      Honours value query table (listRows query listed))
    {a b : ListedRow} (ha : a ∈ matchingActive query table)
    (hbelow : ∀ k, query.limit = some k →
      below (fun row => row.number) (matchingActive query table) a < k)
    (hb : b ∈ matchingRows query table) (hne : b ≠ a)
    (hnumber : b.inScope = true → a.number ≤ b.number) :
    sortLe value query.sort a b = true := by
  classical
  have hlist : ListActiveRecords query.resourceType table
      (firstListed (fun row => row.number) a (activeRows query.resourceType table)) :=
    firstListed_listedBy a _
  have hrows := listRows_eq hlist
  have hlisted := listed_matching hlist
  have hfirst : ((firstListed (fun row => row.number) a (activeRows query.resourceType table)).filter
      query.isMatch).Pairwise fun x y => firstLe (fun row : ListedRow => row.number) a x y = true :=
    (firstListed_sorted a _).sublist List.filter_sublist
  have hmem := hlisted.perm.mem_iff.mpr ha
  have ha' : a ∈ listRows query
      (firstListed (fun row => row.number) a (activeRows query.resourceType table)) := by
    rcases hlimit : query.limit with _ | k
    · rw [listRows, hlimit]
      exact hmem
    · rw [listRows, hlimit]
      refine mem_take_of_below hfirst hmem ?_
      have hcount := hbelow k hlimit
      rwa [below, ← hlisted.perm.countP_eq] at hcount
  obtain ⟨-, hsorted, houtside⟩ := (honours_iff hlist).mp (h _ hlist)
  by_cases hb' : b ∈ listRows query
      (firstListed (fun row => row.number) a (activeRows query.resourceType table))
  · have hboth := hsorted.and (show (listRows query (firstListed (fun row => row.number) a
        (activeRows query.resourceType table))).Pairwise fun x y =>
          firstLe (fun row : ListedRow => row.number) a x y = true by
      rw [hrows]
      exact hfirst.sublist (List.take_sublist _ _))
    rcases Rankings.pair_sublist ha' hb' (Ne.symm hne) with hsub | hsub
    · exact (List.pairwise_iff_forall_sublist.mp hboth hsub).1
    · -- the other row would have to have a smaller number
      have hside := (List.pairwise_iff_forall_sublist.mp hboth hsub).2
      simp only [firstLe, decide_eq_true_iff] at hside
      have hscope := (mem_matching_of_mem_active (mem_active_of_mem_listRows hlist hb')).2
      rcases hside with hlt | ⟨-, heq | hself⟩
      · exact absurd hlt (not_lt.mpr (hnumber hscope))
      · exact absurd heq hne
      · exact absurd rfl hself
  · exact houtside a ha' b hb hb'

end Rows

/-- **When a list honours its query.**  Whatever the store answers of rows with one number, the list
has the matching rows, in the order of the sort option and up to the limit, exactly if the rows in
scope, by their number, can answer the query. -/
theorem list_records_iff (value : ListedRow → String → String) (query : ListQuery)
    (table : ListedTable) :
    (∀ listed, ListActiveRecords query.resourceType table listed →
      Honours value query table (listRows query listed)) ↔ ByNumber value query table := by
  constructor
  · intro h
    refine ⟨?_, fun a ha hbelow b hb hne hnumber => order_of_honours h ha hbelow hb hne hnumber⟩
    obtain ⟨listed, hlisted⟩ :=
      exists_listedBy (fun row : ListedRow => row.number) (activeRows query.resourceType table)
    exact (length_listRows_iff hlisted).mp ((honours_iff hlisted).mp (h listed hlisted)).1
  · intro h listed hlisted
    exact h.honours hlisted

/-- A stored incident. -/
def storedIncident (number : String) (inScope : Bool) : ListedRow where
  sysId := number
  number := number
  tableName := "incident"
  resourceType := .incident
  state := some "1"
  shortDesc := none
  description := none
  filePath := none
  syncedAt := 0
  inScope := inScope
  rawJson := .object []
  assignedTo := none
  parentId := none

/-- All incidents, tombstoned ones too, as a segment of the cache is invalidated. -/
def segmentQuery : ListQuery where
  resourceType := some .incident
  includeTombstoned := true

/-- All incidents, the last one first. -/
def lastFirstQuery : ListQuery where
  resourceType := some .incident
  sort := [⟨"number", .desc⟩]

/-- A tombstoned incident is not listed for a query that includes it; and two incidents are listed
with the first one first for a query that wants the last one first. -/
theorem list_options_dropped :
    (∃ (table : ListedTable) (listed : List ListedRow),
      ListActiveRecords segmentQuery.resourceType table listed ∧
      matchingRows segmentQuery table = [storedIncident "INC1" false] ∧
      ¬ Honours (fun row _ => row.number) segmentQuery table (listRows segmentQuery listed)) ∧
    ∃ (table : ListedTable) (listed : List ListedRow),
      ListActiveRecords lastFirstQuery.resourceType table listed ∧
      (listRows lastFirstQuery listed).map (fun row => row.number) = ["INC1", "INC2"] ∧
      ¬ Honours (fun row _ => row.number) lastFirstQuery table (listRows lastFirstQuery listed) := by
  constructor
  · refine ⟨⟨[storedIncident "INC1" false], by decide⟩, [], ⟨List.Perm.refl _, List.Pairwise.nil⟩, rfl,
      ?_⟩
    rintro ⟨full, hperm, -, hfull⟩
    have hlength := hperm.length_eq
    rw [show full = [] from hfull.symm] at hlength
    cases hlength
  · refine ⟨⟨[storedIncident "INC1" true, storedIncident "INC2" true], by decide⟩,
      [storedIncident "INC1" true, storedIncident "INC2" true], ⟨List.Perm.refl _, by decide⟩, rfl, ?_⟩
    rintro ⟨full, -, hsorted, hfull⟩
    rw [show full = [storedIncident "INC1" true, storedIncident "INC2" true]
        from hfull.symm] at hsorted
    have hfalse := (List.pairwise_cons.mp hsorted).1 _ List.mem_cons_self
    exact absurd hfalse (by decide)

end SnowAgent.Core
