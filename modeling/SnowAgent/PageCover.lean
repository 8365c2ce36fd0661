import SnowAgent.RecordPages

/-! # Pages cover each row once

Each of the four operations answers, after a cursor that is a `sys_id`, with the page of the
first rows that match its filter; so the law of pages by key holds of it, with its own local
filter.
-/
namespace SnowAgent.Core

open Json Text Keyset

/-! ## Cursors -/

/-- The operations take a cursor they have given as it is. -/
theorem normalizeCursor_legal {cursor : Option String} (h : ∀ k ∈ cursor, IsSysId k) :
    normalizeCursor cursor = .ok cursor := by
  cases cursor with
  | none => rfl
  | some k =>
    have hk := h k rfl
    unfold normalizeCursor
    dsimp only
    rw [hk.trim, hk.normalize]

theorem normalizeGroupCursor_legal {cursor : Option String} (h : ∀ k ∈ cursor, IsSysId k) :
    normalizeGroupCursor cursor = .ok cursor := by
  cases cursor with
  | none => rfl
  | some k =>
    have hk := h k rfl
    simp [normalizeGroupCursor, hk.trim, hk.ne_empty, hk.normalize, Option.filter]

/-! ## What a call answers -/

theorem validateLimit_eq_ok_iff {limit : Option Nat} {n : Nat} :
    validateLimit limit = .ok n ↔ n = limit.getD 50 ∧ 1 ≤ n ∧ n ≤ 200 := by
  cases limit with
  | none =>
    simp only [validateLimit, Except.ok.injEq, Option.getD_none]
    omega
  | some m =>
    simp only [validateLimit, Option.getD_some]
    split_ifs with hzero hmany
    · simp only [false_iff]
      omega
    · simp only [false_iff]
      omega
    · simp only [Except.ok.injEq]
      omega

/-- A query is over a table, and asks for so many rows. -/
def TableApi.Over (table : String) (limit : Nat) (query : TableApi) : Prop :=
  query.table = table ∧ query.limit = limit

namespace TableApi

variable {table : String} {limit : Nat} {query : TableApi}

theorem over_new : Over table limit (TableApi.new table limit) := ⟨rfl, rfl⟩

section

variable (h : Over table limit query)

include h

theorem Over.filter (atom : Atom) :
    Over table limit (query.filter atom) := h

theorem Over.filterSome {α : Type} (atom : α → Atom)
    (value : Option α) : Over table limit (query.filterSome atom value) := by
  cases value with
  | none => exact h
  | some value => exact h.filter (atom value)

theorem Over.oneOf (field : String) (values : List String) :
    Over table limit (query.oneOf field values) := by
  unfold TableApi.oneOf
  split
  · exact h.filter _
  · exact h.filter _

theorem Over.oneOfSome (field : String)
    (values : Option (List String)) : Over table limit (query.oneOfSome field values) := by
  cases values with
  | none => exact h
  | some values => exact h.oneOf field values

theorem Over.inListOf (field : String) (values : List String) :
    Over table limit (query.inListOf field values) := by
  unfold TableApi.inListOf
  split_ifs
  · exact h
  · exact h.filter _

end

end TableApi

theorem changeRequestQuery_over {filters : ChangeRequestQueryFilters} {limit : Nat} {s : Snapshot}
    {query : TableApi} (h : changeRequestQuery filters limit s = .ok query) :
    query.Over "change_request" limit := by
  obtain ⟨state, _, hquery⟩ := bind_eq_ok_iff.mp h
  cases hquery
  repeat' first
    | exact TableApi.over_new
    | apply TableApi.Over.filterSome

theorem storyQuery_over {filters : StoryQueryFilters} {limit : Nat} {s : Snapshot}
    {query : TableApi} (h : storyQuery filters limit s = .ok query) :
    query.Over "rm_story" limit := by
  obtain ⟨states, _, hquery⟩ := bind_eq_ok_iff.mp h
  cases hquery
  repeat' first
    | exact TableApi.over_new
    | apply TableApi.Over.filterSome
    | apply TableApi.Over.oneOfSome

variable {input : IncidentGroupInput}

theorem incidentGroupQuery_over {limit : Nat} {s : Snapshot} {query : TableApi}
    (h : incidentGroupQuery input limit s = .ok query) :
    query.Over "incident" limit := by
  obtain ⟨state, _, hquery⟩ := bind_eq_ok_iff.mp h
  cases hquery
  exact (TableApi.over_new.filter _ |>.filter _).filterSome _ _

variable {filters : IncidentQueryFilters}

theorem incidentTableQuery_over {limit : Nat} {s : Snapshot} {query : TableApi}
    (h : incidentTableQuery filters limit s = .ok query) :
    query.Over "incident" limit := by
  obtain ⟨states, _, hquery⟩ := bind_eq_ok_iff.mp h
  cases hquery
  repeat' first
    | exact TableApi.over_new
    | apply TableApi.Over.filterSome
    | apply TableApi.Over.inListOf

theorem childQuery_over {table parent : String} {limit : Nat} {cursor : Option String} :
    (childQuery table parent limit cursor).Over table limit := by
  unfold childQuery
  split_ifs
  · exact ⟨rfl, rfl⟩
  · exact ⟨rfl, rfl⟩

variable (provider : Provider)

/-- The rows a query inspects after a cursor. -/
def TableApi.inspected (query : TableApi) (cursor : Option String) (table : LiveTable) :
    List Record :=
  firstRows Record.sysId (fun r => query.holds provider r && isAfter Record.sysId cursor r)
    query.limit table.rows

variable {provider}

theorem TableApi.first_inspected (provider : Provider) (query : TableApi) (cursor : Option String)
    (table : LiveTable) :
    Keyset.First Record.sysId (fun r => query.holds provider r && isAfter Record.sysId cursor r)
      query.limit table.rows (query.inspected provider cursor table) :=
  firstRows_first table.keys

variable {rows : List Record}

theorem TableApi.execute_eq_ok_iff {query : TableApi} {s : Snapshot} {errors : List String} :
    query.execute provider s = .ok (rows, errors) ↔ ∃ answer, s.tables query.table = .ok answer ∧
      rows = query.inspected provider query.after answer.table ∧ errors = answer.errors := by
  unfold TableApi.execute TableApi.inspected
  rw [bind_eq_ok_iff]
  simp only [Pure.pure, Except.pure, Except.ok.injEq, Prod.mk.injEq]
  constructor
  · rintro ⟨answer, htable, rfl, rfl⟩
    exact ⟨answer, htable, rfl, rfl⟩
  · rintro ⟨answer, htable, rfl, rfl⟩
    exact ⟨answer, htable, rfl, rfl⟩

theorem TableApi.page_eq_ok_iff {query : TableApi} {cursor : Option String} {s : Snapshot}
    {page : RecordQueryPage} :
    query.page provider cursor s = .ok page ↔ ∃ answer, s.tables query.table = .ok answer ∧
      page = livePage query.limit (query.inspected provider cursor answer.table) := by
  unfold TableApi.page
  rw [bind_eq_ok_iff]
  simp only [mapError_eq_ok_iff, Prod.exists, TableApi.execute_eq_ok_iff, Pure.pure, Except.pure,
    Except.ok.injEq]
  constructor
  · rintro ⟨rows, errors, ⟨answer, htable, rfl, rfl⟩, rfl⟩
    exact ⟨answer, htable, rfl⟩
  · rintro ⟨answer, htable, rfl⟩
    exact ⟨_, _, ⟨answer, htable, rfl, rfl⟩, rfl⟩

/-! ### Children -/

/-- A child that is found shows its parent. -/
theorem linked_of_holds {table parent : String} {limit : Nat} {cursor : Option String} {r : Record}
    (h : (childQuery table parent limit cursor).holds provider r = true) :
    linked table parent r = true := by
  have hlink : childLink table ∈ ["task", "parent", "top_task"] := by
    unfold childLink
    split_ifs <;> simp
  unfold linked
  by_cases htask : table = "pm_project_task"
  · have hone : provider.holds (.equals (childLink table) parent) r = true ∨
        provider.holds (.equals "top_task" parent) r = true := by
      simpa [TableApi.holds, childQuery, htask, TableApi.new, TableApi.filter,
        TableApi.orFilter] using h
    rcases hone with hone | hone
    · simp [provider.shows _ hlink _ _ hone]
    · simp [provider.shows "top_task" (by simp) _ _ hone, htask]
  · have hone : provider.holds (.equals (childLink table) parent) r = true := by
      simpa [TableApi.holds, childQuery, htask, TableApi.new, TableApi.filter] using h
    simp [provider.shows _ hlink _ _ hone]

/-- Linked rows with ascending keys pass the check, which ends with the last key. -/
theorem checkChildren_eq {table parent : String} : ∀ {rows : List Record} {previous : String},
    (∀ r ∈ rows, IsSysId r.sysId ∧ previous < r.sysId ∧ linked table parent r = true) →
      (rows.Pairwise fun a b => a.sysId < b.sysId) → checkChildren table parent rows previous =
          .ok ((rows.getLast?.map Record.sysId).getD previous)
  | [], previous, _, _ => rfl
  | row :: rows, previous, hrows, hsorted => by
    obtain ⟨hid, hafter, hlinked⟩ := hrows row List.mem_cons_self
    obtain ⟨hbelow, htail⟩ := List.pairwise_cons.mp hsorted
    have hrest : checkChildren table parent rows row.sysId =
        .ok ((rows.getLast?.map Record.sysId).getD row.sysId) := checkChildren_eq
      (fun r hr => ⟨(hrows r (List.mem_cons_of_mem _ hr)).1, hbelow r hr,
        (hrows r (List.mem_cons_of_mem _ hr)).2.2⟩) htail
    have hpasses : ¬ (row.sysId ≤ previous ∨ ¬ linked table parent row = true) := by
      simp [hlinked, hafter]
    unfold checkChildren
    rw [hid.normalize]
    show (if row.sysId ≤ previous ∨ ¬ linked table parent row = true then _ else _) = _
    rw [if_neg hpasses, hrest]
    cases rows with
    | nil => rfl
    | cons next rows =>
      have hlast := List.getLast?_eq_some_getLast (List.cons_ne_nil next rows)
      rw [List.getLast?_cons_cons, hlast]
      rfl

/-- The page of checked children is the page of their rows. -/
theorem childPage_eq {limit : Nat} {previous : String} (hlimit : 1 ≤ limit) :
    childPage limit rows ((rows.getLast?.map Record.sysId).getD previous) = livePage limit rows := by
  unfold childPage livePage
  by_cases hfull : rows.length < limit
  · simp [hfull]
  · have hne : rows ≠ [] := by
      rintro rfl
      exact hfull hlimit
    simp [hfull, List.getLast?_eq_some_getLast hne]

/-- A child query answers with a page whenever its parent is resolved and its rows are read. -/
theorem queryChildren_eq_ok_iff {table : String} {filters : ChildQueryFilters} {limit : Nat}
    {cursor : Option String} {s : Snapshot} {page : RecordQueryPage} (hlimit : 1 ≤ limit) :
    queryChildren provider table filters limit cursor s = .ok page ↔ ∃ query answer,
        (parentOf provider s filters).map (fun parent => childQuery table parent limit none) =
          .ok query ∧ s.tables table = .ok answer ∧ answer.errors.isEmpty = true ∧
        page = livePage limit (query.inspected provider cursor answer.table) := by
  have hchecks : ∀ (parent : String) (answer : LiveAnswer),
      checkChildren table parent ((childQuery table parent limit none).inspected provider cursor
        answer.table) (cursor.getD "") =
        .ok ((((childQuery table parent limit none).inspected provider cursor
          answer.table).getLast?.map Record.sysId).getD (cursor.getD "")) := by
    intro parent answer
    have hfirst := (childQuery table parent limit none).first_inspected provider cursor answer.table
    refine checkChildren_eq (fun r hr => ?_) hfirst.sorted
    obtain ⟨htable, hboth⟩ := hfirst.found r hr
    obtain ⟨hholds, hafter⟩ := Bool.and_eq_true_iff.mp hboth
    have hid := answer.table.wellFormed r htable
    refine ⟨hid, ?_, linked_of_holds hholds⟩
    cases cursor with
    | none => exact hid.pos
    | some k => exact isAfter_iff.mp hafter k rfl
  have hrows : ∀ (parent : String) (answer : LiveAnswer), (childQuery table parent limit
      cursor).inspected provider (childQuery table parent limit cursor).after answer.table =
        (childQuery table parent limit none).inspected provider cursor answer.table := fun _ _ => rfl
  have hshort : ∀ (parent : String) (answer : LiveAnswer),
      ((childQuery table parent limit none).inspected provider cursor answer.table).length ≤ limit :=
    fun parent answer => by
      have := ((childQuery table parent limit none).first_inspected provider cursor
        answer.table).short
      rwa [childQuery_over.2] at this
  unfold queryChildren
  simp only [bind_eq_ok_iff, map_eq_ok_iff]
  constructor
  · rintro ⟨parent, hparent, hrest⟩
    obtain ⟨⟨rows, errors⟩, hexecute, hrest⟩ := hrest
    obtain ⟨answer, htable, rfl, rfl⟩ := TableApi.execute_eq_ok_iff.mp
      (mapError_eq_ok_iff.mp hexecute)
    rw [childQuery_over.1] at htable
    rw [hrows] at hrest
    dsimp only at hrest
    by_cases hbad : ¬ answer.errors.isEmpty = true ∨ limit <
        ((childQuery table parent limit none).inspected provider cursor answer.table).length
    · rw [if_pos hbad] at hrest
      cases hrest
    · rw [if_neg hbad, hchecks] at hrest
      cases hrest
      exact ⟨_, answer, ⟨parent, hparent, rfl⟩, htable, not_not.mp (not_or.mp hbad).1,
        childPage_eq hlimit⟩
  · rintro ⟨_, answer, ⟨parent, hparent, rfl⟩, htable, herrors, rfl⟩
    refine ⟨parent, hparent, (_, answer.errors), mapError_eq_ok_iff.mpr
      (TableApi.execute_eq_ok_iff.mpr ⟨answer, ?_, rfl, rfl⟩), ?_⟩
    · rw [childQuery_over.1]
      exact htable
    · rw [hrows]
      dsimp only
      rw [if_neg (by simp [herrors, hshort parent answer]), hchecks]
      exact congrArg Except.ok (childPage_eq hlimit)

/-- What follows a query over a table is the page of its rows. -/
theorem query_page_iff {table : String} {limit : Nat} {cursor : Option String} {s : Snapshot}
    {page : RecordQueryPage} {queried : Except PageError TableApi}
    (hover : ∀ query, queried = .ok query → query.Over table limit) :
    (queried >>= fun query => query.page provider cursor s) = .ok page ↔
      ∃ query answer, queried = .ok query ∧ s.tables table = .ok answer ∧
        page = livePage limit (query.inspected provider cursor answer.table) := by
  rw [bind_eq_ok_iff]
  constructor
  · rintro ⟨query, hquery, hpage⟩
    obtain ⟨answer, htable, rfl⟩ := TableApi.page_eq_ok_iff.mp hpage
    obtain ⟨htable', hlimit⟩ := hover query hquery
    rw [htable'] at htable
    exact ⟨query, answer, hquery, htable, by rw [hlimit]⟩
  · rintro ⟨query, answer, hquery, htable, rfl⟩
    obtain ⟨htable', hlimit⟩ := hover query hquery
    refine ⟨query, hquery, TableApi.page_eq_ok_iff.mpr ⟨answer, ?_, by rw [hlimit]⟩⟩
    rw [htable']
    exact htable

namespace PagedOperation

/-- The limit of a request is in its bounds. -/
def LimitValid (op : PagedOperation) : Prop := 1 ≤ op.pageLimit ∧ op.pageLimit ≤ 200

/-- Whether an answer is taken: a child query refuses one with errors. -/
def accepts (op : PagedOperation) (answer : LiveAnswer) : Bool :=
  match op.request with
  | .recordQuery (.resourcePlan _) | .recordQuery (.projectTask _) | .recordQuery (.task _) =>
    answer.errors.isEmpty
  | _ => true

variable {op : PagedOperation} {lib : CoreLib} {cursor : Option String} {s : Snapshot}
  {page : RecordQueryPage}

/-- The page that a call answers with. -/
def answerPage (lib : CoreLib) (op : PagedOperation) (rows : List Record) : RecordQueryPage :=
  { livePage op.pageLimit rows with records := rows.filter (op.keeps lib) }

/-- A call answers with a page just when its limit is valid, its query can be made and its table
answers with rows that are taken; the page is then cut from those. -/
def AnswersPage (op : PagedOperation) (provider : Provider) (lib : CoreLib)
    (cursor : Option String) (s : Snapshot) (page : RecordQueryPage) : Prop :=
  op.call provider lib cursor s = .ok page ↔ op.LimitValid ∧ ∃ query answer,
    op.query provider s = .ok query ∧ s.tables op.table = .ok answer ∧ op.accepts answer = true ∧
      page = op.answerPage lib (query.inspected provider cursor answer.table)

/-- An operation without a local filter answers with all rows of its page. -/
theorem answerPage_of_keeps (h : ∀ r, op.keeps lib r = true) (rows : List Record) :
    op.answerPage lib rows = livePage op.pageLimit rows := by
  simp [answerPage, livePage, h]

theorem validated_iff {f : Nat → Except PageError RecordQueryPage} {wrap : String → PageError} :
    (((validateLimit op.limit).mapError wrap) >>= f) = .ok page ↔
      op.LimitValid ∧ f op.pageLimit = .ok page := by
  rw [bind_eq_ok_iff]
  simp only [mapError_eq_ok_iff, validateLimit_eq_ok_iff]
  constructor
  · rintro ⟨_, ⟨rfl, hlow, hhigh⟩, hf⟩
    exact ⟨⟨hlow, hhigh⟩, hf⟩
  · rintro ⟨⟨hlow, hhigh⟩, hf⟩
    exact ⟨_, ⟨rfl, hlow, hhigh⟩, hf⟩

section

variable (hlegal : ∀ k ∈ cursor, IsSysId k)

include hlegal

theorem recordQuery_eq_ok_iff {input : RecordQueryInput} (hrequest : op.request = .recordQuery input) :
    op.AnswersPage provider lib cursor s page := by
  have hpage := answerPage_of_keeps fun r => show op.keeps lib r = true by simp [keeps, hrequest]
  simp only [AnswersPage, call, hrequest, recordQuery, hpage]
  rw [validated_iff]
  refine and_congr_right fun hvalid => ?_
  rw [normalizeCursor_legal hlegal]
  cases input with
  | resourcePlan filters =>
    refine (queryChildren_eq_ok_iff hvalid.1).trans ?_
    simp only [query, table, accepts, hrequest]
  | projectTask filters =>
    refine (queryChildren_eq_ok_iff hvalid.1).trans ?_
    simp only [query, table, accepts, hrequest]
  | task filters =>
    refine (queryChildren_eq_ok_iff hvalid.1).trans ?_
    simp only [query, table, accepts, hrequest]
  | changeRequest filters =>
    refine Iff.trans (query_page_iff fun query hquery => changeRequestQuery_over hquery) ?_
    simp [query, table, accepts, hrequest]
  | story filters =>
    refine Iff.trans (query_page_iff fun query hquery => storyQuery_over hquery) ?_
    simp [query, table, accepts, hrequest]

theorem changeRequestListTasks_eq_ok_iff {number : String} (hrequest : op.request = .changeRequestListTasks number) :
    op.AnswersPage provider lib cursor s page := by
  have hpage := answerPage_of_keeps fun r => show op.keeps lib r = true by simp [keeps, hrequest]
  simp only [AnswersPage, call, hrequest, changeRequestListTasks, hpage]
  rw [validated_iff]
  refine and_congr_right fun hvalid => ?_
  rw [normalizeCursor_legal hlegal]
  refine TableApi.page_eq_ok_iff.trans ?_
  simp [query, table, accepts, hrequest, TableApi.filter, TableApi.new]

theorem incidentList_eq_ok_iff (hrequest : op.request = .incidentListByAssignmentGroup input) :
    op.AnswersPage provider lib cursor s page := by
  simp only [AnswersPage, call, hrequest, incidentListByAssignmentGroup]
  rw [normalizeGroupCursor_legal hlegal]
  have hkeeps : op.keeps lib = servicenowRecordIsOpenUserWork lib := by
    funext r
    simp [keeps, hrequest]
  refine validated_iff.trans (and_congr_right fun _ => ?_)
  rw [← bind_assoc, bind_eq_ok_iff]
  simp only [query_page_iff fun query hquery => incidentGroupQuery_over hquery, Pure.pure,
    Except.pure, Except.ok.injEq]
  constructor
  · rintro ⟨_, ⟨found, answer, hquery, htable, rfl⟩, rfl⟩
    exact ⟨found, answer, by simpa [query, hrequest] using hquery, by simpa [table, hrequest],
      by simp [accepts, hrequest], by simp [answerPage, hkeeps, livePage]⟩
  · rintro ⟨found, answer, hquery, htable, _, rfl⟩
    exact ⟨_, ⟨found, answer, by simpa [query, hrequest] using hquery,
      by simpa [table, hrequest] using htable, rfl⟩, by simp [answerPage, hkeeps, livePage]⟩

theorem incidentQuery_eq_ok_iff (hrequest : op.request = .incidentQuery filters) :
    op.AnswersPage provider lib cursor s page := by
  have hpage := answerPage_of_keeps fun r => show op.keeps lib r = true by simp [keeps, hrequest]
  have hcursor : normalizeIncidentCursor cursor = .ok cursor := by
    cases cursor with
    | none => rfl
    | some k => simp [normalizeIncidentCursor, (hlegal k rfl).normalize]
  simp only [AnswersPage, call, hrequest, incidentQuery, hpage]
  by_cases hvalid : op.LimitValid
  · rw [if_neg (by have := hvalid.1; have := hvalid.2; simp only [pageLimit] at *; omega), hcursor]
    simp only [hvalid, true_and, query, table, accepts, hrequest]
    show (incidentTableQuery filters op.pageLimit s >>= _) = _ ↔ _
    simp only [bind_eq_ok_iff, mapError_eq_ok_iff, Prod.exists, TableApi.execute_eq_ok_iff,
      Pure.pure, Except.pure, Except.ok.injEq]
    constructor
    · rintro ⟨found, hquery, _, _, ⟨answer, htable, rfl, rfl⟩, rfl⟩
      obtain ⟨htable', hlimit⟩ := incidentTableQuery_over hquery
      exact ⟨found, answer, hquery, by rw [← htable']; exact htable, rfl⟩
    · rintro ⟨found, answer, hquery, htable, rfl⟩
      obtain ⟨htable', hlimit⟩ := incidentTableQuery_over hquery
      exact ⟨found, hquery, _, _, ⟨answer, by rw [htable']; exact htable, rfl, rfl⟩, rfl⟩
  · rw [if_pos (by simp only [LimitValid, pageLimit] at *; omega)]
    simp only [hvalid, false_and, iff_false]
    intro h
    cases h

/-- **What a call answers.**  After a cursor that is a `sys_id`, each of the four operations
answers with the page of the first rows that match its filter, and keeps those its local filter
keeps; whether it answers at all does not depend on the cursor. -/
theorem call_eq_ok_iff :
    op.AnswersPage provider lib cursor s page := by
  cases hrequest : op.request with
  | recordQuery input => exact recordQuery_eq_ok_iff hlegal hrequest
  | changeRequestListTasks number => exact changeRequestListTasks_eq_ok_iff hlegal hrequest
  | incidentListByAssignmentGroup input => exact incidentList_eq_ok_iff hlegal hrequest
  | incidentQuery filters => exact incidentQuery_eq_ok_iff hlegal hrequest

end

theorem query_limit {query : TableApi} (h : op.query provider s = .ok query) :
    query.limit = op.pageLimit := by
  unfold PagedOperation.query at h
  split at h
  · obtain ⟨_, _, rfl⟩ := map_eq_ok_iff.mp h
    exact childQuery_over.2
  · obtain ⟨_, _, rfl⟩ := map_eq_ok_iff.mp h
    exact childQuery_over.2
  · obtain ⟨_, _, rfl⟩ := map_eq_ok_iff.mp h
    exact childQuery_over.2
  · exact (changeRequestQuery_over h).2
  · exact (storyQuery_over h).2
  · cases h
    rfl
  · exact (incidentGroupQuery_over h).2
  · exact (incidentTableQuery_over h).2

/-- Each operation reads pages by `sys_id`. -/
theorem pages : Pages Record.sysId IsSysId (op.read provider lib) op.rows (op.wanted provider)
    (op.keeps lib) op.pageLimit where
  legalKeys t r hr := by
    unfold PagedOperation.rows at hr
    cases htable : t.tables op.table with
    | error err => simp [htable] at hr
    | ok answer =>
      simp only [htable] at hr
      exact answer.table.wellFormed r hr
  page {cursor t page} hlegal hread := by
    obtain ⟨answered, hcall, rfl⟩ := map_eq_ok_iff.mp hread
    obtain ⟨hvalid, found, answer, hquery, htable, _, rfl⟩ := (call_eq_ok_iff hlegal).mp hcall
    have hlimit := query_limit hquery
    have hfirst := found.first_inspected provider cursor answer.table
    refine ⟨hvalid.1, found.inspected provider cursor answer.table, ?_, ?_⟩
    · rw [hlimit] at hfirst
      simpa [wanted, rows, hquery, htable] using hfirst
    · simp [answerPage, RecordQueryPage.toPage, livePage, pageOf]

end PagedOperation

end SnowAgent.Core
