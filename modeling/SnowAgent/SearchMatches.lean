import SnowAgent.RecordPrune
import SnowAgent.Representatives

/-! # The matches of a search

The full text index gives the first twenty matches of a query by their numbers, and every number is
turned back into the row that is preferred for it; the scope of the search is looked at last.  Where
numbers are shared, the row that is listed need not be the one that matched.
-/
namespace SnowAgent.Core

open Json Representatives

/-! ## The search -/

/-- `SnowRecord`, with the work notes that a scope looks at. -/
structure SearchedRecord extends CachedRecord where
  workNotes : List String

/-- What is left open: how the Markdown of a row of some type is read, and the journal entries of a
field of its JSON. -/
structure SearchLib where
  parseMarkdown : ResourceType → String → Option SearchedRecord
  /-- `collect_journals`. -/
  collectJournals : Value → String → List String

/-- `SearchScope`. -/
inductive SearchScope where
  | all
  | knowledge
  | workNotes
deriving DecidableEq

/-- `MatchField`. -/
inductive MatchField where
  | number
  | shortDescription
  | description
  | workNotes
  | content
  | tag
  | keyword
  | alias
deriving DecidableEq

/-- `SearchMatchReason`. -/
structure SearchMatchReason where
  field : MatchField
  value : String
deriving DecidableEq

/-- `SearchResult`. -/
structure SearchResult where
  record : RecordRef
  snippet : String
  score : Int
  matchIn : MatchField
  matchedValue : Option String
  reasons : List SearchMatchReason
deriving DecidableEq

/-- `matches_scope`. -/
def matchesScope (record : SearchedRecord) : SearchScope → Bool
  | .all => true
  | .knowledge => decide (record.resourceType = .knowledge)
  | .workNotes => !record.workNotes.isEmpty

/-- `search_result_from_record`. -/
def searchResultFromRecord (record : SearchedRecord) (matchIn : MatchField)
    (matchedValue : Option String) (reasons : List SearchMatchReason) : SearchResult where
  record := ⟨record.sysId, record.number, record.table⟩
  snippet := record.shortDescription
  score := 0
  matchIn := matchIn
  matchedValue := matchedValue
  reasons := reasons

section

variable (lib : SearchLib) (files : Table String String) (table : RecordTable)

/-- `materialize_record`. -/
def SearchLib.materialize (row : RecordRow) : SearchedRecord :=
  ((row.filePath.bind files.row).bind (lib.parseMarkdown row.resourceType)).getD
    { materializeRecordFromJson row with
      workNotes := lib.collectJournals row.rawJson "work_notes" }

/-- `search_fts`: the numbers of the first rows in scope that match, in the order of their rank. -/
def searchFts (matched : List RecordRow) (limit : Nat) : List String :=
  ((matched.filter fun row => row.inScope).take limit).map RecordRow.number

/-- One number of `search`. -/
def searchNumber (scope : SearchScope) (number : String) : Option SearchResult :=
  match table.getPrimaryRecordByNumber number with
  | none => none
  | some row =>
    let record := lib.materialize files row
    if matchesScope record scope then
      some (searchResultFromRecord record .shortDescription (some record.shortDescription)
        [⟨.shortDescription, record.shortDescription⟩])
    else none

/-- `search`, of a query that matches some rows. -/
def search (matched : List RecordRow) (scope : SearchScope) : List SearchResult :=
  (searchFts matched 20).filterMap (searchNumber lib files table scope)

/-! ## What a search has to list -/

/-- A row is in the scope of a search. -/
def inSearch (scope : SearchScope) (row : RecordRow) : Bool :=
  matchesScope (lib.materialize files row) scope

/-- **A search lists what matched**: the matching rows that are in the search scope, each once and in
the order of their rank, up to twenty of them. -/
def ListsMatches (matched : List RecordRow) (scope : SearchScope) : Prop :=
  (search lib files table matched scope).map (·.record.sysId) =
    ((matched.filter fun row => row.inScope && inSearch lib files scope row).take 20).map
      RecordRow.sysId

/-- What matched: rows of the table, each once. -/
structure Matched (matched : List RecordRow) : Prop where
  rows : ∀ row ∈ matched, row ∈ table.rows
  nodup : matched.Nodup

/-- The file of a row, if it can be read, is that of its record. -/
def OwnDocuments : Prop := ∀ row ∈ table.rows, (lib.materialize files row).sysId = row.sysId

/-- The row that is preferred for the number of a row. -/
def primaryOf (row : RecordRow) : RecordRow := (table.getPrimaryRecordByNumber row.number).getD row

/-- The matches that are asked for. -/
def firstMatches (matched : List RecordRow) : List RecordRow :=
  (matched.filter fun row => row.inScope).take 20

/-- The matches that are not. -/
def laterMatches (matched : List RecordRow) : List RecordRow :=
  (matched.filter fun row => row.inScope).drop 20

/-- **Matches stand for themselves**: each of the first twenty that is in the search scope is
preferred for its number, and those that are not in it, but whose number has a preferred row that
is, come last and stand, in order, for the matches in the search scope that are still wanted from
behind the first twenty. -/
structure StandForThemselves (matched : List RecordRow) (scope : SearchScope) : Prop where
  own : ∀ row ∈ firstMatches matched, inSearch lib files scope row = true →
    primaryOf table row = row
  last : (firstMatches matched).filter (fun row => inSearch lib files scope (primaryOf table row)) =
    (firstMatches matched).filter (inSearch lib files scope) ++
      strangers (inSearch lib files scope) (primaryOf table) (firstMatches matched)
  next : (strangers (inSearch lib files scope) (primaryOf table) (firstMatches matched)).map
      (primaryOf table) =
    ((laterMatches matched).filter (inSearch lib files scope)).take
      (20 - ((firstMatches matched).filter (inSearch lib files scope)).length)

end

section

variable {lib : SearchLib} {files : Table String String} {table : RecordTable}
variable {matched : List RecordRow} {scope : SearchScope} {row : RecordRow}

theorem primaryOf_some (h : row ∈ table.rows) :
    table.getPrimaryRecordByNumber row.number = some (primaryOf table row) := by
  obtain ⟨primary, hprimary⟩ := exists_primary h
  rw [primaryOf, hprimary, Option.getD_some]

theorem primaryOf_mem (h : row ∈ table.rows) : primaryOf table row ∈ table.rows :=
  (getPrimaryRecordByNumber_first (primaryOf_some h)).mem

theorem primaryOf_idem (row : RecordRow) :
    primaryOf table (primaryOf table row) = primaryOf table row := by
  rcases hprimary : table.getPrimaryRecordByNumber row.number with _ | primary
  · have hsame : primaryOf table row = row := by rw [primaryOf, hprimary, Option.getD_none]
    rw [hsame, hsame]
  · have hsame : primaryOf table row = primary := by rw [primaryOf, hprimary, Option.getD_some]
    have hnumber := (getPrimaryRecordByNumber_first hprimary).named
    rw [hsame, primaryOf, hnumber, hprimary, Option.getD_some]

/-- What a search lists, by the rows that are preferred. -/
theorem search_sysIds (hown : OwnDocuments lib files table) (hmatched : Matched table matched) :
    (search lib files table matched scope).map (·.record.sysId) =
      ((((firstMatches matched).filter fun row => inSearch lib files scope (primaryOf table row)).map
        (primaryOf table)).map RecordRow.sysId) := by
  have hrows : ∀ row ∈ firstMatches matched, row ∈ table.rows := fun row hrow =>
    hmatched.rows row (List.mem_filter.mp (List.mem_of_mem_take hrow)).1
  rw [search, searchFts]
  change (((firstMatches matched).map RecordRow.number).filterMap _).map _ = _
  generalize firstMatches matched = rows at hrows
  induction rows with
  | nil => rfl
  | cons row rows ih =>
    have hrow := hrows row List.mem_cons_self
    have hrest := ih fun other hother => hrows other (List.mem_cons_of_mem _ hother)
    rw [List.map_cons, List.filterMap_cons, searchNumber, primaryOf_some hrow, List.filter_cons,
      inSearch]
    by_cases hscope : matchesScope (lib.materialize files (primaryOf table row)) scope = true
    · simp only [if_pos hscope, List.map_cons, hrest]
      rw [searchResultFromRecord, hown _ (primaryOf_mem hrow)]
    · simp only [if_neg hscope, hrest]

/-- Rows of the table are told apart by their `sys_id`s. -/
theorem map_sysId_inj {rows others : List RecordRow} (hrows : ∀ row ∈ rows, row ∈ table.rows)
    (hothers : ∀ row ∈ others, row ∈ table.rows) :
    rows.map RecordRow.sysId = others.map RecordRow.sysId ↔ rows = others := by
  refine ⟨fun h => ?_, fun h => by rw [h]⟩
  induction rows generalizing others with
  | nil => exact (List.map_eq_nil_iff.mp h.symm).symm
  | cons row rows ih =>
    rcases others with _ | ⟨other, others⟩
    · cases h
    · obtain ⟨hid, hrest⟩ := List.cons.inj h
      rw [List.inj_on_of_nodup_map table.keys (hrows row List.mem_cons_self)
        (hothers other List.mem_cons_self) hid,
        ih (fun r hr => hrows r (List.mem_cons_of_mem _ hr))
          (fun r hr => hothers r (List.mem_cons_of_mem _ hr)) hrest]

/-- **A search lists what matched if and only if the matches stand for themselves.** -/
theorem search_lists_matches_iff (lib : SearchLib) (files : Table String String)
    (table : RecordTable) (matched : List RecordRow) (scope : SearchScope)
    (hown : OwnDocuments lib files table) (hmatched : Matched table matched) :
    ListsMatches lib files table matched scope ↔
      StandForThemselves lib files table matched scope := by
  have hsplit : firstMatches matched ++ laterMatches matched =
      matched.filter fun row => row.inScope := List.take_append_drop 20 _
  have hwanted : (matched.filter fun row => row.inScope && inSearch lib files scope row) =
      (firstMatches matched ++ laterMatches matched).filter (inSearch lib files scope) := by
    rw [hsplit, List.filter_filter]
    exact List.filter_congr fun row _ => Bool.and_comm _ _
  have hnodup : (firstMatches matched ++ laterMatches matched).Nodup := by
    rw [hsplit]
    exact hmatched.nodup.filter _
  have hfirst : (firstMatches matched).length ≤ 20 := List.length_take_le 20 _
  have hiff : (((firstMatches matched).filter fun row =>
      inSearch lib files scope (primaryOf table row)).map (primaryOf table)) =
        ((firstMatches matched ++ laterMatches matched).filter (inSearch lib files scope)).take 20 ↔
          _ :=
    representatives_eq_iff primaryOf_idem hnodup hfirst
  have hin : ∀ row ∈ firstMatches matched ++ laterMatches matched, row ∈ table.rows := by
    rw [hsplit]
    exact fun row hrow => hmatched.rows row (List.mem_filter.mp hrow).1
  rw [ListsMatches, search_sysIds hown hmatched, hwanted, map_sysId_inj, hiff]
  · exact ⟨fun h => ⟨h.1, h.2.1, h.2.2⟩, fun h => ⟨h.own, h.last, h.next⟩⟩
  · intro row hrow
    obtain ⟨other, hother, rfl⟩ := List.mem_map.mp hrow
    exact primaryOf_mem (hin other (List.mem_append_left _ (List.mem_filter.mp hother).1))
  · intro row hrow
    exact hin row (List.mem_filter.mp (List.mem_of_mem_take hrow)).1

end

/-! ## Rows without a number -/

/-- A reader of no Markdown and no journals. -/
def plainSearchLib : SearchLib := ⟨fun _ _ => none, fun _ _ => []⟩

/-- A server's row, which has no number. -/
def unnumbered (sysId : String) : RecordRow where
  sysId := sysId
  number := ""
  tableName := "cmdb_ci_server"
  resourceType := .server
  state := none
  shortDesc := some "web"
  description := none
  filePath := none
  syncedAt := 0
  inScope := true
  rawJson := .null

/-- One row without a number. -/
def oneUnnumbered : RecordTable := ⟨[unnumbered "a1"], List.nodup_singleton _⟩

/-- Two rows without a number. -/
def twoUnnumbered : RecordTable := ⟨[unnumbered "a1", unnumbered "a2"], by decide⟩

/-- A row that is the only one of its number is listed. -/
theorem search_lists_only_row :
    ListsMatches plainSearchLib Table.empty oneUnnumbered [unnumbered "a1"] .all := by
  refine (search_lists_matches_iff plainSearchLib Table.empty oneUnnumbered [unnumbered "a1"] .all
    ?_ ⟨fun _ h => h, List.nodup_singleton _⟩).mpr ⟨?_, ?_, ?_⟩
  · intro row hrow
    obtain rfl := List.mem_singleton.mp hrow
    rfl
  · intro row hrow _
    obtain rfl := List.mem_singleton.mp hrow
    exact List.mem_singleton.mp (primaryOf_mem (List.mem_singleton_self _))
  · rfl
  · rfl

/-- **Two rows share the empty number.**  Both match, and one of them is listed twice. -/
theorem search_lists_one_twice :
    (search plainSearchLib Table.empty twoUnnumbered [unnumbered "a1", unnumbered "a2"] .all).map
        (·.record.sysId) = ["a1", "a1"] ∧
      ¬ ListsMatches plainSearchLib Table.empty twoUnnumbered [unnumbered "a1", unnumbered "a2"]
        .all := by
  have htwice : (search plainSearchLib Table.empty twoUnnumbered
      [unnumbered "a1", unnumbered "a2"] .all).map (·.record.sysId) = ["a1", "a1"] := by
    decide +kernel
  refine ⟨htwice, fun h => ?_⟩
  rw [ListsMatches, htwice] at h
  exact absurd h (by decide)

end SnowAgent.Core
