import Mathlib.Data.Int.ConditionallyCompleteOrder
import Mathlib.Data.Prod.Lex
import Mathlib.Data.Rat.Floor
import SnowAgent.Enrichment

/-! # Search by enrichment

The values that are derived of the records are stored as they are, and looked up as search terms.
What is found of a record is gathered under its `sys_id`: each tag, keyword, alias or other match
adds to its score and is one of its reasons.
-/
namespace SnowAgent.Core

open Json Text Knowledge CachePolicy StoryWrite

/-! ## The stored values -/

/-- `TagRow`, `KeywordRow` or `AliasRow`, with what the row has besides. -/
structure EnrichmentRow (Rest : Type) where
  recordSysId : String
  value : String
  source : String
  rest : Rest

/-- The tables of the stored values; an alias has a kind in place of a weight. -/
structure EnrichmentStore where
  tags : List (EnrichmentRow ℚ)
  keywords : List (EnrichmentRow ℚ)
  aliases : List (EnrichmentRow String)

/-- What a row of a kind has besides. -/
def EnrichmentMatch.Rest : EnrichmentMatch → Type
  | .tag => ℚ
  | .keyword => ℚ
  | .alias => String

/-- The rows of a kind. -/
def EnrichmentStore.rows (store : EnrichmentStore) :
    (kind : EnrichmentMatch) → List (EnrichmentRow kind.Rest)
  | .tag => store.tags
  | .keyword => store.keywords
  | .alias => store.aliases

/-- No stored values. -/
def EnrichmentStore.empty : EnrichmentStore := ⟨[], [], []⟩

section

variable {Rest : Type}

/-- `INSERT .. ON CONFLICT DO UPDATE`. -/
def insertRow (rows : List (EnrichmentRow Rest)) (row : EnrichmentRow Rest) :
    List (EnrichmentRow Rest) :=
  if rows.any fun other => other.recordSysId = row.recordSysId && other.value = row.value then
    rows.map fun other =>
      if other.recordSysId = row.recordSysId ∧ other.value = row.value then row else other
  else rows ++ [row]

/-- `replace_tags`, `replace_keywords` and `replace_aliases`. -/
def replaceRows (rows : List (EnrichmentRow Rest)) (recordSysId : String)
    (replacing : List (EnrichmentRow Rest)) : List (EnrichmentRow Rest) :=
  replacing.foldl insertRow (rows.filter fun row => row.recordSysId ≠ recordSysId)

/-- `list_tags`, `list_keywords` and `list_aliases`. -/
def valueRows (rows : List (EnrichmentRow Rest)) (recordSysId : String) :
    List (EnrichmentRow Rest) :=
  (rows.filter fun row => row.recordSysId = recordSysId).mergeSort fun a b => a.value ≤ b.value

/-- A record has a stored value. -/
def Carries (rows : List (EnrichmentRow Rest)) (recordSysId value : String) : Prop :=
  ∃ row ∈ rows, row.recordSysId = recordSysId ∧ row.value = value

instance (rows : List (EnrichmentRow Rest)) (recordSysId value : String) :
    Decidable (Carries rows recordSysId value) :=
  inferInstanceAs (Decidable (∃ row ∈ rows, row.recordSysId = recordSysId ∧ row.value = value))

/-- The rows in scope of the records that have a value. -/
def carriers (table : RecordTable) (rows : List (EnrichmentRow Rest)) (value : String) :
    List RecordRow :=
  table.rows.filter fun row => row.inScope && decide (Carries rows row.sysId value)

/-- `find_record_sys_ids_by_enrichment`. -/
def findRecordSysIdsByEnrichment (table : RecordTable) (rows : List (EnrichmentRow Rest))
    (value : String) (limit : Nat) : List String :=
  (((carriers table rows value).mergeSort fun a b =>
    decide (toLex (a.number, a.sysId) ≤ toLex (b.number, b.sysId))).take limit).map RecordRow.sysId

end

/-- The rows of the candidates of a record. -/
def enrichmentRows {Rest : Type} (recordSysId : String) (rest : EnrichmentCandidate → Rest)
    (candidates : List EnrichmentCandidate) : List (EnrichmentRow Rest) :=
  candidates.map fun candidate =>
    ⟨recordSysId, candidate.value, enrichmentOriginLabel candidate.origin, rest candidate⟩

/-- `persist_enrichment`. -/
def persistEnrichment (store : EnrichmentStore) (record : JournaledRecord) : EnrichmentStore where
  tags := replaceRows store.tags record.sysId
    (enrichmentRows record.sysId EnrichmentCandidate.weight (deriveTags record))
  keywords := replaceRows store.keywords record.sysId
    (enrichmentRows record.sysId EnrichmentCandidate.weight (deriveKeywords record))
  aliases := replaceRows store.aliases record.sysId
    (enrichmentRows record.sysId (fun candidate => enrichmentOriginLabel candidate.origin)
      (deriveAliases record))

/-- What the row of a candidate has besides. -/
def EnrichmentMatch.rest : (kind : EnrichmentMatch) → EnrichmentCandidate → kind.Rest
  | .tag => EnrichmentCandidate.weight
  | .keyword => EnrichmentCandidate.weight
  | .alias => fun candidate => enrichmentOriginLabel candidate.origin

theorem rows_persistEnrichment {store : EnrichmentStore} {record : JournaledRecord}
    (kind : EnrichmentMatch) : (persistEnrichment store record).rows kind =
      replaceRows (store.rows kind) record.sysId
        (enrichmentRows record.sysId kind.rest (kind.derive record)) := by
  cases kind <;> rfl

/-- The store after records have been persisted, one after the other. -/
def persistAll (records : List JournaledRecord) : EnrichmentStore :=
  records.foldl persistEnrichment .empty

/-! ## Candidates -/

/-- `match_priority`. -/
def matchPriority : MatchField → Int
  | .number => 5
  | .alias => 4
  | .tag => 3
  | .keyword => 2
  | .shortDescription => 1
  | .description => 0
  | .workNotes => 0
  | .content => 0

/-- `normalized_source`. -/
def normalizedSource (source : Option String) : String := toAsciiLowercase (trim (source.getD ""))

/-- `source_bonus`. -/
def sourceBonus (source : Option String) : Int :=
  if normalizedSource source = "manual" then 20
  else if normalizedSource source = "curated" then 15
  else 0

/-- `source_priority`. -/
def sourcePriority (source : Option String) : Int :=
  if normalizedSource source = "manual" then 3
  else if normalizedSource source = "curated" then 2
  else if ["derived", "generated", "system", "inferred"].contains (normalizedSource source) then 1
  else 0

/-- `keyword_score`; a half is rounded up. -/
def keywordScore (weight : ℚ) : Int := ⌊50 * max weight 0 + 1 / 2⌋

/-- `RankedSearchCandidate`; the value's priority is none before there is a value. -/
structure RankedSearchCandidate where
  record : SearchedRecord
  score : Int
  matchIn : MatchField
  matchPriority : Int
  sourcePriority : Int
  matchedValue : Option String
  matchedValuePriority : Option Int
  reasons : List SearchMatchReason
  exactBonusesApplied : Bool

namespace RankedSearchCandidate

/-- `new`. -/
def new (record : SearchedRecord) : RankedSearchCandidate where
  record := record
  score := 0
  matchIn := .shortDescription
  matchPriority := Core.matchPriority .shortDescription
  sourcePriority := 0
  matchedValue := none
  matchedValuePriority := none
  reasons := []
  exactBonusesApplied := false

variable (candidate : RankedSearchCandidate)

/-- `push_reason`. -/
def pushReason (reason : SearchMatchReason) : List SearchMatchReason :=
  if candidate.reasons.contains reason then candidate.reasons else candidate.reasons ++ [reason]

/-- `add_contribution`. -/
def addContribution (score : Int) (matchIn : MatchField) (matchedValue : String)
    (source : Option String) : RankedSearchCandidate where
  record := candidate.record
  score := candidate.score + (score + sourceBonus source)
  matchIn := if candidate.matchPriority < Core.matchPriority matchIn then matchIn
    else candidate.matchIn
  matchPriority := max candidate.matchPriority (Core.matchPriority matchIn)
  sourcePriority := max candidate.sourcePriority (Core.sourcePriority source)
  matchedValue := if candidate.matchedValuePriority.all fun priority =>
    decide (priority < Core.matchPriority matchIn) then some matchedValue
    else candidate.matchedValue
  matchedValuePriority := if candidate.matchedValuePriority.all fun priority =>
    decide (priority < Core.matchPriority matchIn) then some (Core.matchPriority matchIn)
    else candidate.matchedValuePriority
  reasons := candidate.pushReason ⟨matchIn, matchedValue⟩
  exactBonusesApplied := candidate.exactBonusesApplied

/-- The bonus for a number. -/
def numberBonus (normalizedQuery : String) : RankedSearchCandidate :=
  if normalizeSearchTerm candidate.record.number = normalizedQuery then
    candidate.addContribution 30 .number candidate.record.number none
  else candidate

/-- The bonus for a short description. -/
def titleBonus (normalizedQuery : String) : RankedSearchCandidate :=
  if normalizeSearchTerm candidate.record.shortDescription = normalizedQuery then
    candidate.addContribution 15 .shortDescription candidate.record.shortDescription none
  else candidate

/-- `apply_exact_bonuses`. -/
def applyExactBonuses (normalizedQuery : String) : RankedSearchCandidate :=
  if candidate.exactBonusesApplied then candidate
  else
    ((({ candidate with exactBonusesApplied := true } : RankedSearchCandidate).numberBonus
      normalizedQuery).titleBonus normalizedQuery)

/-- `into_result`. -/
def intoResult : SearchResult :=
  { searchResultFromRecord candidate.record candidate.matchIn candidate.matchedValue
      candidate.reasons with score := candidate.score }

/-- The order of the candidates: by score, priorities of match, source and value, all downwards,
then by number and `sys_id`. -/
def place : ℤᵒᵈ ×ₗ ℤᵒᵈ ×ₗ ℤᵒᵈ ×ₗ (WithBot ℤ)ᵒᵈ ×ₗ String ×ₗ String :=
  toLex (OrderDual.toDual candidate.score,
    toLex (OrderDual.toDual (Core.matchPriority candidate.matchIn),
      toLex (OrderDual.toDual candidate.sourcePriority,
        toLex (OrderDual.toDual (candidate.matchedValuePriority : WithBot ℤ),
          toLex (candidate.record.number, candidate.record.sysId)))))

end RankedSearchCandidate

/-! ## The search -/

/-- The field of the reasons of a kind. -/
def EnrichmentMatch.field : EnrichmentMatch → MatchField
  | .tag => .tag
  | .keyword => .keyword
  | .alias => .alias

section

variable (lib : SearchLib) (files : Table String String) (table : RecordTable)
  (store : EnrichmentStore) (scope : SearchScope) (normalizedQuery : String)

/-- The candidates, once that of a record is changed; it is made if there is none. -/
def withCandidate (record : SearchedRecord)
    (change : RankedSearchCandidate → RankedSearchCandidate)
    (candidates : StringMap RankedSearchCandidate) : StringMap RankedSearchCandidate :=
  insertKey record.sysId (change ((candidates.get record.sysId).getD (.new record))) candidates

/-- What is added for the record of a row, if the row is there and its record in the scope. -/
def addRow (row : Option RecordRow) (change : RankedSearchCandidate → RankedSearchCandidate)
    (candidates : StringMap RankedSearchCandidate) : StringMap RankedSearchCandidate :=
  match row with
  | none => candidates
  | some row =>
    if matchesScope (lib.materialize files row) scope then
      withCandidate (lib.materialize files row) (fun candidate =>
        (change candidate).applyExactBonuses normalizedQuery) candidates
    else candidates

/-- One number of the full text index. -/
def addIndexed (candidates : StringMap RankedSearchCandidate) (number : String) :
    StringMap RankedSearchCandidate :=
  addRow lib files scope normalizedQuery (table.getPrimaryRecordByNumber number)
    (fun candidate =>
      candidate.addContribution 40 .shortDescription candidate.record.shortDescription none)
    candidates

/-- The query, as a number. -/
def addNumbered (query : String) (candidates : StringMap RankedSearchCandidate) :
    StringMap RankedSearchCandidate :=
  addRow lib files scope normalizedQuery (table.getPrimaryRecordByNumber query)
    (fun candidate => candidate.addContribution 30 .number candidate.record.number none) candidates

/-- What `add_exact_enrichment_candidate` adds: the first value of the record that reads as the
query. -/
def addMatch {Rest : Type} (rows : List (EnrichmentRow Rest)) (field : MatchField)
    (score : EnrichmentRow Rest → Int) (sysId : String) (candidate : RankedSearchCandidate) :
    RankedSearchCandidate :=
  match (valueRows rows sysId).find? fun row => normalizeSearchTerm row.value = normalizedQuery with
  | none => candidate
  | some row => candidate.addContribution (score row) field row.value (some row.source)

/-- `add_exact_enrichment_candidate`, of the rows of a kind. -/
def addExactEnrichmentCandidate {Rest : Type} (rows : List (EnrichmentRow Rest))
    (field : MatchField) (score : EnrichmentRow Rest → Int)
    (candidates : StringMap RankedSearchCandidate) (sysId : String) :
    StringMap RankedSearchCandidate :=
  addRow lib files scope normalizedQuery (table.getRecordBySysId sysId)
    (addMatch normalizedQuery rows field score sysId) candidates

/-- The candidates of a kind: those whose records are stored with the query as value. -/
def addEnrichment {Rest : Type} (rows : List (EnrichmentRow Rest)) (field : MatchField)
    (score : EnrichmentRow Rest → Int) (candidates : StringMap RankedSearchCandidate) :
    StringMap RankedSearchCandidate :=
  (findRecordSysIdsByEnrichment table rows normalizedQuery 20).foldl
    (addExactEnrichmentCandidate lib files table scope normalizedQuery rows field score) candidates

/-- The candidates of `search_enriched`, of a query for which the full text index gives some
numbers. -/
def searchCandidates (numbers : List String) (query : String) : StringMap RankedSearchCandidate :=
  let normalizedQuery := normalizeSearchTerm query
  let candidates := numbers.foldl (addIndexed lib files table scope normalizedQuery) []
  let candidates := addNumbered lib files table scope normalizedQuery query candidates
  let candidates := addEnrichment lib files table scope normalizedQuery store.tags .tag
    (fun _ => 70) candidates
  let candidates := addEnrichment lib files table scope normalizedQuery store.aliases .alias
    (fun _ => 100) candidates
  addEnrichment lib files table scope normalizedQuery store.keywords .keyword
    (fun row => keywordScore row.rest) candidates

/-- `search_enriched`. -/
def searchEnriched (numbers : List String) (query : String) : List SearchResult :=
  if normalizeSearchTerm query = "" ∧ trim query = "" then []
  else
    (((searchCandidates lib files table store scope numbers query).map Prod.snd).mergeSort
      fun a b => decide (a.place ≤ b.place)).map RankedSearchCandidate.intoResult

end

/-! ## The reasons of a candidate -/

namespace RankedSearchCandidate

variable {candidate : RankedSearchCandidate} {reason : SearchMatchReason} {normalizedQuery : String}

theorem mem_addContribution {score : Int} {field : MatchField} {value : String}
    {source : Option String} :
    reason ∈ (candidate.addContribution score field value source).reasons ↔
      reason ∈ candidate.reasons ∨ reason = ⟨field, value⟩ := by
  show reason ∈ candidate.pushReason ⟨field, value⟩ ↔ _
  unfold pushReason
  by_cases hmem : candidate.reasons.contains ⟨field, value⟩ = true
  · rw [if_pos hmem]
    refine ⟨.inl, fun h => h.elim id ?_⟩
    rintro rfl
    exact List.contains_iff_mem.mp hmem
  · rw [if_neg hmem, List.mem_append, List.mem_singleton]

theorem mem_applyExactBonuses (hnumber : reason.field ≠ .number)
    (htitle : reason.field ≠ .shortDescription) :
    reason ∈ (candidate.applyExactBonuses normalizedQuery).reasons ↔
      reason ∈ candidate.reasons := by
  have hbonus : ∀ c : RankedSearchCandidate,
      reason ∈ (c.numberBonus normalizedQuery).reasons ↔ reason ∈ c.reasons := by
    intro c
    unfold numberBonus
    split_ifs
    · rw [mem_addContribution, or_iff_left]
      rintro rfl
      exact hnumber rfl
    · exact Iff.rfl
  have hbonus' : ∀ c : RankedSearchCandidate,
      reason ∈ (c.titleBonus normalizedQuery).reasons ↔ reason ∈ c.reasons := by
    intro c
    unfold titleBonus
    split_ifs
    · rw [mem_addContribution, or_iff_left]
      rintro rfl
      exact htitle rfl
    · exact Iff.rfl
  unfold applyExactBonuses
  split_ifs
  · exact Iff.rfl
  · rw [hbonus', hbonus]

theorem record_applyExactBonuses :
    (candidate.applyExactBonuses normalizedQuery).record = candidate.record := by
  unfold applyExactBonuses titleBonus numberBonus
  split_ifs <;> rfl

end RankedSearchCandidate

section

variable {lib : SearchLib} {files : Table String String} {table : RecordTable}
variable {normalizedQuery key : String} {reason : SearchMatchReason}
variable {candidates : StringMap RankedSearchCandidate}

/-- A candidate has a reason. -/
def Given (candidates : StringMap RankedSearchCandidate) (key : String)
    (reason : SearchMatchReason) : Prop :=
  ∃ candidate, candidates.get key = some candidate ∧ reason ∈ candidate.reasons

variable {change : RankedSearchCandidate → RankedSearchCandidate} {record : SearchedRecord}

/-- What a change of a candidate adds to the reasons is added for the record it is of. -/
theorem given_withCandidate {P : Prop}
    (hchange : ∀ candidate, reason ∈ (change candidate).reasons ↔ reason ∈ candidate.reasons ∨ P) :
    Given (withCandidate record change candidates) key reason ↔
      Given candidates key reason ∨ (record.sysId = key ∧ P) := by
  unfold Given withCandidate
  simp only [get_insertKey]
  by_cases hkey : key = record.sysId
  · subst hkey
    simp only [if_pos, Option.some.injEq, exists_eq_left', hchange, true_and]
    cases candidates.get record.sysId with
    | none => simp [RankedSearchCandidate.new]
    | some candidate => simp
  · simp only [if_neg hkey, Ne.symm hkey, false_and, or_false]

variable {row : Option RecordRow}

theorem given_addRow {P : Prop} (hnumber : reason.field ≠ .number)
    (htitle : reason.field ≠ .shortDescription)
    (hchange : ∀ candidate, reason ∈ (change candidate).reasons ↔ reason ∈ candidate.reasons ∨ P) :
    Given (addRow lib files .all normalizedQuery row change candidates) key reason ↔
      Given candidates key reason ∨
        ((∃ found ∈ row, (lib.materialize files found).sysId = key) ∧ P) := by
  cases row with
  | none => simp [addRow]
  | some row =>
    have hscope : matchesScope (lib.materialize files row) .all = true := rfl
    unfold addRow
    dsimp only
    rw [if_pos hscope, given_withCandidate (P := P) fun candidate => by
      rw [RankedSearchCandidate.mem_applyExactBonuses hnumber htitle, hchange]]
    simp

/-- A step that adds no reason of a field keeps those of the field. -/
theorem given_addRow_none {score : RankedSearchCandidate → Int} {field : MatchField}
    {value : RankedSearchCandidate → String}
    (hnumber : reason.field ≠ .number) (htitle : reason.field ≠ .shortDescription)
    (hfield : reason.field ≠ field) :
    Given (addRow lib files .all normalizedQuery row (fun candidate =>
      candidate.addContribution (score candidate) field (value candidate) none) candidates) key
        reason ↔ Given candidates key reason := by
  rw [given_addRow (P := False) hnumber htitle, and_false, or_false]
  intro candidate
  rw [RankedSearchCandidate.mem_addContribution, or_congr_right]
  refine iff_of_false ?_ id
  rintro rfl
  exact hfield rfl

theorem given_foldl {α : Type} {step : StringMap RankedSearchCandidate → α →
    StringMap RankedSearchCandidate} {P : α → Prop} {xs : List α}
    (hstep : ∀ candidates, ∀ x ∈ xs, (Given (step candidates x) key reason ↔
      Given candidates key reason ∨ P x)) :
    Given (xs.foldl step candidates) key reason ↔ Given candidates key reason ∨ ∃ x ∈ xs, P x := by
  induction xs generalizing candidates with
  | nil => simp
  | cons x xs ih =>
    rw [List.foldl_cons, ih fun c y hy => hstep c y (List.mem_cons_of_mem _ hy),
      hstep candidates x List.mem_cons_self, or_assoc]
    simp

section

variable {Rest : Type} {rows : List (EnrichmentRow Rest)} {field : MatchField}
variable {score : EnrichmentRow Rest → Int}

/-- The value of a record that is found for a query. -/
def valueRead (rows : List (EnrichmentRow Rest)) (normalizedQuery sysId : String) : Option String :=
  ((valueRows rows sysId).find? fun row => normalizeSearchTerm row.value = normalizedQuery).map
    EnrichmentRow.value

/-- **What the lookup of a kind adds**: the values that are found, for the records of the documents
of the rows that are found. -/
theorem given_addEnrichment (hnumber : reason.field ≠ .number)
    (htitle : reason.field ≠ .shortDescription) :
    Given (addEnrichment lib files table .all normalizedQuery rows field score candidates) key
        reason ↔
      Given candidates key reason ∨
        ∃ sysId ∈ findRecordSysIdsByEnrichment table rows normalizedQuery 20,
          (∃ found ∈ table.getRecordBySysId sysId, (lib.materialize files found).sysId = key) ∧
            ∃ value ∈ valueRead rows normalizedQuery sysId, reason = ⟨field, value⟩ := by
  unfold addEnrichment
  refine given_foldl fun candidates sysId _ => ?_
  refine given_addRow hnumber htitle fun candidate => ?_
  unfold addMatch valueRead
  cases (valueRows rows sysId).find? fun row =>
      decide (normalizeSearchTerm row.value = normalizedQuery) with
  | none => simp
  | some row => simp [RankedSearchCandidate.mem_addContribution]

end

variable {store : EnrichmentStore} {numbers : List String} {query : String}

/-- **The reasons of a kind are what the lookup of that kind adds.** -/
theorem given_searchCandidates (kind : EnrichmentMatch) {value : String} :
    Given (searchCandidates lib files table store .all numbers query) key ⟨kind.field, value⟩ ↔
      ∃ sysId ∈ findRecordSysIdsByEnrichment table (store.rows kind) (normalizeSearchTerm query) 20,
        (∃ found ∈ table.getRecordBySysId sysId, (lib.materialize files found).sysId = key) ∧
          value ∈ valueRead (store.rows kind) (normalizeSearchTerm query) sysId := by
  have hnumber : (⟨kind.field, value⟩ : SearchMatchReason).field ≠ .number := by
    show kind.field ≠ .number
    cases kind <;> decide
  have htitle : (⟨kind.field, value⟩ : SearchMatchReason).field ≠ .shortDescription := by
    show kind.field ≠ .shortDescription
    cases kind <;> decide
  have hnone : ¬ Given (addNumbered lib files table .all (normalizeSearchTerm query) query
      (numbers.foldl (addIndexed lib files table .all (normalizeSearchTerm query)) [])) key
        ⟨kind.field, value⟩ := by
    rw [addNumbered, given_addRow_none hnumber htitle hnumber,
      given_foldl (P := fun _ => False) fun candidates number _ => by
        rw [addIndexed, given_addRow_none hnumber htitle htitle, or_false]]
    rintro (⟨candidate, hcandidate, -⟩ | ⟨number, -, hfalse⟩)
    · cases hcandidate
    · exact hfalse
  unfold searchCandidates
  simp only [given_addEnrichment hnumber htitle, hnone, false_or, SearchMatchReason.mk.injEq]
  cases kind
  · simp only [EnrichmentMatch.field, reduceCtorEq, false_and, and_false, exists_false, or_false,
      true_and, exists_eq_right']
    rfl
  · simp only [EnrichmentMatch.field, reduceCtorEq, false_and, and_false, exists_false, false_or,
      true_and, exists_eq_right']
    rfl
  · simp only [EnrichmentMatch.field, reduceCtorEq, false_and, and_false, exists_false, false_or,
      or_false, true_and, exists_eq_right']
    rfl

/-! ## The results -/

variable {scope : SearchScope}

/-- The candidates stand in the order of the `sys_id`s of their records. -/
structure Gathered (candidates : StringMap RankedSearchCandidate) : Prop where
  ordered : Ordered candidates
  keyed : ∀ entry ∈ candidates, entry.2.record.sysId = entry.1

theorem mem_of_get {A : Type} {m : StringMap A} {key : String} {value : A}
    (h : m.get key = some value) : (key, value) ∈ m := by
  obtain ⟨entry, hentry, rfl⟩ := Option.map_eq_some_iff.mp h
  have hkey : entry.1 = key := by simpa using List.find?_some hentry
  rw [← hkey]
  exact List.mem_of_find?_eq_some hentry

theorem gathered_withCandidate
    (hchange : ∀ candidate, (change candidate).record = candidate.record)
    (h : Gathered candidates) : Gathered (withCandidate record change candidates) := by
  refine ⟨insertKey_ordered h.ordered, fun entry hentry => ?_⟩
  rcases mem_insertKey hentry with rfl | hentry
  · show (change _).record.sysId = record.sysId
    rw [hchange]
    cases hfound : candidates.get record.sysId with
    | none => rfl
    | some candidate => exact h.keyed _ (mem_of_get hfound)
  · exact h.keyed entry hentry

theorem gathered_addRow (hchange : ∀ candidate, (change candidate).record = candidate.record)
    (h : Gathered candidates) :
    Gathered (addRow lib files scope normalizedQuery row change candidates) := by
  unfold addRow
  cases row with
  | none => exact h
  | some row =>
    dsimp only
    split_ifs
    · refine gathered_withCandidate (fun candidate => ?_) h
      rw [RankedSearchCandidate.record_applyExactBonuses, hchange]
    · exact h

theorem gathered_foldl {α : Type} {step : StringMap RankedSearchCandidate → α →
    StringMap RankedSearchCandidate} (hstep : ∀ candidates x, Gathered candidates →
      Gathered (step candidates x)) {xs : List α} (h : Gathered candidates) :
    Gathered (xs.foldl step candidates) := by
  induction xs generalizing candidates with
  | nil => exact h
  | cons x xs ih => exact ih (hstep candidates x h)

theorem gathered_addEnrichment {Rest : Type} {rows : List (EnrichmentRow Rest)}
    {field : MatchField} {score : EnrichmentRow Rest → Int}
    (h : Gathered candidates) : Gathered (addEnrichment lib files table scope normalizedQuery rows
      field score candidates) := by
  refine gathered_foldl (fun candidates sysId h => gathered_addRow (fun candidate => ?_) h) h
  unfold addMatch
  cases (valueRows rows sysId).find? fun row =>
      decide (normalizeSearchTerm row.value = normalizedQuery) <;> rfl

theorem gathered_searchCandidates :
    Gathered (searchCandidates lib files table store scope numbers query) := by
  have hempty : Gathered [] := ⟨List.Pairwise.nil, fun entry h => by cases h⟩
  refine gathered_addEnrichment (gathered_addEnrichment (gathered_addEnrichment ?_))
  refine gathered_addRow (fun _ => rfl) (gathered_foldl (fun candidates number h => ?_) hempty)
  exact gathered_addRow (fun _ => rfl) h

/-- The candidate of a record is the only one with its `sys_id`. -/
theorem filter_gathered (h : Gathered candidates) :
    (candidates.map Prod.snd).filter (fun candidate => candidate.record.sysId = key) =
      (candidates.get key).toList := by
  obtain ⟨hordered, hkeyed⟩ := h
  induction candidates with
  | nil => rfl
  | cons entry rest ih =>
    obtain ⟨hhead, hrest⟩ := List.pairwise_cons.mp hordered
    have hrest := ih hrest fun other hother => hkeyed other (List.mem_cons_of_mem _ hother)
    have hentry := hkeyed entry List.mem_cons_self
    by_cases hkey : entry.1 = key
    · have hnone : (rest.map Prod.snd).filter (fun c => c.record.sysId = key) = [] := by
        rw [List.filter_eq_nil_iff]
        intro candidate hcandidate
        obtain ⟨other, hother, rfl⟩ := List.mem_map.mp hcandidate
        have hlt := hhead other.1 (List.mem_map_of_mem hother)
        rw [hkeyed other (List.mem_cons_of_mem _ hother), decide_eq_true_eq, ← hkey]
        exact hlt.ne'
      rw [List.map_cons, List.filter_cons_of_pos (by rw [hentry, hkey]; exact decide_eq_true rfl),
        hnone]
      simp [StringMap.get, hkey]
    · rw [List.map_cons, List.filter_cons_of_neg (by rw [hentry]; simpa using hkey), hrest]
      simp [StringMap.get, hkey]

/-- **A record is listed once**, with some reason. -/
def ListsOnce (results : List SearchResult) (sysId : String) (reason : SearchMatchReason) : Prop :=
  ∃ result, results.filter (fun result => result.record.sysId = sysId) = [result] ∧
    reason ∈ result.reasons

theorem listsOnce_iff (h : Gathered candidates) :
    ListsOnce (((candidates.map Prod.snd).mergeSort fun a b => decide (a.place ≤ b.place)).map
      RankedSearchCandidate.intoResult) key reason ↔ Given candidates key reason := by
  have hperm : (((candidates.map Prod.snd).mergeSort fun a b =>
      decide (a.place ≤ b.place)).filter fun candidate => candidate.record.sysId = key).Perm
        (candidates.get key).toList := by
    rw [← filter_gathered h]
    exact (List.mergeSort_perm _ _).filter _
  have hfilter : (((candidates.map Prod.snd).mergeSort fun a b =>
      decide (a.place ≤ b.place)).map RankedSearchCandidate.intoResult).filter
        (fun result => result.record.sysId = key) =
      (((candidates.map Prod.snd).mergeSort fun a b =>
        decide (a.place ≤ b.place)).filter fun candidate => candidate.record.sysId = key).map
          RankedSearchCandidate.intoResult := by
    rw [List.filter_map]
    rfl
  unfold ListsOnce Given
  rw [hfilter]
  cases hfound : candidates.get key with
  | none =>
    rw [hfound, Option.toList_none, List.perm_nil] at hperm
    rw [hperm]
    simp
  | some candidate =>
    rw [hfound, Option.toList_some, List.perm_singleton] at hperm
    rw [hperm]
    simp only [List.map_cons, List.map_nil, List.cons.injEq, and_true, exists_eq_left',
      Option.some.injEq]
    rfl

end

/-! ## What is stored -/

section

variable {Rest : Type} {rows : List (EnrichmentRow Rest)} {row : EnrichmentRow Rest}
variable {sysId recordSysId value : String}

theorem mem_insertRow {other : EnrichmentRow Rest} (h : other ∈ insertRow rows row) :
    other ∈ rows ∨ other = row := by
  unfold insertRow at h
  split_ifs at h
  · obtain ⟨old, hold, rfl⟩ := List.mem_map.mp h
    split_ifs
    · exact .inr rfl
    · exact .inl hold
  · exact (List.mem_append.mp h).imp id List.mem_singleton.mp

theorem carries_insertRow : Carries (insertRow rows row) sysId value ↔
    Carries rows sysId value ∨ (row.recordSysId = sysId ∧ row.value = value) := by
  unfold insertRow
  by_cases hthere : (rows.any fun other =>
      other.recordSysId = row.recordSysId && other.value = row.value) = true
  · rw [if_pos hthere]
    obtain ⟨old, hold, hsame⟩ := List.any_eq_true.mp hthere
    rw [Bool.and_eq_true, decide_eq_true_eq, decide_eq_true_eq] at hsame
    constructor
    · rintro ⟨other, hother, hid, hvalue⟩
      obtain ⟨before, hbefore, rfl⟩ := List.mem_map.mp hother
      by_cases hreplaced : before.recordSysId = row.recordSysId ∧ before.value = row.value
      · rw [if_pos hreplaced] at hid hvalue
        exact .inr ⟨hid, hvalue⟩
      · rw [if_neg hreplaced] at hid hvalue
        exact .inl ⟨before, hbefore, hid, hvalue⟩
    · have hkept : ∀ other : EnrichmentRow Rest, ∃ after : EnrichmentRow Rest,
          (if other.recordSysId = row.recordSysId ∧ other.value = row.value then row
            else other) = after ∧
          after.recordSysId = other.recordSysId ∧ after.value = other.value := by
        intro other
        by_cases hreplaced : other.recordSysId = row.recordSysId ∧ other.value = row.value
        · exact ⟨row, if_pos hreplaced, hreplaced.1.symm, hreplaced.2.symm⟩
        · exact ⟨other, if_neg hreplaced, rfl, rfl⟩
      rintro (⟨other, hother, rfl, rfl⟩ | ⟨rfl, rfl⟩)
      · obtain ⟨after, hafter, hid, hvalue⟩ := hkept other
        exact ⟨after, List.mem_map.mpr ⟨other, hother, hafter⟩, hid, hvalue⟩
      · obtain ⟨after, hafter, hid, hvalue⟩ := hkept old
        exact ⟨after, List.mem_map.mpr ⟨old, hold, hafter⟩, hid.trans hsame.1, hvalue.trans hsame.2⟩
  · rw [if_neg hthere]
    constructor
    · rintro ⟨other, hother, hid, hvalue⟩
      rcases List.mem_append.mp hother with hother | hother
      · exact .inl ⟨other, hother, hid, hvalue⟩
      · obtain rfl := List.mem_singleton.mp hother
        exact .inr ⟨hid, hvalue⟩
    · rintro (⟨other, hother, hid, hvalue⟩ | ⟨hid, hvalue⟩)
      · exact ⟨other, List.mem_append_left _ hother, hid, hvalue⟩
      · exact ⟨row, List.mem_append_right _ (List.mem_singleton_self _), hid, hvalue⟩

variable {replacing : List (EnrichmentRow Rest)}

theorem carries_foldl :
    Carries (replacing.foldl insertRow rows) sysId value ↔
      Carries rows sysId value ∨ Carries replacing sysId value := by
  induction replacing generalizing rows with
  | nil => simp [Carries]
  | cons row replacing ih =>
    rw [List.foldl_cons, ih, carries_insertRow, or_assoc]
    simp [Carries]

/-- The values of a record are replaced, and those of the others are kept. -/
theorem carries_replaceRows :
    Carries (replaceRows rows recordSysId replacing) sysId value ↔
      (sysId ≠ recordSysId ∧ Carries rows sysId value) ∨ Carries replacing sysId value := by
  rw [replaceRows, carries_foldl]
  refine or_congr_left ?_
  constructor
  · rintro ⟨row, hrow, rfl, hvalue⟩
    obtain ⟨hmem, hother⟩ := List.mem_filter.mp hrow
    exact ⟨of_decide_eq_true hother, row, hmem, rfl, hvalue⟩
  · rintro ⟨hother, row, hrow, rfl, hvalue⟩
    exact ⟨row, List.mem_filter.mpr ⟨hrow, decide_eq_true hother⟩, rfl, hvalue⟩

theorem carries_enrichmentRows {rest : EnrichmentCandidate → Rest}
    {candidates : List EnrichmentCandidate} :
    Carries (enrichmentRows recordSysId rest candidates) sysId value ↔
      recordSysId = sysId ∧ ∃ candidate ∈ candidates, candidate.value = value := by
  simp [Carries, enrichmentRows, and_left_comm]

theorem mem_replaceRows
    (h : row ∈ replaceRows rows recordSysId replacing) : row ∈ rows ∨ row ∈ replacing := by
  have hfold : ∀ (replacing rows : List (EnrichmentRow Rest)),
      row ∈ replacing.foldl insertRow rows → row ∈ rows ∨ row ∈ replacing := by
    intro replacing
    induction replacing with
    | nil => exact fun rows h => .inl h
    | cons first replacing ih =>
      intro rows h
      rcases ih _ h with h | h
      · rcases mem_insertRow h with h | rfl
        · exact .inl h
        · exact .inr List.mem_cons_self
      · exact .inr (List.mem_cons_of_mem _ h)
  exact (hfold replacing _ h).imp (fun h => (List.mem_filter.mp h).1) id

end

section

variable {kind : EnrichmentMatch} {records : List JournaledRecord} {record : JournaledRecord}
variable {value : String}

/-- **What is stored is made of words.** -/
theorem persistAll_values (kind : EnrichmentMatch) (records : List JournaledRecord) :
    ∀ row ∈ (persistAll records).rows kind, kind.IsValue row.value := by
  induction records using List.reverseRecOn with
  | nil => cases kind <;> exact fun row h => by cases h
  | append_singleton records record ih =>
    intro row hrow
    rw [persistAll, List.foldl_append, List.foldl_cons, List.foldl_nil,
      rows_persistEnrichment] at hrow
    rcases mem_replaceRows hrow with hrow | hrow
    · exact ih row hrow
    · obtain ⟨candidate, hcandidate, rfl⟩ := List.mem_map.mp hrow
      exact derive_values kind candidate hcandidate

/-- A record is the last one that is persisted with its `sys_id`. -/
def LastPersisted (records : List JournaledRecord) (record : JournaledRecord) : Prop :=
  ∃ before after, records = before ++ record :: after ∧ ∀ other ∈ after, other.sysId ≠ record.sysId

/-- **What is derived of a record is stored**, until the record is persisted anew. -/
theorem carries_persistAll (hlast : LastPersisted records record)
    (hvalue : ∃ candidate ∈ kind.derive record, candidate.value = value) :
    Carries ((persistAll records).rows kind) record.sysId value := by
  obtain ⟨before, after, rfl, hothers⟩ := hlast
  induction after using List.reverseRecOn with
  | nil =>
    rw [persistAll, List.foldl_append, List.foldl_cons, List.foldl_nil, rows_persistEnrichment,
      carries_replaceRows, carries_enrichmentRows]
    exact .inr ⟨rfl, hvalue⟩
  | append_singleton after other ih =>
    have hother := hothers other (List.mem_append_right _ (List.mem_singleton_self _))
    rw [← List.cons_append, ← List.append_assoc, persistAll, List.foldl_append, List.foldl_cons,
      List.foldl_nil, rows_persistEnrichment, carries_replaceRows]
    exact .inl ⟨Ne.symm hother, ih fun r hr => hothers r (List.mem_append_left _ hr)⟩

end

/-! ## What is found -/

section

variable {lib : SearchLib} {files : Table String String} {table : RecordTable}
variable {kind : EnrichmentMatch} {records : List JournaledRecord} {record : JournaledRecord}
variable {value query : String} {numbers : List String} {row : RecordRow}

theorem mem_find {Rest : Type} {rows : List (EnrichmentRow Rest)} {limit : Nat} {sysId : String}
    (h : sysId ∈ findRecordSysIdsByEnrichment table rows value limit) :
    ∃ row ∈ carriers table rows value, row.sysId = sysId := by
  obtain ⟨row, hrow, rfl⟩ := List.mem_map.mp h
  exact ⟨row, List.mem_mergeSort.mp (List.mem_of_mem_take hrow), rfl⟩

/-- If few records carry a value, all of them are found. -/
theorem find_of_few {Rest : Type} {rows : List (EnrichmentRow Rest)} {limit : Nat}
    (hfew : (carriers table rows value).length ≤ limit) (hrow : row ∈ carriers table rows value) :
    row.sysId ∈ findRecordSysIdsByEnrichment table rows value limit := by
  refine List.mem_map_of_mem ?_
  rw [List.take_of_length_le]
  · exact List.mem_mergeSort.mpr hrow
  · rwa [List.length_mergeSort]

/-- The value that is read for a search term is the term, if that is stored. -/
theorem valueRead_self {rows : List (EnrichmentRow kind.Rest)} {sysId : String}
    (hvalues : ∀ row ∈ rows, kind.IsValue row.value) (hself : normalizeSearchTerm value = value)
    (hcarries : Carries rows sysId value) : valueRead rows value sysId = some value := by
  have hmem : ∀ row : EnrichmentRow kind.Rest, row ∈ valueRows rows sysId ↔
      row ∈ rows ∧ row.recordSysId = sysId := by
    intro row
    rw [valueRows, List.mem_mergeSort, List.mem_filter, decide_eq_true_eq]
  obtain ⟨own, hown, hid, hvalue⟩ := hcarries
  have hvalid : kind.IsValue value := hvalue ▸ hvalues own hown
  unfold valueRead
  cases hfound : (valueRows rows sysId).find? fun row =>
      decide (normalizeSearchTerm row.value = value) with
  | none =>
    have hnone := List.find?_eq_none.mp hfound own ((hmem own).mpr ⟨hown, hid⟩)
    rw [hvalue, hself] at hnone
    exact absurd (decide_eq_true rfl) hnone
  | some read =>
    have hterm : normalizeSearchTerm read.value = value := by simpa using List.find?_some hfound
    have hread := hvalues read ((hmem read).mp (List.mem_of_find?_eq_some hfound)).1
    have hsame := hread.self_of_term (hterm ▸ hvalid)
    rw [Option.map_some, ← hsame, hterm]

theorem term_ne_empty (h : kind.IsValue value) : normalizeSearchTerm value ≠ "" := by
  obtain ⟨ws, hne, hws, hterm⟩ := h.term
  rw [hterm]
  intro hempty
  cases ws with
  | nil => exact hne rfl
  | cons w ws =>
    have hnil : joinWords ' ' (w :: ws) = [] := ofList_eq_empty_iff.mp hempty
    have hw := (hws w List.mem_cons_self).nonempty
    by_cases hrest : ws = []
    · subst hrest
      rw [joinWords_singleton] at hnil
      exact hw hnil
    · rw [joinWords_cons hrest] at hnil
      exact hw (List.append_eq_nil_iff.mp hnil).1

variable (kind) in
/-- What is listed for a value has the value as search term, and the document of a row that carries
it. -/
theorem carrier_of_listed (hvalid : kind.IsValue value)
    (hquery : normalizeSearchTerm query = normalizeSearchTerm value) {sysId : String}
    (h : ListsOnce (searchEnriched lib files table (persistAll records) .all numbers query) sysId
      ⟨kind.field, value⟩) :
    normalizeSearchTerm value = value ∧
      ∃ other ∈ carriers table ((persistAll records).rows kind) value,
        (lib.materialize files other).sysId = sysId := by
  have hasked : ¬ (normalizeSearchTerm query = "" ∧ trim query = "") := by
    rw [hquery]
    exact fun h => term_ne_empty hvalid h.1
  rw [searchEnriched, if_neg hasked, listsOnce_iff gathered_searchCandidates,
    given_searchCandidates kind, hquery] at h
  obtain ⟨foundId, hfound, ⟨found, hrowFound, hdocument⟩, -⟩ := h
  obtain ⟨other, hother, rfl⟩ := mem_find hfound
  obtain ⟨hmem, hkeep⟩ := List.mem_filter.mp hother
  rw [Bool.and_eq_true, decide_eq_true_eq] at hkeep
  obtain ⟨entry, hentry, -, hterm⟩ := hkeep.2
  have hself := hvalid.self_of_term (hterm ▸ persistAll_values kind records entry hentry)
  have hsame : found = other :=
    Option.some.inj (hrowFound.symm.trans (getRecordBySysId_eq_some.mpr ⟨hmem, rfl⟩))
  refine ⟨hself, other, ?_, hsame ▸ hdocument⟩
  rwa [hself] at hother

variable (kind) in
/-- A value that is its own search term is listed for the document of a row that carries it. -/
theorem listed_of_carrier (hvalid : kind.IsValue value)
    (hquery : normalizeSearchTerm query = normalizeSearchTerm value)
    (hself : normalizeSearchTerm value = value)
    (hfew : (carriers table ((persistAll records).rows kind) value).length ≤ 20)
    (hrow : row ∈ carriers table ((persistAll records).rows kind) value) :
    ListsOnce (searchEnriched lib files table (persistAll records) .all numbers query)
      (lib.materialize files row).sysId ⟨kind.field, value⟩ := by
  have hasked : ¬ (normalizeSearchTerm query = "" ∧ trim query = "") := by
    rw [hquery]
    exact fun h => term_ne_empty hvalid h.1
  obtain ⟨hmem, hkeep⟩ := List.mem_filter.mp hrow
  rw [Bool.and_eq_true, decide_eq_true_eq] at hkeep
  rw [searchEnriched, if_neg hasked, listsOnce_iff gathered_searchCandidates,
    given_searchCandidates kind, hquery, hself]
  exact ⟨row.sysId, find_of_few hfew hrow, ⟨row, getRecordBySysId_eq_some.mpr ⟨hmem, rfl⟩, rfl⟩,
    valueRead_self (persistAll_values kind records) hself hkeep.2⟩

variable (kind) in
/-- **A derived value is found exactly if it is its own search term**, and a row in scope that
carries it, the record's own or another, has the record for a document. -/
theorem enrichment_found_iff (hlast : LastPersisted records record) (hrow : row ∈ table.rows)
    (hid : row.sysId = record.sysId) (hscope : row.inScope = true)
    (hvalue : ∃ candidate ∈ kind.derive record, candidate.value = value)
    (hfew : (carriers table ((persistAll records).rows kind) value).length ≤ 20)
    (hquery : normalizeSearchTerm query = normalizeSearchTerm value) :
    ListsOnce (searchEnriched lib files table (persistAll records) .all numbers query)
        record.sysId ⟨kind.field, value⟩ ↔
      normalizeSearchTerm value = value ∧ ((lib.materialize files row).sysId = record.sysId ∨
        ∃ other ∈ carriers table ((persistAll records).rows kind) value,
          (lib.materialize files other).sysId = record.sysId) := by
  have hcarries := carries_persistAll hlast hvalue
  obtain ⟨candidate, hcandidate, rfl⟩ := hvalue
  have hvalid := derive_values kind candidate hcandidate
  have hown : row ∈ carriers table ((persistAll records).rows kind) candidate.value := by
    refine List.mem_filter.mpr ⟨hrow, ?_⟩
    rw [hscope, hid, decide_eq_true hcarries]
    rfl
  constructor
  · intro hlisted
    obtain ⟨hself, hcarrier⟩ := carrier_of_listed kind hvalid hquery hlisted
    exact ⟨hself, .inr hcarrier⟩
  · rintro ⟨hself, hdocument | ⟨other, hother, hdocument⟩⟩
    · rw [← hdocument]
      exact listed_of_carrier kind hvalid hquery hself hfew hown
    · rw [← hdocument]
      exact listed_of_carrier kind hvalid hquery hself hfew hother

end

/-- An incident in progress. -/
def incidentInProgress : JournaledRecord where
  sysId := "a1"
  number := "INC0000001"
  table := "incident"
  resourceType := .incident
  state := "In Progress"
  shortDescription := "web"
  description := ""
  fields := []
  parent := none
  references := []
  syncedAt := 0
  workNotes := []
  comments := []

/-- The rows of a cache with that incident only. -/
def incidentInProgressTable : RecordTable where
  rows := [{ unnumbered "a1" with number := "INC0000001", tableName := "incident",
                                  resourceType := .incident }]
  keys := List.nodup_singleton _

theorem incidentInProgress_last : LastPersisted [incidentInProgress] incidentInProgress :=
  ⟨[], [], rfl, fun other h => by cases h⟩

theorem incident_found_by_type :
    ListsOnce (searchEnriched plainSearchLib Table.empty incidentInProgressTable
      (persistAll [incidentInProgress]) .all [] "Incident!") "a1" ⟨.tag, "incident"⟩ :=
  (enrichment_found_iff .tag incidentInProgress_last List.mem_cons_self rfl rfl
    (by decide +kernel) ((List.length_filter_le _ _).trans (by decide)) (by decide +kernel)).mpr
      ⟨by decide +kernel, .inl rfl⟩

/-- **A state of two words is not found**: the tag that is stored has a hyphen, the search term a
space. -/
theorem state_tag_not_found :
    (∃ candidate ∈ EnrichmentMatch.tag.derive incidentInProgress, candidate.value = "in-progress") ∧
    (carriers incidentInProgressTable ((persistAll [incidentInProgress]).rows .tag)
      "in-progress").length ≤ 20 ∧
    ¬ ListsOnce (searchEnriched plainSearchLib Table.empty incidentInProgressTable
      (persistAll [incidentInProgress]) .all [] "in-progress") "a1" ⟨.tag, "in-progress"⟩ := by
  have hvalue : ∃ candidate ∈ EnrichmentMatch.tag.derive incidentInProgress,
      candidate.value = "in-progress" := by decide +kernel
  refine ⟨hvalue, (List.length_filter_le _ _).trans (by decide), fun h => ?_⟩
  obtain ⟨candidate, hcandidate, hsame⟩ := hvalue
  have hvalid : EnrichmentMatch.tag.IsValue "in-progress" := by
    rw [← hsame]
    exact derive_values .tag candidate hcandidate
  have hself := (carrier_of_listed .tag hvalid rfl h).1
  revert hself
  decide +kernel

end SnowAgent.Core
