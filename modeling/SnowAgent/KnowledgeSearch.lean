import Mathlib.Data.List.Pairwise
import SnowAgent.ArticleBodies

/-! # Listing and searching articles

A list of the cached articles goes from the rows in scope to their numbers, and from each number
back to the row that is preferred for it.  A lexical search does the same with the rows that match
its words: the full text index knows records of all types, and the search takes four times as many
of them as it wants articles.

The rows an index answers a query with, in the order of their rank, stay a parameter.
-/
namespace SnowAgent.Knowledge

open Text Core

/-! ## Numbers and rows -/

variable {row : RecordRow} {number : String}

/-- Whether a row is of knowledge and in scope. -/
def isActiveKnowledge (row : RecordRow) : Bool := row.inScope ∧ row.resourceType = .knowledge

/-- `list_active_records` of knowledge. -/
def listActiveKnowledge (cache : ArticleCache) : List RecordRow :=
  (cache.records.rows.filter isActiveKnowledge).mergeSort fun a b => a.number ≤ b.number

section Rows

-- Of the orders Mathlib has on `ℤ`, the one that runs.
local instance knowledgeRowsOrder : LinearOrder ℤ := Int.instLinearOrder

local instance knowledgeRowsPreorder : Preorder ℤ := Int.instLinearOrder.toPreorder

/-- `get_record_by_number_and_type`, of knowledge. -/
def knowledgeRow (cache : ArticleCache) (number : String) : Option RecordRow :=
  (cache.records.rows.filter fun row =>
    row.number = number ∧ row.resourceType = .knowledge).argmin preference

theorem getKnowledgeArticle_eq (lib : ArticleLib) (cache : ArticleCache) (number : String) :
    getKnowledgeArticle lib cache number =
      (knowledgeRow cache number).map (materializeKnowledgeArticle lib cache) := rfl

variable {cache : ArticleCache}

theorem knowledgeRow_mem (h : knowledgeRow cache number = some row) :
    row ∈ cache.records.rows ∧ row.number = number ∧ row.resourceType = .knowledge := by
  obtain ⟨hmem, hnamed⟩ := List.mem_filter.mp (List.argmin_mem h)
  exact ⟨hmem, of_decide_eq_true hnamed⟩

/-- Of the rows of a number, one in scope is preferred if there is one. -/
theorem knowledgeRow_of_active (hrow : row ∈ cache.records.rows)
    (hactive : isActiveKnowledge row = true) :
    ∃ preferred, knowledgeRow cache row.number = some preferred ∧
      isActiveKnowledge preferred = true := by
  obtain ⟨hscope, htype⟩ := of_decide_eq_true hactive
  have hmem : row ∈ cache.records.rows.filter fun other =>
      other.number = row.number ∧ other.resourceType = .knowledge :=
    List.mem_filter.mpr ⟨hrow, decide_eq_true ⟨rfl, htype⟩⟩
  rcases hfirst : knowledgeRow cache row.number with _ | preferred
  · rw [knowledgeRow, List.argmin_eq_none] at hfirst
    rw [hfirst] at hmem
    cases hmem
  · refine ⟨preferred, rfl, decide_eq_true ⟨?_, (knowledgeRow_mem hfirst).2.2⟩⟩
    have hle : preference preferred ≤ preference row := List.le_of_mem_argmin hmem hfirst
    by_contra hout
    rw [preference, preference, (knowledgeRow_mem hfirst).2.2, htype, if_neg hout, if_pos hscope]
      at hle
    simp [Prod.Lex.toLex_le_toLex] at hle

end Rows

section Collect

variable (lib : ArticleLib) (cache : ArticleCache) (passes : KnowledgeArticle → Bool)

/-- The row of a number, if its article passes. -/
def passingRow (number : String) : Option RecordRow :=
  (knowledgeRow cache number).filter fun row =>
    passes (materializeKnowledgeArticle lib cache row)

/-- The loop over numbers: the rows of the articles that are returned. -/
def collectRows (limit : Option Nat) : List String → List RecordRow → List RecordRow
  | [], rows => rows
  | number :: rest, rows =>
    match passingRow lib cache passes number with
    | none => collectRows limit rest rows
    | some row =>
      if limit.any fun limit => limit ≤ rows.length + 1 then rows ++ [row]
      else collectRows limit rest (rows ++ [row])

end Collect

/-! ## The list -/

section List

variable (lib : ArticleLib) (cache : ArticleCache)

/-- Whether an article is of a knowledge base and a category, as `sys_id`s. -/
def isOf (knowledgeBaseSysId categorySysId : Option String) (article : KnowledgeArticle) : Bool :=
  knowledgeBaseSysId.all (· = article.knowledgeBase.sysId) &&
    categorySysId.all (· = article.category.sysId)

/-- The rows of the articles that `list_knowledge_articles` returns. -/
def listedRows (knowledgeBaseSysId categorySysId : Option String) (limit : Option Nat) :
    List RecordRow :=
  let numbers := ((listActiveKnowledge cache).map RecordRow.number).mergeSort
  collectRows lib cache (isOf knowledgeBaseSysId categorySysId) limit numbers []

/-- `list_knowledge_articles`. -/
def listKnowledgeArticles (knowledgeBaseSysId categorySysId : Option String)
    (limit : Option Nat) : List KnowledgeArticle :=
  (listedRows lib cache knowledgeBaseSysId categorySysId limit).map
    (materializeKnowledgeArticle lib cache)

end List

/-! ## The search -/

/-- `KnowledgeSearchFilters`. -/
structure KnowledgeSearchFilters where
  knowledgeBase : Option String
  category : Option String
  limit : Option Nat

/-- `matches_reference_filter`. -/
def matchesReferenceFilter (filter : Option String) (reference : Core.Reference) : Bool :=
  match (filter.map trim).filter (· ≠ "") with
  | none => true
  | some filter =>
    filter = reference.sysId || eqIgnoreAsciiCase filter reference.displayName

/-- `matches_knowledge_filters`. -/
def matchesKnowledgeFilters (filters : KnowledgeSearchFilters) (article : KnowledgeArticle) :
    Bool :=
  matchesReferenceFilter filters.knowledgeBase article.knowledgeBase &&
    matchesReferenceFilter filters.category article.category

/-- What the full text index answers: different rows of the cache, in the order of their rank. -/
structure FtsAnswer (cache : ArticleCache) where
  rows : List RecordRow
  distinct : rows.Nodup
  cached : ∀ row ∈ rows, row ∈ cache.records.rows

/-- The full text index: a query that it cannot read is an error. -/
abbrev FtsIndex (cache : ArticleCache) := String → Except String (FtsAnswer cache)

/-- `usize::MAX`. -/
def usizeMax : Nat := 2 ^ 64 - 1

/-- `LIMIT`, of a number that is negative if there is none. -/
def limitRows {α : Type} (limit : Int) (rows : List α) : List α :=
  if limit < 0 then rows else rows.take limit.toNat

section Search

variable (lib : ArticleLib) {cache : ArticleCache} (index : FtsIndex cache) (query : String)
  (filters : KnowledgeSearchFilters)

/-- `search_fts`. -/
def searchFts (limit : Nat) : Except String (List String) := do
  let answer ← index query
  return (limitRows (i64OfUsize limit) (answer.rows.filter (·.inScope))).map RecordRow.number

/-- The rows of the articles that `search_knowledge` returns. -/
def foundRows : Except String (List RecordRow) :=
  if trim query = "" then .ok []
  else do
    let limit := max (filters.limit.getD 20) 1
    let numbers ← searchFts index query (min (limit * 4) usizeMax)
    return collectRows lib cache (matchesKnowledgeFilters filters) (some limit) numbers []

/-- `search_knowledge`. -/
def searchKnowledge : Except String (List KnowledgeArticle) :=
  (List.map (materializeKnowledgeArticle lib cache)) <$> foundRows lib index query filters

end Search

/-! ## What is promised -/

section Promise

variable (lib : ArticleLib) (cache : ArticleCache)

/-- A row of knowledge in scope whose article passes. -/
def passesActive (passes : KnowledgeArticle → Bool) (row : RecordRow) : Bool :=
  isActiveKnowledge row && passes (materializeKnowledgeArticle lib cache row)

/-- **The list has the first articles**, each once: the first `n` of the active ones that pass, in
some order by number. -/
def ListsFirst (knowledgeBaseSysId categorySysId : Option String) (n : Nat) : Prop :=
  ∃ order : List RecordRow, order.Perm (cache.records.rows.filter
      (passesActive lib cache (isOf knowledgeBaseSysId categorySysId))) ∧
    order.Pairwise (fun a b => a.number ≤ b.number) ∧
    listedRows lib cache knowledgeBaseSysId categorySysId (some n) = order.take n

/-- A number that several active rows share has no row that passes. -/
def SharedFail (passes : KnowledgeArticle → Bool) : Prop :=
  ∀ a ∈ cache.records.rows, ∀ b ∈ cache.records.rows, isActiveKnowledge a = true →
    isActiveKnowledge b = true → a.number = b.number → a ≠ b →
      passes (materializeKnowledgeArticle lib cache a) = false

/-- A match that is an article and passes is the preferred row of its number; for another match,
the preferred row of its number does not pass. -/
def LeadsToItself (filters : KnowledgeSearchFilters) (row : RecordRow) : Prop :=
  if passesActive lib cache (matchesKnowledgeFilters filters) row then
    knowledgeRow cache row.number = some row
  else
    ∀ preferred, knowledgeRow cache row.number = some preferred →
      matchesKnowledgeFilters filters (materializeKnowledgeArticle lib cache preferred) = false

variable {cache} (index : FtsIndex cache) (query : String) (filters : KnowledgeSearchFilters)

/-- The rows in scope that match a query, of any type, in the order of their rank. -/
def matchedRows : List RecordRow :=
  if trim query = "" then []
  else
    match index query with
    | .ok answer => answer.rows.filter (·.inScope)
    | .error _ => []

/-- **The search finds the first articles**, each once: the first `n` of the matches that are
articles and pass. -/
def FindsFirst (n : Nat) : Prop :=
  ∀ rows, foundRows lib index query { filters with limit := some n } = .ok rows →
    rows = ((matchedRows index query).filter
      (passesActive lib cache (matchesKnowledgeFilters filters))).take n

/-- Of the matches that are looked at for `n` articles, `n` pass, or none passes after them. -/
def NotCrowded (n : Nat) : Prop :=
  n ≤ (limitRows (i64OfUsize (min (n * 4) usizeMax)) (matchedRows index query)).countP
      (passesActive lib cache (matchesKnowledgeFilters filters)) ∨
    (matchedRows index query).countP (passesActive lib cache (matchesKnowledgeFilters filters)) =
      (limitRows (i64OfUsize (min (n * 4) usizeMax)) (matchedRows index query)).countP
        (passesActive lib cache (matchesKnowledgeFilters filters))

end Promise

/-! ## The loop -/

variable {rows : List RecordRow} {n : Nat}

section Loop

variable {lib : ArticleLib} {cache : ArticleCache} {passes : KnowledgeArticle → Bool}

/-- The loop ends with the first rows that pass. -/
theorem collectRows_eq (numbers : List String) (h : rows.length < n) :
    collectRows lib cache passes (some n) numbers rows =
      rows ++ (numbers.filterMap (passingRow lib cache passes)).take (n - rows.length) := by
  induction numbers generalizing rows with
  | nil => simp [collectRows]
  | cons number rest ih =>
    rw [collectRows, List.filterMap_cons]
    rcases passingRow lib cache passes number with _ | row
    · exact ih h
    · simp only [Option.any_some, decide_eq_true_eq]
      by_cases hfull : n ≤ rows.length + 1
      · rw [if_pos hfull, show n - rows.length = 1 by omega]
        simp
      · rw [if_neg hfull, ih (by simp; omega), List.length_append, List.length_singleton,
          List.append_assoc, show n - rows.length = (n - (rows.length + 1)) + 1 by omega,
          List.take_succ_cons, List.singleton_append]

theorem passingRow_eq_some (h : passingRow lib cache passes number = some row) :
    knowledgeRow cache number = some row ∧
      passes (materializeKnowledgeArticle lib cache row) = true :=
  Option.filter_eq_some_iff.mp h

/-- A row that is given for its own number is given for each number that gives it. -/
theorem passingRow_self (h : passingRow lib cache passes number = some row) :
    passingRow lib cache passes row.number = some row := by
  rw [(knowledgeRow_mem (passingRow_eq_some h).1).2.1]
  exact h

end Loop

/-- Where a list maps to different elements, no two of its elements map to the same. -/
theorem eq_of_filterMap_nodup {α β : Type} {f : α → Option β} {list : List α}
    (h : (list.filterMap f).Nodup) {a b : α} (ha : a ∈ list) (hb : b ∈ list) {c : β}
    (hac : f a = some c) (hbc : f b = some c) : a = b := by
  by_contra hne
  have hpair : list.Pairwise fun a a' => ∀ b, f a = some b → ∀ b', f a' = some b' → b ≠ b' :=
    List.pairwise_filterMap.mp h
  have : Std.Symm fun a a' => ∀ b, f a = some b → ∀ b', f a' = some b' → b ≠ b' :=
    ⟨fun _ _ h b hb b' hb' heq => h b' hb' b hb heq.symm⟩
  exact hpair.forall ha hb hne c hac c hbc rfl

variable {α : Type}

theorem filterMap_ite (p : α → Bool) (list : List α) :
    (list.filterMap fun a => if p a then some a else none) = list.filter p := by
  induction list with
  | nil => rfl
  | cons a list ih =>
    rw [List.filterMap_cons, List.filter_cons, ih]
    cases p a <;> rfl

/-! ## The list -/

section List

variable {lib : ArticleLib} {cache : ArticleCache} {knowledgeBaseSysId categorySysId : Option String}

/-- All rows of the list. -/
def allListed (lib : ArticleLib) (cache : ArticleCache) (passes : KnowledgeArticle → Bool) :
    List RecordRow :=
  (((listActiveKnowledge cache).map RecordRow.number).mergeSort).filterMap
    (passingRow lib cache passes)

theorem listedRows_eq (hn : 1 ≤ n) :
    listedRows lib cache knowledgeBaseSysId categorySysId (some n) =
      (allListed lib cache (isOf knowledgeBaseSysId categorySysId)).take n :=
  collectRows_eq _ hn

variable (passes : KnowledgeArticle → Bool)

/-- The rows of the list, from the active rows. -/
theorem allListed_perm :
    (allListed lib cache passes).Perm
      ((cache.records.rows.filter isActiveKnowledge).filterMap fun row =>
        passingRow lib cache passes row.number) := by
  have hnumbers : (((listActiveKnowledge cache).map RecordRow.number).mergeSort).Perm
      ((cache.records.rows.filter isActiveKnowledge).map RecordRow.number) :=
    (List.mergeSort_perm _ _).trans ((List.mergeSort_perm _ _).map _)
  have hperm := hnumbers.filterMap (passingRow lib cache passes)
  rw [List.filterMap_map] at hperm
  exact hperm

theorem rows_nodup (cache : ArticleCache) : cache.records.rows.Nodup :=
  List.Nodup.of_map _ cache.records.keys

/-- The rows of the list are sorted by number. -/
theorem allListed_sorted :
    (allListed lib cache passes).Pairwise fun a b => a.number ≤ b.number := by
  refine List.pairwise_filterMap.mpr ?_
  have hsorted : (((listActiveKnowledge cache).map RecordRow.number).mergeSort).Pairwise
      fun a b => a ≤ b := by
    have h := @List.pairwise_mergeSort _ (fun a b : String => decide (a ≤ b))
      (fun a b c hab hbc => by
        simp only [decide_eq_true_eq] at hab hbc ⊢
        exact le_trans hab hbc)
      (fun a b => by
        simp only [Bool.or_eq_true, decide_eq_true_eq]
        exact le_total a b)
      ((listActiveKnowledge cache).map RecordRow.number)
    simpa using h
  refine hsorted.imp fun {number number'} hle row hrow row' hrow' => ?_
  rw [(knowledgeRow_mem (passingRow_eq_some hrow).1).2.1,
    (knowledgeRow_mem (passingRow_eq_some hrow').1).2.1]
  exact hle

/-- **The list is right for every limit exactly when no shared number has a row that passes.** -/
theorem listsFirst_iff :
    (∀ n, 1 ≤ n → ListsFirst lib cache knowledgeBaseSysId categorySysId n) ↔
      SharedFail lib cache (isOf knowledgeBaseSysId categorySysId) := by
  constructor
  · intro h a ha b hb hactive hactive' hnumber hne
    obtain ⟨order, hperm, -, hlisted⟩ := h (cache.records.rows.length + 1) (by omega)
    rw [listedRows_eq (by omega)] at hlisted
    have hshort : order.length ≤ cache.records.rows.length := by
      rw [hperm.length_eq]
      exact List.length_filter_le _ _
    have hshort' : (allListed lib cache (isOf knowledgeBaseSysId categorySysId)).length ≤
        cache.records.rows.length := by
      rw [(allListed_perm _).length_eq]
      exact (List.length_filterMap_le _ _).trans (List.length_filter_le _ _)
    rw [List.take_of_length_le (by omega), List.take_of_length_le (by omega)] at hlisted
    have hnodup : ((cache.records.rows.filter isActiveKnowledge).filterMap fun row =>
        passingRow lib cache (isOf knowledgeBaseSysId categorySysId) row.number).Nodup := by
      rw [← (allListed_perm _).nodup_iff, hlisted, hperm.nodup_iff]
      exact (rows_nodup cache).filter _
    rw [Bool.eq_false_iff]
    intro hpasses
    have hmem : a ∈ allListed lib cache (isOf knowledgeBaseSysId categorySysId) := by
      rw [hlisted, hperm.mem_iff, List.mem_filter]
      exact ⟨ha, by simp [passesActive, hactive, hpasses]⟩
    obtain ⟨number, -, hrow⟩ := List.mem_filterMap.mp hmem
    have hself := passingRow_self hrow
    refine hne (eq_of_filterMap_nodup hnodup (List.mem_filter.mpr ⟨ha, hactive⟩)
      (List.mem_filter.mpr ⟨hb, hactive'⟩) hself ?_)
    show passingRow _ _ _ b.number = _
    rw [← hnumber]
    exact hself
  · intro hshared n hn
    refine ⟨allListed lib cache (isOf knowledgeBaseSysId categorySysId), ?_, allListed_sorted _,
      listedRows_eq hn⟩
    refine (allListed_perm _).trans (List.Perm.of_eq ?_)
    have hrow : ∀ row ∈ cache.records.rows.filter isActiveKnowledge,
        passingRow lib cache (isOf knowledgeBaseSysId categorySysId) row.number =
          if isOf knowledgeBaseSysId categorySysId (materializeKnowledgeArticle lib cache row) then
            some row else none := by
      intro row hrow
      obtain ⟨hrow, hactive⟩ := List.mem_filter.mp hrow
      obtain ⟨preferred, hfirst, hactive'⟩ := knowledgeRow_of_active hrow hactive
      obtain ⟨hpreferred, hnumber, -⟩ := knowledgeRow_mem hfirst
      rw [passingRow, hfirst]
      by_cases hsame : preferred = row
      · rw [hsame]
        rfl
      · rw [hshared row hrow preferred hpreferred hactive hactive' hnumber.symm (Ne.symm hsame)]
        simp [Option.filter, hshared preferred hpreferred row hrow hactive' hactive hnumber hsame]
    rw [List.filterMap_congr hrow, filterMap_ite, List.filter_filter]
    exact List.filter_congr fun row _ => Bool.and_comm _ _

end List

/-! ## The search -/

section Search

variable {lib : ArticleLib} {cache : ArticleCache} {index : FtsIndex cache} {query : String}
  {filters : KnowledgeSearchFilters}

theorem leadsToItself_iff :
    LeadsToItself lib cache filters row ↔
      passingRow lib cache (matchesKnowledgeFilters filters) row.number =
        if passesActive lib cache (matchesKnowledgeFilters filters) row then some row else none := by
  unfold LeadsToItself
  by_cases hrow : passesActive lib cache (matchesKnowledgeFilters filters) row = true
  · rw [if_pos hrow, if_pos hrow, passingRow, Option.filter_eq_some_iff]
    have hpasses := (Bool.and_eq_true_iff.mp hrow).2
    exact ⟨fun h => ⟨h, hpasses⟩, And.left⟩
  · rw [if_neg hrow, if_neg hrow, passingRow, Option.filter_eq_none_iff]
    exact ⟨fun h preferred hfirst => by simp [h preferred hfirst],
      fun h preferred hfirst => by simpa using h preferred hfirst⟩

/-- The limit of a search cuts nothing off if it is long enough. -/
theorem limitRows_eq_self {rows : List α} (h : rows.length ≤ n) :
    limitRows (i64OfUsize (min (n * 4) usizeMax)) rows = rows := by
  unfold limitRows
  split
  · rfl
  · refine List.take_of_length_le ?_
    unfold i64OfUsize usizeMax at *
    split at *
    · omega
    · omega

/-- The matches that are looked at come first. -/
theorem limitRows_isFirst (limit : Int) (rows : List α) : limitRows limit rows <+: rows := by
  unfold limitRows
  split
  · exact List.prefix_refl _
  · exact List.take_prefix _ _

/-- What the search finds. -/
theorem foundRows_eq (hn : 1 ≤ n)
    (h : foundRows lib index query { filters with limit := some n } = .ok rows) :
    rows = ((limitRows (i64OfUsize (min (n * 4) usizeMax)) (matchedRows index query)).filterMap
      fun row => passingRow lib cache (matchesKnowledgeFilters filters) row.number).take n := by
  unfold foundRows matchedRows at *
  by_cases hblank : trim query = ""
  · rw [if_pos hblank] at h ⊢
    injection h with h
    simp [← h, limitRows]
  · rw [if_neg hblank] at h ⊢
    obtain ⟨numbers, hnumbers, h⟩ := bind_eq_ok h
    injection h with h
    obtain ⟨answer, hanswer, hnumbers⟩ := bind_eq_ok hnumbers
    injection hnumbers with hnumbers
    simp only [Option.getD_some, show max n 1 = n by omega] at h hnumbers
    rw [← h, collectRows_eq _ hn, ← hnumbers, hanswer, List.filterMap_map]
    rfl

/-- A search answers, unless the index does not read its words. -/
theorem foundRows_ok (lib : ArticleLib) (filters : KnowledgeSearchFilters) (n : Nat)
    (h : matchedRows index query ≠ []) :
    ∃ rows, foundRows lib index query { filters with limit := some n } = .ok rows := by
  unfold matchedRows at h
  unfold foundRows searchFts
  by_cases hblank : trim query = ""
  · exact absurd (if_pos hblank) h
  · rw [if_neg hblank] at h ⊢
    rcases hanswer : index query with error | answer
    · rw [hanswer] at h
      exact absurd rfl h
    · exact ⟨_, rfl⟩

theorem matchedRows_nodup (index : FtsIndex cache) (query : String) :
    (matchedRows index query).Nodup := by
  unfold matchedRows
  split
  · exact List.nodup_nil
  · split
    · exact List.Nodup.filter _ (FtsAnswer.distinct _)
    · exact List.nodup_nil

/-- Where the matches lead to themselves, the search goes through those that are articles. -/
theorem filterMap_passingRow (h : ∀ row ∈ rows, LeadsToItself lib cache filters row) :
    (rows.filterMap fun row => passingRow lib cache (matchesKnowledgeFilters filters) row.number) =
      rows.filter (passesActive lib cache (matchesKnowledgeFilters filters)) := by
  rw [List.filterMap_congr fun row hrow => leadsToItself_iff.mp (h row hrow), filterMap_ite]

/-- **A search with one limit**: it finds the first articles where the matches lead to themselves
and are not crowded out. -/
theorem findsFirst_of (hn : 1 ≤ n)
    (hself : ∀ row ∈ matchedRows index query, LeadsToItself lib cache filters row)
    (hroom : NotCrowded lib index query filters n) : FindsFirst lib index query filters n := by
  intro rows hrows
  obtain ⟨rest, hrest⟩ := limitRows_isFirst (i64OfUsize (min (n * 4) usizeMax))
    (matchedRows index query)
  rw [foundRows_eq hn hrows, filterMap_passingRow fun row hrow =>
    hself row ((limitRows_isFirst _ _).subset hrow)]
  unfold NotCrowded at hroom
  rw [List.countP_eq_length_filter, List.countP_eq_length_filter] at hroom
  conv_rhs => rw [← hrest]
  rw [List.filter_append]
  rcases hroom with hfull | hsame
  · rw [List.take_append_of_le_length hfull]
  · conv at hsame => lhs; rw [← hrest]
    rw [List.filter_append, List.length_append] at hsame
    have hnone : rest.filter (passesActive lib cache (matchesKnowledgeFilters filters)) = [] :=
      List.length_eq_zero_iff.mp (by omega)
    rw [hnone, List.append_nil]

/-- **The search is right for every limit exactly when its matches lead to themselves and are not
crowded out.** -/
theorem findsFirst_iff :
    (∀ n, 1 ≤ n → FindsFirst lib index query filters n) ↔
      (∀ row ∈ matchedRows index query, LeadsToItself lib cache filters row) ∧
        ∀ n, 1 ≤ n → NotCrowded lib index query filters n := by
  constructor
  · intro h
    have hnodup := matchedRows_nodup index query
    have hself : ∀ row ∈ matchedRows index query, LeadsToItself lib cache filters row := by
      intro row hrow
      obtain ⟨rows, hrows⟩ := foundRows_ok lib filters
        ((matchedRows index query).length + 1) (List.ne_nil_of_mem hrow)
      have hfound := h _ (by omega) rows hrows
      rw [foundRows_eq (by omega) hrows, limitRows_eq_self (by omega),
        List.take_of_length_le ((List.length_filterMap_le _ _).trans (by omega)),
        List.take_of_length_le ((List.length_filter_le _ _).trans (by omega))] at hfound
      have hdifferent := hfound ▸ hnodup.filter _
      rw [leadsToItself_iff]
      by_cases hpasses : passesActive lib cache (matchesKnowledgeFilters filters) row = true
      · rw [if_pos hpasses]
        have hmem := List.mem_filter.mpr ⟨hrow, hpasses⟩
        rw [← hfound] at hmem
        obtain ⟨other, -, hother⟩ := List.mem_filterMap.mp hmem
        exact passingRow_self hother
      · rw [if_neg hpasses]
        rcases hgiven : passingRow lib cache (matchesKnowledgeFilters filters) row.number
          with _ | given
        · rfl
        -- The row that is given instead is a match of its own, and would be given twice.
        · have hmem : given ∈ (matchedRows index query).filterMap fun row =>
              passingRow lib cache (matchesKnowledgeFilters filters) row.number :=
            List.mem_filterMap.mpr ⟨row, hrow, hgiven⟩
          rw [hfound] at hmem
          obtain ⟨hmatched, hgivenPasses⟩ := List.mem_filter.mp hmem
          have hsame := eq_of_filterMap_nodup hdifferent hrow hmatched hgiven (passingRow_self hgiven)
          rw [hsame] at hpasses
          exact absurd hgivenPasses hpasses
    refine ⟨hself, fun n hn => ?_⟩
    have hfirst := limitRows_isFirst (i64OfUsize (min (n * 4) usizeMax)) (matchedRows index query)
    unfold NotCrowded
    rw [List.countP_eq_length_filter, List.countP_eq_length_filter]
    by_cases hempty : matchedRows index query = []
    · rw [hempty] at hfirst ⊢
      rw [List.prefix_nil.mp hfirst]
      exact .inr rfl
    · obtain ⟨rows, hrows⟩ := foundRows_ok lib filters n hempty
      have hfound := congrArg List.length (h n hn rows hrows)
      rw [foundRows_eq hn hrows, filterMap_passingRow fun row hrow =>
        hself row (hfirst.subset hrow), List.length_take, List.length_take] at hfound
      omega
  · intro h n hn
    exact findsFirst_of hn h.1 (h.2 n hn)

end Search

/-- **When the list and the search are right for every limit**: the list when no number that active
articles share has one that passes, the search when its matches lead to themselves and are not
crowded out. -/
theorem knowledge_lookup_right_iff (lib : ArticleLib) (cache : ArticleCache) :
    (∀ knowledgeBaseSysId categorySysId,
      (∀ n, 1 ≤ n → ListsFirst lib cache knowledgeBaseSysId categorySysId n) ↔
        SharedFail lib cache (isOf knowledgeBaseSysId categorySysId)) ∧
    ∀ (index : FtsIndex cache) (query : String) (filters : KnowledgeSearchFilters),
      (∀ n, 1 ≤ n → FindsFirst lib index query filters n) ↔
        (∀ row ∈ matchedRows index query, LeadsToItself lib cache filters row) ∧
          ∀ n, 1 ≤ n → NotCrowded lib index query filters n :=
  ⟨fun _ _ => listsFirst_iff, fun _ _ _ => findsFirst_iff⟩

/-! ## Two articles of a number, and four incidents -/

/-- A row in scope. -/
def scopedRow (sysId number : String) (resourceType : ResourceType) : RecordRow where
  sysId
  number
  tableName := "task"
  resourceType
  state := none
  shortDesc := none
  description := none
  filePath := none
  syncedAt := newYear
  inScope := true
  rawJson := .null

/-- Four incidents, and two articles that share a number. -/
def mixedCache : ArticleCache where
  records :=
    { rows := [scopedRow "id-1" "INC0000001" .incident, scopedRow "id-2" "INC0000002" .incident,
        scopedRow "id-3" "INC0000003" .incident, scopedRow "id-4" "INC0000004" .incident,
        scopedRow "id-5" "KB0000001" .knowledge, scopedRow "id-6" "KB0000001" .knowledge]
      keys := by decide }
  articles := Table.empty
  files := Table.empty

/-- An index that finds the incidents, and then an article. -/
def mixedIndex : FtsIndex mixedCache := fun _ => .ok
  { rows := mixedCache.records.rows.take 5
    distinct := (List.Nodup.of_map RecordRow.sysId mixedCache.records.keys).sublist
      (List.take_sublist _ _)
    cached := fun _ h => List.mem_of_mem_take h }

/-- **A shared number is listed twice with one article, and incidents crowd an article out.** -/
theorem incidents_crowd_article_out :
    (¬ ∀ n, 1 ≤ n → ListsFirst unreadLib mixedCache none none n) ∧
      ¬ ∀ n, 1 ≤ n → FindsFirst unreadLib mixedIndex "printer" ⟨none, none, none⟩ n := by
  constructor
  · intro h
    have hshared := listsFirst_iff.mp h (scopedRow "id-5" "KB0000001" .knowledge)
      (by simp [mixedCache]) (scopedRow "id-6" "KB0000001" .knowledge) (by simp [mixedCache])
      (by decide) (by decide) rfl (by simp [scopedRow])
    cases hshared
  · intro h
    have hmatched : matchedRows mixedIndex "printer" = mixedCache.records.rows.take 5 := by
      rw [matchedRows, if_neg (by decide)]
      rfl
    have hroom := (findsFirst_iff.mp h).2 1 (by omega)
    rw [NotCrowded, hmatched] at hroom
    revert hroom
    decide

end SnowAgent.Knowledge
