import Mathlib.Data.List.Dedup
import Mathlib.Data.Prod.Lex
import Mathlib.Data.Rat.Defs
import Mathlib.Algebra.Order.Field.Rat
import Mathlib.Tactic.Positivity
import Mathlib.Tactic.Linarith
import SnowAgent.Rankings
import SnowAgent.CachePolicy
import SnowAgent.SemanticIndex

/-! # Hybrid search

A hybrid search fuses two rankings of articles: the lexical one of the full text index, and the
semantic one by the similarity of embeddings.  An article has for each ranking the reciprocal of its
place there as a score; one that only the semantic ranking has starts with its similarity.

Both rankings go as far as the pool of candidates, but of the semantic ranking the search takes no
more than it returns hits.  Similarities stay a parameter, and scores are exact rationals.
-/
namespace SnowAgent.Knowledge

open Text Core Rankings CachePolicy

/-! ## Titles -/

/-- The loop of `normalize_title_match`: letters and digits in lower case, and a space for what is
between them. -/
def titleChars : List Char → Bool → List Char
  | [], _ => []
  | c :: cs, prevSpace =>
    if c.isAlphanum then lowerChar c :: titleChars cs false
    else if prevSpace then titleChars cs true
    else ' ' :: titleChars cs true

/-- `normalize_title_match`. -/
def normalizeTitleMatch (value : String) : String :=
  " ".intercalate (splitWhitespace (String.ofList (titleChars value.toList false)))

/-! ## Hits -/

/-- `KnowledgeSearchMode`. -/
inductive KnowledgeSearchMode where
  | lexical
  | semantic
  | hybrid
deriving DecidableEq

/-- `KnowledgeSearchHit`. -/
structure KnowledgeSearchHit where
  article : KnowledgeArticle
  mode : KnowledgeSearchMode
  score : ℚ
  semanticScore : Option ℚ
  lexicalScore : Option ℚ
  coverage : KnowledgeEmbeddingCoverage

/-- The `sys_id` of a hit's article. -/
def KnowledgeSearchHit.sysId (hit : KnowledgeSearchHit) : String := hit.article.record.sysId

/-- `KnowledgeSemanticSearchFilters`. -/
structure KnowledgeSemanticSearchFilters where
  knowledgeBase : Option String
  category : Option String
  limit : Option Nat
  minScoreMillis : Option Nat

/-- What the search reads of `KbSemanticSearchConfig` besides what the index reads. -/
structure HybridConfig extends KbSemanticSearchConfig where
  topK : Nat
  candidatePool : Nat
  minScoreMillis : Nat

/-- What is left open of a search: `cosine_similarity`. -/
structure HybridLib extends SemanticLib where
  cosineSimilarity : Embedding → Embedding → Except String ℚ

/-- `reciprocal_rank_fusion_score`. -/
def reciprocalRankFusionScore (rank : Nat) : ℚ := 1 / (60 + rank)

/-- The hit of the `idx`th article of the lexical ranking. -/
def lexicalHit (idx : Nat) (article : KnowledgeArticle) : KnowledgeSearchHit where
  article
  mode := .hybrid
  score := reciprocalRankFusionScore (idx + 1)
  semanticScore := none
  lexicalScore := some (reciprocalRankFusionScore (idx + 1))
  coverage := if article.bodyCached then .fullText else .metadata

/-- The entry of an article once the `idx`th hit of the semantic ranking is its. -/
def fuse (entry hit : KnowledgeSearchHit) (idx : Nat) : KnowledgeSearchHit :=
  { entry with
    article := hit.article
    coverage := hit.coverage
    semanticScore := hit.semanticScore
    score := entry.score + reciprocalRankFusionScore (idx + 1) }

/-- The hits of the lexical ranking, from the `idx`th on. -/
def mergeLexical : Nat → List KnowledgeArticle → StringMap KnowledgeSearchHit →
    StringMap KnowledgeSearchHit
  | _, [], merged => merged
  | idx, article :: rest, merged =>
    mergeLexical (idx + 1) rest (insertKey article.record.sysId (lexicalHit idx article) merged)

/-- The hits of the semantic ranking, from the `idx`th on. -/
def mergeSemantic : Nat → List KnowledgeSearchHit → StringMap KnowledgeSearchHit →
    StringMap KnowledgeSearchHit
  | _, [], merged => merged
  | idx, hit :: rest, merged =>
    mergeSemantic (idx + 1) rest
      (insertKey hit.sysId (fuse ((merged.get hit.sysId).getD hit) hit idx) merged)

/-- The order of hits: exact titles first, then by score, downwards, then by number. -/
def place (normalizedQuery : String) (hit : KnowledgeSearchHit) : Bool ×ₗ ℚᵒᵈ ×ₗ String :=
  toLex (normalizeTitleMatch hit.article.record.shortDescription != normalizedQuery,
    toLex (OrderDual.toDual hit.score, hit.article.record.number))

/-- The order of hits that are only semantic: by score, downwards, then by number. -/
def semanticPlace (hit : KnowledgeSearchHit) : ℚᵒᵈ ×ₗ String :=
  toLex (OrderDual.toDual hit.score, hit.article.record.number)

/-! ## The search -/

section Search

variable (lib : HybridLib) (config : HybridConfig) (store : SemanticStore lib.toSemanticLib)
  (provider : EmbeddingProvider) (embed : List String → Except String (List lib.Embedding))
  (index : FtsIndex store.cache) (query sanitizedQuery : String)
  (filters : KnowledgeSemanticSearchFilters)

/-- `KnowledgeSearchFilters` of the filters. -/
def lexicalFilters (filters : KnowledgeSemanticSearchFilters) (limit : Nat) :
    KnowledgeSearchFilters :=
  ⟨filters.knowledgeBase, filters.category, some limit⟩

/-- `knowledge_article_matches_semantic_filters`. -/
def matchesSemanticFilters (filters : KnowledgeSemanticSearchFilters) (article : KnowledgeArticle) :
    Bool :=
  matchesKnowledgeFilters ⟨filters.knowledgeBase, filters.category, none⟩ article

/-- An embedding of the provider's model, with its article if there is one. -/
def embeddedArticle (articles : List KnowledgeArticle) (row : KnowledgeEmbeddingRow lib.Embedding) :
    Option (KnowledgeEmbeddingRow lib.Embedding × KnowledgeArticle) :=
  if row.model = provider.model then
    (articles.find? (·.record.sysId = row.recordSysId)).map (row, ·)
  else none

/-- The embeddings of the provider's model whose article is active and passes, with the article. -/
def embeddedArticles : List (KnowledgeEmbeddingRow lib.Embedding × KnowledgeArticle) :=
  (store.embeddings.mergeSort fun a b => a.recordSysId ≤ b.recordSysId).filterMap
    (embeddedArticle lib provider ((activeArticles lib.toSemanticLib store.cache).filter
      (matchesSemanticFilters filters)))

/-- The hit of an embedding. -/
def semanticHit (queryVector : lib.Embedding)
    (embedded : KnowledgeEmbeddingRow lib.Embedding × KnowledgeArticle) :
    Except String KnowledgeSearchHit := do
  let score ← lib.cosineSimilarity queryVector embedded.1.vector
  return ⟨embedded.2, .semantic, score, some score, none, embedded.1.coverage⟩

/-- The semantic ranking: `semantic_only_hits` before the limit. -/
def semanticCandidates : Except String (List KnowledgeSearchHit) :=
  let status := knowledgeSemanticStatus lib.toSemanticLib config.toKbSemanticSearchConfig store
  if status.metadataEmbeddings + status.fullTextEmbeddings = 0 then .ok []
  else do
    let vectors ← embed [sanitizedQuery]
    match vectors with
    | [] => .error "semantic embedding provider returned no query vector"
    | queryVector :: _ =>
      let ranked ← (embeddedArticles lib store provider filters).mapM (semanticHit lib queryVector)
      let minScore : ℚ := filters.minScoreMillis.getD config.minScoreMillis / 1000
      return ((ranked.mergeSort fun a b => semanticPlace a ≤ semanticPlace b).filter fun hit =>
        minScore ≤ hit.score).take config.candidatePool

/-- `semantic_only_hits`. -/
def semanticOnlyHits : Except String (List KnowledgeSearchHit) :=
  (List.take (filters.limit.getD config.topK)) <$>
    semanticCandidates lib config store provider embed sanitizedQuery filters

/-- `has_active_embeddings`. -/
def hasActiveEmbeddings : Bool := store.embeddings.any (·.model = provider.model)

/-- The semantic hits of a hybrid search. -/
def hybridSemanticHits : Except String (List KnowledgeSearchHit) :=
  if hasActiveEmbeddings lib store provider then
    semanticOnlyHits lib config store provider embed sanitizedQuery filters
  else .ok []

/-- `hybrid_hits`. -/
def hybridHits : Except String (List KnowledgeSearchHit) := do
  let lexicalArticles ← searchKnowledge lib.toArticleLib index query
    (lexicalFilters filters config.candidatePool)
  let semanticHits ← hybridSemanticHits lib config store provider embed sanitizedQuery filters
  let merged := mergeSemantic 0 (semanticHits.take config.candidatePool)
    (mergeLexical 0 lexicalArticles [])
  let normalizedQuery := normalizeTitleMatch sanitizedQuery
  return ((merged.map Prod.snd).mergeSort fun a b =>
    place normalizedQuery a ≤ place normalizedQuery b).take (filters.limit.getD config.topK)

end Search

/-! ## What is promised -/

section Promise

/-- The lexical hit of a `sys_id`: that of its last place. -/
def lexicalHitOf (articles : List KnowledgeArticle) (sysId : String) : Option KnowledgeSearchHit :=
  (articles.zipIdx.reverse.find? fun entry => entry.1.record.sysId = sysId).map fun entry =>
    lexicalHit entry.2 entry.1

/-- The hit of a `sys_id` when the first `n` hits of the semantic ranking count. -/
def fusedHit (articles : List KnowledgeArticle) (semantic : List KnowledgeSearchHit) (n : Nat)
    (sysId : String) : Option KnowledgeSearchHit :=
  match (semantic.take n).zipIdx.find? fun entry => entry.1.sysId = sysId with
  | some (hit, idx) => some (fuse ((lexicalHitOf articles sysId).getD hit) hit idx)
  | none => lexicalHitOf articles sysId

/-- The hits of the other articles when the first `n` hits of the semantic ranking count. -/
def otherHits (articles : List KnowledgeArticle) (semantic : List KnowledgeSearchHit) (n : Nat)
    (sysId : String) : List KnowledgeSearchHit :=
  let candidates :=
    (articles.map (·.record.sysId) ++ (semantic.take n).map KnowledgeSearchHit.sysId).dedup
  (candidates.filter (· ≠ sysId)).filterMap (fusedHit articles semantic n)

/-- The rank of a hit: its place, and the `sys_id` where places are the same. -/
def rank (normalizedQuery : String) (hit : KnowledgeSearchHit) :
    (Bool ×ₗ ℚᵒᵈ ×ₗ String) ×ₗ String :=
  toLex (place normalizedQuery hit, hit.sysId)

/-- **The hit with `n` others before it in the semantic ranking has `n` others before it in the
end**, with both scores and with the lexical one alone. -/
def StaysBehind (normalizedQuery : String) (articles : List KnowledgeArticle)
    (semantic : List KnowledgeSearchHit) (n : Nat) (hit : KnowledgeSearchHit) : Prop :=
  n ≤ before (rank normalizedQuery) (otherHits articles semantic n hit.sysId)
      (rank normalizedQuery (fuse ((lexicalHitOf articles hit.sysId).getD hit) hit n)) ∧
    ∀ lexical, lexicalHitOf articles hit.sysId = some lexical →
      n ≤ before (rank normalizedQuery) (otherHits articles semantic n hit.sysId)
        (rank normalizedQuery lexical)

variable (lib : HybridLib) (config : HybridConfig) (store : SemanticStore lib.toSemanticLib)
  (provider : EmbeddingProvider) (embed : List String → Except String (List lib.Embedding))
  (index : FtsIndex store.cache) (query sanitizedQuery : String)
  (filters : KnowledgeSemanticSearchFilters)

/-- The lexical ranking. -/
def lexicalRanking : Except String (List KnowledgeArticle) :=
  searchKnowledge lib.toArticleLib index query (lexicalFilters filters config.candidatePool)

/-- The semantic ranking, where there is one. -/
def semanticRanking : Except String (List KnowledgeSearchHit) :=
  if hasActiveEmbeddings lib store provider then
    semanticCandidates lib config store provider embed sanitizedQuery filters
  else .ok []

/-- **A lower limit cuts hits off**, up to the pool of candidates. -/
def LimitMonotone : Prop :=
  ∀ k k', k ≤ k' → k' ≤ config.candidatePool →
    hybridHits lib config store provider embed index query sanitizedQuery
        { filters with limit := some k } =
      (List.take k) <$> hybridHits lib config store provider embed index query sanitizedQuery
        { filters with limit := some k' }

/-- Every hit of the semantic ranking stays behind as many as are before it there. -/
def SemanticStaysBehind : Prop :=
  ∀ articles semantic, lexicalRanking lib config store index query filters = .ok articles →
    semanticRanking lib config store provider embed sanitizedQuery filters = .ok semantic →
    ∀ n hit, semantic[n]? = some hit →
      StaysBehind (normalizeTitleMatch sanitizedQuery) articles semantic n hit

end Promise

/-! ## Maps in the order of their keys -/

section Maps

variable {A : Type} {key : String} {value : A} {m : StringMap A}

theorem get_insertKey (other : String) :
    (insertKey key value m).get other = if other = key then some value else m.get other := by
  induction m with
  | nil =>
    by_cases hkey : other = key
    · simp [insertKey, StringMap.get, hkey]
    · simp [insertKey, StringMap.get, hkey, Ne.symm hkey]
  | cons head rest ih =>
    obtain ⟨k, v⟩ := head
    unfold insertKey
    by_cases hlt : key < k
    · rw [if_pos hlt]
      by_cases hkey : other = key
      · simp [StringMap.get, hkey]
      · simp [StringMap.get, hkey, Ne.symm hkey]
    · rw [if_neg hlt]
      by_cases hsame : key = k
      · rw [if_pos hsame]
        by_cases hkey : other = key
        · simp [StringMap.get, hkey]
        · simp [StringMap.get, hkey, Ne.symm hkey, ← hsame]
      · rw [if_neg hsame]
        unfold StringMap.get at ih ⊢
        by_cases hhead : k = other
        · have hkey : other ≠ key := fun h => hsame (h.symm.trans hhead.symm)
          simp [hhead, hkey]
        · simpa [hhead] using ih

/-- Different keys in their order. -/
def Ordered (m : StringMap A) : Prop := (m.map Prod.fst).Pairwise (· < ·)

theorem insertKey_ordered (h : Ordered m) : Ordered (insertKey key value m) := by
  induction m with
  | nil => exact List.pairwise_singleton _ _
  | cons head rest ih =>
    obtain ⟨k, v⟩ := head
    obtain ⟨hhead, hrest⟩ := List.pairwise_cons.mp h
    unfold insertKey
    by_cases hlt : key < k
    · rw [if_pos hlt]
      refine List.pairwise_cons.mpr ⟨fun other hother => ?_, h⟩
      rcases List.mem_cons.mp hother with rfl | hother
      · exact hlt
      · exact hlt.trans (hhead other hother)
    · rw [if_neg hlt]
      by_cases hsame : key = k
      · rw [if_pos hsame, hsame]
        exact h
      · rw [if_neg hsame]
        refine List.pairwise_cons.mpr ⟨fun other hother => ?_, ih hrest⟩
        obtain ⟨entry, hentry, rfl⟩ := List.mem_map.mp hother
        rcases mem_insertKey hentry with rfl | hentry
        · exact lt_of_le_of_ne (not_lt.mp hlt) (Ne.symm hsame)
        · exact hhead _ (List.mem_map_of_mem hentry)

/-- The values of the other keys. -/
def otherValues (key : String) (m : StringMap A) : List A :=
  (m.filter fun entry => entry.1 ≠ key).map Prod.snd

theorem otherValues_insertKey : otherValues key (insertKey key value m) = otherValues key m := by
  induction m with
  | nil => simp [insertKey, otherValues]
  | cons head rest ih =>
    obtain ⟨k, v⟩ := head
    unfold insertKey
    by_cases hlt : key < k
    · rw [if_pos hlt]
      simp [otherValues]
    · rw [if_neg hlt]
      by_cases hsame : key = k
      · rw [if_pos hsame, ← hsame]
        simp [otherValues]
      · rw [if_neg hsame]
        unfold otherValues at ih ⊢
        rw [List.filter_cons, List.filter_cons]
        simp only [Ne.symm hsame, ne_eq, not_false_eq_true, decide_true, if_true, List.map_cons]
        rw [← ih]

/-- The values are that of a key, if it has one, and the others. -/
theorem values_perm (key : String) (h : Ordered m) :
    (m.map Prod.snd).Perm ((m.get key).toList ++ otherValues key m) := by
  induction m with
  | nil => exact List.Perm.refl _
  | cons head rest ih =>
    obtain ⟨k, v⟩ := head
    obtain ⟨hhead, hrest⟩ := List.pairwise_cons.mp h
    by_cases hkey : k = key
    · have hothers : rest.filter (fun entry => entry.1 ≠ key) = rest := by
        refine List.filter_eq_self.mpr fun entry hentry => decide_eq_true fun hsame => ?_
        have hlt := hhead _ (List.mem_map_of_mem hentry)
        rw [hsame, hkey] at hlt
        exact lt_irrefl _ hlt
      have hvalues : otherValues key ((k, v) :: rest) = rest.map Prod.snd := by
        rw [otherValues, List.filter_cons, if_neg (by simp [hkey]), hothers]
      have hget : StringMap.get ((k, v) :: rest) key = some v := by
        simp [StringMap.get, hkey]
      rw [hvalues, hget]
      exact List.Perm.refl _
    · have hget : StringMap.get ((k, v) :: rest) key = StringMap.get rest key := by
        simp [StringMap.get, hkey]
      have hvalues : otherValues key ((k, v) :: rest) = v :: otherValues key rest := by
        simp [otherValues, hkey]
      rw [hget, hvalues]
      exact ((ih hrest).cons v).trans List.perm_middle.symm

theorem get_of_mem (h : Ordered m) {entry : String × A} (hentry : entry ∈ m) :
    m.get entry.1 = some entry.2 := by
  induction m with
  | nil => cases hentry
  | cons head rest ih =>
    obtain ⟨hhead, hrest⟩ := List.pairwise_cons.mp h
    rcases List.mem_cons.mp hentry with rfl | hentry
    · simp [StringMap.get]
    · have hne : head.1 ≠ entry.1 := ne_of_lt (hhead _ (List.mem_map_of_mem hentry))
      have hget : StringMap.get (head :: rest) entry.1 = StringMap.get rest entry.1 := by
        simp [StringMap.get, hne]
      rw [hget]
      exact ih hrest hentry

theorem mem_keys : key ∈ m.map Prod.fst ↔ (m.get key).isSome = true := by
  simp [StringMap.get, List.find?_isSome]

/-- The values of the other keys, by their keys. -/
theorem otherValues_eq (key : String) (h : Ordered m) :
    otherValues key m = ((m.map Prod.fst).filter (· ≠ key)).filterMap m.get := by
  rw [otherValues, List.filter_map, List.filterMap_map]
  have hget : ∀ entry ∈ m.filter ((fun k => decide (k ≠ key)) ∘ Prod.fst),
      (m.get ∘ Prod.fst) entry = some entry.2 :=
    fun entry hentry => get_of_mem h (List.mem_of_mem_filter hentry)
  rw [List.filterMap_congr hget]
  exact (List.filterMap_eq_map' (f := Prod.snd)).symm ▸ rfl

end Maps

/-! ## Merging -/

variable {n : Nat}

section Merge

variable {articles : List KnowledgeArticle} {semantic : List KnowledgeSearchHit}
  {m : StringMap KnowledgeSearchHit}

/-- Hits in the order of their `sys_id`s. -/
structure Keyed (m : StringMap KnowledgeSearchHit) : Prop where
  ordered : Ordered m
  keys : ∀ entry ∈ m, entry.2.sysId = entry.1

variable {key : String}

theorem Keyed.sysId_of_get (h : Keyed m) {hit : KnowledgeSearchHit}
    (hget : m.get key = some hit) : hit.sysId = key := by
  obtain ⟨entry, hfind, rfl⟩ := Option.map_eq_some_iff.mp hget
  rw [h.keys entry (List.mem_of_find?_eq_some hfind)]
  simpa using List.find?_some hfind

theorem insertKey_keyed {hit : KnowledgeSearchHit} (h : Keyed m)
    (hkey : hit.sysId = key) : Keyed (insertKey key hit m) := by
  refine ⟨insertKey_ordered h.ordered, fun entry hentry => ?_⟩
  rcases mem_insertKey hentry with rfl | hentry
  · exact hkey
  · exact h.keys entry hentry

variable (idx : Nat)

theorem mergeLexical_keyed (articles : List KnowledgeArticle) (h : Keyed m) :
    Keyed (mergeLexical idx articles m) := by
  induction articles generalizing idx m with
  | nil => exact h
  | cons article rest ih => exact ih _ (insertKey_keyed h rfl)

theorem mergeSemantic_keyed (hits : List KnowledgeSearchHit) (h : Keyed m) :
    Keyed (mergeSemantic idx hits m) := by
  induction hits generalizing idx m with
  | nil => exact h
  | cons hit rest ih => exact ih _ (insertKey_keyed h rfl)

theorem get_mergeLexical (articles : List KnowledgeArticle) (m : StringMap KnowledgeSearchHit)
    (sysId : String) :
    (mergeLexical idx articles m).get sysId =
      (((articles.zipIdx idx).reverse.find? fun entry => entry.1.record.sysId = sysId).map
        fun entry => lexicalHit entry.2 entry.1).or (m.get sysId) := by
  induction articles generalizing idx m with
  | nil => rfl
  | cons article rest ih =>
    rw [mergeLexical, ih, get_insertKey, List.zipIdx_cons, List.reverse_cons, List.find?_append]
    by_cases hkey : article.record.sysId = sysId
    · have hlast : [(article, idx)].find? (fun entry => entry.1.record.sysId = sysId) =
          some (article, idx) := by simp [hkey]
      rw [if_pos hkey.symm, hlast, Option.map_or, Option.or_assoc]
      rfl
    · simp [hkey, Ne.symm hkey]

theorem get_mergeSemantic {hits : List KnowledgeSearchHit}
    (hnodup : (hits.map KnowledgeSearchHit.sysId).Nodup) (m : StringMap KnowledgeSearchHit)
    (sysId : String) :
    (mergeSemantic idx hits m).get sysId =
      match (hits.zipIdx idx).find? fun entry => entry.1.sysId = sysId with
      | some (hit, idx) => some (fuse ((m.get sysId).getD hit) hit idx)
      | none => m.get sysId := by
  induction hits generalizing idx m with
  | nil => rfl
  | cons hit rest ih =>
    rw [List.map_cons, List.nodup_cons] at hnodup
    rw [mergeSemantic, ih _ hnodup.2, get_insertKey, List.zipIdx_cons, List.find?_cons]
    by_cases hkey : hit.sysId = sysId
    · have hnone : (rest.zipIdx (idx + 1)).find? (fun entry => entry.1.sysId = sysId) = none := by
        refine List.find?_eq_none.mpr fun entry hentry hsame => hnodup.1 ?_
        rw [hkey, ← of_decide_eq_true hsame]
        exact List.mem_map_of_mem (List.fst_mem_of_mem_zipIdx hentry)
      simp [hkey, hnone]
    · simp [hkey, Ne.symm hkey]

/-- What the search merges of both rankings when the first `n` hits of the semantic one count. -/
def mergedHits (articles : List KnowledgeArticle) (semantic : List KnowledgeSearchHit) (n : Nat) :
    StringMap KnowledgeSearchHit :=
  mergeSemantic 0 (semantic.take n) (mergeLexical 0 articles [])

theorem mergedHits_keyed (articles : List KnowledgeArticle) (semantic : List KnowledgeSearchHit)
    (n : Nat) : Keyed (mergedHits articles semantic n) :=
  mergeSemantic_keyed _ _ (mergeLexical_keyed _ _ ⟨List.Pairwise.nil, fun _ h => (by cases h)⟩)

theorem take_nodup (hnodup : (semantic.map KnowledgeSearchHit.sysId).Nodup) (n : Nat) :
    ((semantic.take n).map KnowledgeSearchHit.sysId).Nodup :=
  ((List.take_sublist n semantic).map _).nodup hnodup

theorem get_mergedHits (hnodup : (semantic.map KnowledgeSearchHit.sysId).Nodup) (n : Nat)
    (sysId : String) :
    (mergedHits articles semantic n).get sysId = fusedHit articles semantic n sysId := by
  have hlexical : (mergeLexical 0 articles []).get sysId = lexicalHitOf articles sysId := by
    rw [get_mergeLexical]
    exact Option.or_none
  rw [mergedHits, get_mergeSemantic 0 (take_nodup hnodup n), hlexical]
  rfl

variable {sysId : String}

theorem exists_zipIdx {X : Type} {key : X → String} {list : List X} :
    (∃ entry ∈ list.zipIdx, key entry.1 = sysId) ↔ sysId ∈ list.map key := by
  rw [← List.zipIdx_map_fst 0 list, List.map_map, List.mem_map, List.zipIdx_map_fst]
  rfl

/-- The articles of both rankings have hits. -/
theorem mem_mergedHits (hnodup : (semantic.map KnowledgeSearchHit.sysId).Nodup) :
    sysId ∈ (mergedHits articles semantic n).map Prod.fst ↔
      sysId ∈ articles.map (·.record.sysId) ++ (semantic.take n).map KnowledgeSearchHit.sysId := by
  rw [mem_keys, get_mergedHits hnodup, List.mem_append]
  have hlexical : (lexicalHitOf articles sysId).isSome = true ↔
      sysId ∈ articles.map (·.record.sysId) := by
    rw [lexicalHitOf, Option.isSome_map, List.find?_isSome, ← exists_zipIdx]
    simp
  have hsemantic : ((semantic.take n).zipIdx.find? fun entry => entry.1.sysId = sysId).isSome =
      true ↔ sysId ∈ (semantic.take n).map KnowledgeSearchHit.sysId := by
    rw [List.find?_isSome, ← exists_zipIdx]
    simp
  rw [← hlexical, ← hsemantic]
  unfold fusedHit
  split
  · rename_i hfind
    rw [hfind]
    simp
  · rename_i hfind
    rw [hfind]
    simp

/-- The hits of the other articles, as the search has them. -/
theorem otherValues_perm (hnodup : (semantic.map KnowledgeSearchHit.sysId).Nodup) (n : Nat)
    (sysId : String) :
    (otherValues sysId (mergedHits articles semantic n)).Perm
      (otherHits articles semantic n sysId) := by
  have hordered := (mergedHits_keyed articles semantic n).ordered
  have hkeys : ((mergedHits articles semantic n).map Prod.fst).Perm
      (articles.map (·.record.sysId) ++ (semantic.take n).map KnowledgeSearchHit.sysId).dedup := by
    refine (List.perm_ext_iff_of_nodup ?_ (List.nodup_dedup _)).mpr fun key => ?_
    · exact List.Pairwise.imp (fun hlt => ne_of_lt hlt) hordered
    · rw [List.mem_dedup]
      exact mem_mergedHits hnodup
  rw [otherValues_eq sysId hordered]
  have hget : (mergedHits articles semantic n).get = fusedHit articles semantic n :=
    funext (get_mergedHits hnodup n)
  rw [hget]
  exact (hkeys.filter _).filterMap _

theorem mergeSemantic_append (hits : List KnowledgeSearchHit) (hit : KnowledgeSearchHit)
    (m : StringMap KnowledgeSearchHit) :
    mergeSemantic idx (hits ++ [hit]) m = insertKey hit.sysId
        (fuse (((mergeSemantic idx hits m).get hit.sysId).getD hit) hit (idx + hits.length))
        (mergeSemantic idx hits m) := by
  induction hits generalizing idx m with
  | nil => rfl
  | cons head rest ih =>
    rw [List.cons_append, mergeSemantic, ih, mergeSemantic, List.length_cons,
      show idx + 1 + rest.length = idx + (rest.length + 1) by omega]

section

variable (hnodup : (semantic.map KnowledgeSearchHit.sysId).Nodup) {hit : KnowledgeSearchHit}
  (hhit : semantic[n]? = some hit)

include hnodup hhit

/-- A hit of the semantic ranking is not among those before it. -/
theorem get_mergedHits_next :
    (mergedHits articles semantic n).get hit.sysId = lexicalHitOf articles hit.sysId := by
  rw [get_mergedHits hnodup, fusedHit]
  have hfirst := take_nodup hnodup (n + 1)
  rw [List.take_add_one, hhit, Option.toList_some, List.map_append, List.nodup_append] at hfirst
  have hnone : (semantic.take n).zipIdx.find? (fun entry => entry.1.sysId = hit.sysId) = none := by
    refine List.find?_eq_none.mpr fun entry hentry hsame => ?_
    exact hfirst.2.2 _ (List.mem_map_of_mem (List.fst_mem_of_mem_zipIdx hentry)) _
      List.mem_cons_self (of_decide_eq_true hsame)
  rw [hnone]

/-- The next hit of the semantic ranking replaces that of its article. -/
theorem mergedHits_succ :
    mergedHits articles semantic (n + 1) =
      insertKey hit.sysId (fuse ((lexicalHitOf articles hit.sysId).getD hit) hit n)
        (mergedHits articles semantic n) := by
  obtain ⟨hn, -⟩ := List.getElem?_eq_some_iff.mp hhit
  rw [← get_mergedHits_next hnodup hhit, mergedHits, List.take_add_one, hhit, Option.toList_some,
    mergeSemantic_append, List.length_take, Nat.zero_add, Nat.min_eq_left (Nat.le_of_lt hn)]
  rfl

end

end Merge

/-! ## The order of hits -/

section Order

variable {articles : List KnowledgeArticle} {semantic : List KnowledgeSearchHit}
  {m : StringMap KnowledgeSearchHit} {q : String}

/-- The hits that the search sorts, once sorted. -/
def sortedHits (q : String) (m : StringMap KnowledgeSearchHit) : List KnowledgeSearchHit :=
  (m.map Prod.snd).mergeSort fun a b => place q a ≤ place q b

/-- The search sorts its hits by rank: the sort is stable, and the map is in the order of
`sys_id`s. -/
theorem sortedHits_ranking (h : Keyed m) : Ranking (rank q) (m.map Prod.snd) (sortedHits q m) := by
  have hordered : (m.map Prod.snd).Pairwise fun a b => a.sysId < b.sysId := by
    refine List.pairwise_map.mpr ((List.pairwise_map.mp h.ordered).imp_of_mem ?_)
    intro a b ha hb hlt
    rw [h.keys a ha, h.keys b hb]
    exact hlt
  have hnodup : (m.map Prod.snd).Nodup := hordered.imp fun hlt heq => ne_of_lt hlt (congrArg _ heq)
  refine ⟨List.mergeSort_perm _ _, (mergeSort_pairwise ?_ ?_ hnodup).imp ?_⟩
  · intro a b c hab hbc
    exact decide_eq_true ((of_decide_eq_true hab).trans (of_decide_eq_true hbc))
  · intro a b
    simp only [Bool.or_eq_true, decide_eq_true_eq]
    exact le_total _ _
  · intro a b hab
    obtain ⟨hle, hkept⟩ := hab
    rw [decide_eq_true_eq] at hle hkept
    refine Prod.Lex.toLex_lt_toLex.mpr ?_
    rcases lt_or_eq_of_le hle with hlt | heq
    · exact .inl hlt
    · exact .inr ⟨heq, List.pairwise_iff_forall_sublist.mp hordered (hkept heq.ge)⟩

/-- Of two hits with one title, that with the higher score comes first. -/
theorem rank_lt {a b : KnowledgeSearchHit}
    (htitle : a.article.record.shortDescription = b.article.record.shortDescription)
    (hscore : b.score < a.score) : rank q a < rank q b := by
  have hscores : toLex (OrderDual.toDual a.score, a.article.record.number) <
      toLex (OrderDual.toDual b.score, b.article.record.number) :=
    Prod.Lex.toLex_lt_toLex.mpr (.inl (OrderDual.toDual_lt_toDual.mpr hscore))
  have hplace : place q a < place q b := by
    rw [place, place, htitle]
    exact Prod.Lex.toLex_lt_toLex.mpr (.inr ⟨rfl, hscores⟩)
  exact Prod.Lex.toLex_lt_toLex.mpr (.inl hplace)

theorem reciprocal_pos (i : Nat) : 0 < reciprocalRankFusionScore i := by
  unfold reciprocalRankFusionScore
  positivity

/-- **One step of the limit**: the first `n` hits stay as they are when one more hit of the semantic
ranking counts, exactly if that hit stays behind. -/
theorem take_sortedHits_iff (hnodup : (semantic.map KnowledgeSearchHit.sysId).Nodup)
    {hit : KnowledgeSearchHit} (hhit : semantic[n]? = some hit) :
    (sortedHits q (mergedHits articles semantic n)).take n =
        (sortedHits q (mergedHits articles semantic (n + 1))).take n ↔
      StaysBehind q articles semantic n hit := by
  have hkeyed := mergedHits_keyed articles semantic n
  have hkeyed' := mergedHits_keyed articles semantic (n + 1)
  have hothers : (otherValues hit.sysId (mergedHits articles semantic n)).Perm
      (otherHits articles semantic n hit.sysId) := otherValues_perm hnodup n hit.sysId
  have hnow := (sortedHits_ranking (q := q) hkeyed).congr (values_perm hit.sysId hkeyed.ordered)
  have hnext := (sortedHits_ranking (q := q) hkeyed').congr (values_perm hit.sysId hkeyed'.ordered)
  rw [get_mergedHits_next hnodup hhit] at hnow
  rw [mergedHits_succ hnodup hhit, get_insertKey, if_pos rfl, otherValues_insertKey,
    ← mergedHits_succ hnodup hhit] at hnext
  have hother : ∀ other, other.sysId = hit.sysId →
      other ∉ otherHits articles semantic n hit.sysId := by
    intro other hsame hmem
    obtain ⟨entry, hentry, rfl⟩ := List.mem_map.mp (hothers.mem_iff.mpr hmem)
    obtain ⟨hentry, hne⟩ := List.mem_filter.mp hentry
    exact of_decide_eq_true hne ((hkeyed.keys entry hentry).symm.trans hsame)
  have hnow := hnow.congr (hothers.append_left _)
  have hnext := hnext.congr (hothers.append_left _)
  unfold StaysBehind
  rcases hlexical : lexicalHitOf articles hit.sysId with _ | lexical
  · rw [hlexical] at hnow hnext
    rw [take_insert_iff hnext hnow (hother _ rfl)]
    simp
  · rw [hlexical] at hnow hnext
    have hsame : lexical.sysId = hit.sysId := by
      refine hkeyed.sysId_of_get ?_
      rw [get_mergedHits_next hnodup hhit]
      exact hlexical
    have hne : fuse lexical hit n ≠ lexical := by
      intro heq
      have hscore := congrArg KnowledgeSearchHit.score heq
      have hpos := reciprocal_pos (n + 1)
      rw [fuse] at hscore
      linarith
    rw [take_replace_iff hnext hnow]
    · simp
    · simpa [hne] using hother (fuse lexical hit n) rfl
    · simpa [hne.symm] using hother _ hsame

/-- Beyond its end the semantic ranking has no more hits. -/
theorem mergedHits_of_length_le (hn : semantic.length ≤ n) :
    mergedHits articles semantic (n + 1) = mergedHits articles semantic n := by
  rw [mergedHits, mergedHits, List.take_of_length_le hn, List.take_of_length_le (by omega)]

/-- **All steps of the limit**: where every hit stays behind, a lower limit leaves the first hits as
they are. -/
theorem take_sortedHits (hnodup : (semantic.map KnowledgeSearchHit.sysId).Nodup)
    (hbehind : ∀ n hit, semantic[n]? = some hit → StaysBehind q articles semantic n hit)
    {k k' : Nat} (hk : k ≤ k') :
    (sortedHits q (mergedHits articles semantic k)).take k =
      (sortedHits q (mergedHits articles semantic k')).take k := by
  induction k' with
  | zero =>
    obtain rfl := Nat.le_zero.mp hk
    rfl
  | succ k' ih =>
    rcases Nat.lt_or_eq_of_le hk with hlt | rfl
    · rw [ih (by omega)]
      rcases hhit : semantic[k']? with _ | hit
      · rw [mergedHits_of_length_le (List.getElem?_eq_none_iff.mp hhit)]
      · have hstep := (take_sortedHits_iff hnodup hhit).mpr (hbehind k' hit hhit)
        have htake := congrArg (List.take k) hstep
        rw [List.take_take, List.take_take, Nat.min_eq_left (by omega)] at htake
        exact htake
    · rfl

end Order

/-! ## The search as its rankings -/

section Rankings

variable {lib : HybridLib} {config : HybridConfig} {store : SemanticStore lib.toSemanticLib}
  {provider : EmbeddingProvider} {embed : List String → Except String (List lib.Embedding)}
  {index : FtsIndex store.cache} {query sanitizedQuery : String}
  {filters : KnowledgeSemanticSearchFilters}

/-- The search, by its two rankings. -/
theorem hybridHits_eq (hn : n ≤ config.candidatePool) :
    hybridHits lib config store provider embed index query sanitizedQuery
        { filters with limit := some n } = do
      let articles ← lexicalRanking lib config store index query filters
      let semantic ← semanticRanking lib config store provider embed sanitizedQuery filters
      return (sortedHits (normalizeTitleMatch sanitizedQuery)
        (mergedHits articles semantic n)).take n := by
  have hsemantic : hybridSemanticHits lib config store provider embed sanitizedQuery
      { filters with limit := some n } = List.take n <$>
        semanticRanking lib config store provider embed sanitizedQuery filters := by
    unfold hybridSemanticHits semanticRanking
    by_cases hactive : hasActiveEmbeddings lib store provider = true
    · rw [if_pos hactive, if_pos hactive]
      rfl
    · rw [if_neg hactive, if_neg hactive]
      exact congrArg Except.ok List.take_nil.symm
  unfold hybridHits
  rw [hsemantic]
  show (do
    let articles ← lexicalRanking lib config store index query filters
    _) = _
  rcases lexicalRanking lib config store index query filters with reason | articles
  · rfl
  · rcases semanticRanking lib config store provider embed sanitizedQuery filters
      with reason | semantic
    · rfl
    · show Except.ok _ = Except.ok _
      rw [List.take_take, Nat.min_eq_right hn]
      rfl

/-- The hits of embeddings are of different articles. -/
theorem embeddedArticles_nodup :
    ((embeddedArticles lib store provider filters).map (·.2.record.sysId)).Nodup := by
  have hrows : (store.embeddings.mergeSort fun a b => a.recordSysId ≤ b.recordSysId).Pairwise
      fun a b => a.recordSysId ≠ b.recordSysId := by
    refine List.pairwise_map.mp (?_ : List.Nodup _)
    rw [((List.mergeSort_perm store.embeddings _).map _).nodup_iff]
    exact store.keys
  have hsame : ∀ articles row embedded, embeddedArticle lib provider articles row = some embedded →
      embedded.2.record.sysId = row.recordSysId := by
    intro articles row embedded h
    unfold embeddedArticle at h
    split at h
    · obtain ⟨article, hfind, rfl⟩ := Option.map_eq_some_iff.mp h
      simpa using List.find?_some hfind
    · cases h
  refine List.pairwise_map.mpr (List.pairwise_filterMap.mpr (hrows.imp ?_))
  intro a b hne embedded hembedded embedded' hembedded' heq
  exact hne ((hsame _ a embedded hembedded).symm.trans (heq.trans (hsame _ b embedded' hembedded')))

theorem mapM_semanticHit {queryVector : lib.Embedding}
    {embedded : List (KnowledgeEmbeddingRow lib.Embedding × KnowledgeArticle)}
    {hits : List KnowledgeSearchHit}
    (h : embedded.mapM (semanticHit lib queryVector) = .ok hits) :
    hits.map KnowledgeSearchHit.sysId = embedded.map (·.2.record.sysId) := by
  induction embedded generalizing hits with
  | nil =>
    cases h
    rfl
  | cons head rest ih =>
    rw [List.mapM_cons] at h
    obtain ⟨hit, hhit, h⟩ := bind_eq_ok h
    obtain ⟨others, hothers, h⟩ := bind_eq_ok h
    injection h with h
    obtain ⟨score, -, hhit⟩ := bind_eq_ok hhit
    injection hhit with hhit
    rw [← h, ← hhit, List.map_cons, List.map_cons, ih hothers]
    rfl

/-- The semantic ranking has different articles, and no more than the pool of candidates. -/
theorem semanticRanking_ok {semantic : List KnowledgeSearchHit}
    (h : semanticRanking lib config store provider embed sanitizedQuery filters = .ok semantic) :
    (semantic.map KnowledgeSearchHit.sysId).Nodup ∧ semantic.length ≤ config.candidatePool := by
  have hnil : (([] : List KnowledgeSearchHit).map KnowledgeSearchHit.sysId).Nodup ∧
      ([] : List KnowledgeSearchHit).length ≤ config.candidatePool :=
    ⟨List.nodup_nil, Nat.zero_le _⟩
  unfold semanticRanking semanticCandidates at h
  split at h
  · simp only at h
    split at h
    · cases h
      exact hnil
    · obtain ⟨vectors, -, h⟩ := bind_eq_ok h
      rcases vectors with _ | ⟨queryVector, rest⟩
      · cases h
      · obtain ⟨ranked, hranked, h⟩ := bind_eq_ok h
        injection h with h
        rw [← h]
        refine ⟨?_, List.length_take_le _ _⟩
        have hkeys : ((ranked.mergeSort fun a b => semanticPlace a ≤ semanticPlace b).map
            KnowledgeSearchHit.sysId).Nodup := by
          rw [((List.mergeSort_perm ranked _).map _).nodup_iff, mapM_semanticHit hranked]
          exact embeddedArticles_nodup
        exact (((List.take_sublist _ _).trans List.filter_sublist).map _).nodup hkeys
  · cases h
    exact hnil

/-- A lower limit cuts hits off exactly if the hits of the semantic ranking stay behind. -/
theorem limitMonotone_iff :
    LimitMonotone lib config store provider embed index query sanitizedQuery filters ↔
      SemanticStaysBehind lib config store provider embed index query sanitizedQuery filters := by
  constructor
  · intro hmonotone articles semantic harticles hsemantic n hit hhit
    obtain ⟨hnodup, hlength⟩ := semanticRanking_ok hsemantic
    obtain ⟨hn, -⟩ := List.getElem?_eq_some_iff.mp hhit
    have h := hmonotone n (n + 1) (by omega) (by omega)
    rw [hybridHits_eq (by omega), hybridHits_eq (by omega), harticles, hsemantic] at h
    injection h with h
    rw [List.take_take, Nat.min_eq_left (by omega)] at h
    exact (take_sortedHits_iff hnodup hhit).mp h
  · intro hbehind k k' hk hk'
    rw [hybridHits_eq (by omega), hybridHits_eq hk']
    rcases harticles : lexicalRanking lib config store index query filters with reason | articles
    · rfl
    · rcases hsemantic : semanticRanking lib config store provider embed sanitizedQuery filters
        with reason | semantic
      · rfl
      · obtain ⟨hnodup, -⟩ := semanticRanking_ok hsemantic
        show Except.ok _ = Except.ok _
        rw [List.take_take, Nat.min_eq_left hk,
          take_sortedHits hnodup (hbehind articles semantic harticles hsemantic) hk]

end Rankings

/-- **When hybrid search is limit-monotone**: every hit of the semantic ranking stays behind as many
hits as are before it in that ranking. -/
theorem hybrid_limit_monotone_iff (lib : HybridLib) (config : HybridConfig)
    (store : SemanticStore lib.toSemanticLib) (provider : EmbeddingProvider)
    (embed : List String → Except String (List lib.Embedding)) (index : FtsIndex store.cache)
    (query sanitizedQuery : String) (filters : KnowledgeSemanticSearchFilters) :
    LimitMonotone lib config store provider embed index query sanitizedQuery filters ↔
      SemanticStaysBehind lib config store provider embed index query sanitizedQuery filters :=
  limitMonotone_iff

/-! ## Two similar articles, one of which has the words -/

/-- Embeddings that are their similarity. -/
def similarityLib : HybridLib :=
  { unreadLib with
    contentHash := id
    Embedding := ℚ
    length := fun _ => 1
    isUnitLength := fun _ => true
    axis := 1
    axis_unit := rfl
    cosineSimilarity := fun _ similarity => .ok similarity }

/-- The configuration, with a pool of two. -/
def pairConfig : HybridConfig :=
  { localConfig "ollama" with topK := 10, candidatePool := 2, minScoreMillis := 0 }

/-- The embedding of an article. -/
def similarityRow (sysId : String) (similarity : ℚ) : KnowledgeEmbeddingRow ℚ where
  recordSysId := sysId
  model := "nomic-embed-text"
  provider := "ollama"
  dimensions := 1
  coverage := .metadata
  contentHash := ""
  vector := similarity
  updatedAt := 0

/-- The row of an article that has the words, and of one that has not. -/
def firstRow : RecordRow := scopedRow "id-1" "KB0000001" .knowledge

def secondRow : RecordRow := scopedRow "id-2" "KB0000002" .knowledge

/-- Two articles with embeddings. -/
def pairStore : SemanticStore similarityLib.toSemanticLib where
  cache :=
    { records := { rows := [firstRow, secondRow], keys := by decide }
      articles := (Table.empty.put "id-1" ⟨none, [], [], [], false⟩).put "id-2"
        ⟨none, [], [], [], false⟩
      files := Table.empty }
  embeddings := [similarityRow "id-1" (9 / 10), similarityRow "id-2" (8 / 10)]
  keys := by decide
  owned := by
    intro row hrow
    rcases List.mem_cons.mp hrow with rfl | hrow
    · rfl
    · obtain rfl := List.mem_singleton.mp hrow
      rfl
  lastRebuildAt := none
  lastError := none

/-- An index that finds the first of them. -/
def firstIndex : FtsIndex pairStore.cache := fun _ => .ok
  { rows := [firstRow]
    distinct := List.nodup_singleton _
    cached := fun _ h => by
      rw [List.mem_singleton.mp h]
      exact List.mem_cons_self }

/-- A provider that answers one vector. -/
def oneVector (_ : List String) : Except String (List similarityLib.Embedding) := .ok [(1 : ℚ)]

/-- No filters. -/
def noFilters : KnowledgeSemanticSearchFilters := ⟨none, none, none, none⟩

/-- The article of one of the two rows. -/
def pairArticle (row : RecordRow) : KnowledgeArticle :=
  materializeKnowledgeArticle similarityLib.toArticleLib pairStore.cache row

/-- The semantic hit of one of the two rows. -/
def pairHit (row : RecordRow) (similarity : ℚ) : KnowledgeSearchHit :=
  ⟨pairArticle row, .semantic, similarity, some similarity, none, .metadata⟩

theorem pair_row {row : RecordRow} (h : row = firstRow ∨ row = secondRow) :
    knowledgeRow pairStore.cache row.number = some row := by
  have hnamed : pairStore.cache.records.rows.filter (fun other =>
      other.number = row.number ∧ other.resourceType = .knowledge) = [row] := by
    rcases h with rfl | rfl
    · rfl
    · rfl
  rw [knowledgeRow, hnamed, List.argmin_singleton]

theorem pair_lexical : lexicalRanking similarityLib pairConfig pairStore firstIndex "printer"
    noFilters = .ok [pairArticle firstRow] := by
  have hpassing : passingRow similarityLib.toArticleLib pairStore.cache
      (matchesKnowledgeFilters ⟨none, none, some 2⟩) firstRow.number = some firstRow := by
    rw [passingRow, pair_row (.inl rfl)]
    rfl
  have hfts : searchFts firstIndex "printer" (min (2 * 4) usizeMax) = .ok [firstRow.number] := rfl
  have hfound : foundRows similarityLib.toArticleLib firstIndex "printer" ⟨none, none, some 2⟩ =
      .ok [firstRow] := by
    rw [foundRows, if_neg (by decide)]
    show (do
      let numbers ← searchFts firstIndex "printer" (min (2 * 4) usizeMax)
      _) = _
    rw [hfts]
    show Except.ok (collectRows _ _ _ (some 2) _ _) = _
    rw [collectRows_eq _ (by decide), List.filterMap_cons, hpassing]
    rfl
  rw [lexicalRanking, searchKnowledge]
  show _ <$> foundRows similarityLib.toArticleLib firstIndex "printer" ⟨none, none, some 2⟩ = _
  rw [hfound]
  rfl

theorem pair_active : activeArticles similarityLib.toSemanticLib pairStore.cache =
    [pairArticle firstRow, pairArticle secondRow] := by
  have hrows : listActiveKnowledge pairStore.cache = [firstRow, secondRow] := by
    have hfilter : pairStore.cache.records.rows.filter isActiveKnowledge =
        [firstRow, secondRow] := rfl
    rw [listActiveKnowledge, hfilter]
    exact List.mergeSort_of_pairwise (by decide)
  have hget : ∀ row, row = firstRow ∨ row = secondRow →
      (getKnowledgeArticle similarityLib.toArticleLib pairStore.cache row.number).filter
        (fun article => article.record.sysId = row.sysId) = some (pairArticle row) := by
    intro row hrow
    rw [getKnowledgeArticle_eq, pair_row hrow]
    rcases hrow with rfl | rfl
    · rfl
    · rfl
  rw [activeArticles, hrows, List.filterMap_cons, hget _ (.inl rfl), List.filterMap_cons,
    hget _ (.inr rfl)]
  rfl

theorem pair_semantic : semanticRanking similarityLib pairConfig pairStore
    (ollamaEmbeddingProvider pairConfig.toKbSemanticSearchConfig) oneVector "printer" noFilters =
    .ok [pairHit firstRow (9 / 10), pairHit secondRow (8 / 10)] := by
  have hembedded : embeddedArticles similarityLib pairStore
      (ollamaEmbeddingProvider pairConfig.toKbSemanticSearchConfig) noFilters =
      [(similarityRow "id-1" (9 / 10), pairArticle firstRow),
        (similarityRow "id-2" (8 / 10), pairArticle secondRow)] := by
    have hsorted : (pairStore.embeddings.mergeSort fun a b => a.recordSysId ≤ b.recordSysId) =
        pairStore.embeddings := List.mergeSort_of_pairwise (by decide)
    rw [embeddedArticles, hsorted, pair_active]
    rfl
  have hsorted : ([pairHit firstRow (9 / 10), pairHit secondRow (8 / 10)].mergeSort fun a b =>
      semanticPlace a ≤ semanticPlace b) = [pairHit firstRow (9 / 10), pairHit secondRow (8 / 10)] :=
    List.mergeSort_of_pairwise (List.pairwise_pair.mpr (decide_eq_true
      (Prod.Lex.toLex_le_toLex.mpr (.inl (OrderDual.toDual_lt_toDual.mpr (by norm_num [pairHit]))))))
  have hscored : (embeddedArticles similarityLib pairStore
      (ollamaEmbeddingProvider pairConfig.toKbSemanticSearchConfig) noFilters).mapM
        (semanticHit similarityLib (1 : ℚ)) =
      .ok [pairHit firstRow (9 / 10), pairHit secondRow (8 / 10)] := by
    rw [hembedded]
    rfl
  have hstatus : (knowledgeSemanticStatus similarityLib.toSemanticLib
      pairConfig.toKbSemanticSearchConfig pairStore).metadataEmbeddings = 2 := rfl
  rw [semanticRanking, if_pos (by decide), semanticCandidates]
  simp only
  rw [if_neg (by rw [hstatus]; omega)]
  show (do
    let ranked ← (embeddedArticles similarityLib pairStore
      (ollamaEmbeddingProvider pairConfig.toKbSemanticSearchConfig) noFilters).mapM
        (semanticHit similarityLib (1 : ℚ))
    _) = _
  rw [hscored]
  show Except.ok (((List.mergeSort _ _).filter _).take 2) = _
  rw [hsorted]
  have hfilter : ∀ hit ∈ [pairHit firstRow (9 / 10), pairHit secondRow (8 / 10)],
      decide ((noFilters.minScoreMillis.getD pairConfig.minScoreMillis : ℚ) / 1000 ≤ hit.score) =
        true := by
    simp [noFilters, pairConfig, pairHit]
    norm_num
  rw [List.filter_eq_self.mpr hfilter]
  rfl

/-- **With one more hit, the second article comes first.** -/
theorem second_article_overtakes :
    ¬ LimitMonotone similarityLib pairConfig pairStore
      (ollamaEmbeddingProvider pairConfig.toKbSemanticSearchConfig) oneVector firstIndex
      "printer" "printer" noFilters := by
  rw [limitMonotone_iff]
  intro hbehind
  have h := (hbehind _ _ pair_lexical pair_semantic 1 _ rfl).1
  have hnone : lexicalHitOf [pairArticle firstRow] "id-2" = none := by
    decide
  have hothers : otherHits [pairArticle firstRow]
      [pairHit firstRow (9 / 10), pairHit secondRow (8 / 10)] 1 "id-2" =
      [fuse (lexicalHit 0 (pairArticle firstRow)) (pairHit firstRow (9 / 10)) 0] := by
    rfl
  rw [show (pairHit secondRow (8 / 10)).sysId = "id-2" from rfl, hnone, hothers] at h
  have hovertakes : rank (normalizeTitleMatch "printer")
      (fuse (pairHit secondRow (8 / 10)) (pairHit secondRow (8 / 10)) 1) <
      rank (normalizeTitleMatch "printer")
        (fuse (lexicalHit 0 (pairArticle firstRow)) (pairHit firstRow (9 / 10)) 0) := by
    refine rank_lt rfl ?_
    norm_num [fuse, lexicalHit, pairHit, reciprocalRankFusionScore]
  rw [Rankings.before, List.countP_singleton, if_neg (by simpa using hovertakes.le)] at h
  omega

end SnowAgent.Knowledge
