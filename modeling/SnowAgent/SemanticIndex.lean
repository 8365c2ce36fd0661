import SnowAgent.KnowledgeSearch

/-! # The semantic index of knowledge articles

Each article may have an embedding: a vector for a text made of it, with the hash of the text
and the provider and model that made the vector.  A rebuild embeds the articles whose embedding
does not fit, in batches, and prunes the embeddings of articles that are gone.  The status counts
the embeddings that do not fit, as stale, against the configuration.

The vectors, their length and the hash stay parameters; so does what the provider answers.
-/
namespace SnowAgent.Knowledge

open Text Core

/-! ## Texts -/

/-- `KnowledgeEmbeddingCoverage`. -/
inductive KnowledgeEmbeddingCoverage where
  | metadata
  | fullText
deriving DecidableEq

/-- `strip_html_tags`. -/
def stripHtmlTags : List Char → Bool → List Char
  | [], _ => []
  | '<' :: cs, _ => stripHtmlTags cs true
  | '>' :: cs, _ => stripHtmlTags cs false
  | c :: cs, insideTag => if insideTag then stripHtmlTags cs insideTag
      else c :: stripHtmlTags cs insideTag

/-- The loop of `sanitize_semantic_text`: a run of blanks becomes a space, until the text has
`maxChars` bytes. -/
def joinBlanks (maxChars : Nat) : List Char → Bool → Nat → List Char
  | [], _, _ => []
  | c :: cs, previousSpace, len =>
    if isWhitespace c then
      if previousSpace then joinBlanks maxChars cs previousSpace len
      else ' ' :: joinBlanks maxChars cs true (len + 1)
    else c :: if maxChars ≤ len + c.utf8Size then []
      else joinBlanks maxChars cs false (len + c.utf8Size)

def isQuote (c : Char) : Bool := "\"'`".toList.contains c

/-- `sanitize_semantic_text`. -/
def sanitizeSemanticText (value : String) (maxChars : Nat) : String :=
  let trimmed := ((trim value).toList.dropWhile isQuote).rdropWhile isQuote
  trim (String.ofList (joinBlanks maxChars (stripHtmlTags trimmed false) false 0))

/-- `render_embedding_input`. -/
def renderEmbeddingInput (article : KnowledgeArticle) (includeTags : Bool) :
    String × KnowledgeEmbeddingCoverage :=
  let title := sanitizeSemanticText article.record.shortDescription usizeMax
  let summary := sanitizeSemanticText article.record.description usizeMax
  let body := sanitizeSemanticText article.content usizeMax
  let coverage : KnowledgeEmbeddingCoverage :=
    if article.bodyCached ∧ body ≠ "" then .fullText else .metadata
  let tags := if includeTags then
      ", ".intercalate (((article.snTags ++ article.autoTags ++ article.userTags).map
        (sanitizeSemanticText · usizeMax)).filter (· ≠ ""))
    else ""
  ("\n\n".intercalate
    (["title:\n" ++ title, "summary:\n" ++ summary] ++
      (if includeTags ∧ tags ≠ "" then ["tags:\n" ++ tags] else []) ++
      (if coverage = .fullText ∧ body ≠ "" then ["body:\n" ++ body] else [])),
    coverage)

/-! ## The configuration -/

/-- `KbSemanticSearchConfig`, with what is read of it here. -/
structure KbSemanticSearchConfig where
  enabled : Bool
  provider : String
  endpoint : String
  model : String
  batchSize : Nat
  includeTagsInEmbeddingInput : Bool

/-- `EmbeddingProvider`, by its names. -/
structure EmbeddingProvider where
  model : String
  provider : String

/-- `OllamaEmbeddingProvider::new`. -/
def ollamaEmbeddingProvider (config : KbSemanticSearchConfig) : EmbeddingProvider where
  model := config.model
  provider := "ollama"

/-- `semantic_provider_from_config`. -/
def semanticProviderFromConfig (config : KbSemanticSearchConfig) :
    Except String EmbeddingProvider :=
  if ¬ config.enabled then .error "semantic KB search is not enabled"
  else if trim config.model = "" then .error "semantic KB search model is not configured"
  else if trim config.provider = "ollama" then
    if trim config.endpoint = "" then .error "semantic KB search endpoint is not configured"
    else .ok (ollamaEmbeddingProvider config)
  else .error ("unsupported semantic embedding provider `" ++ trim config.provider ++ "`")

/-! ## Embeddings -/

/-- What is left open of embeddings: `content_hash`, and the vectors of which the store takes those
of unit length. -/
structure SemanticLib extends ArticleLib where
  contentHash : String → String
  Embedding : Type
  length : Embedding → Nat
  isUnitLength : Embedding → Bool
  /-- A vector of unit length. -/
  axis : Embedding
  axis_unit : isUnitLength axis = true

/-- `KnowledgeEmbeddingRow`. -/
structure KnowledgeEmbeddingRow (Embedding : Type) where
  recordSysId : String
  model : String
  provider : String
  dimensions : Nat
  coverage : KnowledgeEmbeddingCoverage
  contentHash : String
  vector : Embedding
  updatedAt : Int

/-- The cache with the table `knowledge_article_embeddings`, which has a row for each
`record_sys_id` at most, and only for rows of `knowledge_articles`. -/
structure SemanticStore (lib : SemanticLib) where
  cache : ArticleCache
  embeddings : List (KnowledgeEmbeddingRow lib.Embedding)
  keys : (embeddings.map KnowledgeEmbeddingRow.recordSysId).Nodup
  owned : ∀ row ∈ embeddings, (cache.articles.row row.recordSysId).isSome
  lastRebuildAt : Option Int
  lastError : Option String

section Rows

variable {E : Type}

/-- `ON CONFLICT(record_sys_id) DO UPDATE`. -/
def putRow (row : KnowledgeEmbeddingRow E) :
    List (KnowledgeEmbeddingRow E) → List (KnowledgeEmbeddingRow E)
  | [] => [row]
  | r :: rest =>
    if r.recordSysId = row.recordSysId then row :: rest else r :: putRow row rest

variable {rows : List (KnowledgeEmbeddingRow E)}

theorem mem_putRow {row r : KnowledgeEmbeddingRow E}
    (h : r ∈ putRow row rows) : r = row ∨ r ∈ rows := by
  induction rows with
  | nil => exact .inl (List.mem_singleton.mp h)
  | cons head rest ih =>
    unfold putRow at h
    split at h
    · exact (List.mem_cons.mp h).imp_right (List.mem_cons_of_mem _)
    · rcases List.mem_cons.mp h with rfl | h
      · exact .inr List.mem_cons_self
      · exact (ih h).imp_right (List.mem_cons_of_mem _)

theorem putRow_keys {row : KnowledgeEmbeddingRow E}
    (h : (rows.map KnowledgeEmbeddingRow.recordSysId).Nodup) :
    ((putRow row rows).map KnowledgeEmbeddingRow.recordSysId).Nodup := by
  induction rows with
  | nil => exact List.nodup_singleton _
  | cons head rest ih =>
    rw [List.map_cons, List.nodup_cons] at h
    unfold putRow
    by_cases hkey : head.recordSysId = row.recordSysId
    · rw [if_pos hkey, List.map_cons, List.nodup_cons, ← hkey]
      exact h
    · rw [if_neg hkey, List.map_cons, List.nodup_cons]
      refine ⟨fun hmem => ?_, ih h.2⟩
      obtain ⟨r, hr, hsame⟩ := List.mem_map.mp hmem
      rcases mem_putRow hr with rfl | hold
      · exact hkey hsame.symm
      · exact h.1 (List.mem_map.mpr ⟨r, hold, hsame⟩)

/-- The row of a key. -/
def rowOf (rows : List (KnowledgeEmbeddingRow E)) (sysId : String) :
    Option (KnowledgeEmbeddingRow E) :=
  rows.find? (·.recordSysId = sysId)

theorem rowOf_putRow (row : KnowledgeEmbeddingRow E) (rows : List (KnowledgeEmbeddingRow E))
    (sysId : String) :
    rowOf (putRow row rows) sysId =
      if row.recordSysId = sysId then some row else rowOf rows sysId := by
  unfold rowOf
  induction rows with
  | nil =>
    by_cases hkey : row.recordSysId = sysId
    · simp [putRow, hkey]
    · simp [putRow, hkey]
  | cons head rest ih =>
    unfold putRow
    by_cases hhead : head.recordSysId = row.recordSysId
    · rw [if_pos hhead, List.find?_cons, List.find?_cons, hhead]
      by_cases hkey : row.recordSysId = sysId
      · simp [hkey]
      · simp [hkey]
    · rw [if_neg hhead, List.find?_cons, List.find?_cons, ih]
      by_cases hkey : head.recordSysId = sysId
      · have hne : row.recordSysId ≠ sysId := fun h => hhead (hkey.trans h.symm)
        simp [hkey, hne]
      · simp [hkey]

end Rows

section Store

variable {lib : SemanticLib}

/-- `upsert_knowledge_embedding`. -/
def upsertKnowledgeEmbedding (store : SemanticStore lib)
    (row : KnowledgeEmbeddingRow lib.Embedding) : Except String (SemanticStore lib) :=
  if lib.isUnitLength row.vector = false then .error "embedding vector was not unit-length"
  else if howned : (store.cache.articles.row row.recordSysId).isSome = true then
    .ok { store with
      embeddings := putRow row store.embeddings
      keys := putRow_keys store.keys
      owned := by
        intro r hr
        rcases mem_putRow hr with rfl | hold
        · exact howned
        · exact store.owned r hold }
  else .error "FOREIGN KEY constraint failed"

/-- Whether an embedding has no article. -/
def isOrphan (store : SemanticStore lib) (row : KnowledgeEmbeddingRow lib.Embedding) : Bool :=
  (store.cache.articles.row row.recordSysId).isNone

/-- `count_orphan_knowledge_embeddings`. -/
def countOrphans (store : SemanticStore lib) : Nat := store.embeddings.countP (isOrphan store)

/-- `prune_orphan_knowledge_embeddings`. -/
def pruneOrphans (store : SemanticStore lib) : SemanticStore lib :=
  { store with
    embeddings := store.embeddings.filter fun row => !isOrphan store row
    keys := (List.filter_sublist.map _).nodup store.keys
    owned := fun row hrow => store.owned row (List.mem_of_mem_filter hrow) }

/-- `count_knowledge_embeddings_by_coverage`. -/
def countByCoverage (store : SemanticStore lib) (model : String)
    (coverage : KnowledgeEmbeddingCoverage) : Nat :=
  store.embeddings.countP fun row => row.model = model ∧ row.coverage = coverage

/-- `set_knowledge_semantic_meta`. -/
def setSemanticMeta (store : SemanticStore lib) (lastRebuildAt : Option DateTime)
    (lastError : Option String) : SemanticStore lib :=
  { store with
    lastRebuildAt := lastRebuildAt.map timestampSeconds
    lastError }

end Store

/-! ## Status and rebuild -/

section Service

variable (lib : SemanticLib) (config : KbSemanticSearchConfig)

/-- `load_active_knowledge_articles_for_semantic`.  Rows have different `sys_id`s: none is seen
twice. -/
def activeArticles (cache : ArticleCache) : List KnowledgeArticle :=
  (listActiveKnowledge cache).filterMap fun row =>
    (getKnowledgeArticle lib.toArticleLib cache row.number).filter fun article =>
      article.record.sysId = row.sysId

/-- The text, the coverage and the hash of an article. -/
def rendered (article : KnowledgeArticle) : String × KnowledgeEmbeddingCoverage × String :=
  let (input, coverage) := renderEmbeddingInput article config.includeTagsInEmbeddingInput
  (input, coverage, lib.contentHash input)

/-- Whether an embedding does not fit the configuration. -/
def isStale (article : KnowledgeArticle) (row : KnowledgeEmbeddingRow lib.Embedding) : Bool :=
  row.model ≠ config.model || row.provider ≠ config.provider ||
    row.coverage ≠ (rendered lib config article).2.1 ||
    row.contentHash ≠ (rendered lib config article).2.2

/-- `KnowledgeSemanticStatus`. -/
structure KnowledgeSemanticStatus where
  enabled : Bool
  provider : String
  model : String
  dimensions : Nat
  activeKbArticles : Nat
  metadataEmbeddings : Nat
  fullTextEmbeddings : Nat
  staleRows : Nat
  orphanRows : Nat
  lastRebuildAt : Option Int
  lastError : Option String

/-- `knowledge_semantic_status`. -/
def knowledgeSemanticStatus (store : SemanticStore lib) : KnowledgeSemanticStatus where
  enabled := config.enabled
  provider := config.provider
  model := config.model
  dimensions := ((store.embeddings.mergeSort fun a b => a.recordSysId ≤ b.recordSysId).find?
    fun row => row.model = config.model ∧ row.dimensions ≠ 0).elim 0
      KnowledgeEmbeddingRow.dimensions
  activeKbArticles := (activeArticles lib store.cache).length
  metadataEmbeddings := countByCoverage store config.model .metadata
  fullTextEmbeddings := countByCoverage store config.model .fullText
  staleRows := (activeArticles lib store.cache).countP fun article =>
    (rowOf store.embeddings article.record.sysId).any (isStale lib config article)
  orphanRows := countOrphans store
  lastRebuildAt := store.lastRebuildAt
  lastError := store.lastError

/-- An article that is to be embedded. -/
structure Pending where
  recordSysId : String
  coverage : KnowledgeEmbeddingCoverage
  hash : String
  input : String

/-- What is to be embedded of an article. -/
def pendingOf (article : KnowledgeArticle) : Pending where
  recordSysId := article.record.sysId
  coverage := (rendered lib config article).2.1
  hash := (rendered lib config article).2.2
  input := (rendered lib config article).1

variable (provider : EmbeddingProvider)

/-- Whether an embedding fits the provider. -/
def isCurrent (article : KnowledgeArticle) (row : KnowledgeEmbeddingRow lib.Embedding) : Bool :=
  row.model = provider.model && row.provider = provider.provider &&
    row.coverage = (rendered lib config article).2.1 &&
    row.contentHash = (rendered lib config article).2.2

/-- The articles that a rebuild embeds. -/
def pending (full : Bool) (store : SemanticStore lib) : List Pending :=
  ((activeArticles lib store.cache).filter fun article => full ||
    !(rowOf store.embeddings article.record.sysId).any (isCurrent lib config provider article)).map
    (pendingOf lib config)

/-- `chunks`, of one element more than `size`. -/
def chunks {α : Type} (size : Nat) : List α → List (List α)
  | [] => []
  | a :: rest => (a :: rest.take size) :: chunks size (rest.drop size)
termination_by list => list.length
decreasing_by
  rw [List.length_drop, List.length_cons]
  omega

/-- What a rebuild is answered: the vectors of each batch, and the time after it. -/
structure Answers where
  embed : Nat → List String → Except String (List lib.Embedding)
  now : Nat → DateTime

/-- The row of an article that has been embedded. -/
def embeddedRow (now : DateTime) (entry : Pending) (vector : lib.Embedding) :
    KnowledgeEmbeddingRow lib.Embedding where
  recordSysId := entry.recordSysId
  model := provider.model
  provider := provider.provider
  dimensions := lib.length vector
  coverage := entry.coverage
  contentHash := entry.hash
  vector := vector
  updatedAt := timestampSeconds now

/-- The rows of a batch are stored. -/
def indexBatch (now : DateTime) : List (Pending × lib.Embedding) → SemanticStore lib →
    Except String Unit × SemanticStore lib
  | [], store => (.ok (), store)
  | (entry, vector) :: rest, store =>
    match upsertKnowledgeEmbedding store (embeddedRow lib provider now entry vector) with
    | .error reason => (.error reason, store)
    | .ok store => indexBatch now rest store

/-- The batches from the `i`th on are embedded and stored, with the number of rows so far. -/
def indexBatches (answers : Answers lib) : Nat → List (List Pending) → SemanticStore lib → Nat →
    Except String Nat × SemanticStore lib
  | _, [], store, indexed => (.ok indexed, store)
  | i, batch :: rest, store, indexed =>
    match answers.embed i (batch.map Pending.input) with
    | .error reason => (.error reason, setSemanticMeta store none (some reason))
    | .ok vectors =>
      if vectors.length ≠ batch.length then
        (.error ("semantic embedding provider returned " ++ toString vectors.length ++
          " vectors for " ++ toString batch.length ++ " inputs"), store)
      else
        match indexBatch lib provider (answers.now i) (batch.zip vectors) store with
        | (.error reason, store) => (.error reason, store)
        | (.ok (), store) =>
          indexBatches answers (i + 1) rest store (indexed + batch.length)

/-- `SemanticIndexSummary`. -/
structure SemanticIndexSummary where
  full : Bool
  indexedRows : Nat
  metadataEmbeddings : Nat
  fullTextEmbeddings : Nat
  staleRows : Nat
  orphanRows : Nat
  lastRebuildAt : Option Int
  lastError : Option String

/-- `rebuild_knowledge_semantic_index_with_provider`. -/
def rebuildWithProvider (full : Bool) (answers : Answers lib) (store : SemanticStore lib) :
    Except String SemanticIndexSummary × SemanticStore lib :=
  let batches := chunks (max config.batchSize 1 - 1) (pending lib config provider full store)
  match indexBatches lib provider answers 0 batches store 0 with
  | (.error reason, store) => (.error reason, store)
  | (.ok indexedRows, store) =>
    let store := setSemanticMeta (pruneOrphans store) (some (answers.now batches.length)) none
    let status := knowledgeSemanticStatus lib config store
    (.ok
      { full
        indexedRows
        metadataEmbeddings := status.metadataEmbeddings
        fullTextEmbeddings := status.fullTextEmbeddings
        staleRows := status.staleRows
        orphanRows := status.orphanRows
        lastRebuildAt := status.lastRebuildAt
        lastError := status.lastError }, store)

/-- `rebuild_knowledge_semantic_index`. -/
def rebuildKnowledgeSemanticIndex (full : Bool) (answers : Answers lib)
    (store : SemanticStore lib) : Except String SemanticIndexSummary × SemanticStore lib :=
  match semanticProviderFromConfig config with
  | .error reason => (.error reason, store)
  | .ok provider => rebuildWithProvider lib config provider full answers store

end Service

/-! ## What is promised -/

section Promise

variable (lib : SemanticLib) (config : KbSemanticSearchConfig) (store : SemanticStore lib)

/-- The embedding of an article is counted as stale. -/
def CountedStale (article : KnowledgeArticle) : Prop :=
  ∃ row, rowOf store.embeddings article.record.sysId = some row ∧
    isStale lib config article row = true

/-- A rebuild that is not full embeds an article. -/
def EmbedsAgain (article : KnowledgeArticle) : Prop :=
  ∃ provider, semanticProviderFromConfig config = .ok provider ∧
    ∃ entry ∈ pending lib config provider false store, entry.recordSysId = article.record.sysId

/-- **The status agrees with a rebuild** on each embedding of an active article. -/
def StatusAgrees : Prop :=
  ∀ article ∈ activeArticles lib store.cache,
    (rowOf store.embeddings article.record.sysId).isSome = true →
    (CountedStale lib config store article ↔ EmbedsAgain lib config store article)

/-- **A rebuild settles the index**: right after it no row is stale or without article, and
another one that is not full embeds nothing. -/
def RebuildSettles : Prop :=
  ∀ full answers summary store',
    rebuildKnowledgeSemanticIndex lib config full answers store = (.ok summary, store') →
    (summary.staleRows = 0 ∧ summary.orphanRows = 0) ∧
    ((knowledgeSemanticStatus lib config store').staleRows = 0 ∧
      (knowledgeSemanticStatus lib config store').orphanRows = 0) ∧
    ∀ answers', ∃ summary' store'',
      rebuildKnowledgeSemanticIndex lib config false answers' store' = (.ok summary', store'') ∧
        summary'.indexedRows = 0 ∧ store''.embeddings = store'.embeddings

/-- An embedding of the text, the coverage and the model of an article. -/
def SameContent (article : KnowledgeArticle) (row : KnowledgeEmbeddingRow lib.Embedding) : Prop :=
  row.model = config.model ∧ row.coverage = (rendered lib config article).2.1 ∧
    row.contentHash = (rendered lib config article).2.2

/-- No stored embedding has the content of its article and a provider that one of the two
comparisons knows. -/
def NoneMatches : Prop :=
  ∀ article ∈ activeArticles lib store.cache, ∀ row,
    rowOf store.embeddings article.record.sysId = some row →
    SameContent lib config article row →
    row.provider ≠ "ollama" ∧ row.provider ≠ config.provider

/-- There is nothing to embed, or something that cannot be stored. -/
def NeverRebuilt : Prop :=
  activeArticles lib store.cache = [] ∨
    ∃ article ∈ activeArticles lib store.cache, store.cache.articles.row article.record.sysId = none

end Promise

/-! ## One embedding -/

section Embedding

variable {lib : SemanticLib} {config : KbSemanticSearchConfig} {article : KnowledgeArticle}
  {row : KnowledgeEmbeddingRow lib.Embedding}

theorem semanticProvider_eq {provider : EmbeddingProvider}
    (h : semanticProviderFromConfig config = .ok provider) :
    provider = ollamaEmbeddingProvider config := by
  unfold semanticProviderFromConfig at h
  split at h
  · cases h
  · split at h
    · cases h
    · split at h
      · split at h
        · cases h
        · cases h
          rfl
      · cases h

theorem isStale_iff :
    isStale lib config article row = true ↔
      ¬ (SameContent lib config article row ∧ row.provider = config.provider) := by
  simp only [isStale, SameContent, ne_eq, decide_not, Bool.or_eq_true, Bool.not_eq_true',
    decide_eq_false_iff_not]
  tauto

theorem isCurrent_iff :
    isCurrent lib config (ollamaEmbeddingProvider config) article row = true ↔
      SameContent lib config article row ∧ row.provider = "ollama" := by
  simp only [isCurrent, Bool.and_eq_true, decide_eq_true_eq]
  show ((row.model = config.model ∧ row.provider = "ollama") ∧ _) ∧ _ ↔ _
  unfold SameContent
  tauto

/-- The two comparisons differ on an embedding of the content whose provider is known to one. -/
theorem stale_iff_not_current :
    (isStale lib config article row = true ↔
      ¬ isCurrent lib config (ollamaEmbeddingProvider config) article row = true) ↔
      config.provider = "ollama" ∨ (SameContent lib config article row →
        row.provider ≠ "ollama" ∧ row.provider ≠ config.provider) := by
  rw [isStale_iff, isCurrent_iff]
  by_cases hprovider : config.provider = "ollama"
  · simp [hprovider]
  · by_cases hcontent : SameContent lib config article row
    · by_cases hrow : row.provider = "ollama"
      · have hne : row.provider ≠ config.provider := fun h => hprovider (h.symm.trans hrow)
        simp [hcontent, hrow, hprovider, Ne.symm hprovider]
      · simp [hcontent, hrow, hprovider]
    · simp [hcontent]

end Embedding

/-! ## Articles -/

section Articles

variable {lib : SemanticLib} {config : KbSemanticSearchConfig} {cache : ArticleCache}

theorem mem_activeArticles {article : KnowledgeArticle} (h : article ∈ activeArticles lib cache) :
    ∃ row ∈ cache.records.rows, article.record.sysId = row.sysId ∧
      getKnowledgeArticle lib.toArticleLib cache row.number = some article := by
  obtain ⟨row, hrow, hget⟩ := List.mem_filterMap.mp h
  rw [Option.filter_eq_some_iff] at hget
  rw [listActiveKnowledge, List.mem_mergeSort] at hrow
  exact ⟨row, List.mem_of_mem_filter hrow, by simpa using hget.2, hget.1⟩

/-- Active articles are told by their `sys_id`. -/
theorem active_eq_of_sysId {a b : KnowledgeArticle} (ha : a ∈ activeArticles lib cache)
    (hb : b ∈ activeArticles lib cache)
    (h : a.record.sysId = b.record.sysId) : a = b := by
  obtain ⟨row, hrow, hid, hget⟩ := mem_activeArticles ha
  obtain ⟨row', hrow', hid', hget'⟩ := mem_activeArticles hb
  have hsame : row = row' := List.inj_on_of_nodup_map cache.records.keys hrow hrow'
    (hid.symm.trans (h.trans hid'))
  rw [hsame, hget'] at hget
  exact (Option.some.inj hget).symm

variable {store : SemanticStore lib} {article : KnowledgeArticle}

/-- A rebuild embeds the articles without an embedding that fits. -/
theorem embedsAgain_iff (haccepted : ∃ provider, semanticProviderFromConfig config = .ok provider)
    (harticle : article ∈ activeArticles lib store.cache) :
    EmbedsAgain lib config store article ↔ ¬ ((rowOf store.embeddings article.record.sysId).any
        (isCurrent lib config (ollamaEmbeddingProvider config) article)) = true := by
  constructor
  · rintro ⟨provider, hprovider, entry, hentry, hid⟩
    obtain rfl := semanticProvider_eq hprovider
    obtain ⟨other, hother, rfl⟩ := List.mem_map.mp hentry
    obtain ⟨hother, hstale⟩ := List.mem_filter.mp hother
    obtain rfl := active_eq_of_sysId hother harticle hid
    simpa using hstale
  · intro hstale
    obtain ⟨provider, hprovider⟩ := haccepted
    obtain rfl := semanticProvider_eq hprovider
    refine ⟨_, hprovider, pendingOf lib config article, List.mem_map.mpr ⟨article, ?_, rfl⟩, rfl⟩
    exact List.mem_filter.mpr ⟨harticle, by simpa using hstale⟩

/-- **The status agrees with a rebuild** when the configuration names the provider as the
provider does, or no embedding matches. -/
theorem statusAgrees_iff (haccepted : ∃ provider, semanticProviderFromConfig config = .ok provider) :
    StatusAgrees lib config store ↔ config.provider = "ollama" ∨ NoneMatches lib config store := by
  have harticle : ∀ article ∈ activeArticles lib store.cache, ∀ row,
      rowOf store.embeddings article.record.sysId = some row →
      ((CountedStale lib config store article ↔ EmbedsAgain lib config store article) ↔
        config.provider = "ollama" ∨ (SameContent lib config article row →
          row.provider ≠ "ollama" ∧ row.provider ≠ config.provider)) := by
    intro article harticle row hrow
    rw [embedsAgain_iff haccepted harticle, CountedStale, hrow, ← stale_iff_not_current]
    simp
  constructor
  · intro hagrees
    by_cases hprovider : config.provider = "ollama"
    · exact .inl hprovider
    · refine .inr fun article hactive row hrow => ?_
      have h := (harticle article hactive row hrow).mp (hagrees article hactive (by rw [hrow]; rfl))
      exact h.resolve_left hprovider
  · intro h article hactive hsome
    obtain ⟨row, hrow⟩ := Option.isSome_iff_exists.mp hsome
    refine (harticle article hactive row hrow).mpr (h.imp_right fun hnone => ?_)
    exact hnone article hactive row hrow

end Articles

/-! ## A rebuild -/

section Rebuild

variable {lib : SemanticLib} {config : KbSemanticSearchConfig} {provider : EmbeddingProvider}

/-- The embedding of an article fits. -/
def UpToDate (store : SemanticStore lib) (config : KbSemanticSearchConfig)
    (provider : EmbeddingProvider) (article : KnowledgeArticle) : Prop :=
  (rowOf store.embeddings article.record.sysId).any (isCurrent lib config provider article) = true

/-- Each active article is up to date, or waits for its embedding. -/
def Covered (store : SemanticStore lib) (config : KbSemanticSearchConfig)
    (provider : EmbeddingProvider) (waiting : List Pending) : Prop :=
  ∀ article ∈ activeArticles lib store.cache,
    UpToDate store config provider article ∨ pendingOf lib config article ∈ waiting

/-- What waits is of active articles. -/
def OfActive (lib : SemanticLib) (config : KbSemanticSearchConfig) (cache : ArticleCache)
    (waiting : List Pending) : Prop :=
  ∀ entry ∈ waiting, ∃ article ∈ activeArticles lib cache, entry = pendingOf lib config article

theorem upsert_eq_ok {store store' : SemanticStore lib}
    {row : KnowledgeEmbeddingRow lib.Embedding}
    (h : upsertKnowledgeEmbedding store row = .ok store') :
    store'.cache = store.cache ∧ store'.embeddings = putRow row store.embeddings := by
  unfold upsertKnowledgeEmbedding at h
  split at h
  · cases h
  · split at h
    · cases h
      exact ⟨rfl, rfl⟩
    · cases h

theorem embeddedRow_current (article : KnowledgeArticle) (now : DateTime)
    (vector : lib.Embedding) :
    isCurrent lib config provider article
      (embeddedRow lib provider now (pendingOf lib config article) vector) = true := by
  simp [isCurrent, embeddedRow, pendingOf]

variable {article : KnowledgeArticle}

/-- What storing one embedding does. -/
theorem upsert_covered {store store' : SemanticStore lib} {now : DateTime} {vector : lib.Embedding}
    {waiting : List Pending}
    (hactive : article ∈ activeArticles lib store.cache)
    (hcovered : Covered store config provider (pendingOf lib config article :: waiting))
    (h : upsertKnowledgeEmbedding store
      (embeddedRow lib provider now (pendingOf lib config article) vector) = .ok store') :
    store'.cache = store.cache ∧ Covered store' config provider waiting := by
  obtain ⟨hcache, hrows⟩ := upsert_eq_ok h
  refine ⟨hcache, fun other hother => ?_⟩
  rw [hcache] at hother
  have hkey : (embeddedRow lib provider now (pendingOf lib config article) vector).recordSysId =
      article.record.sysId := rfl
  rw [UpToDate, hrows, rowOf_putRow, hkey]
  by_cases hid : article.record.sysId = other.record.sysId
  · obtain rfl := active_eq_of_sysId hactive hother hid
    left
    rw [if_pos rfl]
    exact embeddedRow_current article now vector
  · rw [if_neg hid]
    rcases hcovered other hother with hdate | hwaits
    · exact .inl hdate
    · rcases List.mem_cons.mp hwaits with heq | hwaits
      · exact absurd (congrArg Pending.recordSysId heq).symm hid
      · exact .inr hwaits

variable (config) in
theorem indexBatch_covered {now : DateTime} {batch : List (Pending × lib.Embedding)}
    {store store' : SemanticStore lib} {waiting : List Pending}
    (hactive : OfActive lib config store.cache (batch.map Prod.fst))
    (hcovered : Covered store config provider (batch.map Prod.fst ++ waiting))
    (h : indexBatch lib provider now batch store = (.ok (), store')) :
    store'.cache = store.cache ∧ Covered store' config provider waiting := by
  induction batch generalizing store with
  | nil =>
    cases h
    exact ⟨rfl, hcovered⟩
  | cons head rest ih =>
    obtain ⟨entry, vector⟩ := head
    obtain ⟨article, harticle, rfl⟩ := hactive entry (List.mem_cons_self ..)
    rw [indexBatch] at h
    split at h
    · cases h
    · rename_i middle hupsert
      obtain ⟨hcache, hmiddle⟩ := upsert_covered harticle hcovered hupsert
      have hrest : OfActive lib config middle.cache (rest.map Prod.fst) := by
        rw [hcache]
        exact fun entry hentry => hactive entry (List.mem_cons_of_mem _ hentry)
      obtain ⟨hcache', hdone⟩ := ih hrest hmiddle h
      exact ⟨hcache'.trans hcache, hdone⟩

variable (config) in
theorem indexBatches_covered {answers : Answers lib} {i : Nat} {batches : List (List Pending)}
    {store store' : SemanticStore lib} {indexed indexed' : Nat}
    (hactive : OfActive lib config store.cache batches.flatten)
    (hcovered : Covered store config provider batches.flatten)
    (h : indexBatches lib provider answers i batches store indexed = (.ok indexed', store')) :
    store'.cache = store.cache ∧ Covered store' config provider [] := by
  induction batches generalizing i store indexed with
  | nil =>
    cases h
    exact ⟨rfl, hcovered⟩
  | cons batch rest ih =>
    rw [indexBatches] at h
    split at h
    · cases h
    · rename_i vectors hembed
      by_cases hlength : vectors.length = batch.length
      · rw [if_neg (not_not.mpr hlength)] at h
        have hfst : (batch.zip vectors).map Prod.fst = batch :=
          List.map_fst_zip (Nat.le_of_eq hlength.symm)
        split at h
        · cases h
        · rename_i middle hbatch
          rw [List.flatten_cons] at hactive hcovered
          obtain ⟨hcache, hmiddle⟩ := indexBatch_covered config
            (by rw [hfst]; exact fun entry hentry => hactive entry (List.mem_append_left _ hentry))
            (by rw [hfst]; exact hcovered) hbatch
          have hrest : OfActive lib config middle.cache rest.flatten := by
            rw [hcache]
            exact fun entry hentry => hactive entry (List.mem_append_right _ hentry)
          obtain ⟨hcache', hdone⟩ := ih hrest hmiddle h
          exact ⟨hcache'.trans hcache, hdone⟩
      · rw [if_pos hlength] at h
        cases h

theorem flatten_chunks {α : Type} (size : Nat) (list : List α) :
    (chunks size list).flatten = list := by
  induction list using chunks.induct size with
  | case1 => simp [chunks]
  | case2 a rest ih => rw [chunks, List.flatten_cons, ih, List.cons_append, List.take_append_drop]

variable (full : Bool)

theorem pending_ofActive (store : SemanticStore lib) :
    OfActive lib config store.cache (pending lib config provider full store) := by
  intro entry hentry
  obtain ⟨article, harticle, rfl⟩ := List.mem_map.mp hentry
  exact ⟨article, List.mem_of_mem_filter harticle, rfl⟩

theorem pending_covered (store : SemanticStore lib) :
    Covered store config provider (pending lib config provider full store) := by
  intro article harticle
  by_cases hdate : UpToDate store config provider article
  · exact .inl hdate
  · refine .inr (List.mem_map.mpr ⟨article, List.mem_filter.mpr ⟨harticle, ?_⟩, rfl⟩)
    rw [UpToDate, Bool.not_eq_true] at hdate
    simp [hdate]

/-- Where everything is up to date, a rebuild that is not full has nothing to embed. -/
theorem pending_eq_nil {store : SemanticStore lib} (h : Covered store config provider []) :
    pending lib config provider false store = [] := by
  rw [pending, List.map_eq_nil_iff, List.filter_eq_nil_iff]
  intro article harticle
  have hdate : UpToDate store config provider article :=
    (h article harticle).resolve_right List.not_mem_nil
  rw [UpToDate] at hdate
  simp [hdate]

/-- No embedding is without its article: the store does not take one. -/
theorem countOrphans_eq_zero (store : SemanticStore lib) : countOrphans store = 0 := by
  rw [countOrphans, List.countP_eq_zero]
  intro row hrow
  rw [isOrphan, Option.isNone_iff_eq_none]
  exact Option.isSome_iff_ne_none.mp (store.owned row hrow)

theorem pruneOrphans_embeddings (store : SemanticStore lib) :
    (pruneOrphans store).embeddings = store.embeddings := by
  refine List.filter_eq_self.mpr fun row hrow => ?_
  rw [isOrphan, Bool.not_eq_true', Option.isNone_eq_false_iff]
  exact store.owned row hrow

/-- What is stale once each article is up to date. -/
theorem staleRows_of_covered {store : SemanticStore lib}
    (h : Covered store config (ollamaEmbeddingProvider config) []) :
    (knowledgeSemanticStatus lib config store).staleRows =
      if config.provider = "ollama" then 0 else (activeArticles lib store.cache).length := by
  have harticle : ∀ article ∈ activeArticles lib store.cache,
      ((rowOf store.embeddings article.record.sysId).any (isStale lib config article) = true ↔
        config.provider ≠ "ollama") := by
    intro article harticle
    have hdate := (h article harticle).resolve_right List.not_mem_nil
    obtain ⟨row, hrow, hcurrent⟩ := (Option.any_eq_true _ _).mp hdate
    obtain ⟨hcontent, hollama⟩ := isCurrent_iff.mp hcurrent
    rw [hrow, Option.any_some, isStale_iff, hollama]
    constructor
    · exact fun hne heq => hne ⟨hcontent, heq.symm⟩
    · exact fun hne hsame => hne hsame.2.symm
  show List.countP _ _ = _
  by_cases hprovider : config.provider = "ollama"
  · rw [if_pos hprovider, List.countP_eq_zero]
    exact fun article hactive hstale => (harticle article hactive).mp hstale hprovider
  · rw [if_neg hprovider, List.countP_eq_length]
    exact fun article hactive => (harticle article hactive).mpr hprovider

/-- **What a rebuild comes to**: every active article is up to date. -/
theorem rebuild_covered (haccepted : ∃ provider, semanticProviderFromConfig config = .ok provider)
    {full : Bool} {answers : Answers lib} {store store' : SemanticStore lib}
    {summary : SemanticIndexSummary}
    (h : rebuildKnowledgeSemanticIndex lib config full answers store = (.ok summary, store')) :
    store'.cache = store.cache ∧ Covered store' config (ollamaEmbeddingProvider config) [] ∧
      summary.staleRows = (knowledgeSemanticStatus lib config store').staleRows ∧
      summary.orphanRows = 0 := by
  obtain ⟨provider, hprovider⟩ := haccepted
  obtain rfl := semanticProvider_eq hprovider
  simp only [rebuildKnowledgeSemanticIndex, hprovider, rebuildWithProvider] at h
  split at h
  · cases h
  · rename_i indexed middle hbatches
    obtain ⟨hcache, hcovered⟩ := indexBatches_covered config
      (by rw [flatten_chunks]; exact pending_ofActive full store)
      (by rw [flatten_chunks]; exact pending_covered full store) hbatches
    cases h
    refine ⟨hcache, fun article harticle => ?_, rfl, countOrphans_eq_zero _⟩
    rw [UpToDate, setSemanticMeta, pruneOrphans_embeddings]
    exact hcovered article harticle

/-- A rebuild with nothing to embed changes no embedding. -/
theorem rebuild_of_pending_nil {store : SemanticStore lib}
    (haccepted : ∃ provider, semanticProviderFromConfig config = .ok provider)
    (h : Covered store config (ollamaEmbeddingProvider config) []) (answers : Answers lib) :
    ∃ summary store', rebuildKnowledgeSemanticIndex lib config false answers store =
        (.ok summary, store') ∧ summary.indexedRows = 0 ∧
      store'.embeddings = store.embeddings := by
  obtain ⟨provider, hprovider⟩ := haccepted
  obtain rfl := semanticProvider_eq hprovider
  simp only [rebuildKnowledgeSemanticIndex, hprovider, rebuildWithProvider, pending_eq_nil h, chunks,
    indexBatches]
  exact ⟨_, _, rfl, rfl, pruneOrphans_embeddings store⟩

/-- Every active article has its row once a rebuild has ended. -/
theorem article_row_of_covered {store : SemanticStore lib} (h : Covered store config provider [])
    (harticle : article ∈ activeArticles lib store.cache) :
    (store.cache.articles.row article.record.sysId).isSome = true := by
  obtain ⟨row, hrow, -⟩ :=
    (Option.any_eq_true _ _).mp ((h article harticle).resolve_right List.not_mem_nil)
  have hkey : row.recordSysId = article.record.sysId := by simpa using List.find?_some hrow
  rw [← hkey]
  exact store.owned row (List.mem_of_find?_eq_some hrow)

/-! ## A rebuild that ends -/

/-- Each text is answered by the vector of unit length. -/
def axisAnswers (lib : SemanticLib) : Answers lib where
  embed _ inputs := .ok (inputs.map fun _ => lib.axis)
  now _ := newYear

theorem indexBatch_ok {now : DateTime} {batch : List (Pending × lib.Embedding)}
    {store : SemanticStore lib} (hunit : ∀ entry ∈ batch, lib.isUnitLength entry.2 = true)
    (hrows : ∀ entry ∈ batch, (store.cache.articles.row entry.1.recordSysId).isSome = true) :
    ∃ store', indexBatch lib provider now batch store = (.ok (), store') ∧
      store'.cache = store.cache := by
  induction batch generalizing store with
  | nil => exact ⟨store, rfl, rfl⟩
  | cons head rest ih =>
    obtain ⟨entry, vector⟩ := head
    rw [List.forall_mem_cons] at hunit hrows
    rcases hupsert : upsertKnowledgeEmbedding store
      (embeddedRow lib provider now entry vector) with reason | middle
    · have hvector : ¬ lib.isUnitLength (embeddedRow lib provider now entry vector).vector =
          false := by
        rw [Bool.not_eq_false]
        exact hunit.1
      have howned : (store.cache.articles.row
          (embeddedRow lib provider now entry vector).recordSysId).isSome = true := hrows.1
      rw [upsertKnowledgeEmbedding, if_neg hvector, dif_pos howned] at hupsert
      cases hupsert
    · obtain ⟨hcache, -⟩ := upsert_eq_ok hupsert
      obtain ⟨store', hrest, hcache'⟩ := ih hunit.2 (by rw [hcache]; exact hrows.2)
      refine ⟨store', ?_, hcache'.trans hcache⟩
      rw [indexBatch, hupsert]
      exact hrest

theorem indexBatches_ok {i : Nat} {batches : List (List Pending)} {store : SemanticStore lib}
    {indexed : Nat} (hrows : ∀ batch ∈ batches, ∀ entry ∈ batch,
      (store.cache.articles.row entry.recordSysId).isSome = true) :
    ∃ indexed' store', indexBatches lib provider (axisAnswers lib) i batches store indexed =
      (.ok indexed', store') := by
  induction batches generalizing i store indexed with
  | nil => exact ⟨indexed, store, rfl⟩
  | cons batch rest ih =>
    rw [List.forall_mem_cons] at hrows
    have hlength : ((batch.map Pending.input).map fun _ => lib.axis).length = batch.length := by
      simp
    obtain ⟨middle, hbatch, hcache⟩ : ∃ middle, indexBatch lib provider ((axisAnswers lib).now i)
          (batch.zip ((batch.map Pending.input).map fun _ => lib.axis)) store =
          (.ok (), middle) ∧ middle.cache = store.cache := by
      refine indexBatch_ok (fun entry hentry => ?_)
        (fun entry hentry => hrows.1 entry.1 (List.of_mem_zip hentry).1)
      obtain ⟨_, -, heq⟩ := List.mem_map.mp (List.of_mem_zip hentry).2
      rw [← heq]
      exact lib.axis_unit
    obtain ⟨indexed', store', hrest⟩ := @ih (i + 1) middle (indexed + batch.length)
      (by rw [hcache]; exact hrows.2)
    refine ⟨indexed', store', ?_⟩
    rw [indexBatches, show (axisAnswers lib).embed i (batch.map Pending.input) =
      .ok ((batch.map Pending.input).map fun _ => lib.axis) from rfl]
    simp only
    rw [if_neg (not_not.mpr hlength), hbatch]
    exact hrest

/-- **A rebuild settles the index** when the configuration names the provider as the provider
does, or nothing can be embedded. -/
theorem rebuildSettles_iff {store : SemanticStore lib}
    (haccepted : ∃ provider, semanticProviderFromConfig config = .ok provider) :
    RebuildSettles lib config store ↔ config.provider = "ollama" ∨ NeverRebuilt lib store := by
  constructor
  · intro hsettles
    by_contra hnot
    rw [not_or, NeverRebuilt, not_or, not_exists] at hnot
    obtain ⟨hprovider, hsome, hall⟩ := hnot
    have hrows : ∀ batch ∈ chunks (max config.batchSize 1 - 1)
        (pending lib config (ollamaEmbeddingProvider config) true store), ∀ entry ∈ batch,
        (store.cache.articles.row entry.recordSysId).isSome = true := by
      intro batch hbatch entry hentry
      have hmem : entry ∈ pending lib config (ollamaEmbeddingProvider config) true store := by
        rw [← flatten_chunks (max config.batchSize 1 - 1) (pending lib config _ true store)]
        exact List.mem_flatten.mpr ⟨batch, hbatch, hentry⟩
      obtain ⟨article, harticle, rfl⟩ := pending_ofActive true store entry hmem
      exact Option.isSome_iff_ne_none.mpr fun hnone => hall article ⟨harticle, hnone⟩
    obtain ⟨indexed, middle, hbatches⟩ : ∃ indexed middle,
        indexBatches lib (ollamaEmbeddingProvider config) (axisAnswers lib) 0
          (chunks (max config.batchSize 1 - 1)
            (pending lib config (ollamaEmbeddingProvider config) true store)) store 0 =
          (.ok indexed, middle) := indexBatches_ok hrows
    obtain ⟨summary, store', hrebuild⟩ : ∃ summary store',
        rebuildKnowledgeSemanticIndex lib config true (axisAnswers lib) store =
          (.ok summary, store') := by
      obtain ⟨provider, hprovider⟩ := haccepted
      obtain rfl := semanticProvider_eq hprovider
      simp only [rebuildKnowledgeSemanticIndex, hprovider, rebuildWithProvider, hbatches]
      exact ⟨_, _, rfl⟩
    obtain ⟨hcache, hcovered, -, -⟩ := rebuild_covered haccepted hrebuild
    obtain ⟨-, ⟨hstale, -⟩, -⟩ := hsettles true _ _ _ hrebuild
    rw [staleRows_of_covered hcovered, if_neg hprovider, hcache] at hstale
    exact hsome (List.length_eq_zero_iff.mp hstale)
  · intro h full answers summary store' hrebuild
    obtain ⟨hcache, hcovered, hsummary, horphans⟩ := rebuild_covered haccepted hrebuild
    have hstale : (knowledgeSemanticStatus lib config store').staleRows = 0 := by
      rw [staleRows_of_covered hcovered]
      rcases h with hprovider | hnone | ⟨article, harticle, hnone⟩
      · exact if_pos hprovider
      · rw [hcache, hnone]
        simp
      · rw [← hcache] at harticle hnone
        have hrow := article_row_of_covered hcovered harticle
        rw [hnone] at hrow
        cases hrow
    refine ⟨⟨hsummary.trans hstale, horphans⟩, ⟨hstale, countOrphans_eq_zero _⟩, ?_⟩
    exact rebuild_of_pending_nil haccepted hcovered

end Rebuild

/-- **When the semantic status and a rebuild agree**: the configuration names the provider as the
provider does, or no embedding has the content of its article and a provider known to either, and
no rebuild can end with an article embedded. -/
theorem semantic_status_agrees_iff (lib : SemanticLib) (config : KbSemanticSearchConfig)
    (store : SemanticStore lib)
    (haccepted : ∃ provider, semanticProviderFromConfig config = .ok provider) :
    StatusAgrees lib config store ∧ RebuildSettles lib config store ↔
      config.provider = "ollama" ∨ (NoneMatches lib config store ∧ NeverRebuilt lib store) := by
  rw [statusAgrees_iff haccepted, rebuildSettles_iff haccepted]
  exact or_and_left.symm

/-! ## A space before the provider -/

/-- Embeddings without content. -/
def unitLib : SemanticLib :=
  { unreadLib with
    contentHash := id
    Embedding := Unit
    length := fun _ => 1
    isUnitLength := fun _ => true
    axis := ()
    axis_unit := rfl }

/-- A configuration of a provider. -/
def localConfig (provider : String) : KbSemanticSearchConfig where
  enabled := true
  provider := provider
  endpoint := "http://localhost:11434"
  model := "nomic-embed-text"
  batchSize := 32
  includeTagsInEmbeddingInput := true

/-- The row of an article. -/
def freshRow : RecordRow where
  sysId := "id-1"
  number := "KB0000001"
  tableName := "kb_knowledge"
  resourceType := .knowledge
  state := none
  shortDesc := none
  description := none
  filePath := none
  syncedAt := newYear
  inScope := true
  rawJson := .null

/-- A store of that article, without embedding. -/
def freshStore : SemanticStore unitLib where
  cache :=
    { records := { rows := [freshRow], keys := List.nodup_singleton _ }
      articles := Table.empty.put "id-1" ⟨none, [], [], [], false⟩
      files := Table.empty }
  embeddings := []
  keys := List.nodup_nil
  owned := fun _ h => (by cases h)
  lastRebuildAt := none
  lastError := none

theorem localConfig_accepted {name : String} (h : trim name = "ollama") :
    ∃ provider, semanticProviderFromConfig (localConfig name) = .ok provider := by
  have hmodel : ¬ trim (localConfig name).model = "" := by
    show ¬ trim "nomic-embed-text" = ""
    decide
  have hendpoint : ¬ trim (localConfig name).endpoint = "" := by
    show ¬ trim "http://localhost:11434" = ""
    decide
  refine ⟨ollamaEmbeddingProvider (localConfig name), ?_⟩
  have hprovider : trim (localConfig name).provider = "ollama" := h
  rw [semanticProviderFromConfig, if_neg (by simp [localConfig]), if_neg hmodel,
    if_pos hprovider, if_neg hendpoint]

/-- Spelled as the provider spells itself, the provider is the same to both. -/
theorem plain_provider_agrees :
    StatusAgrees unitLib (localConfig "ollama") freshStore ∧
      RebuildSettles unitLib (localConfig "ollama") freshStore :=
  (semantic_status_agrees_iff unitLib (localConfig "ollama") freshStore
    (localConfig_accepted (by decide))).mpr (.inl rfl)

/-- **With a space before it, the provider is accepted and every row stays stale.** -/
theorem spaced_provider_stays_stale :
    (∃ provider, semanticProviderFromConfig (localConfig " ollama") = .ok provider) ∧
      ¬ RebuildSettles unitLib (localConfig " ollama") freshStore := by
  have haccepted := localConfig_accepted (show trim " ollama" = "ollama" by decide)
  refine ⟨haccepted, ?_⟩
  have hactive : activeArticles unitLib freshStore.cache =
      [materializeKnowledgeArticle unitLib.toArticleLib freshStore.cache freshRow] := by
    have hrows : listActiveKnowledge freshStore.cache = [freshRow] := by
      have hfilter : (freshStore.cache.records.rows.filter fun row =>
          isActiveKnowledge row) = [freshRow] := by
        simp [freshStore, freshRow, isActiveKnowledge]
      rw [listActiveKnowledge, hfilter, List.mergeSort_singleton]
    have hget : getKnowledgeArticle unitLib.toArticleLib freshStore.cache freshRow.number =
        some (materializeKnowledgeArticle unitLib.toArticleLib freshStore.cache freshRow) := by
      have hfilter : (freshStore.cache.records.rows.filter fun row =>
          row.number = freshRow.number ∧ row.resourceType = .knowledge) = [freshRow] := by
        simp [freshStore, freshRow]
      rw [getKnowledgeArticle, hfilter, List.argmin_singleton]
      rfl
    rw [activeArticles, hrows, List.filterMap_cons, hget]
    rfl
  have hid : (materializeKnowledgeArticle unitLib.toArticleLib freshStore.cache
      freshRow).record.sysId = "id-1" := rfl
  rw [rebuildSettles_iff haccepted, not_or, NeverRebuilt, hactive, not_or]
  refine ⟨by simp [localConfig], by simp, ?_⟩
  rintro ⟨other, hother, hnone⟩
  rw [List.mem_singleton.mp hother, hid] at hnone
  simp [freshStore] at hnone

end SnowAgent.Knowledge
