import SnowAgent.RecordCache
import SnowAgent.Runs

/-! # The bodies of knowledge articles

An article is persisted from a row of ServiceNow that has its body, or from one that has not:
then the body that is already in the vault is kept.  A flag tells whether the body is cached,
and an article with the flag is served without asking ServiceNow.
-/
namespace SnowAgent.Knowledge

open Json Text Core

/-! ## Articles -/

/-- `KnowledgeArticle`, but for its dates. -/
structure KnowledgeArticle where
  record : CachedRecord
  knowledgeBase : Core.Reference
  category : Core.Reference
  author : Option Core.Reference
  articleType : String
  content : String
  snTags : List String
  autoTags : List String
  userTags : List String
  bodyCached : Bool
deriving DecidableEq

/-- `KnowledgeArticleRow`, with what is read of it. -/
structure KnowledgeArticleRow where
  sysUpdatedOn : Option String
  snTags : List String
  autoTags : List String
  userTags : List String
  bodyCached : Bool

/-- The cache database and the files of the vault. -/
structure ArticleCache where
  records : RecordTable
  /-- The table `knowledge_articles`, by `record_sys_id`. -/
  articles : Table String KnowledgeArticleRow
  files : Table String String

/-- A cache without rows and files. -/
def ArticleCache.empty : ArticleCache := ⟨⟨[], List.nodup_nil⟩, Table.empty, Table.empty⟩

/-- What is left open of articles: how their references are read, the tags ServiceNow gives them,
and their Markdown. -/
structure ArticleLib extends CoreLib where
  knowledgeBaseReference : Record → Option Core.Reference
  categoryReference : Record → Option Core.Reference
  authorReference : Record → Option Core.Reference
  /-- `choose_reference_display_name`, of what a reference has. -/
  normalizeReferenceForField : String → Core.Reference → Core.Reference
  /-- `reference_from_json`. -/
  referenceFromJson : String → Option Value → Option Core.Reference
  deriveServicenowTags : Record → List String
  renderKnowledgeArticle : KnowledgeArticle → String
  parseKnowledgeArticle : String → Option KnowledgeArticle

variable (lib : ArticleLib)

/-- `normalize_tag_layer`. -/
def normalizeTagLayer (tags : List String) : List String :=
  tags.foldl (fun normalized tag =>
    if trim tag = "" ∨ trim tag ∈ normalized then normalized else normalized ++ [trim tag]) []

/-- The display value of a field becomes the name of a reference, if the field is there. -/
def setDisplay (field : String) (reference : Option Core.Reference)
    (fields : StringMap FieldValue) : StringMap FieldValue :=
  fields.map fun entry =>
    if entry.1 = field then
      (entry.1, { entry.2 with
        displayValue := (reference.map Core.Reference.displayName).filter (· ≠ "") })
    else entry

/-- Sets a reference of a record, or removes it. -/
def setReference (field : String) (reference : Option Core.Reference)
    (references : StringMap Core.Reference) : StringMap Core.Reference :=
  (reference.map fun r => (field, r)).toList ++ references.filter fun entry => entry.1 != field

/-- `normalize_knowledge_article`. -/
def normalizeKnowledgeArticle (article : KnowledgeArticle) : KnowledgeArticle :=
  let knowledgeBase := lib.normalizeReferenceForField "knowledge_base" article.knowledgeBase
  let category := lib.normalizeReferenceForField "category" article.category
  let author := article.author.map (lib.normalizeReferenceForField "author")
  { article with
    knowledgeBase
    category
    author
    record := { article.record with
      fields := setDisplay "author" author (setDisplay "category" (some category)
        (setDisplay "knowledge_base" (some knowledgeBase) article.record.fields))
      references := setReference "author" author (setReference "category" (some category)
        (setReference "knowledge_base" (some knowledgeBase) article.record.references)) }
    snTags := normalizeTagLayer article.snTags
    autoTags := normalizeTagLayer article.autoTags
    userTags := normalizeTagLayer article.userTags
    bodyCached := article.bodyCached || decide (trim article.content ≠ "") }

/-! ## Articles of ServiceNow -/

/-- `canonical_body`. -/
def canonicalBody (record : Record) : String :=
  ((["article_body", "text"].filterMap (record.getStr lib.toCoreLib)).map trim).find?
    (· ≠ "") |>.getD ""

/-- `body_fields_present`. -/
def bodyFieldsPresent (record : Record) : Bool :=
  (record.fields.get "article_body").isSome || (record.fields.get "text").isSome

/-- `KnowledgeResource::record_model`. -/
def recordModel (now : DateTime) (record : Record) (knowledgeBase category : Core.Reference) :
    CachedRecord :=
  let model := fromServicenow lib.toCoreLib now record
  { model with
    resourceType := .knowledge
    table := "kb_knowledge"
    references := setReference "author" (lib.authorReference record)
      (setReference "category" (some category)
        (setReference "knowledge_base" (some knowledgeBase) model.references)) }

/-- `KnowledgeResource::from_servicenow`. -/
def articleFromServicenow (now : DateTime) (record : Record)
    (knowledgeBase category : Core.Reference) : KnowledgeArticle :=
  normalizeKnowledgeArticle lib
    { record := recordModel lib now record knowledgeBase category
      knowledgeBase
      category
      author := lib.authorReference record
      articleType := (record.getStr lib.toCoreLib "article_type").getD "text"
      content := canonicalBody lib record
      snTags := []
      autoTags := []
      userTags := []
      bodyCached := bodyFieldsPresent record }

/-- `load_knowledge_article_from_vault`, and `read_knowledge_article` of a row's file. -/
def loadKnowledgeArticleFromVault (cache : ArticleCache) (row : RecordRow) :
    Option KnowledgeArticle :=
  (row.filePath.bind cache.files.row).bind lib.parseKnowledgeArticle

/-- `load_existing_knowledge_article`. -/
def loadExistingKnowledgeArticle (cache : ArticleCache) (sysId : String) :
    Option KnowledgeArticle :=
  (cache.records.getRecordBySysId sysId).bind (loadKnowledgeArticleFromVault lib cache)

/-- What an article takes over from the file and the row that are already there. -/
def mergeExisting (cache : ArticleCache) (sysId : String) (article : KnowledgeArticle) :
    KnowledgeArticle :=
  match loadExistingKnowledgeArticle lib cache sysId with
  | some existing =>
    { article with
      content :=
        if trim article.content = "" ∧ existing.bodyCached ∧ trim existing.content ≠ "" then
          existing.content
        else article.content
      userTags := existing.userTags
      autoTags := existing.autoTags
      bodyCached := article.bodyCached || existing.bodyCached }
  | none =>
    match cache.articles.row sysId with
    | some row =>
      { article with
        userTags := row.userTags
        autoTags := row.autoTags
        bodyCached := article.bodyCached || row.bodyCached }
    | none => article

/-- `build_knowledge_article`. -/
def buildKnowledgeArticle (cache : ArticleCache) (now : DateTime) (record : Record) :
    KnowledgeArticle :=
  let article := normalizeKnowledgeArticle lib (articleFromServicenow lib now record
    ((lib.knowledgeBaseReference record).getD ⟨"", ""⟩)
    ((lib.categoryReference record).getD ⟨"", ""⟩))
  normalizeKnowledgeArticle lib
    { mergeExisting lib cache record.sysId article with
      snTags := lib.deriveServicenowTags record }

/-! ## Persisting -/

/-- `knowledge_article_row_from_article`. -/
def knowledgeArticleRowFromArticle (article : KnowledgeArticle) : KnowledgeArticleRow where
  sysUpdatedOn := nonBlank ((article.record.fields.get "sys_updated_on").map FieldValue.value)
  snTags := article.snTags
  autoTags := article.autoTags
  userTags := article.userTags
  bodyCached := article.bodyCached

/-- The cache once a row of `kb_knowledge` is persisted. -/
def persistArticle (cache : ArticleCache) (now : DateTime) (record : Record) : ArticleCache :=
  let article := buildKnowledgeArticle lib cache now record
  let path := recordPath article.record
  { records := cache.records.upsert
      (recordRowFromSnowRecord lib.toCoreLib article.record record path)
    articles := cache.articles.put article.record.sysId
      (knowledgeArticleRowFromArticle (normalizeKnowledgeArticle lib article))
    files := cache.files.put path (lib.renderKnowledgeArticle article) }

/-! ## Reading -/

/-- `json_string_field`. -/
def jsonStringField (json : Value) (field : String) : Option String :=
  match json.get field with
  | some (.string text) => some text
  | some (.object fields) =>
    ((lookup "value" fields).bind Value.asStr).orElse fun _ =>
      (lookup "display_value" fields).bind Value.asStr
  | _ => none

/-- The first of some fields of a row's JSON that is not blank, trimmed. -/
def firstTextOfJson (json : Value) (fields : List String) : Option String :=
  ((fields.filterMap (jsonStringField json)).map trim).find? (· ≠ "")

/-- `knowledge_content_from_json`. -/
def knowledgeContentFromJson (json : Value) : Option String :=
  firstTextOfJson json ["article_body", "text", "description"]

/-- `json_string_array_field`, or the tags of the row. -/
def tagsFromJson (json : Value) (field : String) (stored : List String) : List String :=
  match json.get field with
  | some (.array items) => ((items.filterMap Value.asStr).map trim).filter (· ≠ "")
  | _ => stored

/-- The article that `materialize_knowledge_article` makes of the rows of the cache. -/
def articleFromJson (cache : ArticleCache) (row : RecordRow) : KnowledgeArticle :=
  let record := materializeRecordFromJson row
  let projection := cache.articles.row row.sysId
  let content := ((knowledgeContentFromJson row.rawJson).filter fun text => trim text ≠ "").getD
    record.description
  normalizeKnowledgeArticle lib
    { record
      knowledgeBase := (lib.referenceFromJson "knowledge_base"
        (row.rawJson.get "knowledge_base")).getD ⟨"", ""⟩
      category := (lib.referenceFromJson "category" (row.rawJson.get "category")).getD ⟨"", ""⟩
      author := lib.referenceFromJson "author" (row.rawJson.get "author")
      articleType := (jsonStringField row.rawJson "article_type").getD "text"
      content
      snTags := tagsFromJson row.rawJson "sn_tags"
        ((projection.map KnowledgeArticleRow.snTags).getD [])
      autoTags := tagsFromJson row.rawJson "auto_tags"
        ((projection.map KnowledgeArticleRow.autoTags).getD [])
      userTags := tagsFromJson row.rawJson "user_tags"
        ((projection.map KnowledgeArticleRow.userTags).getD [])
      bodyCached := ((row.rawJson.get "body_cached").bind Value.asBool).getD
        ((projection.map KnowledgeArticleRow.bodyCached).getD (trim content ≠ "")) }

/-- `materialize_knowledge_article`. -/
def materializeKnowledgeArticle (cache : ArticleCache) (row : RecordRow) : KnowledgeArticle :=
  (loadKnowledgeArticleFromVault lib cache row).getD (articleFromJson lib cache row)

-- Of the orders Mathlib has on `ℤ`, the one that runs.
local instance articleBodiesOrder : LinearOrder ℤ := Int.instLinearOrder

local instance articleBodiesPreorder : Preorder ℤ := Int.instLinearOrder.toPreorder

/-- `get_knowledge_article`: the row of the number and the type that is preferred. -/
def getKnowledgeArticle (cache : ArticleCache) (number : String) : Option KnowledgeArticle :=
  ((cache.records.rows.filter fun row =>
      row.number = number ∧ row.resourceType = .knowledge).argmin preference).map
    (materializeKnowledgeArticle lib cache)

/-- `CacheMode`. -/
inductive CacheMode where
  | live
  | readThrough
  | cacheOnly
deriving DecidableEq

/-- `CacheRule`. -/
structure CacheRule where
  mode : CacheMode
  ttl : Option ℤ

/-- `cache_is_usable`. -/
def cacheIsUsable (rule : CacheRule) (now : DateTime) (article : KnowledgeArticle) : Bool :=
  article.bodyCached && (rule.mode = .cacheOnly ||
    rule.ttl.any fun ttl => article.record.syncedAt + ttl > now)

/-- The answer of `get_knowledge_article_cached_or_fresh` that is a cache hit. -/
def cacheHit (rule : CacheRule) (now : DateTime) (cache : ArticleCache) (number : String) :
    Option KnowledgeArticle :=
  if rule.mode = .live then none
  else (getKnowledgeArticle lib cache number).filter (cacheIsUsable rule now)

/-- `get_knowledge_article_cached_or_fresh`, given what a fresh read that does or does not persist
answers. -/
def getKnowledgeArticleCachedOrFresh (rule : CacheRule) (now : DateTime) (cache : ArticleCache)
    (number : String) (fresh : Bool → Except String (Option KnowledgeArticle)) :
    Except String (Option KnowledgeArticle) :=
  match cacheHit lib rule now cache number with
  | some article => .ok (some article)
  | none =>
    match rule.mode with
    | .live => fresh false
    | .cacheOnly => .error "cache miss for get_article/knowledge"
    | .readThrough => fresh true

/-! ## Runs -/

/-- The version of a row of ServiceNow: its `sys_updated_on`, if it is not blank. -/
def versionOf (record : Record) : Option String :=
  nonBlank ((record.fields.get "sys_updated_on").map fun f => (f.value.map fieldText).getD "")

/-- The version that is stored with an article. -/
def storedVersion (cache : ArticleCache) (sysId : String) : Option String :=
  (cache.articles.row sysId).bind KnowledgeArticleRow.sysUpdatedOn

/-- What happens to the cache: a row is persisted, or a file is lost: there is none, or one that
cannot be read. -/
inductive ArticleOp where
  | persist (now : DateTime) (record : Record)
  | lose (path : String) (left : Option String)

/-- One step. -/
def articleStep : ArticleOp → ArticleCache → ArticleCache
  | .persist now record, cache => persistArticle lib cache now record
  | .lose path left, cache =>
    { cache with files := match left with
      | none => cache.files.delete path
      | some text => cache.files.put path text }

/-- The article of a `sys_id` is marked as cached, by its file or, without that, by its row. -/
def Flagged (cache : ArticleCache) (sysId : String) : Prop :=
  match loadExistingKnowledgeArticle lib cache sysId with
  | some existing => existing.bodyCached = true
  | none => ∃ row, cache.articles.row sysId = some row ∧ row.bodyCached = true

section Allowed

variable (bodyOf : String → Option String → String) (cache : ArticleCache)

/-- A row of ServiceNow is a projection of a version of an article: if it has fields for the body,
it has the body of that version, and its JSON has what it has. -/
structure Projects (record : Record) : Prop where
  table : record.table = "kb_knowledge"
  body : bodyFieldsPresent record = true →
    canonicalBody lib record = trim (bodyOf record.sysId (versionOf record))
  json : firstTextOfJson (lib.serializeRecordDocument record) ["article_body", "text"] =
    nonBlank (some (canonicalBody lib record))

/-- A projection is persisted as the merge expects it: the file is the article's own and reads with
the body and the mark that were written, and a projection without a body meets an article that is
marked as cached only if that is of the same version and can be read. -/
structure Persists (now : DateTime) (record : Record) : Prop where
  projects : Projects lib bodyOf record
  reads : ∃ read, lib.parseKnowledgeArticle
      (lib.renderKnowledgeArticle (buildKnowledgeArticle lib cache now record)) = some read ∧
    read.content = (buildKnowledgeArticle lib cache now record).content ∧
      read.bodyCached = (buildKnowledgeArticle lib cache now record).bodyCached
  ownFile : ∀ other ∈ cache.records.rows, other.sysId ≠ record.sysId →
    other.filePath ≠ some (recordPath (buildKnowledgeArticle lib cache now record).record)
  sameVersion : canonicalBody lib record = "" → Flagged lib cache record.sysId →
    (loadExistingKnowledgeArticle lib cache record.sysId).isSome ∧
      storedVersion cache record.sysId = versionOf record

/-- Nothing in the rows of an article marks it as cached. -/
structure Bare (row : RecordRow) : Prop where
  content : knowledgeContentFromJson row.rawJson = none
  description : trim (row.description.getD "") = ""
  flag : (row.rawJson.get "body_cached").bind Value.asBool = none
  stored : ∀ stored, cache.articles.row row.sysId = some stored → stored.bodyCached = false

/-- A file is lost whose article was last persisted with its body, or was not marked as cached. -/
structure Loses (path : String) (left : Option String) : Prop where
  unreadable : ∀ text, left = some text → lib.parseKnowledgeArticle text = none
  backed : ∀ row ∈ cache.records.rows, row.filePath = some path →
    (firstTextOfJson row.rawJson ["article_body", "text"]).isSome ∨ Bare cache row

/-- The steps that are allowed. -/
def AllowedStep : ArticleOp → Prop
  | .persist now record => Persists lib bodyOf cache now record
  | .lose path left => Loses lib cache path left

/-- **What is cached is there**: an article that is marked as cached has the body of the version
that is stored with it. -/
def BodyIsThere (row : RecordRow) : Prop :=
  (materializeKnowledgeArticle lib cache row).bodyCached = true →
    (materializeKnowledgeArticle lib cache row).content =
      trim (bodyOf row.sysId (storedVersion cache row.sysId))

/-- The JSON of a row has the body of the version that is stored with the row, if it has one. -/
def JsonBody (row : RecordRow) : Prop :=
  ∀ body, firstTextOfJson row.rawJson ["article_body", "text"] = some body →
    body = trim (bodyOf row.sysId (storedVersion cache row.sysId))

end Allowed

/-! ## Building an article -/

section Build

variable {lib} {cache : ArticleCache} {now : DateTime} {record : Record}

theorem get_map {A B : Type} (f : A → B) (m : StringMap A) (key : String) :
    StringMap.get (m.map fun entry => (entry.1, f entry.2)) key = (m.get key).map f := by
  induction m with
  | nil => rfl
  | cons entry m ih =>
    rw [StringMap.get, StringMap.get, List.map_cons, List.find?_cons, List.find?_cons]
    by_cases hkey : entry.1 = key
    · simp [hkey]
    · have hne : (entry.1 == key) = false := by simpa using hkey
      simp only [hne]
      exact ih

/-- The values of fields do not depend on their display values. -/
theorem value_setDisplay (field : String) (reference : Option Core.Reference)
    (fields : StringMap FieldValue) (key : String) :
    (StringMap.get (setDisplay field reference fields) key).map FieldValue.value =
      (fields.get key).map FieldValue.value := by
  induction fields with
  | nil => rfl
  | cons entry fields ih =>
    rw [setDisplay, List.map_cons, StringMap.get, StringMap.get, List.find?_cons, List.find?_cons]
    have hfst : (if entry.1 = field then (entry.1, { entry.2 with
        displayValue := (reference.map Core.Reference.displayName).filter (· ≠ "") })
        else entry).1 = entry.1 := by split_ifs <;> rfl
    by_cases hkey : entry.1 = key
    · have heq : (entry.1 == key) = true := by simpa using hkey
      rw [hfst, heq]
      split_ifs <;> rfl
    · have hne : (entry.1 == key) = false := by simpa using hkey
      rw [hfst, hne]
      exact ih

variable (article : KnowledgeArticle) (key : String)

theorem value_normalize :
    ((normalizeKnowledgeArticle lib article).record.fields.get key).map FieldValue.value =
      (article.record.fields.get key).map FieldValue.value := by
  rw [normalizeKnowledgeArticle, value_setDisplay, value_setDisplay, value_setDisplay]

theorem canonicalBody_trim : trim (canonicalBody lib record) = canonicalBody lib record := by
  rw [canonicalBody]
  cases hfind : ((["article_body", "text"].filterMap (record.getStr lib.toCoreLib)).map
      trim).find? (· ≠ "") with
  | none => decide
  | some body =>
    obtain ⟨raw, _, rfl⟩ := List.mem_map.mp (List.mem_of_find?_eq_some hfind)
    exact trim_trim raw

/-- A projection with a body has fields for it. -/
theorem bodyFieldsPresent_of_canonicalBody (h : canonicalBody lib record ≠ "") :
    bodyFieldsPresent record = true := by
  by_contra hnot
  rw [bodyFieldsPresent, Bool.or_eq_true, not_or, Option.isSome_iff_ne_none,
    Option.isSome_iff_ne_none, not_not, not_not] at hnot
  refine h ?_
  simp [canonicalBody, Record.getStr, hnot.1, hnot.2]

@[simp] theorem normalize_content :
    (normalizeKnowledgeArticle lib article).content = article.content := rfl

@[simp] theorem normalize_bodyCached :
    (normalizeKnowledgeArticle lib article).bodyCached =
      (article.bodyCached || decide (trim article.content ≠ "")) := rfl

@[simp] theorem normalize_sysId :
    (normalizeKnowledgeArticle lib article).record.sysId = article.record.sysId := rfl

/-- The content an article has once it is merged with what is there. -/
def keptContent (existing : Option KnowledgeArticle) (content : String) : String :=
  match existing with
  | some existing =>
    if trim content = "" ∧ existing.bodyCached ∧ trim existing.content ≠ "" then
      existing.content
    else content
  | none => content

variable (sysId : String)

theorem merge_content (article : KnowledgeArticle) :
    (mergeExisting lib cache sysId article).content =
      keptContent (loadExistingKnowledgeArticle lib cache sysId) article.content := by
  rw [mergeExisting]
  cases loadExistingKnowledgeArticle lib cache sysId with
  | some existing => rfl
  | none => cases cache.articles.row sysId <;> rfl

theorem merge_record (article : KnowledgeArticle) :
    (mergeExisting lib cache sysId article).record = article.record := by
  rw [mergeExisting]
  cases loadExistingKnowledgeArticle lib cache sysId with
  | some existing => rfl
  | none => cases cache.articles.row sysId <;> rfl

theorem merge_bodyCached {sysId : String} {article : KnowledgeArticle}
    (h : (mergeExisting lib cache sysId article).bodyCached = true) :
    article.bodyCached = true ∨ Flagged lib cache sysId := by
  rw [mergeExisting] at h
  rw [Flagged]
  cases hload : loadExistingKnowledgeArticle lib cache sysId with
  | some existing => simpa [hload] using h
  | none =>
    cases hrow : cache.articles.row sysId with
    | none =>
      rw [hload, hrow] at h
      exact .inl h
    | some row => simpa [hload, hrow] using h

theorem build_content : (buildKnowledgeArticle lib cache now record).content =
    keptContent (loadExistingKnowledgeArticle lib cache record.sysId)
      (canonicalBody lib record) := by
  rw [buildKnowledgeArticle, normalize_content, merge_content, normalize_content,
    articleFromServicenow, normalize_content]

/-- An article is marked as cached when the projection has fields for the body, when the one that
is there is marked, or when it has a body. -/
theorem build_bodyCached (h : (buildKnowledgeArticle lib cache now record).bodyCached = true) :
    bodyFieldsPresent record = true ∨ Flagged lib cache record.sysId ∨
      trim (buildKnowledgeArticle lib cache now record).content ≠ "" := by
  have hcontent : trim (canonicalBody lib record) ≠ "" → bodyFieldsPresent record = true := by
    rw [canonicalBody_trim]
    exact bodyFieldsPresent_of_canonicalBody
  rw [buildKnowledgeArticle, normalize_bodyCached, Bool.or_eq_true, decide_eq_true_iff] at h
  rcases h with h | h
  · rcases merge_bodyCached h with harticle | hflagged
    · rw [normalize_bodyCached, articleFromServicenow, normalize_bodyCached, normalize_content,
        Bool.or_eq_true, Bool.or_eq_true, decide_eq_true_iff, or_assoc, or_self] at harticle
      exact .inl (harticle.elim id hcontent)
    · exact .inr (.inl hflagged)
  · exact .inr (.inr h)

theorem build_sysId : (buildKnowledgeArticle lib cache now record).record.sysId =
    record.sysId := by
  rw [buildKnowledgeArticle, normalize_sysId, merge_record, normalize_sysId, articleFromServicenow,
    normalize_sysId]
  rfl

/-- The fields of an article have the values of those of the row. -/
theorem build_value :
    ((buildKnowledgeArticle lib cache now record).record.fields.get key).map FieldValue.value =
      (record.fields.get key).map fun f => (f.value.map fieldText).getD "" := by
  have hmodel (knowledgeBase category : Core.Reference) :
      (recordModel lib now record knowledgeBase category).fields = record.fields.map fun entry =>
        (entry.1, ⟨(entry.2.value.map fieldText).getD "", entry.2.displayValue⟩) := rfl
  rw [buildKnowledgeArticle, value_normalize]
  show ((mergeExisting lib cache record.sysId _).record.fields.get key).map _ = _
  rw [merge_record, value_normalize, articleFromServicenow, value_normalize, hmodel,
    get_map fun field : LiveField =>
      (⟨(field.value.map fieldText).getD "", field.displayValue⟩ : FieldValue), Option.map_map]
  rfl

/-- The version that is stored with a persisted article is that of the row. -/
theorem storedVersion_persist :
    storedVersion (persistArticle lib cache now record) record.sysId = versionOf record := by
  have hrow : (persistArticle lib cache now record).articles.row record.sysId =
      some (knowledgeArticleRowFromArticle (normalizeKnowledgeArticle lib
        (buildKnowledgeArticle lib cache now record))) := by
    rw [persistArticle]
    simp only [build_sysId, Table.row_put_self]
  have hvalue : ((buildKnowledgeArticle lib cache now record).record.fields.get
      "sys_updated_on").map FieldValue.value = _ := build_value "sys_updated_on"
  rw [storedVersion, hrow, versionOf, ← hvalue, ← value_normalize]
  rfl

end Build

/-! ## Steps -/

section Steps

variable {lib} {bodyOf : String → Option String → String} {cache : ArticleCache} {now : DateTime}
  {record : Record}

variable {row : RecordRow}

/-- What is read of a row is read of its own file and of the rows of its `sys_id`. -/
theorem materialize_congr {cache' : ArticleCache}
    (hfile : row.filePath.bind cache'.files.row = row.filePath.bind cache.files.row)
    (hstored : cache'.articles.row row.sysId = cache.articles.row row.sysId) :
    materializeKnowledgeArticle lib cache' row = materializeKnowledgeArticle lib cache row := by
  simp only [materializeKnowledgeArticle, loadKnowledgeArticleFromVault, articleFromJson, hfile,
    hstored]

/-- The article that is there for a `sys_id` is that of its row. -/
theorem loadExisting_eq_some {sysId : String} {existing : KnowledgeArticle}
    (h : loadExistingKnowledgeArticle lib cache sysId = some existing) :
    ∃ row ∈ cache.records.rows, row.sysId = sysId ∧
      materializeKnowledgeArticle lib cache row = existing := by
  obtain ⟨row, hrow, hload⟩ := Option.bind_eq_some_iff.mp h
  obtain ⟨hmem, hid⟩ := getRecordBySysId_eq_some.mp hrow
  refine ⟨row, hmem, hid, ?_⟩
  rw [materializeKnowledgeArticle, hload, Option.getD_some]

/-- **An article that is persisted has its body**, if the one that was there had. -/
theorem build_hasBody (hpersists : Persists lib bodyOf cache now record)
    (hbodies : ∀ row ∈ cache.records.rows, BodyIsThere lib bodyOf cache row)
    (hcached : (buildKnowledgeArticle lib cache now record).bodyCached = true) :
    (buildKnowledgeArticle lib cache now record).content =
      trim (bodyOf record.sysId (versionOf record)) := by
  have hbuild := build_bodyCached hcached
  rw [build_content] at hbuild ⊢
  by_cases hbody : canonicalBody lib record = ""
  · cases hload : loadExistingKnowledgeArticle lib cache record.sysId with
    | none =>
      -- Without an article to read, the mark can only be that of the projection.
      rw [hload, keptContent, hbody] at hbuild
      have hfields : bodyFieldsPresent record = true := by
        rcases hbuild with h | h | h
        · exact h
        · have hsome := (hpersists.sameVersion hbody h).1
          rw [hload] at hsome
          cases hsome
        · exact absurd (by decide) h
      rw [keptContent, hpersists.projects.body hfields]
    | some existing =>
      obtain ⟨row, hmem, hid, hread⟩ := loadExisting_eq_some hload
      by_cases hflag : existing.bodyCached = true
      · have hflagged : Flagged lib cache record.sysId := by
          rw [Flagged, hload]
          exact hflag
        have hversion := (hpersists.sameVersion hbody hflagged).2
        have hkept : existing.content = trim (bodyOf record.sysId (versionOf record)) := by
          have hrow := hbodies row hmem
          rw [BodyIsThere, hread, hid, hversion] at hrow
          exact hrow hflag
        have htrim : trim existing.content = existing.content := by rw [hkept, trim_trim]
        rw [keptContent, hbody, htrim, ← hkept]
        split_ifs with hcase
        · rfl
        · by_contra hne
          exact hcase ⟨by decide, hflag, Ne.symm hne⟩
      · have hkeep : keptContent (some existing) (canonicalBody lib record) =
            canonicalBody lib record := if_neg fun h => hflag h.2.1
        rw [hload, hkeep] at hbuild
        rw [hkeep]
        refine hpersists.projects.body ?_
        rcases hbuild with h | h | h
        · exact h
        · rw [Flagged, hload] at h
          exact absurd h hflag
        · rw [hbody] at h
          exact absurd (by decide) h
  · have hkeep : keptContent (loadExistingKnowledgeArticle lib cache record.sysId)
        (canonicalBody lib record) = canonicalBody lib record := by
      cases loadExistingKnowledgeArticle lib cache record.sysId with
      | none => rfl
      | some existing =>
        refine if_neg fun h => hbody ?_
        rw [canonicalBody_trim] at h
        exact h.1
    rw [hkeep]
    exact hpersists.projects.body (bodyFieldsPresent_of_canonicalBody hbody)

/-- The rows after a row is persisted: that one, and those of the other articles. -/
theorem mem_persist (h : row ∈ (persistArticle lib cache now record).records.rows) :
    (row ∈ cache.records.rows ∧ row.sysId ≠ record.sysId) ∨
      row = recordRowFromSnowRecord lib.toCoreLib (buildKnowledgeArticle lib cache now record).record
        record (recordPath (buildKnowledgeArticle lib cache now record).record) := by
  rcases List.mem_append.mp h with hold | hnew
  · obtain ⟨hmem, hne⟩ := List.mem_filter.mp hold
    refine .inl ⟨hmem, ?_⟩
    have hid := of_decide_eq_true hne
    rwa [recordRowFromSnowRecord, build_sysId] at hid
  · exact .inr (List.mem_singleton.mp hnew)

/-- Persisting keeps what is known of every row. -/
theorem persist_keeps (hpersists : Persists lib bodyOf cache now record)
    (hbodies : ∀ row ∈ cache.records.rows, BodyIsThere lib bodyOf cache row)
    (hjson : ∀ row ∈ cache.records.rows, JsonBody bodyOf cache row) :
    ∀ row ∈ (persistArticle lib cache now record).records.rows,
      BodyIsThere lib bodyOf (persistArticle lib cache now record) row ∧
        JsonBody bodyOf (persistArticle lib cache now record) row := by
  intro row hrow
  rcases mem_persist hrow with ⟨hmem, hne⟩ | rfl
  · have hstored : (persistArticle lib cache now record).articles.row row.sysId =
        cache.articles.row row.sysId := by
      rw [persistArticle]
      exact Table.row_put_of_ne _ _ (by rw [build_sysId]; exact hne)
    have hversion : storedVersion (persistArticle lib cache now record) row.sysId =
        storedVersion cache row.sysId := by rw [storedVersion, hstored, storedVersion]
    have hfile : row.filePath.bind (persistArticle lib cache now record).files.row =
        row.filePath.bind cache.files.row := by
      have hown := hpersists.ownFile row hmem hne
      cases hpath : row.filePath with
      | none => rfl
      | some path =>
        rw [hpath] at hown
        exact Table.row_put_of_ne _ _ fun h => hown (congrArg some h)
    constructor
    · rw [BodyIsThere, materialize_congr hfile hstored, hversion]
      exact hbodies row hmem
    · rw [JsonBody, hversion]
      exact hjson row hmem
  · obtain ⟨read, hparse, hcontent, hflag⟩ := hpersists.reads
    have hread : materializeKnowledgeArticle lib (persistArticle lib cache now record)
        (recordRowFromSnowRecord lib.toCoreLib (buildKnowledgeArticle lib cache now record).record
          record (recordPath (buildKnowledgeArticle lib cache now record).record)) = read := by
      have hload : loadKnowledgeArticleFromVault lib (persistArticle lib cache now record)
          (recordRowFromSnowRecord lib.toCoreLib
            (buildKnowledgeArticle lib cache now record).record record
            (recordPath (buildKnowledgeArticle lib cache now record).record)) = some read := by
        rw [loadKnowledgeArticleFromVault, ← hparse]
        show (Option.bind (Table.row _ _) _) = _
        rw [persistArticle, Table.row_put_self, Option.bind_some]
      rw [materializeKnowledgeArticle, hload, Option.getD_some]
    have hid : (recordRowFromSnowRecord lib.toCoreLib
        (buildKnowledgeArticle lib cache now record).record record
        (recordPath (buildKnowledgeArticle lib cache now record).record)).sysId =
          record.sysId := build_sysId
    constructor
    · rw [BodyIsThere, hread, hid, storedVersion_persist, hcontent, hflag]
      exact build_hasBody hpersists hbodies
    · intro body hbody
      rw [hid, storedVersion_persist]
      have hsome := hpersists.projects.json.symm.trans hbody
      have hne : canonicalBody lib record ≠ "" ∧ trim (canonicalBody lib record) = body := by
        rw [nonBlank, Option.map_some, Option.filter_eq_some_iff, canonicalBody_trim] at hsome
        have hne := of_decide_eq_true hsome.2
        rw [← Option.some.inj hsome.1] at hne
        exact ⟨hne, canonicalBody_trim.trans (Option.some.inj hsome.1)⟩
      rw [← hne.2, canonicalBody_trim]
      exact hpersists.projects.body (bodyFieldsPresent_of_canonicalBody hne.1)

variable {json : Value}

theorem firstTextOfJson_trim {fields : List String} {text : String}
    (h : firstTextOfJson json fields = some text) : trim text = text ∧ text ≠ "" := by
  obtain ⟨raw, _, rfl⟩ := List.mem_map.mp (List.mem_of_find?_eq_some h)
  exact ⟨trim_trim raw, by simpa using List.find?_some h⟩

variable {body : String}

/-- The body of a row's JSON is its content. -/
theorem knowledgeContentFromJson_of_body
    (h : firstTextOfJson json ["article_body", "text"] = some body) :
    knowledgeContentFromJson json = some body := by
  have hsplit : ["article_body", "text", "description"] =
      ["article_body", "text"] ++ ["description"] := rfl
  rw [knowledgeContentFromJson, firstTextOfJson, hsplit, List.filterMap_append, List.map_append,
    List.find?_append]
  rw [firstTextOfJson] at h
  rw [h]
  rfl

/-- Without its file, an article has what the JSON of its row has. -/
theorem articleFromJson_body
    (h : firstTextOfJson row.rawJson ["article_body", "text"] = some body) :
    (articleFromJson lib cache row).content = body := by
  obtain ⟨htrim, hne⟩ := firstTextOfJson_trim h
  have hfilter : (some body).filter (fun text => decide (trim text ≠ "")) = some body := by
    rw [Option.filter_some, htrim, if_pos (decide_eq_true hne)]
  rw [articleFromJson, normalize_content, knowledgeContentFromJson_of_body h]
  simp only [hfilter, Option.getD_some]

/-- An article that nothing marks as cached is not marked when its file is lost. -/
theorem articleFromJson_bare (hbare : Bare cache row) :
    (articleFromJson lib cache row).bodyCached = false := by
  have hdescription : trim (materializeRecordFromJson row).description = "" := hbare.description
  have hstored : ((cache.articles.row row.sysId).map KnowledgeArticleRow.bodyCached).getD false =
      false := by
    cases h : cache.articles.row row.sysId with
    | none => rfl
    | some stored => exact hbare.stored stored h
  rw [articleFromJson, normalize_bodyCached]
  simp only [hbare.content, hbare.flag, Option.filter_none, Option.getD_none, hdescription]
  simpa using hstored

/-- Losing a file keeps what is known of every row. -/
theorem lose_keeps {path : String} {left : Option String} (hloses : Loses lib cache path left)
    (hbodies : ∀ row ∈ cache.records.rows, BodyIsThere lib bodyOf cache row)
    (hjson : ∀ row ∈ cache.records.rows, JsonBody bodyOf cache row) :
    ∀ row ∈ (articleStep lib (.lose path left) cache).records.rows,
      BodyIsThere lib bodyOf (articleStep lib (.lose path left) cache) row ∧
        JsonBody bodyOf (articleStep lib (.lose path left) cache) row := by
  intro row hrow
  have hmem : row ∈ cache.records.rows := hrow
  refine ⟨?_, hjson row hmem⟩
  by_cases hpath : row.filePath = some path
  · have hload : loadKnowledgeArticleFromVault lib (articleStep lib (.lose path left) cache) row =
        none := by
      rw [loadKnowledgeArticleFromVault, hpath, Option.bind_some]
      cases left with
      | none =>
        show ((cache.files.delete path).row path).bind _ = none
        rw [Table.row_delete_self, Option.bind_none]
      | some text =>
        show ((cache.files.put path text).row path).bind _ = none
        rw [Table.row_put_self, Option.bind_some]
        exact hloses.unreadable text rfl
    have hread : materializeKnowledgeArticle lib (articleStep lib (.lose path left) cache) row =
        articleFromJson lib cache row := by
      rw [materializeKnowledgeArticle, hload, Option.getD_none]
      rfl
    rw [BodyIsThere, hread]
    intro hcached
    rcases hloses.backed row hmem hpath with hbody | hbare
    · obtain ⟨body, hbody⟩ := Option.isSome_iff_exists.mp hbody
      rw [articleFromJson_body hbody]
      exact hjson row hmem body hbody
    · rw [articleFromJson_bare hbare] at hcached
      cases hcached
  · have hfile : row.filePath.bind (articleStep lib (.lose path left) cache).files.row =
        row.filePath.bind cache.files.row := by
      cases hother : row.filePath with
      | none => rfl
      | some other =>
        have hne : other ≠ path := fun h => hpath (h ▸ hother)
        rw [Option.bind_some, Option.bind_some]
        cases left with
        | none => exact Table.row_delete_of_ne _ hne
        | some text => exact Table.row_put_of_ne _ _ hne
    have hstep : storedVersion (articleStep lib (.lose path left) cache) row.sysId =
        storedVersion cache row.sysId := rfl
    rw [BodyIsThere, materialize_congr hfile rfl, hstep]
    exact hbodies row hmem

end Steps

/-! ## Every run -/

section Runs

variable {lib} {bodyOf : String → Option String → String} {ops : List ArticleOp}
  {cache : ArticleCache}

/-- Along every run each row keeps what is known of it. -/
theorem run_keeps
    (h : Runs.Run (articleStep lib) (AllowedStep lib bodyOf) ArticleCache.empty ops cache) :
    ∀ row ∈ cache.records.rows, BodyIsThere lib bodyOf cache row ∧ JsonBody bodyOf cache row := by
  refine h.invariant (I := fun _ cache => ∀ row ∈ cache.records.rows,
    BodyIsThere lib bodyOf cache row ∧ JsonBody bodyOf cache row) ?_ ?_
  · intro row hrow
    cases hrow
  · intro _ cache op _ ih hop
    have hbodies := fun row hrow => (ih row hrow).1
    have hjson := fun row hrow => (ih row hrow).2
    cases op with
    | persist now record => exact persist_keeps hop hbodies hjson
    | lose path left => exact lose_keeps hop hbodies hjson

/-- What is served from the cache is the article of a row of the number, marked as cached. -/
theorem cacheHit_eq_some {rule : CacheRule} {now : DateTime} {number : String}
    {article : KnowledgeArticle} (h : cacheHit lib rule now cache number = some article) :
    article.bodyCached = true ∧ ∃ row ∈ cache.records.rows, row.number = number ∧
      materializeKnowledgeArticle lib cache row = article := by
  rw [cacheHit] at h
  split_ifs at h
  obtain ⟨hget, husable⟩ := Option.filter_eq_some_iff.mp h
  obtain ⟨row, hrow, hread⟩ := Option.map_eq_some_iff.mp hget
  obtain ⟨hmem, hnamed⟩ := List.mem_filter.mp (List.argmin_mem hrow)
  rw [cacheIsUsable, Bool.and_eq_true] at husable
  exact ⟨husable.1, row, hmem, (of_decide_eq_true hnamed).1, hread⟩

/-- **A body that is marked as cached is that of the stored version.**  In every run in which each
projection that is persisted has a file of its own that reads as what was written of the body, a
projection without a body meets a marked article only if that is of the same version and can be
read, and a file is lost only of an article that was last persisted with its body or is not marked,
every article that is marked as cached has the body of the version that is stored with it: a blank one
only where the version's own is.  So has every article that is served as a cache hit. -/
theorem cached_body_is_stored_version
    (h : Runs.Run (articleStep lib) (AllowedStep lib bodyOf) ArticleCache.empty ops cache) :
    (∀ row ∈ cache.records.rows, BodyIsThere lib bodyOf cache row) ∧
      ∀ rule now number article, cacheHit lib rule now cache number = some article →
        ∃ row ∈ cache.records.rows, row.number = number ∧
          article.content = trim (bodyOf row.sysId (storedVersion cache row.sysId)) := by
  have hrows := run_keeps h
  refine ⟨fun row hrow => (hrows row hrow).1, ?_⟩
  intro rule now number article hhit
  obtain ⟨hcached, row, hmem, hnumber, rfl⟩ := cacheHit_eq_some hhit
  exact ⟨row, hmem, hnumber, (hrows row hmem).1 hcached⟩

end Runs

/-! ## One article -/

/-- An article as ServiceNow has it, with its body or without a text in it. -/
def liveArticle (body : String) : Record where
  sysId := "k1"
  table := "kb_knowledge"
  fields := [("number", ⟨some (.string "KB0000001"), some "KB0000001"⟩),
    ("state", ⟨some (.string "published"), some "published"⟩),
    ("sys_updated_on", ⟨some (.string "2026-01-01 00:00:00"), some "2026-01-01 00:00:00"⟩),
    ("text", ⟨some (.string body), some body⟩),
    ("workflow_state", ⟨some (.string "published"), some "published"⟩)]

/-- Its Markdown, given the text of its section. -/
def articleMarkdown (body shown : String) : String :=
  "\n".intercalate ["---", "sys_id: \"k1\"", "number: \"KB0000001\"", "table: \"kb_knowledge\"",
    "resource_type: \"knowledge\"", "workflow_state: \"published\"", "short_description: \"\"",
    "knowledge_base:", "  sys_id: \"\"", "  table: \"kb_knowledge_base\"",
    "  display_name: \"\"", "category:", "  sys_id: \"\"", "  table: \"kb_category\"",
    "  display_name: \"\"", "article_type: \"text\"", "fields:", "  number:",
    "    value: \"KB0000001\"", "    display_value: \"KB0000001\"", "  state:",
    "    value: \"published\"", "    display_value: \"published\"", "  sys_updated_on:",
    "    value: \"2026-01-01 00:00:00\"", "    display_value: \"2026-01-01 00:00:00\"", "  text:",
    "    value: \"" ++ body ++ "\"", "    display_value: \"" ++ body ++ "\"", "  workflow_state:",
    "    value: \"published\"", "    display_value: \"published\"", "references:", "  category:",
    "    sys_id: \"\"", "    table: \"kb_category\"", "    display_name: \"\"",
    "  knowledge_base:", "    sys_id: \"\"", "    table: \"kb_knowledge_base\"",
    "    display_name: \"\"", "sn_tags:", "auto_tags:", "user_tags:", "body_cached: true",
    "synced_at: \"2026-01-01T00:00:00Z\"", "source: \"api\"", "---", "", "# KB0000001: ", "",
    "## Summary", "", "_(empty)_", "", "## Content", "", shown, "", ""]

/-- Reads the fields of that article. -/
def unreadLib : ArticleLib where
  getStr field := field.displayValue.orElse fun _ => field.value.bind Value.asStr
  fromTable table := if table = "kb_knowledge" then .knowledge else .unknown
  parentRecordRef _ := none
  references _ := []
  knowledgeArticle _ _ _ := .error "built by the service"
  renderRecord _ := ""
  renderApproval _ _ := ""
  parseMarkdown _ _ := none
  serializeRecordDocument record := obj (record.fields.map fun entry =>
    (entry.1, obj [("value", entry.2.value.getD .null),
      ("display_value", .string (entry.2.displayValue.getD ""))]))
  knowledgeBaseReference _ := none
  categoryReference _ := none
  authorReference _ := none
  normalizeReferenceForField _ reference := reference
  referenceFromJson _ _ := none
  deriveServicenowTags _ := []
  renderKnowledgeArticle _ := ""
  parseKnowledgeArticle _ := none

/-- Renders that article, and reads it. -/
def articleLib (body markdown : String) : ArticleLib :=
  { unreadLib with
    renderKnowledgeArticle := fun _ => markdown
    parseKnowledgeArticle := fun text =>
      if text = markdown then
        some (buildKnowledgeArticle unreadLib ArticleCache.empty newYear (liveArticle body))
      else none }

/-- The cache once the article is persisted. -/
def articleCache (body markdown : String) : ArticleCache :=
  persistArticle (articleLib body markdown) ArticleCache.empty newYear (liveArticle body)

/-- The article is persisted. -/
theorem liveArticle_persists (body markdown : String)
    (hprojects : Projects (articleLib body markdown) (fun _ _ => body) (liveArticle body)) :
    Runs.Run (articleStep (articleLib body markdown))
      (AllowedStep (articleLib body markdown) fun _ _ => body) ArticleCache.empty
      [.persist newYear (liveArticle body)] (articleCache body markdown) := by
  have hstart : Runs.Run (articleStep (articleLib body markdown))
      (AllowedStep (articleLib body markdown) fun _ _ => body) ArticleCache.empty []
      ArticleCache.empty := .start
  have hread : (articleLib body markdown).parseKnowledgeArticle markdown =
      some (buildKnowledgeArticle unreadLib ArticleCache.empty newYear (liveArticle body)) :=
    if_pos rfl
  refine hstart.next ⟨hprojects, ⟨_, hread, rfl, rfl⟩, ?_, ?_⟩
  · intro other hother
    cases hother
  · intro _ hflagged
    obtain ⟨row, hrow, -⟩ := hflagged
    cases hrow

/-- With its body, it is there. -/
theorem cached_body_is_stored_version_persisted :
    (∀ row ∈ (articleCache "Restart." (articleMarkdown "Restart." "Restart.")).records.rows,
      BodyIsThere (articleLib "Restart." (articleMarkdown "Restart." "Restart."))
        (fun _ _ => "Restart.") (articleCache "Restart." (articleMarkdown "Restart." "Restart."))
        row) ∧
      ∀ rule now number article,
        cacheHit (articleLib "Restart." (articleMarkdown "Restart." "Restart.")) rule now
          (articleCache "Restart." (articleMarkdown "Restart." "Restart.")) number = some article →
        ∃ row ∈ (articleCache "Restart." (articleMarkdown "Restart." "Restart.")).records.rows,
          row.number = number ∧ article.content = trim "Restart." :=
  cached_body_is_stored_version (liveArticle_persists "Restart."
    (articleMarkdown "Restart." "Restart.") ⟨rfl, fun _ => by decide +kernel, by decide +kernel⟩)

/-- **An article without a text in its body is marked as cached.**  The projection has the field
for the body, which is empty. -/
theorem empty_body_is_marked :
    ¬ ∀ (lib : ArticleLib) (bodyOf : String → Option String → String) (ops : List ArticleOp)
      (cache : ArticleCache),
      Runs.Run (articleStep lib) (AllowedStep lib bodyOf) ArticleCache.empty ops cache →
      ∀ row ∈ cache.records.rows, (materializeKnowledgeArticle lib cache row).bodyCached = true →
        trim (materializeKnowledgeArticle lib cache row).content ≠ "" ∧
          (materializeKnowledgeArticle lib cache row).content =
            trim (bodyOf row.sysId (storedVersion cache row.sysId)) := by
  intro hall
  have hrun := liveArticle_persists "" (articleMarkdown "" "_(empty)_")
    ⟨rfl, fun _ => by decide +kernel, by decide +kernel⟩
  refine (hall _ _ _ _ hrun _ (List.mem_singleton_self _) ?_).1 ?_
  · decide +kernel
  · decide +kernel

end SnowAgent.Knowledge
