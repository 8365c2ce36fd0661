import SnowAgent.DocumentBody
import SnowAgent.FrontMatter

/-! # Knowledge articles in the vault

The summary and the content of an article are in the body of its document only.  They come
back as they were unless one of their lines is a heading for the reader of the body.
-/
namespace SnowAgent.Markdown

open Json Text TextLines YamlBlocks

/-! ## Articles -/

/-- `KnowledgeArticle`. -/
structure KnowledgeArticle where
  record : SnowRecord
  knowledgeBase : Reference
  category : Reference
  articleType : String
  content : String
  snTags : List String
  autoTags : List String
  userTags : List String
  bodyCached : Bool
  publishedAt : Option DateTime
  author : Option Reference
  validTo : Option Int

/-- `KnowledgeArticleFrontmatter`. -/
structure KnowledgeArticleFrontmatter where
  sysId : String
  number : String
  table : String
  resourceType : String
  workflowState : String
  shortDescription : String
  knowledgeBase : Reference
  category : Reference
  articleType : String
  fields : FieldMap FieldValue
  references : FieldMap Reference
  publishedAt : Option DateTime
  author : Option Reference
  validTo : Option Int
  snTags : List String
  autoTags : List String
  userTags : List String
  bodyCached : Bool
  syncedAt : DateTime
  source : String

section Code

variable (lib : VaultLib)

/-- What the front matter of an article says of its workflow state. -/
def workflowStateOf (record : SnowRecord) : String :=
  ((record.fields.get "workflow_state").map shownValue).getD record.state

/-- The front matter of an article. -/
def articleFrontMatter (article : KnowledgeArticle) : List Char :=
  let record := article.record
  pushScalar "sys_id" record.sysId ++
    pushScalar "number" record.number ++
    pushScalar "table" record.table ++
    pushScalar "resource_type" (resourceTypeSlug record.resourceType) ++
    pushScalar "workflow_state" (workflowStateOf record) ++
    pushScalar "short_description" record.shortDescription ++
    pushReference "knowledge_base" article.knowledgeBase ++
    pushReference "category" article.category ++
    pushScalar "article_type" article.articleType ++
    (if record.fields.entries = [] then [] else pushFieldValues "fields" record.fields) ++
    (if record.references.entries = [] then [] else pushReferences "references" record.references) ++
    ((article.publishedAt.map fun publishedAt =>
      pushScalar "published_at" (lib.showInstant publishedAt)).getD []) ++
    ((article.author.map fun author => pushReference "author" author).getD []) ++
    ((article.validTo.map fun validTo => pushScalar "valid_to" (lib.showDate validTo)).getD []) ++
    pushStringList "sn_tags" article.snTags ++
    pushStringList "auto_tags" article.autoTags ++
    pushStringList "user_tags" article.userTags ++
    pushBoolean "body_cached" article.bodyCached ++
    pushScalar "synced_at" (lib.showInstant record.syncedAt) ++
    pushScalar "source" (cacheSourceSlug record.source)

/-- `render_knowledge_article`. -/
def renderKnowledgeArticle (article : KnowledgeArticle) : List Char :=
  "---\n".toList ++ articleFrontMatter lib article ++ "---\n\n".toList ++
    ("# ".toList ++ article.record.number.toList ++ ": ".toList ++
      article.record.shortDescription.toList ++ ['\n']) ++ ['\n'] ++
    pushSection "Summary" article.record.description ++
    pushSection "Content" article.content

/-- A front matter of an article as it is decoded. -/
def readKnowledgeFrontmatter : Yaml → Option KnowledgeArticleFrontmatter :=
  readMapping fun entries => do
    let sysId ← readField readString "sys_id" entries
    let number ← readField readString "number" entries
    let table ← readField readString "table" entries
    let resourceType ← readField readString "resource_type" entries
    let workflowState ← readField readString "workflow_state" entries
    let shortDescription ← readFieldOr "" readString "short_description" entries
    let knowledgeBase ← readField readReference "knowledge_base" entries
    let category ← readField readReference "category" entries
    let articleType ← readField readString "article_type" entries
    let fields ← readFieldOr FieldMap.empty (readMap readFieldValue) "fields" entries
    let references ← readFieldOr FieldMap.empty (readMap readReference) "references" entries
    let publishedAt ← readFieldOr none
      (readOption fun y => (readString y).bind lib.readInstant) "published_at" entries
    let author ← readFieldOr none (readOption readReference) "author" entries
    let validTo ← readFieldOr none
      (readOption fun y => (readString y).bind lib.readDate) "valid_to" entries
    let snTags ← readFieldOr [] (readList readString) "sn_tags" entries
    let autoTags ← readFieldOr [] (readList readString) "auto_tags" entries
    let userTags ← readFieldOr [] (readList readString) "user_tags" entries
    let bodyCached ← readFieldOr false readFlag "body_cached" entries
    let syncedAt ← readField (fun y => (readString y).bind lib.readInstant) "synced_at" entries
    let source ← readField readString "source" entries
    return { sysId, number, table, resourceType, workflowState, shortDescription, knowledgeBase,
             category, articleType, fields, references, publishedAt, author, validTo, snTags,
             autoTags, userTags, bodyCached, syncedAt, source }

/-- `parse_knowledge_frontmatter`: a front matter that cannot be read is mended once. -/
def parseKnowledgeFrontmatter (frontmatter : List Char) :
    Except String KnowledgeArticleFrontmatter :=
  match (lib.readYaml frontmatter).bind (readKnowledgeFrontmatter lib) with
  | some read => .ok read
  | none =>
    let repaired := repairLegacyYamlBlockScalars frontmatter
    match (lib.readYaml repaired).bind (readKnowledgeFrontmatter lib) with
    | some read => .ok read
    | none => .error ("failed to parse KnowledgeArticle frontmatter: " ++
        lib.yamlError frontmatter ++ "; repair retry failed: " ++ lib.yamlError repaired)

/-- `author_reference_from_fields`. -/
def authorReferenceFromFields (fields : FieldMap FieldValue) : Option Reference :=
  (fields.get "author").bind fun author =>
    if trim author.value = "" then none
    else some
      { sysId := trim author.value
        table := "sys_user"
        displayName := lib.chooseReferenceDisplayName [author.displayValue]
        extra := FieldMap.empty }

/-- `normalize_reference_for_field`, of a field that has one. -/
def normalizeReference (reference : Reference) : Reference :=
  { reference with
    displayName := lib.chooseReferenceDisplayName
      (some reference.displayName :: ["name", "label", "title", "user_name", "email", "number"].map
        reference.extra.get) }

/-- `normalize_tag_layer`. -/
def normalizeTagLayer (tags : List String) : List String :=
  tags.foldl (fun normalized tag =>
    if trim tag = "" ∨ trim tag ∈ normalized then normalized else normalized ++ [trim tag]) []

/-- The display value of a field becomes the name of a reference. -/
def showReference (reference : Option Reference) (value : FieldValue) : FieldValue :=
  { value with displayValue := (reference.map Reference.displayName).filter (· ≠ "") }

/-- `normalize_knowledge_article`. -/
def normalizeKnowledgeArticle (article : KnowledgeArticle) : KnowledgeArticle :=
  let knowledgeBase := normalizeReference lib article.knowledgeBase
  let category := normalizeReference lib article.category
  let author := article.author.map (normalizeReference lib)
  let fields := ((article.record.fields.adjust "knowledge_base"
    (showReference (some knowledgeBase))).adjust "category" (showReference (some category))).adjust
      "author" (showReference author)
  let references := (article.record.references.insert "knowledge_base" knowledgeBase).insert
    "category" category
  { article with
    record := { article.record with
      fields
      references := (author.map fun author => references.insert "author" author).getD
        (references.remove "author") }
    knowledgeBase
    category
    author
    snTags := normalizeTagLayer article.snTags
    autoTags := normalizeTagLayer article.autoTags
    userTags := normalizeTagLayer article.userTags
    bodyCached := article.bodyCached || decide (trim article.content ≠ "") }

/-- The article of a front matter and a body. -/
def articleOf (frontmatter : KnowledgeArticleFrontmatter) (body : ParsedBody)
    (resourceType : Core.ResourceType) (source : CacheSource) : KnowledgeArticle :=
  let workflowState := frontmatter.workflowState
  let fields := if (frontmatter.fields.get "workflow_state").isSome then frontmatter.fields
    else frontmatter.fields.insert "workflow_state" ⟨workflowState, some workflowState⟩
  let references := (frontmatter.references.insert "knowledge_base" frontmatter.knowledgeBase).insert
    "category" frontmatter.category
  let author := (frontmatter.author <|> references.get "author") <|>
    authorReferenceFromFields lib fields
  let publishedAt := frontmatter.publishedAt <|>
    (fields.get "published").bind fun value =>
      if trim value.value = "" then none else lib.parseDatetime (trim value.value)
  { record :=
      { sysId := frontmatter.sysId
        number := frontmatter.number
        table := frontmatter.table
        resourceType
        state := workflowState
        shortDescription := (titleShortDescription body).getD frontmatter.shortDescription
        description := sectionOrDefault body "Summary" ""
        fields
        workNotes := []
        comments := []
        parent := none
        children := []
        references := (author.map fun author => references.insert "author" author).getD references
        syncedAt := frontmatter.syncedAt
        source }
    knowledgeBase := frontmatter.knowledgeBase
    category := frontmatter.category
    articleType := frontmatter.articleType
    content := sectionOrDefault body "Content" ""
    snTags := frontmatter.snTags
    autoTags := frontmatter.autoTags
    userTags := frontmatter.userTags
    bodyCached := frontmatter.bodyCached
    publishedAt
    author
    validTo := frontmatter.validTo }

/-- `parse_knowledge_article`. -/
def parseKnowledgeArticle (markdown : List Char) : Except String KnowledgeArticle := do
  let (frontmatter, body) ← splitFrontmatter (crlfToLf markdown)
  let frontmatter ← parseKnowledgeFrontmatter lib frontmatter
  let resourceType ← resourceTypeFromSlug frontmatter.resourceType
  let source ← cacheSourceFromSlug frontmatter.source
  return normalizeKnowledgeArticle lib
    (articleOf lib frontmatter (parseBody body) resourceType source)

end Code

/-! ## The front matter comes back -/

/-- **Standard YAML**, and texts of instants and days that are on one line and are read back,
an instant to the second. -/
structure VaultLib.Standard (lib : VaultLib) : Prop where
  yaml : Reads jsonQuoting lib.readYaml
  instant_line : ∀ t, SingleLine (lib.showInstant t)
  instant : ∀ t, lib.readInstant (lib.showInstant t) = some (durationSeconds (timestampSeconds t))
  date_line : ∀ d, SingleLine (lib.showDate d)
  date : ∀ d, lib.readDate (lib.showDate d) = some d

/-- **The values of the front matter are on one line**, and the names of fields, references
and extras are plain, as the names of columns are. -/
structure KnowledgeArticle.Single (article : KnowledgeArticle) : Prop where
  sysId : SingleLine article.record.sysId
  number : SingleLine article.record.number
  table : SingleLine article.record.table
  state : SingleLine article.record.state
  shortDescription : SingleLine article.record.shortDescription
  knowledgeBase : article.knowledgeBase.Single
  category : article.category.Single
  articleType : SingleLine article.articleType
  fields : FieldsSingle article.record.fields
  references : ReferencesSingle article.record.references
  author : ∀ author ∈ article.author, author.Single
  snTags : ∀ tag ∈ article.snTags, SingleLine tag
  autoTags : ∀ tag ∈ article.autoTags, SingleLine tag
  userTags : ∀ tag ∈ article.userTags, SingleLine tag

section FrontMatter

variable (lib : VaultLib) (article : KnowledgeArticle)

/-- The front matter as a table. -/
def articleTable : List (String × Option Block) :=
  [("sys_id", some (.quoted article.record.sysId)),
    ("number", some (.quoted article.record.number)),
    ("table", some (.quoted article.record.table)),
    ("resource_type", some (.quoted (resourceTypeSlug article.record.resourceType))),
    ("workflow_state", some (.quoted (workflowStateOf article.record))),
    ("short_description", some (.quoted article.record.shortDescription)),
    ("knowledge_base", some (.mapping (referenceBlocks article.knowledgeBase))),
    ("category", some (.mapping (referenceBlocks article.category))),
    ("article_type", some (.quoted article.articleType)),
    ("fields", mappingBlock (fieldsBlocks article.record.fields)),
    ("references", mappingBlock (referencesBlocks article.record.references)),
    ("published_at", article.publishedAt.map fun t => .quoted (lib.showInstant t)),
    ("author", article.author.map fun author => .mapping (referenceBlocks author)),
    ("valid_to", article.validTo.map fun d => .quoted (lib.showDate d)),
    ("sn_tags", some (listBlock article.snTags)),
    ("auto_tags", some (listBlock article.autoTags)),
    ("user_tags", some (listBlock article.userTags)),
    ("body_cached", some (.flag article.bodyCached)),
    ("synced_at", some (.quoted (lib.showInstant article.record.syncedAt))),
    ("source", some (.quoted (cacheSourceSlug article.record.source)))]

/-- What is decoded of it. -/
def frontmatterOf : KnowledgeArticleFrontmatter where
  sysId := article.record.sysId
  number := article.record.number
  table := article.record.table
  resourceType := resourceTypeSlug article.record.resourceType
  workflowState := workflowStateOf article.record
  shortDescription := article.record.shortDescription
  knowledgeBase := article.knowledgeBase
  category := article.category
  articleType := article.articleType
  fields := article.record.fields
  references := article.record.references
  publishedAt := article.publishedAt.map fun t => durationSeconds (timestampSeconds t)
  author := article.author
  validTo := article.validTo
  snTags := article.snTags
  autoTags := article.autoTags
  userTags := article.userTags
  bodyCached := article.bodyCached
  syncedAt := durationSeconds (timestampSeconds article.record.syncedAt)
  source := cacheSourceSlug article.record.source

variable {lib article}

theorem mem_of_lookup {α : Type} {entries : List (String × α)} {key : String} {value : α}
    (h : entries.lookup key = some value) : (key, value) ∈ entries := by
  induction entries with
  | nil => cases h
  | cons e entries ih =>
    rw [List.lookup_cons] at h
    split at h
    · rename_i hkey
      cases h
      rw [beq_iff_eq.mp hkey]
      exact List.mem_cons_self
    · exact List.mem_cons_of_mem _ (ih h)

theorem workflowStateOf_single (h : article.Single) :
    SingleLine (workflowStateOf article.record) := by
  rw [workflowStateOf]
  cases hfield : article.record.fields.get "workflow_state" with
  | none => exact h.state
  | some value =>
    obtain ⟨_, hvalue, hshown⟩ := h.fields _ (mem_of_lookup hfield)
    rw [Option.map_some, Option.getD_some, shownValue]
    cases hdisplay : value.displayValue with
    | none => exact hvalue
    | some displayValue => exact hshown displayValue hdisplay

theorem slug_single (resourceType : Core.ResourceType) :
    SingleLine (resourceTypeSlug resourceType) := by
  cases resourceType <;> simp [SingleLine, resourceTypeSlug]

theorem source_single (source : CacheSource) : SingleLine (cacheSourceSlug source) := by
  cases source <;> simp [SingleLine, cacheSourceSlug]

/-- An entry that is written if there is something. -/
theorem optional_eq {α : Type} (key : String) (x : Option α) (write : α → List Char)
    (block : α → Block)
    (h : ∀ a ∈ x, write a = unlines (entryLines jsonQuoting 0 [(key, block a)])) :
    (x.map write).getD [] = unlines (entryLines jsonQuoting 0 (optional key (x.map block))) := by
  cases x with
  | none => rfl
  | some a => exact h a rfl

/-- A mapping that is written if it has entries. -/
theorem optional_mapping_eq {α : Type} (key : String) (entries : List α) (write : List Char)
    (block : α → String × Block) (h : write =
      unlines (entryLines jsonQuoting 0 [(key, .mapping (entries.map block))])) :
    (if entries = [] then [] else write) =
      unlines (entryLines jsonQuoting 0 (optional key (mappingBlock (entries.map block)))) := by
  by_cases hnil : entries = []
  · rw [if_pos hnil, hnil]
    rfl
  · have hne : entries.map block ≠ [] := by simpa using hnil
    rw [if_neg hnil, mappingBlock, if_neg hne]
    exact h

/-- **The front matter is a block of YAML.** -/
theorem articleFrontMatter_eq (hlib : lib.Standard) (h : article.Single) :
    articleFrontMatter lib article =
      unlines (entryLines jsonQuoting 0 (entriesOf (articleTable lib article))) := by
  have hfields := optional_mapping_eq "fields" article.record.fields.entries _ _
    (pushFieldValues_eq h.fields "fields")
  have hreferences := optional_mapping_eq "references" article.record.references.entries _ _
    (pushReferences_eq h.references "references")
  have hpublished := optional_eq "published_at" article.publishedAt
    (fun t => pushScalar "published_at" (lib.showInstant t)) (fun t => .quoted (lib.showInstant t))
    fun t _ => pushScalar_eq (hlib.instant_line t) "published_at"
  have hauthor := optional_eq "author" article.author (pushReference "author")
    (fun author => .mapping (referenceBlocks author))
    fun author hmem => pushReference_eq (h.author author hmem) "author"
  have hvalid := optional_eq "valid_to" article.validTo
    (fun d => pushScalar "valid_to" (lib.showDate d)) (fun d => .quoted (lib.showDate d))
    fun d _ => pushScalar_eq (hlib.date_line d) "valid_to"
  unfold articleFrontMatter
  simp only [hfields, hreferences, hpublished, hauthor, hvalid]
  simp only [pushScalar_eq h.sysId, pushScalar_eq h.number, pushScalar_eq h.table,
    pushScalar_eq (slug_single _), pushScalar_eq (workflowStateOf_single h),
    pushScalar_eq h.shortDescription, pushReference_eq h.knowledgeBase,
    pushReference_eq h.category, pushScalar_eq h.articleType, pushStringList_eq h.snTags,
    pushStringList_eq h.autoTags, pushStringList_eq h.userTags, pushBoolean_eq,
    pushScalar_eq (hlib.instant_line _), pushScalar_eq (source_single _)]
  rw [unlines_entriesOf, articleTable]
  simp only [List.flatMap_cons, List.flatMap_nil, List.append_nil, List.append_assoc]
  rfl

/-- The names in a front matter. -/
def articleNames : List String :=
  ["sys_id", "number", "table", "resource_type", "workflow_state", "short_description",
    "knowledge_base", "category", "article_type", "fields", "references", "published_at",
    "author", "valid_to", "sn_tags", "auto_tags", "user_tags", "body_cached", "synced_at",
    "source"]

theorem articleNames_plain : articleNames.Nodup ∧ ∀ key ∈ articleNames, PlainKey key := by
  decide +kernel

theorem articleTable_nodup : ((articleTable lib article).map Prod.fst).Nodup := articleNames_plain.1

theorem articleTable_wellFormed (h : article.Single) :
    WellFormedEntries (entriesOf (articleTable lib article)) := by
  refine wellFormedEntries_of_names (fun e he => ?_) (entriesOf_keys _) articleNames_plain
  have hall : ∀ x ∈ articleTable lib article, ∀ b ∈ x.2, b.WellFormed := by
    simp only [articleTable, List.forall_mem_cons, Option.mem_def, Option.some.injEq, forall_eq',
      Block.WellFormed, true_and]
    refine ⟨referenceBlocks_wellFormed h.knowledgeBase, referenceBlocks_wellFormed h.category,
      fun _ => fieldsBlocks_wellFormed h.fields, fun _ => referencesBlocks_wellFormed h.references,
      ?_, ?_, ?_, listBlock_wellFormed _, listBlock_wellFormed _, listBlock_wellFormed _, nofun⟩
    · intro b hb
      obtain ⟨t, _, rfl⟩ := Option.map_eq_some_iff.mp hb
      trivial
    · intro b hb
      obtain ⟨author, hmem, rfl⟩ := Option.map_eq_some_iff.mp hb
      exact referenceBlocks_wellFormed (h.author author hmem)
    · intro b hb
      obtain ⟨d, _, rfl⟩ := Option.map_eq_some_iff.mp hb
      trivial
  exact hall _ (mem_entriesOf he) _ rfl

/-- A key of the front matter that is always there. -/
theorem readField_article {α : Type} {read : Yaml → Option α} (i : Nat) {key : String} {b : Block}
    {value : α} (h : (articleTable lib article)[i]? = some (key, some b))
    (hread : read b.value = some value) :
    readField read key (valueEntries (entriesOf (articleTable lib article))) = some value :=
  (readField_table articleTable_nodup (List.mem_of_getElem? h)).trans hread

/-- A key of the front matter that has a default. -/
theorem readFieldOr_article {α : Type} {default : α} {read : Yaml → Option α} (i : Nat)
    {key : String} {b : Option Block} {value : α}
    (h : (articleTable lib article)[i]? = some (key, b))
    (hread : ((b.map Block.value).map read).getD (some default) = some value) :
    readFieldOr default read key (valueEntries (entriesOf (articleTable lib article))) =
      some value :=
  (readFieldOr_table articleTable_nodup (List.mem_of_getElem? h)).trans hread

/-- A value that may be left out. -/
theorem readOption_optional {α β : Type} (read : Yaml → Option β) (x : Option α)
    (block : α → Block) (f : α → β) (hnull : ∀ a, (block a).value ≠ .null)
    (h : ∀ a, read (block a).value = some (f a)) :
    (((x.map block).map Block.value).map (readOption read)).getD (some none) = some (x.map f) := by
  cases x with
  | none => rfl
  | some a =>
    have hread : readOption read (block a).value = (read (block a).value).map some := by
      unfold readOption
      split
      · rename_i hvalue
        exact absurd hvalue (hnull a)
      · rfl
    rw [Option.map_some, Option.map_some, Option.map_some, Option.getD_some, hread, h a]
    rfl

/-- **What is written of an article is decoded.** -/
theorem readKnowledgeFrontmatter_table (hlib : lib.Standard) :
    readKnowledgeFrontmatter lib (.mapping (valueEntries (entriesOf (articleTable lib article)))) =
      some (frontmatterOf article) := by
  have hpublished := readOption_optional (fun y => (readString y).bind lib.readInstant)
    article.publishedAt (fun t => Block.quoted (lib.showInstant t))
    (fun t => durationSeconds (timestampSeconds t)) (fun _ h => by cases h) hlib.instant
  have hauthor := readOption_optional readReference article.author
    (fun author => Block.mapping (referenceBlocks author)) id (fun _ h => by cases h)
    readReference_blocks
  have hvalid := readOption_optional (fun y => (readString y).bind lib.readDate) article.validTo
    (fun d => Block.quoted (lib.showDate d)) id (fun _ h => by cases h) hlib.date
  rw [Option.map_id] at hauthor hvalid
  have hstring := @readField_article lib article String readString
  have hreference := @readField_article lib article Reference readReference
  have hlist := @readFieldOr_article lib article (List String) [] (readList readString)
  rw [readKnowledgeFrontmatter, readMapping, hstring 0 rfl rfl, hstring 1 rfl rfl,
    hstring 2 rfl rfl, hstring 3 rfl rfl, hstring 4 rfl rfl,
    @readFieldOr_article lib article String "" readString 5 _ _ _ rfl rfl,
    hreference 6 rfl (readReference_blocks _), hreference 7 rfl (readReference_blocks _),
    hstring 8 rfl rfl,
    @readFieldOr_article lib article _ _ _ 9 _ _ _ rfl (readFields_blocks _),
    @readFieldOr_article lib article _ _ _ 10 _ _ _ rfl (readReferences_blocks _),
    @readFieldOr_article lib article _ _ _ 11 _ _ _ rfl hpublished,
    @readFieldOr_article lib article _ _ _ 12 _ _ _ rfl hauthor,
    @readFieldOr_article lib article _ _ _ 13 _ _ _ rfl hvalid,
    hlist 14 rfl (readList_block _), hlist 15 rfl (readList_block _),
    hlist 16 rfl (readList_block _),
    @readFieldOr_article lib article Bool false readFlag 17 _ _ _ rfl rfl,
    @readField_article lib article _ (fun y => (readString y).bind lib.readInstant) 18 _ _ _ rfl
      (hlib.instant _), hstring 19 rfl rfl]
  rfl

end FrontMatter

/-! ## The body comes back -/

section Body

variable (number shortDescription summary content : String)

/-- The line of the title. -/
def titleLine : List Char := "# ".toList ++ number.toList ++ ": ".toList ++ shortDescription.toList

/-- The lines of the body. -/
def articleLines : List (List Char) :=
  [] :: titleLine number shortDescription :: [] ::
    (sectionLines "Summary" summary ++ sectionLines "Content" content)

/-- The body after its title. -/
def afterTitle : ParsedBody :=
  ⟨some (trimChars (readLine (number.toList ++ ": ".toList ++ shortDescription.toList))), [],
    some "Summary".toList, []⟩

/-- The body where its content starts. -/
def beforeContent : ParsedBody :=
  sectionStep ((sectionBody summary).foldl sectionStep (afterTitle number shortDescription))
    ("## ".toList ++ "Content".toList)

variable {number shortDescription summary content}

theorem sectionStep_title (st : ParsedBody) (line : List Char) :
    (sectionStep st line).title = st.title := by
  unfold sectionStep
  split
  · split
    · rfl
    · rfl
  · split
    · rfl
    · rfl

/-- After the title, every line is one of the sections. -/
theorem foldl_bodyStep {st : ParsedBody} (htitle : st.title.isSome = true)
    (ls : List (List Char)) : ls.foldl bodyStep st = ls.foldl sectionStep st := by
  induction ls generalizing st with
  | nil => rfl
  | cons l ls ih =>
    have hstep : bodyStep st l = sectionStep st l := by
      rw [bodyStep, if_neg]
      simp [Option.isNone_iff_eq_none, Option.isSome_iff_ne_none.mp htitle]
    rw [List.foldl_cons, hstep, List.foldl_cons, ih]
    rw [sectionStep_title]
    exact htitle

theorem bodyStep_titleLine :
    bodyStep ⟨none, [], none, []⟩ (readLine (titleLine number shortDescription)) =
      { title := (afterTitle number shortDescription).title
        sections := []
        current := none
        body := [] } := by
  have hline : readLine (titleLine number shortDescription) = "# ".toList ++
      readLine (number.toList ++ ": ".toList ++ shortDescription.toList) := by
    rw [titleLine, List.append_assoc, List.append_assoc, readLine_append (by decide),
      List.append_assoc]
  have hne : trimChars ("# ".toList ++
      readLine (number.toList ++ ": ".toList ++ shortDescription.toList)) ≠ [] := by
    intro hnil
    have hweight := weight_trim ("# ".toList ++
      readLine (number.toList ++ ": ".toList ++ shortDescription.toList))
    rw [hnil, weight_append, show weight "# ".toList = 1 from by decide] at hweight
    simp [weight] at hweight
    omega
  rw [hline, bodyStep, if_pos (by rfl), if_neg hne, afterPrefix_append]
  rfl

theorem articleLines_oneLine (hnumber : SingleLine number) (hshort : SingleLine shortDescription) :
    ∀ l ∈ articleLines number shortDescription summary content, OneLine l := by
  have hsection : ∀ title text : String, SingleLine title →
      ∀ l ∈ sectionLines title text, OneLine l := by
    intro title text htitle l hl
    rcases List.mem_cons.mp hl with rfl | hmem
    · exact oneLine_append.mpr ⟨by simp [OneLine], htitle⟩
    · rcases List.mem_cons.mp hmem with rfl | hmem
      · exact oneLine_nil
      · rcases List.mem_append.mp hmem with htext | hlast
        · exact textLines_oneLine text l htext
        · rw [List.mem_singleton.mp hlast]
          exact oneLine_nil
  intro l hl
  rcases List.mem_cons.mp hl with rfl | hmem
  · exact oneLine_nil
  · rcases List.mem_cons.mp hmem with rfl | hmem
    · rw [titleLine, oneLine_append, oneLine_append, oneLine_append]
      exact ⟨⟨⟨by simp [OneLine], hnumber⟩, by simp [OneLine]⟩, hshort⟩
    · rcases List.mem_cons.mp hmem with rfl | hmem
      · exact oneLine_nil
      · rcases List.mem_append.mp hmem with hsummary | hcontent
        · exact hsection "Summary" summary (by simp [SingleLine]) l hsummary
        · exact hsection "Content" content (by simp [SingleLine]) l hcontent

/-- **The body is read** section by section. -/
theorem parseBody_article (hnumber : SingleLine number) (hshort : SingleLine shortDescription) :
    parseBody (unlines ((articleLines number shortDescription summary content).map chomp)) =
      ((sectionBody content).foldl sectionStep
        (beforeContent number shortDescription summary)).finish := by
  have hone : ∀ l ∈ articleLines number shortDescription summary content, OneLine l :=
    articleLines_oneLine hnumber hshort
  have hread : ∀ title text : String, title = "Summary" ∨ title = "Content" →
      (sectionLines title text).map readLine =
        ("## ".toList ++ title.toList) :: sectionBody text := by
    intro title text htitle
    rw [sectionLines, sectionBody, List.map_cons, List.map_cons, List.map_append]
    rcases htitle with rfl | rfl
    · rfl
    · rfl
  have hlines : (articleLines number shortDescription summary content).map readLine =
      [] :: readLine (titleLine number shortDescription) :: [] ::
        ((("## ".toList ++ "Summary".toList) :: sectionBody summary) ++
          (("## ".toList ++ "Content".toList) :: sectionBody content)) := by
    rw [articleLines, List.map_cons, List.map_cons, List.map_cons, List.map_append,
      hread _ _ (.inl rfl), hread _ _ (.inr rfl)]
    rfl
  have hstart : bodyStep ⟨none, [], none, []⟩ [] = ⟨none, [], none, []⟩ := rfl
  rw [parseBody, lines_unlines (oneLine_map_chomp hone), List.map_map]
  show (((articleLines number shortDescription summary content).map readLine).foldl bodyStep
    _).finish = _
  rw [hlines, List.foldl_cons, hstart, List.foldl_cons, bodyStep_titleLine,
    foldl_bodyStep (by rfl), List.foldl_cons, List.foldl_append, List.foldl_cons,
    List.foldl_cons]
  rfl

/-- What is read of the summary and of the content, when neither has headings. -/
theorem sections_plain (number shortDescription : String) (hsummary : NoHeadings summary)
    (hcontent : NoHeadings content) :
    ((sectionBody content).foldl sectionStep
      (beforeContent number shortDescription summary)).finish.sections.lookup "Summary".toList =
        some (readBack summary) ∧
      ((sectionBody content).foldl sectionStep
        (beforeContent number shortDescription summary)).finish.sections.lookup
          "Content".toList = some (readBack content) := by
  have hbefore : beforeContent number shortDescription summary =
      { title := (afterTitle number shortDescription).title
        sections := [("Summary".toList, readBack summary)]
        current := some "Content".toList
        body := [] } := by
    rw [beforeContent, foldl_section (by rfl) (by rfl) hsummary,
      sectionStep_heading _ (show _ = some "Summary".toList from rfl)]
    rfl
  rw [hbefore, foldl_section (by rfl) (by rfl) hcontent]
  exact ⟨rfl, rfl⟩

theorem beforeContent_current (number shortDescription summary : String) :
    (beforeContent number shortDescription summary).current = some "Content".toList ∧
      (beforeContent number shortDescription summary).body = [] := by
  have hstart : Within "Summary".toList 0 (afterTitle number shortDescription) :=
    within_start rfl rfl
  have hwithin := hstart.foldl (sectionBody summary)
  obtain ⟨current, hcurrent, _⟩ := hwithin.sections
  rw [beforeContent, sectionStep_heading _ hcurrent]
  exact ⟨rfl, rfl⟩

/-- A content with a heading is cut. -/
theorem content_cut (number shortDescription summary content : String) : ∃ text,
    ((sectionBody content).foldl sectionStep
      (beforeContent number shortDescription summary)).finish.sections.lookup "Content".toList =
        some text ∧ weight text ≤ plainWeight (sectionBody content) := by
  obtain ⟨hcurrent, hbody⟩ := beforeContent_current number shortDescription summary
  have hwithin := (within_start hcurrent hbody).foldl (sectionBody content)
  rw [Nat.zero_add] at hwithin
  exact hwithin.finish

/-- A summary with a heading is cut, if the content has none. -/
theorem summary_cut (number shortDescription summary : String) (hcontent : NoHeadings content) :
    ∃ text, ((sectionBody content).foldl
      sectionStep (beforeContent number shortDescription summary)).finish.sections.lookup
        "Summary".toList = some text ∧ weight text ≤ plainWeight (sectionBody summary) := by
  have hstart : Within "Summary".toList 0 (afterTitle number shortDescription) :=
    within_start rfl rfl
  have hwithin := (hstart.foldl (sectionBody summary)).step ("## ".toList ++ "Content".toList)
  rw [if_pos (show IsHeading _ from List.prefix_append _ _), Nat.add_zero, Nat.zero_add] at hwithin
  obtain ⟨hcurrent, hbody⟩ := beforeContent_current number shortDescription summary
  rw [foldl_section hcurrent hbody hcontent]
  have hfinal : Within "Summary".toList (plainWeight (sectionBody summary))
      (beforeContent number shortDescription summary) := hwithin
  obtain ⟨current, hsame, hsections⟩ := hfinal.sections
  obtain ⟨text, hlookup, hle⟩ := hsections (by
    rw [hcurrent] at hsame
    cases hsame
    decide)
  refine ⟨text, ?_, hle⟩
  rw [ParsedBody.finish]
  simp only [hcurrent]
  exact hlookup

end Body

/-! ## Articles come back -/

section RoundTrip

variable {lib : VaultLib} {article : KnowledgeArticle}

/-- **The document of an article**, line by line. -/
theorem renderKnowledgeArticle_eq (hlib : lib.Standard) (h : article.Single) :
    renderKnowledgeArticle lib article =
      unlines (documentLines (entriesOf (articleTable lib article))
        (articleLines article.record.number article.record.shortDescription
          article.record.description article.content)) := by
  have hopen : "---\n".toList = "---".toList ++ ['\n'] := rfl
  have hclose : "---\n\n".toList = "---".toList ++ ['\n', '\n'] := rfl
  unfold renderKnowledgeArticle documentLines
  rw [articleFrontMatter_eq hlib h]
  generalize entryLines jsonQuoting 0 (entriesOf (articleTable lib article)) = front
  simp only [articleLines, titleLine, hopen, hclose, pushSection_eq, unlines_cons,
    unlines_append, List.append_assoc, List.cons_append, List.nil_append]

/-- **A document of an article is parsed**: its sections are those of its body. -/
theorem parseKnowledgeArticle_render (hlib : lib.Standard) (h : article.Single) :
    ∃ parsed, parseKnowledgeArticle lib (renderKnowledgeArticle lib article) = .ok parsed ∧
      parsed.record.description = sectionOrDefault
        ((sectionBody article.content).foldl sectionStep (beforeContent article.record.number
          article.record.shortDescription article.record.description)).finish "Summary" "" ∧
      parsed.content = sectionOrDefault
        ((sectionBody article.content).foldl sectionStep (beforeContent article.record.number
          article.record.shortDescription article.record.description)).finish "Content" "" := by
  have hne : entriesOf (articleTable lib article) ≠ [] := by
    intro hnil
    have hfirst := congrArg List.head? hnil
    cases hfirst
  have hone : ∀ l ∈ articleLines article.record.number article.record.shortDescription
      article.record.description article.content, OneLine l :=
    articleLines_oneLine h.number h.shortDescription
  have hwf : WellFormedEntries (entriesOf (articleTable lib article)) := articleTable_wellFormed h
  have hsplit := splitFrontmatter_document hne hwf hone
  have hfront : parseKnowledgeFrontmatter lib
      (text jsonQuoting (entriesOf (articleTable lib article))) = .ok (frontmatterOf article) := by
    rw [parseKnowledgeFrontmatter, hlib.yaml _ hne hwf, Option.bind_some,
      readKnowledgeFrontmatter_table hlib]
  rw [renderKnowledgeArticle_eq hlib h, parseKnowledgeArticle, hsplit]
  refine ⟨normalizeKnowledgeArticle lib (articleOf lib (frontmatterOf article)
    (parseBody (unlines ((articleLines article.record.number article.record.shortDescription
      article.record.description article.content).map chomp)))
    article.record.resourceType article.record.source), ?_, ?_, ?_⟩
  · show (parseKnowledgeFrontmatter lib _).bind _ = _
    rw [hfront]
    show (resourceTypeFromSlug (resourceTypeSlug article.record.resourceType)).bind _ = _
    rw [resourceTypeFromSlug_slug]
    show (cacheSourceFromSlug (cacheSourceSlug article.record.source)).bind _ = _
    rw [cacheSourceFromSlug_slug]
    rfl
  · rw [parseBody_article h.number h.shortDescription]
    rfl
  · rw [parseBody_article h.number h.shortDescription]
    rfl

/-- **A content with a heading is lost.** -/
theorem content_lost (hlib : lib.Standard) (h : article.Single)
    (hheading : ¬ NoHeadings article.content) {parsed : KnowledgeArticle}
    (hparsed : parseKnowledgeArticle lib (renderKnowledgeArticle lib article) = .ok parsed) :
    trimChars parsed.content.toList ≠ trimChars article.content.toList := by
  obtain ⟨parsed', hparsed', _, hcontent⟩ := parseKnowledgeArticle_render hlib h
  rw [hparsed] at hparsed'
  cases hparsed'
  obtain ⟨kept, hlookup, hle⟩ := content_cut article.record.number
    article.record.shortDescription article.record.description article.content
  rw [hcontent, sectionOrDefault_empty hlookup]
  exact keptText_cut hheading hle

end RoundTrip

/-- **The round trip of knowledge content**: an article is parsed from its document, and its
summary and its content come back up to outer white space just when each of them is a text
that comes back. -/
theorem knowledge_content_round_trip (lib : VaultLib) (hlib : lib.Standard)
    (article : KnowledgeArticle) (h : article.Single) :
    (∃ parsed, parseKnowledgeArticle lib (renderKnowledgeArticle lib article) = .ok parsed ∧
      trim parsed.record.description = trim article.record.description ∧
      trim parsed.content = trim article.content) ↔
    ComesBack article.record.description ∧ ComesBack article.content := by
  obtain ⟨parsed, hparsed, hsummary, hcontent⟩ := parseKnowledgeArticle_render hlib h
  have htrim : ∀ {a b : String}, trim a = trim b ↔ trimChars a.toList = trimChars b.toList :=
    fun {a b} => ⟨fun heq => String.ofList_injective heq, fun heq => congrArg String.ofList heq⟩
  have hiff : (∃ parsed, parseKnowledgeArticle lib (renderKnowledgeArticle lib article) =
        .ok parsed ∧ trim parsed.record.description = trim article.record.description ∧
        trim parsed.content = trim article.content) ↔
      trimChars parsed.record.description.toList = trimChars article.record.description.toList ∧
      trimChars parsed.content.toList = trimChars article.content.toList := by
    rw [← htrim, ← htrim]
    constructor
    · rintro ⟨parsed', hparsed', hback⟩
      rw [hparsed] at hparsed'
      cases hparsed'
      exact hback
    · exact fun hback => ⟨parsed, hparsed, hback⟩
  rw [hiff]
  by_cases hcontentPlain : NoHeadings article.content
  · by_cases hsummaryPlain : NoHeadings article.record.description
    · obtain ⟨hlookupSummary, hlookupContent⟩ := sections_plain article.record.number
        article.record.shortDescription hsummaryPlain hcontentPlain
      rw [hsummary, hcontent, sectionOrDefault_empty hlookupSummary,
        sectionOrDefault_empty hlookupContent, keptText_readBack_iff hsummaryPlain,
        keptText_readBack_iff hcontentPlain]
    · obtain ⟨keptSummary, hlookupSummary, hleSummary⟩ := summary_cut article.record.number
        article.record.shortDescription article.record.description hcontentPlain
      rw [hsummary, sectionOrDefault_empty hlookupSummary]
      exact iff_of_false (fun hback => keptText_cut hsummaryPlain hleSummary hback.1)
        (fun hback => hsummaryPlain hback.1.headings)
  · exact iff_of_false (fun hback => content_lost hlib h hcontentPlain hparsed hback.2)
      (fun hback => hcontentPlain hback.2.headings)

/-! ## An article of one step -/

open Classical in
/-- What a text of one kind was written for. -/
noncomputable def readPlain (show_ : Int → String) (s : String) : Option Int :=
  if h : ∃ t, show_ t = s then some h.choose else none

theorem readPlain_show {show_ : Int → String} (h : Function.Injective show_) (t : Int) :
    readPlain show_ (show_ t) = some t := by
  have hex : ∃ t', show_ t' = show_ t := ⟨t, rfl⟩
  rw [readPlain, dif_pos hex, h hex.choose_spec]

/-- The text of a whole second. -/
def showSecond (n : Int) : String := plainTime (durationSeconds n) ++ "Z"

theorem showSecond_injective : Function.Injective showSecond := by
  intro m n h
  have hsame := plainTime_injective ((String.append_left_inj _).mp h)
  simp only [durationSeconds] at hsame
  omega

theorem plainTime_single (t : Int) : SingleLine (plainTime t) := by
  have hsign : '\n' ∉ (plainSign t).toList := by
    rw [plainSign]
    split
    · decide
    · split
      · decide
      · decide
  have hnumber : '\n' ∉ (plainNumber t).repr.toList := by
    intro h
    rw [Nat.toList_repr] at h
    exact absurd (Nat.isDigit_of_mem_toDigits (by decide) (by decide) h) (by decide)
  rw [SingleLine, plainTime, String.toList_append, List.mem_append]
  rintro (h | h)
  · exact hsign h
  · exact hnumber h

/-- A library that reads what the vault writes. -/
noncomputable def plainVault : VaultLib where
  readYaml := blockReader jsonQuoting
  yamlError _ := "invalid document"
  showInstant t := showSecond (timestampSeconds t)
  readInstant s := (readPlain showSecond s).map durationSeconds
  showDate := plainTime
  readDate := readPlain plainTime
  parseDatetime s := (readPlain showSecond s).map durationSeconds
  chooseReferenceDisplayName names := ((names.filterMap id).find? (· ≠ "")).getD ""

theorem plainVault_standard : plainVault.Standard where
  yaml := blockReader_reads jsonQuoting
  instant_line t := by
    show SingleLine (plainTime _ ++ "Z")
    rw [SingleLine, String.toList_append, List.mem_append]
    rintro (h | h)
    · exact plainTime_single _ h
    · exact absurd h (by decide)
  instant t := by
    show (readPlain showSecond (showSecond _)).map durationSeconds = _
    rw [readPlain_show showSecond_injective]
    rfl
  date_line := plainTime_single
  date := readPlain_show plainTime_injective

/-- A reference without extras. -/
def plainReference (sysId table displayName : String) : Reference :=
  ⟨sysId, table, displayName, FieldMap.empty⟩

theorem plainReference_single {sysId table displayName : String} (hsysId : SingleLine sysId)
    (htable : SingleLine table) (hname : SingleLine displayName) :
    (plainReference sysId table displayName).Single :=
  ⟨hsysId, htable, hname, fun _ he => by cases he⟩

theorem category_lt : "category" < "knowledge_base" := by
  rw [String.lt_iff_toList_lt]
  decide

/-- A published article. -/
def publishedArticle (content : String) : KnowledgeArticle where
  record :=
    { sysId := "kb-sys"
      number := "KB0012345"
      table := "kb_knowledge"
      resourceType := .knowledge
      state := "published"
      shortDescription := "VPN Troubleshooting Runbook"
      description := "Standard operating procedure for VPN issues."
      fields := FieldMap.empty
      workNotes := []
      comments := []
      parent := none
      children := []
      references := ⟨[("category", plainReference "kb-cat" "kb_category" "Networking"),
        ("knowledge_base", plainReference "kb-base" "kb_knowledge_base" "IT Operations")],
        List.pairwise_pair.mpr category_lt⟩
      syncedAt := newYear
      source := .disk }
  knowledgeBase := plainReference "kb-base" "kb_knowledge_base" "IT Operations"
  category := plainReference "kb-cat" "kb_category" "Networking"
  articleType := "text"
  content := content
  snTags := []
  autoTags := []
  userTags := []
  bodyCached := true
  publishedAt := none
  author := none
  validTo := none

theorem publishedArticle_single (content : String) : (publishedArticle content).Single where
  sysId := show SingleLine "kb-sys" by decide +kernel
  number := show SingleLine "KB0012345" by decide +kernel
  table := show SingleLine "kb_knowledge" by decide +kernel
  state := show SingleLine "published" by decide +kernel
  shortDescription := show SingleLine "VPN Troubleshooting Runbook" by decide +kernel
  knowledgeBase := plainReference_single (by decide +kernel) (by decide +kernel) (by decide +kernel)
  category := plainReference_single (by decide +kernel) (by decide +kernel) (by decide +kernel)
  articleType := show SingleLine "text" by decide +kernel
  fields _ he := by cases he
  references e he := by
    rcases List.mem_cons.mp he with rfl | hmem
    · exact ⟨show PlainKey "category" by decide +kernel,
        plainReference_single (by decide +kernel) (by decide +kernel) (by decide +kernel)⟩
    · rw [List.mem_singleton.mp hmem]
      exact ⟨show PlainKey "knowledge_base" by decide +kernel,
        plainReference_single (by decide +kernel) (by decide +kernel) (by decide +kernel)⟩
  author _ h := by cases h
  snTags _ h := by cases h
  autoTags _ h := by cases h
  userTags _ h := by cases h

/-- It is normalised. -/
theorem publishedArticle_normalized (content : String) :
    normalizeKnowledgeArticle plainVault (publishedArticle content) = publishedArticle content := by
  have hreferences : (((publishedArticle content).record.references.insert "knowledge_base"
      (plainReference "kb-base" "kb_knowledge_base" "IT Operations")).insert "category"
      (plainReference "kb-cat" "kb_category" "Networking")).remove "author" =
      (publishedArticle content).record.references := by
    have hless : decide ("category" < "knowledge_base") = true := decide_eq_true category_lt
    have hnot : decide ("knowledge_base" < "category") = false := decide_eq_false category_lt.not_gt
    have hself : ∀ key : String, decide (key < key) = false := fun _ => decide_eq_false (lt_irrefl _)
    ext1
    simp only [FieldMap.insert, FieldMap.remove, publishedArticle, List.filter_cons,
      List.filter_nil, hless, hnot, hself, if_true, List.cons_append, List.nil_append,
      Bool.false_eq_true, if_false]
    rfl
  rw [normalizeKnowledgeArticle]
  show _ = { publishedArticle content with
    record := { (publishedArticle content).record with
      references := (publishedArticle content).record.references } }
  rw [← hreferences]
  rfl

/-- The steps after the heading are lost. -/
theorem heading_cuts_content : ∃ (lib : VaultLib) (article : KnowledgeArticle),
    lib.Standard ∧ article.Single ∧ normalizeKnowledgeArticle lib article = article ∧
      ¬ ∃ parsed, parseKnowledgeArticle lib (renderKnowledgeArticle lib article) = .ok parsed ∧
        trim parsed.record.description = trim article.record.description ∧
        trim parsed.content = trim article.content := by
  refine ⟨plainVault, publishedArticle "Restart the agent.\n## Rollback\nReinstall it.",
    plainVault_standard, publishedArticle_single _, publishedArticle_normalized _, ?_⟩
  rintro ⟨parsed, hparsed, _, hcontent⟩
  refine content_lost plainVault_standard (publishedArticle_single _) (fun h => ?_) hparsed
    (String.ofList_injective hcontent)
  exact h "## Rollback".toList (by decide +kernel) (by decide +kernel)

theorem knowledge_content_round_trip_steps :
    (∃ parsed, parseKnowledgeArticle plainVault (renderKnowledgeArticle plainVault
      (publishedArticle "# Steps\n1. Restart the agent.")) = .ok parsed ∧
      trim parsed.record.description = trim "Standard operating procedure for VPN issues." ∧
      trim parsed.content = trim "# Steps\n1. Restart the agent.") := by
  refine (knowledge_content_round_trip plainVault plainVault_standard
    (publishedArticle "# Steps\n1. Restart the agent.") (publishedArticle_single _)).mpr ⟨?_, ?_⟩
  · exact ⟨by decide +kernel, by decide +kernel, by decide +kernel, by decide +kernel⟩
  · exact ⟨by decide +kernel, by decide +kernel, by decide +kernel, by decide +kernel⟩

end SnowAgent.Markdown
