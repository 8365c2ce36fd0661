import Mathlib.Data.List.Dedup
import SnowAgent.ArticleBodies

/-! # Counting tags

The tags of an article come in three layers, each a list in its row of `knowledge_articles`.
`list_knowledge_tags` counts the tags of one layer, or of all, over the articles in scope.  The
query for one layer counts the elements of the lists; the query for all layers joins the three
with `UNION`, which leaves one row for each article and tag.

Tags are compared as SQLite's `LOWER(TRIM(..))` folds them: without the spaces around them and
without regard to ASCII letter case.
-/
namespace SnowAgent.Knowledge

open Text Core

/-! ## The queries -/

/-- `KnowledgeTagLayer`. -/
inductive KnowledgeTagLayer where
  | sn
  | auto
  | user
deriving DecidableEq

/-- The layers, in their order. -/
def KnowledgeTagLayer.all : List KnowledgeTagLayer := [sn, auto, user]

/-- The tags of a layer. -/
def KnowledgeArticleRow.tags (row : KnowledgeArticleRow) : KnowledgeTagLayer → List String
  | .sn => row.snTags
  | .auto => row.autoTags
  | .user => row.userTags

/-- `LOWER(TRIM(..))`. -/
def tagKey (tag : String) : String :=
  toAsciiLowercase (String.ofList ((tag.toList.dropWhile (· == ' ')).rdropWhile (· == ' ')))

/-- `knowledge_articles` joined with the `records` in scope. -/
def articlesInScope (cache : ArticleCache) : List (String × KnowledgeArticleRow) :=
  (cache.records.rows.filter (·.inScope)).filterMap fun row =>
    (cache.articles.row row.sysId).map fun article => (row.sysId, article)

/-- The rows of an article and a tag, one for each element of a layer. -/
def tagRows (cache : ArticleCache) (layer : KnowledgeTagLayer) : List (String × String) :=
  (articlesInScope cache).flatMap fun article =>
    (article.2.tags layer).map fun tag => (article.1, tagKey tag)

/-- The rows of all layers, joined with `UNION`. -/
def unionRows (cache : ArticleCache) : List (String × String) :=
  (tagRows cache .sn ++ tagRows cache .auto ++ tagRows cache .user).dedup

/-- `KnowledgeTagCountRow`. -/
structure TagCount where
  tag : String
  articleCount : Nat
deriving DecidableEq

/-- `ORDER BY article_count DESC, tag ASC`. -/
def TagCount.before (a b : TagCount) : Bool :=
  b.articleCount < a.articleCount || (a.articleCount == b.articleCount && a.tag ≤ b.tag)

/-- `GROUP BY tag HAVING COUNT(*) >= min_count`, of the rows whose tag is not empty. -/
def countTags (rows : List (String × String)) (minCount : Nat) : List TagCount :=
  let tags := (rows.map Prod.snd).filter (· ≠ "")
  ((tags.dedup.map fun tag => ⟨tag, tags.count tag⟩).filter
    fun row => i64OfUsize minCount ≤ row.articleCount).mergeSort TagCount.before

/-- `list_knowledge_tags` of the store, for one layer. -/
def storeTags (cache : ArticleCache) (layer : KnowledgeTagLayer) (minCount : Nat) :
    List TagCount :=
  countTags (tagRows cache layer) minCount

/-- `list_knowledge_tags` of the store, for all layers. -/
def storeTagsAll (cache : ArticleCache) (minCount : Nat) : List TagCount :=
  countTags (unionRows cache) minCount

/-- `KnowledgeTagSummary`. -/
structure KnowledgeTagSummary where
  tag : String
  count : Nat
  layers : List KnowledgeTagLayer
deriving DecidableEq

/-- `list_knowledge_tags` of the service. -/
def listKnowledgeTags (cache : ArticleCache) (layer : Option KnowledgeTagLayer)
    (minCount : Nat) : Except String (List KnowledgeTagSummary) :=
  if minCount = 0 then .error "min_count must be at least 1"
  else
    match layer with
    | some layer =>
      .ok ((storeTags cache layer minCount).map fun row =>
        ⟨row.tag, row.articleCount, [layer]⟩)
    | none =>
      .ok ((storeTagsAll cache minCount).map fun row =>
        ⟨row.tag, row.articleCount, KnowledgeTagLayer.all.filter fun layer =>
          row.tag ∈ (storeTags cache layer 1).map TagCount.tag⟩)

/-! ## What is promised -/

section Promise

variable (cache : ArticleCache)

/-- The tags an article carries in a layer. -/
def KnowledgeArticleRow.carries (row : KnowledgeArticleRow) (layer : KnowledgeTagLayer)
    (tag : String) : Bool :=
  tag ∈ (row.tags layer).map tagKey

/-- The number of articles that carry a tag in a layer. -/
def articlesWith (layer : KnowledgeTagLayer) (tag : String) : Nat :=
  (articlesInScope cache).countP fun article => article.2.carries layer tag

/-- The number of articles that carry a tag in any layer. -/
def articlesWithAny (tag : String) : Nat :=
  (articlesInScope cache).countP fun article =>
    KnowledgeTagLayer.all.any fun layer => article.2.carries layer tag

/-- **The right counts of a layer.** -/
def LayerRight (layer : KnowledgeTagLayer) (minCount : Nat) : Prop :=
  ∃ summaries, listKnowledgeTags cache (some layer) minCount = .ok summaries ∧
    ∀ summary, summary ∈ summaries ↔ summary.tag ≠ "" ∧
      summary.count = articlesWith cache layer summary.tag ∧ 0 < summary.count ∧
      i64OfUsize minCount ≤ summary.count ∧
      summary.layers = [layer]

/-- **The right counts of all layers**, with the layers in which some article carries the tag. -/
def AllRight (minCount : Nat) : Prop :=
  ∃ summaries, listKnowledgeTags cache none minCount = .ok summaries ∧
    ∀ summary, summary ∈ summaries ↔ summary.tag ≠ "" ∧
      summary.count = articlesWithAny cache summary.tag ∧ 0 < summary.count ∧
      i64OfUsize minCount ≤ summary.count ∧
      summary.layers = KnowledgeTagLayer.all.filter fun layer =>
        0 < articlesWith cache layer summary.tag

/-- No article lists a tag twice in a layer, unless the layer has fewer elements of it than are
asked for. -/
def ListedOnce (layer : KnowledgeTagLayer) (minCount : Nat) : Prop :=
  ∀ tag, tag ≠ "" →
    (∀ article ∈ articlesInScope cache, ((article.2.tags layer).map tagKey).count tag ≤ 1) ∨
    (((tagRows cache layer).map Prod.snd).count tag : Int) < i64OfUsize minCount

end Promise

/-! ## Counting -/

variable {minCount : Nat}

theorem mem_countTags {rows : List (String × String)} {row : TagCount} :
    row ∈ countTags rows minCount ↔
      row.tag ≠ "" ∧ row.articleCount = (rows.map Prod.snd).count row.tag ∧
        0 < row.articleCount ∧ i64OfUsize minCount ≤ row.articleCount := by
  unfold countTags
  simp only [List.mem_mergeSort, List.mem_filter, List.mem_map, List.mem_dedup, decide_eq_true_eq]
  constructor
  · rintro ⟨⟨tag, ⟨hmem, htag⟩, rfl⟩, hcount⟩
    have hfilter : ((rows.map Prod.snd).filter (· ≠ "")).count tag =
        (rows.map Prod.snd).count tag := List.count_filter (by simpa using htag)
    refine ⟨htag, hfilter, ?_, hcount⟩
    show 0 < ((rows.map Prod.snd).filter (· ≠ "")).count tag
    rw [hfilter]
    exact List.count_pos_iff.mpr (List.mem_map.mpr hmem)
  · rintro ⟨htag, hcount, hpos, hrange⟩
    have hfilter : ((rows.map Prod.snd).filter (· ≠ "")).count row.tag =
        (rows.map Prod.snd).count row.tag := List.count_filter (by simpa using htag)
    rw [hcount] at hpos
    obtain ⟨pair, hpair, heq⟩ := List.mem_map.mp (List.count_pos_iff.mp hpos)
    refine ⟨⟨row.tag, ⟨⟨pair, hpair, heq⟩, htag⟩, ?_⟩, hrange⟩
    cases row
    simp only [TagCount.mk.injEq, true_and]
    rw [hfilter]
    exact hcount.symm

/-- The elements of a layer that are one tag, article by article. -/
theorem count_tagRows (cache : ArticleCache) (layer : KnowledgeTagLayer) (tag : String) :
    ((tagRows cache layer).map Prod.snd).count tag = ((articlesInScope cache).map fun article =>
        ((article.2.tags layer).map tagKey).count tag).sum := by
  unfold tagRows
  induction articlesInScope cache with
  | nil => rfl
  | cons article articles ih =>
    rw [List.flatMap_cons, List.map_append, List.count_append, ih, List.map_cons, List.sum_cons,
      List.map_map]
    rfl

/-- A list of counts sums up to the number of positive ones exactly when none is above one. -/
theorem sum_eq_countP {α : Type} (f : α → Nat) (l : List α) :
    l.countP (fun a => 0 < f a) ≤ (l.map f).sum ∧
      ((l.map f).sum = l.countP (fun a => 0 < f a) ↔ ∀ a ∈ l, f a ≤ 1) := by
  induction l with
  | nil => simp
  | cons a l ih =>
    obtain ⟨hle, hiff⟩ := ih
    rw [List.map_cons, List.sum_cons, List.countP_cons]
    refine ⟨?_, ?_⟩
    · split <;> simp_all <;> omega
    · rw [List.forall_mem_cons, ← hiff]
      by_cases ha : 0 < f a
      · simp only [ha, decide_true, if_true]
        omega
      · simp only [ha, decide_false]
        simp only [Bool.false_eq_true, if_false]
        omega

theorem carries_eq (row : KnowledgeArticleRow) (layer : KnowledgeTagLayer) (tag : String) :
    row.carries layer tag = decide (0 < ((row.tags layer).map tagKey).count tag) := by
  simp [KnowledgeArticleRow.carries, List.count_pos_iff]

theorem articlesWith_eq (cache : ArticleCache) (layer : KnowledgeTagLayer) (tag : String) :
    articlesWith cache layer tag = (articlesInScope cache).countP
      fun article => 0 < ((article.2.tags layer).map tagKey).count tag :=
  List.countP_congr fun article _ => by rw [carries_eq]

/-- The elements of a layer number the articles of a tag exactly when no article lists it
twice. -/
theorem count_tagRows_eq_iff (cache : ArticleCache) (layer : KnowledgeTagLayer) (tag : String) :
    articlesWith cache layer tag ≤ ((tagRows cache layer).map Prod.snd).count tag ∧
      (((tagRows cache layer).map Prod.snd).count tag = articlesWith cache layer tag ↔
        ∀ article ∈ articlesInScope cache, ((article.2.tags layer).map tagKey).count tag ≤ 1) := by
  rw [count_tagRows, articlesWith_eq]
  exact sum_eq_countP _ _

/-- **The counts of a layer are right exactly when no article lists a tag twice.** -/
theorem layerRight_iff (cache : ArticleCache) (layer : KnowledgeTagLayer) (hmin : 0 < minCount) :
    LayerRight cache layer minCount ↔ ListedOnce cache layer minCount := by
  have hlist : listKnowledgeTags cache (some layer) minCount =
      .ok ((storeTags cache layer minCount).map fun row => ⟨row.tag, row.articleCount, [layer]⟩) := by
    rw [listKnowledgeTags, if_neg (by omega)]
  have hmem : ∀ summary : KnowledgeTagSummary, summary ∈ (storeTags cache layer minCount).map
          (fun row => ⟨row.tag, row.articleCount, [layer]⟩) ↔
        summary.tag ≠ "" ∧ summary.count = ((tagRows cache layer).map Prod.snd).count summary.tag ∧
          0 < summary.count ∧ i64OfUsize minCount ≤ summary.count ∧ summary.layers = [layer] := by
    intro summary
    rw [List.mem_map]
    constructor
    · rintro ⟨row, hrow, rfl⟩
      obtain ⟨htag, hcount, hpos, hrange⟩ := mem_countTags.mp hrow
      exact ⟨htag, hcount, hpos, hrange, rfl⟩
    · rintro ⟨htag, hcount, hpos, hrange, hlayers⟩
      refine ⟨⟨summary.tag, summary.count⟩, mem_countTags.mpr ⟨htag, hcount, hpos, hrange⟩, ?_⟩
      cases summary
      simp_all
  constructor
  · rintro ⟨summaries, hsummaries, hright⟩ tag htag
    rw [hlist] at hsummaries
    cases hsummaries
    generalize hcount : ((tagRows cache layer).map Prod.snd).count tag = count
    by_cases hfew : (count : Int) < i64OfUsize minCount
    · exact .inr hfew
    · refine .inl ((count_tagRows_eq_iff cache layer tag).2.mp ?_)
      rcases Nat.eq_zero_or_pos count with hzero | hpos
      · have hle := (count_tagRows_eq_iff cache layer tag).1
        omega
      · rw [hcount]
        exact ((hright ⟨tag, count, [layer]⟩).mp
          ((hmem _).mpr ⟨htag, hcount.symm, hpos, Int.not_lt.mp hfew, rfl⟩)).2.1
  · intro h
    refine ⟨_, hlist, fun summary => ?_⟩
    rw [hmem]
    refine and_congr_right fun htag => ?_
    obtain ⟨hle, hiff⟩ := count_tagRows_eq_iff cache layer summary.tag
    rcases h summary.tag htag with honce | hfew
    · rw [hiff.mpr honce]
    · constructor
      · rintro ⟨hcount, -, hrange, -⟩
        omega
      · rintro ⟨hcount, -, hrange, -⟩
        omega

/-! ## All layers -/

theorem articlesInScope_nodup (cache : ArticleCache) :
    ((articlesInScope cache).map Prod.fst).Nodup := by
  have hsub : ∀ rows : List RecordRow, (((rows.filter (·.inScope)).filterMap fun row =>
        (cache.articles.row row.sysId).map fun article => (row.sysId, article)).map
          Prod.fst).Sublist (rows.map RecordRow.sysId) := by
    intro rows
    induction rows with
    | nil => exact List.Sublist.refl _
    | cons row rows ih =>
      rw [List.filter_cons, List.map_cons]
      split
      · rw [List.filterMap_cons]
        cases cache.articles.row row.sysId with
        | none => exact ih.trans (List.sublist_cons_self _ _)
        | some article => exact ih.cons_cons _
      · exact ih.trans (List.sublist_cons_self _ _)
  exact (hsub cache.records.rows).nodup cache.records.keys

theorem mem_tagRows {cache : ArticleCache} {layer : KnowledgeTagLayer} {sysId tag : String} :
    (sysId, tag) ∈ tagRows cache layer ↔
      ∃ article ∈ articlesInScope cache, article.1 = sysId ∧ article.2.carries layer tag = true := by
  unfold tagRows KnowledgeArticleRow.carries
  simp only [List.mem_flatMap, List.mem_map, Prod.mk.injEq, decide_eq_true_eq]
  constructor
  · rintro ⟨article, harticle, element, helement, hid, htag⟩
    exact ⟨article, harticle, hid, element, helement, htag⟩
  · rintro ⟨article, harticle, hid, element, helement, htag⟩
    exact ⟨article, harticle, element, helement, hid, htag⟩

theorem mem_unionRows {cache : ArticleCache} {sysId tag : String} :
    (sysId, tag) ∈ unionRows cache ↔ ∃ article ∈ articlesInScope cache, article.1 = sysId ∧
        (KnowledgeTagLayer.all.any fun layer => article.2.carries layer tag) = true := by
  unfold unionRows
  simp only [List.mem_dedup, List.mem_append, mem_tagRows, KnowledgeTagLayer.all, List.any_cons,
    List.any_nil, Bool.or_false, Bool.or_eq_true]
  constructor
  · rintro ((⟨article, h, hid, hc⟩ | ⟨article, h, hid, hc⟩) | ⟨article, h, hid, hc⟩)
    · exact ⟨article, h, hid, .inl hc⟩
    · exact ⟨article, h, hid, .inr (.inl hc)⟩
    · exact ⟨article, h, hid, .inr (.inr hc)⟩
  · rintro ⟨article, h, hid, hc | hc | hc⟩
    · exact .inl (.inl ⟨article, h, hid, hc⟩)
    · exact .inl (.inr ⟨article, h, hid, hc⟩)
    · exact .inr ⟨article, h, hid, hc⟩

/-- `UNION` leaves one row for each article that carries a tag in some layer. -/
theorem count_unionRows (cache : ArticleCache) (tag : String) :
    ((unionRows cache).map Prod.snd).count tag = articlesWithAny cache tag := by
  have hleft : ((unionRows cache).map Prod.snd).count tag =
      (((unionRows cache).filter (·.2 = tag)).map Prod.fst).length := by
    rw [List.count, List.countP_map, List.length_map, ← List.countP_eq_length_filter]
    exact List.countP_congr fun pair _ => by simp
  have hright : articlesWithAny cache tag = (((articlesInScope cache).filter fun article =>
        KnowledgeTagLayer.all.any fun layer => article.2.carries layer tag).map Prod.fst).length := by
    rw [List.length_map, ← List.countP_eq_length_filter]
    rfl
  rw [hleft, hright]
  refine List.Perm.length_eq ((List.perm_ext_iff_of_nodup ?_ ?_).mpr fun sysId => ?_)
  · refine List.Nodup.map_on ?_ ((List.nodup_dedup _).filter _)
    rintro ⟨a, s⟩ ha ⟨b, t⟩ hb heq
    have hs : s = tag := by simpa using (List.mem_filter.mp ha).2
    have ht : t = tag := by simpa using (List.mem_filter.mp hb).2
    rw [hs, ht]
    exact congrArg (·, tag) heq
  · exact (List.filter_sublist.map Prod.fst).nodup (articlesInScope_nodup cache)
  · simp only [List.mem_map, List.mem_filter, decide_eq_true_eq]
    constructor
    · rintro ⟨⟨id, t⟩, ⟨hmem, rfl⟩, rfl⟩
      obtain ⟨article, harticle, hid, hany⟩ := mem_unionRows.mp hmem
      exact ⟨article, ⟨harticle, hany⟩, hid⟩
    · rintro ⟨article, ⟨harticle, hany⟩, rfl⟩
      exact ⟨(article.1, tag), ⟨mem_unionRows.mpr ⟨article, harticle, rfl, hany⟩, rfl⟩, rfl⟩

theorem articlesWith_pos_iff (cache : ArticleCache) (layer : KnowledgeTagLayer) (tag : String) :
    0 < articlesWith cache layer tag ↔ 0 < ((tagRows cache layer).map Prod.snd).count tag := by
  rw [articlesWith, List.countP_pos_iff, List.count_pos_iff, List.mem_map]
  constructor
  · rintro ⟨article, harticle, hcarries⟩
    exact ⟨(article.1, tag), mem_tagRows.mpr ⟨article, harticle, rfl, hcarries⟩, rfl⟩
  · rintro ⟨⟨sysId, t⟩, hmem, rfl⟩
    obtain ⟨article, harticle, -, hcarries⟩ := mem_tagRows.mp hmem
    exact ⟨article, harticle, hcarries⟩

/-- An article that carries a tag in a layer carries it in some layer. -/
theorem articlesWith_le_any (cache : ArticleCache) (layer : KnowledgeTagLayer) (tag : String) :
    articlesWith cache layer tag ≤ articlesWithAny cache tag := by
  refine List.countP_mono_left fun article _ hcarries => List.any_eq_true.mpr ⟨layer, ?_, hcarries⟩
  cases layer <;> simp [KnowledgeTagLayer.all]

/-- **The counts of all layers are right.** -/
theorem allRight (cache : ArticleCache) (hmin : 0 < minCount) : AllRight cache minCount := by
  refine ⟨_, by rw [listKnowledgeTags, if_neg (by omega)], fun summary => ?_⟩
  have hlayers : ∀ tag, tag ≠ "" → (KnowledgeTagLayer.all.filter fun layer =>
        tag ∈ (storeTags cache layer 1).map TagCount.tag) =
      KnowledgeTagLayer.all.filter fun layer => 0 < articlesWith cache layer tag := by
    intro tag htag
    refine List.filter_congr fun layer _ => ?_
    rw [decide_eq_decide, articlesWith_pos_iff, List.mem_map]
    constructor
    · rintro ⟨row, hrow, rfl⟩
      obtain ⟨-, hcount, hpos, -⟩ := mem_countTags.mp hrow
      omega
    · intro hpos
      refine ⟨⟨tag, _⟩, mem_countTags.mpr ⟨htag, rfl, hpos, ?_⟩, rfl⟩
      exact Int.ofNat_le.mpr hpos
  rw [List.mem_map]
  constructor
  · rintro ⟨row, hrow, rfl⟩
    obtain ⟨htag, hcount, hpos, hrange⟩ := mem_countTags.mp hrow
    rw [count_unionRows] at hcount
    exact ⟨htag, hcount, hpos, hrange, hlayers row.tag htag⟩
  · rintro ⟨htag, hcount, hpos, hrange, heq⟩
    refine ⟨⟨summary.tag, summary.count⟩, mem_countTags.mpr ⟨htag, ?_, hpos, hrange⟩, ?_⟩
    · rw [count_unionRows]
      exact hcount
    · cases summary
      simp only at heq ⊢
      rw [hlayers _ htag, heq]

/-- **When tag counts count articles**: the counts of all layers always do; those of a layer do
exactly when no article lists a tag twice in it, or the layer has too few elements of the tag to
be reported. -/
theorem tag_counts_right_iff (cache : ArticleCache) (minCount : Nat) (hmin : 0 < minCount) :
    (AllRight cache minCount ∧
      (∀ layer tag, articlesWith cache layer tag ≤ articlesWithAny cache tag) ∧
      ∀ layer, LayerRight cache layer minCount) ↔
    ∀ layer, ListedOnce cache layer minCount := by
  constructor
  · intro h layer
    exact (layerRight_iff cache layer hmin).mp (h.2.2 layer)
  · intro h
    exact ⟨allRight cache hmin, fun layer tag => articlesWith_le_any cache layer tag,
      fun layer => (layerRight_iff cache layer hmin).mpr (h layer)⟩

/-- A cache of one article with tags of ServiceNow. -/
def taggedCache (tags : List String) : ArticleCache where
  records :=
    { rows := [{ sysId := "id-1", number := "KB0000001", tableName := "kb_knowledge"
                 resourceType := .knowledge, state := none, shortDesc := none, description := none
                 filePath := none, syncedAt := newYear, inScope := true, rawJson := .null }]
      keys := List.nodup_singleton _ }
  articles := Table.empty.put "id-1" ⟨none, normalizeTagLayer tags, [], [], false⟩
  files := Table.empty

/-- Different tags are counted right. -/
theorem different_tags_count_once :
    AllRight (taggedCache ["VPN", "Access"]) 1 ∧
      (∀ layer tag, articlesWith (taggedCache ["VPN", "Access"]) layer tag ≤
        articlesWithAny (taggedCache ["VPN", "Access"]) tag) ∧
      ∀ layer, LayerRight (taggedCache ["VPN", "Access"]) layer 1 := by
  refine (tag_counts_right_iff _ 1 Nat.one_pos).mpr fun layer tag _ =>
    .inl fun article harticle => ?_
  have hnodup : ∀ article ∈ articlesInScope (taggedCache ["VPN", "Access"]),
      ((article.2.tags layer).map tagKey).Nodup := by
    cases layer <;> decide
  exact List.nodup_iff_count_le_one.mp (hnodup article harticle) tag

/-- **Two spellings of a tag in one article are counted as two articles.** -/
theorem case_variants_count_twice : ¬ LayerRight (taggedCache ["VPN", "vpn"]) .sn 1 := by
  rw [layerRight_iff _ _ Nat.one_pos]
  intro honce
  have htwice : ((tagRows (taggedCache ["VPN", "vpn"]) .sn).map Prod.snd).count "vpn" = 2 := by
    decide
  rcases honce "vpn" (by decide) with hone | hfew
  · revert hone
    decide
  · rw [htwice] at hfew
    revert hfew
    decide

end SnowAgent.Knowledge
