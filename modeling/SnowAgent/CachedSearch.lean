import SnowAgent.NarrowedProducts

/-! # What the cached search answers

The rows that a cached search answers are those whose name or short description stands for the
pattern.  For a text without the characters that LIKE reads as something else, these are the rows
that contain the text; each of these characters lets a product in that does not.  A blank text makes
a pattern that stands for everything.
-/
namespace SnowAgent.Catalog

open Json Text Core Program Knowledge LikePatterns

/-- Whether a text contains another one, ignoring the case of ASCII letters. -/
def containsFolded (text query : String) : Bool :=
  contains (toAsciiLowercase text) (toAsciiLowercase query)

/-- Whether a product has the text in its name or in its short description. -/
def concerns (query : String) (row : CatalogProductRow) : Bool :=
  containsFolded row.item.name query || containsFolded row.item.shortDescription query

/-- The rows that a search for a text should answer: none for a blank text, else products that
contain the trimmed text, and as many of them as the limit lets through. -/
structure LiteralAnswer (query : String) (limit : Nat) (products : NarrowedProducts)
    (rows : List CatalogProductRow) : Prop where
  blank : trim query = "" → rows = []
  sound : trim query ≠ "" → ∀ row ∈ rows, row ∈ products.rows ∧ concerns (trim query) row = true
  nodup : rows.Nodup
  all : trim query ≠ "" → rows.length = min limit (products.rows.countP (concerns (trim query)))

/-- The texts of the products are texts: no character of theirs is zero. -/
def Textual (products : NarrowedProducts) : Prop :=
  ∀ row ∈ products.rows, '\x00' ∉ row.item.name.toList ∧ '\x00' ∉ row.item.shortDescription.toList

/-- A text is searched as it stands: it is not blank, it has no character that means something else
in a pattern, and its pattern is not too long. -/
structure LiteralQuery (query : String) : Prop where
  nonblank : trim query ≠ ""
  plain : Plain '%' '_' (trim query).toList
  textual : '\x00' ∉ (trim query).toList
  short : (trim query).utf8ByteSize + 2 ≤ 50000

/-! ## Reading the pattern -/

variable {query : String} {row : CatalogProductRow}

theorem lowerChar_eq_iff {c d : Char} (hd : d.toNat < 65 ∨ 90 < d.toNat ∧ d.toNat < 97) :
    lowerChar c = d ↔ c = d := by
  rcases lowerChar_cases c with h | ⟨⟨hlow, hhigh⟩, hlow', hhigh'⟩
  · rw [h]
  · constructor
    · rintro rfl
      omega
    · rintro rfl
      omega

theorem cText_lower {s : String} (h : '\x00' ∉ s.toList) :
    cText (toAsciiLowercase s) = s.toList.map lowerChar := by
  rw [cText, toAsciiLowercase, String.toList_ofList, List.takeWhile_eq_self_iff]
  intro c hc
  obtain ⟨d, hd, rfl⟩ := List.mem_map.mp hc
  refine decide_eq_true fun hzero => h ?_
  rwa [← (lowerChar_eq_iff (by decide)).mp hzero]

theorem plain_lower {cs : List Char} : Plain '%' '_' (cs.map lowerChar) ↔ Plain '%' '_' cs := by
  simp only [Plain, List.forall_mem_map, ne_eq, lowerChar_eq_iff (d := '%') (by decide),
    lowerChar_eq_iff (d := '_') (by decide)]

theorem map_lower_lower (cs : List Char) :
    (cs.map lowerChar).map lowerChar = cs.map lowerChar := by
  rw [List.map_map]
  exact List.map_congr_left fun c _ => lowerChar_lowerChar c

theorem containsFolded_iff {text query : String} :
    containsFolded text query = true ↔
      query.toList.map lowerChar <:+: text.toList.map lowerChar := by
  rw [containsFolded, contains, containsChars_iff, toAsciiLowercase, toAsciiLowercase,
    String.toList_ofList, String.toList_ofList]

/-- A literal text is found by LIKE where it is contained. -/
theorem sqlLike_literal {text query : String} (h : LiteralQuery query)
    (htext : '\x00' ∉ text.toList) :
    sqlLike text ("%" ++ trim query ++ "%") = .ok (containsFolded text (trim query)) := by
  have hsize : ¬ 50000 < ("%" ++ trim query ++ "%").utf8ByteSize := by
    have hone : ("%" : String).utf8ByteSize = 1 := rfl
    have hshort := h.short
    rw [String.utf8ByteSize_append, String.utf8ByteSize_append, hone]
    omega
  have hzero : '\x00' ∉ ("%" ++ trim query ++ "%").toList := by
    have := h.textual
    simpa using this
  have hpattern : cText (toAsciiLowercase ("%" ++ trim query ++ "%")) =
      '%' :: ((trim query).toList.map lowerChar ++ ['%']) := by
    rw [cText_lower hzero]
    simp [lowerChar]
  rw [sqlLike, if_neg hsize, hpattern, cText_lower htext, Except.ok.injEq, Bool.eq_iff_iff,
    like_around (plain_lower.mpr h.plain), map_lower_lower, map_lower_lower, containsFolded_iff]

theorem rowLike_literal (h : LiteralQuery query) (hname : '\x00' ∉ row.item.name.toList)
    (hshort : '\x00' ∉ row.item.shortDescription.toList) :
    rowLike ("%" ++ trim query ++ "%") row = .ok (concerns (trim query) row) := by
  rw [rowLike, sqlLike_literal h hname, sqlLike_literal h hshort, concerns]
  rcases containsFolded row.item.name (trim query) with _ | _ <;> rfl

theorem rowsWhere_eq {condition : CatalogProductRow → Except String Bool}
    {keeps : CatalogProductRow → Bool} {rows : List CatalogProductRow}
    (h : ∀ row ∈ rows, condition row = .ok (keeps row)) :
    rowsWhere condition rows = .ok (rows.filter keeps) := by
  induction rows with
  | nil => rfl
  | cons row rows step =>
    rw [rowsWhere, h row List.mem_cons_self, step fun r hr => h r (List.mem_cons_of_mem _ hr),
      List.filter_cons]
    rfl

/-- **A literal text** is answered as it should be. -/
theorem searchNarrowed_literal {products : NarrowedProducts} (limit : Nat) (h : LiteralQuery query)
    (htexts : Textual products) :
    ∃ rows, searchNarrowedCatalogProducts query limit products = .ok rows ∧
      LiteralAnswer query limit products rows := by
  have hfound : rowsWhere (rowLike ("%" ++ trim query ++ "%")) products.rows =
      .ok (products.rows.filter (concerns (trim query))) :=
    rowsWhere_eq fun row hrow => rowLike_literal h (htexts row hrow).1 (htexts row hrow).2
  refine ⟨((products.rows.filter (concerns (trim query))).mergeSort productLe).take limit, ?_, ?_⟩
  · rw [searchNarrowedCatalogProducts, hfound]
    rfl
  have hperm := List.mergeSort_perm (products.rows.filter (concerns (trim query))) productLe
  refine ⟨fun hblank => absurd hblank h.nonblank, fun _ row hrow => ?_, ?_, fun _ => ?_⟩
  · exact List.mem_filter.mp (hperm.mem_iff.mp (List.mem_of_mem_take hrow))
  · refine ((hperm.nodup_iff.mpr ?_).sublist (List.take_sublist _ _))
    exact (List.Nodup.of_map _ products.nodup).sublist List.filter_sublist
  · rw [List.length_take, hperm.length_eq, List.countP_eq_length_filter]

/-! ## Texts that are not literal -/

variable {shortDescription : String} {t : DateTime}

/-- A product of a name and a short description. -/
def plainProduct (name shortDescription : String) : CatalogItem where
  sysId := "1"
  name := name
  shortDescription := shortDescription
  table := "sc_cat_item"
  variableList := []

/-- The cache of one product. -/
def productsOf (shortDescription : String) : NarrowedProducts :=
  NarrowedProducts.empty.upsertNarrowedCatalogProduct (plainProduct "Item" shortDescription) 0

theorem productsOf_rows (shortDescription : String) :
    (productsOf shortDescription).rows = [⟨plainProduct "Item" shortDescription, 0⟩] := rfl

theorem productsOf_textual (h : '\x00' ∉ shortDescription.toList) :
    Textual (productsOf shortDescription) := by
  intro row hrow
  rw [productsOf_rows, List.mem_singleton] at hrow
  subst hrow
  refine ⟨?_, h⟩
  show '\x00' ∉ ("Item" : String).toList
  decide

/-- A pattern that is too long is refused. -/
theorem searchNarrowed_long {limit : Nat} (h : 50000 < (trim query).utf8ByteSize + 2) :
    searchNarrowedCatalogProducts query limit (productsOf shortDescription) =
      .error "LIKE or GLOB pattern too complex" := by
  have hsize : 50000 < ("%" ++ trim query ++ "%").utf8ByteSize := by
    have hone : ("%" : String).utf8ByteSize = 1 := rfl
    rw [String.utf8ByteSize_append, String.utf8ByteSize_append, hone]
    omega
  have hrow : ∀ row, rowLike ("%" ++ trim query ++ "%") row =
      .error "LIKE or GLOB pattern too complex" := by
    intro row
    rw [rowLike, sqlLike, if_pos hsize]
    rfl
  rw [searchNarrowedCatalogProducts, productsOf_rows, rowsWhere, hrow]
  rfl

/-- What SQLite reads of the pattern: the text up to a character that is zero, and the last wildcard
if there is none. -/
theorem cText_pattern (query : String) :
    ∃ tail, (tail = [] ∨ tail = ['%']) ∧ cText (toAsciiLowercase ("%" ++ query ++ "%")) =
        '%' :: ((query.toList.map lowerChar).takeWhile (· ≠ '\x00') ++ tail) := by
  have hchars : (toAsciiLowercase ("%" ++ query ++ "%")).toList =
      '%' :: (query.toList.map lowerChar ++ ['%']) := by
    rw [toAsciiLowercase, String.toList_ofList]
    simp [lowerChar]
  rw [cText, hchars, List.takeWhile_cons_of_pos (by decide), List.takeWhile_append]
  split
  · rename_i hall
    rw [(List.takeWhile_prefix _).eq_of_length hall]
    exact ⟨['%'], Or.inr rfl, rfl⟩
  · exact ⟨[], Or.inl rfl, by rw [List.append_nil]⟩

/-- The text that a pattern stands for, in lower case. -/
def sampleText (query : String) : String :=
  String.ofList (sample '%' '_' 'x' ((query.toList.map lowerChar).takeWhile (· ≠ '\x00')))

theorem sampleText_plain (query : String) : Plain '%' '_' (sampleText query).toList := by
  rw [sampleText, String.toList_ofList]
  exact sample_plain (by decide)

theorem sampleText_textual (query : String) : '\x00' ∉ (sampleText query).toList := by
  rw [sampleText, String.toList_ofList]
  intro hzero
  rcases mem_sample hzero with h | h
  · exact absurd h (by decide)
  · have hne := List.mem_takeWhile_imp h
    exact of_decide_eq_true hne rfl

theorem sampleText_lower (query : String) :
    (sampleText query).toList.map lowerChar =
      sample '%' '_' 'x' ((query.toList.map lowerChar).takeWhile (· ≠ '\x00')) := by
  rw [sampleText, String.toList_ofList]
  refine (List.map_congr_left fun c hc => ?_).trans (List.map_id' _)
  rcases mem_sample hc with rfl | h
  · rfl
  · obtain ⟨d, -, rfl⟩ := List.mem_map.mp ((List.takeWhile_sublist _).mem h)
    exact lowerChar_lowerChar d

/-- The pattern stands for it. -/
theorem sqlLike_sample (h : (trim query).utf8ByteSize + 2 ≤ 50000) :
    sqlLike (sampleText (trim query)) ("%" ++ trim query ++ "%") = .ok true := by
  have hsize : ¬ 50000 < ("%" ++ trim query ++ "%").utf8ByteSize := by
    have hone : ("%" : String).utf8ByteSize = 1 := rfl
    rw [String.utf8ByteSize_append, String.utf8ByteSize_append, hone]
    omega
  obtain ⟨tail, htail, hpattern⟩ := cText_pattern (trim query)
  have htail' : like '%' '_' lowerChar tail [] = true := by
    rcases htail with rfl | rfl
    · rfl
    · rfl
  rw [sqlLike, if_neg hsize, hpattern, cText_lower (sampleText_textual _), sampleText_lower,
    Except.ok.injEq, like_many]
  refine ⟨_, List.suffix_rfl, ?_⟩
  have hlike := like_sample_append
    (((trim query).toList.map lowerChar).takeWhile (· ≠ '\x00')) 'x' htail'
  rwa [List.append_nil] at hlike

theorem rowLike_of_short {pattern : String} {name : Bool}
    (hname : sqlLike row.item.name pattern = .ok name)
    (hshort : sqlLike row.item.shortDescription pattern = .ok true) :
    rowLike pattern row = .ok true := by
  rw [rowLike, hname]
  cases name with
  | true => rfl
  | false => exact hshort

theorem rowLike_sample (h : (trim query).utf8ByteSize + 2 ≤ 50000) :
    rowLike ("%" ++ trim query ++ "%") ⟨plainProduct "Item" (sampleText (trim query)), t⟩ =
      .ok true := by
  obtain ⟨name, hname⟩ : ∃ name, sqlLike "Item" ("%" ++ trim query ++ "%") = .ok name := by
    have hsample := sqlLike_sample h
    rw [sqlLike] at hsample ⊢
    split at hsample
    · cases hsample
    · rw [if_neg ‹_›]
      exact ⟨_, rfl⟩
  exact rowLike_of_short hname (sqlLike_sample h)

/-- A product that stands for the pattern is answered. -/
theorem searchNarrowed_one {limit : Nat}
    (h : rowLike ("%" ++ trim query ++ "%") ⟨plainProduct "Item" shortDescription, 0⟩ = .ok true) :
    searchNarrowedCatalogProducts query (limit + 1) (productsOf shortDescription) =
      .ok [⟨plainProduct "Item" shortDescription, 0⟩] := by
  have hfound : rowsWhere (rowLike ("%" ++ trim query ++ "%")) (productsOf shortDescription).rows =
      .ok [⟨plainProduct "Item" shortDescription, 0⟩] := by
    rw [productsOf_rows, rowsWhere, h]
    rfl
  rw [searchNarrowedCatalogProducts, hfound]
  show Except.ok ((List.mergeSort [_] productLe).take (limit + 1)) = _
  rw [List.mergeSort_singleton, List.take_succ_cons, List.take_nil]

/-- It contains no character that means something else in a pattern. -/
theorem concerns_sample
    (h : concerns (trim query) ⟨plainProduct "Item" (sampleText (trim query)), t⟩ = true) :
    Plain '%' '_' (trim query).toList ∧ '\x00' ∉ (trim query).toList := by
  -- the text has only characters of the product
  have hchars : Plain '%' '_' ((trim query).toList.map lowerChar) ∧
      '\x00' ∉ (trim query).toList.map lowerChar := by
    rw [concerns, Bool.or_eq_true, containsFolded_iff, containsFolded_iff] at h
    rcases h with h | h
    · have hitem : Plain '%' '_' (("Item" : String).toList.map lowerChar) ∧
          '\x00' ∉ ("Item" : String).toList.map lowerChar := by
        exact ⟨forall_mem_of_all (by decide), by decide⟩
      exact ⟨fun c hc => hitem.1 c (h.subset hc), fun hzero => hitem.2 (h.subset hzero)⟩
    · refine ⟨fun c hc => plain_lower.mpr (sampleText_plain _) c (h.subset hc), fun hzero => ?_⟩
      obtain ⟨d, hd, heq⟩ := List.mem_map.mp (h.subset hzero)
      rw [(lowerChar_eq_iff (by decide)).mp heq] at hd
      exact sampleText_textual _ hd
  refine ⟨plain_lower.mp hchars.1, fun hzero => hchars.2 ?_⟩
  exact List.mem_map.mpr ⟨'\x00', hzero, rfl⟩

/-! ## The cached and the live search -/

/-- **When the cached search is literal.**  For a text that is not blank, has none of the characters
that mean something else in a pattern and makes a pattern that is not too long, the cached search
answers the products that contain the text, all of them up to the limit; for any other text there
are products for which it does not. -/
theorem cached_search_literal_iff (query : String) :
    (∀ limit products, Textual products →
      ∃ rows, searchNarrowedCatalogProducts query (clampLimit limit) products = .ok rows ∧
        LiteralAnswer query (clampLimit limit) products rows) ↔ LiteralQuery query := by
  refine ⟨fun h => ?_, fun h limit products htexts => searchNarrowed_literal _ h htexts⟩
  obtain ⟨rows, hrows, hanswer⟩ :=
    h 1 (productsOf (sampleText (trim query))) (productsOf_textual (sampleText_textual _))
  have hshort : (trim query).utf8ByteSize + 2 ≤ 50000 := by
    by_contra hlong
    rw [searchNarrowed_long (by omega)] at hrows
    cases hrows
  have hclamp : clampLimit 1 = 1 := rfl
  rw [hclamp, searchNarrowed_one (rowLike_sample hshort), Except.ok.injEq] at hrows
  subst hrows
  have hnonblank : trim query ≠ "" := by
    intro hblank
    have := hanswer.blank hblank
    cases this
  obtain ⟨hplain, hzero⟩ := concerns_sample (hanswer.sound hnonblank _ List.mem_cons_self).2
  exact ⟨hnonblank, hplain, hzero, hshort⟩

/-- A call for a text under a policy that answers from the cache only. -/
def cacheOnlySearch (query : String) : SearchCall where
  query := query
  limit := 10
  rule := ⟨.cacheOnly, none⟩
  now := fun _ => 0
  refreshedAt := 0
  answer := fun _ _ => .ok ⟨[], []⟩
  projects := fun _ => .ok ()
  writes := fun _ => .ok ()

theorem cacheOnlySearch_one
    (h : rowLike ("%" ++ trim query ++ "%") ⟨plainProduct "Item" shortDescription, 0⟩ = .ok true) :
    (catalogItemsSearchEnvelope incidentLib (cacheOnlySearch query) (productsOf shortDescription)).1 =
      .ok ⟨searchOperation, .cache 0, .partialFor .narrowedProjection,
        [plainProduct "Item" shortDescription]⟩ := by
  have hcache : searchCache (cacheOnlySearch query) (productsOf shortDescription) =
      .ok (some ⟨searchOperation, .cache 0, .partialFor .narrowedProjection,
        [plainProduct "Item" shortDescription]⟩) := by
    rw [searchCache, if_neg nofun]
    show (Except.mapError CatalogError.store (searchNarrowedCatalogProducts query (9 + 1) _) >>= _) = _
    rw [searchNarrowed_one h]
    rfl
  rw [catalogItemsSearchEnvelope, hcache]

/-- A blank text is answered with a product from the cache, where the live search answers nothing;
and a text with a percent sign is answered with a product that does not contain it. -/
theorem cached_search_not_literal :
    ((catalogItemsSearchEnvelope incidentLib (cacheOnlySearch " ") (productsOf "x")).1.map
        SearchEnvelope.items = .ok [plainProduct "Item" "x"] ∧
      searchCatalogItemsLive incidentLib (cacheOnlySearch " ") = .ok []) ∧
    (catalogItemsSearchEnvelope incidentLib (cacheOnlySearch "50%") (productsOf "500")).1.map
        SearchEnvelope.items = .ok [plainProduct "Item" "500"] ∧
      concerns "50%" ⟨plainProduct "Item" "500", 0⟩ = false := by
  rw [cacheOnlySearch_one (by rfl), cacheOnlySearch_one (by rfl)]
  exact ⟨⟨rfl, by rfl⟩, rfl, by rfl⟩

end SnowAgent.Catalog
