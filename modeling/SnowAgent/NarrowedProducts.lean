import SnowAgent.CatalogItems
import SnowAgent.Letters
import SnowAgent.LikePatterns

/-! # The search of catalog items

The rows that a live search answers are kept in `catalog_products_narrowed`, and a later search is
answered from them: SQLite looks for the text by LIKE, in a pattern that is made of the text as the
caller gave it.  The live search asks ServiceNow for the items that contain the text.
-/
namespace SnowAgent.Catalog

open Json Text Core Program Knowledge

/-! ## The kept products -/

/-- `catalog_products_narrowed`, one row for a `sys_id`. -/
structure NarrowedProducts where
  rows : List CatalogProductRow
  nodup : (rows.map (·.item.sysId)).Nodup

namespace NarrowedProducts

/-- No product at all. -/
def empty : NarrowedProducts := ⟨[], List.nodup_nil⟩

/-- The rows of the other products. -/
def others (products : NarrowedProducts) (sysId : String) : List CatalogProductRow :=
  products.rows.filter (·.item.sysId ≠ sysId)

theorem others_nodup (products : NarrowedProducts) (sysId : String) :
    ((products.others sysId).map (·.item.sysId)).Nodup :=
  products.nodup.sublist (List.filter_sublist.map _)

/-- `upsert_narrowed_catalog_product`. -/
def upsertNarrowedCatalogProduct (item : CatalogItem) (lastRefreshedAt : DateTime)
    (products : NarrowedProducts) : NarrowedProducts where
  rows := ⟨item, toTs lastRefreshedAt⟩ :: products.others item.sysId
  nodup := by
    rw [List.map_cons, List.nodup_cons]
    refine ⟨fun hmem => ?_, products.others_nodup item.sysId⟩
    obtain ⟨row, hrow, heq⟩ := List.mem_map.mp hmem
    exact of_decide_eq_true (List.mem_filter.mp hrow).2 heq

end NarrowedProducts

/-! ## LIKE -/

/-- What SQLite reads of a text: the characters before the first that is zero. -/
def cText (s : String) : List Char := s.toList.takeWhile (· ≠ '\x00')

/-- `lower(text) LIKE lower(pattern)` of SQLite: both sides are folded, once more by LIKE itself,
and a pattern of more than 50000 bytes is refused. -/
def sqlLike (text pattern : String) : Except String Bool :=
  if 50000 < pattern.utf8ByteSize then .error "LIKE or GLOB pattern too complex"
  else .ok (LikePatterns.like '%' '_' lowerChar (cText (toAsciiLowercase pattern))
    (cText (toAsciiLowercase text)))

/-- Whether a row has the pattern in its name or in its short description. -/
def rowLike (pattern : String) (row : CatalogProductRow) : Except String Bool := do
  if ← sqlLike row.item.name pattern then return true
  else sqlLike row.item.shortDescription pattern

/-- The rows for which a condition holds, if it can be evaluated for all. -/
def rowsWhere (condition : CatalogProductRow → Except String Bool) :
    List CatalogProductRow → Except String (List CatalogProductRow)
  | [] => .ok []
  | row :: rows => do
    let keeps ← condition row
    let kept ← rowsWhere condition rows
    return if keeps then row :: kept else kept

/-- `ORDER BY name, sys_id`. -/
def productLe (a b : CatalogProductRow) : Bool :=
  a.item.name < b.item.name ∨ a.item.name = b.item.name ∧ a.item.sysId ≤ b.item.sysId

/-- `search_narrowed_catalog_products`. -/
def searchNarrowedCatalogProducts (query : String) (limit : Nat) (products : NarrowedProducts) :
    Except String (List CatalogProductRow) := do
  let pattern := "%" ++ trim query ++ "%"
  let found ← rowsWhere (rowLike pattern) products.rows
  return (found.mergeSort productLe).take limit

/-! ## The operation -/

/-- `OperationEnvelope` of the items of a search. -/
structure SearchEnvelope where
  operation : String
  source : Source
  completeness : Completeness
  items : List CatalogItem
deriving DecidableEq

/-- What a call of `catalog_items_search` meets: the rule of the policy, the clock at the look at
each row of the cache and after the read, the answers of ServiceNow to the fields and the conditions
it is asked for, and how the steps that keep an answer go. -/
structure SearchCall where
  query : String
  limit : Nat
  rule : CacheRule
  now : CatalogProductRow → DateTime
  refreshedAt : DateTime
  answer : List String → TableApi → Except SnowApiError QueryResult
  projects : List Record → Except String Unit
  writes : CatalogItem → Except String Unit

def searchOperation : String := "catalog_items_search"

/-- `limit.clamp(1, 50)`. -/
def clampLimit (limit : Nat) : Nat := max 1 (min limit 50)

/-- The rows of ServiceNow that contain the text. -/
def searchQuery (query : String) (limit : Nat) : TableApi :=
  ((((TableApi.new "sc_cat_item" limit).filter (.contains "name" query)).orFilter
    (.contains "short_description" query)).filter (.equals "active" "true"))

/-- `search_catalog_items_live`. -/
def searchCatalogItemsLive (lib : CoreLib) (call : SearchCall) :
    Except CatalogError (List (Record × CatalogItem)) := do
  let query := trim call.query
  if query = "" then return []
  else do
    let result ← (call.answer itemFields (searchQuery query (clampLimit call.limit))).mapError .client
    return result.records.map fun record => (record, catalogItemFromRecord lib record [])

/-- The look into the cache: an answer, or none. -/
def searchCache (call : SearchCall) (products : NarrowedProducts) :
    Except CatalogError (Option SearchEnvelope) :=
  if call.rule.mode = .live then .ok none
  else do
    let cached ← (searchNarrowedCatalogProducts call.query (clampLimit call.limit) products).mapError
      CatalogError.store
    match (cached.map (·.lastRefreshedAt)).min? with
    | some lastRefreshedAt =>
      let fresh := call.rule.ttl.any fun ttl =>
        cached.all fun row => row.lastRefreshedAt + ttl > call.now row
      if call.rule.mode = .cacheOnly ∨ fresh then
        .ok (some ⟨searchOperation, .cache lastRefreshedAt, .partialFor .narrowedProjection,
          cached.map (·.item)⟩)
      else .ok none
    | none =>
      if call.rule.mode = .cacheOnly then .error (.cacheMiss searchOperation object) else .ok none

/-- One item is kept after the others, if that goes well. -/
def keepItem (call : SearchCall) (kept : Except CatalogError Unit × NarrowedProducts)
    (item : CatalogItem) : Except CatalogError Unit × NarrowedProducts :=
  match kept.1, call.writes item with
  | .error err, _ => (.error err, kept.2)
  | .ok (), .error message => (.error (.store message), kept.2)
  | .ok (), .ok () => (.ok (), kept.2.upsertNarrowedCatalogProduct item call.refreshedAt)

/-- What follows a live search: its items are kept under a policy that reads through the cache. -/
def keepItems (call : SearchCall) (live : List (Record × CatalogItem)) (products : NarrowedProducts) :
    Except CatalogError Unit × NarrowedProducts :=
  if call.rule.mode = .readThrough ∧ live ≠ [] then
    match call.projects (live.map Prod.fst) with
    | .error message => (.error (.store message), products)
    | .ok () => (live.map Prod.snd).foldl (keepItem call) (.ok (), products)
  else (.ok (), products)

/-- `catalog_items_search_envelope`: the answer and the cache after it. -/
def catalogItemsSearchEnvelope (lib : CoreLib) (call : SearchCall) (products : NarrowedProducts) :
    Except CatalogError SearchEnvelope × NarrowedProducts :=
  match searchCache call products with
  | .error err => (.error err, products)
  | .ok (some cached) => (.ok cached, products)
  | .ok none =>
    match searchCatalogItemsLive lib call with
    | .error err => (.error err, products)
    | .ok live =>
      let kept := keepItems call live products
      (kept.1.map fun () =>
        ⟨searchOperation, .live, .partialFor .narrowedProjection, live.map Prod.snd⟩, kept.2)

end SnowAgent.Catalog
