import SnowAgent.CatalogCompleteness
import SnowAgent.Runs

/-! # Runs of catalog calls

The complete items of the cache are written by calls and removed with pruned records.  When
every call of a run is decided, the cache holds only items that were complete when a call of
the run read them, and every answer labelled complete is such an item.
-/
namespace SnowAgent.Catalog

open Json Text Core Program Knowledge

variable {lib : CoreLib} {provider : CatalogProvider lib}

/-! ## Runs -/

variable (lib provider) in
/-- What happens to the complete items of the cache: calls, and the removal of the items of a
record that is pruned. -/
inductive Op where
  | get (call : Served lib provider)
  | delete (sysId : String)

variable {ops : List (Op lib provider)} {products : CatalogProducts}

/-- One step of a run. -/
def Op.step : Op lib provider → CatalogProducts → CatalogProducts
  | get call, products => (catalogItemGetEnvelope lib call.toCall products).2.2
  | delete sysId, products => deleteCatalogProductProjections sysId products

/-- Every call is decided. -/
def Op.Allowed (products : CatalogProducts) : Op lib provider → Prop
  | get call => Decided lib call.toCall products
  | delete _ => True

/-- The items of the cache are genuine items of calls made before. -/
def AllGenuine (ops : List (Op lib provider)) (products : CatalogProducts) : Prop :=
  ∀ sysId row, products.row sysId = some row →
    row.item.sysId = sysId ∧ ∃ call, .get call ∈ ops ∧ Genuine call row.item

theorem allGenuine_step {op : Op lib provider} (h : AllGenuine ops products)
    (hop : op.Allowed products) :
    AllGenuine (ops ++ [op]) (op.step products) := by
  intro sysId row hrow
  have hbefore : products.row sysId = some row →
      row.item.sysId = sysId ∧ ∃ call, .get call ∈ ops ++ [op] ∧ Genuine call row.item := by
    intro hrow
    obtain ⟨hkey, call, hcall, hitem⟩ := h sysId row hrow
    exact ⟨hkey, call, List.mem_append_left _ hcall, hitem⟩
  by_cases hold : products.row sysId = some row
  · exact hbefore hold
  cases op with
  | get call =>
    simp only [Op.step] at hrow
    have hhonest : Honest call products := honest_iff.mpr hop
    obtain ⟨hkey, hitem⟩ := hhonest.2 sysId row hrow hold
    exact ⟨hkey, call, List.mem_append_right _ (List.mem_singleton_self _), hitem⟩
  | delete deleted =>
    by_cases heq : sysId = deleted
    · subst heq
      simp [Op.step, deleteCatalogProductProjections] at hrow
    · refine absurd ?_ hold
      simpa only [Op.step, deleteCatalogProductProjections, Table.row_delete_of_ne _ heq]
        using hrow

theorem run_allGenuine
    (h : Runs.Run Op.step Op.Allowed Table.empty ops products) : AllGenuine ops products := by
  refine h.invariant ?_ fun ops s op _ hinv hop => allGenuine_step hinv hop
  intro sysId row hrow
  cases hrow

/-- What a decided call answers is a genuine item of that call or of one before. -/
theorem answer_genuine (hrun : Runs.Run Op.step Op.Allowed Table.empty ops products)
    {call : Served lib provider}
    (hcall : Decided lib call.toCall products) {envelope : OperationEnvelope}
    (hanswer : (catalogItemGetEnvelope lib call.toCall products).2.1 = .ok envelope)
    (hcomplete : envelope.completeness = .complete) :
    normalizeRecordLookupSysId call.sysId = .ok envelope.item.sysId ∧
      ∃ call', .get call' ∈ ops ++ [.get call] ∧ Genuine call' envelope.item := by
  by_cases hlive : envelope.source = .live
  · have hitem := (honest_iff.mpr hcall).1 envelope hanswer hlive hcomplete
    exact ⟨hitem.1, call, List.mem_append_right _ (List.mem_singleton_self _), hitem⟩
  · obtain ⟨sysId, row, hid, hrow, hitem⟩ := envelope_cached hanswer hlive
    obtain ⟨hkey, call', hmem, hgenuine⟩ := run_allGenuine hrun sysId row hrow
    rw [hitem, hkey]
    exact ⟨hid, call', List.mem_append_left _ hmem, hgenuine⟩

/-- **When catalog items reported complete are complete**: a call keeps its promise exactly when it
is decided; and in a run whose calls are all decided, what the cache holds, and what a call
answers as complete, was read in whole by a call of the run, and was complete then. -/
theorem catalog_item_complete_when_decided (lib : CoreLib) (provider : CatalogProvider lib) :
    (∀ (call : Served lib provider) products,
      Honest call products ↔ Decided lib call.toCall products) ∧
    ∀ (ops : List (Op lib provider)) products,
      Runs.Run Op.step Op.Allowed Table.empty ops products →
      AllGenuine ops products ∧
      ∀ call : Served lib provider, Decided lib call.toCall products → ∀ envelope,
        (catalogItemGetEnvelope lib call.toCall products).2.1 = .ok envelope →
        envelope.completeness = .complete →
        normalizeRecordLookupSysId call.sysId = .ok envelope.item.sysId ∧
          ∃ call', .get call' ∈ ops ++ [.get call] ∧ Genuine call' envelope.item :=
  ⟨fun _ _ => honest_iff, fun _ _ hrun => ⟨run_allGenuine hrun,
    fun _ hcall _ hanswer hcomplete => answer_genuine hrun hcall hanswer hcomplete⟩⟩

/-! ## A laptop -/

def laptopId : String := "0123456789abcdef0123456789abcdef"

def laptopSet : String := "11111111111111111111111111111111"

/-- A row whose fields show their values. -/
def shownRow (sysId table : String) (fields : List (String × String)) : Record :=
  ⟨sysId, table, fields.map fun field => (field.1, ⟨some (.string field.2), some field.2⟩)⟩

/-- Compares what is shown. -/
def shownProvider : CatalogProvider incidentLib where
  holds
    | .equals field value, row => recordFieldRawOrDisplay incidentLib row field == some value
    | .inList field values, row => values.any fun value =>
      recordFieldRawOrDisplay incidentLib row field == some value
    | _, _ => false
  inList _ _ _ _ := rfl
  shows _ _ _ h := eq_of_beq h

def laptopVariables : List Record :=
  [shownRow "22222222222222222222222222222222" "item_option_new"
    [("name", "model"), ("cat_item", laptopId), ("active", "true")],
   shownRow "33333333333333333333333333333333" "item_option_new"
    [("name", "reason"), ("variable_set", laptopSet), ("active", "true")]]

def laptopLinks : List Record :=
  [shownRow "44444444444444444444444444444444" "io_set_item"
    [("sc_cat_item", laptopId), ("variable_set", laptopSet)]]

def laptopChoices : List Record :=
  [shownRow "55555555555555555555555555555555" "question_choice"
    [("question", "33333333333333333333333333333333"), ("value", "new"), ("text", "New hire")]]

/-- A laptop with a variable of its own and one of a variable set. -/
def laptopTables : CatalogTables incidentLib where
  listed table _ :=
    if table = "item_option_new" then
      ⟨laptopVariables, by decide, by decide⟩
    else if table = "io_set_item" then ⟨laptopLinks, by decide, by decide⟩
    else if table = "question_choice" then ⟨laptopChoices, by decide, by decide⟩
    else ⟨[], by decide, by decide⟩
  links := by
    have hlink : ∀ row ∈ laptopLinks,
        recordFieldRawOrDisplay incidentLib row "variable_set" = some laptopSet := by decide
    intro row hrow value hvalue
    rw [hlink row hrow] at hvalue
    cases hvalue
    decide

/-- A call for the laptop; some listings fail. -/
def laptopCall (unread : Listing → Bool) : Served incidentLib shownProvider where
  sysId := laptopId
  rule := ⟨.readThrough, none⟩
  now := newYear
  refreshedAt := newYear
  answer
    | .get table _ sysId => .ok (shownRow sysId table [("name", "Laptop")])
    | .execute query =>
      if unread query then .error .http
      else .ok ⟨(laptopTables.matching shownProvider query).take query.limit, []⟩
  looks := .ok ()
  projects _ := .ok ()
  writes := .ok ()
  tables := laptopTables
  found := by
    intro _ _ _ _ h
    cases h
    rfl
  lists := by
    intro query result h _
    by_cases hunread : unread query = true
    · simp [hunread] at h
    · simp only [hunread] at h
      cases h
      rfl

/-- The read of the variable sets fails. -/
def unreadSets : Served incidentLib shownProvider :=
  laptopCall fun query => query.table = "io_set_item"

/-- The laptop with the one variable of its own. -/
def laptopWithoutSets : CatalogItem :=
  ⟨laptopId, "Laptop", "", "sc_cat_item",
    [⟨"22222222222222222222222222222222", "model", "model", "", false, none, none, none, none, []⟩]⟩

/-- **A failed read of the variable sets is not noticed**: the answer is labelled complete and kept,
and a variable of the set is missing. -/
theorem unread_sets_reported_complete :
    (catalogItemGetEnvelope incidentLib unreadSets.toCall Table.empty).2.1 =
        .ok ⟨operation, .live, .complete, laptopWithoutSets⟩ ∧
      ((catalogItemGetEnvelope incidentLib unreadSets.toCall Table.empty).2.2.row laptopId).map
        CatalogProductRow.item = some laptopWithoutSets ∧
      ¬ CompleteItem shownProvider laptopTables laptopWithoutSets := by
  refine ⟨by decide +kernel, by decide +kernel, fun h => ?_⟩
  have hvariable : laptopTables.IsVariable shownProvider laptopId
      (shownRow "33333333333333333333333333333333" "item_option_new"
        [("name", "reason"), ("variable_set", laptopSet), ("active", "true")]) := by
    refine ⟨?_, by decide, .inr ⟨laptopSet, ?_, by decide⟩⟩
    · exact List.mem_cons_of_mem _ List.mem_cons_self
    · decide
  exact absurd (h.1 _ hvariable) (by decide)

/-- Every read succeeds. -/
def laptop : Served incidentLib shownProvider := laptopCall fun _ => false

theorem laptop_decided : Decided incidentLib laptop.toCall Table.empty := by
  intro sysId hid _
  have hlaptop : normalizeRecordLookupSysId laptop.sysId = .ok laptopId := by decide +kernel
  rw [hlaptop] at hid
  cases hid
  refine .inr (.inr ⟨?_, ?_, fun _ => ?_, fun _ => ?_⟩)
  · exact ⟨_, rfl, rfl, by decide +kernel⟩
  · exact ⟨_, rfl, rfl, by decide +kernel⟩
  · exact ⟨_, rfl, rfl, by decide +kernel⟩
  · exact ⟨_, rfl, rfl, by decide +kernel⟩

/-- The laptop is kept with both its variables. -/
theorem laptop_kept_complete :
    AllGenuine [.get laptop] (Op.step (.get laptop) Table.empty) ∧
      ((Op.step (.get laptop) Table.empty).row laptopId).map
        (fun row => row.item.variableList.map CatalogVariable.choices) =
          some [[], [⟨"new", "New hire"⟩]] :=
  ⟨((catalog_item_complete_when_decided incidentLib shownProvider).2 [.get laptop] _
      (.next .start laptop_decided)).1, by decide +kernel⟩

end SnowAgent.Catalog
