import SnowAgent.FieldDictionary
import SnowAgent.Text

/-! # The aliases of the typed fields

Each typed label of a Business Application has a baseline field.  Where the dictionary does not
have that field, a field takes its place whose label matches: the first one of a hash map, which
has no order of its own.  What is answered is the same in every order just when no label without
its baseline field matches two.
-/
namespace SnowAgent.Dictionary

open Text

/-! ## Aliases -/

/-- `BusinessApplicationFieldAliases`, less the diagnostics. -/
structure FieldAliases where
  businessOwner : String
  isOwner : String
  ciOwnerGroup : String
  primarySupportGroup : String
  operationalState : String
  primaryPortfolio : String
  primaryPortfolioTable : Option String
  attestedDate : String
  dictionaryVersion : Option String
deriving DecidableEq

/-- **The values of a hash map in one order**: each row that is kept under its field, once. -/
structure Iterates (map : View) (values : List FieldDictionaryRow) : Prop where
  once : (values.map FieldDictionaryRow.fieldName).Nodup
  rows : ∀ row, row ∈ values ↔ map.row row.fieldName = some row

/-- The label of a row is one of some labels, up to case and outer blanks. -/
def labelled (labels : List String) (row : FieldDictionaryRow) : Bool :=
  row.fieldLabel.any fun label => decide (toAsciiLowercase (trim label) ∈ labels)

/-- `resolve`, over the values in one order. -/
def resolveField (map : View) (values : List FieldDictionaryRow) (baseline : String)
    (labels : List String) : String :=
  if (map.row baseline).isSome then baseline
  else ((values.find? (labelled labels)).map FieldDictionaryRow.fieldName).getD baseline

/-- The reference table of a field, if it is not empty. -/
def referenceTableOf (map : View) (field : String) : Option String :=
  ((map.row field).bind FieldDictionaryRow.referenceTable).filter (· ≠ "")

/-- `business_application_aliases_from_dictionary`, over the values in one order. -/
def aliasesFromDictionary (rfc3339 : DateTime → String) (map : View)
    (values : List FieldDictionaryRow) : FieldAliases :=
  let resolve := resolveField map values
  let primaryPortfolio := resolve "portfolio" ["primary portfolio"]
  { businessOwner := resolve "business_owner" ["business owner"]
    isOwner := resolve "it_application_owner" ["is owner", "it application owner"]
    ciOwnerGroup := resolve "managed_by_group" ["ci owner group"]
    primarySupportGroup := resolve "support_group" ["primary support group"]
    operationalState := resolve "operational_status" ["operational state"]
    primaryPortfolio
    primaryPortfolioTable := referenceTableOf map primaryPortfolio
    attestedDate := resolve "attested_date" ["attested date"]
    dictionaryVersion := (values.map FieldDictionaryRow.syncedAt).max?.map rfc3339 }

/-! ## What the aliases have to be -/

/-- The names of the typed fields. -/
def FieldAliases.names (found : FieldAliases) : List String :=
  [found.businessOwner, found.isOwner, found.ciOwnerGroup, found.primarySupportGroup,
    found.operationalState, found.primaryPortfolio, found.attestedDate]

/-- The baseline field and the labels of each of them. -/
def typedLabels : List (String × List String) :=
  [("business_owner", ["business owner"]),
    ("it_application_owner", ["is owner", "it application owner"]),
    ("managed_by_group", ["ci owner group"]), ("support_group", ["primary support group"]),
    ("operational_status", ["operational state"]), ("portfolio", ["primary portfolio"]),
    ("attested_date", ["attested date"])]

/-- **A field stands for a label**: the baseline field if the dictionary has it, else the one whose
label matches, and the baseline field if there is none. -/
structure StandsFor (map : View) (label : String × List String) (field : String) : Prop where
  baseline : (map.row label.1).isSome → field = label.1
  matching : map.row label.1 = none → ∀ row, map.row row.fieldName = some row →
    labelled label.2 row = true → field = row.fieldName
  missing : (∀ row, map.row row.fieldName = some row → labelled label.2 row = false) →
    field = label.1

/-- **The aliases do not depend on the order of the map.** -/
def OrderFree (rfc3339 : DateTime → String) (map : View) : Prop :=
  ∀ values values', Iterates map values → Iterates map values' →
    aliasesFromDictionary rfc3339 map values = aliasesFromDictionary rfc3339 map values' ∧
      (∀ entry ∈ typedLabels.zip (aliasesFromDictionary rfc3339 map values).names,
        StandsFor map entry.1 entry.2) ∧
      (aliasesFromDictionary rfc3339 map values).primaryPortfolioTable =
        referenceTableOf map (aliasesFromDictionary rfc3339 map values).primaryPortfolio

/-- No label matches two fields while its baseline field is missing. -/
def Unambiguous (map : View) : Prop :=
  ∀ label ∈ typedLabels, map.row label.1 = none → ∀ a b, map.row a.fieldName = some a →
    map.row b.fieldName = some b → labelled label.2 a = true → labelled label.2 b = true → a = b

/-! ## Orders -/

variable (rfc3339 : DateTime → String)

section Orders

variable {map : View} {values values' : List FieldDictionaryRow} {row : FieldDictionaryRow}

theorem Iterates.perm (h : Iterates map values) (hperm : values'.Perm values) :
    Iterates map values' :=
  ⟨(hperm.map _).nodup_iff.mpr h.once, fun row => hperm.mem_iff.trans (h.rows row)⟩

/-- Every row may be the first. -/
theorem Iterates.first (h : Iterates map values) (hrow : row ∈ values) :
    Iterates map (row :: values.erase row) :=
  h.perm (List.perm_cons_erase hrow).symm

theorem Iterates.orInsertRow (h : Iterates map values) (row : FieldDictionaryRow)
    (hkeys : ∀ field row, map.row field = some row → row.fieldName = field) :
    (∃ values', Iterates (orInsertRow map row) values') ∧
      ∀ field other, (orInsertRow map row).row field = some other → other.fieldName = field := by
  unfold Dictionary.orInsertRow
  cases hrow : map.row row.fieldName with
  | some old => exact ⟨⟨values, h⟩, hkeys⟩
  | none =>
    rw [Option.isSome_none, if_neg Bool.false_ne_true]
    have hnew : ∀ other ∈ values, other.fieldName ≠ row.fieldName := by
      intro other hother heq
      rw [h.rows, heq, hrow] at hother
      cases hother
    refine ⟨⟨row :: values, ?_, fun other => ?_⟩, fun field other hother => ?_⟩
    · rw [List.map_cons, List.nodup_cons, List.mem_map]
      exact ⟨fun ⟨other, hother, heq⟩ => hnew other hother heq, h.once⟩
    · by_cases heq : other.fieldName = row.fieldName
      · rw [heq, Table.row_put_self, List.mem_cons, Option.some.injEq]
        exact ⟨fun hmem => (hmem.resolve_right fun hin => hnew other hin heq).symm,
          fun hsame => Or.inl hsame.symm⟩
      · rw [Table.row_put_of_ne _ _ heq, List.mem_cons, h.rows]
        exact ⟨fun hmem => hmem.resolve_left fun hsame => heq (by rw [hsame]), Or.inr⟩
    · rcases Table.row_put_eq_some hother with ⟨-, hold⟩ | ⟨rfl, rfl⟩
      · exact hkeys field other hold
      · rfl

/-- The view of some tables has an order. -/
theorem exists_iterates (dictionary : FieldDictionary) (tables : List String) :
    ∃ values, Iterates (businessApplicationDictionaryForTables dictionary tables) values := by
  have hfold : ∀ (rows : List FieldDictionaryRow) (map : View), (∃ values, Iterates map values) →
      (∀ field row, map.row field = some row → row.fieldName = field) →
        ∃ values, Iterates (rows.foldl orInsertRow map) values := by
    intro rows
    induction rows with
    | nil => exact fun _ h _ => h
    | cons row rows ih =>
      rintro map ⟨values, h⟩ hkeys
      obtain ⟨hnext, hkeys'⟩ := h.orInsertRow row hkeys
      exact ih _ hnext hkeys'
  refine hfold _ Table.empty ⟨[], List.nodup_nil, fun row => ?_⟩ fun field row h => ?_
  · simp
  · simp at h

/-! ## Fields -/

variable {label : String × List String}

/-- A row of the map is answered for in some order. -/
theorem resolveField_first (hnone : map.row label.1 = none) (hrow : labelled label.2 row = true) :
    resolveField map (row :: values) label.1 label.2 = row.fieldName := by
  rw [resolveField, hnone, Option.isSome_none, if_neg Bool.false_ne_true, List.find?_cons_of_pos hrow]
  rfl

/-- A label that is not ambiguous is stood for, in every order. -/
theorem resolveField_standsFor (h : Iterates map values)
    (hone : map.row label.1 = none → ∀ a b, map.row a.fieldName = some a →
      map.row b.fieldName = some b → labelled label.2 a = true → labelled label.2 b = true → a = b) :
    StandsFor map label (resolveField map values label.1 label.2) := by
  unfold resolveField
  refine ⟨fun hbase => if_pos hbase, fun hnone row hrow hmatch => ?_, fun hmissing => ?_⟩
  · rw [hnone, Option.isSome_none, if_neg Bool.false_ne_true]
    cases hfind : values.find? (labelled label.2) with
    | none => exact absurd hmatch (List.find?_eq_none.mp hfind row ((h.rows row).mpr hrow))
    | some found =>
      have hfound := (h.rows found).mp (List.mem_of_find?_eq_some hfind)
      rw [hone hnone found row hfound hrow (List.find?_some hfind) hmatch]
      rfl
  · have hfind : values.find? (labelled label.2) = none := by
      rw [List.find?_eq_none]
      intro row hrow
      simp [hmissing row ((h.rows row).mp hrow)]
    rw [hfind]
    exact ite_self _

/-- What stands for a label is determined. -/
theorem StandsFor.unique {a b : String} (ha : StandsFor map label a) (hb : StandsFor map label b) :
    a = b := by
  cases hbase : map.row label.1 with
  | some row => rw [ha.baseline (by rw [hbase]; rfl), hb.baseline (by rw [hbase]; rfl)]
  | none =>
    by_cases hmissing : ∀ row, map.row row.fieldName = some row → labelled label.2 row = false
    · rw [ha.missing hmissing, hb.missing hmissing]
    · obtain ⟨row, hrow, hmatch⟩ : ∃ row, map.row row.fieldName = some row ∧
          labelled label.2 row = true := by
        simpa using hmissing
      rw [ha.matching hbase row hrow hmatch, hb.matching hbase row hrow hmatch]

theorem names_eq :
    typedLabels.zip (aliasesFromDictionary rfc3339 map values).names =
      typedLabels.map fun label => (label, resolveField map values label.1 label.2) := rfl

/-- The latest reading is the same in every order. -/
theorem latest_eq (h : Iterates map values) (h' : Iterates map values') :
    (values.map FieldDictionaryRow.syncedAt).max? =
      (values'.map FieldDictionaryRow.syncedAt).max? := by
  have hmem : ∀ row, row ∈ values ↔ row ∈ values' := fun row => (h.rows row).trans (h'.rows row).symm
  refine Option.ext fun latest => ?_
  rw [List.max?_eq_some_iff, List.max?_eq_some_iff]
  simp only [List.mem_map, hmem]

end Orders

/-- **When the aliases do not depend on the order of the map.** -/
theorem aliases_order_free_iff (dictionary : FieldDictionary) (tables : List String) :
    OrderFree rfc3339 (businessApplicationDictionaryForTables dictionary tables) ↔
      Unambiguous (businessApplicationDictionaryForTables dictionary tables) := by
  obtain ⟨values, hvalues⟩ := exists_iterates dictionary tables
  generalize businessApplicationDictionaryForTables dictionary tables = map at hvalues
  constructor
  · intro h label hlabel hnone a b ha hb hmatch hmatch'
    have hstands := (h _ _ (hvalues.first ((hvalues.rows a).mpr ha)) hvalues).2.1
      (label, resolveField map (a :: values.erase a) label.1 label.2)
    rw [names_eq] at hstands
    have hfirst := (hstands (List.mem_map_of_mem hlabel)).matching hnone b hb hmatch'
    dsimp only at hfirst
    rw [resolveField_first hnone hmatch] at hfirst
    rw [hfirst, hb] at ha
    exact (Option.some.inj ha).symm
  · intro hone values values' h h'
    have hstands : ∀ {values}, Iterates map values → ∀ label ∈ typedLabels,
        StandsFor map label (resolveField map values label.1 label.2) :=
      fun h label hlabel => resolveField_standsFor h (hone label hlabel)
    refine ⟨?_, fun entry hentry => ?_, rfl⟩
    · have hsame : ∀ label ∈ typedLabels, resolveField map values label.1 label.2 =
          resolveField map values' label.1 label.2 :=
        fun label hlabel => (hstands h label hlabel).unique (hstands h' label hlabel)
      simp only [typedLabels, List.forall_mem_cons] at hsame
      obtain ⟨h₁, h₂, h₃, h₄, h₅, h₆, h₇, -⟩ := hsame
      simp only [aliasesFromDictionary, h₁, h₂, h₃, h₄, h₅, h₆, h₇, latest_eq h h']
    · rw [names_eq] at hentry
      obtain ⟨label, hlabel, rfl⟩ := List.mem_map.mp hentry
      exact hstands h label hlabel

/-! ## Two fields with one label -/

/-- Fields that are told apart by their names are kept all. -/
theorem iterates_rows {dictionary : FieldDictionary} {tables : List String}
    (honce : (dictionary.rows.map FieldDictionaryRow.fieldName).Nodup)
    (htables : ∀ row ∈ dictionary.rows, row.tableName ∈ tables) :
    Iterates (businessApplicationDictionaryForTables dictionary tables) dictionary.rows := by
  refine ⟨honce, fun row => ⟨fun hrow => ?_, fun hrow => (forTables_closest hrow).1⟩⟩
  cases hfield : (businessApplicationDictionaryForTables dictionary tables).row row.fieldName with
  | none => exact absurd rfl (forTables_nil_iff.mp hfield row hrow (htables row hrow))
  | some kept =>
    obtain ⟨hkept, hname, -⟩ := forTables_closest hfield
    rw [List.inj_on_of_nodup_map honce hkept hrow hname]

/-- A custom field for the portfolio. -/
def portfolioRow (field table : String) : FieldDictionaryRow :=
  { nameRow "cmdb_ci_business_app" 32 with
    fieldName := field
    fieldLabel := some "Primary Portfolio"
    fieldType := some "reference"
    referenceTable := some table }

/-- A dictionary with two of them. -/
def twoPortfolios : FieldDictionary :=
  ⟨[portfolioRow "u_portfolio" "pm_portfolio", portfolioRow "u_old_portfolio" "u_archive"],
    by decide⟩

/-- **The portfolio is read through either field**, as the map is gone through. -/
theorem portfolio_by_order :
    ∃ values values', Iterates (businessApplicationDictionaryForTables twoPortfolios
        ["cmdb_ci_business_app"]) values ∧
      Iterates (businessApplicationDictionaryForTables twoPortfolios
        ["cmdb_ci_business_app"]) values' ∧
      (aliasesFromDictionary (fun _ => "") (businessApplicationDictionaryForTables twoPortfolios
        ["cmdb_ci_business_app"]) values).primaryPortfolio = "u_portfolio" ∧
      (aliasesFromDictionary (fun _ => "") (businessApplicationDictionaryForTables twoPortfolios
        ["cmdb_ci_business_app"]) values').primaryPortfolio = "u_old_portfolio" := by
  have h : Iterates (businessApplicationDictionaryForTables twoPortfolios
      ["cmdb_ci_business_app"]) twoPortfolios.rows := iterates_rows (by decide) (by decide)
  have hnone : (businessApplicationDictionaryForTables twoPortfolios
      ["cmdb_ci_business_app"]).row "portfolio" = none := forTables_nil_iff.mpr (by decide)
  exact ⟨_, _, h, h.perm (List.Perm.swap _ _ []),
    @resolveField_first _ _ _ ("portfolio", ["primary portfolio"]) hnone (by decide),
    @resolveField_first _ _ _ ("portfolio", ["primary portfolio"]) hnone (by decide)⟩

end SnowAgent.Dictionary
