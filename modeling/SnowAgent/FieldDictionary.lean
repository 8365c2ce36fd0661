import Mathlib.Data.List.Nodup
import Mathlib.Data.List.Perm.Basic
import SnowAgent.Primitives
import SnowAgent.Table

/-! # The dictionary of Business Applications

Field definitions of `sys_dictionary` are cached by table and field.  Two views of them give one
definition for each field.  `business_application_dictionary_for_tables` walks tables from the
most derived to the base and keeps the first definition.  `business_application_dictionary_map`
scans the rows of three tables in whatever order SQLite returns them, and keeps the last.
-/
namespace SnowAgent.Dictionary

/-- `BusinessApplicationFieldDictionaryRow`. -/
structure FieldDictionaryRow where
  tableName : String
  fieldName : String
  fieldLabel : Option String
  fieldType : Option String
  referenceTable : Option String
  choice : Bool
  mandatory : Bool
  readOnly : Bool
  maxLength : Option Int
  active : Bool
  syncedAt : DateTime
  rawJson : String
deriving DecidableEq

/-- `business_application_field_dictionary`: one row for each table and field. -/
structure FieldDictionary where
  rows : List FieldDictionaryRow
  keys : (rows.map fun row => (row.tableName, row.fieldName)).Nodup

/-- A view: the definition of each field. -/
abbrev View := Table String FieldDictionaryRow

/-- The tables of the scan. -/
def scannedTables : List String := ["cmdb_ci_business_app", "task", "cmdb_ci"]

/-- The rows of the scan, in the order of the table. -/
def scannedRows (dictionary : FieldDictionary) : List FieldDictionaryRow :=
  dictionary.rows.filter (·.tableName ∈ scannedTables)

/-- `HashMap::insert`, by the name of the field. -/
def insertRow (map : View) (row : FieldDictionaryRow) : View := map.put row.fieldName row

/-- `business_application_dictionary_map`, of the rows as SQLite returns them. -/
def businessApplicationDictionaryMap (scan : List FieldDictionaryRow) : View :=
  scan.foldl insertRow Table.empty

/-- `list_business_application_field_dictionary`. -/
def listFieldDictionary (dictionary : FieldDictionary) (table : String) :
    List FieldDictionaryRow :=
  (dictionary.rows.filter (·.tableName = table)).mergeSort fun a b => a.fieldName ≤ b.fieldName

/-- `HashMap::entry` and `or_insert`, by the name of the field. -/
def orInsertRow (map : View) (row : FieldDictionaryRow) : View :=
  if (map.row row.fieldName).isSome then map else map.put row.fieldName row

/-- `business_application_dictionary_for_tables`. -/
def businessApplicationDictionaryForTables (dictionary : FieldDictionary)
    (tables : List String) : View :=
  (tables.flatMap (listFieldDictionary dictionary)).foldl orInsertRow Table.empty

/-! ## What the views give -/

/-- The last row of a field is given. -/
theorem map_row (scan : List FieldDictionaryRow) (map : View) (field : String) :
    (scan.foldl insertRow map).row field =
      ((scan.filter (·.fieldName = field)).getLast?).or (map.row field) := by
  induction scan generalizing map with
  | nil => simp
  | cons row scan ih =>
    rw [List.foldl_cons, ih, insertRow, List.filter_cons]
    by_cases h : row.fieldName = field
    · subst h
      simp only [Table.row_put_self, decide_true, if_true]
      rcases hlast : (scan.filter (·.fieldName = row.fieldName)).getLast? with _ | last
      · rw [List.getLast?_eq_none_iff] at hlast
        simp [hlast]
      · rw [List.getLast?_cons, hlast]
        simp
    · have hne : field ≠ row.fieldName := fun heq => h heq.symm
      simp [h, Table.row_put_of_ne _ _ hne]

/-- The first row of a field is given. -/
theorem forTables_row (rows : List FieldDictionaryRow) (map : View) (field : String) :
    (rows.foldl orInsertRow map).row field =
      (map.row field).or (rows.find? (·.fieldName = field)) := by
  induction rows generalizing map with
  | nil => simp
  | cons row rows ih =>
    rw [List.foldl_cons, ih, orInsertRow, List.find?_cons]
    by_cases h : row.fieldName = field
    · subst h
      rcases hrow : map.row row.fieldName with _ | first
      · simp
      · simp [hrow]
    · have hne : field ≠ row.fieldName := fun heq => h heq.symm
      have hput : (if (map.row row.fieldName).isSome then map
          else map.put row.fieldName row).row field = map.row field := by
        split
        · rfl
        · exact Table.row_put_of_ne _ _ hne
      rw [hput]
      simp [h]

/-! ## The closest definition -/

variable {row : FieldDictionaryRow} {field : String}

section Closest

variable {dictionary : FieldDictionary}

theorem mem_listFieldDictionary {table : String} :
    row ∈ listFieldDictionary dictionary table ↔ row ∈ dictionary.rows ∧ row.tableName = table := by
  rw [listFieldDictionary, List.mem_mergeSort, List.mem_filter, decide_eq_true_eq]

/-- A row is told by its table and its field. -/
theorem eq_of_key {a b : FieldDictionaryRow} (ha : a ∈ dictionary.rows) (hb : b ∈ dictionary.rows)
    (htable : a.tableName = b.tableName) (hfield : a.fieldName = b.fieldName) : a = b :=
  List.inj_on_of_nodup_map dictionary.keys ha hb (Prod.ext htable hfield)

variable {tables : List String}

theorem forTables_nil_iff :
    (businessApplicationDictionaryForTables dictionary tables).row field = none ↔
      ∀ row ∈ dictionary.rows, row.tableName ∈ tables → row.fieldName ≠ field := by
  rw [businessApplicationDictionaryForTables, forTables_row, Table.row_empty, Option.none_or,
    List.find?_eq_none]
  simp only [List.mem_flatMap, mem_listFieldDictionary, decide_eq_true_eq]
  constructor
  · intro h row hrow htable
    exact h row ⟨row.tableName, htable, hrow, rfl⟩
  · rintro h row ⟨table, htable, hrow, rfl⟩
    exact h row hrow htable

/-- **The walk gives the definition of the first table that has one.** -/
theorem forTables_closest
    (h : (businessApplicationDictionaryForTables dictionary tables).row field = some row) :
    row ∈ dictionary.rows ∧ row.fieldName = field ∧ row.tableName ∈ tables ∧
      ∀ other ∈ dictionary.rows, other.fieldName = field →
        tables.idxOf row.tableName ≤ tables.idxOf other.tableName := by
  rw [businessApplicationDictionaryForTables, forTables_row, Table.row_empty, Option.none_or] at h
  induction tables with
  | nil => cases h
  | cons table tables ih =>
    rw [List.flatMap_cons, List.find?_append, Option.or_eq_some_iff] at h
    rcases h with hhead | ⟨hnone, hrest⟩
    · obtain ⟨hrow, htable⟩ := mem_listFieldDictionary.mp (List.mem_of_find?_eq_some hhead)
      have hfield : row.fieldName = field := by simpa using List.find?_some hhead
      refine ⟨hrow, hfield, List.mem_cons.mpr (.inl htable), fun other _ _ => ?_⟩
      rw [htable, List.idxOf_cons_self]
      exact Nat.zero_le _
    · obtain ⟨hrow, hfield, htable, hclosest⟩ := ih hrest
      rw [List.find?_eq_none] at hnone
      have hlater : ∀ other ∈ dictionary.rows, other.fieldName = field →
          table ≠ other.tableName := by
        rintro other hother hname rfl
        exact hnone other (mem_listFieldDictionary.mpr ⟨hother, rfl⟩) (by simpa using hname)
      refine ⟨hrow, hfield, List.mem_cons_of_mem _ htable, fun other hother hname => ?_⟩
      rw [List.idxOf_cons_ne _ (hlater row hrow hfield),
        List.idxOf_cons_ne _ (hlater other hother hname)]
      exact Nat.succ_le_succ (hclosest other hother hname)

end Closest

/-! ## Agreement -/

section Agreement

variable (dictionary : FieldDictionary) (tables : List String)

/-- The views give the same definition for each field. -/
def ViewsAgree (scan : List FieldDictionaryRow) : Prop :=
  ∀ field, (businessApplicationDictionaryMap scan).row field =
    (businessApplicationDictionaryForTables dictionary tables).row field

/-- The last row of each field in a scan is of the closest table that defines it. -/
def LastIsClosest (scan : List FieldDictionaryRow) : Prop :=
  ∀ before row after, scan = before ++ row :: after →
    (∀ later ∈ after, later.fieldName ≠ row.fieldName) →
    ∀ other ∈ scan, other.fieldName = row.fieldName →
      tables.idxOf row.tableName ≤ tables.idxOf other.tableName

/-- No field is defined in two of the scanned tables. -/
def DefinedOnce : Prop :=
  ∀ a ∈ scannedRows dictionary, ∀ b ∈ scannedRows dictionary,
    a.fieldName = b.fieldName → a.tableName = b.tableName

end Agreement

section Agreement

variable {dictionary : FieldDictionary} {tables : List String} {scan : List FieldDictionaryRow}

theorem mem_scannedRows :
    row ∈ scannedRows dictionary ↔ row ∈ dictionary.rows ∧ row.tableName ∈ scannedTables := by
  rw [scannedRows, List.mem_filter, decide_eq_true_eq]

/-- The scan gives the row of a field that none of its rows follows. -/
theorem map_eq_some :
    (businessApplicationDictionaryMap scan).row field = some row ↔
      row.fieldName = field ∧ ∃ before after, scan = before ++ row :: after ∧
        ∀ later ∈ after, later.fieldName ≠ field := by
  rw [businessApplicationDictionaryMap, map_row, Table.row_empty, Option.or_none]
  constructor
  · intro h
    obtain ⟨others, hothers⟩ := List.getLast?_eq_some_iff.mp h
    obtain ⟨before, rest, rfl, -, hrest⟩ := List.filter_eq_append_iff.mp hothers
    obtain ⟨between, after, rfl, -, hfield, hafter⟩ := List.filter_eq_cons_iff.mp hrest
    refine ⟨by simpa using hfield, before ++ between, after, by simp, ?_⟩
    simpa [List.filter_eq_nil_iff] using hafter
  · rintro ⟨hfield, before, after, rfl, hafter⟩
    have hnone : after.filter (·.fieldName = field) = [] := by
      simpa [List.filter_eq_nil_iff] using hafter
    simp [List.filter_append, hfield, hnone]

theorem map_eq_none :
    (businessApplicationDictionaryMap scan).row field = none ↔
      ∀ row ∈ scan, row.fieldName ≠ field := by
  rw [businessApplicationDictionaryMap, map_row, Table.row_empty, Option.or_none,
    List.getLast?_eq_none_iff, List.filter_eq_nil_iff]
  simp

/-- **The views agree on a scan exactly when its last rows are the closest ones.** -/
theorem viewsAgree_iff (htables : tables.Perm scannedTables)
    (hscan : scan.Perm (scannedRows dictionary)) :
    ViewsAgree dictionary tables scan ↔ LastIsClosest tables scan := by
  have hmem : ∀ row, row ∈ scan ↔ row ∈ dictionary.rows ∧ row.tableName ∈ tables := by
    intro row
    rw [hscan.mem_iff, mem_scannedRows, htables.mem_iff]
  constructor
  · rintro hagree before row after hsplit hafter other hother hname
    have hmap : (businessApplicationDictionaryMap scan).row row.fieldName = some row :=
      map_eq_some.mpr ⟨rfl, before, after, hsplit, hafter⟩
    rw [hagree] at hmap
    exact (forTables_closest hmap).2.2.2 other ((hmem other).mp hother).1 hname
  · intro hlast field
    rcases hmap : (businessApplicationDictionaryMap scan).row field with _ | row
    · rw [map_eq_none] at hmap
      refine (forTables_nil_iff.mpr fun row hrow htable => ?_).symm
      exact hmap row ((hmem row).mpr ⟨hrow, htable⟩)
    · obtain ⟨rfl, before, after, hsplit, hafter⟩ := map_eq_some.mp hmap
      have hrow : row ∈ scan := hsplit ▸ List.mem_append_right _ List.mem_cons_self
      rcases hwalk : (businessApplicationDictionaryForTables dictionary tables).row row.fieldName
        with _ | first
      · rw [forTables_nil_iff] at hwalk
        exact absurd rfl (hwalk row ((hmem row).mp hrow).1 ((hmem row).mp hrow).2)
      · obtain ⟨hfirst, hname, htable, hclosest⟩ := forTables_closest hwalk
        have hle := hclosest row ((hmem row).mp hrow).1 rfl
        have hge := hlast before row after hsplit hafter first
          ((hmem first).mpr ⟨hfirst, htable⟩) hname
        have hsame : row.tableName = first.tableName :=
          List.idxOf_inj ((hmem row).mp hrow).2 |>.mp (Nat.le_antisymm hge hle)
        rw [eq_of_key ((hmem row).mp hrow).1 hfirst hsame hname.symm]

/-- A scan that ends with a given row. -/
theorem exists_scan_ending (hrow : row ∈ scannedRows dictionary) :
    ∃ before, (before ++ [row]).Perm (scannedRows dictionary) := by
  obtain ⟨before, after, hsplit⟩ := List.append_of_mem hrow
  refine ⟨before ++ after, ?_⟩
  rw [hsplit, List.append_assoc]
  exact (@List.perm_append_comm _ after [row]).append_left before

end Agreement

/-- A definition of `name`, as a text of a length. -/
def nameRow (table : String) (maxLength : Int) : FieldDictionaryRow where
  tableName := table
  fieldName := "name"
  fieldLabel := some "Name"
  fieldType := some "string"
  referenceTable := none
  choice := false
  mandatory := true
  readOnly := false
  maxLength := some maxLength
  active := true
  syncedAt := newYear
  rawJson := "{}"

/-- A dictionary with one definition. -/
def baseDictionary : FieldDictionary := ⟨[nameRow "cmdb_ci" 255], List.nodup_singleton _⟩

/-- A dictionary in which a child table overrides a field, and its rows in that order. -/
def overridden : FieldDictionary :=
  ⟨[nameRow "cmdb_ci_business_app" 100, nameRow "cmdb_ci" 255], by decide⟩

end SnowAgent.Dictionary
