import Mathlib.Data.List.Forall2
import Mathlib.Data.List.Nodup
import SnowAgent.Letters
import SnowAgent.RecordResolver

/-! # Records by their number

The prefix of a number names tables, by the metadata of numbers or, where that is hidden or names
none, by the core.  Every one of them is searched; a record may be found through a table it only
descends from, and is then read again from the table of its own class.
-/
namespace SnowAgent.Resolve

open Json Text Core

/-! ## What ServiceNow answers -/

/-- What the metadata of a prefix is answered with: 403 or 404, another failure, or rows. -/
inductive PrefixAnswer where
  | denied
  | failed
  | page (errors : Bool) (records : List Record)

/-- What a table is answered with for a number, and a table for a `sys_id`; and the table of a number
by the core. -/
structure NumberSource where
  numbers : String → PrefixAnswer
  page : String → String → Option (Bool × List Record)
  get : String → String → Option Record
  /-- `table_for_number`. -/
  tableForNumber : String → Option String

/-! ## Texts -/

/-- `char::is_control`. -/
def isControl (c : Char) : Bool := c.toNat ≤ 31 || (127 ≤ c.toNat && c.toNat ≤ 159)

/-- `literal`. -/
def literal (value : String) : Except RecordResolveError String :=
  let value := trim value
  if value = "" ∨ 160 < value.utf8ByteSize ∨ value.toList.any isControl = true ∨
      contains value "^" = true ∨ contains value "$\x7b" = true ∨
      contains (toAsciiLowercase value) "javascript:" = true then
    .error (.invalidParams ("record type must be a literal table name, label, reference field, " ++
      "or number prefix"))
  else .ok value

/-- The number that is looked up. -/
def normalNumber (number : String) : Except RecordResolveError String := do
  let number := toAsciiUppercase (← literal number)
  if 80 < number.utf8ByteSize ∨ number.toList.all (fun c => c.isAlphanum || c == '_') = false ∨
      number.toList.getLast?.any Char.isDigit = false then
    throw (.invalidParams "number must be a ServiceNow record number")
  else return number

/-- `trim_end_matches` of the digits. -/
def numberPrefix (number : String) : String :=
  String.ofList (number.toList.reverse.dropWhile Char.isDigit).reverse

/-! ## Tables -/

/-- `BTreeSet::insert`. -/
def insertTable (table : String) : List String → List String
  | [] => [table]
  | other :: rest =>
    if table < other then table :: other :: rest
    else if table = other then other :: rest
    else other :: insertTable table rest

/-- The tables that the rows of a prefix name. -/
def namedTables (numberPrefix : String) :
    List Record → List String → Except RecordResolveError (List String)
  | [], tables => .ok tables
  | row :: rows, tables =>
    if ((row.getRaw "prefix").any fun value => eqIgnoreAsciiCase value numberPrefix) = false then
      .error (.integrity "number-prefix metadata did not match")
    else
      match (row.getRaw "category").filter identifier with
      | none => .error (.integrity "number-prefix metadata omitted its table")
      | some table => namedTables numberPrefix rows (insertTable table tables)

variable (source : NumberSource)

/-- `prefix_tables`, without the name of its source. -/
def prefixTables (numberPrefix : String) : Except RecordResolveError (List String) :=
  match source.numbers numberPrefix with
  | .denied =>
    match source.tableForNumber (numberPrefix ++ "0") with
    | some table => .ok [table]
    | none => .error (.unavailable ("number-prefix metadata is unreadable and the core has no " ++
        "configured prefix mapping"))
  | .failed => .error (.unavailable "number-prefix metadata is unavailable")
  | .page errors records =>
    if errors = true ∨ 20 < records.length then
      .error (.unavailable "number-prefix metadata is incomplete")
    else
      match namedTables numberPrefix records [] with
      | .error err => .error err
      | .ok [] =>
        match source.tableForNumber (numberPrefix ++ "0") with
        | some table => .ok [table]
        | none => .ok []
      | .ok tables => .ok tables

/-- The tables that are searched, or what the search ends with. -/
def searchedTables (mapping : Except RecordResolveError (List String)) :
    Except RecordResolveError (List String) :=
  match mapping with
  | .error (.integrity message) => .error (.integrity message)
  | .error (.invalidParams message) => .error (.invalidParams message)
  | .ok (table :: tables) => .ok (table :: tables)
  | _ => .ok ["task"]

/-! ## Records -/

/-- A record that is found through a table, as one of its own class. -/
def ownClass (number table : String) (row : Record) : Except RecordResolveError Record := do
  if row.getRaw "number" ≠ some number then
    throw (.integrity "number lookup returned an unrelated record")
  else
    let actual ← actualTable row
    if actual = table then return row
    else
      match source.get actual row.sysId with
      | none => throw (.unavailable "number's actual class is unreadable")
      | some again =>
        if again.sysId ≠ row.sysId ∨ again.getRaw "number" ≠ some number then
          throw (.integrity "record changed during number resolution")
        else
          let after ← actualTable again
          if after ≠ actual then throw (.integrity "record changed during number resolution")
          else return again

/-- The record of one table, if it has one. -/
def tableRecord (number table : String) : Except RecordResolveError (Option Record) :=
  match source.page table number with
  | none => .error (.unavailable "number lookup table is unreadable")
  | some (errors, records) =>
    if errors = true ∨ 1 < records.length then
      .error (.integrity "record number is ambiguous or provider returned a partial page")
    else
      match records with
      | [] => .ok none
      | row :: _ => (ownClass source number table row).map some

/-- The record of some tables, from the one that is searched next. -/
def searchTables (number : String) :
    List String → Option Record → Except RecordResolveError (Option Record)
  | [], found => .ok found
  | table :: tables, found =>
    match tableRecord source number table with
    | .error err => .error err
    | .ok none => searchTables number tables found
    | .ok (some row) =>
      if (found.any fun other => other.sysId ≠ row.sysId) = true then
        .error (.integrity "record number matches multiple types")
      else searchTables number tables (some row)

/-- The tables of a number: the one that is given, or those of its prefix. -/
def numberTables (number : String) (scope : Option String) :
    Except RecordResolveError (List String) :=
  match scope with
  | some table => .ok [table]
  | none => prefixTables source (numberPrefix number)

/-- `lookup_number_scoped`. -/
def lookupNumberScoped (number : String) (scope : Option String) :
    Except RecordResolveError (Option Record) := do
  let number ← normalNumber number
  if numberPrefix number = "" then
    throw (.invalidParams "record number requires a prefix")
  else if (scope.any fun table => !identifier table) = true then
    throw (.invalidParams "invalid table scope")
  else
    let mapping := numberTables source number scope
    let tables ← searchedTables mapping
    match searchTables source number tables none with
    | .error err => throw err
    | .ok (some record) => return some record
    | .ok none => mapping.map fun _ => none

/-! ## What there is -/

/-- A record of ServiceNow: its number and its class. -/
structure SiteRow where
  sysId : String
  number : String
  cls : String

/-- The records, the classes that descend from a table, how texts are compared, and which tables
the metadata of numbers maps to a prefix. -/
structure NumberSite where
  rows : List SiteRow
  isA : String → String → Bool
  sameText : String → String → Bool
  numbers : List (String × String)
  keys : (rows.map SiteRow.sysId).Nodup
  isA_self : ∀ cls, isA cls cls = true
  sameText_self : ∀ text, sameText text text = true

namespace NumberSite

variable (site : NumberSite)

/-- The records that are visible through a table and have a number. -/
def numbered (table number : String) : List SiteRow :=
  site.rows.filter fun row => site.isA row.cls table && site.sameText row.number number

/-- The entries of the metadata for a prefix. -/
def entries (numberPrefix : String) : List (String × String) :=
  site.numbers.filter fun entry => site.sameText entry.1 numberPrefix

end NumberSite

/-- **A record as it is read through a table.**  A field may be hidden; where the class is, the table
is that of the class itself or one of the three parents that are known. -/
structure ReadsAs (row : SiteRow) (table : String) (record : Record) : Prop where
  sysId : record.sysId = row.sysId
  through : record.table = table
  shown : ∀ n ∈ record.getRaw "number", n = row.number
  cls : record.getRaw "sys_class_name" = some row.cls ∧ row.cls ≠ "" ∨
    (record.getRaw "sys_class_name").getD "" = "" ∧
      (table = row.cls ∨ table ∈ ["task", "cmdb_ci", "sys_metadata"])

/-- An entry of the metadata as it is read. -/
structure ReadsEntry (entry : String × String) (record : Record) : Prop where
  named : ∀ table ∈ record.getRaw "category", table = entry.2

/-- **ServiceNow answers from what there is**, in any order, wherever it answers. -/
structure Serves (site : NumberSite) (source : NumberSource) : Prop where
  page : ∀ table number records, source.page table number = some (false, records) →
    ∃ listed : List SiteRow, listed.Perm (site.numbered table number) ∧
      List.Forall₂ (fun row record => ReadsAs row table record) (listed.take 2) records
  get : ∀ table sysId record, source.get table sysId = some record →
    ∃ row ∈ site.rows, row.sysId = sysId ∧ ReadsAs row table record
  numbers : ∀ numberPrefix records, source.numbers numberPrefix = .page false records →
    ∃ listed : List (String × String), listed.Perm (site.entries numberPrefix) ∧
      List.Forall₂ ReadsEntry (listed.take 21) records

/-! ## What a lookup has to tell -/

/-- **A record is the one of a number**: the number is its own, its table is its actual class, and no
table of some tables has another record with the number. -/
structure Unambiguous (site : NumberSite) (number : String) (tables : List String)
    (record : Record) : Prop where
  own : record.getRaw "number" = some number
  actual : ∃ row ∈ site.rows, row.sysId = record.sysId ∧ row.number = number ∧
    record.table = row.cls
  alone : ∀ table ∈ tables, ∀ row ∈ site.rows, site.isA row.cls table = true →
    row.number = number → row.sysId = record.sysId

/-- Some tables were read, and none has a record with a number. -/
def Absent (site : NumberSite) (source : NumberSource) (number : String) (tables : List String) :
    Prop :=
  ∀ table ∈ tables, (source.page table number).isSome ∧
    ∀ row ∈ site.rows, site.isA row.cls table = true → row.number ≠ number

/-! ## One record -/

variable {result : Option Record}

section

variable {site : NumberSite} {source : NumberSource} {row other : SiteRow} {record : Record}
variable {table number : String}

/-- The class a record shows is its own. -/
theorem ReadsAs.actualTable (h : ReadsAs row table record) {cls : String}
    (hcls : actualTable record = .ok cls) : cls = row.cls := by
  unfold Resolve.actualTable at hcls
  split_ifs at hcls with hparent
  obtain ⟨named, hnamed, hcls⟩ := bind_eq_ok_iff.mp hcls
  have hsame : cls = named := by
    split_ifs at hcls
    exact (Except.ok.inj hcls).symm
  rw [hsame]
  unfold namedClass at hnamed
  rcases h.cls with ⟨hshown, hne⟩ | ⟨hhidden, htable⟩
  · rw [hshown] at hnamed
    dsimp only at hnamed
    rw [if_neg hne] at hnamed
    exact (Except.ok.inj hnamed).symm
  · have hown : record.table = row.cls := by
      rw [h.through]
      rcases htable with htable | htable
      · exact htable
      · exact absurd ⟨by rw [h.through]; exact htable, hhidden⟩ hparent
    rcases hraw : record.getRaw "sys_class_name" with _ | value
    · rw [hraw] at hnamed
      dsimp only at hnamed
      split_ifs at hnamed
      rw [← Except.ok.inj hnamed, hown]
    · rw [hraw] at hnamed hhidden
      rw [Option.getD_some] at hhidden
      dsimp only at hnamed
      rw [if_pos hhidden] at hnamed
      rw [← Except.ok.inj hnamed, hown]

theorem NumberSite.row_unique (hrow : row ∈ site.rows) (hother : other ∈ site.rows)
    (h : row.sysId = other.sysId) : row = other :=
  List.inj_on_of_nodup_map site.keys hrow hother h

/-- The record of its own class is the same row, with the number. -/
theorem ownClass_ok (hserves : Serves site source) (hreads : ReadsAs row table record) {found : Record}
    (h : ownClass source number table record = .ok found) :
    found.getRaw "number" = some number ∧ found.sysId = row.sysId ∧ row.number = number ∧
      found.table = row.cls := by
  unfold ownClass at h
  split_ifs at h with hnumber
  have hown : record.getRaw "number" = some number := not_not.mp hnumber
  have hrownumber : row.number = number := (hreads.shown number hown).symm
  obtain ⟨actual, hactual, h⟩ := bind_eq_ok_iff.mp h
  have hcls := hreads.actualTable hactual
  split_ifs at h with hsame
  · cases h
    exact ⟨hown, hreads.sysId, hrownumber, by rw [hreads.through, ← hsame, hcls]⟩
  · rcases hget : source.get actual record.sysId with _ | again
    · rw [hget] at h
      cases h
    · rw [hget] at h
      dsimp only at h
      split_ifs at h with hchanged
      obtain ⟨after, hafter, h⟩ := bind_eq_ok_iff.mp h
      split_ifs at h with hclass
      cases h
      obtain ⟨hid, hagain⟩ := not_or.mp hchanged
      obtain ⟨row', hrow', hid', hreads'⟩ := hserves.get actual record.sysId found hget
      refine ⟨not_not.mp hagain, (not_not.mp hid).trans hreads.sysId, hrownumber, ?_⟩
      rw [hreads'.through, hcls]

theorem mem_numbered (hrow : row ∈ site.rows) (htable : site.isA row.cls table = true)
    (hnumber : row.number = number) : row ∈ site.numbered table number := by
  refine List.mem_filter.mpr ⟨hrow, ?_⟩
  rw [htable, hnumber, site.sameText_self, Bool.and_true]

/-- **What a table answers with.**  Its record is the row with the number, and no other row that is
visible through the table has it. -/
theorem tableRecord_some (hserves : Serves site source)
    (h : tableRecord source number table = .ok (some record)) :
    Unambiguous site number [table] record := by
  unfold tableRecord at h
  rcases hpage : source.page table number with _ | ⟨errors, records⟩
  · rw [hpage] at h
    cases h
  · rw [hpage] at h
    dsimp only at h
    split_ifs at h with hbad
    obtain ⟨herrors, hfew⟩ := not_or.mp hbad
    rw [Bool.not_eq_true] at herrors
    subst herrors
    obtain ⟨listed, hperm, hreads⟩ := hserves.page table number records hpage
    rcases records with _ | ⟨first, rest⟩
    · cases h
    · obtain rfl : rest = [] := by
        rw [List.length_cons, not_lt] at hfew
        exact List.length_eq_zero_iff.mp (by omega)
      have hlength := hreads.length_eq
      rw [List.length_take, List.length_singleton] at hlength
      obtain ⟨row, rfl⟩ := List.length_eq_one_iff.mp (show listed.length = 1 by omega)
      have hfirst : ReadsAs row table first := (List.forall₂_cons.mp hreads).1
      have hmem : row ∈ site.rows :=
        (List.mem_filter.mp (hperm.mem_iff.mp (List.mem_singleton_self row))).1
      obtain ⟨found, hfound, hsome⟩ := map_eq_ok_iff.mp h
      cases hsome
      obtain ⟨hown, hid, hnumber, htable⟩ := ownClass_ok hserves hfirst hfound
      refine ⟨hown, ⟨row, hmem, hid.symm, hnumber, htable⟩, ?_⟩
      intro t ht other hother hvisible hothernumber
      obtain rfl := List.mem_singleton.mp ht
      have hin := hperm.mem_iff.mpr (mem_numbered hother hvisible hothernumber)
      rw [List.mem_singleton.mp hin, hid]

/-- A table without the record was read, and no row that is visible through it has the number. -/
theorem tableRecord_none (hserves : Serves site source)
    (h : tableRecord source number table = .ok none) : Absent site source number [table] := by
  unfold tableRecord at h
  intro t ht
  obtain rfl := List.mem_singleton.mp ht
  rcases hpage : source.page t number with _ | ⟨errors, records⟩
  · rw [hpage] at h
    cases h
  · refine ⟨rfl, fun row hrow hvisible hnumber => ?_⟩
    rw [hpage] at h
    dsimp only at h
    split_ifs at h with hbad
    obtain ⟨herrors, -⟩ := not_or.mp hbad
    rw [Bool.not_eq_true] at herrors
    subst herrors
    obtain ⟨listed, hperm, hreads⟩ := hserves.page t number records hpage
    rcases records with _ | ⟨first, rest⟩
    · have hin := hperm.mem_iff.mpr (mem_numbered hrow hvisible hnumber)
      rcases listed with _ | ⟨other, listed⟩
      · exact List.not_mem_nil hin
      · cases hreads
    · obtain ⟨_, -, hsome⟩ := map_eq_ok_iff.mp h
      cases hsome

/-! ## Some tables -/

theorem Unambiguous.append {tables tables' : List String} (h : Unambiguous site number tables record)
    (h' : ∀ table ∈ tables', ∀ row ∈ site.rows, site.isA row.cls table = true →
      row.number = number → row.sysId = record.sysId) :
    Unambiguous site number (tables ++ tables') record := by
  refine ⟨h.own, h.actual, fun table htable => ?_⟩
  rcases List.mem_append.mp htable with htable | htable
  · exact h.alone table htable
  · exact h' table htable

/-- **What some tables answer with**, after others: a record that is the only one of all of them, or
none if none has one. -/
theorem searchTables_ok (hserves : Serves site source) {before tables : List String}
    {found result : Option Record}
    (hfound : ∀ record ∈ found, Unambiguous site number before record)
    (hnone : found = none → Absent site source number before)
    (h : searchTables source number tables found = .ok result) :
    (∀ record ∈ result, Unambiguous site number (before ++ tables) record) ∧
      (result = none → Absent site source number (before ++ tables)) := by
  induction tables generalizing before found with
  | nil =>
    cases h
    rw [List.append_nil]
    exact ⟨hfound, hnone⟩
  | cons table tables ih =>
    rw [List.append_cons]
    unfold searchTables at h
    rcases htable : tableRecord source number table with err | _ | row
    · rw [htable] at h
      cases h
    · rw [htable] at h
      have habsent := tableRecord_none hserves htable
      refine ih (fun record hrecord => (hfound record hrecord).append ?_) (fun hno => ?_) h
      · intro t ht row hrow hvisible hnumber
        exact absurd hnumber ((habsent t ht).2 row hrow hvisible)
      · intro t ht
        rcases List.mem_append.mp ht with ht | ht
        · exact hnone hno t ht
        · exact habsent t ht
    · rw [htable] at h
      dsimp only at h
      split_ifs at h with hother
      have hrow := tableRecord_some hserves htable
      refine ih (fun record hrecord => ?_) (fun hno => by cases hno) h
      cases hrecord
      rcases found with _ | other
      · refine ⟨hrow.own, hrow.actual, fun t ht => ?_⟩
        rcases List.mem_append.mp ht with ht | ht
        · intro other hmem hvisible hnumber
          exact absurd hnumber ((hnone rfl t ht).2 other hmem hvisible)
        · exact hrow.alone t ht
      · have hsame : other.sysId = row.sysId := by simpa using hother
        refine ⟨hrow.own, hrow.actual, fun t ht => ?_⟩
        rcases List.mem_append.mp ht with ht | ht
        · intro far hmem hvisible hnumber
          rw [← hsame]
          exact (hfound other rfl).alone t ht far hmem hvisible hnumber
        · exact hrow.alone t ht

/-! ## The tables of a prefix -/

variable {records : List Record}

theorem mem_insertTable {t : String} : ∀ {tables : List String},
    t ∈ insertTable table tables ↔ t = table ∨ t ∈ tables
  | [] => by simp [insertTable]
  | other :: tables => by
    rw [insertTable]
    split_ifs with hbefore hsame
    · rw [List.mem_cons]
    · rw [hsame, List.mem_cons, ← or_assoc, or_self]
    · rw [List.mem_cons, mem_insertTable, List.mem_cons, or_left_comm]

/-- The tables that rows name are those of the entries they are read from. -/
theorem mem_namedTables {numberPrefix t : String} {listed : List (String × String)}
    {before tables : List String}
    (hreads : List.Forall₂ ReadsEntry listed records)
    (h : namedTables numberPrefix records before = .ok tables) :
    t ∈ tables ↔ t ∈ before ∨ ∃ entry ∈ listed, entry.2 = t := by
  induction hreads generalizing before with
  | nil =>
    cases h
    simp
  | @cons entry record listed records hentry hreads ih =>
    unfold namedTables at h
    split_ifs at h with hmatch
    rcases hcategory : (record.getRaw "category").filter identifier with _ | table
    · rw [hcategory] at h
      cases h
    · rw [hcategory] at h
      have hnamed := hentry.named table (Option.filter_eq_some_iff.mp hcategory).1
      rw [ih h, mem_insertTable, hnamed]
      constructor
      · rintro ((rfl | hbefore) | ⟨other, hother, rfl⟩)
        · exact .inr ⟨entry, List.mem_cons_self, rfl⟩
        · exact .inl hbefore
        · exact .inr ⟨other, List.mem_cons_of_mem _ hother, rfl⟩
      · rintro (hbefore | ⟨other, hother, rfl⟩)
        · exact .inl (.inr hbefore)
        · rcases List.mem_cons.mp hother with rfl | hother
          · exact .inl (.inl rfl)
          · exact .inr ⟨other, hother, rfl⟩

/-- **Readable metadata is complete**: the tables of a prefix are those it maps to it, if there are
any. -/
theorem prefixTables_mapped (hserves : Serves site source) {numberPrefix : String}
    {tables : List String}
    (hpage : source.numbers numberPrefix = .page false records)
    (h : prefixTables source numberPrefix = .ok tables) (hsome : site.entries numberPrefix ≠ [])
    (t : String) : t ∈ tables ↔ ∃ entry ∈ site.entries numberPrefix, entry.2 = t := by
  obtain ⟨listed, hperm, hreads⟩ := hserves.numbers numberPrefix records hpage
  unfold prefixTables at h
  rw [hpage] at h
  dsimp only at h
  have hfew : ¬ 20 < records.length := by
    intro hmany
    rw [if_pos (.inr hmany)] at h
    cases h
  rw [if_neg (by simpa using hfew)] at h
  have hlength := hreads.length_eq
  rw [List.length_take] at hlength
  rw [List.take_of_length_le (by omega)] at hreads
  have hentries : (∃ entry ∈ site.entries numberPrefix, entry.2 = t) ↔
      ∃ entry ∈ listed, entry.2 = t := by
    constructor
    · rintro ⟨entry, hentry, rfl⟩
      exact ⟨entry, hperm.mem_iff.mpr hentry, rfl⟩
    · rintro ⟨entry, hentry, rfl⟩
      exact ⟨entry, hperm.mem_iff.mp hentry, rfl⟩
  rcases hnamed : namedTables numberPrefix records [] with err | _ | ⟨first, rest⟩
  · rw [hnamed] at h
    cases h
  · obtain ⟨entry, hentry⟩ := List.exists_mem_of_ne_nil _ hsome
    have hmem : entry.2 ∈ ([] : List String) :=
      (mem_namedTables hreads hnamed).mpr (.inr ⟨entry, hperm.mem_iff.mpr hentry, rfl⟩)
    exact absurd hmem List.not_mem_nil
  · rw [hnamed] at h
    cases h
    rw [hentries, mem_namedTables hreads hnamed]
    simp

/-! ## A lookup -/

/-- The tables that are searched where some are named: these, or else that of tasks. -/
def searchedOf : List String → List String
  | [] => ["task"]
  | table :: tables => table :: tables

theorem lookup_searches {number normal : String} {scope : Option String}
    (hnormal : normalNumber number = .ok normal)
    (h : lookupNumberScoped source number scope = .ok result) :
    ∃ tables, searchedTables (numberTables source normal scope) = .ok tables ∧
      searchTables source normal tables none = .ok result ∧
      (result = none → ∃ named, numberTables source normal scope = .ok named ∧
        tables = searchedOf named) := by
  unfold lookupNumberScoped at h
  rw [hnormal] at h
  obtain ⟨_, hsame, h⟩ := bind_eq_ok_iff.mp h
  cases hsame
  split_ifs at h
  obtain ⟨tables, htables, h⟩ := bind_eq_ok_iff.mp h
  refine ⟨tables, htables, ?_, ?_⟩
  · rcases hsearch : searchTables source normal tables none with err | _ | record
    · rw [hsearch] at h
      cases h
    · rw [hsearch] at h
      obtain ⟨_, _, rfl⟩ := map_eq_ok_iff.mp h
      rfl
    · rw [hsearch] at h
      cases h
      rfl
  · rintro rfl
    rcases hsearch : searchTables source normal tables none with err | _ | record
    · rw [hsearch] at h
      cases h
    · rw [hsearch] at h
      obtain ⟨named, hnamed, _⟩ := map_eq_ok_iff.mp h
      refine ⟨named, hnamed, ?_⟩
      rw [hnamed] at htables
      rcases named with _ | ⟨first, rest⟩
      · exact (Except.ok.inj htables).symm
      · exact (Except.ok.inj htables).symm
    · rw [hsearch] at h
      cases h

end

/-- **A lookup of a number is sound.**  The record it returns is the only one of the tables that are
searched; it returns none only if the tables are known, were all read and have none; and the tables
are those that readable metadata maps to the prefix. -/
structure SoundLookup (site : NumberSite) (source : NumberSource) (number normal : String)
    (scope : Option String) : Prop where
  found : ∀ record, lookupNumberScoped source number scope = .ok (some record) →
    ∃ tables, searchedTables (numberTables source normal scope) = .ok tables ∧
      Unambiguous site normal tables record
  absent : lookupNumberScoped source number scope = .ok none →
    ∃ named, numberTables source normal scope = .ok named ∧
      Absent site source normal (searchedOf named)
  mapped : ∀ records, source.numbers (numberPrefix normal) = .page false records →
    site.entries (numberPrefix normal) ≠ [] →
      ∀ named, numberTables source normal none = .ok named →
        ∀ t, t ∈ named ↔ ∃ entry ∈ site.entries (numberPrefix normal), entry.2 = t

/-- Two lookups that both answer, the second of which searches the record's own class, find the same
record. -/
def SameRecord (source source' : NumberSource) (number normal : String)
    (scope scope' : Option String) : Prop :=
  ∀ record, lookupNumberScoped source number scope = .ok (some record) →
    ∀ tables, searchedTables (numberTables source' normal scope') = .ok tables →
      record.table ∈ tables → ∀ result, lookupNumberScoped source' number scope' = .ok result →
        ∃ record', result = some record' ∧ record'.sysId = record.sysId ∧
          record'.table = record.table

section

variable {site : NumberSite} {source source' : NumberSource} {number normal : String}
variable {scope scope' : Option String}

theorem lookup_result (hserves : Serves site source) (hnormal : normalNumber number = .ok normal)
    (h : lookupNumberScoped source number scope = .ok result) :
    ∃ tables, searchedTables (numberTables source normal scope) = .ok tables ∧
      (∀ record ∈ result, Unambiguous site normal tables record) ∧
      (result = none → Absent site source normal tables ∧
        ∃ named, numberTables source normal scope = .ok named ∧ tables = searchedOf named) := by
  obtain ⟨tables, htables, hsearch, hnone⟩ := lookup_searches hnormal h
  have hresult : (∀ record ∈ result, Unambiguous site normal ([] ++ tables) record) ∧
      (result = none → Absent site source normal ([] ++ tables)) :=
    searchTables_ok hserves (fun _ hno => by cases hno)
      (fun _ _ hno => (List.not_mem_nil hno).elim) hsearch
  exact ⟨tables, htables, hresult.1, fun hno => ⟨hresult.2 hno, hnone hno⟩⟩

theorem soundLookup (hserves : Serves site source) (hnormal : normalNumber number = .ok normal) :
    SoundLookup site source number normal scope := by
  refine ⟨fun record h => ?_, fun h => ?_, fun records hpage hsome named hnamed t => ?_⟩
  · obtain ⟨tables, htables, hrecord, -⟩ := lookup_result hserves hnormal h
    exact ⟨tables, htables, hrecord record rfl⟩
  · obtain ⟨tables, -, -, hnone⟩ := lookup_result hserves hnormal h
    obtain ⟨habsent, named, hnamed, rfl⟩ := hnone rfl
    exact ⟨named, hnamed, habsent⟩
  · exact prefixTables_mapped hserves hpage hnamed hsome t

theorem sameRecord (hserves : Serves site source) (hserves' : Serves site source')
    (hnormal : normalNumber number = .ok normal) :
    SameRecord source source' number normal scope scope' := by
  intro record h tables htables hown result h'
  obtain ⟨_, -, hrecord, -⟩ := lookup_result hserves hnormal h
  obtain ⟨row, hrow, hid, hnumber, htable⟩ := (hrecord record rfl).actual
  have hvisible : site.isA row.cls record.table = true := by
    rw [htable]
    exact site.isA_self row.cls
  obtain ⟨tables', htables', hrecord', hnone⟩ := lookup_result hserves' hnormal h'
  obtain rfl := Except.ok.inj (htables.symm.trans htables')
  rcases result with _ | record'
  · exact absurd hnumber (((hnone rfl).1 record.table hown).2 row hrow hvisible)
  · have hunique := hrecord' record' rfl
    have hsame := hunique.alone record.table hown row hrow hvisible hnumber
    obtain ⟨row', hrow', hid', -, htable'⟩ := hunique.actual
    obtain rfl := site.row_unique hrow hrow' (hsame.trans hid'.symm)
    exact ⟨record', rfl, hsame.symm.trans hid, htable'.trans htable.symm⟩

end

/-- **The lookup of a number is unambiguous in the tables it searches**, and does not depend on which
other tables are searched beside that of the record's own class. -/
theorem number_lookup_sound (site : NumberSite) (source source' : NumberSource)
    (hserves : Serves site source) (hserves' : Serves site source') (number normal : String)
    (hnormal : normalNumber number = .ok normal) (scope scope' : Option String) :
    SoundLookup site source number normal scope ∧
      SameRecord source source' number normal scope scope' :=
  ⟨soundLookup hserves hnormal, sameRecord hserves hserves' hnormal⟩

/-! ## Hidden metadata -/

/-- A row with its number and its class, as it is read through a table. -/
def readRow (table : String) (row : SiteRow) : Record where
  sysId := row.sysId
  table := table
  fields := [("number", ⟨some (.string row.number), none⟩),
    ("sys_class_name", ⟨some (.string row.cls), none⟩)]

/-- An entry of the metadata, as it is read. -/
def readEntry (entry : String × String) : Record where
  sysId := ""
  table := "sys_number"
  fields := [("prefix", ⟨some (.string entry.1), none⟩),
    ("category", ⟨some (.string entry.2), none⟩)]

/-- ServiceNow with some tables readable and the metadata of numbers hidden or not; the core knows
the prefix of incidents. -/
def NumberSite.answers (site : NumberSite) (readable : String → Bool) (hidden : Bool) :
    NumberSource where
  numbers numberPrefix :=
    if hidden then .denied else .page false (((site.entries numberPrefix).take 21).map readEntry)
  page table number :=
    if readable table then some (false, ((site.numbered table number).take 2).map (readRow table))
    else none
  get table sysId := (site.rows.find? fun row => row.sysId = sysId).map (readRow table)
  tableForNumber number := if number = "INC0" then some "incident" else none

theorem readRow_reads {row : SiteRow} (h : row.cls ≠ "") (table : String) :
    ReadsAs row table (readRow table row) := by
  refine ⟨rfl, rfl, fun n hn => ?_, .inl ⟨rfl, h⟩⟩
  have hraw : (readRow table row).getRaw "number" = some row.number := rfl
  rw [hraw] at hn
  exact (Option.some.inj hn).symm

theorem readEntry_reads (entry : String × String) : ReadsEntry entry (readEntry entry) := by
  refine ⟨fun table htable => ?_⟩
  have hraw : (readEntry entry).getRaw "category" = some entry.2 := rfl
  rw [hraw] at htable
  exact (Option.some.inj htable).symm

theorem forall₂_map_right {α β : Type} {R : α → β → Prop} {f : α → β} {l : List α}
    (h : ∀ a ∈ l, R a (f a)) : List.Forall₂ R l (l.map f) := by
  induction l with
  | nil => exact .nil
  | cons a l ih =>
    exact .cons (h a List.mem_cons_self) (ih fun b hb => h b (List.mem_cons_of_mem _ hb))

theorem NumberSite.answers_serves (site : NumberSite) (hcls : ∀ row ∈ site.rows, row.cls ≠ "")
    (readable : String → Bool) (hidden : Bool) : Serves site (site.answers readable hidden) := by
  refine ⟨fun table number records h => ?_, fun table sysId record h => ?_,
    fun numberPrefix records h => ?_⟩
  · unfold NumberSite.answers at h
    dsimp only at h
    split_ifs at h
    cases h
    refine ⟨_, List.Perm.refl _, forall₂_map_right fun row hrow => readRow_reads (hcls row ?_) table⟩
    exact (List.mem_filter.mp (List.mem_of_mem_take hrow)).1
  · obtain ⟨row, hfind, rfl⟩ := Option.map_eq_some_iff.mp h
    have hrow := List.mem_of_find?_eq_some hfind
    exact ⟨row, hrow, by simpa using List.find?_some hfind, readRow_reads (hcls row hrow) table⟩
  · unfold NumberSite.answers at h
    dsimp only at h
    split_ifs at h
    cases h
    exact ⟨_, List.Perm.refl _, forall₂_map_right fun entry _ => readEntry_reads entry⟩

/-- A site whose classes descend from tasks. -/
def taskSite (numbers : List (String × String)) (rows : List SiteRow)
    (h : (rows.map SiteRow.sysId).Nodup) : NumberSite where
  rows := rows
  isA cls table := cls == table || table == "task"
  sameText a b := a == b
  numbers := numbers
  keys := h
  isA_self cls := by simp
  sameText_self text := by simp

/-- Incidents and tickets share a prefix. -/
def ticketNumbers : List (String × String) := [("INC", "incident"), ("INC", "u_ticket")]

/-- An incident. -/
def firstIncident : SiteRow := ⟨"a1", "INC0000001", "incident"⟩

/-- A ticket of the same number. -/
def firstTicket : SiteRow := ⟨"b1", "INC0000001", "u_ticket"⟩

/-- An incident alone. -/
def incidentSite : NumberSite := taskSite ticketNumbers [firstIncident] (by decide)

/-- A ticket alone. -/
def ticketAlone : NumberSite := taskSite ticketNumbers [firstTicket] (by decide)

/-- An incident and a ticket of one number. -/
def sharedNumber : NumberSite := taskSite ticketNumbers [firstIncident, firstTicket] (by decide)

/-- An incident, under some tables of its prefix, of which that of tasks cannot be read. -/
def lookupUnder (tables : List String) : Except RecordResolveError (Option Record) :=
  lookupNumberScoped ((taskSite (tables.map fun table => ("INC", table)) [firstIncident]
    (by decide)).answers (fun table => table != "task") false) "INC0000001" none

/-- The one record of a number, through the tables that readable metadata names. -/
theorem incident_lookup_sound :
    SoundLookup incidentSite (incidentSite.answers (fun _ => true) false) " inc0000001 "
        "INC0000001" none ∧
      SameRecord (incidentSite.answers (fun _ => true) false)
        (incidentSite.answers (fun _ => true) true) " inc0000001 " "INC0000001" none
        (some "task") := by
  have hcls : ∀ row ∈ incidentSite.rows, row.cls ≠ "" := by decide
  exact number_lookup_sound incidentSite _ _ (incidentSite.answers_serves hcls (fun _ => true) false)
    (incidentSite.answers_serves hcls (fun _ => true) true) " inc0000001 " "INC0000001"
    (by decide +kernel) none (some "task")

/-- **Hidden metadata.**  The core's table alone is searched: an incident is returned although a
table that is mapped to its prefix has another record with the number, and none although that table
has one.  And a lookup that finds an incident through its own table fails when a parent that cannot
be read is named too. -/
theorem hidden_metadata_ambiguous :
    (lookupNumberScoped (sharedNumber.answers (fun _ => true) true) "INC0000001" none =
        .ok (some (readRow "incident" firstIncident)) ∧
        ("INC", "u_ticket") ∈ sharedNumber.entries "INC" ∧
        firstTicket ∈ sharedNumber.numbered "u_ticket" "INC0000001") ∧
      (lookupNumberScoped (ticketAlone.answers (fun _ => true) true) "INC0000001" none = .ok none ∧
        ("INC", "u_ticket") ∈ ticketAlone.entries "INC" ∧
        firstTicket ∈ ticketAlone.numbered "u_ticket" "INC0000001") ∧
      lookupUnder ["incident"] = .ok (some (readRow "incident" firstIncident)) ∧
      lookupUnder ["incident", "task"] =
        .error (.unavailable "number lookup table is unreadable") := by
  refine ⟨⟨?_, ?_, ?_⟩, ⟨?_, ?_, ?_⟩, ?_, ?_⟩
  · decide +kernel
  · decide +kernel
  · exact List.mem_cons_self
  · decide +kernel
  · decide +kernel
  · exact List.mem_cons_self
  · decide +kernel
  · decide +kernel

end SnowAgent.Resolve
