import SnowAgent.VaultMarkdown

/-! # Front matters are YAML

What is written of a value is a block of YAML if the value is on one line, and is decoded to
the value.
-/
namespace SnowAgent.Markdown

open Json Text TextLines YamlBlocks

/-! ## Quotes -/

theorem escapeChar_noBreak (c : Char) : NoBreak (escapeChar c) := by
  have hhex : ∀ n, hexDigit n ≠ '\n' ∧ hexDigit n ≠ '\r' := by
    intro n
    have hmem := hexDigit_mem n
    exact ⟨fun h => absurd (h ▸ hmem) (by decide), fun h => absurd (h ▸ hmem) (by decide)⟩
  unfold escapeChar
  split_ifs with h1 h2 h3 h4 h5 h6
  · simp [noBreak_nil]
  · simp [noBreak_nil]
  · simp [noBreak_nil]
  · simp [noBreak_nil]
  · simp [noBreak_nil]
  · simp [noBreak_nil]
  · simp [noBreak_nil]
  · simp [noBreak_nil, (hhex _).1, (hhex _).2]
  · simpa [noBreak_nil] using ⟨h5, h6⟩

theorem printString_noBreak (s : String) : NoBreak (printString s) := by
  have hchars : ∀ cs : List Char, NoBreak (printChars cs) := by
    intro cs
    induction cs with
    | nil => simp [printChars, noBreak_nil]
    | cons c cs ih => exact noBreak_append.mpr ⟨escapeChar_noBreak c, ih⟩
  exact noBreak_cons.mpr ⟨by decide, hchars _⟩

/-- Strings in quotes are written as in JSON. -/
def jsonQuoting : Quoting where
  print := printString
  starts s := ⟨printChars s.toList, rfl⟩
  noBreak := printString_noBreak
  append := printString_append

/-! ## Maps -/

variable {key : String}

namespace FieldMap

variable {α : Type} (m : FieldMap α)

theorem insert_last (value : α) (h : ∀ e ∈ m.entries, e.1 < key) :
    (m.insert key value).entries = m.entries ++ [(key, value)] := by
  have hall : m.entries.filter (fun e => e.1 < key) = m.entries :=
    List.filter_eq_self.mpr fun e he => by simpa using h e he
  have hnone : m.entries.filter (fun e => key < e.1) = [] :=
    List.filter_eq_nil_iff.mpr fun e he hlt => absurd (of_decide_eq_true hlt) (h e he).not_gt
  show m.entries.filter (fun e => e.1 < key) ++
    (key, value) :: m.entries.filter (fun e => key < e.1) = _
  rw [hall, hnone]

theorem foldl_insert {rest : List (String × α)}
    (h : (m.entries ++ rest).Pairwise fun e e' => e.1 < e'.1) :
    (rest.foldl (fun m e => m.insert e.1 e.2) m).entries = m.entries ++ rest := by
  induction rest generalizing m with
  | nil => simp
  | cons e rest ih =>
    have hbefore : ∀ e' ∈ m.entries, e'.1 < e.1 := fun e' he' =>
      (List.pairwise_append.mp h).2.2 e' he' e List.mem_cons_self
    have hentries := insert_last m e.2 hbefore
    rw [List.foldl_cons, ih (m.insert e.1 e.2), hentries, List.append_assoc]
    · rfl
    · rw [hentries, List.append_assoc]
      exact h

/-- A map is read back from its entries. -/
theorem ofEntries_entries : ofEntries m.entries = m := by
  ext1
  rw [ofEntries, foldl_insert]
  · rfl
  · exact m.sorted

theorem nodup_keys : (m.entries.map Prod.fst).Nodup := by
  rw [List.nodup_iff_pairwise_ne, List.pairwise_map]
  exact m.sorted.imp fun h => h.ne

end FieldMap

/-! ## Blocks -/

variable {b : Option Block} {value : String} (n : Nat) {e : String × Block}

/-- The text is on one line. -/
def SingleLine (s : String) : Prop := '\n' ∉ s.toList

instance (s : String) : Decidable (SingleLine s) := inferInstanceAs (Decidable (¬ _))

theorem yamlScalarIndented_single (h : SingleLine value) (indent : Nat) :
    yamlScalarIndented value indent = printString value := by
  rw [yamlScalarIndented, if_neg h]

theorem yamlScalar_single (h : SingleLine value) :
    yamlScalar value = printString value := yamlScalarIndented_single h 2

theorem writeEntry_quoted (key value : String) :
    writeEntry n key (printString value) =
      unlines (entryLines jsonQuoting n [(key, .quoted value)]) := by
  rw [unlines_entry, writeEntry]
  simp [jsonQuoting]

theorem writeKey_mapping (key : String) (entries : List (String × Block)) :
    writeKey n key ++ unlines (entryLines jsonQuoting (n + 2) entries) =
      unlines (entryLines jsonQuoting n [(key, .mapping entries)]) := by
  rw [unlines_entry, writeKey]
  simp

/-- The text of entries, one after another. -/
theorem flatMap_entries {α : Type} (block : α → String × Block) (write : α → List Char)
    {xs : List α} (h : ∀ x ∈ xs, write x = unlines (entryLines jsonQuoting n [block x])) :
    xs.flatMap write = unlines (entryLines jsonQuoting n (xs.map block)) := by
  induction xs with
  | nil => rfl
  | cons x xs ih =>
    rw [List.flatMap_cons, h x List.mem_cons_self, ih fun y hy => h y (List.mem_cons_of_mem _ hy),
      ← unlines_append, ← entryLines_concat]
    rfl

/-- An entry that may be left out. -/
def optional (key : String) (b : Option Block) : List (String × Block) :=
  (b.map fun b => (key, b)).toList

/-- A mapping, which is left out if it has no entries. -/
def mappingBlock (entries : List (String × Block)) : Option Block :=
  if entries = [] then none else some (.mapping entries)

theorem mem_optional (h : e ∈ optional key b) : e.1 = key ∧ b = some e.2 := by
  cases b with
  | none => simp [optional] at h
  | some b =>
    have he : e = (key, b) := by simpa [optional] using h
    rw [he]
    exact ⟨rfl, rfl⟩

theorem optional_keys (key : String) (b : Option Block) :
    ((optional key b).map Prod.fst).Sublist [key] := by
  cases b with
  | none => exact List.nil_sublist _
  | some b => exact List.Sublist.refl _

/-- The value of entries, of which one may be left out. -/
theorem lookup_optional (key key' : String) (b : Option Block) :
    (valueEntries (optional key' b)).lookup key =
      if key = key' then b.map Block.value else none := by
  cases b with
  | none => simp [optional, valueEntries]
  | some b =>
    by_cases h : key = key'
    · simp [optional, valueEntries, h]
    · simp [optional, valueEntries, List.lookup_cons, h, beq_false_of_ne h]

theorem valueEntries_append (entries entries' : List (String × Block)) :
    valueEntries (entries ++ entries') = valueEntries entries ++ valueEntries entries' := by
  rw [valueEntries_eq_map, valueEntries_eq_map, valueEntries_eq_map, List.map_append]

/-! ## Entries that may be left out -/

/-- The entries of a table that are not left out. -/
def entriesOf (table : List (String × Option Block)) : List (String × Block) :=
  table.flatMap fun e => optional e.1 e.2

section Table

variable {table : List (String × Option Block)}

theorem entriesOf_cons (e : String × Option Block) (table : List (String × Option Block)) :
    entriesOf (e :: table) = optional e.1 e.2 ++ entriesOf table := List.flatMap_cons

theorem unlines_entriesOf (table : List (String × Option Block)) :
    unlines (entryLines jsonQuoting n (entriesOf table)) =
      table.flatMap fun e => unlines (entryLines jsonQuoting n (optional e.1 e.2)) := by
  induction table with
  | nil => rfl
  | cons e table ih => rw [entriesOf_cons, entryLines_concat, unlines_append, ih, List.flatMap_cons]

theorem entriesOf_keys (table : List (String × Option Block)) :
    ((entriesOf table).map Prod.fst).Sublist (table.map Prod.fst) := by
  induction table with
  | nil => exact List.Sublist.refl _
  | cons e table ih =>
    rw [entriesOf_cons, List.map_append, List.map_cons]
    exact (optional_keys e.1 e.2).append ih

theorem mem_entriesOf (h : e ∈ entriesOf table) : (e.1, some e.2) ∈ table := by
  obtain ⟨row, hrow, he⟩ := List.mem_flatMap.mp h
  obtain ⟨hkey, hblock⟩ := mem_optional he
  rw [hkey, ← hblock]
  exact hrow

/-- Every key of a table has its own value, or none. -/
theorem lookup_entriesOf (hnodup : (table.map Prod.fst).Nodup) (h : (key, b) ∈ table) :
    (valueEntries (entriesOf table)).lookup key = b.map Block.value := by
  have hnone : ∀ {table : List (String × Option Block)}, key ∉ table.map Prod.fst →
      (valueEntries (entriesOf table)).lookup key = none := by
    intro table hkey
    rw [List.lookup_eq_none_iff]
    intro e he
    rw [valueEntries_eq_map] at he
    obtain ⟨e', he', rfl⟩ := List.mem_map.mp he
    have hmem := (entriesOf_keys table).subset (List.mem_map_of_mem he')
    exact bne_iff_ne.mpr fun heq => hkey (heq ▸ hmem)
  induction table with
  | nil => cases h
  | cons e table ih =>
    rw [List.map_cons, List.nodup_cons] at hnodup
    rw [entriesOf_cons, valueEntries_append, List.lookup_append, lookup_optional]
    rcases List.mem_cons.mp h with rfl | hmem
    · rw [if_pos rfl, hnone hnodup.1, Option.or_none]
    · have hne : key ≠ e.1 := fun heq => hnodup.1 (heq ▸ List.mem_map_of_mem hmem)
      rw [if_neg hne, Option.none_or, ih hnodup.2 hmem]

theorem readField_table {α : Type} {read : Yaml → Option α} {b : Block}
    (hnodup : (table.map Prod.fst).Nodup) (h : (key, some b) ∈ table) :
    readField read key (valueEntries (entriesOf table)) = read b.value := by
  rw [readField, lookup_entriesOf hnodup h]
  rfl

theorem readFieldOr_table {α : Type} {default : α} {read : Yaml → Option α}
    (hnodup : (table.map Prod.fst).Nodup) (h : (key, b) ∈ table) :
    readFieldOr default read key (valueEntries (entriesOf table)) =
      ((b.map Block.value).map read).getD (some default) := by
  rw [readFieldOr, lookup_entriesOf hnodup h]

end Table

/-! ## Blocks of references and fields -/

variable {references : FieldMap Reference} {r : Reference} {fields : FieldMap FieldValue}

/-- The texts of a reference are on one line, and the names of its extras are plain. -/
structure Reference.Single (r : Reference) : Prop where
  sysId : SingleLine r.sysId
  table : SingleLine r.table
  displayName : SingleLine r.displayName
  extra : ∀ e ∈ r.extra.entries, PlainKey e.1 ∧ SingleLine e.2

/-- The entries of a reference. -/
def referenceTable (r : Reference) : List (String × Option Block) :=
  [("sys_id", some (.quoted r.sysId)), ("table", some (.quoted r.table)),
    ("display_name", some (.quoted r.displayName)),
    ("extra", mappingBlock (r.extra.entries.map fun e => (e.1, .quoted e.2)))]

def referenceBlocks (r : Reference) : List (String × Block) := entriesOf (referenceTable r)

theorem writeReference_eq (h : r.Single) (n : Nat) :
    writeReference n r = unlines (entryLines jsonQuoting n (referenceBlocks r)) := by
  have hextra : (if r.extra.entries = [] then [] else
      writeKey n "extra" ++ r.extra.entries.flatMap fun e =>
        writeEntry (n + 2) e.1 (yamlScalar e.2)) =
      unlines (entryLines jsonQuoting n
        (optional "extra" (mappingBlock (r.extra.entries.map fun e => (e.1, .quoted e.2))))) := by
    by_cases hnil : r.extra.entries = []
    · rw [if_pos hnil, hnil]
      rfl
    · have hne : r.extra.entries.map (fun e => (e.1, Block.quoted e.2)) ≠ [] := by simpa using hnil
      rw [if_neg hnil, mappingBlock, if_neg hne, flatMap_entries (n + 2)
        (fun e : String × String => (e.1, Block.quoted e.2)), writeKey_mapping]
      · rfl
      · intro e he
        rw [yamlScalar_single (h.extra e he).2, writeEntry_quoted]
  rw [writeReference, hextra, yamlScalar_single h.sysId, yamlScalar_single h.table,
    yamlScalar_single h.displayName, writeEntry_quoted, writeEntry_quoted, writeEntry_quoted,
    referenceBlocks, unlines_entriesOf, referenceTable, List.append_assoc, List.append_assoc]
  simp only [List.flatMap_cons, List.flatMap_nil, List.append_nil]
  rfl

theorem pushReference_eq (h : r.Single) (key : String) :
    pushReference key r =
      unlines (entryLines jsonQuoting 0 [(key, .mapping (referenceBlocks r))]) := by
  rw [pushReference, writeReference_eq h, writeKey_mapping]

theorem pushScalar_eq (h : SingleLine value) (key : String) :
    pushScalar key value = unlines (entryLines jsonQuoting 0 [(key, .quoted value)]) := by
  rw [pushScalar, yamlScalar_single h, writeEntry_quoted]

theorem pushBoolean_eq (key : String) (value : Bool) :
    pushBoolean key value = unlines (entryLines jsonQuoting 0 [(key, .flag value)]) := by
  rw [unlines_entry, pushBoolean, writeEntry]
  cases value with
  | true => simp [Block.head, Block.under]
  | false => simp [Block.head, Block.under]

/-- The names and texts of references are plain and on one line. -/
def ReferencesSingle (references : FieldMap Reference) : Prop :=
  ∀ e ∈ references.entries, PlainKey e.1 ∧ e.2.Single

def referencesBlocks (references : FieldMap Reference) : List (String × Block) :=
  references.entries.map fun e => (e.1, .mapping (referenceBlocks e.2))

theorem pushReferences_eq (h : ReferencesSingle references)
    (key : String) : pushReferences key references =
      unlines (entryLines jsonQuoting 0 [(key, .mapping (referencesBlocks references))]) := by
  rw [pushReferences, flatMap_entries 2
    (fun e : String × Reference => (e.1, Block.mapping (referenceBlocks e.2))), writeKey_mapping]
  · rfl
  · intro e he
    rw [writeReference_eq (h e he).2, writeKey_mapping]

/-- The names and values of fields are plain and on one line. -/
def FieldsSingle (fields : FieldMap FieldValue) : Prop :=
  ∀ e ∈ fields.entries, PlainKey e.1 ∧ SingleLine e.2.value ∧
    ∀ displayValue ∈ e.2.displayValue, SingleLine displayValue

/-- The entries of a field. -/
def fieldTable (value : FieldValue) : List (String × Option Block) :=
  [("value", some (.quoted value.value)), ("display_value", value.displayValue.map .quoted)]

def fieldBlocks (value : FieldValue) : List (String × Block) := entriesOf (fieldTable value)

def fieldsBlocks (fields : FieldMap FieldValue) : List (String × Block) :=
  fields.entries.map fun e => (e.1, .mapping (fieldBlocks e.2))

theorem pushFieldValues_eq (h : FieldsSingle fields) (key : String) : pushFieldValues key fields =
      unlines (entryLines jsonQuoting 0 [(key, .mapping (fieldsBlocks fields))]) := by
  rw [pushFieldValues, flatMap_entries 2
    (fun e : String × FieldValue => (e.1, Block.mapping (fieldBlocks e.2))), writeKey_mapping]
  · rfl
  · intro e he
    obtain ⟨_, hvalue, hdisplay⟩ := h e he
    rw [yamlScalarIndented_single hvalue, writeEntry_quoted, List.append_assoc]
    cases hshown : e.2.displayValue with
    | none =>
      rw [← writeKey_mapping, fieldBlocks, fieldTable, hshown]
      simp [entriesOf, optional]
    | some displayValue =>
      have hsingle := hdisplay displayValue (by rw [hshown]; rfl)
      rw [Option.map_some, Option.getD_some, yamlScalarIndented_single hsingle, writeEntry_quoted,
        ← unlines_append, ← entryLines_concat, writeKey_mapping, fieldBlocks, fieldTable, hshown]
      rfl

/-- A list of strings; nothing is written for one without strings. -/
def listBlock (values : List String) : Block :=
  if values = [] then .empty else .sequence (values.map .quoted)

theorem pushStringList_eq {values : List String} (h : ∀ value ∈ values, SingleLine value)
    (key : String) : pushStringList key values =
      unlines (entryLines jsonQuoting 0 [(key, listBlock values)]) := by
  have hitems : values.flatMap (fun value => "  - ".toList ++ yamlScalar value ++ ['\n']) =
      unlines (itemLines jsonQuoting 2 (values.map .quoted)) := by
    induction values with
    | nil => rfl
    | cons value values ih =>
      rw [List.flatMap_cons, ih fun v hv => h v (List.mem_cons_of_mem _ hv),
        yamlScalar_single (h value List.mem_cons_self), List.map_cons, itemLines, Block.item]
      simp [jsonQuoting, spaces]
  rw [pushStringList, hitems, unlines_entry, writeKey]
  by_cases hnil : values = []
  · rw [listBlock, if_pos hnil, hnil]
    simp [Block.head, Block.under, itemLines]
  · rw [listBlock, if_neg hnil]
    simp [Block.head, Block.under]

/-! ## Decoding -/

variable (values : List String)

/-- A map is decoded entry by entry. -/
theorem readMap_entries {α : Type} {read : Yaml → Option α} (block : α → Block)
    (m : FieldMap α) (h : ∀ e ∈ m.entries, read (block e.2).value = some e.2) :
    readMap read (.mapping (valueEntries (m.entries.map fun e => (e.1, block e.2)))) = some m := by
  have hmap : ∀ {entries : List (String × α)}, (∀ e ∈ entries, read (block e.2).value = some e.2) →
      ((entries.map fun e => (e.1, (block e.2).value)).mapM fun e : String × Yaml =>
        (read e.2).map fun value => (e.1, value)) = some entries := by
    intro entries hread
    induction entries with
    | nil => rfl
    | cons e entries ih =>
      rw [List.map_cons, List.mapM_cons, ih fun e' he' => hread e' (List.mem_cons_of_mem _ he'),
        hread e List.mem_cons_self]
      rfl
  rw [readMap, valueEntries_eq_map, List.map_map]
  have hentries := hmap h
  rw [Function.comp_def, hentries, Option.map_some, FieldMap.ofEntries_entries]

theorem readMap_optional {α : Type} {read : Yaml → Option α} (block : α → Block)
    (m : FieldMap α) (h : ∀ e ∈ m.entries, read (block e.2).value = some e.2) :
    (((mappingBlock (m.entries.map fun e => (e.1, block e.2))).map Block.value).map
      (readMap read)).getD (some FieldMap.empty) = some m := by
  by_cases hnil : m.entries = []
  · have hm : m = FieldMap.empty := FieldMap.ext hnil
    rw [hm]
    rfl
  · have hne : m.entries.map (fun e => (e.1, block e.2)) ≠ [] := by simpa using hnil
    rw [mappingBlock, if_neg hne]
    exact readMap_entries block m h

/-- A reference is decoded to what was written. -/
theorem readReference_blocks (r : Reference) :
    readReference (.mapping (valueEntries (referenceBlocks r))) = some r := by
  have hnodup : ((referenceTable r).map Prod.fst).Nodup :=
    show ["sys_id", "table", "display_name", "extra"].Nodup by decide
  have hstring : ∀ {key value : String} (i : Nat),
      (referenceTable r)[i]? = some (key, some (.quoted value)) →
      readField readString key (valueEntries (referenceBlocks r)) = some value :=
    fun i h => readField_table hnodup (List.mem_of_getElem? h)
  have hextra : readFieldOr FieldMap.empty (readMap readString) "extra"
      (valueEntries (referenceBlocks r)) = some r.extra :=
    (readFieldOr_table hnodup (List.mem_of_getElem? (i := 3) rfl)).trans
      (readMap_optional Block.quoted r.extra fun _ _ => rfl)
  rw [readReference, readMapping, hstring 0 rfl, hstring 1 rfl, hstring 2 rfl, hextra]
  rfl

theorem readFieldValue_blocks (value : FieldValue) :
    readFieldValue (.mapping (valueEntries (fieldBlocks value))) = some value := by
  obtain ⟨text, shown⟩ := value
  cases shown with
  | none => rfl
  | some displayValue => rfl

theorem readReferences_blocks (references : FieldMap Reference) :
    (((mappingBlock (referencesBlocks references)).map Block.value).map
      (readMap readReference)).getD (some FieldMap.empty) = some references :=
  readMap_optional (fun r => .mapping (referenceBlocks r)) references
    fun e _ => readReference_blocks e.2

theorem readFields_blocks (fields : FieldMap FieldValue) :
    (((mappingBlock (fieldsBlocks fields)).map Block.value).map
      (readMap readFieldValue)).getD (some FieldMap.empty) = some fields :=
  readMap_optional (fun value => .mapping (fieldBlocks value)) fields
    fun e _ => readFieldValue_blocks e.2

theorem readList_block : readList readString (listBlock values).value = some values := by
  have hitems : ∀ values : List String,
      ((values.map Block.quoted).map Block.value).mapM readString = some values := by
    intro values
    induction values with
    | nil => rfl
    | cons value values ih => rw [List.map_cons, List.map_cons, List.mapM_cons, ih]; rfl
  by_cases hnil : values = []
  · rw [hnil]
    rfl
  · rw [listBlock, if_neg hnil, Block.value, valueItems_eq_map, readList, hitems]

/-! ## Well-formed blocks -/

variable {entries : List (String × Block)}

theorem wellFormed_mapping (hne : entries ≠ []) (h : ∀ e ∈ entries, PlainKey e.1 ∧ e.2.WellFormed)
    (hkeys : (entries.map Prod.fst).Nodup) :
    (Block.mapping entries).WellFormed :=
  ⟨hne, wellFormedEntries_iff.mpr ⟨h, hkeys⟩⟩

theorem wellFormed_mappingBlock (h : ∀ e ∈ entries, PlainKey e.1 ∧ e.2.WellFormed)
    (hkeys : (entries.map Prod.fst).Nodup)
    {b : Block} (hb : mappingBlock entries = some b) : b.WellFormed := by
  rw [mappingBlock] at hb
  split at hb
  · cases hb
  · rename_i hne
    cases hb
    exact wellFormed_mapping hne h hkeys

/-- The keys of a map stay apart when its values become blocks. -/
theorem nodup_map_keys {α : Type} (m : FieldMap α) (block : α → Block) :
    ((m.entries.map fun e => (e.1, block e.2)).map Prod.fst).Nodup := by
  rw [List.map_map]
  exact m.nodup_keys

instance (key : String) : Decidable (PlainKey key) :=
  decidable_of_iff (key ≠ "" ∧ key.toList.all isKeyChar = true ∧ key.toList.length ≤ 1024)
    (by rw [PlainKey, List.all_eq_true])

/-- Entries whose keys are of a list of plain names. -/
theorem wellFormedEntries_of_names {names : List String} (h : ∀ e ∈ entries, e.2.WellFormed)
    (hkeys : (entries.map Prod.fst).Sublist names)
    (hnames : names.Nodup ∧ ∀ key ∈ names, PlainKey key) : WellFormedEntries entries := by
  refine wellFormedEntries_iff.mpr ⟨fun e he => ⟨?_, h e he⟩, hkeys.nodup hnames.1⟩
  exact hnames.2 e.1 (hkeys.subset (List.mem_map_of_mem he))

theorem referenceBlocks_wellFormed (h : r.Single) :
    (Block.mapping (referenceBlocks r)).WellFormed := by
  refine ⟨by simp [referenceBlocks, entriesOf, referenceTable, optional],
    wellFormedEntries_of_names (fun e he => ?_) (entriesOf_keys (referenceTable r))
      (show ["sys_id", "table", "display_name", "extra"].Nodup ∧
        ∀ key ∈ ["sys_id", "table", "display_name", "extra"], PlainKey key by decide)⟩
  have hmem := mem_entriesOf he
  generalize e.2 = b at hmem
  simp only [referenceTable, List.mem_cons, Prod.mk.injEq, List.not_mem_nil, or_false] at hmem
  rcases hmem with ⟨_, hb⟩ | ⟨_, hb⟩ | ⟨_, hb⟩ | ⟨_, hb⟩
  · cases hb; trivial
  · cases hb; trivial
  · cases hb; trivial
  · refine wellFormed_mappingBlock ?_ (nodup_map_keys r.extra .quoted) hb.symm
    intro e' he'
    obtain ⟨e'', he'', rfl⟩ := List.mem_map.mp he'
    exact ⟨(h.extra e'' he'').1, trivial⟩

theorem fieldBlocks_wellFormed (value : FieldValue) :
    (Block.mapping (fieldBlocks value)).WellFormed := by
  refine ⟨by simp [fieldBlocks, entriesOf, fieldTable, optional],
    wellFormedEntries_of_names (fun e he => ?_) (entriesOf_keys (fieldTable value))
      (show ["value", "display_value"].Nodup ∧
        ∀ key ∈ ["value", "display_value"], PlainKey key by decide)⟩
  have hmem := mem_entriesOf he
  generalize e.2 = b at hmem
  simp only [fieldTable, List.mem_cons, Prod.mk.injEq, List.not_mem_nil, or_false] at hmem
  rcases hmem with ⟨_, hb⟩ | ⟨_, hb⟩
  · cases hb; trivial
  · obtain ⟨text, _, rfl⟩ := Option.map_eq_some_iff.mp hb.symm
    trivial

theorem referencesBlocks_wellFormed (h : ReferencesSingle references) {b : Block}
    (hb : mappingBlock (referencesBlocks references) = some b) : b.WellFormed := by
  refine wellFormed_mappingBlock ?_ (nodup_map_keys references fun r => .mapping
      (referenceBlocks r)) hb
  intro e he
  obtain ⟨e', he', rfl⟩ := List.mem_map.mp he
  exact ⟨(h e' he').1, referenceBlocks_wellFormed (h e' he').2⟩

theorem fieldsBlocks_wellFormed (h : FieldsSingle fields) {b : Block}
    (hb : mappingBlock (fieldsBlocks fields) = some b) : b.WellFormed := by
  refine wellFormed_mappingBlock ?_ (nodup_map_keys fields fun value => .mapping
      (fieldBlocks value)) hb
  intro e he
  obtain ⟨e', he', rfl⟩ := List.mem_map.mp he
  exact ⟨(h e' he').1, fieldBlocks_wellFormed e'.2⟩

theorem listBlock_wellFormed : (listBlock values).WellFormed := by
  rw [listBlock]
  split
  · trivial
  · rename_i hne
    refine ⟨by simpa using hne, wellFormedItems_iff.mpr ?_⟩
    intro b hb
    obtain ⟨value, _, rfl⟩ := List.mem_map.mp hb
    exact ⟨rfl, trivial⟩

/-! ## A document -/

/-- The lines of a document. -/
def documentLines (entries : List (String × Block)) (body : List (List Char)) :
    List (List Char) :=
  "---".toList :: (entryLines jsonQuoting 0 entries ++ "---".toList :: body)

/-- **A document is taken apart** where its front matter ends. -/
theorem splitFrontmatter_document (hne : entries ≠ []) (hwf : WellFormedEntries entries)
    {body : List (List Char)} (hbody : ∀ l ∈ body, OneLine l) :
    splitFrontmatter (crlfToLf (unlines (documentLines entries body))) =
      .ok (text jsonQuoting entries, unlines (body.map chomp)) := by
  have hfence : OneLine "---".toList := by simp [OneLine]
  have hone : ∀ l ∈ documentLines entries body, OneLine l := by
    intro l hl
    rcases List.mem_cons.mp hl with rfl | hmem
    · exact hfence
    · rcases List.mem_append.mp hmem with hfront | hrest
      · exact (entryLines_noBreak entries hwf l hfront).1
      · rcases List.mem_cons.mp hrest with rfl | hmem
        · exact hfence
        · exact hbody l hmem
  have hfront : (entryLines jsonQuoting 0 entries).map chomp = entryLines jsonQuoting 0 entries :=
    (List.map_congr_left fun l hl =>
      chomp_of_not_mem (entryLines_noBreak entries hwf l hl).2).trans (List.map_id _)
  have hlines : (documentLines entries body).map chomp =
      "---".toList :: (entryLines jsonQuoting 0 entries ++ "---".toList :: body.map chomp) := by
    rw [documentLines, List.map_cons, List.map_append, List.map_cons, hfront]
    rfl
  obtain ⟨c, cs, ls, _, hhead⟩ := entryLines_head (q := jsonQuoting) (n := 0) hne hwf
  have hsplit := @splitAtText_fence ls "---".toList (spaces 0 ++ c :: cs) hfence
    (entryLines_noBreak entries hwf _ (by rw [hhead]; exact List.mem_cons_self)).1
    (fun l hl => by
      have hmem : l ∈ entryLines jsonQuoting 0 entries := by
        rw [hhead]
        exact List.mem_cons_of_mem _ hl
      refine ⟨(entryLines_noBreak entries hwf l hmem).1, fun heq => ?_⟩
      exact entryLines_head_ne hwf l hmem (by rw [heq]; rfl))
    (unlines (body.map chomp))
  rw [← hhead] at hsplit
  rw [crlfToLf_unlines hone, hlines, splitFrontmatter, unlines_cons]
  have hstarts : "---\n".toList.isPrefixOf ("---".toList ++ '\n' ::
      unlines (entryLines jsonQuoting 0 entries ++ "---".toList :: body.map chomp)) = true := by
    rw [List.isPrefixOf_iff_prefix]
    exact ⟨_, rfl⟩
  have hdrop : ("---".toList ++ '\n' ::
      unlines (entryLines jsonQuoting 0 entries ++ "---".toList :: body.map chomp)).drop 4 =
      unlines (entryLines jsonQuoting 0 entries) ++
        ("---".toList ++ '\n' :: unlines (body.map chomp)) := by
    rw [unlines_append, unlines_cons]
    rfl
  rw [if_pos hstarts, hdrop]
  have hpattern : "\n---\n".toList = '\n' :: ("---".toList ++ ['\n']) := rfl
  rw [hpattern, hsplit]
  rfl

end SnowAgent.Markdown
