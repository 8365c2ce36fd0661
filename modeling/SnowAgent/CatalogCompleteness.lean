import SnowAgent.CatalogItems
import SnowAgent.RecordPages

/-! # Complete catalog items

`catalog_item_get` labels every item it answers as complete, and so does the cache.  Two of its
reads do not end the call when they fail: the read of the active variables is made again
without that filter, and an item whose variable sets cannot be read is taken to have none.  No
read looks at how many rows it got, or at the errors beside them.

An item is complete for what the tables of ServiceNow hold at the time of its call.  It is proved
that a call keeps its promise exactly when a read that ends it fails, or every read is whole.
-/
namespace SnowAgent.Catalog

open Json Text Core Program Knowledge

variable (lib : CoreLib)

/-! ## ServiceNow -/

/-- How ServiceNow evaluates conditions: a list of `sys_id`s is met by any of them, and a choice
found by its question shows it. -/
structure CatalogProvider where
  holds : Atom → Record → Bool
  inList : ∀ field values, (∀ value ∈ values, IsSysId value) → ∀ row,
    holds (.inList field values) row = values.any fun value => holds (.equals field value) row
  shows : ∀ value row, IsSysId value → holds (.equals "question" value) row = true →
    recordFieldRawOrDisplay lib row "question" = some value

/-- The rows of each table, in ascending order of a field.  A link names its variable set by a
`sys_id`. -/
structure CatalogTables where
  listed : (table orderBy : String) → LiveTable
  links : ∀ row ∈ (listed "io_set_item" "order").rows, ∀ value,
    recordFieldRawOrDisplay lib row "variable_set" = some value → IsSysId value

/-- A row with the fields that are asked for. -/
def select (fields : List String) (row : Record) : Record :=
  { row with fields := row.fields.filter fun entry => fields.contains entry.1 }

variable {lib}

/-- Whether a row meets the conditions of a listing. -/
def Listing.holds (provider : CatalogProvider lib) (query : Listing) (row : Record) : Bool :=
  query.conditions.all fun atom => provider.holds atom row

/-- The rows of a listing, whatever its limit. -/
def CatalogTables.matching (provider : CatalogProvider lib) (tables : CatalogTables lib)
    (query : Listing) : List Record :=
  ((tables.listed query.table query.orderBy).rows.filter (query.holds provider)).map
    (select query.fields)

variable (lib) in
/-- A call, and the tables of ServiceNow during it.  A listing that reports no error has the first
rows of the listing, up to its limit. -/
structure Served (provider : CatalogProvider lib) extends Call where
  tables : CatalogTables lib
  found : ∀ table fields sysId record, answer (.get table fields sysId) = .ok record →
    record.sysId = sysId
  lists : ∀ query (result : QueryResult), answer (.execute query) = .ok result →
    result.errors = [] → result.records = (tables.matching provider query).take query.limit

variable (provider : CatalogProvider lib)

/-! ## What is promised -/

section Promise

variable (tables : CatalogTables lib)

/-- The variable sets an item is linked to. -/
def CatalogTables.setIds (sysId : String) : List String :=
  ((tables.listed "io_set_item" "order").rows.filter
    (provider.holds (.equals "sc_cat_item" sysId))).filterMap
      fun row => recordFieldRawOrDisplay lib row "variable_set"

/-- An active variable of an item or of one of its variable sets. -/
def CatalogTables.IsVariable (sysId : String) (row : Record) : Prop :=
  row ∈ (tables.listed "item_option_new" "order").rows ∧
    provider.holds (.equals "active" "true") row = true ∧
    (provider.holds (.equals "cat_item" sysId) row = true ∨
      ∃ set ∈ tables.setIds provider sysId, provider.holds (.equals "variable_set" set) row = true)

/-- The choices of a variable, in order. -/
def CatalogTables.choicesOf (variableSysId : String) : List CatalogChoice :=
  ((tables.listed "question_choice" "order").rows.filter
    (provider.holds (.equals "question" variableSysId))).map (catalogChoice lib)

/-- **A complete item**: it has every active variable exactly once, and each of its variables has
all its choices in order. -/
def CompleteItem (item : CatalogItem) : Prop :=
  (∀ row, tables.IsVariable provider item.sysId row →
    item.variableList.countP (fun v => v.sysId = row.sysId) = 1) ∧
  ∀ v ∈ item.variableList, v.choices = tables.choicesOf provider v.sysId

end Promise

section Reads

variable (answer : (read : CatalogReads.Act) → CatalogReads.Ans read)

/-- A listing is answered without an error and below its limit. -/
def Whole (query : Listing) : Prop :=
  ∃ result : QueryResult, answer (.execute query) = .ok result ∧ result.errors = [] ∧
    result.records.length < query.limit

/-- A read neither fails nor hits its limit. -/
def ReadWhole : Read → Prop
  | .get table fields sysId => ∃ record : Record, answer (.get table fields sysId) = .ok record
  | .execute query => Whole answer query

end Reads

variable {provider}

/-- A call that read the item, with whole reads only, and complete. -/
def Genuine (call : Served lib provider) (item : CatalogItem) : Prop :=
  let live := (getCatalogItemLive lib item.sysId).run.answered call.answer
  normalizeRecordLookupSysId call.sysId = .ok item.sysId ∧
    (∃ record, live.2 = .ok (record, item)) ∧
    (∀ read ∈ live.1, ReadWhole call.answer read) ∧ CompleteItem provider call.tables item

/-- **The promise of a call**: an item it reads and answers as complete is genuine, and so is an
item it stores as complete. -/
def Honest (call : Served lib provider) (products : CatalogProducts) : Prop :=
  let result := catalogItemGetEnvelope lib call.toCall products
  (∀ envelope, result.2.1 = .ok envelope → envelope.source = .live →
    envelope.completeness = .complete → Genuine call envelope.item) ∧
  ∀ sysId row, result.2.2.row sysId = some row → products.row sysId ≠ some row →
    row.item.sysId = sysId ∧ Genuine call row.item

/-! ## When it is kept -/

section Condition

variable (lib) (answer : (read : CatalogReads.Act) → CatalogReads.Ans read)

/-- The listing fails. -/
def Unread (query : Listing) : Prop := ∃ err : SnowApiError, answer (.execute query) = .error err

/-- The rows that a listing is answered with. -/
def rowsRead (query : Listing) : List Record :=
  match answer (.execute query) with
  | .ok result => result.records
  | .error _ => []

/-- The rows that are answered with or else without the filter on active variables. -/
def variablesRead (field : String) (values : List String) : List Record :=
  match answer (.execute (activeVariableQuery field values)) with
  | .ok result => result.records
  | .error _ => rowsRead answer (variableQuery field values)

/-- The variables of an item cannot be read, with the filter or without. -/
def VariablesUnread (field : String) (values : List String) : Prop :=
  Unread answer (activeVariableQuery field values) ∧ Unread answer (variableQuery field values)

/-- The variable sets that the links name. -/
def setsRead (sysId : String) : List String :=
  (rowsRead answer (variableSetQuery sysId)).filterMap
    fun row => recordFieldRawOrDisplay lib row "variable_set"

/-- The variables that are answered, each once. -/
def variablesFound (sysId : String) : List Record :=
  retainUnseen [] (variablesRead answer "cat_item" [sysId] ++
    if setsRead lib answer sysId = [] then []
    else variablesRead answer "variable_set" (setsRead lib answer sysId))

/-- The variables whose choices are asked for. -/
def questions (sysId : String) : List String :=
  ((variablesFound lib answer sysId).map Record.sysId).filter (trim · ≠ "")

/-- A read whose failure ends the call fails. -/
def Ends (sysId : String) : Prop :=
  (∃ err : SnowApiError, answer (.get "sc_cat_item" itemFields sysId) = .error err) ∨
  VariablesUnread answer "cat_item" [sysId] ∨
  (setsRead lib answer sysId ≠ [] ∧
    VariablesUnread answer "variable_set" (setsRead lib answer sysId)) ∨
  (questions lib answer sysId ≠ [] ∧ Unread answer (choiceQuery (questions lib answer sysId)))

/-- Every read is whole. -/
def AllWhole (sysId : String) : Prop :=
  Whole answer (activeVariableQuery "cat_item" [sysId]) ∧
  Whole answer (variableSetQuery sysId) ∧
  (setsRead lib answer sysId ≠ [] →
    Whole answer (activeVariableQuery "variable_set" (setsRead lib answer sysId))) ∧
  (questions lib answer sysId ≠ [] → Whole answer (choiceQuery (questions lib answer sysId)))

end Condition

/-- The item of a row is to be kept, and cannot be. -/
def Unkept (call : Call) (record : Record) : Prop :=
  call.rule.mode = .readThrough ∧
    ((∃ message, call.projects record = .error message) ∨ ∃ message, call.writes = .error message)

/-- The item that is read is to be kept, and cannot be. -/
def NotKept (call : Call) (sysId : String) : Prop :=
  ∃ record, call.answer (.get "sc_cat_item" itemFields sysId) = .ok record ∧ Unkept call record

variable (lib) in
/-- **When the promise is kept**: if the call reads ServiceNow, a read that ends it fails, or the
item cannot be kept, or every read is whole. -/
def Decided (call : Call) (products : CatalogProducts) : Prop :=
  ∀ sysId, normalizeRecordLookupSysId call.sysId = .ok sysId →
    lookUp call products sysId = .ok none →
    Ends lib call.answer sysId ∨ NotKept call sysId ∨ AllWhole lib call.answer sysId

/-! ## Reads that succeed and reads that fail -/

variable {values : List String} {record : Record} {ids : List String}

section Answered

variable {answer : (read : CatalogReads.Act) → CatalogReads.Ans read} {A B : Type}

variable (answer) in
/-- A program ends with a value, and its reads are all whole exactly under a condition. -/
structure Gives (x : CatalogM A) (a : A) (whole : Prop) : Prop where
  value : (x.run.answered answer).2 = .ok a
  reads : (∀ read ∈ (x.run.answered answer).1, ReadWhole answer read) ↔ whole

variable (answer) in
/-- A program ends with a failure. -/
def Fails (x : CatalogM A) : Prop := ∃ err, (x.run.answered answer).2 = .error err

theorem Gives.pure (a : A) : Gives answer (pure a : CatalogM A) a True where
  value := rfl
  reads := by
    have hreads : ((Pure.pure a : CatalogM A).run.answered answer).1 = [] := rfl
    rw [hreads]
    simp

theorem Gives.bind {x : CatalogM A} {f : A → CatalogM B} {a : A} {b : B} {P P' : Prop}
    (hx : Gives answer x a P) (hf : Gives answer (f a) b P') :
    Gives answer (x >>= f) b (P ∧ P') where
  value := by rw [answered_run_bind_ok hx.value]; exact hf.value
  reads := by
    rw [answered_run_bind_ok hx.value, ← hx.reads, ← hf.reads]
    simp only [List.mem_append]
    exact ⟨fun h => ⟨fun r hr => h r (.inl hr), fun r hr => h r (.inr hr)⟩,
      fun h r hr => hr.elim (h.1 r) (h.2 r)⟩

theorem Gives.mono {x : CatalogM A} {a : A} {P P' : Prop} (h : Gives answer x a P) (hP : P ↔ P') :
    Gives answer x a P' := ⟨h.value, h.reads.trans hP⟩

/-- A program whose value is returned in another form. -/
theorem Gives.map {x : CatalogM A} {a : A} {P : Prop} (g : A → B) (hx : Gives answer x a P) :
    Gives answer (x >>= fun a => Pure.pure (g a)) (g a) P :=
  (hx.bind (f := fun a => Pure.pure (g a)) (Gives.pure _)).mono (by rw [and_true])

theorem Fails.bind {x : CatalogM A} (h : Fails answer x) (f : A → CatalogM B) :
    Fails answer (x >>= f) := by
  obtain ⟨err, herr⟩ := h
  exact ⟨err, by rw [answered_run_bind_error herr]⟩

theorem Gives.bind_fails {x : CatalogM A} {f : A → CatalogM B} {a : A} {P : Prop}
    (hx : Gives answer x a P) (hf : Fails answer (f a)) : Fails answer (x >>= f) := by
  obtain ⟨err, herr⟩ := hf
  exact ⟨err, by rw [answered_run_bind_ok hx.value]; exact herr⟩

theorem gives_execute {query : Listing} {result : QueryResult}
    (h : answer (.execute query) = .ok result) :
    Gives answer (execute query) result (Whole answer query) where
  value := by
    show (answer (.execute query)).mapError _ = _
    rw [h]
    rfl
  reads := by
    show (∀ read ∈ [Read.execute query], ReadWhole answer read) ↔ _
    simp [ReadWhole]

theorem fails_execute {query : Listing} (h : Unread answer query) :
    Fails answer (execute query) := by
  obtain ⟨err, herr⟩ := h
  refine ⟨.client err, ?_⟩
  show (answer (.execute query)).mapError _ = _
  rw [herr]
  rfl

/-- A listing is read or not. -/
theorem read_or_unread (query : Listing) :
    Unread answer query ∨ ∃ result, answer (.execute query) = .ok result := by
  rcases h : answer (.execute query) with err | result
  · exact .inl ⟨err, h⟩
  · exact .inr ⟨result, rfl⟩

theorem Unread.not_whole {query : Listing} (h : Unread answer query) : ¬ Whole answer query := by
  obtain ⟨err, herr⟩ := h
  rintro ⟨result, hresult, -⟩
  rw [herr] at hresult
  cases hresult

theorem rowsRead_ok {query : Listing} {result : QueryResult}
    (h : answer (.execute query) = .ok result) : rowsRead answer query = result.records := by
  simp [rowsRead, h]

/-! ### The functions of the source -/

variable {field : String}

theorem gives_get {table : String} {fields : List String} {sysId : String}
    (h : answer (.get table fields sysId) = .ok record) :
    Gives answer (get table fields sysId) record True where
  value := by
    show (answer (.get table fields sysId)).mapError _ = _
    rw [h]
    rfl
  reads := by
    show (∀ read ∈ [Read.get table fields sysId], ReadWhole answer read) ↔ _
    simp only [List.mem_singleton, forall_eq, iff_true]
    exact ⟨record, h⟩

theorem variableRows_run (hvalues : values ≠ []) :
    (catalogVariableRows field values).run.answered answer =
      match answer (.execute (activeVariableQuery field values)) with
      | .ok result => ([.execute (activeVariableQuery field values)], .ok result.records)
      | .error _ =>
        ([.execute (activeVariableQuery field values), .execute (variableQuery field values)],
          ((answer (.execute (variableQuery field values))).map QueryResult.records).mapError
            .client) := by
  rw [catalogVariableRows, if_neg hvalues]
  show answered answer (perform (S := CatalogReads) (.execute _) >>= _) = _
  rw [answered_bind, answered_perform]
  rcases answer (.execute (activeVariableQuery field values)) with err | result
  · rfl
  · rfl

/-- `catalog_variable_rows` goes on when one of its two reads succeeds. -/
theorem gives_variableRows (hvalues : values ≠ []) (h : ¬ VariablesUnread answer field values) :
    Gives answer (catalogVariableRows field values) (variablesRead answer field values)
      (Whole answer (activeVariableQuery field values)) := by
  rcases hactive : answer (.execute (activeVariableQuery field values)) with err | result
  · have hunread : Unread answer (activeVariableQuery field values) := ⟨err, hactive⟩
    obtain hall | ⟨result, hresult⟩ := read_or_unread (variableQuery field values)
    · exact absurd ⟨hunread, hall⟩ h
    · refine ⟨?_, ?_⟩
      · rw [variableRows_run hvalues, hactive, hresult]
        simp [variablesRead, hactive, rowsRead_ok hresult, Except.map, Except.mapError]
      · rw [variableRows_run hvalues, hactive, hresult]
        refine ⟨fun hwhole => ?_, fun hwhole => absurd hwhole hunread.not_whole⟩
        exact hwhole (.execute (activeVariableQuery field values)) List.mem_cons_self
  · refine ⟨?_, ?_⟩
    · rw [variableRows_run hvalues, hactive]
      simp [variablesRead, hactive]
    · rw [variableRows_run hvalues, hactive]
      simp only [List.mem_singleton, forall_eq, ReadWhole]

theorem fails_variableRows (hvalues : values ≠ []) (h : VariablesUnread answer field values) :
    Fails answer (catalogVariableRows field values) := by
  obtain ⟨⟨err, hactive⟩, ⟨err', hall⟩⟩ := h
  refine ⟨.client err', ?_⟩
  rw [variableRows_run hvalues, hactive, hall]
  rfl

/-- `catalog_variable_set_ids` never fails. -/
theorem gives_variableSetIds (sysId : String) :
    Gives answer (catalogVariableSetIds lib sysId) (setsRead lib answer sysId)
      (Whole answer (variableSetQuery sysId)) := by
  have hrun : (catalogVariableSetIds lib sysId).run.answered answer =
      ([.execute (variableSetQuery sysId)], .ok (setsRead lib answer sysId)) := by
    rw [catalogVariableSetIds]
    show answered answer (perform (S := CatalogReads) (.execute _) >>= _) = _
    rw [answered_bind, answered_perform, setsRead, rowsRead]
    rcases answer (.execute (variableSetQuery sysId)) with err | result
    · rfl
    · rfl
  refine ⟨by rw [hrun], ?_⟩
  rw [hrun]
  simp only [List.mem_singleton, forall_eq, ReadWhole]

/-- The choices of some variables, as the rows they are answered with give them. -/
def choicesRead (lib : CoreLib) (answer : (read : CatalogReads.Act) → CatalogReads.Ans read)
    (named : List String) : Table String (List CatalogChoice) :=
  (if named = [] then [] else rowsRead answer (choiceQuery named)).foldl (groupChoice lib) Table.empty

theorem gives_choices
    (h : ids.filter (trim · ≠ "") ≠ [] → ¬ Unread answer (choiceQuery (ids.filter (trim · ≠ "")))) :
    Gives answer (catalogChoicesForVariables lib ids)
      (choicesRead lib answer (ids.filter (trim · ≠ "")))
      (ids.filter (trim · ≠ "") ≠ [] → Whole answer (choiceQuery (ids.filter (trim · ≠ "")))) := by
  unfold catalogChoicesForVariables
  generalize ids.filter (trim · ≠ "") = named at h ⊢
  by_cases hnamed : named = []
  · simp only [hnamed, if_true, choicesRead]
    exact (Gives.pure _).mono (by simp)
  · simp only [hnamed, if_false, choicesRead]
    obtain hunread | ⟨result, hresult⟩ := read_or_unread (choiceQuery named)
    · exact absurd hunread (h hnamed)
    · rw [rowsRead_ok hresult]
      refine ((gives_execute hresult).map
        fun result => result.records.foldl (groupChoice lib) Table.empty).mono ?_
      simp [hnamed]

theorem fails_choices (hnamed : ids.filter (trim · ≠ "") ≠ [])
    (h : Unread answer (choiceQuery (ids.filter (trim · ≠ "")))) :
    Fails answer (catalogChoicesForVariables lib ids) := by
  unfold catalogChoicesForVariables
  generalize ids.filter (trim · ≠ "") = named at h hnamed ⊢
  simp only [hnamed, if_false]
  exact (fails_execute h).bind _

/-- Without values no row is read. -/
theorem gives_rowsOfAny (h : values ≠ [] → ¬ VariablesUnread answer field values) :
    Gives answer (catalogVariableRows field values)
      (if values = [] then [] else variablesRead answer field values)
      (values ≠ [] → Whole answer (activeVariableQuery field values)) := by
  by_cases hvalues : values = []
  · subst hvalues
    exact (Gives.pure _).mono (by simp)
  · rw [if_neg hvalues]
    exact (gives_variableRows hvalues (h hvalues)).mono (by simp [hvalues])

variable (lib answer) in
/-- The variables that an item is answered with. -/
def variablesAnswered (sysId : String) : List CatalogVariable :=
  (variablesFound lib answer sysId).map
    (catalogVariableFromRecord lib (choicesRead lib answer (questions lib answer sysId)))

/-- `catalog_item_variables` goes on when no read that ends it fails. -/
theorem gives_itemVariables {sysId : String} (hown : ¬ VariablesUnread answer "cat_item" [sysId])
    (hsets : setsRead lib answer sysId ≠ [] →
      ¬ VariablesUnread answer "variable_set" (setsRead lib answer sysId))
    (hchoices : questions lib answer sysId ≠ [] →
      ¬ Unread answer (choiceQuery (questions lib answer sysId))) :
    Gives answer (catalogItemVariables lib sysId) (variablesAnswered lib answer sysId)
      (AllWhole lib answer sysId) := by
  exact (gives_variableRows (List.cons_ne_nil _ _) hown).bind <|
    (gives_variableSetIds sysId).bind <| (gives_rowsOfAny hsets).bind <|
    (gives_choices hchoices).map
      fun choices => (variablesFound lib answer sysId).map (catalogVariableFromRecord lib choices)

theorem fails_itemVariables {sysId : String} (h : VariablesUnread answer "cat_item" [sysId] ∨
      (setsRead lib answer sysId ≠ [] ∧
        VariablesUnread answer "variable_set" (setsRead lib answer sysId)) ∨
      (questions lib answer sysId ≠ [] ∧
        Unread answer (choiceQuery (questions lib answer sysId)))) :
    Fails answer (catalogItemVariables lib sysId) := by
  by_cases hown : VariablesUnread answer "cat_item" [sysId]
  · exact (fails_variableRows (List.cons_ne_nil _ _) hown).bind _
  · refine (gives_variableRows (List.cons_ne_nil _ _) hown).bind_fails ?_
    refine (gives_variableSetIds sysId).bind_fails ?_
    by_cases hsets : setsRead lib answer sysId ≠ [] ∧
        VariablesUnread answer "variable_set" (setsRead lib answer sysId)
    · exact (fails_variableRows hsets.1 hsets.2).bind _
    · refine (gives_rowsOfAny fun hne hunread => hsets ⟨hne, hunread⟩).bind_fails ?_
      obtain hchoices := (h.resolve_left hown).resolve_left hsets
      exact (fails_choices hchoices.1 hchoices.2).bind _

end Answered

/-! ## The live read -/

section LiveRead

variable {answer : (read : CatalogReads.Act) → CatalogReads.Ans read} {sysId : String}

section

variable (hid : normalizeRecordLookupSysId sysId = .ok sysId)

include hid

theorem gives_normalized :
    Gives answer (ExceptT.mk (return (normalizeRecordLookupSysId sysId).mapError .invalid))
      sysId True where
  value := by
    rw [hid]
    rfl
  reads := by
    show (∀ read ∈ ([] : List Read), ReadWhole answer read) ↔ True
    simp

/-- A live read answers when no read that ends it fails. -/
theorem gives_live (h : ¬ Ends lib answer sysId) :
    ∃ record, answer (.get "sc_cat_item" itemFields sysId) = .ok record ∧
      Gives answer (getCatalogItemLive lib sysId)
        (record, catalogItemFromRecord lib record (variablesAnswered lib answer sysId))
        (AllWhole lib answer sysId) := by
  simp only [Ends, not_or] at h
  obtain ⟨hget, hown, hsets, hchoices⟩ := h
  rcases hrecord : answer (.get "sc_cat_item" itemFields sysId) with err | record
  · exact absurd ⟨err, hrecord⟩ hget
  · refine ⟨record, rfl, ((gives_normalized hid).bind <| (gives_get hrecord).bind <|
      (gives_itemVariables hown (fun hne hunread => hsets ⟨hne, hunread⟩)
        fun hne hunread => hchoices ⟨hne, hunread⟩).map
          fun variableList => (record, catalogItemFromRecord lib record variableList)).mono ?_⟩
    simp

theorem fails_live (h : Ends lib answer sysId) : Fails answer (getCatalogItemLive lib sysId) := by
  refine (gives_normalized hid).bind_fails ?_
  rcases hrecord : answer (.get "sc_cat_item" itemFields sysId) with err | record
  · refine Fails.bind ⟨.client err, ?_⟩ _
    show (answer (.get "sc_cat_item" itemFields sysId)).mapError _ = _
    rw [hrecord]
    rfl
  · refine (gives_get hrecord).bind_fails ?_
    refine (fails_itemVariables (h.resolve_left ?_)).bind _
    rintro ⟨err, herr⟩
    rw [hrecord] at herr
    cases herr

end

end LiveRead

/-! ## Whole reads -/

section Selected

variable {fields : List String} {field : String}

section

variable (h : field ∈ fields)

include h

theorem get_select (row : Record) :
    (select fields row).fields.get field = row.fields.get field := by
  show ((row.fields.filter _).find? _).map Prod.snd = (row.fields.find? _).map Prod.snd
  rw [List.find?_filter]
  congr 2
  funext entry
  by_cases hentry : entry.1 = field
  · simp [hentry, h]
  · simp [hentry]

theorem getRaw_select (row : Record) :
    (select fields row).getRaw field = row.getRaw field := by
  rw [Record.getRaw, Record.getRaw, get_select h]

theorem getDisplay_select (row : Record) :
    (select fields row).getDisplay field = row.getDisplay field := by
  rw [Record.getDisplay, Record.getDisplay, get_select h]

theorem getStr_select (row : Record) :
    (select fields row).getStr lib field = row.getStr lib field := by
  rw [Record.getStr, Record.getStr, get_select h]

/-- A field that is asked for reads as in the row. -/
theorem rawOrDisplay_select (row : Record) :
    recordFieldRawOrDisplay lib (select fields row) field =
      recordFieldRawOrDisplay lib row field := by
  simp only [recordFieldRawOrDisplay, getRaw_select h, getDisplay_select h, getStr_select h]

theorem displayOrRaw_select (row : Record) :
    recordFieldDisplayOrRaw lib (select fields row) field =
      recordFieldDisplayOrRaw lib row field := by
  simp only [recordFieldDisplayOrRaw, getRaw_select h, getDisplay_select h, getStr_select h]

end

end Selected

/-- A whole listing has every row that meets its conditions. -/
theorem Whole.rowsRead {call : Served lib provider} {query : Listing}
    (h : Whole call.answer query) :
    rowsRead call.answer query = call.tables.matching provider query := by
  obtain ⟨result, hresult, herrors, hlength⟩ := h
  have hrecords := call.lists query result hresult herrors
  have hbelow : (call.tables.matching provider query).length < query.limit := by
    rw [hrecords, List.length_take] at hlength
    omega
  rw [rowsRead_ok hresult, hrecords, List.take_of_length_le (by omega)]

theorem Whole.variablesRead {call : Served lib provider} {field : String}
    (h : Whole call.answer (activeVariableQuery field values)) :
    variablesRead call.answer field values =
      call.tables.matching provider (activeVariableQuery field values) := by
  rw [← h.rowsRead]
  obtain ⟨result, hresult, -, -⟩ := h
  simp [Catalog.variablesRead, Catalog.rowsRead, hresult]

theorem Whole.setsRead {call : Served lib provider} {sysId : String}
    (h : Whole call.answer (variableSetQuery sysId)) :
    setsRead lib call.answer sysId = call.tables.setIds provider sysId := by
  have hholds : (variableSetQuery sysId).holds provider =
      provider.holds (.equals "sc_cat_item" sysId) := by
    funext row
    simp [Listing.holds, variableSetQuery, Listing.equals]
  rw [Catalog.setsRead, h.rowsRead, CatalogTables.matching, hholds, List.filterMap_map]
  refine List.filterMap_congr fun row _ => ?_
  have hfield : "variable_set" ∈ (variableSetQuery sysId).fields := by
    simp [variableSetQuery, Listing.equals]
  exact rawOrDisplay_select hfield row

/-! ### Variables -/

section Variables

variable {call : Served lib provider} {sysId : String}

theorem IsSysId.named {id : String} (h : IsSysId id) : trim id ≠ "" := by
  rw [h.trim]
  exact h.ne_empty

variable {tables : CatalogTables lib}

/-- The links of an item name `sys_id`s. -/
theorem isSysId_of_setIds {set : String}
    (h : set ∈ tables.setIds provider sysId) : IsSysId set := by
  obtain ⟨row, hrow, hset⟩ := List.mem_filterMap.mp h
  exact tables.links row (List.mem_filter.mp hrow).1 set hset

variable {field : String}

/-- The conditions of the variables of some values. -/
theorem holds_activeVariableQuery (hvalues : ∀ value ∈ values, IsSysId value) (row : Record) :
    (activeVariableQuery field values).holds provider row =
      ((values.any fun value => provider.holds (.equals field value) row) &&
        provider.holds (.equals "active" "true") row) := by
  unfold activeVariableQuery variableQuery
  split
  · simp [Listing.holds, Listing.equals]
  · simp [Listing.holds, Listing.equals, Listing.inList, provider.inList field values hvalues]

variable {row : Record}

theorem mem_matching_active (hvalues : ∀ value ∈ values, IsSysId value)
    (hrow : row ∈ (tables.listed "item_option_new" "order").rows)
    (hactive : provider.holds (.equals "active" "true") row = true)
    (hfield : ∃ value ∈ values, provider.holds (.equals field value) row = true) :
    ∃ r ∈ tables.matching provider (activeVariableQuery field values), r.sysId = row.sysId := by
  have hquery : (activeVariableQuery field values).table = "item_option_new" ∧
      (activeVariableQuery field values).orderBy = "order" := by
    unfold activeVariableQuery variableQuery
    split <;> exact ⟨rfl, rfl⟩
  refine ⟨select (activeVariableQuery field values).fields row,
    List.mem_map_of_mem (List.mem_filter.mpr ⟨?_, ?_⟩), rfl⟩
  · rw [hquery.1, hquery.2]
    exact hrow
  · rw [holds_activeVariableQuery hvalues, hactive, Bool.and_true]
    exact List.any_eq_true.mpr hfield

variable {r : Record}

/-- The rows of a listing are rows of its table. -/
theorem isSysId_of_matching {query : Listing}
    (h : r ∈ tables.matching provider query) : IsSysId r.sysId := by
  obtain ⟨row, hrow, rfl⟩ := List.mem_map.mp h
  exact (tables.listed query.table query.orderBy).wellFormed row (List.mem_filter.mp hrow).1

variable {records : List Record} {seen : List String}

theorem mem_retainUnseen (h : r ∈ retainUnseen seen records) : r ∈ records ∧ r.sysId ∉ seen := by
  induction records generalizing seen with
  | nil => cases h
  | cons record records ih =>
    unfold retainUnseen at h
    split at h
    · exact ⟨List.mem_cons_of_mem _ (ih h).1, (ih h).2⟩
    · rename_i hseen
      obtain rfl | hmem := List.mem_cons.mp h
      · exact ⟨List.mem_cons_self, hseen⟩
      · refine ⟨List.mem_cons_of_mem _ (ih hmem).1, fun hr => (ih hmem).2 ?_⟩
        exact List.mem_cons_of_mem _ hr

theorem nodup_retainUnseen (seen : List String) (records : List Record) :
    ((retainUnseen seen records).map Record.sysId).Nodup := by
  induction records generalizing seen with
  | nil => exact List.nodup_nil
  | cons record records ih =>
    unfold retainUnseen
    split
    · exact ih seen
    · rw [List.map_cons, List.nodup_cons]
      refine ⟨fun hmem => ?_, ih _⟩
      obtain ⟨r, hr, heq⟩ := List.mem_map.mp hmem
      exact (mem_retainUnseen hr).2 (heq ▸ List.mem_cons_self)

/-- Of the rows of each `sys_id`, the first is retained. -/
theorem retainUnseen_covers (h : r ∈ records) (hseen : r.sysId ∉ seen) :
    r.sysId ∈ (retainUnseen seen records).map Record.sysId := by
  induction records generalizing seen with
  | nil => cases h
  | cons record records ih =>
    unfold retainUnseen
    by_cases heq : record.sysId = r.sysId
    · rw [if_neg (heq ▸ hseen), List.map_cons, heq]
      exact List.mem_cons_self
    · have hmem : r ∈ records := by
        obtain rfl | hmem := List.mem_cons.mp h
        · exact absurd rfl heq
        · exact hmem
      by_cases hrecord : record.sysId ∈ seen
      · rw [if_pos hrecord]
        exact ih hmem hseen
      · rw [if_neg hrecord, List.map_cons]
        refine List.mem_cons_of_mem _ (ih hmem fun hr => ?_)
        obtain heq' | hr := List.mem_cons.mp hr
        · exact heq heq'.symm
        · exact hseen hr

theorem variablesFound_whole (h : AllWhole lib call.answer sysId) :
    variablesFound lib call.answer sysId =
      retainUnseen [] (call.tables.matching provider (activeVariableQuery "cat_item" [sysId]) ++
        if call.tables.setIds provider sysId = [] then []
        else call.tables.matching provider
          (activeVariableQuery "variable_set" (call.tables.setIds provider sysId))) := by
  obtain ⟨hown, hlinks, hsets, -⟩ := h
  rw [hlinks.setsRead] at hsets
  rw [variablesFound, hown.variablesRead, hlinks.setsRead]
  by_cases hempty : call.tables.setIds provider sysId = []
  · rw [if_pos hempty, if_pos hempty]
  · rw [if_neg hempty, if_neg hempty, (hsets hempty).variablesRead]

theorem isSysId_of_variablesFound (h : AllWhole lib call.answer sysId)
    (hr : r ∈ variablesFound lib call.answer sysId) : IsSysId r.sysId := by
  rw [variablesFound_whole h] at hr
  obtain hown | hsets := List.mem_append.mp (mem_retainUnseen hr).1
  · exact isSysId_of_matching hown
  · split at hsets
    · cases hsets
    · exact isSysId_of_matching hsets

/-- Whole reads find every active variable. -/
theorem variablesFound_covers (hid : IsSysId sysId) (h : AllWhole lib call.answer sysId)
    (hrow : call.tables.IsVariable provider sysId row) :
    row.sysId ∈ (variablesFound lib call.answer sysId).map Record.sysId := by
  obtain ⟨hlisted, hactive, hfield⟩ := hrow
  rw [variablesFound_whole h]
  have hread : ∃ r ∈ call.tables.matching provider (activeVariableQuery "cat_item" [sysId]) ++
      (if call.tables.setIds provider sysId = [] then []
        else call.tables.matching provider
          (activeVariableQuery "variable_set" (call.tables.setIds provider sysId))),
      r.sysId = row.sysId := by
    obtain hown | ⟨set, hset, hsets⟩ := hfield
    · have hvalues : ∀ value ∈ [sysId], IsSysId value := by simpa using hid
      obtain ⟨r, hr, heq⟩ := mem_matching_active hvalues hlisted hactive
        ⟨sysId, List.mem_singleton_self _, hown⟩
      exact ⟨r, List.mem_append_left _ hr, heq⟩
    · obtain ⟨r, hr, heq⟩ := mem_matching_active
        (fun _ hvalue => isSysId_of_setIds hvalue) hlisted hactive ⟨set, hset, hsets⟩
      rw [if_neg (List.ne_nil_of_mem hset)]
      exact ⟨r, List.mem_append_right _ hr, heq⟩
  obtain ⟨r, hr, heq⟩ := hread
  rw [← heq]
  exact retainUnseen_covers hr List.not_mem_nil

/-! ### Choices -/

/-- Choices are grouped by the question they show, in order. -/
theorem grouped_row (rows : List Record) (grouped : Table String (List CatalogChoice))
    (question : String) :
    ((rows.foldl (groupChoice lib) grouped).row question).getD [] =
      (grouped.row question).getD [] ++
        (rows.filter fun row => recordFieldRawOrDisplay lib row "question" = some question).map
          (catalogChoice lib) := by
  induction rows generalizing grouped with
  | nil => simp
  | cons row rows ih =>
    rw [List.foldl_cons, ih]
    rcases hshown : recordFieldRawOrDisplay lib row "question" with _ | shown
    · simp [groupChoice, hshown]
    · by_cases heq : shown = question
      · simp [groupChoice, hshown, heq]
      · have hne : question ≠ shown := fun h => heq h.symm
        simp [groupChoice, hshown, heq, hne]

theorem catalogChoice_select {fields : List String} (hvalue : "value" ∈ fields)
    (htext : "text" ∈ fields) (row : Record) :
    catalogChoice lib (select fields row) = catalogChoice lib row := by
  simp only [catalogChoice, rawOrDisplay_select hvalue, displayOrRaw_select htext]

/-- The choices of several variables, grouped, are those of each. -/
theorem grouped_matching (hids : ∀ id ∈ ids, IsSysId id) {question : String}
    (hquestion : question ∈ ids) :
    (((tables.matching provider (choiceQuery ids)).foldl (groupChoice lib) Table.empty).row
      question).getD [] = tables.choicesOf provider question := by
  have hholds : ∀ row, (choiceQuery ids).holds provider row =
      ids.any fun id => provider.holds (.equals "question" id) row := by
    intro row
    simp [Listing.holds, choiceQuery, Listing.inList, provider.inList "question" ids hids]
  -- A choice that is read shows the question it is found by, so it is grouped under that one.
  have hshown : ∀ row, (choiceQuery ids).holds provider row = true →
      (recordFieldRawOrDisplay lib row "question" = some question ↔
        provider.holds (.equals "question" question) row = true) := by
    intro row hrow
    rw [hholds] at hrow
    obtain ⟨id, hid, hfound⟩ := List.any_eq_true.mp hrow
    refine ⟨fun heq => ?_, fun hq => provider.shows question row (hids _ hquestion) hq⟩
    rw [provider.shows id row (hids id hid) hfound] at heq
    cases heq
    exact hfound
  have hfields : "question" ∈ (choiceQuery ids).fields ∧ "value" ∈ (choiceQuery ids).fields ∧
      "text" ∈ (choiceQuery ids).fields := by
    simp [choiceQuery, Listing.inList]
  rw [grouped_row, CatalogTables.matching, CatalogTables.choicesOf, List.filter_map, List.map_map,
    List.filter_filter]
  show _ ++ ((tables.listed "question_choice" "order").rows.filter _).map _ = _
  rw [Table.row_empty, Option.getD_none, List.nil_append]
  have hfilter : ∀ row ∈ (tables.listed "question_choice" "order").rows,
      (((fun row => decide (recordFieldRawOrDisplay lib row "question" = some question)) ∘
        select (choiceQuery ids).fields) row && (choiceQuery ids).holds provider row) =
      provider.holds (.equals "question" question) row := by
    intro row _
    show (decide (recordFieldRawOrDisplay lib (select _ row) "question" = some question) && _) = _
    rw [rawOrDisplay_select hfields.1]
    by_cases hrow : (choiceQuery ids).holds provider row = true
    · rw [hrow, Bool.and_true, Bool.eq_iff_iff, decide_eq_true_iff]
      exact hshown row hrow
    · have hnot : provider.holds (.equals "question" question) row ≠ true := fun h =>
        hrow ((hholds row).trans (List.any_eq_true.mpr ⟨question, hquestion, h⟩))
      rw [Bool.eq_false_iff.mpr hrow, Bool.eq_false_iff.mpr hnot, Bool.and_false]
  rw [List.filter_congr hfilter]
  exact List.map_congr_left fun row _ => catalogChoice_select hfields.2.1 hfields.2.2 row

/-- **An item whose reads are all whole is complete.** -/
theorem AllWhole.complete (hid : IsSysId sysId) (h : AllWhole lib call.answer sysId)
    (hrecord : record.sysId = sysId) :
    CompleteItem provider call.tables
      (catalogItemFromRecord lib record (variablesAnswered lib call.answer sysId)) := by
  refine ⟨fun row hrow => ?_, fun v hv => ?_⟩
  · show (variablesAnswered lib call.answer sysId).countP _ = 1
    have hrow : call.tables.IsVariable provider sysId row := hrecord ▸ hrow
    rw [variablesAnswered, List.countP_map]
    have hcount := List.count_eq_one_of_mem (nodup_retainUnseen [] _)
        (variablesFound_covers hid h hrow)
    rw [List.count, List.countP_map] at hcount
    refine Eq.trans (List.countP_congr fun r _ => ?_) hcount
    simp [catalogVariableFromRecord]
  · obtain ⟨r, hr, rfl⟩ := List.mem_map.mp hv
    have hids : ∀ id ∈ questions lib call.answer sysId, IsSysId id := by
      intro id hmem
      obtain ⟨r', hr', rfl⟩ := List.mem_map.mp (List.mem_filter.mp hmem).1
      exact isSysId_of_variablesFound h hr'
    have hquestion : r.sysId ∈ questions lib call.answer sysId := by
      refine List.mem_filter.mpr ⟨List.mem_map_of_mem hr, ?_⟩
      exact decide_eq_true (IsSysId.named (isSysId_of_variablesFound h hr))
    have hwhole := h.2.2.2 (List.ne_nil_of_mem hquestion)
    show ((choicesRead lib call.answer (questions lib call.answer sysId)).row r.sysId).getD [] = _
    rw [choicesRead, if_neg (List.ne_nil_of_mem hquestion), hwhole.rowsRead]
    exact grouped_matching hids hquestion

end Variables

/-! ## A call -/

section Call

variable {call : Served lib provider} {products : CatalogProducts} {sysId : String}

theorem isSysId_of_normalized {text : String} (h : normalizeRecordLookupSysId text = .ok sysId) :
    IsSysId sysId := by
  unfold normalizeRecordLookupSysId at h
  simp only at h
  generalize toAsciiLowercase (trim text) = normalized at h
  by_cases hlength : normalized.toList.length = 32
  · by_cases hhex : (normalized.toList.all fun c => "0123456789abcdef".toList.contains c) = true
    · rw [if_neg (by simp only [hlength, hhex]; simp)] at h
      have heq : normalized = sysId := Except.ok.inj h
      subst heq
      exact ⟨hlength, fun c hc => List.contains_iff_mem.mp (List.all_eq_true.mp hhex c hc)⟩
    · rw [if_pos (.inr hhex)] at h
      exact absurd h (by simp)
  · rw [if_pos (.inl hlength)] at h
    exact absurd h (by simp)

variable (lib) in
/-- A call that reads ServiceNow. -/
theorem envelope_live (hid : normalizeRecordLookupSysId call.sysId = .ok sysId)
    (hlook : lookUp call.toCall products sysId = .ok none) :
    catalogItemGetEnvelope lib call.toCall products = afterRead call.toCall products
        ((getCatalogItemLive lib sysId).run.answered call.answer) := by
  unfold catalogItemGetEnvelope
  simp only [hid, hlook]

variable {envelope : OperationEnvelope}

theorem lookUp_source (h : lookUp call.toCall products sysId = .ok (some envelope)) :
    envelope.source ≠ .live ∧ ∃ row, products.row sysId = some row ∧ envelope.item = row.item := by
  unfold lookUp at h
  split at h
  · cases h
  · obtain ⟨_, -, h⟩ := bind_eq_ok h
    rcases hrow : products.row sysId with _ | row
    · rw [hrow] at h
      simp only at h
      split at h <;> cases h
    · rw [hrow] at h
      simp only at h
      split at h
      · cases h
        exact ⟨by simp, row, rfl, rfl⟩
      · cases h

/-- A call that does not read ServiceNow leaves the cache as it is, and answers from it or not at
all. -/
theorem envelope_aside (call : Served lib provider) (products : CatalogProducts)
    (h : ∀ sysId, normalizeRecordLookupSysId call.sysId = .ok sysId →
      lookUp call.toCall products sysId ≠ .ok none) :
    (catalogItemGetEnvelope lib call.toCall products).2.2 = products ∧
      ∀ envelope, (catalogItemGetEnvelope lib call.toCall products).2.1 = .ok envelope →
        envelope.source ≠ .live ∧ ∃ sysId row, normalizeRecordLookupSysId call.sysId = .ok sysId ∧
          products.row sysId = some row ∧ envelope.item = row.item := by
  unfold catalogItemGetEnvelope
  rcases hid : normalizeRecordLookupSysId call.sysId with err | sysId
  · exact ⟨rfl, by rintro _ ⟨⟩⟩
  · rcases hlook : lookUp call.toCall products sysId with err | _ | envelope
    · exact ⟨by simp only [hlook], by simp [hlook]⟩
    · exact absurd hlook (h sysId hid)
    · refine ⟨by simp only [hlook], fun envelope' h' => ?_⟩
      simp only [hlook] at h'
      cases h'
      obtain ⟨hsource, row, hrow, hitem⟩ := lookUp_source hlook
      exact ⟨hsource, sysId, row, rfl, hrow, hitem⟩

theorem keep_of_unkept {call : Call} (h : Unkept call record) (products : CatalogProducts)
    (item : CatalogItem) :
    ∃ message, keep call products record item = (.error (.store message), products) := by
  obtain ⟨hmode, hfail⟩ := h
  unfold keep
  rcases hprojects : call.projects record with message | ⟨⟩
  · exact ⟨message, by simp [hmode]⟩
  · rcases hwrites : call.writes with message | ⟨⟩
    · exact ⟨message, by simp [hmode]⟩
    · simp [hprojects, hwrites] at hfail

/-- An item that can be kept is answered as complete, and kept or not. -/
theorem keep_of_kept {call : Call} (h : ¬ Unkept call record) (products : CatalogProducts)
    (item : CatalogItem) :
    ∃ products', keep call products record item =
        (.ok ⟨operation, .live, .complete, item⟩, products') ∧
      (products' = products ∨
        products' = upsertCompleteCatalogProduct item call.refreshedAt products) := by
  unfold keep
  by_cases hmode : call.rule.mode = .readThrough
  · rcases hprojects : call.projects record with message | ⟨⟩
    · exact absurd ⟨hmode, .inl ⟨message, hprojects⟩⟩ h
    · rcases hwrites : call.writes with message | ⟨⟩
      · exact absurd ⟨hmode, .inr ⟨message, hwrites⟩⟩ h
      · exact ⟨_, by simp only [hmode, if_true], .inr rfl⟩
  · exact ⟨products, by simp [hmode], .inl rfl⟩

/-- An answer that was not read is that of an item of the cache. -/
theorem envelope_cached (h : (catalogItemGetEnvelope lib call.toCall products).2.1 = .ok envelope)
    (hsource : envelope.source ≠ .live) :
    ∃ sysId row, normalizeRecordLookupSysId call.sysId = .ok sysId ∧
      products.row sysId = some row ∧ envelope.item = row.item := by
  by_cases hlive : ∃ sysId, normalizeRecordLookupSysId call.sysId = .ok sysId ∧
      lookUp call.toCall products sysId = .ok none
  · obtain ⟨sysId, hid, hlook⟩ := hlive
    rw [envelope_live lib hid hlook] at h
    rcases hread : ((getCatalogItemLive lib sysId).run.answered call.answer).2 with
      err | ⟨record, item⟩
    · simp only [afterRead, hread] at h
      cases h
    · simp only [afterRead, hread] at h
      by_cases hkept : Unkept call.toCall record
      · obtain ⟨message, hkeep⟩ := keep_of_unkept hkept products item
        rw [hkeep] at h
        cases h
      · obtain ⟨products', hkeep, -⟩ := keep_of_kept hkept products item
        rw [hkeep] at h
        cases h
        exact absurd rfl hsource
  · exact ((envelope_aside call products fun sysId hid hlook => hlive ⟨sysId, hid, hlook⟩).2
      envelope h).2

/-- An item whose reads are all whole is genuine. -/
theorem genuine_of_allWhole (hid : normalizeRecordLookupSysId call.sysId = .ok sysId)
    (h : AllWhole lib call.answer sysId)
    (hrecord : call.answer (.get "sc_cat_item" itemFields sysId) = .ok record)
    (hgives : Gives call.answer (getCatalogItemLive lib sysId)
      (record, catalogItemFromRecord lib record (variablesAnswered lib call.answer sysId))
      (AllWhole lib call.answer sysId)) :
    Genuine call (catalogItemFromRecord lib record (variablesAnswered lib call.answer sysId)) := by
  have hsysId : record.sysId = sysId := call.found _ _ _ _ hrecord
  subst hsysId
  exact ⟨hid, ⟨record, hgives.value⟩, hgives.reads.mpr h,
    h.complete (isSysId_of_normalized hid) rfl⟩

variable {reads : List Read}

/-- A call whose live read fails, or whose item cannot be kept, promises nothing. -/
theorem honest_of_failure {err : CatalogError}
    (h : catalogItemGetEnvelope lib call.toCall products = (reads, .error err, products)) :
    Honest call products := by
  refine ⟨fun envelope hanswer => ?_, fun id row hrow hnew => ?_⟩
  · rw [h] at hanswer
    cases hanswer
  · rw [h] at hrow
    exact absurd hrow hnew

theorem honest_of_genuine {products' : CatalogProducts} {item : CatalogItem}
    (h : catalogItemGetEnvelope lib call.toCall products =
      (reads, .ok ⟨operation, .live, .complete, item⟩, products'))
    (hproducts : products' = products ∨
      products' = upsertCompleteCatalogProduct item call.refreshedAt products)
    (hitem : Genuine call item) : Honest call products := by
  refine ⟨fun envelope hanswer _ _ => ?_, fun id row hrow hnew => ?_⟩
  · rw [h] at hanswer
    cases hanswer
    exact hitem
  · rw [h] at hrow
    obtain rfl | rfl := hproducts
    · exact absurd hrow hnew
    · by_cases heq : id = item.sysId
      · subst heq
        simp only [upsertCompleteCatalogProduct, Table.row_put_self, Option.some.injEq] at hrow
        subst hrow
        exact ⟨rfl, hitem⟩
      · simp only [upsertCompleteCatalogProduct, Table.row_put_of_ne _ _ heq] at hrow
        exact absurd hrow hnew

/-- **A call keeps its promise exactly when it is decided.** -/
theorem honest_iff : Honest call products ↔ Decided lib call.toCall products := by
  constructor
  · intro h sysId hid hlook
    by_cases hends : Ends lib call.answer sysId
    · exact .inl hends
    obtain ⟨record, hrecord, hgives⟩ := gives_live (isSysId_of_normalized hid).normalize hends
    by_cases hkept : Unkept call.toCall record
    · exact .inr (.inl ⟨record, hrecord, hkept⟩)
    have henvelope := envelope_live lib hid hlook
    obtain ⟨products', hkeep, -⟩ := keep_of_kept hkept products
      (catalogItemFromRecord lib record (variablesAnswered lib call.answer sysId))
    simp only [afterRead, hgives.value, hkeep] at henvelope
    have hgenuine := h.1 ⟨operation, .live, .complete, _⟩ (by rw [henvelope]) rfl rfl
    have hsysId : record.sysId = sysId := call.found _ _ _ _ hrecord
    subst hsysId
    exact .inr (.inr (hgives.reads.mp hgenuine.2.2.1))
  · intro h
    by_cases hlive : ∃ sysId, normalizeRecordLookupSysId call.sysId = .ok sysId ∧
        lookUp call.toCall products sysId = .ok none
    · obtain ⟨sysId, hid, hlook⟩ := hlive
      have hnormal := (isSysId_of_normalized hid).normalize
      have henvelope := envelope_live lib hid hlook
      by_cases hends : Ends lib call.answer sysId
      · obtain ⟨err, herr⟩ := fails_live hnormal hends
        simp only [afterRead, herr] at henvelope
        exact honest_of_failure henvelope
      obtain ⟨record, hrecord, hgives⟩ := gives_live hnormal hends
      simp only [afterRead, hgives.value] at henvelope
      by_cases hkept : Unkept call.toCall record
      · obtain ⟨message, hkeep⟩ := keep_of_unkept hkept products
          (catalogItemFromRecord lib record (variablesAnswered lib call.answer sysId))
        rw [hkeep] at henvelope
        exact honest_of_failure henvelope
      · obtain ⟨products', hkeep, hproducts⟩ := keep_of_kept hkept products
          (catalogItemFromRecord lib record (variablesAnswered lib call.answer sysId))
        rw [hkeep] at henvelope
        have hwhole : AllWhole lib call.answer sysId := by
          obtain hends' | ⟨record', hrecord', hunkept⟩ | hwhole := h sysId hid hlook
          · exact absurd hends' hends
          · rw [hrecord] at hrecord'
            cases hrecord'
            exact absurd hunkept hkept
          · exact hwhole
        exact honest_of_genuine henvelope hproducts (genuine_of_allWhole hid hwhole hrecord hgives)
    · have haside := envelope_aside call products fun sysId hid hlook => hlive ⟨sysId, hid, hlook⟩
      refine ⟨fun envelope hanswer hsource => ?_, fun id row hrow hnew => ?_⟩
      · exact absurd hsource (haside.2 envelope hanswer).1
      · rw [haside.1] at hrow
        exact absurd hrow hnew

end Call

end SnowAgent.Catalog
