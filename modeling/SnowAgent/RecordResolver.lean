import SnowAgent.Executions
import SnowAgent.TableApi

/-! # The record resolver

`record_resolve` finds the record that an identifier names, in whatever table it is, and
hands it out whole or in chunks.  A call probes a bounded number of tables; where it
stops is kept under a cursor, from which a later call goes on.  A document too large
for one answer is kept too, and each of its chunks names the cursor of the next.

A call is a program over the two maps of sessions, the clock, fresh identifiers and
ServiceNow.
-/
namespace SnowAgent.Resolve

open Core Json Text Program

/-! ## Constants -/

/-- `PRIORITY_TABLES`. -/
def priorityTables : List String :=
  ["task", "cmdb_ci", "sys_user", "sys_user_group", "kb_knowledge", "sys_metadata",
    "resource_plan", "sysapproval_approver"]

/-- `PAGE_SIZE`. -/
def pageSize : Nat := 32

/-- `PROBE_BUDGET`. -/
def probeBudget : Nat := 32

/-- `CONCURRENCY`. -/
def concurrency : Nat := 8

/-- `Instant`, in milliseconds. -/
abbrev Instant := Nat

/-- `CURSOR_TTL`. -/
def cursorTtl : Nat := 300000

/-- `MAX_SESSIONS`. -/
def maxSessions : Nat := 32

/-! ## Sessions -/

/-- `SearchState`. -/
structure SearchState where
  sysId : String
  pending : List String
  after : String
  catalogComplete : Bool
  scanned : Nat
  unreadable : Nat
  touched : Instant
deriving DecidableEq

/-- `DocumentState`. -/
structure DocumentState where
  sysId : String
  table : String
  resourceType : String
  content : String
  contentHash : String
  pageOffsets : List (String × Nat)
  complete : Bool
  touched : Instant
deriving DecidableEq

/-- The sessions of the documents, by the key of each. -/
abbrev Documents := List (String × DocumentState)

/-- The sessions of the searches, by their cursor. -/
abbrev Sessions := List (String × SearchState)

/-- `touched.elapsed() < CURSOR_TTL`. -/
def live (now touched : Instant) : Bool := now - touched < cursorTtl

/-- `HashMap::insert`. -/
def insertSession {A : Type} (key : String) (a : A) (map : List (String × A)) :
    List (String × A) := map.filter (fun entry => entry.1 != key) ++ [(key, a)]

/-- `HashMap::remove`. -/
def removeSession {A : Type} (key : String) (map : List (String × A)) : List (String × A) :=
  map.filter fun entry => entry.1 != key

/-! ## What a call answers -/

/-- `RecordResolveInput`. -/
structure RecordResolveInput where
  sysId : Option String
  number : Option String
  resourceType : Option String
  name : Option String
  table : Option String
  cursor : Option String
deriving DecidableEq

/-- `RecordResolveError`. -/
inductive RecordResolveError where
  | invalidParams (message : String)
  | unavailable (message : String)
  | integrity (message : String)
deriving DecidableEq

/-- `ResolvedRecord`. -/
structure ResolvedRecord where
  sysId : String
  table : String
  resourceType : String
  fields : Value
  dataModel : Value
  dataType : Option Value

/-- The chunk of a document, as it is answered. -/
structure DocumentChunk where
  sysId : String
  table : String
  resourceType : String
  content : String
  contentHash : String
  offsetBytes : Nat
  byteLength : Nat
  cursor : Option String
deriving DecidableEq

/-- `RecordResolution`. -/
inductive RecordResolution where
  | typeMatches (types : Value) (complete : Bool)
  | numberNotFoundOrInaccessible (number : String)
  /-- What the resolver of names answers. -/
  | nameMatches (matching : Value)
  | document (chunk : DocumentChunk)
  | resolved (record : ResolvedRecord)
  | searching (sysId cursor : String) (scannedTables unreadableTables : Nat)
  | notFoundOrInaccessible (sysId : String) (scannedTables unreadableTables : Nat)

/-! ## What a call asks for -/

/-- What a page of the table catalog is answered with. -/
inductive CatalogAnswer where
  | timedOut
  | failed
  /-- The name of each entry, and whether the page is marked as partial. -/
  | page (names : List (Option String)) (errors : Bool)

/-- What a table says of an identifier: its record, that it has none, or anything else. -/
inductive ProbeAnswer where
  | record (record : Record)
  | notFound
  | unreadable

/-- Why the class of a record could not be read. -/
inductive ReadFailure where
  | timedOut
  | failed

/-- The actions of a call. -/
inductive ResolveAct where
  | now
  | newUuid
  | readDocuments
  | writeDocuments (documents : Documents)
  | readSessions
  | writeSessions (sessions : Sessions)
  | resolveType (selector : String)
  | uniqueType (hint : String)
  | resolveName (name : String) (scope cursor : Option String)
  | lookupNumberScoped (number : String) (scope : Option String)
  | getRecord (table sysId : String)
  /-- The entries of `sys_db_object` after a name, in the order of their names. -/
  | catalogPage (after : String)
  | probe (tables : List String) (sysId : String)
  /-- The model of a table, or why there is none, as JSON. -/
  | dataModel (table : String)
  | describeTable (table : String)

/-- What each action is answered with. -/
def ResolveAct.Ans : ResolveAct → Type
  | now => Instant
  | newUuid => String
  | readDocuments => Documents
  | readSessions => Sessions
  | writeDocuments _ | writeSessions _ => Unit
  | resolveType _ => Except RecordResolveError Value
  | uniqueType _ => Except RecordResolveError String
  | resolveName _ _ _ => Except RecordResolveError Value
  | lookupNumberScoped _ _ => Except RecordResolveError (Option Record)
  | getRecord _ _ => Except ReadFailure Record
  | catalogPage _ => CatalogAnswer
  -- One answer for each table, in the order in which they arrive; none when a worker fails.
  | probe _ _ => Option (List (String × ProbeAnswer))
  | dataModel _ => Value
  | describeTable _ => Option Value

/-- The interface of a call. -/
abbrev ResolveIO : Interface := ⟨ResolveAct, ResolveAct.Ans⟩

/-- A part of a call, which may fail. -/
abbrev ResolveM := ExceptT RecordResolveError (Program ResolveIO)

/-- An action that cannot fail. -/
def ask (e : ResolveAct) : ResolveM (ResolveAct.Ans e) :=
  ExceptT.mk do return .ok (← perform (S := ResolveIO) e)

/-- What a call is turned away with. -/
def refuse {A : Type} (err : RecordResolveError) : ResolveM A := ExceptT.mk (return .error err)

/-- A value, or what a call is turned away with. -/
def given {A : Type} (result : Except RecordResolveError A) : ResolveM A :=
  ExceptT.mk (return result)

/-- What is left open: the shape of the answers and the hash. -/
structure ResolverLib where
  /-- `serde_json::to_value(record.fields())`. -/
  fieldsJson : Record → Value
  /-- `serde_json::to_string`, of a resolved record. -/
  recordJson : ResolvedRecord → String
  /-- `record_types::resource_type`. -/
  resourceType : String → String
  sha256 : Sha256

section Executions

variable {World A B : Type} {answers : World → (e : ResolveAct) → ResolveAct.Ans e → World → Prop}
  {w w' : World} {past : Trace ResolveIO}

variable {out : Except RecordResolveError B}

/-- An action that is asked for, and what follows. -/
theorem executes_ask {e : ResolveAct} {f : ResolveAct.Ans e → ResolveM B}
    (h : Executes answers (ask e >>= f).run w past out w') :
    ∃ r w₁ rest, answers w e r w₁ ∧ past = ⟨e, r⟩ :: rest ∧
      Executes answers (f r).run w₁ rest out w' := by
  rcases executes_run_bind.mp h with ⟨err, rfl, herr⟩ | ⟨r, w₁, past₁, past₂, rfl, hask, hrest⟩
  · cases herr with
    | act ha hk => cases hk
  · cases hask with
    | act ha hk =>
      cases hk
      exact ⟨r, _, past₂, ha, rfl, hrest⟩

theorem executes_refuse {err : RecordResolveError} {out : Except RecordResolveError A}
    (h : Executes answers (refuse err : ResolveM A).run w past out w') :
    past = [] ∧ out = .error err ∧ w' = w := executes_pure.mp h

theorem executes_given {result out : Except RecordResolveError A}
    (h : Executes answers (given result).run w past out w') :
    past = [] ∧ out = result ∧ w' = w := executes_pure.mp h

/-- A value that is given, and what follows. -/
theorem executes_given_bind {result : Except RecordResolveError A} {f : A → ResolveM B}
    (h : Executes answers (given result >>= f).run w past out w') :
    (∃ err, result = .error err ∧ out = .error err ∧ past = [] ∧ w' = w) ∨
      ∃ a, result = .ok a ∧ Executes answers (f a).run w past out w' := by
  rcases executes_run_bind.mp h with ⟨err, rfl, herr⟩ | ⟨a, w₁, past₁, past₂, rfl, ha, hrest⟩
  · obtain ⟨rfl, hresult, rfl⟩ := executes_given herr
    exact .inl ⟨err, hresult.symm, rfl, rfl, rfl⟩
  · obtain ⟨rfl, hresult, rfl⟩ := executes_given ha
    exact .inr ⟨a, hresult.symm, hrest⟩

theorem mayEnd_ask {e : ResolveAct} {f : ResolveAct.Ans e → ResolveM B} {r : ResolveAct.Ans e}
    {w₁ : World} (ha : answers w e r w₁)
    (h : MayEnd answers (f r).run w₁ out w') : MayEnd answers (ask e >>= f).run w out w' :=
  .act ha h

end Executions

variable (lib : ResolverLib)

/-! ## Records -/

/-- `identifier`. -/
def identifier (value : String) : Bool :=
  value ≠ "" && value.utf8ByteSize ≤ 160 && value.toList.all fun c => c.isAlphanum || c == '_'

/-- `validate_identity`. -/
def validateIdentity (record : Record) (expected : String) : Except RecordResolveError Unit :=
  if eqIgnoreAsciiCase record.sysId expected then .ok ()
  else .error (.integrity "provider returned a different sys_id")

/-- The class that a record names, or else the table it was read from. -/
def namedClass (record : Record) : Except RecordResolveError String :=
  match record.getRaw "sys_class_name" with
  | some value => .ok (if value = "" then record.table else value)
  | none =>
    if (record.fields.get "sys_class_name").isNone then .ok record.table
    else .error (.integrity "provider returned an unreadable object class")

/-- `actual_table`. -/
def actualTable (record : Record) : Except RecordResolveError String :=
  if record.table ∈ ["task", "cmdb_ci", "sys_metadata"] ∧
      ((record.getRaw "sys_class_name").getD "" = "") then
    .error (.unavailable ("parent record is readable but its actual object class is hidden; " ++
      "complete type resolution is unavailable"))
  else do
    let table ← namedClass record
    if identifier table then .ok table
    else .error (.integrity "provider returned an invalid object class")

/-! ## Chunks of a document -/

/-- `str::len`, of characters. -/
def byteLength (cs : List Char) : Nat := (cs.map Char.utf8Size).sum

/-- `str::is_char_boundary`. -/
def isCharBoundary : List Char → Nat → Bool
  | _, 0 => true
  | [], _ + 1 => false
  | c :: cs, n => c.utf8Size ≤ n && isCharBoundary cs (n - c.utf8Size)

/-- The last border of a character at or before an offset. -/
def floorBoundary (cs : List Char) : Nat → Nat
  | 0 => 0
  | n + 1 => if isCharBoundary cs (n + 1) then n + 1 else floorBoundary cs n

/-- The characters from a border on. -/
def dropBytes : Nat → List Char → List Char
  | 0, cs => cs
  | _ + 1, [] => []
  | n, c :: cs => dropBytes (n - c.utf8Size) cs

/-- The characters up to a border. -/
def takeBytes : Nat → List Char → List Char
  | 0, _ => []
  | _ + 1, [] => []
  | n, c :: cs => c :: takeBytes (n - c.utf8Size) cs

/-- `content[start..end]`. -/
def slice (content : String) (start stop : Nat) : String :=
  String.ofList (takeBytes (stop - start) (dropBytes start content.toList))

/-- The cursor for an offset: the one there is, or a new one. -/
def cursorFor (state : DocumentState) (offset : Nat) : ResolveM (String × DocumentState) :=
  match state.pageOffsets.find? fun entry => entry.2 = offset with
  | some entry => return (entry.1, state)
  | none => do
    let token : String ← ask .newUuid
    return (token, { state with pageOffsets := state.pageOffsets ++ [(token, offset)] })

/-- `document_chunk`. -/
def documentChunk (state : DocumentState) (start : Nat) :
    ResolveM (DocumentState × DocumentChunk) := do
  let length := byteLength state.content.toList
  let stop := floorBoundary state.content.toList (min (start + 8192) length)
  let now ← ask .now
  let touched := { state with touched := now }
  let chunk (cursor : Option String) : DocumentChunk :=
    { sysId := state.sysId
      table := state.table
      resourceType := state.resourceType
      content := slice state.content start stop
      contentHash := state.contentHash
      offsetBytes := start
      byteLength := length
      cursor := cursor }
  if stop < length then do
    let (cursor, kept) ← cursorFor touched stop
    return (kept, chunk (some cursor))
  else return ({ touched with complete := true }, chunk none)

/-- `sha256:` and the digest of a text in hexadecimal. -/
def contentHash (content : String) : String := "sha256:" ++ hexEncode (lib.sha256 content.toUTF8)

/-- The key of the complete session that was touched first. -/
def oldestComplete (documents : Documents) : Option String :=
  ((documents.filter fun entry => entry.2.complete).argmin fun entry => entry.2.touched).map
    Prod.fst

/-- The sessions that stay when a document is to be opened: those that are alive, and when these
are too many, not the complete one that was touched first. -/
def makeRoom (now : Instant) (documents : Documents) : Documents :=
  let alive := documents.filter fun entry => live now entry.2.touched
  if alive.length ≥ maxSessions then
    match oldestComplete alive with
    | some oldest => removeSession oldest alive
    | none => alive
  else alive

/-- `bounded_record`. -/
def boundedRecord (record : ResolvedRecord) (discoveryCursor : Option String) :
    ResolveM RecordResolution := do
  let content := lib.recordJson record
  if byteLength content.toList ≤ 32 * 1024 then return .resolved record
  else if byteLength content.toList > 16 * 1024 * 1024 then
    refuse (.unavailable
      "resolved document exceeds the 16 MiB session limit; no data was truncated")
  else do
    let now ← ask .now
    let documents ← ask .readDocuments
    let kept := makeRoom now documents
    ask (.writeDocuments kept)
    if kept.length ≥ maxSessions then
      refuse (.unavailable "resolved document sessions are at capacity")
    else do
      let key ← ask .newUuid
      let opened ← ask .now
      let state : DocumentState :=
        { sysId := record.sysId
          table := record.table
          resourceType := record.resourceType
          content := content
          contentHash := contentHash lib content
          pageOffsets := (discoveryCursor.map fun cursor => (cursor, 0)).toList
          complete := false
          touched := opened }
      let (state, chunk) ← documentChunk state 0
      ask (.writeDocuments (insertSession key state kept))
      return .document chunk

/-- `finish_record`. -/
def finishRecord (record : Record) (cursor : Option String) : ResolveM RecordResolution := do
  given (validateIdentity record record.sysId)
  let table ← given (actualTable record)
  let dataModel ← ask (.dataModel table)
  let dataType ← ask (.describeTable table)
  boundedRecord lib
    { sysId := record.sysId
      table := table
      resourceType := lib.resourceType table
      fields := lib.fieldsJson record
      dataModel := dataModel
      dataType := dataType } cursor

/-! ## Discovery -/

/-- The search for an identifier at its start. -/
def SearchState.start (sysId : String) (now : Instant) : SearchState :=
  ⟨sysId, priorityTables, "", false, 0, 0, now⟩

/-- Takes in an entry of the catalog. -/
def takeEntry (search : SearchState) : Option String → Except RecordResolveError SearchState
  | none => .error (.integrity "table catalog omitted a table name")
  | some name =>
    if !identifier name || decide (name ≤ search.after) then
      .error (.integrity "table catalog returned an invalid or non-progressing name")
    else
      .ok { search with
        after := name
        pending := if name ∈ priorityTables then search.pending else search.pending ++ [name] }

/-- Takes in a page of the catalog. -/
def takePage (search : SearchState) (names : List (Option String)) :
    Except RecordResolveError SearchState :=
  names.foldlM takeEntry { search with catalogComplete := decide (names.length < pageSize) }

/-- Reads a page of the catalog when no table is pending. -/
def fillPending (search : SearchState) : ResolveM SearchState :=
  if search.pending ≠ [] then return search
  else do
    let answer ← ask (.catalogPage search.after)
    match answer with
    | .timedOut => refuse (.unavailable "table catalog discovery timed out; retry this lookup")
    | .failed =>
      refuse (.unavailable ("table catalog is unavailable to the configured identity; " ++
        "resolution cannot complete"))
    | .page names errors =>
      if errors then refuse (.unavailable "table catalog returned a partial page")
      else given (takePage search names)

/-- The records among some answers. -/
def foundRecords (answers : List (String × ProbeAnswer)) : List Record :=
  answers.filterMap fun
    | (_, .record record) => some record
    | _ => none

/-- How many of some answers are neither a record nor that there is none. -/
def unreadableCount (answers : List (String × ProbeAnswer)) : Nat :=
  answers.countP fun
    | (_, .unreadable) => true
    | _ => false

/-- Probes so many of the pending tables. -/
def probeBatch (count : Nat) (search : SearchState) : ResolveM (List Record × SearchState) := do
  let tables := search.pending.take count
  let answer ← ask (.probe tables search.sysId)
  match answer with
  | none => refuse (.unavailable "record discovery worker failed")
  | some answers =>
    return (foundRecords answers,
      { search with
        pending := search.pending.drop count
        scanned := search.scanned + count
        unreadable := search.unreadable + unreadableCount answers })

/-- What the tables of one call come to: a record, or where the search stands. -/
inductive SearchEnd where
  | found (record : Record) (records : List Record)
  | paused (search : SearchState)

/-- The loop over the tables, with what is left of the budget. -/
def searchLoop : Nat → Nat → SearchState → ResolveM SearchEnd
  | 0, _, search => return .paused search
  | fuel + 1, remaining, search =>
    if remaining = 0 ∨ search.pending = [] ∧ search.catalogComplete then
      return .paused search
    else do
      let search ← fillPending search
      -- Even pages that hold only priority tables consume budget.
      if search.pending = [] then searchLoop fuel (remaining - 1) search
      else do
        let count := min (min concurrency remaining) search.pending.length
        let (records, search) ← probeBatch count search
        match records with
        | record :: records => return .found record records
        | [] => searchLoop fuel (remaining - count) search

/-- The classes of some records, each once. -/
def classes (sysId : String) (records : List Record) : Except RecordResolveError (List String) :=
  records.foldlM (fun classes record => do
    validateIdentity record sysId
    let table ← actualTable record
    return if table ∈ classes then classes else classes ++ [table]) []

/-- Reads a record of some table again as one of its own class. -/
def readClass (sysId table : String) (record : Record) : ResolveM Record :=
  if table = record.table then return record
  else do
    let answer ← ask (.getRecord table sysId)
    match answer with
    | .error .timedOut => refuse (.unavailable "resolved class read timed out")
    | .error .failed =>
      refuse (.unavailable "resolved class is not readable; parent data is not a complete object")
    | .ok record => do
      given (validateIdentity record sysId)
      let found ← given (actualTable record)
      if found ≠ table then
        refuse (.integrity "class changed during identifier resolution")
      else return record

/-- Forgets the search of a cursor. -/
def forgetSearch : Option String → ResolveM Unit
  | none => return ()
  | some cursor => do
    let sessions ← ask .readSessions
    ask (.writeSessions (removeSession cursor sessions))

/-- What a search answers that has found its record. -/
def finishSearch (sysId : String) (cursor : Option String) (record : Record)
    (records : List Record) : ResolveM RecordResolution := do
  let classes ← given (classes sysId (record :: records))
  if classes.length ≠ 1 then
    refuse (.integrity "sys_id returned conflicting object classes; resolution is ambiguous")
  else do
    let table ← given (actualTable record)
    let record ← readClass sysId table record
    let dataModel ← ask (.dataModel table)
    forgetSearch cursor
    let dataType ← ask (.describeTable record.table)
    boundedRecord lib
      { sysId := sysId
        table := table
        resourceType := lib.resourceType table
        fields := lib.fieldsJson record
        dataModel := dataModel
        dataType := dataType } cursor

/-- The cursor of a call, or a new one. -/
def cursorOrNew : Option String → ResolveM String
  | some cursor => return cursor
  | none => ask .newUuid

/-- Keeps a search for the next call. -/
def keepSearch (cursor : Option String) (search : SearchState) : ResolveM RecordResolution := do
  let cursor ← cursorOrNew cursor
  let now ← ask .now
  let sessions ← ask .readSessions
  if (sessions.lookup cursor).isNone ∧ sessions.length ≥ maxSessions then
    refuse (.unavailable "identifier discovery is at capacity")
  else do
    ask (.writeSessions (insertSession cursor { search with touched := now } sessions))
    return .searching search.sysId cursor search.scanned search.unreadable

/-- The search that a call goes on with, or a new one. -/
def openSearch (sysId : String) (cursor : Option String) : ResolveM SearchState := do
  let now ← ask .now
  let sessions ← ask .readSessions
  let alive := sessions.filter fun entry => live now entry.2.touched
  ask (.writeSessions alive)
  match cursor with
  | some cursor =>
    match (alive.lookup cursor).filter fun search => search.sysId = sysId with
    | some search => return search
    | none =>
      refuse (.invalidParams ("invalid, expired, or cross-identifier resolution cursor; " ++
        "start again with sys_id only"))
  | none =>
    if alive.length ≥ maxSessions then
      refuse (.unavailable ("identifier discovery is at capacity; " ++
        "retry after active searches finish or expire"))
    else do
      let started ← ask .now
      return .start sysId started

/-- The search for an identifier in all tables. -/
def discover (sysId : String) (cursor : Option String) : ResolveM RecordResolution := do
  let search ← openSearch sysId cursor
  let outcome ← searchLoop probeBudget probeBudget search
  match outcome with
  | .found record records => finishSearch lib sysId cursor record records
  | .paused search =>
    if search.pending = [] ∧ search.catalogComplete then do
      forgetSearch cursor
      return .notFoundOrInaccessible sysId search.scanned search.unreadable
    else keepSearch cursor search

/-! ## Calls -/

/-- The document that has a cursor, with its key and the offset of the cursor. -/
def findDocument (documents : Documents) (cursor : String) :
    Option (String × DocumentState × Nat) :=
  documents.findSome? fun entry =>
    (entry.2.pageOffsets.lookup cursor).map fun offset => (entry.1, entry.2, offset)

/-- The chunk of a cursor, when a document has it. -/
def continueDocument (sysId : String) (cursor : Option String) :
    ResolveM (Option RecordResolution) := do
  let now ← ask .now
  let documents ← ask .readDocuments
  let alive := documents.filter fun entry => live now entry.2.touched
  ask (.writeDocuments alive)
  match cursor.bind (findDocument alive) with
  | none => return none
  | some (key, state, offset) =>
    if state.sysId ≠ sysId then
      refuse (.invalidParams "document cursor belongs to a different identifier")
    else do
      let (state, chunk) ← documentChunk state offset
      ask (.writeDocuments (insertSession key state alive))
      return some (.document chunk)

/-- Reads the record of an identifier in the table it is said to be in. -/
def readScoped (table sysId : String) (cursor : Option String) : ResolveM RecordResolution :=
  if !identifier table then refuse (.invalidParams "invalid table identifier")
  else do
    let answer ← ask (.getRecord table sysId)
    match answer with
    | .error _ =>
      refuse (.unavailable "record table is unreadable or record was not found")
    | .ok record => do
      given (validateIdentity record sysId)
      let found ← given (actualTable record)
      if found ≠ table then
        refuse (.invalidParams ("sys_id does not match the resolved type; " ++
          "omit the hint to discover its actual class"))
      else finishRecord lib record cursor

/-- A call with an identifier. -/
def resolveSysId (sysId : String) (scope cursor : Option String) :
    ResolveM RecordResolution := do
  let sysId ←
    given (match normalizeRecordLookupSysId sysId with
      | .ok sysId => .ok sysId
      | .error message => .error (.invalidParams message))
  let continued ← continueDocument sysId cursor
  match continued with
  | some answer => return answer
  | none =>
    match scope with
    | some table => readScoped lib table sysId cursor
    | none => discover lib sysId cursor

/-- A call with a number. -/
def resolveNumber (number : String) (scope cursor : Option String) :
    ResolveM RecordResolution := do
  if cursor.isSome then
    refuse (.invalidParams
      "continue a numbered record document with its returned sys_id and cursor")
  else do
    let answer ← ask (.lookupNumberScoped number scope)
    match answer with
    | .error err => refuse err
    | .ok none => return .numberNotFoundOrInaccessible number
    | .ok (some record) =>
      if scope.any fun table => table ≠ record.table then
        refuse (.invalidParams "number does not match the resolved type")
      else finishRecord lib record none

/-- A call for a type alone. -/
def resolveSelector (input : RecordResolveInput) : ResolveM RecordResolution :=
  if input.cursor.isSome ∨ input.resourceType.isSome ∧ input.table.isSome then
    refuse (.invalidParams "type discovery requires only resource_type or table")
  else
    match input.resourceType.orElse fun _ => input.table with
    | none => refuse (.invalidParams "name, number, sys_id, or resource_type is required")
    | some selector => do
      let types ← ask (.resolveType selector)
      match types with
      | .error err => refuse err
      | .ok types => return .typeMatches types true

/-- The table that a call names, itself or by its type. -/
def resolveScope (input : RecordResolveInput) : ResolveM (Option String) :=
  match input.resourceType.filter (· ≠ "record") with
  | none => return input.table
  | some hint => do
    let resolved ← ask (.uniqueType hint)
    match resolved with
    | .error err => refuse err
    | .ok table =>
      if input.table.any (· ≠ table) then
        refuse (.invalidParams "table does not match resolved resource_type")
      else return some table

/-- A call with a name. -/
def resolveNamed (name : String) (scope cursor : Option String) : ResolveM RecordResolution := do
  let answer ← ask (.resolveName name scope cursor)
  match answer with
  | .error err => refuse err
  | .ok found => return .nameMatches found

/-- `resolve`. -/
def resolve (input : RecordResolveInput) : ResolveM RecordResolution :=
  let selectors := input.sysId.toList ++ input.name.toList ++ input.number.toList
  if selectors.length > 1 then
    refuse (.invalidParams "provide one of name, number, or sys_id")
  else if selectors.length = 0 then resolveSelector input
  else do
    let scope ← resolveScope input
    match input.name, input.number, input.sysId with
    | some name, _, _ => resolveNamed name scope input.cursor
    | none, some number, _ => resolveNumber lib number scope input.cursor
    | none, none, some sysId => resolveSysId lib sysId scope input.cursor
    | none, none, none => refuse (.invalidParams "name or sys_id is required")

/-- A call with what it has done. -/
abbrev ResolveCall :=
  Called ResolveIO RecordResolveInput (Except RecordResolveError RecordResolution)

end SnowAgent.Resolve
