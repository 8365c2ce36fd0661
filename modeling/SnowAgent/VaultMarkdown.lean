import SnowAgent.Json
import SnowAgent.RecordCache
import SnowAgent.Text
import SnowAgent.YamlBlocks

/-! # The Markdown of the vault

A document of the vault has a front matter of YAML, written by hand, and a body of titled
sections.  The body is read back by its heading lines, and what a section says is preferred
to the front matter.
-/
namespace SnowAgent.Markdown

open Json Text TextLines YamlBlocks

/-! ## Records -/

/-- A map with text keys, as its entries in the order of their keys. -/
@[ext] structure FieldMap (α : Type) where
  entries : List (String × α)
  sorted : entries.Pairwise fun e e' => e.1 < e'.1

namespace FieldMap

variable {α : Type}

def empty : FieldMap α := ⟨[], List.Pairwise.nil⟩

/-- `HashMap::get`. -/
def get (m : FieldMap α) (key : String) : Option α := m.entries.lookup key

/-- `HashMap::insert`. -/
def insert (m : FieldMap α) (key : String) (value : α) : FieldMap α where
  entries := m.entries.filter (fun e => e.1 < key) ++
    (key, value) :: m.entries.filter (fun e => key < e.1)
  sorted := by
    refine List.pairwise_append.mpr ⟨m.sorted.filter _, List.pairwise_cons.mpr
      ⟨fun e he => by simpa using (List.mem_filter.mp he).2, m.sorted.filter _⟩, ?_⟩
    intro e he e' he'
    have hlt : e.1 < key := by simpa using (List.mem_filter.mp he).2
    rcases List.mem_cons.mp he' with rfl | hmem
    · exact hlt
    · have hgt : key < e'.1 := by simpa using (List.mem_filter.mp hmem).2
      exact hlt.trans hgt

/-- `HashMap::remove`. -/
def remove (m : FieldMap α) (key : String) : FieldMap α :=
  ⟨m.entries.filter fun e => e.1 ≠ key, m.sorted.filter _⟩

/-- The map with the value of a key changed, if it has the key. -/
def adjust (m : FieldMap α) (key : String) (f : α → α) : FieldMap α where
  entries := m.entries.map fun e => if e.1 = key then (e.1, f e.2) else e
  sorted := by
    refine List.pairwise_map.mpr (m.sorted.imp ?_)
    intro e e' h
    split <;> split <;> exact h

/-- The map of entries, of which the last one of a key counts. -/
def ofEntries (entries : List (String × α)) : FieldMap α :=
  entries.foldl (fun m e => m.insert e.1 e.2) empty

end FieldMap

/-- `Reference`. -/
@[ext] structure Reference where
  sysId : String
  table : String
  displayName : String
  extra : FieldMap String

/-- `JournalEntry`. -/
structure JournalEntry where
  timestamp : DateTime
  author : String
  body : String

/-- `CacheSource`. -/
inductive CacheSource where
  | memory
  | disk
  | api
deriving DecidableEq

/-- `SnowRecord`. -/
structure SnowRecord where
  sysId : String
  number : String
  table : String
  resourceType : Core.ResourceType
  state : String
  shortDescription : String
  description : String
  fields : FieldMap FieldValue
  workNotes : List JournalEntry
  comments : List JournalEntry
  parent : Option RecordRef
  children : List RecordRef
  references : FieldMap Reference
  syncedAt : DateTime
  source : CacheSource

/-- What is left open: `serde_yaml` with what it says of a text it cannot read, the texts of
instants and days, and the choice of a display name. -/
structure VaultLib where
  readYaml : List Char → Option Yaml
  yamlError : List Char → String
  /-- `to_rfc3339_opts(SecondsFormat::Secs, true)`. -/
  showInstant : Rfc3339
  readInstant : String → Option DateTime
  /-- `NaiveDate::to_string`, of a day by its number. -/
  showDate : Int → String
  readDate : String → Option Int
  /-- `parse_datetime`, of a text that is trimmed and not empty. -/
  parseDatetime : String → Option DateTime
  chooseReferenceDisplayName : List (Option String) → String

/-! ## Slugs -/

def resourceTypeSlug : Core.ResourceType → String
  | .task => "task"
  | .incident => "incident"
  | .change => "change"
  | .changeTask => "change_task"
  | .request => "request"
  | .requestTask => "request_task"
  | .project => "project"
  | .demand => "demand"
  | .demandTask => "demand_task"
  | .resourcePlan => "resource_plan"
  | .story => "story"
  | .scrumTask => "scrum_task"
  | .timecard => "timecard"
  | .knowledge => "knowledge"
  | .approval => "approval"
  | .businessApplication => "business_application"
  | .server => "server"
  | .privateTask => "private_task"
  | .unknown => "unknown"

def resourceTypeFromSlug (slug : String) : Except String Core.ResourceType :=
  match slug with
  | "task" => .ok .task
  | "incident" => .ok .incident
  | "change" => .ok .change
  | "change_task" => .ok .changeTask
  | "request" => .ok .request
  | "request_task" => .ok .requestTask
  | "project" => .ok .project
  | "demand" => .ok .demand
  | "demand_task" => .ok .demandTask
  | "resource_plan" => .ok .resourcePlan
  | "story" => .ok .story
  | "scrum_task" => .ok .scrumTask
  | "timecard" => .ok .timecard
  | "knowledge" => .ok .knowledge
  | "approval" => .ok .approval
  | "business_application" | "business_app" | "cmdb_ci_business_app" => .ok .businessApplication
  | "server" | "cmdb_ci_server" | "cmdb_ci_linux_server" | "cmdb_ci_win_server" => .ok .server
  | "private_task" | "vtb_task" => .ok .privateTask
  | "unknown" => .ok .unknown
  | other => .error ("unknown resource_type slug: " ++ other)

@[simp] theorem resourceTypeFromSlug_slug (resourceType : Core.ResourceType) :
    resourceTypeFromSlug (resourceTypeSlug resourceType) = .ok resourceType := by
  cases resourceType <;> rfl

def cacheSourceSlug : CacheSource → String
  | .memory => "memory"
  | .disk => "disk"
  | .api => "api"

def cacheSourceFromSlug (source : String) : Except String CacheSource :=
  match source with
  | "memory" => .ok .memory
  | "disk" => .ok .disk
  | "api" => .ok .api
  | other => .error ("unknown cache source slug: " ++ other)

@[simp] theorem cacheSourceFromSlug_slug (source : CacheSource) :
    cacheSourceFromSlug (cacheSourceSlug source) = .ok source := by
  cases source <;> rfl

/-! ## Writing the front matter -/

/-- `yaml_scalar_indented`. -/
def yamlScalarIndented (value : String) (indent : Nat) : List Char :=
  if '\n' ∈ value.toList then
    let rendered := "|\n".toList ++
      (lines value.toList).flatMap fun line => spaces indent ++ line ++ ['\n']
    if value.toList.getLast? = some '\n' then rendered else rendered.rdropWhile (· == '\n')
  else printString value

/-- `yaml_scalar`. -/
def yamlScalar (value : String) : List Char := yamlScalarIndented value 2

/-- `writeln!` of an indented key and a value. -/
def writeEntry (indent : Nat) (key : String) (value : List Char) : List Char :=
  spaces indent ++ key.toList ++ ": ".toList ++ value ++ ['\n']

/-- `writeln!` of an indented key, and a colon. -/
def writeKey (indent : Nat) (key : String) : List Char :=
  spaces indent ++ key.toList ++ ":".toList ++ ['\n']

def pushScalar (key value : String) : List Char := writeEntry 0 key (yamlScalar value)

def pushBoolean (key : String) (value : Bool) : List Char :=
  writeEntry 0 key (if value then "true" else "false").toList

def pushMultiline (key value : String) : List Char :=
  writeEntry 0 key "|".toList ++
    (if trimChars value.toList = [] then "  \n".toList
    else (lines value.toList).flatMap fun line => "  ".toList ++ line ++ ['\n'])

/-- The entries of a reference, at an indentation. -/
def writeReference (indent : Nat) (reference : Reference) : List Char :=
  writeEntry indent "sys_id" (yamlScalar reference.sysId) ++
    writeEntry indent "table" (yamlScalar reference.table) ++
    writeEntry indent "display_name" (yamlScalar reference.displayName) ++
    (if reference.extra.entries = [] then []
    else writeKey indent "extra" ++ reference.extra.entries.flatMap fun e =>
      writeEntry (indent + 2) e.1 (yamlScalar e.2))

def pushReference (key : String) (reference : Reference) : List Char :=
  writeKey 0 key ++ writeReference 2 reference

def pushReferences (key : String) (references : FieldMap Reference) : List Char :=
  writeKey 0 key ++ references.entries.flatMap fun e =>
    writeKey 2 e.1 ++ writeReference 4 e.2

def pushFieldValues (key : String) (fields : FieldMap FieldValue) : List Char :=
  writeKey 0 key ++ fields.entries.flatMap fun e =>
    writeKey 2 e.1 ++ writeEntry 4 "value" (yamlScalarIndented e.2.value 6) ++
      ((e.2.displayValue.map fun displayValue =>
        writeEntry 4 "display_value" (yamlScalarIndented displayValue 6)).getD [])

def pushStringList (key : String) (values : List String) : List Char :=
  writeKey 0 key ++ values.flatMap fun value => "  - ".toList ++ yamlScalar value ++ ['\n']

/-- What is shown of a value: its display value if there is one. -/
def shownValue (value : FieldValue) : String := value.displayValue.getD value.value

/-! ## Writing the body -/

/-- `str::trim_end`. -/
def trimEndChars (cs : List Char) : List Char := cs.rdropWhile isWhitespace

/-- `push_section`. -/
def pushSection (title body : String) : List Char :=
  "## ".toList ++ title.toList ++ "\n\n".toList ++
    (if trimChars body.toList = [] then "_(empty)_\n\n".toList
    else trimEndChars body.toList ++ "\n\n".toList)

/-! ## Reading the front matter -/

/-- A string, for which a flag is one too. -/
def readString : Yaml → Option String
  | .string s => some s
  | .flag true => some "true"
  | .flag false => some "false"
  | _ => none

def readFlag : Yaml → Option Bool
  | .flag b => some b
  | _ => none

/-- Nothing is read where nothing is said. -/
def readOption {α : Type} (read : Yaml → Option α) : Yaml → Option (Option α)
  | .null => some none
  | y => (read y).map some

/-- A mapping; nothing said is one without entries. -/
def readMap {α : Type} (read : Yaml → Option α) : Yaml → Option (FieldMap α)
  | .null => some FieldMap.empty
  | .mapping entries =>
    (entries.mapM fun e => (read e.2).map fun value => (e.1, value)).map FieldMap.ofEntries
  | _ => none

/-- A sequence; nothing said is one without items. -/
def readList {α : Type} (read : Yaml → Option α) : Yaml → Option (List α)
  | .null => some []
  | .sequence items => items.mapM read
  | _ => none

/-- A field that must be there. -/
def readField {α : Type} (read : Yaml → Option α) (key : String)
    (entries : List (String × Yaml)) : Option α := (entries.lookup key).bind read

/-- A field with a default. -/
def readFieldOr {α : Type} (default : α) (read : Yaml → Option α) (key : String)
    (entries : List (String × Yaml)) : Option α := ((entries.lookup key).map read).getD (some default)

def readMapping {α : Type} (read : List (String × Yaml) → Option α) : Yaml → Option α
  | .mapping entries => read entries
  | _ => none

def readReference : Yaml → Option Reference := readMapping fun entries => do
  let sysId ← readField readString "sys_id" entries
  let table ← readField readString "table" entries
  let displayName ← readField readString "display_name" entries
  let extra ← readFieldOr FieldMap.empty (readMap readString) "extra" entries
  return ⟨sysId, table, displayName, extra⟩

def readFieldValue : Yaml → Option FieldValue := readMapping fun entries => do
  let value ← readField readString "value" entries
  let displayValue ← readFieldOr none (readOption readString) "display_value" entries
  return ⟨value, displayValue⟩

/-! ## The parts of a document -/

/-- `split_frontmatter`. -/
def splitFrontmatter (markdown : List Char) : Except String (List Char × List Char) :=
  if "---\n".toList.isPrefixOf markdown then
    match splitAtText "\n---\n".toList (markdown.drop 4) with
    | some parts => .ok parts
    | none => .error "markdown missing closing frontmatter delimiter"
  else .error "markdown missing opening frontmatter delimiter"

/-- `ParsedBody` while it is read: the sections so far, the last one first, and the one that
is being read. -/
structure ParsedBody where
  title : Option (List Char)
  sections : List (List Char × List Char)
  current : Option (List Char)
  body : List Char

/-- `strip_prefix`. -/
def afterPrefix (start line : List Char) : Option (List Char) :=
  if start.isPrefixOf line then some (line.drop start.length) else none

/-- A heading ends the section before it; any other line belongs to its section. -/
def sectionStep (st : ParsedBody) (line : List Char) : ParsedBody :=
  match afterPrefix "## ".toList line with
  | some name =>
    match st.current with
    | some previous =>
      { st with
        current := some (trimChars name)
        sections := (previous, trimChars st.body) :: st.sections
        body := [] }
    | none => { st with current := some (trimChars name) }
  | none =>
    if st.current.isSome then { st with body := st.body ++ line ++ ['\n'] } else st

/-- One line of a body. -/
def bodyStep (st : ParsedBody) (line : List Char) : ParsedBody :=
  if st.title.isNone then
    if trimChars line = [] then st
    else
      match afterPrefix "# ".toList line with
      | some title => { st with title := some (trimChars title) }
      | none => sectionStep st line
  else sectionStep st line

/-- The section that is being read ends. -/
def ParsedBody.finish (st : ParsedBody) : ParsedBody :=
  match st.current with
  | some previous => { st with sections := (previous, trimChars st.body) :: st.sections }
  | none => st

/-- `parse_body`. -/
def parseBody (body : List Char) : ParsedBody :=
  ((lines body).foldl bodyStep ⟨none, [], none, []⟩).finish

/-- `title_short_description`. -/
def titleShortDescription (body : ParsedBody) : Option String :=
  body.title.bind fun title =>
    (splitAtText ": ".toList title).map fun parts => String.ofList (trimChars parts.2)

/-- `section_or_default`. -/
def sectionOrDefault (body : ParsedBody) (name default : String) : String :=
  (((body.sections.lookup name.toList).map String.ofList).filter fun value =>
    value ≠ "" ∧ value ≠ "_(empty)_" ∧ value ≠ "_(none)_").getD default

/-! ## Mending a front matter -/

/-- The length of a text in bytes. -/
def byteLength (cs : List Char) : Nat := (String.ofList cs).utf8ByteSize

/-- `looks_like_yaml_key`. -/
def looksLikeYamlKey (line : List Char) : Bool :=
  if line = "---".toList ∨ line = "...".toList then true
  else
    let candidate := (afterPrefix "- ".toList line).getD line
    match splitAtText ":".toList candidate with
    | none => false
    | some (key, rest) =>
      if key = [] ∨ containsChars "://".toList key = true then false
      else if rest = [] ∨ rest.head? = some ' ' ∨
          String.ofList rest ∈ ["|", "|-", "|+", ">", ">-", ">+"] then
        key.all fun c => c.isAlphanum || ['_', '-', '"', '\''].contains c
      else false

/-- A front matter while it is mended: the indentation of the literal block that is open, and
of its lines. -/
structure Repair where
  repaired : List Char
  blockIndent : Option Nat
  blockContentIndent : Nat

/-- One line. -/
def repairStep (st : Repair) (line : List Char) : Repair :=
  let trimmed := line.dropWhile isWhitespace
  let leadingSpaces := byteLength line - byteLength trimmed
  let blockIndent := st.blockIndent.filter fun indent =>
    !(trimmed ≠ [] && leadingSpaces ≤ indent && looksLikeYamlKey trimmed)
  if blockIndent.isSome && trimmed.isEmpty then
    { st with
      repaired := st.repaired ++ spaces st.blockContentIndent ++ ['\n']
      blockIndent := blockIndent }
  else if blockIndent.isSome && decide (leadingSpaces < st.blockContentIndent) then
    { st with
      repaired := st.repaired ++ spaces st.blockContentIndent ++ trimmed ++ ['\n']
      blockIndent := blockIndent }
  else
    let opens := [": |", ": |-", ": |+"].any fun mark =>
      mark.toList.reverse.isPrefixOf trimmed.reverse
    { repaired := st.repaired ++ line ++ ['\n']
      blockIndent := if opens then some leadingSpaces else blockIndent
      blockContentIndent := if opens then leadingSpaces + 2 else st.blockContentIndent }

/-- `repair_legacy_yaml_block_scalars`. -/
def repairLegacyYamlBlockScalars (frontmatter : List Char) : List Char :=
  ((lines frontmatter).foldl repairStep ⟨[], none, 0⟩).repaired

end SnowAgent.Markdown
