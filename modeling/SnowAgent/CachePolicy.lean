import SnowAgent.ArticleBodies

/-! # The cache policy

A TOML file says, for objects and operations, whether a read may be answered from the cache and
for how long.  Its rules replace built-in ones; operations not named in it follow the rule of
their object.  A duration is an integer and a unit, and a cached rule needs one between a
minute and a year.

The duration type of the source holds fewer seconds than a 64-bit integer, and its constructors
panic beyond that; a panic is an outcome of its own here.  The TOML reader stays a parameter.
-/
namespace SnowAgent.CachePolicy

open Text Knowledge

/-! ## Durations -/

/-- `CachePolicyError`. -/
inductive CachePolicyError where
  | invalid (field rule : Option String) (reason : String)
  | file (kind : String)
deriving DecidableEq

/-- How a load stops before its end. -/
inductive Stop where
  | panicked
  | error (error : CachePolicyError)
deriving DecidableEq

abbrev Load (A : Type) := Except Stop A

/-- The seconds of the longest duration: a duration counts its milliseconds in an `i64`. -/
def maxDurationSeconds : Int := 9223372036854775

/-- Whether a duration can have so many seconds. -/
def Fits (seconds : Int) : Prop := -maxDurationSeconds ≤ seconds ∧ seconds ≤ maxDurationSeconds

instance (seconds : Int) : Decidable (Fits seconds) := inferInstanceAs (Decidable (_ ∧ _))

/-- `Duration::seconds`, `minutes`, `hours` and `days`, of all their seconds. -/
def duration (seconds : Int) : Load Int :=
  if Fits seconds then .ok (durationSeconds seconds) else .error .panicked

/-- The seconds of a unit. -/
def unitSeconds (unit : String) : Option Int :=
  if unit ∈ ["s", "sec", "secs", "second", "seconds"] then some 1
  else if unit ∈ ["m", "min", "mins", "minute", "minutes"] then some 60
  else if unit ∈ ["h", "hr", "hrs", "hour", "hours"] then some 3600
  else if unit ∈ ["d", "day", "days"] then some 86400
  else none

/-- The amount and the seconds of the unit, as `parse_cache_ttl` reads them. -/
def readTtl (input : String) : Option (Int × Int) := do
  let input := trim input
  let digits := input.toList.takeWhile Char.isDigit
  if digits = [] then none
  let amount ← parseI64 (String.ofList digits)
  if amount ≤ 0 then none
  let unit := toAsciiLowercase (trim (String.ofList (input.toList.drop digits.length)))
  let seconds ← unitSeconds (String.ofList (unit.toList.filter (· ≠ ' ')))
  return (amount, seconds)

/-- `parse_cache_ttl`. -/
def parseCacheTtl (input : String) : Load (Option Int) :=
  match readTtl input with
  | none => .ok none
  | some (amount, seconds) => some <$> duration (amount * seconds)

/-! ## Rules -/

/-- `RawRule`. -/
structure RawRule where
  mode : CacheMode
  ttl : Option String

/-- `RawOperationRule`. -/
structure RawOperationRule where
  object : String
  rule : RawRule

/-- `PolicyDocument`, its maps in the order of their keys. -/
structure PolicyDocument where
  version : Nat
  objects : StringMap RawRule
  operations : StringMap RawOperationRule
  /-- The `knowledge_base_sys_id` of `rebuild.knowledge`. -/
  rebuildKnowledge : Option String

def invalidField (field reason : String) : Stop := .error (.invalid (some field) none reason)

def invalidRule (rule reason : String) : Stop := .error (.invalid none (some rule) reason)

def minTtlSeconds : Int := 60

def maxTtlSeconds : Int := 365 * 24 * 60 * 60

/-- `CacheRule::live`. -/
def liveRule : CacheRule := ⟨.live, none⟩

def ttlReason : String := "ttl must be an integer s/m/h/d duration from 1m through 365d"

/-- `materialize_rule`. -/
def materializeRule (name : String) (raw : RawRule) : Load CacheRule :=
  if raw.mode = .live then
    if raw.ttl.isSome then .error (invalidRule name "live mode forbids ttl")
    else .ok liveRule
  else
    match raw.ttl with
    | none => .error (invalidRule name "cached mode requires ttl")
    | some ttl => do
      match ← parseCacheTtl ttl with
      | none => .error (invalidRule name ttlReason)
      | some duration =>
        if minTtlSeconds ≤ duration.tdiv 1000000000 ∧
            duration.tdiv 1000000000 ≤ maxTtlSeconds then
          .ok ⟨raw.mode, some duration⟩
        else .error (invalidRule name ttlReason)

/-! ## Registered names -/

def registeredObjects : List String :=
  ["approval", "business_application", "change_request", "change_task", "knowledge",
    "resource_plan", "server", "service_catalog_product", "story", "story_task", "timecard", "user"]

def registeredOperations : StringMap String :=
  [("business_application_get", "business_application"),
    ("business_application_search", "business_application"),
    ("business_application_query", "business_application"),
    ("get_article", "knowledge"),
    ("search_knowledge", "knowledge"),
    ("list_knowledge_articles", "knowledge"),
    ("server_get", "server"),
    ("server_search", "server"),
    ("server_query", "server"),
    ("catalog_items_search", "service_catalog_product"),
    ("catalog_item_get", "service_catalog_product")]

/-- `builtin_objects`. -/
def builtinObjects : Load (StringMap CacheRule) :=
  [("business_application", "30d"), ("knowledge", "7d"), ("service_catalog_product", "30d")].mapM
    fun entry => do return (entry.1, ⟨.readThrough, ← parseCacheTtl entry.2⟩)

/-! ## The policy -/

/-- `OperationRule`. -/
structure OperationRule where
  object : String
  rule : CacheRule

/-- `CachePolicySource`. -/
inductive CachePolicySource where
  | builtInDefaults
  | builtInPlusFile
deriving DecidableEq

/-- `EffectiveCachePolicy`. -/
structure EffectiveCachePolicy where
  source : CachePolicySource
  objects : StringMap CacheRule
  operations : StringMap OperationRule
  knowledgeRebuildBaseSysId : Option String
  fingerprint : String

/-- `BTreeMap::insert`. -/
def insertKey {A : Type} (key : String) (value : A) : StringMap A → StringMap A
  | [] => [(key, value)]
  | (k, v) :: rest =>
    if key < k then (key, value) :: (k, v) :: rest
    else if key = k then (key, value) :: rest
    else (k, v) :: insertKey key value rest

def modeName : CacheMode → String
  | .live => "live"
  | .readThrough => "read_through"
  | .cacheOnly => "cache_only"

def ttlSeconds (rule : CacheRule) : Int := (rule.ttl.map (·.tdiv 1000000000)).getD 0

/-- `canonical_rules`. -/
def canonicalRules (objects : StringMap CacheRule) (operations : StringMap OperationRule)
    (knowledgeRebuildBaseSysId : Option String) : String :=
  String.join (objects.map fun (name, rule) =>
    "object\t" ++ name ++ "\t" ++ modeName rule.mode ++ "\t" ++ toString (ttlSeconds rule) ++ "\n") ++
  String.join (operations.map fun (name, operation) =>
    "operation\t" ++ name ++ "\t" ++ operation.object ++ "\t" ++ modeName operation.rule.mode ++
      "\t" ++ toString (ttlSeconds operation.rule) ++ "\n") ++
  match knowledgeRebuildBaseSysId with
  | some sysId => "rebuild\tknowledge\tknowledge_base_sys_id\t" ++ sysId ++ "\n"
  | none => ""

/-- `normalize_sys_id`. -/
def normalizeSysId (field value : String) : Load String :=
  let hex := value.toList.all fun c => c.isDigit || ('a' ≤ c && c ≤ 'f') || ('A' ≤ c && c ≤ 'F')
  if value.toList.length ≠ 32 ∨ ¬ hex = true then
    .error (invalidField field "must be exactly 32 hexadecimal characters")
  else .ok (toAsciiLowercase value)

/-- The digest, and how TOML is read. -/
structure PolicyLib where
  sha256 : Sha256
  fromToml : String → Except String PolicyDocument

/-- `read_to_string`, of the policy file. -/
inductive PolicyFile where
  | text (input : String)
  | notFound
  | unreadable (kind : String)

section Load

variable (lib : PolicyLib)

/-- `materialize`. -/
def materialize (source : CachePolicySource) (objects : StringMap CacheRule)
    (operations : StringMap OperationRule) (knowledgeRebuildBaseSysId : Option String) :
    EffectiveCachePolicy where
  source := source
  objects := objects
  operations := operations
  knowledgeRebuildBaseSysId := knowledgeRebuildBaseSysId
  fingerprint := hexEncode (lib.sha256
    (canonicalRules objects operations knowledgeRebuildBaseSysId).toUTF8)

/-- `built_in`. -/
def builtIn : Load EffectiveCachePolicy := do
  return materialize lib .builtInDefaults (← builtinObjects) [] none

/-- The rule of an object in the file. -/
def objectRule (object : String) (raw : RawRule) : Load CacheRule :=
  if contains object "*" ∨ object ∉ registeredObjects then
    .error (invalidRule object "unknown object or wildcard")
  else materializeRule ("objects." ++ object) raw

/-- The rule of an operation in the file. -/
def operationRule (operation : String) (raw : RawOperationRule) : Load CacheRule :=
  if contains operation "*" then .error (invalidRule operation "wildcards are forbidden")
  else
    match registeredOperations.get operation with
    | none => .error (invalidRule operation "unknown operation")
    | some expectedObject =>
      if raw.object ≠ expectedObject then
        .error (invalidRule operation "operation/object mismatch")
      else materializeRule ("operations." ++ operation) raw.rule

/-- The loops over the rules of the file: each is materialized and replaces that of its key. -/
def insertAll {R V : Type} (rule : String → R → Load V) :
    StringMap R → StringMap V → Load (StringMap V)
  | [], out => .ok out
  | (key, raw) :: rest, out => do insertAll rule rest (insertKey key (← rule key raw) out)

/-- The rule of an operation, with its object. -/
def operationEntry (operation : String) (raw : RawOperationRule) : Load OperationRule := do
  return ⟨raw.object, ← operationRule operation raw⟩

/-- The knowledge base that a rebuild is limited to. -/
def rebuildScope : Option String → Load (Option String)
  | none => .ok none
  | some sysId => some <$> normalizeSysId "rebuild.knowledge.knowledge_base_sys_id" sysId

/-- The policy of a document. -/
def loadDocument (document : PolicyDocument) : Load EffectiveCachePolicy :=
  if document.version ≠ 1 then
    .error (invalidField "version" "only cache-policy version 1 is supported")
  else do
    let objects ← insertAll objectRule document.objects (← builtinObjects)
    let operations ← insertAll operationEntry document.operations []
    let base ← rebuildScope document.rebuildKnowledge
    return materialize lib .builtInPlusFile objects operations base

/-- `load`. -/
def load : PolicyFile → Load EffectiveCachePolicy
  | .notFound => builtIn lib
  | .unreadable kind => .error (.error (.file kind))
  | .text input =>
    match lib.fromToml input with
    | .error reason => .error (.error (.invalid none none reason))
    | .ok document => loadDocument lib document

/-- `rule_for`. -/
def EffectiveCachePolicy.ruleFor (policy : EffectiveCachePolicy) (operation object : String) :
    CacheRule :=
  match (policy.operations.get operation).filter (·.object = object) with
  | some entry => entry.rule
  | none => (policy.objects.get object).getD liveRule

end Load

/-! ## What is promised -/

/-- **A right answer for a text**: the amount times the unit when that fits, and none otherwise. -/
def TtlRight (input : String) : Prop :=
  parseCacheTtl input = .ok ((readTtl input).bind fun read =>
    if Fits (read.1 * read.2) then some (durationSeconds (read.1 * read.2)) else none)

/-- A live rule has no TTL, and a cached one a TTL from a minute to a year. -/
def RuleBounded (rule : CacheRule) : Prop :=
  (rule.mode = .live → rule.ttl = none) ∧
    (rule.mode ≠ .live → ∃ ttl, rule.ttl = some ttl ∧
      durationSeconds minTtlSeconds ≤ ttl ∧ ttl ≤ durationSeconds maxTtlSeconds)

/-- Every rule of a policy is bounded. -/
def EffectiveCachePolicy.Bounded (policy : EffectiveCachePolicy) : Prop :=
  (∀ entry ∈ policy.objects, RuleBounded entry.2) ∧
    ∀ entry ∈ policy.operations, RuleBounded entry.2.rule

/-- **A total load**: it ends with an error or a bounded policy. -/
def LoadsBounded (lib : PolicyLib) (file : PolicyFile) : Prop :=
  load lib file ≠ .error .panicked ∧ ∀ policy, load lib file = .ok policy → policy.Bounded

/-! ## When it is kept -/

/-- A positive amount of a unit that no duration holds. -/
def Overflows (input : String) : Prop :=
  ∃ amount seconds, readTtl input = some (amount, seconds) ∧ ¬ Fits (amount * seconds)

/-- A cached rule with such a TTL. -/
def RuleOverflows (raw : RawRule) : Prop :=
  raw.mode ≠ .live ∧ ∃ ttl, raw.ttl = some ttl ∧ Overflows ttl

/-- An entry of the file. -/
inductive Entry where
  | object (name : String) (raw : RawRule)
  | operation (name : String) (raw : RawOperationRule)

/-- The entries of a document, in the order of the load. -/
def entries (document : PolicyDocument) : List Entry :=
  document.objects.map (fun entry => .object entry.1 entry.2) ++
    document.operations.map fun entry => .operation entry.1 entry.2

/-- An entry that is valid on its own. -/
def Entry.Accepted : Entry → Prop
  | object name raw => ∃ rule, objectRule name raw = .ok rule
  | operation name raw => ∃ rule, operationRule name raw = .ok rule

/-- An entry under a registered name whose TTL no duration holds. -/
def Entry.Overflows : Entry → Prop
  | object name raw =>
    contains name "*" = false ∧ name ∈ registeredObjects ∧ RuleOverflows raw
  | operation name raw =>
    contains name "*" = false ∧ registeredOperations.get name = some raw.object ∧
      RuleOverflows raw.rule

/-- A walk over a list that goes on past what is accepted comes to something bad. -/
def Reaches {A : Type} (accepted bad : A → Prop) (list : List A) : Prop :=
  ∃ before entry after, list = before ++ entry :: after ∧
    (∀ earlier ∈ before, accepted earlier) ∧ bad entry

/-- The first entry of a file that is not accepted has a TTL that no duration holds. -/
def ReachesOverflow (lib : PolicyLib) (file : PolicyFile) : Prop :=
  ∃ input document, file = .text input ∧ lib.fromToml input = .ok document ∧
    document.version = 1 ∧ Reaches Entry.Accepted Entry.Overflows (entries document)

/-! ## TTLs -/

variable (input : String)

/-- What reading a TTL comes to. -/
theorem parseCacheTtl_cases :
    (readTtl input = none ∧ parseCacheTtl input = .ok none) ∨
    ∃ amount seconds, readTtl input = some (amount, seconds) ∧ ((Fits (amount * seconds) ∧
          parseCacheTtl input = .ok (some (durationSeconds (amount * seconds)))) ∨
        (¬ Fits (amount * seconds) ∧ parseCacheTtl input = .error .panicked)) := by
  unfold parseCacheTtl
  rcases readTtl input with _ | ⟨amount, seconds⟩
  · exact .inl ⟨rfl, rfl⟩
  · refine .inr ⟨amount, seconds, rfl, ?_⟩
    by_cases h : Fits (amount * seconds)
    · refine .inl ⟨h, ?_⟩
      simp only [duration, if_pos h]
      rfl
    · refine .inr ⟨h, ?_⟩
      simp only [duration, if_neg h]
      rfl

theorem parseCacheTtl_eq_panicked {input : String} :
    parseCacheTtl input = .error .panicked ↔ Overflows input := by
  constructor
  · intro hpanic
    obtain ⟨-, h⟩ | ⟨amount, seconds, hread, ⟨-, h⟩ | ⟨hfits, -⟩⟩ := parseCacheTtl_cases input
    · rw [hpanic] at h
      cases h
    · rw [hpanic] at h
      cases h
    · exact ⟨amount, seconds, hread, hfits⟩
  · rintro ⟨amount, seconds, hread, hfits⟩
    obtain ⟨h, -⟩ | ⟨amount', seconds', h, ⟨hfits', -⟩ | ⟨-, hpanic⟩⟩ := parseCacheTtl_cases input
    · rw [hread] at h
      cases h
    · rw [hread] at h
      cases h
      exact absurd hfits' hfits
    · exact hpanic

theorem parseCacheTtl_eq_some {input : String} {ttl : Int}
    (hsome : parseCacheTtl input = .ok (some ttl)) : ∃ seconds, ttl = durationSeconds seconds := by
  obtain ⟨-, h⟩ | ⟨amount, seconds, -, ⟨-, h⟩ | ⟨-, h⟩⟩ := parseCacheTtl_cases input
  · rw [hsome] at h
    cases h
  · rw [hsome] at h
    cases h
    exact ⟨amount * seconds, rfl⟩
  · rw [hsome] at h
    cases h

/-- **A TTL is read rightly exactly when it does not overflow.** -/
theorem ttlRight_iff : TtlRight input ↔ ¬ Overflows input := by
  rw [← parseCacheTtl_eq_panicked, TtlRight]
  obtain ⟨hread, h⟩ | ⟨amount, seconds, hread, ⟨hfits, h⟩ | ⟨hfits, h⟩⟩ := parseCacheTtl_cases input
  · simp [hread, h]
  · simp [hread, h, hfits]
  · simp [h]

/-! ## Rules -/

variable {name : String}

/-- A rule that is materialized is bounded. -/
theorem materializeRule_bounded {raw : RawRule} {rule : CacheRule}
    (h : materializeRule name raw = .ok rule) : RuleBounded rule := by
  unfold materializeRule at h
  by_cases hmode : raw.mode = .live
  · rw [if_pos hmode] at h
    split at h
    · cases h
    · cases h
      exact ⟨fun _ => rfl, fun hne => absurd rfl hne⟩
  · rw [if_neg hmode] at h
    split at h
    · cases h
    · obtain ⟨read, hread, h⟩ := bind_eq_ok h
      rcases read with _ | ttl
      · cases h
      · simp only at h
        split at h
        · rename_i hrange
          cases h
          obtain ⟨seconds, rfl⟩ := parseCacheTtl_eq_some hread
          rw [durationSeconds, Int.mul_tdiv_cancel _ (by decide)] at hrange
          refine ⟨fun hlive => absurd hlive hmode, fun _ => ⟨_, rfl, ?_, ?_⟩⟩
          · exact Int.mul_le_mul_of_nonneg_right hrange.1 (by decide)
          · exact Int.mul_le_mul_of_nonneg_right hrange.2 (by decide)
        · cases h

theorem materializeRule_eq_panicked {raw : RawRule} :
    materializeRule name raw = .error .panicked ↔ RuleOverflows raw := by
  unfold materializeRule RuleOverflows
  by_cases hmode : raw.mode = .live
  · rw [if_pos hmode]
    refine ⟨fun h => ?_, fun h => absurd hmode h.1⟩
    split at h
    · simp [invalidRule] at h
    · cases h
  · rw [if_neg hmode]
    rcases raw.ttl with _ | ttl
    · simp [invalidRule]
    · rw [show (∃ text, some ttl = some text ∧ Overflows text) ↔ Overflows ttl by simp,
        ← parseCacheTtl_eq_panicked]
      rcases hread : parseCacheTtl ttl with stop | read
      · simp [hread, hmode, bind, Except.bind]
      · refine ⟨fun h => ?_, fun h => (by cases h.2)⟩
        simp only [hread, bind, Except.bind] at h
        rcases read with _ | read
        · simp [invalidRule] at h
        · simp only at h
          split at h
          · cases h
          · simp [invalidRule] at h

/-! ## Entries -/

variable {raw : RawOperationRule}

theorem objectRule_eq_panicked {raw : RawRule} :
    objectRule name raw = .error .panicked ↔ (Entry.object name raw).Overflows := by
  unfold objectRule
  by_cases hname : contains name "*" = true ∨ name ∉ registeredObjects
  · rw [if_pos hname]
    refine ⟨fun h => by simp [invalidRule] at h, fun h => ?_⟩
    rcases hname with hstar | hunknown
    · rw [h.1] at hstar
      cases hstar
    · exact absurd h.2.1 hunknown
  · rw [if_neg hname, materializeRule_eq_panicked]
    rw [not_or, Bool.not_eq_true, not_not] at hname
    exact ⟨fun h => ⟨hname.1, hname.2, h⟩, fun h => h.2.2⟩

theorem operationRule_eq_panicked :
    operationRule name raw = .error .panicked ↔ (Entry.operation name raw).Overflows := by
  unfold operationRule
  by_cases hname : contains name "*" = true
  · rw [if_pos hname]
    refine ⟨fun h => by simp [invalidRule] at h, fun h => ?_⟩
    rw [h.1] at hname
    cases hname
  · rw [if_neg hname]
    rw [Bool.not_eq_true] at hname
    show _ ↔ contains name "*" = false ∧ registeredOperations.get name = some raw.object ∧ _
    rcases registeredOperations.get name with _ | expected
    · simp [invalidRule]
    · by_cases hobject : raw.object = expected
      · simp [hobject, hname, materializeRule_eq_panicked]
      · simp only [hobject, ne_eq, not_false_eq_true, if_true]
        refine ⟨fun h => by simp [invalidRule] at h, fun h => ?_⟩
        exact absurd (Option.some.inj h.2.1).symm hobject

theorem objectRule_bounded {raw : RawRule} {rule : CacheRule}
    (h : objectRule name raw = .ok rule) : RuleBounded rule := by
  unfold objectRule at h
  split at h
  · cases h
  · exact materializeRule_bounded h

theorem operationRule_bounded {rule : CacheRule}
    (h : operationRule name raw = .ok rule) : RuleBounded rule := by
  unfold operationRule at h
  split at h
  · cases h
  · split at h
    · cases h
    · split at h
      · cases h
      · exact materializeRule_bounded h

/-! ## Loads -/

section Reaches

variable {A : Type} {accepted bad : A → Prop}

theorem reaches_nil : ¬ Reaches accepted bad [] := by
  rintro ⟨before, entry, after, h, -⟩
  simp at h

theorem reaches_cons {head : A} {rest : List A} :
    Reaches accepted bad (head :: rest) ↔
      bad head ∨ (accepted head ∧ Reaches accepted bad rest) := by
  constructor
  · rintro ⟨before, entry, after, hsplit, hbefore, hentry⟩
    cases before with
    | nil =>
      cases hsplit
      exact .inl hentry
    | cons first before =>
      cases hsplit
      rw [List.forall_mem_cons] at hbefore
      exact .inr ⟨hbefore.1, before, entry, after, rfl, hbefore.2, hentry⟩
  · rintro (hbad | ⟨haccepted, before, entry, after, rfl, hbefore, hentry⟩)
    · exact ⟨[], head, rest, rfl, fun _ hnil => (by cases hnil), hbad⟩
    · refine ⟨head :: before, entry, after, rfl, ?_, hentry⟩
      exact List.forall_mem_cons.mpr ⟨haccepted, hbefore⟩

theorem reaches_append (first second : List A) :
    Reaches accepted bad (first ++ second) ↔ Reaches accepted bad first ∨
        ((∀ entry ∈ first, accepted entry) ∧ Reaches accepted bad second) := by
  induction first with
  | nil => simp [reaches_nil]
  | cons head rest ih =>
    rw [List.cons_append, reaches_cons, reaches_cons, ih, List.forall_mem_cons]
    tauto

theorem reaches_map {B : Type} (f : B → A) (list : List B) :
    Reaches accepted bad (list.map f) ↔
      Reaches (fun entry => accepted (f entry)) (fun entry => bad (f entry)) list := by
  induction list with
  | nil => simp [reaches_nil]
  | cons head rest ih => rw [List.map_cons, reaches_cons, reaches_cons, ih]

end Reaches

theorem mem_insertKey {A : Type} {key : String} {value : A} {m : StringMap A}
    {entry : String × A} (h : entry ∈ insertKey key value m) :
    entry = (key, value) ∨ entry ∈ m := by
  induction m with
  | nil => exact .inl (List.mem_singleton.mp h)
  | cons head rest ih =>
    unfold insertKey at h
    split at h
    · exact (List.mem_cons.mp h).imp_right id
    · split at h
      · exact (List.mem_cons.mp h).imp_right (List.mem_cons_of_mem _)
      · rcases List.mem_cons.mp h with rfl | hrest
        · exact .inr List.mem_cons_self
        · exact (ih hrest).imp_right (List.mem_cons_of_mem _)

section Loop

variable {R V : Type} {rule : String → R → Load V}

/-- What holds of every rule that is materialized holds of every rule of the loop. -/
theorem insertAll_all {P : V → Prop} (hrule : ∀ key raw v, rule key raw = .ok v → P v)
    {raws : StringMap R} {out out' : StringMap V} (hout : ∀ entry ∈ out, P entry.2)
    (h : insertAll rule raws out = .ok out') : ∀ entry ∈ out', P entry.2 := by
  induction raws generalizing out with
  | nil =>
    cases h
    exact hout
  | cons head rest ih =>
    obtain ⟨v, hv, h⟩ := bind_eq_ok h
    refine ih (fun entry hentry => ?_) h
    rcases mem_insertKey hentry with rfl | hold
    · exact hrule _ _ _ hv
    · exact hout entry hold

/-- The loop ends when every entry is materialized. -/
theorem insertAll_ok (rule : String → R → Load V) (raws : StringMap R) (out : StringMap V) :
    (∃ out', insertAll rule raws out = .ok out') ↔
      ∀ entry ∈ raws, ∃ v, rule entry.1 entry.2 = .ok v := by
  induction raws generalizing out with
  | nil => exact ⟨fun _ entry h => (by cases h), fun _ => ⟨out, rfl⟩⟩
  | cons head rest ih =>
    rw [List.forall_mem_cons]
    constructor
    · rintro ⟨out', h⟩
      obtain ⟨v, hv, h⟩ := bind_eq_ok h
      exact ⟨⟨v, hv⟩, (ih _).mp ⟨out', h⟩⟩
    · rintro ⟨⟨v, hv⟩, hrest⟩
      obtain ⟨out', h⟩ := (ih (insertKey head.1 v out)).mpr hrest
      exact ⟨out', by rw [insertAll, hv]; exact h⟩

/-- The loop panics at an entry that does, after entries that are materialized. -/
theorem insertAll_panicked (raws : StringMap R) (out : StringMap V) :
    insertAll rule raws out = .error .panicked ↔
      Reaches (fun entry => ∃ v, rule entry.1 entry.2 = .ok v)
        (fun entry => rule entry.1 entry.2 = .error .panicked) raws := by
  induction raws generalizing out with
  | nil => exact ⟨fun h => (by cases h), fun h => absurd h reaches_nil⟩
  | cons head rest ih =>
    rw [reaches_cons]
    rcases hhead : rule head.1 head.2 with stop | v
    · have hrun : insertAll rule (head :: rest) out = .error stop := by
        rw [insertAll, hhead]
        rfl
      simp [hrun]
    · have hrun : insertAll rule (head :: rest) out =
          insertAll rule rest (insertKey head.1 v out) := by
        rw [insertAll, hhead]
        rfl
      rw [hrun, ih]
      simp

end Loop

theorem operationEntry_eq_ok {v : OperationRule} :
    operationEntry name raw = .ok v ↔
      ∃ rule, operationRule name raw = .ok rule ∧ ⟨raw.object, rule⟩ = v := by
  unfold operationEntry
  rw [bind_eq_ok_iff]
  exact exists_congr fun rule => and_congr_right fun _ => ⟨Except.ok.inj, congrArg Except.ok⟩

theorem operationEntry_panicked :
    operationEntry name raw = .error .panicked ↔ operationRule name raw = .error .panicked := by
  unfold operationEntry
  rcases operationRule name raw with stop | rule
  · exact ⟨fun h => (by cases h; rfl), fun h => (by cases h; rfl)⟩
  · exact ⟨fun h => (by cases h), fun h => (by cases h)⟩

theorem operationEntry_accepted :
    (∃ v, operationEntry name raw = .ok v) ↔ ∃ rule, operationRule name raw = .ok rule := by
  constructor
  · rintro ⟨v, hv⟩
    obtain ⟨rule, hrule, -⟩ := operationEntry_eq_ok.mp hv
    exact ⟨rule, hrule⟩
  · rintro ⟨rule, hrule⟩
    exact ⟨_, operationEntry_eq_ok.mpr ⟨rule, hrule, rfl⟩⟩

theorem ok_bind {A B : Type} (a : A) (f : A → Load B) : (Except.ok a >>= f) = f a := rfl

theorem bind_eq_panicked {A B : Type} {x : Load A} {f : A → Load B} :
    (x >>= f) = .error .panicked ↔
      x = .error .panicked ∨ ∃ a, x = .ok a ∧ f a = .error .panicked := by
  rcases x with stop | a
  · refine ⟨fun h => .inl ?_, ?_⟩
    · cases h
      rfl
    · rintro (h | ⟨a, h, -⟩)
      · cases h
        rfl
      · cases h
  · simp [bind, Except.bind]

/-- The built-in rules are a month, a week and a month. -/
theorem builtinObjects_eq :
    builtinObjects = .ok [("business_application", ⟨.readThrough, some (durationSeconds 2592000)⟩),
      ("knowledge", ⟨.readThrough, some (durationSeconds 604800)⟩),
      ("service_catalog_product", ⟨.readThrough, some (durationSeconds 2592000)⟩)] := by
  have hmonth : parseCacheTtl "30d" = .ok (some (durationSeconds 2592000)) := by decide
  have hweek : parseCacheTtl "7d" = .ok (some (durationSeconds 604800)) := by decide
  simp only [builtinObjects, List.mapM_cons, List.mapM_nil, hmonth, hweek]
  rfl

theorem builtinObjects_bounded {objects : StringMap CacheRule} (h : builtinObjects = .ok objects) :
    ∀ entry ∈ objects, RuleBounded entry.2 := by
  rw [builtinObjects_eq] at h
  cases h
  have hrule : ∀ seconds, minTtlSeconds ≤ seconds → seconds ≤ maxTtlSeconds →
      RuleBounded ⟨.readThrough, some (durationSeconds seconds)⟩ := by
    intro seconds hmin hmax
    refine ⟨fun h => (by cases h), fun _ => ⟨_, rfl, ?_, ?_⟩⟩
    · exact Int.mul_le_mul_of_nonneg_right hmin (by decide)
    · exact Int.mul_le_mul_of_nonneg_right hmax (by decide)
  intro entry hentry
  simp only [List.mem_cons, List.not_mem_nil, or_false] at hentry
  rcases hentry with rfl | rfl | rfl
  · exact hrule _ (by decide) (by decide)
  · exact hrule _ (by decide) (by decide)
  · exact hrule _ (by decide) (by decide)

theorem rebuildScope_ne_panicked (sysId : Option String) :
    rebuildScope sysId ≠ .error .panicked := by
  cases sysId with
  | none => simp [rebuildScope]
  | some sysId =>
    simp only [rebuildScope, normalizeSysId]
    split
    · simp [invalidField, Functor.map, Except.map]
    · simp [Functor.map, Except.map]

section Load

variable {lib : PolicyLib} {policy : EffectiveCachePolicy} {document : PolicyDocument}

/-- A policy that is loaded is bounded. -/
theorem loadDocument_bounded (h : loadDocument lib document = .ok policy) : policy.Bounded := by
  unfold loadDocument at h
  split at h
  · cases h
  · obtain ⟨builtin, hbuiltin, h⟩ := bind_eq_ok h
    obtain ⟨objects, hobjects, h⟩ := bind_eq_ok h
    obtain ⟨operations, hoperations, h⟩ := bind_eq_ok h
    obtain ⟨base, -, h⟩ := bind_eq_ok h
    cases h
    constructor
    · exact insertAll_all (fun _ _ _ => objectRule_bounded) (builtinObjects_bounded hbuiltin) hobjects
    · have hrule : ∀ name raw v, operationEntry name raw = .ok v → RuleBounded v.rule := by
        intro name raw v hv
        obtain ⟨rule, hrule, rfl⟩ := operationEntry_eq_ok.mp hv
        exact operationRule_bounded hrule
      have hnil : ∀ entry ∈ ([] : StringMap OperationRule), RuleBounded entry.2.rule := by
        intro entry hentry
        cases hentry
      exact insertAll_all (P := fun operation : OperationRule => RuleBounded operation.rule)
        hrule hnil hoperations

variable {file : PolicyFile}

theorem load_bounded (h : load lib file = .ok policy) : policy.Bounded := by
  cases file with
  | text input =>
    simp only [load] at h
    split at h
    · cases h
    · exact loadDocument_bounded h
  | notFound =>
    obtain ⟨objects, hobjects, h⟩ := bind_eq_ok h
    cases h
    exact ⟨builtinObjects_bounded hobjects, fun entry hentry => by cases hentry⟩
  | unreadable kind => cases h

/-- A document panics when its rules do, those of its objects first. -/
theorem loadDocument_panicked :
    loadDocument lib document = .error .panicked ↔
      document.version = 1 ∧ Reaches Entry.Accepted Entry.Overflows (entries document) := by
  rw [entries, reaches_append, reaches_map, reaches_map]
  have hobject : ∀ entry : String × RawRule, (Entry.object entry.1 entry.2).Overflows ↔
      objectRule entry.1 entry.2 = .error .panicked := fun entry => objectRule_eq_panicked.symm
  have hoperation : ∀ entry : String × RawOperationRule,
      (Entry.operation entry.1 entry.2).Overflows ↔
        operationEntry entry.1 entry.2 = .error .panicked := fun entry =>
    (operationEntry_panicked.trans operationRule_eq_panicked).symm
  have haccepted : ∀ entry : String × RawOperationRule,
      (Entry.operation entry.1 entry.2).Accepted ↔
        ∃ v, operationEntry entry.1 entry.2 = .ok v := fun entry => operationEntry_accepted.symm
  simp only [hobject, hoperation, haccepted, List.forall_mem_map]
  unfold loadDocument
  by_cases hversion : document.version = 1
  · rw [if_neg (not_not.mpr hversion), builtinObjects_eq, ok_bind]
    generalize [("business_application", _), ("knowledge", _), ("service_catalog_product", _)] =
      builtin
    rw [bind_eq_panicked, insertAll_panicked, and_iff_right hversion]
    refine or_congr Iff.rfl ?_
    constructor
    · rintro ⟨objects, hobjects, h⟩
      refine ⟨(insertAll_ok objectRule _ builtin).mp ⟨objects, hobjects⟩, ?_⟩
      rw [bind_eq_panicked, insertAll_panicked] at h
      rcases h with h | ⟨operations, -, h⟩
      · exact h
      · rw [bind_eq_panicked] at h
        rcases h with h | ⟨base, -, h⟩
        · exact absurd h (rebuildScope_ne_panicked _)
        · cases h
    · rintro ⟨hall, h⟩
      obtain ⟨objects, hobjects⟩ := (insertAll_ok objectRule _ builtin).mpr hall
      refine ⟨objects, hobjects, ?_⟩
      rw [bind_eq_panicked, insertAll_panicked]
      exact .inl h
  · rw [if_pos hversion]
    simp [invalidField, hversion]

theorem load_panicked : load lib file = .error .panicked ↔ ReachesOverflow lib file := by
  cases file with
  | text input =>
    simp only [load]
    split
    · rename_i reason hread
      refine ⟨fun h => by simp at h, ?_⟩
      rintro ⟨_, document, ⟨⟩, hdocument, -⟩
      rw [hread] at hdocument
      cases hdocument
    · rename_i document hread
      rw [loadDocument_panicked]
      constructor
      · rintro ⟨hversion, h⟩
        exact ⟨input, document, rfl, hread, hversion, h⟩
      · rintro ⟨_, document', ⟨⟩, hdocument, hversion, h⟩
        rw [hread] at hdocument
        cases hdocument
        exact ⟨hversion, h⟩
  | notFound =>
    refine ⟨fun h => ?_, ?_⟩
    · simp only [load, builtIn, builtinObjects_eq] at h
      cases h
    · rintro ⟨_, _, ⟨⟩, -⟩
  | unreadable kind =>
    refine ⟨fun h => by simp [load] at h, ?_⟩
    rintro ⟨_, _, ⟨⟩, -⟩

end Load

/-- **A load is total exactly when no rule overflows**, and a TTL is read rightly exactly then. -/
theorem cache_policy_total_when_ttls_fit (input : String) (lib : PolicyLib) (file : PolicyFile) :
    (TtlRight input ↔ ¬ Overflows input) ∧
      (LoadsBounded lib file ↔ ¬ ReachesOverflow lib file) := by
  refine ⟨ttlRight_iff input, ?_⟩
  rw [← load_panicked]
  exact ⟨fun h => h.1, fun h => ⟨h, fun policy => load_bounded⟩⟩

/-- A policy file whose one rule has a TTL of `2 ^ 63 - 1` days. -/
def longTtlFile : String :=
  "version = 1\n\n[objects.knowledge]\nmode = \"read_through\"\nttl = \"9223372036854775807d\"\n"

/-- What that file says. -/
def longTtlDocument : PolicyDocument where
  version := 1
  objects := [("knowledge", ⟨.readThrough, some "9223372036854775807d"⟩)]
  operations := []
  rebuildKnowledge := none

/-- A reader of that file. -/
def longTtlLib : PolicyLib where
  sha256 := fun _ => []
  fromToml := fun input =>
    if input = longTtlFile then .ok longTtlDocument else .error "unexpected file"

/-- The digits fit an `i64`, the days fit no duration. -/
theorem long_ttl_panics :
    ¬ ((∀ input, TtlRight input) ∧ ∀ lib file, LoadsBounded lib file) := by
  intro h
  have httl : parseCacheTtl "9223372036854775807d" = .error .panicked := by decide
  have hrule : (Entry.object "knowledge" ⟨.readThrough, some "9223372036854775807d"⟩).Overflows :=
    ⟨by decide, by decide, by simp, _, rfl, parseCacheTtl_eq_panicked.mp httl⟩
  have hread : longTtlLib.fromToml longTtlFile = .ok longTtlDocument := by simp [longTtlLib]
  refine (h.2 longTtlLib (.text longTtlFile)).1 (load_panicked.mpr ?_)
  exact ⟨_, longTtlDocument, rfl, hread, rfl, [], _, [], rfl, by simp, hrule⟩

end SnowAgent.CachePolicy
