import Mathlib.Data.List.Basic
import SnowAgent.HashChain
import SnowAgent.OperationPlan

/-! # The audit chain

Audit events, the JSON object each of them is written as, and the row hash that
links an event to the one before it.  `computeRowHash` puts the hash of the
chain in place of the event's own `prev_hash` and leaves `row_hash` out, so the
chain commits to everything an event says but for these two fields
(`verifyChainRange_agree_iff`).
-/
namespace SnowAgent

open Json

/-- What the audit modules use of other crates. -/
structure Crates where
  /-- The SHA-256 digest. -/
  sha256 : Sha256
  /-- `to_rfc3339`, which the timestamp column holds and sorts by. -/
  rfc3339 : Rfc3339
  /-- The text `serde` writes for an instant. -/
  serializeTime : DateTime → String

/-! ## Events -/

structure ActorIdentity where
  subject : String
  displayName : String
  sourceClaim : String
deriving DecidableEq

structure ClientIdentity where
  clientId : Option String
  userAgent : Option String
  transport : String
deriving DecidableEq

structure EvidenceRef where
  articleNumber : String
  contentHash : String
deriving DecidableEq

structure PolicyDecisionRow where
  gate : String
  verdict : String
  reason : Option String
  remediation : Option String
deriving DecidableEq

structure AppliedChange where
  field : String
  oldHash : String
  newHash : String
  redactedPreview : Option String
deriving DecidableEq

inductive ResultStatus where
  | plan
  | appliedSuccess
  | appliedPartial
  | denied
  | error
  | replay
deriving DecidableEq

structure ErrorRow where
  code : String
  reason : String
  retryable : Bool
  transient : Bool
deriving DecidableEq

/-- One row of the audit log. -/
structure AuditEvent where
  auditId : String
  parentAuditId : Option String
  timestamp : DateTime
  environment : String
  actor : ActorIdentity
  requester : ActorIdentity
  client : ClientIdentity
  sessionId : Option String
  tool : String
  toolSchemaVersion : String
  rawArgumentsRedacted : Value
  normalizedArgumentsRedacted : Value
  kbEvidence : List EvidenceRef
  policyDecisions : List PolicyDecisionRow
  confirmationTokenId : Option String
  idempotencyKey : Option String
  concurrencyToken : Option String
  plannedChanges : Option Value
  appliedChanges : Option (List AppliedChange)
  resultStatus : ResultStatus
  serviceNowMetadata : Option ServiceNowMetadata
  error : Option ErrorRow
  durationMs : UInt64
  serviceNowApiCalls : UInt32
  schemaVersion : UInt32
  prevHash : String
  rowHash : String
  redactionRulesVersion : String
deriving DecidableEq

/-- `AuditEvent::new_plan`, at the instant `now`. -/
def AuditEvent.newPlan (now : DateTime) (auditId environment : String)
    (actor requester : ActorIdentity) (client : ClientIdentity) (tool : String) : AuditEvent where
  auditId := auditId
  parentAuditId := none
  timestamp := now
  environment := environment
  actor := actor
  requester := requester
  client := client
  sessionId := none
  tool := tool
  toolSchemaVersion := "1.0"
  rawArgumentsRedacted := .null
  normalizedArgumentsRedacted := .null
  kbEvidence := []
  policyDecisions := []
  confirmationTokenId := none
  idempotencyKey := none
  concurrencyToken := none
  plannedChanges := none
  appliedChanges := none
  resultStatus := .plan
  serviceNowMetadata := none
  error := none
  durationMs := 0
  serviceNowApiCalls := 0
  schemaVersion := 1
  prevHash := "GENESIS"
  rowHash := ""
  redactionRulesVersion := "1.0.0"

/-! ## The JSON of an event

Objects are written with their keys in order. -/

def ActorIdentity.toJson (a : ActorIdentity) : Value :=
  .object [("display_name", .string a.displayName), ("source_claim", .string a.sourceClaim),
    ("subject", .string a.subject)]

def ClientIdentity.toJson (c : ClientIdentity) : Value :=
  .object [("client_id", ofOption .string c.clientId), ("transport", .string c.transport),
    ("user_agent", ofOption .string c.userAgent)]

def EvidenceRef.toJson (r : EvidenceRef) : Value :=
  .object [("article_number", .string r.articleNumber), ("content_hash", .string r.contentHash)]

def PolicyDecisionRow.toJson (d : PolicyDecisionRow) : Value :=
  .object [("gate", .string d.gate), ("reason", ofOption .string d.reason),
    ("remediation", ofOption .string d.remediation), ("verdict", .string d.verdict)]

def AppliedChange.toJson (c : AppliedChange) : Value :=
  .object [("field", .string c.field), ("new_hash", .string c.newHash),
    ("old_hash", .string c.oldHash), ("redacted_preview", ofOption .string c.redactedPreview)]

def ResultStatus.text : ResultStatus → String
  | .plan => "plan"
  | .appliedSuccess => "applied_success"
  | .appliedPartial => "applied_partial"
  | .denied => "denied"
  | .error => "error"
  | .replay => "replay"

def ServiceNowMetadata.toJson (m : ServiceNowMetadata) : Value :=
  .object [("number", ofOption .string m.number), ("sys_id", ofOption .string m.sysId),
    ("transaction_id", ofOption .string m.transactionId)]

def ErrorRow.toJson (r : ErrorRow) : Value :=
  .object [("code", .string r.code), ("reason", .string r.reason),
    ("retryable", .bool r.retryable), ("transient", .bool r.transient)]

variable (lib : Crates)

/-- The fields an event is written with. -/
def AuditEvent.fields (e : AuditEvent) : List (String × Value) :=
    [("actor", e.actor.toJson),
     ("applied_changes", ofOption (ofList AppliedChange.toJson) e.appliedChanges),
     ("audit_id", .string e.auditId),
     ("client", e.client.toJson),
     ("concurrency_token", ofOption .string e.concurrencyToken),
     ("confirmation_token_id", ofOption .string e.confirmationTokenId),
     ("duration_ms", ofNat e.durationMs.toNat),
     ("environment", .string e.environment),
     ("error", ofOption ErrorRow.toJson e.error),
     ("idempotency_key", ofOption .string e.idempotencyKey),
     ("kb_evidence", ofList EvidenceRef.toJson e.kbEvidence),
     ("normalized_arguments_redacted", e.normalizedArgumentsRedacted),
     ("parent_audit_id", ofOption .string e.parentAuditId),
     ("planned_changes", ofOption id e.plannedChanges),
     ("policy_decisions", ofList PolicyDecisionRow.toJson e.policyDecisions),
     ("prev_hash", .string e.prevHash),
     ("raw_arguments_redacted", e.rawArgumentsRedacted),
     ("redaction_rules_version", .string e.redactionRulesVersion),
     ("requester", e.requester.toJson),
     ("result_status", .string e.resultStatus.text),
     ("row_hash", .string e.rowHash),
     ("schema_version", ofNat e.schemaVersion.toNat),
     ("service_now_api_calls", ofNat e.serviceNowApiCalls.toNat),
     ("service_now_metadata", ofOption ServiceNowMetadata.toJson e.serviceNowMetadata),
     ("session_id", ofOption .string e.sessionId),
     ("timestamp", .string (lib.serializeTime e.timestamp)),
     ("tool", .string e.tool),
     ("tool_schema_version", .string e.toolSchemaVersion)]

/-- `serde_json::to_value` of an event. -/
def AuditEvent.toJson (e : AuditEvent) : Value := .object (e.fields lib)

/-- An event as it is read back from its JSON: planned changes that were JSON's null
come back as none. -/
def AuditEvent.reread (e : AuditEvent) : AuditEvent :=
  { e with plannedChanges := rereadValue e.plannedChanges }

/-! ## The row hash -/

variable (prev : String)

/-- `compute_row_hash`. -/
def computeRowHash (prevHash : String) (eventJson : Value) : String :=
  let normalized : Value := match eventJson with
    | .object fields => .object (remove "row_hash" (insert "prev_hash" (.string prevHash) fields))
    | other => other
  hexEncode (lib.sha256 normalized.text.toUTF8)

/-- The row hash an event should carry after `prevHash`. -/
def eventHash (prevHash : String) (event : AuditEvent) : String :=
  computeRowHash lib prevHash (event.toJson lib)

/-- The hash a chain starts from. -/
def genesis : String := "GENESIS"

structure AuditChainBreak where
  auditId : String
  reason : String
  expected : String
  observed : String
deriving DecidableEq

/-- The loop of `verify_chain_range`, with the hash of the rows before. -/
def verifyFrom (prev : String) : List AuditEvent → Except AuditChainBreak Unit
  | [] => .ok ()
  | event :: events =>
    let expected := eventHash lib prev event
    if expected ≠ event.rowHash then
      .error ⟨event.auditId, "row_hash mismatch", expected, event.rowHash⟩
    else verifyFrom event.rowHash events

/-- `verify_chain_range`. -/
def verifyChainRange (events : List AuditEvent) : Except AuditChainBreak Unit :=
  verifyFrom lib genesis events

/-- The rows verify exactly when they are linked. -/
theorem verifyFrom_ok_iff (events : List AuditEvent) :
    verifyFrom lib prev events = .ok () ↔
      HashChain.Linked (eventHash lib) AuditEvent.rowHash prev events := by
  induction events generalizing prev with
  | nil => simp [verifyFrom]
  | cons event events ih =>
    rw [HashChain.linked_cons, verifyFrom]
    by_cases h : eventHash lib prev event = event.rowHash
    · simp [h, ih]
    · simp [h, Ne.symm h]

/-! ## What the row hash sees -/

variable (e : AuditEvent)

/-- An event without the two fields the hash leaves out. -/
def AuditEvent.hashed (e : AuditEvent) : AuditEvent :=
  { e.reread with prevHash := "", rowHash := "" }

theorem ActorIdentity.toJson_injective : Function.Injective ActorIdentity.toJson := by
  rintro ⟨⟩ ⟨⟩ h
  simp_all [ActorIdentity.toJson]

theorem string_ofOption_injective : Function.Injective (ofOption Value.string) :=
  ofOption_injective (fun _ _ h => Value.string.inj h) (fun _ h => by cases h)

theorem ClientIdentity.toJson_injective : Function.Injective ClientIdentity.toJson := by
  rintro ⟨⟩ ⟨⟩ h
  simp_all [ClientIdentity.toJson, string_ofOption_injective.eq_iff]

theorem EvidenceRef.toJson_injective : Function.Injective EvidenceRef.toJson := by
  rintro ⟨⟩ ⟨⟩ h
  simp_all [EvidenceRef.toJson]

theorem PolicyDecisionRow.toJson_injective : Function.Injective PolicyDecisionRow.toJson := by
  rintro ⟨⟩ ⟨⟩ h
  simp_all [PolicyDecisionRow.toJson, string_ofOption_injective.eq_iff]

theorem AppliedChange.toJson_injective : Function.Injective AppliedChange.toJson := by
  rintro ⟨⟩ ⟨⟩ h
  simp_all [AppliedChange.toJson, string_ofOption_injective.eq_iff]

theorem ResultStatus.text_injective : Function.Injective ResultStatus.text := by
  intro a b h
  cases a <;> cases b <;> first | rfl | exact absurd h (by decide)

theorem ServiceNowMetadata.toJson_injective : Function.Injective ServiceNowMetadata.toJson := by
  rintro ⟨⟩ ⟨⟩ h
  simp_all [ServiceNowMetadata.toJson, string_ofOption_injective.eq_iff]

theorem ErrorRow.toJson_injective : Function.Injective ErrorRow.toJson := by
  rintro ⟨⟩ ⟨⟩ h
  simp_all [ErrorRow.toJson]

theorem appliedChanges_injective : Function.Injective (ofOption (ofList AppliedChange.toJson)) :=
  ofOption_injective (ofList_injective AppliedChange.toJson_injective) (fun _ h => by cases h)

theorem error_injective : Function.Injective (ofOption ErrorRow.toJson) :=
  ofOption_injective ErrorRow.toJson_injective (fun _ h => by cases h)

theorem serviceNowMetadata_injective : Function.Injective (ofOption ServiceNowMetadata.toJson) :=
  ofOption_injective ServiceNowMetadata.toJson_injective (fun _ h => by cases h)

/-- Planned changes agree as they are read back when they are written alike. -/
theorem plannedChanges_reread {a b : Option Value} (h : ofOption id a = ofOption id b) :
    rereadValue a = rereadValue b := by
  cases a with
  | none => cases b with
    | none => rfl
    | some b => simp_all [ofOption, rereadValue, Option.filter, eq_comm]
  | some a => cases b with
    | none => simp_all [ofOption, rereadValue, Option.filter]
    | some b => simp_all [ofOption]

/-- The fields before `prev_hash`, in key order. -/
def AuditEvent.fieldsBefore (e : AuditEvent) : List (String × Value) := (e.fields lib).take 15

/-- The fields between `prev_hash` and `row_hash`. -/
def AuditEvent.fieldsBetween (e : AuditEvent) : List (String × Value) :=
  ((e.fields lib).drop 16).take 4

/-- The fields after `row_hash`. -/
def AuditEvent.fieldsAfter (e : AuditEvent) : List (String × Value) := (e.fields lib).drop 21

theorem AuditEvent.fields_eq :
    e.fields lib = e.fieldsBefore lib ++ ("prev_hash", .string e.prevHash) ::
      (e.fieldsBetween lib ++ ("row_hash", .string e.rowHash) :: e.fieldsAfter lib) := rfl

theorem fieldsBefore_keys :
    (e.fieldsBefore lib).map Prod.fst =
      ["actor", "applied_changes", "audit_id", "client", "concurrency_token",
       "confirmation_token_id", "duration_ms", "environment", "error", "idempotency_key",
       "kb_evidence", "normalized_arguments_redacted", "parent_audit_id", "planned_changes",
       "policy_decisions"] := rfl

theorem fieldsBetween_keys :
    (e.fieldsBetween lib).map Prod.fst =
      ["raw_arguments_redacted", "redaction_rules_version", "requester", "result_status"] := rfl

theorem fieldsAfter_keys :
    (e.fieldsAfter lib).map Prod.fst =
      ["schema_version", "service_now_api_calls", "service_now_metadata", "session_id",
       "timestamp", "tool", "tool_schema_version"] := rfl

/-- What is hashed: the chain's own previous hash in place of the event's, and no row
hash. -/
theorem normalized_eq (e : AuditEvent) :
    remove "row_hash" (insert "prev_hash" (.string prev) (e.fields lib)) =
      e.fieldsBefore lib ++ ("prev_hash", .string prev) ::
        (e.fieldsBetween lib ++ e.fieldsAfter lib) := by
  rw [AuditEvent.fields_eq, insert_present (by rw [fieldsBefore_keys]; decide), remove_append,
    remove_absent (by rw [fieldsBefore_keys]; decide)]
  have htail : remove "row_hash" (("prev_hash", .string prev) ::
      (e.fieldsBetween lib ++ ("row_hash", .string e.rowHash) :: e.fieldsAfter lib)) =
      ("prev_hash", .string prev) :: (remove "row_hash" (e.fieldsBetween lib) ++
        remove "row_hash" (e.fieldsAfter lib)) := by
    simp [remove]
  rw [htail, remove_absent (by rw [fieldsBetween_keys]; decide),
    remove_absent (by rw [fieldsAfter_keys]; decide)]

/-- The event's own two hash fields do not enter its row hash. -/
theorem eventHash_congr {e f : AuditEvent} (hbefore : e.fieldsBefore lib =
    f.fieldsBefore lib) (hbetween : e.fieldsBetween lib = f.fieldsBetween lib)
    (hafter : e.fieldsAfter lib = f.fieldsAfter lib) :
    eventHash lib prev e = eventHash lib prev f := by
  simp only [eventHash, computeRowHash, AuditEvent.toJson, normalized_eq, hbefore, hbetween, hafter]

theorem eventHash_prevHash (prev other : String) (e : AuditEvent) :
    eventHash lib prev { e with prevHash := other } = eventHash lib prev e :=
  eventHash_congr lib prev rfl rfl rfl

theorem eventHash_rowHash (prev other : String) (e : AuditEvent) :
    eventHash lib prev { e with rowHash := other } = eventHash lib prev e :=
  eventHash_congr lib prev rfl rfl rfl

theorem plannedChanges_json (v : Option Value) :
    ofOption id (rereadValue v) = ofOption id v := by
  cases v with
  | none => rfl
  | some v => by_cases h : v = .null <;> simp [rereadValue, Option.filter, ofOption, h]

/-- An event that was read back is hashed as the one that was written. -/
theorem eventHash_reread (e : AuditEvent) :
    eventHash lib prev e.reread = eventHash lib prev e := by
  refine eventHash_congr lib prev ?_ rfl rfl
  simp only [AuditEvent.fieldsBefore, AuditEvent.fields, AuditEvent.reread, plannedChanges_json]

/-- An event as it is written into the chain after `prev`. -/
def AuditEvent.stamp (prev : String) (e : AuditEvent) : AuditEvent :=
  let event := { e with prevHash := prev }
  { event with rowHash := eventHash lib prev event }

theorem AuditEvent.stamp_rowHash (e : AuditEvent) :
    (e.stamp lib prev).rowHash = eventHash lib prev (e.stamp lib prev) := by
  rw [AuditEvent.stamp, eventHash_rowHash]

section Injectivity

variable {lib}

/-- **The row hash determines the hash before it and all the event says otherwise.** -/
theorem eventHash_inj (hsha : Function.Injective lib.sha256)
    (htime : Function.Injective lib.serializeTime) {p q : String} {e f : AuditEvent}
    (h : eventHash lib p e = eventHash lib q f) : p = q ∧ e.hashed = f.hashed := by
  have hbytes := hsha (hexEncode_injective h)
  have htext := Value.text_injective (String.toByteArray_inj.mp (by simpa using hbytes))
  have hfields := Value.object.inj htext
  rw [normalized_eq, normalized_eq] at hfields
  clear h hbytes htext
  simp only [AuditEvent.fieldsBefore, AuditEvent.fieldsBetween, AuditEvent.fieldsAfter,
    AuditEvent.fields, List.take_succ_cons, List.take_zero, List.drop_succ_cons, List.drop_zero,
    List.cons_append, List.nil_append, List.cons.injEq, Prod.mk.injEq, true_and, and_true,
    Value.string.injEq, string_ofOption_injective.eq_iff, ofNat_injective.eq_iff,
    ActorIdentity.toJson_injective.eq_iff, ClientIdentity.toJson_injective.eq_iff,
    appliedChanges_injective.eq_iff, error_injective.eq_iff,
    (ofList_injective EvidenceRef.toJson_injective).eq_iff,
    (ofList_injective PolicyDecisionRow.toJson_injective).eq_iff,
    serviceNowMetadata_injective.eq_iff, ResultStatus.text_injective.eq_iff, UInt64.toNat_inj,
    UInt32.toNat_inj, htime.eq_iff] at hfields
  obtain ⟨h1, h2, h3, h4, h5, h6, h7, h8, h9, h10, h11, h12, h13, hplanned, h15, hprev, h16, h17,
    h18, h19, h20, h21, h22, h23, h24, h25, h26⟩ := hfields
  refine ⟨hprev, ?_⟩
  have hreread := plannedChanges_reread hplanned
  cases e
  cases f
  simp_all only [AuditEvent.hashed, AuditEvent.reread]

/-- No row hash is the one a chain starts from: its characters are hexadecimal. -/
theorem eventHash_ne_genesis (p : String) (e : AuditEvent) : eventHash lib p e ≠ genesis := by
  intro h
  have hG : 'G' ∈ (eventHash lib p e).toList := by rw [h]; decide
  exact absurd (hexEncode_chars hG) (by decide)

/-- The last row hash of a list of events. -/
def lastRowHash (events : List AuditEvent) : String :=
  (events.getLast?.map AuditEvent.rowHash).getD genesis

/-- What the row hash does not see of an event: its own `prev_hash`, and whether
planned changes it writes as null were there. -/
def AuditEvent.unhashed (e : AuditEvent) : String × Bool :=
  (e.prevHash, e.plannedChanges = some .null)

theorem plannedChanges_eq {a b : Option Value} (h : rereadValue a = rereadValue b)
    (hnull : decide (a = some .null) = decide (b = some .null)) : a = b := by
  cases a with
  | none => cases b with
    | none => rfl
    | some b => by_cases hb : b = .null <;> simp_all [rereadValue, Option.filter]
  | some a => cases b with
    | none => by_cases ha : a = .null <;> simp_all [rereadValue, Option.filter]
    | some b =>
      by_cases ha : a = .null <;> by_cases hb : b = .null <;> simp_all [rereadValue, Option.filter]

/-- An event is what the hash sees of it, its row hash and the rest. -/
theorem AuditEvent.eq_of_hashed {e f : AuditEvent} (h : e.hashed = f.hashed)
    (hrow : e.rowHash = f.rowHash) (hun : e.unhashed = f.unhashed) : e = f := by
  obtain ⟨hprev, hnull⟩ := Prod.mk.inj hun
  have hplanned := plannedChanges_eq (congrArg AuditEvent.plannedChanges h) hnull
  cases e
  cases f
  simp_all [AuditEvent.hashed, AuditEvent.reread]

theorem events_eq : ∀ {es fs : List AuditEvent},
    es.map (fun e => (e.hashed, e.rowHash)) = fs.map (fun e => (e.hashed, e.rowHash)) →
    es.map AuditEvent.unhashed = fs.map AuditEvent.unhashed → es = fs
  | [], [], _, _ => rfl
  | [], f :: fs, h, _ => by cases h
  | e :: es, [], h, _ => by cases h
  | e :: es, f :: fs, h, hun => by
    obtain ⟨hhead, htail⟩ := List.cons.inj h
    obtain ⟨hunhead, huntail⟩ := List.cons.inj hun
    obtain ⟨hhashed, hrow⟩ := Prod.mk.inj hhead
    rw [AuditEvent.eq_of_hashed hhashed hrow hunhead, events_eq htail huntail]

/-- **What a verified chain commits to.**  Two lists that verify and end in the same row
hash are one list exactly when they agree in what no row hash sees. -/
theorem verifyChainRange_agree_iff (hsha : Function.Injective lib.sha256)
    (htime : Function.Injective lib.serializeTime) {es fs : List AuditEvent}
    (hes : verifyChainRange lib es = .ok ()) (hfs : verifyChainRange lib fs = .ok ())
    (hlast : lastRowHash es = lastRowHash fs) :
    es = fs ↔ es.map AuditEvent.unhashed = fs.map AuditEvent.unhashed := by
  constructor
  · intro h
    rw [h]
  · intro hun
    have hlinked := (verifyFrom_ok_iff lib genesis es).mp hes
    have hlinked' := (verifyFrom_ok_iff lib genesis fs).mp hfs
    have hhead : HashChain.head AuditEvent.rowHash genesis es =
        HashChain.head AuditEvent.rowHash genesis fs := by
      rw [HashChain.head_eq, HashChain.head_eq]
      exact hlast
    exact events_eq (hlinked.content_eq AuditEvent.hashed
      (fun _ _ _ _ h => eventHash_inj hsha htime h) eventHash_ne_genesis hlinked' hhead) hun

end Injectivity

/-! ## A forged link -/

/-- Concrete stand-ins for the other crates. -/
def plainCrates : Crates where
  sha256 := plainDigest
  rfc3339 t := plainTime t ++ "+00:00"
  serializeTime t := plainTime t ++ "Z"

theorem plainCrates_serializeTime : Function.Injective plainCrates.serializeTime := by
  intro s t h
  exact plainTime_injective ((String.append_left_inj _).mp h)

/-- The first event of a chain: a story plan at the start of 2026. -/
def firstEvent : AuditEvent :=
  (AuditEvent.newPlan newYear "audit-1" "test" ⟨"u1", "Ada", "sub"⟩ ⟨"u1", "Ada", "sub"⟩
    ⟨none, none, "stdio"⟩ "story_plan_create").stamp plainCrates genesis

/-- The first event, or a copy of it with another `prev_hash`. -/
def forgedEvent (prevHash : String) : AuditEvent := { firstEvent with prevHash := prevHash }

theorem forgedEvent_verifies (prevHash : String) :
    verifyChainRange plainCrates [forgedEvent prevHash] = .ok () := by
  have hfirst : firstEvent.rowHash = eventHash plainCrates genesis firstEvent :=
    AuditEvent.stamp_rowHash ..
  have hforged := eventHash_prevHash plainCrates genesis prevHash firstEvent
  exact (verifyFrom_ok_iff ..).mpr ⟨hfirst.trans hforged.symm, trivial⟩

/-- Over an event and its copy with another `prev_hash`. -/
theorem verifyChainRange_agree_first :
    [forgedEvent genesis] = [forgedEvent "forged"] ↔
      [forgedEvent genesis].map AuditEvent.unhashed =
        [forgedEvent "forged"].map AuditEvent.unhashed :=
  verifyChainRange_agree_iff plainDigest_injective plainCrates_serializeTime
    (forgedEvent_verifies genesis) (forgedEvent_verifies "forged") rfl

/-- Both the event and its forged copy verify, and they end in one row hash. -/
theorem verifyChainRange_not_binding :
    ¬ ∀ lib : Crates, Function.Injective lib.sha256 → Function.Injective lib.serializeTime →
      ∀ es fs : List AuditEvent, verifyChainRange lib es = .ok () →
        verifyChainRange lib fs = .ok () → lastRowHash es = lastRowHash fs → es = fs := by
  intro hbinds
  have heq := hbinds plainCrates plainDigest_injective plainCrates_serializeTime
    [forgedEvent genesis] [forgedEvent "forged"] (forgedEvent_verifies genesis)
    (forgedEvent_verifies "forged") rfl
  have hprev := congrArg AuditEvent.prevHash (List.cons.inj heq).1
  have hne : genesis ≠ "forged" := by decide
  exact hne hprev

end SnowAgent
