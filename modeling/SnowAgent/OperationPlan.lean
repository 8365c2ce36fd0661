import SnowAgent.Primitives

/-! # Operation plans and receipts

The receipt an apply call answers with, and the operation hash that a
confirmation token and an idempotency row are bound to.  The hasher is fed the
tool, the three texts of the target and the JSON text of the planned changes
one after the other; `computeOpHash_binds_iff` says exactly what that binds.
-/
namespace SnowAgent

open Json

/-! ## Receipts -/

/-- What ServiceNow answered about the written record. -/
structure ServiceNowMetadata where
  sysId : Option String
  number : Option String
  transactionId : Option String
deriving DecidableEq

/-- A caution attached to a receipt. -/
structure ReceiptWarning where
  code : String
  field : Option String
  message : String
  data : Option Value
deriving DecidableEq

/-- One field before and after a write. -/
structure FieldChange where
  field : String
  before : Option Value
  after : Option Value
deriving DecidableEq

/-- The version of a record a plan was made against. -/
structure ConcurrencyToken where
  sysUpdatedOn : String
  sysModCount : Option Int
deriving DecidableEq

inductive ReceiptStatus where
  | success
  | partialSuccess
  | failed
deriving DecidableEq

/-- What an apply call did, as it is stored and replayed. -/
structure OperationReceipt where
  planId : String
  auditId : String
  parentAuditId : String
  tool : String
  status : ReceiptStatus
  appliedChangesSummary : Option Value
  serviceNowMetadata : Option ServiceNowMetadata
  idempotencyReplay : Bool
  completedAt : DateTime
  opHash : String
  recordUrl : Option String
  recordSnapshot : Option Value
  changedFields : List FieldChange
  concurrencyTokenObserved : Option ConcurrencyToken
  applyStartedAt : Option DateTime
  errorCode : Option String
  warnings : List ReceiptWarning
deriving DecidableEq

/-- An optional value as it is read back from JSON, where null stands for none. -/
def rereadValue (v : Option Value) : Option Value := v.filter (fun v => v ≠ .null)

def FieldChange.reread (c : FieldChange) : FieldChange :=
  { c with before := rereadValue c.before, after := rereadValue c.after }

def ReceiptWarning.reread (w : ReceiptWarning) : ReceiptWarning :=
  { w with data := rereadValue w.data }

/-- A receipt as it is read back from `receipt_json`. -/
def OperationReceipt.reread (r : OperationReceipt) : OperationReceipt :=
  { r with
    appliedChangesSummary := rereadValue r.appliedChangesSummary
    recordSnapshot := rereadValue r.recordSnapshot
    changedFields := r.changedFields.map FieldChange.reread
    warnings := r.warnings.map ReceiptWarning.reread }

/-! ## The operation hash -/

/-- The part of the hasher's input that comes from the target. -/
def targetText : Option RecordRef → String
  | some target => target.number ++ target.table ++ target.sysId
  | none => ""

/-- Everything the hasher is fed, in turn. -/
def opHashInput (tool : String) (target : Option RecordRef) (changes : Value) : String :=
  tool ++ targetText target ++ changes.text

/-- `compute_op_hash`. -/
def computeOpHash (sha256 : Sha256) (tool : String) (target : Option RecordRef)
    (changes : Value) : String :=
  hexEncode (sha256 (opHashInput tool target changes).toUTF8)

/-- Where the parts of the hasher's input end: the lengths of the tool and of the
target's number, table and identifier. -/
def opHashCuts (tool : String) (target : Option RecordRef) : Nat × Option (Nat × Nat × Nat) :=
  (tool.length, target.map fun t => (t.number.length, t.table.length, t.sysId.length))

section OpHash

variable {sha256 : Sha256} {t₁ t₂ : String} {g₁ g₂ : Option RecordRef} {c₁ c₂ : Value}

/-- Under a collision-free digest the hash determines the concatenated text. -/
theorem opHashInput_eq (hsha : Function.Injective sha256)
    (h : computeOpHash sha256 t₁ g₁ c₁ = computeOpHash sha256 t₂ g₂ c₂) :
    opHashInput t₁ g₁ c₁ = opHashInput t₂ g₂ c₂ := by
  have hbytes := hsha (hexEncode_injective h)
  exact String.toByteArray_inj.mp (by simpa using hbytes)

theorem string_append_inj {a b x y : String} (h : a ++ x = b ++ y)
    (hlen : a.length = b.length) : a = b ∧ x = y := by
  have hlist : a.toList ++ x.toList = b.toList ++ y.toList := by
    rw [← String.toList_append, ← String.toList_append, h]
  obtain ⟨hab, hxy⟩ := List.append_inj hlist
    (by rw [String.length_toList, String.length_toList]; exact hlen)
  exact ⟨String.toList_injective hab, String.toList_injective hxy⟩

/-- A target is read back from its text once the three lengths are known. -/
theorem targetText_append_inj {x y : String} (h : targetText g₁ ++ x = targetText g₂ ++ y)
    (hcuts : (opHashCuts t₁ g₁).2 = (opHashCuts t₂ g₂).2) : g₁ = g₂ ∧ x = y := by
  cases g₁ with
  | none =>
    cases g₂ with
    | none => exact ⟨rfl, by simpa [targetText] using h⟩
    | some g => simp [opHashCuts] at hcuts
  | some g =>
    cases g₂ with
    | none => simp [opHashCuts] at hcuts
    | some g' =>
      simp only [opHashCuts, Option.map_some, Option.some.injEq, Prod.mk.injEq] at hcuts
      simp only [targetText, String.append_assoc] at h
      obtain ⟨hnumber, h⟩ := string_append_inj h hcuts.1
      obtain ⟨htable, h⟩ := string_append_inj h hcuts.2.1
      obtain ⟨hsys, hxy⟩ := string_append_inj h hcuts.2.2
      refine ⟨?_, hxy⟩
      cases g
      cases g'
      cases hnumber
      cases htable
      cases hsys
      rfl

/-- Cut at the same places, one text is one operation. -/
theorem opHashInput_inj (h : opHashInput t₁ g₁ c₁ = opHashInput t₂ g₂ c₂)
    (hcuts : opHashCuts t₁ g₁ = opHashCuts t₂ g₂) : t₁ = t₂ ∧ g₁ = g₂ ∧ c₁ = c₂ := by
  rw [opHashInput, opHashInput, String.append_assoc, String.append_assoc] at h
  obtain ⟨ht, h⟩ := string_append_inj h (congrArg Prod.fst hcuts)
  obtain ⟨hg, h⟩ := targetText_append_inj h (congrArg Prod.snd hcuts)
  exact ⟨ht, hg, Value.text_injective h⟩

/-- **What the operation hash binds.**  Equal hashes mean equal operations, unless
the two operations write one text that is cut into its parts at different places. -/
theorem computeOpHash_binds_iff (hsha : Function.Injective sha256) :
    (computeOpHash sha256 t₁ g₁ c₁ = computeOpHash sha256 t₂ g₂ c₂ → t₁ = t₂ ∧ g₁ = g₂ ∧ c₁ = c₂) ↔
      ¬ (opHashInput t₁ g₁ c₁ = opHashInput t₂ g₂ c₂ ∧ opHashCuts t₁ g₁ ≠ opHashCuts t₂ g₂) := by
  constructor
  · rintro hbinds ⟨htext, hcuts⟩
    obtain ⟨rfl, rfl, rfl⟩ := hbinds (by rw [computeOpHash, computeOpHash, htext])
    exact hcuts rfl
  · intro hshift hhash
    have htext := opHashInput_eq hsha hhash
    by_cases hcuts : opHashCuts t₁ g₁ = opHashCuts t₂ g₂
    · exact opHashInput_inj htext hcuts
    · exact absurd ⟨htext, hcuts⟩ hshift

end OpHash

/-- Two changes next to each other in number: no two cuts of one text. -/
theorem computeOpHash_binds_neighbours :
    opHashInput "change_apply" (some ⟨"a1", "CHG001", "change_task"⟩) .null ≠
        opHashInput "change_apply" (some ⟨"a2", "CHG002", "change_task"⟩) .null ∧
      ((computeOpHash plainDigest "change_apply" (some ⟨"a1", "CHG001", "change_task"⟩) .null =
          computeOpHash plainDigest "change_apply" (some ⟨"a2", "CHG002", "change_task"⟩) .null →
        "change_apply" = "change_apply" ∧
          (some ⟨"a1", "CHG001", "change_task"⟩ : Option RecordRef) =
            some ⟨"a2", "CHG002", "change_task"⟩ ∧ Value.null = Value.null) ↔
        ¬ (opHashInput "change_apply" (some ⟨"a1", "CHG001", "change_task"⟩) .null =
            opHashInput "change_apply" (some ⟨"a2", "CHG002", "change_task"⟩) .null ∧
          opHashCuts "change_apply" (some ⟨"a1", "CHG001", "change_task"⟩) ≠
            opHashCuts "change_apply" (some ⟨"a2", "CHG002", "change_task"⟩))) :=
  ⟨by decide, computeOpHash_binds_iff plainDigest_injective⟩

/-- The digit at the end of a record number may as well open the table's name: two
targets, one hash, whatever the digest. -/
theorem computeOpHash_not_binding :
    ¬ ∀ sha256 : Sha256, Function.Injective sha256 →
      ∀ (t₁ t₂ : String) (g₁ g₂ : Option RecordRef) (c₁ c₂ : Value),
        computeOpHash sha256 t₁ g₁ c₁ = computeOpHash sha256 t₂ g₂ c₂ →
          t₁ = t₂ ∧ g₁ = g₂ ∧ c₁ = c₂ := by
  intro hbinds
  have htext : opHashInput "change_apply" (some ⟨"a1", "CHG0010", "change_task"⟩) .null =
      opHashInput "change_apply" (some ⟨"a1", "CHG001", "0change_task"⟩) .null := by decide
  have htargets := (hbinds plainDigest plainDigest_injective "change_apply" "change_apply"
    (some ⟨"a1", "CHG0010", "change_task"⟩) (some ⟨"a1", "CHG001", "0change_task"⟩) .null .null
    (by rw [computeOpHash, computeOpHash, htext])).2.1
  exact absurd htargets (by decide)

end SnowAgent
