import Mathlib.Data.String.Basic
import SnowAgent.RecordCache

/-! # The Table API

A request for rows of a table of ServiceNow is a conjunction of conditions, each with its
alternatives.  How ServiceNow evaluates a condition is left open.
-/
namespace SnowAgent.Core

open Json Text

/-! ## Queries -/

/-- One condition on a field. -/
inductive Atom where
  | equals (field value : String)
  | inList (field : String) (values : List String)
  | greaterThan (field value : String)
  | lessThan (field value : String)
  | contains (field text : String)
deriving DecidableEq

/-- `TableApi`: a conjunction of alternatives, after a `sys_id`. -/
structure TableApi where
  table : String
  conditions : List (List Atom)
  /-- `greater_than` on `sys_id`. -/
  after : Option String
  limit : Nat

namespace TableApi

/-- `client.table`, with its `limit`. -/
def new (table : String) (limit : Nat) : TableApi := ⟨table, [], none, limit⟩

/-- One more condition. -/
def filter (query : TableApi) (atom : Atom) : TableApi :=
  { query with conditions := query.conditions ++ [[atom]] }

/-- One more condition, if there is a value for it. -/
def filterSome {α : Type} (query : TableApi) (atom : α → Atom) : Option α → TableApi
  | some value => query.filter (atom value)
  | none => query

/-- `or_filter`: an alternative to the last condition. -/
def orFilter (query : TableApi) (atom : Atom) : TableApi :=
  match query.conditions.getLast? with
  | some alternatives =>
    { query with conditions := query.conditions.dropLast ++ [alternatives ++ [atom]] }
  | none => query.filter atom

/-- `equals` for one value, `in_list` for several. -/
def oneOf (query : TableApi) (field : String) : List String → TableApi
  | [value] => query.filter (.equals field value)
  | values => query.filter (.inList field values)

end TableApi

/-- `SnowApiError`. -/
inductive SnowApiError where
  | api (status : Nat)
  | auth (status : Option Nat)
  | http
  | other
deriving DecidableEq

/-! ## The key of a row -/

variable {s : String}

/-- A `sys_id`: 32 hexadecimal digits in lower case. -/
def IsSysId (s : String) : Prop :=
  s.toList.length = 32 ∧ ∀ c ∈ s.toList, c ∈ "0123456789abcdef".toList

instance : DecidablePred IsSysId := fun s =>
  decidable_of_iff
    (s.toList.length = 32 ∧ (s.toList.all fun c => "0123456789abcdef".toList.contains c) = true)
    (by simp only [IsSysId, List.all_eq_true, List.contains_iff_mem])

/-- `normalize_record_lookup_sys_id`. -/
def normalizeRecordLookupSysId (sysId : String) : Except String String :=
  let normalized := toAsciiLowercase (trim sysId)
  if normalized.toList.length ≠ 32 ∨
      ¬ (normalized.toList.all fun c => "0123456789abcdef".toList.contains c) = true then
    .error "sys_id must be exactly 32 ASCII hex characters"
  else .ok normalized

theorem hexDigits_plain :
    ∀ c ∈ "0123456789abcdef".toList, isWhitespace c = false ∧ lowerChar c = c := by
  simp [isWhitespace, lowerChar]

theorem IsSysId.trim (h : IsSysId s) : Text.trim s = s := by
  have hplain : ∀ cs : List Char, (∀ c ∈ cs, isWhitespace c = false) →
      cs.dropWhile isWhitespace = cs := by
    intro cs hcs
    cases cs with
    | nil => rfl
    | cons c cs => rw [List.dropWhile_cons_of_neg (by simp [hcs c List.mem_cons_self])]
  have hchars : ∀ c ∈ s.toList, isWhitespace c = false :=
    fun c hc => (hexDigits_plain c (h.2 c hc)).1
  rw [Text.trim, trimChars, hplain _ hchars, hplain _ (by simpa using hchars), List.reverse_reverse,
    String.ofList_toList]

theorem IsSysId.lower (h : IsSysId s) : toAsciiLowercase s = s := by
  have hchars : s.toList.map lowerChar = s.toList := by
    rw [List.map_congr_left fun c hc => (hexDigits_plain c (h.2 c hc)).2]
    exact List.map_id' _
  rw [toAsciiLowercase, hchars, String.ofList_toList]

/-- A `sys_id` is normalized to itself. -/
theorem IsSysId.normalize (h : IsSysId s) : normalizeRecordLookupSysId s = .ok s := by
  have hall : (s.toList.all fun c => "0123456789abcdef".toList.contains c) = true := by
    rw [List.all_eq_true]
    intro c hc
    exact List.contains_iff_mem.mpr (h.2 c hc)
  unfold normalizeRecordLookupSysId
  simp only [h.trim, h.lower, h.1, hall]
  simp

theorem IsSysId.ne_empty (h : IsSysId s) : s ≠ "" := by
  rintro rfl
  exact absurd h.1 (by decide)

theorem IsSysId.pos (h : IsSysId s) : "" < s := by
  rw [String.lt_iff_toList_lt]
  rcases hs : s.toList with _ | ⟨c, cs⟩
  · exact absurd (String.toList_inj.mp hs) h.ne_empty
  · exact List.nil_lt_cons c cs

end SnowAgent.Core
