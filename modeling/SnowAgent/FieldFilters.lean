import SnowAgent.FieldDictionary
import SnowAgent.FixedWidth
import SnowAgent.RecordCache

/-! # Filters on Business Application fields

A cached field is projected into a row with its text, its display value, and, where it has them, a
number, a date and a reference.  A filter asks of the row whether it equals a value, or where it
stands to it in order.  Equality looks for the value's text among the texts of the row, whatever
the case of its letters; the order compares numbers, else dates, else the text itself.

How floating point numbers are read and compared stays a parameter, and so does the JSON text of
values that are neither text nor number.
-/
namespace SnowAgent.Dictionary

open Json Text Core

/-! ## Projected fields -/

/-- What is left open: `f64` and the JSON text of values. -/
structure FilterLib where
  Float : Type
  /-- `str::parse::<f64>`. -/
  parse : String → Option Float
  /-- `Value::as_f64`, of a number. -/
  ofNumber : Number → Option Float
  /-- `f64::partial_cmp`. -/
  partialCmp : Float → Float → Option Ordering
  jsonText : Value → String
  /-- A number is the same as itself, or is none. -/
  partialCmp_self : ∀ x, partialCmp x x = some .eq ∨ partialCmp x x = none
  /-- A JSON number is what its text reads as. -/
  parse_ofNumber : ∀ n x, ofNumber n = some x → parse n.text = some x
  /-- A text that is a number has a minus sign at its start, or after the `e` of its exponent. -/
  parse_minus : ∀ text before after x, parse text = some x → text.toList = before ++ '-' :: after →
    before = [] ∨ ∃ first, before = first ++ ['e'] ∨ before = first ++ ['E']

/-- `ProjectedFieldRow`. -/
structure ProjectedFieldRow (Float : Type) where
  ownerSysId : String
  fieldName : String
  fieldLabel : Option String
  fieldType : Option String
  valueText : Option String
  displayValue : Option String
  valueNumber : Option Float
  valueDate : Option String
  valueBool : Option Bool
  referenceSysId : Option String
  referenceTable : Option String
  rawJson : String
  updatedAt : DateTime

section Projection

variable (lib : FilterLib)

/-- `json_value_to_projection_string`. -/
def jsonValueToProjectionString : Value → String
  | .string value => value
  | .null => ""
  | .number n => n.text
  | other => lib.jsonText other

/-- `raw_value_text`. -/
def rawValueText : Value → Option String
  | .object map => (lookup "value" map).map (jsonValueToProjectionString lib)
  | .null => none
  | other => some (jsonValueToProjectionString lib other)

/-- `raw_display_value`. -/
def rawDisplayValue : Value → Option String
  | .object map => nonBlank ((lookup "display_value" map).map (jsonValueToProjectionString lib))
  | _ => none

/-- `known_business_application_reference_table`. -/
def knownReferenceTable (fieldName : String) : Option String :=
  if fieldName ∈ ["business_owner", "it_application_owner", "owned_by", "managed_by"] then
    some "sys_user"
  else if fieldName ∈ ["managed_by_group", "support_group", "assignment_group"] then
    some "sys_user_group"
  else if fieldName = "cmdb_ci" then some "cmdb_ci"
  else none

/-- `is_sys_id`. -/
def isPlainSysId (value : String) : Bool :=
  value.toList.length == 32 && value.toList.all fun c =>
    c.isDigit || ('a' ≤ c && c ≤ 'f') || ('A' ≤ c && c ≤ 'F')

/-- Whether a field has dates, by its type or its name. -/
def isDateField (fieldName : String) (fieldType : Option String) : Bool :=
  let name := toAsciiLowercase fieldName
  Text.contains (toAsciiLowercase (fieldType.getD "")) "date" || endsWith name "_date" ||
    endsWith name "_on"

/-- `str::replace` of a blank by `T`. -/
def blankToT (text : String) : String :=
  String.ofList (text.toList.map fun c => if c = ' ' then 'T' else c)

/-- `projected_date_value`. -/
def projectedDateValue (fieldName : String) (fieldType value : Option String) : Option String :=
  (nonBlank value).bind fun value =>
    if isDateField fieldName fieldType then some (blankToT value) else none

/-- `parse_bool`. -/
def parseBool (value : Option String) : Option Bool :=
  value.bind fun value =>
    let text := toAsciiLowercase (trim value)
    if text ∈ ["true", "1", "yes"] then some true
    else if text ∈ ["false", "0", "no"] then some false
    else none

/-- `field_value_json`. -/
def fieldValueJson : Option FieldValue → Value
  | none => .null
  | some field => .object (("value", .string field.value) ::
      (field.displayValue.map fun display => ("display_value", Value.string display)).toList)

/-- A row of `projected_fields_from_json`. -/
def projectedField (ownerSysId fieldName : String) (raw : Option Value)
    (fieldValue : Option FieldValue) (dictionaryRow : Option FieldDictionaryRow)
    (updatedAt : DateTime) : ProjectedFieldRow lib.Float :=
  let valueText := (fieldValue.map FieldValue.value).orElse fun _ => raw.bind (rawValueText lib)
  let displayValue := (fieldValue.bind FieldValue.displayValue).orElse fun _ =>
    raw.bind (rawDisplayValue lib)
  let fieldType := dictionaryRow.bind FieldDictionaryRow.fieldType
  let referenceTable := (dictionaryRow.bind FieldDictionaryRow.referenceTable).orElse fun _ =>
    knownReferenceTable fieldName
  { ownerSysId
    fieldName
    fieldLabel := dictionaryRow.bind FieldDictionaryRow.fieldLabel
    fieldType
    valueText := nonBlank valueText
    displayValue := nonBlank displayValue
    valueNumber := valueText.bind fun value => lib.parse (trim value)
    valueDate := projectedDateValue fieldName fieldType valueText
    valueBool := parseBool valueText
    referenceSysId := referenceTable.bind fun _ => valueText.filter isPlainSysId
    referenceTable
    rawJson := lib.jsonText (raw.getD (fieldValueJson fieldValue))
    updatedAt }

end Projection

/-! ## Filters -/

/-- `FieldOperator`. -/
inductive FieldOperator where
  | eq
  | ne
  | contains
  | startsWith
  | isIn
  | isEmpty
  | isNotEmpty
  | gt
  | gte
  | lt
  | lte
deriving DecidableEq

/-- `FieldFilter`. -/
structure FieldFilter where
  field : String
  op : FieldOperator
  value : Value

/-- `value_as_string`. -/
def valueAsString : Value → Option String
  | .string value => some value
  | .number n => some n.text
  | .bool b => some (if b then "true" else "false")
  | .null => some ""
  | _ => none

section Matches

variable (lib : FilterLib)

/-- `field_values`. -/
def fieldValues (field : ProjectedFieldRow lib.Float) : List String :=
  field.valueText.toList ++ field.displayValue.toList ++ field.referenceSysId.toList

/-- `value_matches_exact`. -/
def valueMatchesExact (candidate : String) (value : Value) : Bool :=
  (valueAsString value).any (eqIgnoreAsciiCase candidate)

/-- `projected_field_is_empty`. -/
def projectedFieldIsEmpty (field : ProjectedFieldRow lib.Float) : Bool :=
  (fieldValues lib field).all (trim · = "")

/-- `str::cmp`. -/
def compareText (left right : String) : Ordering :=
  if left < right then .lt else if left = right then .eq else .gt

/-- The number of a filter's value. -/
def valueAsNumber (value : Value) : Option lib.Float :=
  (match value with
    | .number n => lib.ofNumber n
    | _ => none).orElse fun _ => (valueAsString value).bind lib.parse

/-- `compare_projected_field`. -/
def compareProjectedField (field : ProjectedFieldRow lib.Float) (value : Value) : Option Ordering :=
  match field.valueNumber, valueAsNumber lib value with
  | some left, some right => lib.partialCmp left right
  | _, _ =>
    match field.valueDate, valueAsString value with
    | some left, some right => some (compareText left right)
    | _, _ => do
      let left ← field.valueText
      let right ← valueAsString value
      return compareText left right

/-- `business_application_field_matches`. -/
def businessApplicationFieldMatches (field : Option (ProjectedFieldRow lib.Float))
    (filter : FieldFilter) : Bool :=
  match filter.op, field with
  | .isEmpty, field => (field.map (projectedFieldIsEmpty lib)).getD true
  | .isNotEmpty, field => (field.map fun field => !projectedFieldIsEmpty lib field).getD false
  | op, none => op = .ne
  | .eq, some field => (fieldValues lib field).any (valueMatchesExact · filter.value)
  | .ne, some field => !(fieldValues lib field).any (valueMatchesExact · filter.value)
  | .contains, some field =>
    (valueAsString filter.value).any fun needle =>
      (fieldValues lib field).any fun candidate =>
        Text.contains (toAsciiLowercase candidate) (toAsciiLowercase needle)
  | .startsWith, some field =>
    (valueAsString filter.value).any fun needle =>
      (fieldValues lib field).any fun candidate =>
        startsWithChars (toAsciiLowercase candidate).toList (toAsciiLowercase needle).toList
  | .isIn, some field =>
    match filter.value with
    | .array values => values.any fun value =>
      (fieldValues lib field).any (valueMatchesExact · value)
    | _ => false
  | .gt, some field => compareProjectedField lib field filter.value = some .gt
  | .gte, some field => (compareProjectedField lib field filter.value).any fun ordering =>
    ordering = .gt || ordering = .eq
  | .lt, some field => compareProjectedField lib field filter.value = some .lt
  | .lte, some field => (compareProjectedField lib field filter.value).any fun ordering =>
    ordering = .lt || ordering = .eq

end Matches

/-! ## Moments -/

/-- A time of day. -/
structure ClockTime where
  hour : Nat
  minute : Nat
  second : Nat
  hour_lt : hour < 24
  minute_lt : minute < 60
  second_lt : second < 60

/-- A day, or a time of a day. -/
structure Moment where
  year : Nat
  month : Nat
  day : Nat
  time : Option ClockTime
  year_lt : year < 10000
  month_le : month ≤ 12
  day_le : day ≤ 31

namespace Moment

/-- The numbers of a moment, the first ones deciding first. -/
def numbers (m : Moment) : List Nat :=
  [m.year, m.month, m.day] ++ m.time.elim [] fun time => [time.hour, time.minute, time.second]

/-- A moment is before another. -/
def Before (m m' : Moment) : Prop := m.numbers < m'.numbers

/-- How days and times are written, with a separator between them. -/
def layout (separator : Char) (hasTime : Bool) : FixedWidth.Layout :=
  [([], 4), (['-'], 2), (['-'], 2)] ++
    if hasTime then [([separator], 2), ([':'], 2), ([':'], 2)] else []

/-- The text of a moment. -/
def text (separator : Char) (m : Moment) : String :=
  String.ofList (FixedWidth.render (layout separator m.time.isSome) m.numbers)

end Moment

/-! ## What is promised -/

section Promise

variable (lib : FilterLib)

/-- Whether a field passes a filter with an operator. -/
def holds (field : Option (ProjectedFieldRow lib.Float)) (value : Value) (op : FieldOperator) :
    Bool :=
  businessApplicationFieldMatches lib field ⟨"", op, value⟩

/-- **The negations are negations**, of a field that is there or not. -/
structure Complementary (field : Option (ProjectedFieldRow lib.Float)) (value : Value) : Prop where
  ne_eq : holds lib field value .ne = !holds lib field value .eq
  isNotEmpty_eq : holds lib field value .isNotEmpty = !holds lib field value .isEmpty

/-- **There is one order**: no value is on both sides of another. -/
structure OneOrder (field : Option (ProjectedFieldRow lib.Float)) (value : Value) : Prop where
  gt : holds lib field value .gt = true → holds lib field value .gte = true ∧
    holds lib field value .lt = false ∧ holds lib field value .lte = false
  lt : holds lib field value .lt = true → holds lib field value .lte = true ∧
    holds lib field value .gt = false ∧ holds lib field value .gte = false

/-- A value is equal to a field, and neither before nor after it. -/
structure SamePlace (field : Option (ProjectedFieldRow lib.Float)) (value : Value) : Prop where
  eq : holds lib field value .eq = true
  ne : holds lib field value .ne = false
  gte : holds lib field value .gte = true
  lte : holds lib field value .lte = true
  gt : holds lib field value .gt = false
  lt : holds lib field value .lt = false

/-- **The text of a field is equal to it in every way**, unless it is not a number, or a date with
a blank. -/
def ExactText (field : ProjectedFieldRow lib.Float) : Prop :=
  ∀ text value, field.valueText = some text → valueAsString value = some text →
    (∀ x, lib.parse text = some x → lib.partialCmp x x ≠ none) →
    (field.valueDate.isSome = true → ' ' ∉ text.toList) → SamePlace lib (some field) value

/-- **Dates are in their order**: a field that has a moment, with a blank or a `T` before its time,
stands to a moment of the filter, with a `T` before its time, as the moments stand to each other. -/
def Chronological (field : ProjectedFieldRow lib.Float) : Prop :=
  ∀ (m m' : Moment) (separator : Char), separator = ' ' ∨ separator = 'T' →
    m.time.isSome = m'.time.isSome → field.valueDate.isSome = true →
    field.valueText = some (m.text separator) →
    (holds lib (some field) (.string (m'.text 'T')) .gt = true ↔ m'.Before m) ∧
    (holds lib (some field) (.string (m'.text 'T')) .lt = true ↔ m.Before m') ∧
    (holds lib (some field) (.string (m'.text 'T')) .gte = true ↔ ¬ m.Before m') ∧
    (holds lib (some field) (.string (m'.text 'T')) .lte = true ↔ ¬ m'.Before m)

end Promise

/-! ## The negations and the order -/

section Order

variable {lib : FilterLib} {field : Option (ProjectedFieldRow lib.Float)} {value : Value}

theorem complementary : Complementary lib field value := by
  rcases field with _ | field
  · exact ⟨rfl, rfl⟩
  · exact ⟨rfl, rfl⟩

theorem oneOrder : OneOrder lib field value := by
  rcases field with _ | field
  · exact ⟨fun h => (by cases h), fun h => (by cases h)⟩
  · constructor
    · intro h
      have hgt : compareProjectedField lib field value = some .gt := of_decide_eq_true h
      refine ⟨?_, ?_, ?_⟩
      · simp [holds, businessApplicationFieldMatches, hgt]
      · simp [holds, businessApplicationFieldMatches, hgt]
      · simp [holds, businessApplicationFieldMatches, hgt]
    · intro h
      have hlt : compareProjectedField lib field value = some .lt := of_decide_eq_true h
      refine ⟨?_, ?_, ?_⟩
      · simp [holds, businessApplicationFieldMatches, hlt]
      · simp [holds, businessApplicationFieldMatches, hlt]
      · simp [holds, businessApplicationFieldMatches, hlt]

end Order

/-! ## The same text -/

section Same

variable {lib : FilterLib} {field : ProjectedFieldRow lib.Float} {value : Value} {text : String}

/-- What is read of the text of a field. -/
structure ReadFrom (lib : FilterLib) (field : ProjectedFieldRow lib.Float) : Prop where
  number : ∀ text, field.valueText = some text → field.valueNumber = lib.parse text
  date : ∀ text date, field.valueText = some text → field.valueDate = some date →
    date = blankToT text

theorem projectedField_readFrom (ownerSysId fieldName : String) (raw : Option Value)
    (fieldValue : Option FieldValue) (dictionaryRow : Option FieldDictionaryRow)
    (updatedAt : DateTime) :
    ReadFrom lib (projectedField lib ownerSysId fieldName raw fieldValue dictionaryRow
      updatedAt) := by
  constructor
  · intro text htext
    obtain ⟨htrim, -⟩ := Option.filter_eq_some_iff.mp htext
    obtain ⟨whole, hwhole, rfl⟩ := Option.map_eq_some_iff.mp htrim
    simp only [projectedField, hwhole, Option.bind_some]
  · intro text date htext hdate
    obtain ⟨value, hvalue, hdate⟩ := Option.bind_eq_some_iff.mp hdate
    have hsame : value = text := Option.some.inj (hvalue.symm.trans htext)
    split at hdate
    · rw [← Option.some.inj hdate, hsame]
    · cases hdate

/-- A value is a number where its text is. -/
theorem valueAsNumber_eq (h : valueAsString value = some text) :
    valueAsNumber lib value = lib.parse text := by
  cases value with
  | number n =>
    injection h with h
    unfold valueAsNumber
    rcases hnumber : lib.ofNumber n with _ | x
    · simp [hnumber, valueAsString, h]
    · simp [hnumber, ← h, lib.parse_ofNumber n x hnumber]
  | null | bool b | string s | array items | object fields =>
    simp [valueAsNumber, h]

theorem compareText_self (text : String) : compareText text text = .eq := by
  rw [compareText, if_neg (lt_irrefl _), if_pos rfl]

theorem blankToT_eq_self (h : ' ' ∉ text.toList) : blankToT text = text := by
  have hmap : (text.toList.map fun c => if c = ' ' then 'T' else c) = text.toList := by
    refine (List.map_congr_left fun c hc => ?_).trans (List.map_id _)
    exact if_neg fun hblank : c = ' ' => h (by rw [← hblank]; exact hc)
  rw [blankToT, hmap, String.ofList_toList]

/-- The text of a field compares as the same. -/
theorem compareProjectedField_self (hread : ReadFrom lib field) (htext : field.valueText = some text)
    (hvalue : valueAsString value = some text)
    (hnumber : ∀ x, lib.parse text = some x → lib.partialCmp x x ≠ none)
    (hdate : field.valueDate.isSome = true → ' ' ∉ text.toList) :
    compareProjectedField lib field value = some .eq := by
  unfold compareProjectedField
  rw [hread.number text htext, valueAsNumber_eq hvalue]
  rcases hparse : lib.parse text with _ | x
  · rcases hfield : field.valueDate with _ | date
    · simp [htext, hvalue, compareText_self]
    · have hsame := hread.date text date htext hfield
      rw [blankToT_eq_self (hdate (by rw [hfield]; rfl))] at hsame
      simp [hvalue, hsame, compareText_self]
  · exact (lib.partialCmp_self x).resolve_right (hnumber x hparse)

theorem exactText (hread : ReadFrom lib field) : ExactText lib field := by
  intro text value htext hvalue hnumber hdate
  have hcompare := compareProjectedField_self hread htext hvalue hnumber hdate
  have hmatch : (fieldValues lib field).any (valueMatchesExact · value) = true := by
    refine List.any_eq_true.mpr ⟨text, by simp [fieldValues, htext], ?_⟩
    simp [valueMatchesExact, hvalue, eqIgnoreAsciiCase]
  constructor
  · exact hmatch
  · simp [holds, businessApplicationFieldMatches, hmatch]
  · simp [holds, businessApplicationFieldMatches, hcompare]
  · simp [holds, businessApplicationFieldMatches, hcompare]
  · simp [holds, businessApplicationFieldMatches, hcompare]
  · simp [holds, businessApplicationFieldMatches, hcompare]

end Same

/-! ## Moments in their order -/

section Moments

variable {lib : FilterLib} {field : ProjectedFieldRow lib.Float}

namespace Moment

variable (m : Moment)

theorem numbers_fit (separator : Char) :
    FixedWidth.Fits (layout separator m.time.isSome) m.numbers := by
  obtain ⟨year, month, day, time, hyear, hmonth, hday⟩ := m
  rcases time with _ | time
  · refine ⟨?_, ?_, ?_, trivial⟩
    · exact hyear
    · show month < 10 ^ 2
      omega
    · show day < 10 ^ 2
      omega
  · have hhour := time.hour_lt
    have hminute := time.minute_lt
    have hsecond := time.second_lt
    refine ⟨?_, ?_, ?_, ?_, ?_, ?_, trivial⟩
    · exact hyear
    · show month < 10 ^ 2
      omega
    · show day < 10 ^ 2
      omega
    · show time.hour < 10 ^ 2
      omega
    · show time.minute < 10 ^ 2
      omega
    · show time.second < 10 ^ 2
      omega

/-- Texts of moments are in the order of the moments. -/
theorem text_lt_iff {m m' : Moment} (h : m.time.isSome = m'.time.isSome) (separator : Char) :
    m.text separator < m'.text separator ↔ m.Before m' := by
  rw [String.lt_iff_toList_lt, text, text, String.toList_ofList, String.toList_ofList, ← h]
  refine FixedWidth.render_lt_iff (m.numbers_fit separator) ?_
  rw [h]
  exact m'.numbers_fit separator

/-- Stored dates are written with a `T`. -/
theorem blankToT_text {separator : Char} (h : separator = ' ' ∨ separator = 'T') :
    blankToT (m.text separator) = m.text 'T' := by
  rw [blankToT, text, text, String.toList_ofList, FixedWidth.map_render (by decide)]
  rcases m.time.isSome with _ | _
  · rfl
  · rcases h with rfl | rfl
    · rfl
    · rfl

/-- The text of a moment is no number: it has a minus sign after a digit. -/
theorem parse_text (separator : Char) : lib.parse (m.text separator) = none := by
  rcases hparse : lib.parse (m.text separator) with _ | x
  · rfl
  · exfalso
    have htext : ∃ after, (m.text separator).toList = FixedWidth.digits 4 m.year ++ '-' :: after := by
      rw [text, String.toList_ofList]
      exact ⟨_, rfl⟩
    obtain ⟨after, hafter⟩ := htext
    have hdigits : ∀ c ∈ FixedWidth.digits 4 m.year, c ≠ 'e' ∧ c ≠ 'E' :=
      FixedWidth.digits_all (by decide)
    rcases lib.parse_minus _ _ _ x hparse hafter with hnil | ⟨first, hlast | hlast⟩
    · have hlength := congrArg List.length hnil
      simp at hlength
    · exact (hdigits 'e' (by rw [hlast]; simp)).1 rfl
    · exact (hdigits 'E' (by rw [hlast]; simp)).2 rfl

end Moment

theorem compareText_lt_iff {a b : String} : compareText a b = .lt ↔ a < b := by
  unfold compareText
  split_ifs <;> simp_all

theorem compareText_gt_iff {a b : String} : compareText a b = .gt ↔ b < a := by
  unfold compareText
  split_ifs with hlt heq
  · exact ⟨fun h => (by cases h), fun h => absurd h (lt_asymm hlt)⟩
  · exact ⟨fun h => (by cases h), fun h => absurd heq (ne_of_gt h)⟩
  · exact ⟨fun _ => lt_of_le_of_ne (not_lt.mp hlt) (Ne.symm heq), fun _ => rfl⟩

theorem chronological (hread : ReadFrom lib field) : Chronological lib field := by
  intro m m' separator hseparator hkind hdate htext
  obtain ⟨date, hfield⟩ := Option.isSome_iff_exists.mp hdate
  have hcompare : compareProjectedField lib field (.string (m'.text 'T')) =
      some (compareText (m.text 'T') (m'.text 'T')) := by
    have hsame := hread.date _ _ htext hfield
    rw [m.blankToT_text hseparator] at hsame
    unfold compareProjectedField
    rw [hread.number _ htext, Moment.parse_text, hfield, hsame]
    rfl
  have hlt : compareText (m.text 'T') (m'.text 'T') = .lt ↔ m.Before m' :=
    compareText_lt_iff.trans (Moment.text_lt_iff hkind 'T')
  have hgt : compareText (m.text 'T') (m'.text 'T') = .gt ↔ m'.Before m :=
    compareText_gt_iff.trans (Moment.text_lt_iff hkind.symm 'T')
  rw [← hlt, ← hgt]
  simp only [holds, businessApplicationFieldMatches, hcompare]
  cases compareText (m.text 'T') (m'.text 'T') <;> simp

end Moments

/-- **How the operators agree**: negations are negations and there is one order, for every row and
value; of a projected field, its exact text is equal to it in every way, and moments of dates are in
their order. -/
theorem field_filters_coherent (lib : FilterLib) :
    (∀ field value, Complementary lib field value ∧ OneOrder lib field value) ∧
    ∀ ownerSysId fieldName raw fieldValue dictionaryRow updatedAt,
      ExactText lib (projectedField lib ownerSysId fieldName raw fieldValue dictionaryRow
        updatedAt) ∧
      Chronological lib (projectedField lib ownerSysId fieldName raw fieldValue dictionaryRow
        updatedAt) :=
  ⟨fun _ _ => ⟨complementary, oneOrder⟩, fun _ _ _ _ _ _ =>
    ⟨exactText (projectedField_readFrom ..), chronological (projectedField_readFrom ..)⟩⟩

/-! ## Letters in another case -/

/-- Texts that are no numbers. -/
def noNumbers : FilterLib where
  Float := Unit
  parse := fun _ => none
  ofNumber := fun _ => none
  partialCmp := fun _ _ => some .eq
  jsonText := fun _ => ""
  partialCmp_self := fun _ => .inl rfl
  parse_ofNumber := fun _ _ h => (by cases h)
  parse_minus := fun _ _ _ _ h => (by cases h)

/-- A field with the text `open`. -/
def openField : ProjectedFieldRow Unit :=
  projectedField noNumbers "id-1" "install_status" (some (.string "open")) none none 0

/-- **The text in capitals is equal to the field, and the field is after it.** -/
theorem capitals_equal_and_before :
    holds noNumbers (some openField) (.string "OPEN") .eq = true ∧
      holds noNumbers (some openField) (.string "OPEN") .gt = true ∧
      holds noNumbers (some openField) (.string "OPEN") .lte = false := by
  have htext : openField.valueText = some "open" := by decide
  have hafter : "OPEN" < "open" := by
    rw [String.lt_iff_toList_lt]
    decide
  have hcompare : compareProjectedField noNumbers openField (.string "OPEN") = some .gt := by
    have hdate : openField.valueDate = none := by decide
    have hgt : compareText "open" "OPEN" = .gt := compareText_gt_iff.mpr hafter
    simp [compareProjectedField, htext, hdate, valueAsNumber, valueAsString, noNumbers, hgt]
  refine ⟨?_, ?_, ?_⟩
  · simp [holds, businessApplicationFieldMatches, fieldValues, htext, valueMatchesExact,
      valueAsString, show eqIgnoreAsciiCase "open" "OPEN" = true by decide]
  · simp [holds, businessApplicationFieldMatches, hcompare]
  · simp [holds, businessApplicationFieldMatches, hcompare]

end SnowAgent.Dictionary
