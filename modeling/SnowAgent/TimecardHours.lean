import SnowAgent.Decimals
import SnowAgent.Letters
import SnowAgent.TimecardApply

/-! # The hours of a time card

The plan of a time card change previews the hours that the apply will write, and the total of the
week.  The preview and the write each read, add, bound and round the hours in their own way; the
receipt repeats what the preview says.  Hours are exact.
-/
namespace SnowAgent

open Json Text Decimals

/-- `Weekday::index`. -/
def Weekday.index : Weekday → Fin 7
  | .sun => 0
  | .mon => 1
  | .tue => 2
  | .wed => 3
  | .thu => 4
  | .fri => 5
  | .sat => 6

/-- `Weekday::field_name`. -/
def Weekday.fieldName (day : Weekday) : String :=
  match day with
  | .sun => "sunday"
  | .mon => "monday"
  | .tue => "tuesday"
  | .wed => "wednesday"
  | .thu => "thursday"
  | .fri => "friday"
  | .sat => "saturday"

namespace TimecardWrite

/-- A `TimeCard` with the hours of its days, as texts. -/
structure HoursCard extends TimeCard where
  hours : Vector String 7
  total : String

/-- `day_hours`. -/
def HoursCard.dayHours (card : HoursCard) (day : Weekday) : String := card.hours[day.index]

/-- `str::parse::<f64>`. -/
def parseF64 (value : String) : Except String F64 :=
  match parse value.toList with
  | .ok number => .ok number
  | .error .empty => .error "cannot parse float from empty string"
  | .error .invalid => .error "invalid float literal"

/-- Drops trailing zeros and a trailing point of two decimal places. -/
def shortened (x : ℚ) : String := String.ofList (trimZeros (fixed x))

/-! ## The preview -/

/-- `trim_decimal`. -/
def trimDecimal (value : ℚ) : String := shortened value

/-- `parse_hours_f64`. -/
def parseHoursF64 (value : String) : Except String ℚ := do
  match ← parseF64 (trim value) with
  | .finite parsed => if 0 ≤ parsed ∧ parsed ≤ 24 then .ok parsed else .error "value_constrained"
  | .notFinite => .error "value_constrained"

/-- The hours that a preview comes to, before they are bounded. -/
def previewValue (fromHours : String) (incoming : ℚ) : SetMode → Except String ℚ
  | .set => .ok incoming
  | .add => do return (← parseHoursF64 fromHours) + incoming

/-- `preview_to_hours`. -/
def previewToHours (fromHours hours : String) (mode : SetMode) : Except String String := do
  let incoming ← parseHoursF64 hours
  let value ← previewValue fromHours incoming mode
  if 0 ≤ value ∧ value ≤ 24 then return trimDecimal value
  else .error "value_constrained"

/-- The hours of a day after a change. -/
def hoursAfter (card : HoursCard) (day : Weekday) (toHours : String) (index : Fin 7) : String :=
  if index = day.index then toHours else card.hours[index]

/-- `preview_total_after`. -/
def previewTotalAfter (card : HoursCard) (day : Weekday) (toHours : String) :
    Except String String := do
  let total ← (List.finRange 7).foldlM (fun (total : ℚ) index => do
    return total + (← parseHoursF64 (hoursAfter card day toHours index))) 0
  return trimDecimal total

/-! ## The plan -/

/-- `SetHoursInput`, of which day and field are those of the day's name. -/
structure SetHoursInput where
  sysId : String
  day : Weekday
  dayName : String
  dayField : String
  hours : String
  mode : SetMode
  named : parseWeekday dayName = .ok day
  fielded : dayField = day.fieldName

/-- `mode_name`. -/
def modeName : SetMode → String
  | .set => "set"
  | .add => "add"

/-- Why no plan is made. -/
inductive PlanRefusal where
  | guardFailed (failure : TimecardScopeFailure)
  | hoursRejected (reason : String)
  | internalError (text : String)
deriving DecidableEq

variable (sha256 : Sha256)

/-- The `planned_changes` of a change of hours. -/
def plannedChanges (card : HoursCard) (input : SetHoursInput) (actorUserSysId toHours : String)
    (totalAfter : String) : Value :=
  obj [("kind", .string "TimecardSetHours"), ("card_sys_id", .string card.sysId),
    ("day", .string input.dayName), ("day_field", .string input.dayField),
    ("from", .string (card.dayHours input.day)), ("to", .string toHours),
    ("hours", .string input.hours), ("mode", .string (modeName input.mode)),
    ("actor_user_sys_id", .string actorUserSysId),
    ("card_fingerprint", .string (cardFingerprint sha256 card.toTimeCard)),
    ("preview", obj [("day", .string input.dayField), ("from", .string (card.dayHours input.day)),
      ("to", .string toHours), ("total_before", .string card.total),
      ("total_after", .string totalAfter)])]

/-- What is planned of a card, as `timecard_in_scope` looks at it. -/
def plannedOf (card : HoursCard) (input : SetHoursInput) (actorUserSysId toHours : String) :
    PlannedTimecardSetHours :=
  ⟨card.sysId, input.day, input.dayField, input.hours, input.mode, card.dayHours input.day, toHours,
    actorUserSysId, cardFingerprint sha256 card.toTimeCard⟩

/-- The target of a plan. -/
def planTarget (card : HoursCard) : RecordRef where
  sysId := card.sysId
  number := ((card.task.map Prod.snd).filter fun number => trim number ≠ "").getD card.sysId
  table := "time_card"

/-- `handle_timecard_plan_set_hours`, from the card that is read on and up to the plan. -/
def planSetHours (planId : String) (card : HoursCard) (input : SetHoursInput)
    (actorUserSysId : String) : Except PlanRefusal OperationPlan := do
  (timecardInScope sha256 card.toTimeCard (plannedOf sha256 card input actorUserSysId "")).mapError
    .guardFailed
  let toHours ← (previewToHours (card.dayHours input.day) input.hours input.mode).mapError
    .hoursRejected
  let totalAfter ← (previewTotalAfter card input.day toHours).mapError .internalError
  return .build sha256 planId timecardPlanTool (some (planTarget card))
    (plannedChanges sha256 card input actorUserSysId toHours totalAfter)

/-! ## The write -/

/-- `TimeValue`: the text of hours. -/
structure TimeValue where
  text : String
deriving DecidableEq

/-- `normalize_hours`. -/
def normalizeHours (value : ℚ) : String :=
  let text := shortened (roundAway (value * 100) / 100)
  if text = "-0" then "0" else text

namespace TimeValue

/-- `TimeValue::from_hours`. -/
def fromHours : F64 → Except String TimeValue
  | .notFinite => .error "hours must be a finite decimal number"
  | .finite value =>
    if value < 0 then .error "hours cannot be negative"
    else if 24 < value then .error "hours cannot exceed 24 per day"
    else .ok ⟨normalizeHours value⟩

/-- `TimeValue::parse`. -/
def parse (input : String) : Except String TimeValue := do
  if trim input = "" then .error "hours cannot be empty"
  else fromHours (← (parseF64 (trim input)).mapError fun _ => "hours must be a decimal number")

/-- `TimeValue::to_f64`. -/
def toF64 (value : TimeValue) : Except String F64 :=
  (parseF64 value.text).mapError fun _ => "stored hours value is not numeric: " ++ value.text

end TimeValue

/-- `parse_existing_hours`. -/
def parseExistingHours (value : String) : Except String F64 :=
  if trim value = "" then .ok (.finite 0)
  else (parseF64 (trim value)).mapError fun _ =>
    "existing time card hours value is not numeric: " ++ trim value

/-- `is_owned_by`. -/
def isOwnedBy (card : HoursCard) (userSysId : String) : Bool :=
  trim card.userSysId ≠ "" && card.userSysId = trim userSysId

/-- `ensure_timecard_write_allowed`. -/
def ensureTimecardWriteAllowed (card : HoursCard) (actorSysId : String) : Except String Unit :=
  if !isOwnedBy card actorSysId then
    .error ("time card " ++ card.sysId ++ " belongs to user " ++ card.userSysId ++
      ", not the authenticated user")
  else if !isEditableState card.state then
    .error ("time card sheet is " ++ card.state ++ "; recall it in the portal to edit")
  else .ok ()

/-- The value that `set_timecard_hours` writes. -/
def writeValue (card : HoursCard) (day : Weekday) (hours : TimeValue) :
    SetMode → Except String TimeValue
  | .set => .ok hours
  | .add => do
    let current ← parseExistingHours (card.dayHours day)
    TimeValue.fromHours (current.add (← hours.toF64))

/-- `WriteService::set_timecard_hours` with the hours of a request, as far as the value that is sent
to ServiceNow. -/
def setTimecardHours (card : HoursCard) (input : SetHoursInput) (actorSysId : String) :
    Except String TimeValue := do
  let hours ← (TimeValue.parse input.hours).mapError fun _ => "hours"
  ensureTimecardWriteAllowed card actorSysId
  writeValue card input.day hours input.mode

/-! ## What the preview promises -/

/-- **A faithful preview**: there is a plan exactly if there is a value to write, and the planned
text, the text on every receipt of the plan and the text that is sent are the same. -/
structure FaithfulPreview (planId : String) (card : HoursCard) (input : SetHoursInput)
    (actor : String) : Prop where
  accepts : (∃ plan, planSetHours sha256 planId card input actor = .ok plan) ↔
    ∃ value, setTimecardHours card input actor = .ok value
  text : ∀ plan value, planSetHours sha256 planId card input actor = .ok plan →
    setTimecardHours card input actor = .ok value →
    ∃ planned, PlannedTimecardSetHours.fromPlan plan = .ok planned ∧ planned.toHours = value.text ∧
      ∀ call auditId startedAt completedAt written,
        (receiptForCard call planned auditId startedAt completedAt written).changedFields.map
          FieldChange.after = [some (.string value.text)]

/-! ## Texts of hours -/

/-- The text of a number of hundredths. -/
def hundredths (n : ℕ) : String := String.ofList (trimZeros (places n))

theorem hundredths_inj {m n : ℕ} : hundredths m = hundredths n ↔ m = n := by
  rw [hundredths, hundredths, String.ofList_inj, trimZeros_places_inj]

theorem isWhitespace_hundredths {n : ℕ} :
    ∀ c ∈ trimZeros (places n), isWhitespace c = false := by
  intro c hc
  rw [trimZeros_places, List.mem_append] at hc
  rcases hc with hc | hc
  · exact isWhitespace_digit (isDigit_whole c hc)
  · split at hc
    · cases hc
    · rcases List.mem_cons.mp hc with rfl | hc
      · decide
      · exact isWhitespace_digit (isDigit_lastPlaces c hc)

theorem trim_hundredths (n : ℕ) : trim (hundredths n) = hundredths n := by
  rw [trim, hundredths, String.toList_ofList]
  exact congrArg String.ofList (Trimming.trimmed_of_forall isWhitespace_hundredths)

theorem parseF64_hundredths (n : ℕ) : parseF64 (hundredths n) = .ok (.finite ((n : ℚ) / 100)) := by
  rw [parseF64, hundredths, String.toList_ofList, parse_places]

theorem hundredths_ne_minus_zero (n : ℕ) : hundredths n ≠ "-0" := by
  intro h
  obtain ⟨c, cs, hcs, hdigit⟩ := exists_cons_places n
  have hlist := congrArg String.toList h
  rw [hundredths, String.toList_ofList, hcs] at hlist
  rw [(List.cons.inj hlist).1] at hdigit
  exact absurd hdigit (by decide)

/-- A number that is not negative, rounded. -/
theorem shortened_of_nonneg {x : ℚ} (hx : 0 ≤ x) :
    shortened x = hundredths (roundEven (100 * x)).natAbs := by
  rw [shortened, fixed, if_neg (not_lt.mpr hx)]
  rfl

theorem normalizeHours_of_nonneg {x : ℚ} (hx : 0 ≤ x) :
    normalizeHours x = hundredths (roundAway (100 * x)).natAbs := by
  have hround := roundAway_nonneg (x := x * 100) (by positivity)
  have hcast : 100 * ((roundAway (x * 100) : ℚ) / 100) = ((roundAway (x * 100)).natAbs : ℕ) := by
    rw [Nat.cast_natAbs, abs_of_nonneg hround]
    ring
  have hnonneg : (0 : ℚ) ≤ roundAway (x * 100) / 100 := by
    have : (0 : ℚ) ≤ roundAway (x * 100) := by exact_mod_cast hround
    positivity
  have htext : shortened (roundAway (x * 100) / 100) = hundredths (roundAway (100 * x)).natAbs := by
    rw [shortened_of_nonneg hnonneg, hcast, roundEven_natCast, Int.natAbs_natCast, mul_comm x]
  rw [normalizeHours, htext]
  exact if_neg (hundredths_ne_minus_zero _)

theorem parseHoursF64_eq_ok_iff {value : String} {h : ℚ} : parseHoursF64 value = .ok h ↔
    parseF64 (trim value) = .ok (.finite h) ∧ 0 ≤ h ∧ h ≤ 24 := by
  rw [parseHoursF64, bind_eq_ok_iff]
  constructor
  · rintro ⟨number, hnumber, hbound⟩
    rcases number with x | _
    · replace hbound : (if 0 ≤ x ∧ x ≤ 24 then Except.ok x else .error "value_constrained") = .ok h :=
        hbound
      by_cases hx : 0 ≤ x ∧ x ≤ 24
      · rw [if_pos hx] at hbound
        obtain rfl := Except.ok.inj hbound
        exact ⟨hnumber, hx⟩
      · rw [if_neg hx] at hbound
        cases hbound
    · cases hbound
  · rintro ⟨hnumber, hx⟩
    exact ⟨_, hnumber, if_pos hx⟩

theorem parseHoursF64_hundredths {n : ℕ} (hn : n ≤ 2400) :
    parseHoursF64 (hundredths n) = .ok ((n : ℚ) / 100) := by
  have hcast : (n : ℚ) ≤ 2400 := by exact_mod_cast hn
  rw [parseHoursF64_eq_ok_iff, trim_hundredths, parseF64_hundredths]
  exact ⟨rfl, by positivity, by linarith⟩

/-! ## What each side accepts -/

variable {value : TimeValue}

theorem shortened_in_day {x : ℚ} (hx : 0 ≤ x) (hday : x ≤ 24) :
    ∃ n : ℕ, shortened x = hundredths n ∧ n ≤ 2400 ∧ (n : ℤ) = roundEven (100 * x) := by
  have hround := roundEven_nonneg (x := 100 * x) (by positivity)
  have hle := roundEven_le (x := 100 * x) (n := 2400) (by push_cast; linarith)
  exact ⟨_, shortened_of_nonneg hx, by omega, Int.natAbs_of_nonneg hround⟩

theorem parseF64_normalizeHours {x : ℚ} (hx : 0 ≤ x) :
    parseF64 (normalizeHours x) = .ok (.finite ((roundAway (100 * x) : ℚ) / 100)) := by
  have hround := roundAway_nonneg (x := 100 * x) (by positivity)
  rw [normalizeHours_of_nonneg hx, parseF64_hundredths, Nat.cast_natAbs, abs_of_nonneg hround]

namespace TimeValue

theorem fromHours_eq_ok_iff {number : F64} :
    fromHours number = .ok value ↔
      ∃ x, number = .finite x ∧ 0 ≤ x ∧ x ≤ 24 ∧ value = ⟨normalizeHours x⟩ := by
  rcases number with x | _
  · rw [fromHours]
    split_ifs with hneg hover
    · refine ⟨fun h => (by cases h), ?_⟩
      rintro ⟨y, heq, hy, -⟩
      rw [← F64.finite.inj heq] at hy
      exact absurd hneg (not_lt.mpr hy)
    · refine ⟨fun h => (by cases h), ?_⟩
      rintro ⟨y, heq, -, hy, -⟩
      rw [← F64.finite.inj heq] at hy
      exact absurd hover (not_lt.mpr hy)
    · constructor
      · intro h
        exact ⟨x, rfl, not_lt.mp hneg, not_lt.mp hover, (Except.ok.inj h).symm⟩
      · rintro ⟨y, heq, -, -, rfl⟩
        rw [F64.finite.inj heq]
  · refine ⟨fun h => (by cases h), ?_⟩
    rintro ⟨y, heq, -⟩
    cases heq

/-- A text is a `TimeValue` exactly if the preview reads it. -/
theorem parse_eq_ok_iff {input : String} :
    TimeValue.parse input = .ok value ↔
      ∃ x, parseHoursF64 input = .ok x ∧ value = ⟨normalizeHours x⟩ := by
  rw [TimeValue.parse]
  by_cases hblank : trim input = ""
  · rw [if_pos hblank]
    refine ⟨fun h => (by cases h), ?_⟩
    rintro ⟨x, hx, -⟩
    rw [parseHoursF64_eq_ok_iff, hblank] at hx
    have hempty : parseF64 "" = .error "cannot parse float from empty string" := rfl
    rw [hempty] at hx
    cases hx.1
  · rw [if_neg hblank, bind_eq_ok_iff]
    constructor
    · rintro ⟨number, hnumber, hvalue⟩
      rw [mapError_eq_ok_iff] at hnumber
      obtain ⟨x, rfl, hx, hday, rfl⟩ := fromHours_eq_ok_iff.mp hvalue
      exact ⟨x, parseHoursF64_eq_ok_iff.mpr ⟨hnumber, hx, hday⟩, rfl⟩
    · rintro ⟨x, hx, rfl⟩
      obtain ⟨hnumber, hx, hday⟩ := parseHoursF64_eq_ok_iff.mp hx
      exact ⟨_, mapError_eq_ok_iff.mpr hnumber, fromHours_eq_ok_iff.mpr ⟨x, rfl, hx, hday, rfl⟩⟩

end TimeValue

theorem previewToHours_set {fromHours hours toHours : String} :
    previewToHours fromHours hours .set = .ok toHours ↔
      ∃ h, parseHoursF64 hours = .ok h ∧ toHours = shortened h := by
  rw [previewToHours, bind_eq_ok_iff]
  constructor
  · rintro ⟨h, hh, hto⟩
    obtain ⟨-, hbound⟩ := parseHoursF64_eq_ok_iff.mp hh
    obtain ⟨value, hvalue, hto⟩ := bind_eq_ok_iff.mp hto
    obtain rfl := Except.ok.inj hvalue
    rw [if_pos hbound] at hto
    exact ⟨h, hh, (Except.ok.inj hto).symm⟩
  · rintro ⟨h, hh, rfl⟩
    obtain ⟨-, hbound⟩ := parseHoursF64_eq_ok_iff.mp hh
    exact ⟨h, hh, bind_eq_ok_iff.mpr ⟨h, rfl, if_pos hbound⟩⟩

theorem previewToHours_add {fromHours hours toHours : String} :
    previewToHours fromHours hours .add = .ok toHours ↔
      ∃ f h, parseHoursF64 fromHours = .ok f ∧ parseHoursF64 hours = .ok h ∧ f + h ≤ 24 ∧
        toHours = shortened (f + h) := by
  rw [previewToHours, bind_eq_ok_iff]
  constructor
  · rintro ⟨h, hh, hto⟩
    obtain ⟨value, hvalue, hto⟩ := bind_eq_ok_iff.mp hto
    obtain ⟨f, hf, hsum⟩ := bind_eq_ok_iff.mp hvalue
    obtain rfl := Except.ok.inj hsum
    by_cases hbound : 0 ≤ f + h ∧ f + h ≤ 24
    · rw [if_pos hbound] at hto
      exact ⟨f, h, hf, hh, hbound.2, (Except.ok.inj hto).symm⟩
    · rw [if_neg hbound] at hto
      cases hto
  · rintro ⟨f, h, hf, hh, hday, rfl⟩
    have hf' := (parseHoursF64_eq_ok_iff.mp hf).2.1
    have hh' := (parseHoursF64_eq_ok_iff.mp hh).2.1
    exact ⟨h, hh, bind_eq_ok_iff.mpr ⟨f + h, bind_eq_ok_iff.mpr ⟨f, hf, rfl⟩,
      if_pos ⟨add_nonneg hf' hh', hday⟩⟩⟩

/-- A sum of what is read exists exactly if everything is read. -/
theorem foldlM_eq_ok_iff {α : Type} {read : α → Except String ℚ} {l : List α} (start : ℚ) :
    (∃ total, l.foldlM (fun (total : ℚ) a => do return total + (← read a)) start = .ok total) ↔
      ∀ a ∈ l, ∃ x, read a = .ok x := by
  induction l generalizing start with
  | nil => exact ⟨fun _ a ha => absurd ha List.not_mem_nil, fun _ => ⟨start, rfl⟩⟩
  | cons a l ih =>
    rw [List.forall_mem_cons]
    constructor
    · rintro ⟨total, htotal⟩
      rw [List.foldlM_cons] at htotal
      obtain ⟨sum, hsum, hrest⟩ := bind_eq_ok_iff.mp htotal
      obtain ⟨x, hx, -⟩ := bind_eq_ok_iff.mp hsum
      exact ⟨⟨x, hx⟩, (ih sum).mp ⟨total, hrest⟩⟩
    · rintro ⟨⟨x, hx⟩, hrest⟩
      obtain ⟨total, htotal⟩ := (ih (start + x)).mpr hrest
      refine ⟨total, ?_⟩
      rw [List.foldlM_cons]
      exact bind_eq_ok_iff.mpr ⟨start + x, bind_eq_ok_iff.mpr ⟨x, hx, rfl⟩, htotal⟩

/-- The other days of a card have hours of a day. -/
def OtherDays (card : HoursCard) (day : Weekday) : Prop :=
  ∀ index ≠ day.index, ∃ x, parseHoursF64 card.hours[index] = .ok x

variable {day : Weekday}

theorem previewTotalAfter_ok_iff {card : HoursCard} {x : ℚ} (hx : 0 ≤ x) (hday : x ≤ 24) :
    (∃ total, previewTotalAfter card day (shortened x) = .ok total) ↔ OtherDays card day := by
  obtain ⟨n, hn, hbound, -⟩ := shortened_in_day hx hday
  have hall : (∃ total, previewTotalAfter card day (shortened x) = .ok total) ↔
      ∀ index ∈ List.finRange 7,
        ∃ y, parseHoursF64 (hoursAfter card day (shortened x) index) = .ok y := by
    rw [← foldlM_eq_ok_iff 0]
    constructor
    · rintro ⟨total, htotal⟩
      obtain ⟨sum, hsum, -⟩ := bind_eq_ok_iff.mp htotal
      exact ⟨sum, hsum⟩
    · rintro ⟨sum, hsum⟩
      exact ⟨trimDecimal sum, bind_eq_ok_iff.mpr ⟨sum, hsum, rfl⟩⟩
  rw [hall]
  constructor
  · intro h index hindex
    have hother := h index (List.mem_finRange index)
    rwa [hoursAfter, if_neg hindex] at hother
  · intro h index hmem
    rw [hoursAfter]
    by_cases hindex : index = day.index
    · rw [if_pos hindex, hn]
      exact ⟨_, parseHoursF64_hundredths hbound⟩
    · rw [if_neg hindex]
      exact h index hindex

/-! ## Both guards -/

/-- The `sys_id` of a user, as ServiceNow gives it. -/
structure UserSysId where
  text : String
  trimmed : trim text = text
  nonempty : text ≠ ""

/-- The card is the user's, and open for changes. -/
def MayWrite (card : HoursCard) (actor : UserSysId) : Prop :=
  card.userSysId = actor.text ∧ isEditableState card.state = true

variable {actor : UserSysId}

theorem ensureTimecardWriteAllowed_ok_iff {card : HoursCard} :
    ensureTimecardWriteAllowed card actor.text = .ok () ↔ MayWrite card actor := by
  have howned : isOwnedBy card actor.text = true ↔ card.userSysId = actor.text := by
    rw [isOwnedBy, actor.trimmed, Bool.and_eq_true, decide_eq_true_eq, decide_eq_true_eq]
    constructor
    · exact fun h => h.2
    · intro h
      refine ⟨?_, h⟩
      rw [h, actor.trimmed]
      exact actor.nonempty
  rw [ensureTimecardWriteAllowed, MayWrite, ← howned]
  rcases isOwnedBy card actor.text with _ | _
  · simp
  · rcases isEditableState card.state with _ | _
    · simp
    · simp

variable {sha256 : Sha256} {planId : String}

theorem fieldName_day (day : Weekday) : dayFields.contains day.fieldName = true := by
  cases day <;> decide

variable {toHours : String}

theorem timecardInScope_ok_iff {card : HoursCard} {input : SetHoursInput} :
    timecardInScope sha256 card.toTimeCard (plannedOf sha256 card input actor.text toHours) = .ok () ↔
      MayWrite card actor := by
  rw [timecardInScope, MayWrite]
  show (if !dayFields.contains input.dayField then _ else _) = _ ↔ _
  rw [input.fielded, fieldName_day]
  by_cases huser : card.userSysId = actor.text
  · rcases hstate : isEditableState card.state with _ | _
    · simp [huser, plannedOf]
    · simp [huser, plannedOf]
  · simp [huser, plannedOf]

/-- What is planned is read back from the plan. -/
theorem fromPlan_build {card : HoursCard} {input : SetHoursInput}
    {actorUserSysId toHours totalAfter : String} :
    PlannedTimecardSetHours.fromPlan (.build sha256 planId timecardPlanTool (some (planTarget card))
      (plannedChanges sha256 card input actorUserSysId toHours totalAfter)) =
        .ok (plannedOf sha256 card input actorUserSysId toHours) := by
  have hmode : parseMode (modeName input.mode) = .ok input.mode := by
    cases input.mode <;> rfl
  have hobject : ∃ object,
      (plannedChanges sha256 card input actorUserSysId toHours totalAfter).asObject = some object ∧
      stringValue object "day" = .ok input.dayName ∧
      stringValue object "card_sys_id" = .ok card.sysId ∧
      stringValue object "day_field" = .ok input.dayField ∧
      stringValue object "hours" = .ok input.hours ∧
      stringValue object "mode" = .ok (modeName input.mode) ∧
      stringValue object "from" = .ok (card.dayHours input.day) ∧
      stringValue object "to" = .ok toHours ∧
      stringValue object "actor_user_sys_id" = .ok actorUserSysId ∧
      stringValue object "card_fingerprint" = .ok (cardFingerprint sha256 card.toTimeCard) := by
    refine ⟨_, rfl, ?_, ?_, ?_, ?_, ?_, ?_, ?_, ?_, ?_⟩ <;>
      rw [stringValue, lookup_foldl_insert] <;> rfl
  obtain ⟨object, hobject, hday, hcard, hfield, hhours, hmodeName, hfrom, hto, hactor, hprint⟩ :=
    hobject
  rw [PlannedTimecardSetHours.fromPlan, OperationPlan.build, hobject]
  simp only [hday, hcard, hfield, hhours, hmodeName, hfrom, hto, hactor, hprint, bind, Except.bind,
    input.named, hmode]
  rfl

theorem planSetHours_eq_ok_iff {card : HoursCard} {input : SetHoursInput} {plan : OperationPlan} :
    planSetHours sha256 planId card input actor.text = .ok plan ↔ MayWrite card actor ∧
      ∃ toHours totalAfter,
        previewToHours (card.dayHours input.day) input.hours input.mode = .ok toHours ∧
        previewTotalAfter card input.day toHours = .ok totalAfter ∧
        plan = .build sha256 planId timecardPlanTool (some (planTarget card))
          (plannedChanges sha256 card input actor.text toHours totalAfter) := by
  rw [planSetHours, bind_eq_ok_iff]
  constructor
  · rintro ⟨_, hscope, h⟩
    obtain ⟨toHours, hto, h⟩ := bind_eq_ok_iff.mp h
    obtain ⟨totalAfter, htotal, h⟩ := bind_eq_ok_iff.mp h
    exact ⟨timecardInScope_ok_iff.mp (mapError_eq_ok_iff.mp hscope), toHours, totalAfter,
      mapError_eq_ok_iff.mp hto, mapError_eq_ok_iff.mp htotal, (Except.ok.inj h).symm⟩
  · rintro ⟨hmay, toHours, totalAfter, hto, htotal, rfl⟩
    exact ⟨(), mapError_eq_ok_iff.mpr (timecardInScope_ok_iff.mpr hmay),
      bind_eq_ok_iff.mpr ⟨toHours, mapError_eq_ok_iff.mpr hto,
        bind_eq_ok_iff.mpr ⟨totalAfter, mapError_eq_ok_iff.mpr htotal, rfl⟩⟩⟩

theorem setTimecardHours_eq_ok_iff {card : HoursCard} {input : SetHoursInput} :
    setTimecardHours card input actor.text = .ok value ↔ MayWrite card actor ∧
      ∃ h, parseHoursF64 input.hours = .ok h ∧
        writeValue card input.day ⟨normalizeHours h⟩ input.mode = .ok value := by
  rw [setTimecardHours, bind_eq_ok_iff]
  constructor
  · rintro ⟨hours, hhours, hrest⟩
    obtain ⟨⟨⟩, hallowed, hvalue⟩ := bind_eq_ok_iff.mp hrest
    obtain ⟨h, hh, rfl⟩ := TimeValue.parse_eq_ok_iff.mp (mapError_eq_ok_iff.mp hhours)
    exact ⟨ensureTimecardWriteAllowed_ok_iff.mp hallowed, h, hh, hvalue⟩
  · rintro ⟨hmay, h, hh, hvalue⟩
    exact ⟨_, mapError_eq_ok_iff.mpr (TimeValue.parse_eq_ok_iff.mpr ⟨h, hh, rfl⟩),
      bind_eq_ok_iff.mpr ⟨(), ensureTimecardWriteAllowed_ok_iff.mpr hmay, hvalue⟩⟩

/-- What is written when hours are added. -/
theorem writeValue_add {card : HoursCard} {h : ℚ} (hh : 0 ≤ h) :
    writeValue card day ⟨normalizeHours h⟩ .add = .ok value ↔
      ∃ f, parseExistingHours (card.dayHours day) = .ok (.finite f) ∧
        0 ≤ f + (roundAway (100 * h) : ℚ) / 100 ∧ f + (roundAway (100 * h) : ℚ) / 100 ≤ 24 ∧
        value = ⟨normalizeHours (f + (roundAway (100 * h) : ℚ) / 100)⟩ := by
  have htext : (TimeValue.mk (normalizeHours h)).toF64 =
      .ok (.finite ((roundAway (100 * h) : ℚ) / 100)) := by
    rw [TimeValue.toF64, parseF64_normalizeHours hh]
    rfl
  rw [writeValue, bind_eq_ok_iff]
  constructor
  · rintro ⟨current, hcurrent, hvalue⟩
    obtain ⟨number, hnumber, hvalue⟩ := bind_eq_ok_iff.mp hvalue
    rw [htext] at hnumber
    obtain rfl := Except.ok.inj hnumber
    obtain ⟨x, hx, hnonneg, hday, rfl⟩ := TimeValue.fromHours_eq_ok_iff.mp hvalue
    rcases current with f | _
    · obtain rfl := F64.finite.inj hx
      exact ⟨f, hcurrent, hnonneg, hday, rfl⟩
    · cases hx
  · rintro ⟨f, hcurrent, hnonneg, hday, rfl⟩
    exact ⟨.finite f, hcurrent, bind_eq_ok_iff.mpr ⟨_, htext,
      TimeValue.fromHours_eq_ok_iff.mpr ⟨_, rfl, hnonneg, hday, rfl⟩⟩⟩

/-! ## When the preview is faithful -/

/-- The hundredths of hours, halves away from zero. -/
def roundedHours (h : ℚ) : ℚ := roundAway (100 * h) / 100

/-- Hours that are set as they are previewed: the other days have hours of a day, and the hours are
not a half behind an even number of hundredths. -/
structure SetsAlike (card : HoursCard) (day : Weekday) (h : ℚ) : Prop where
  others : OtherDays card day
  half : Int.fract (100 * h) = 1 / 2 → ⌊100 * h⌋ % 2 = 1

/-- Hours that are added as they are previewed.  To hours of a day, beside other days with such, the
hours fit if their hundredths do, and what is behind the hundredths of both rounds alike; and if their
hundredths fit what a day is read to have, all days have hours of a day. -/
structure AddsAlike (card : HoursCard) (day : Weekday) (h : ℚ) : Prop where
  fits : OtherDays card day → ∀ f, parseHoursF64 (card.dayHours day) = .ok f →
    (f + h ≤ 24 ↔ f + roundedHours h ≤ 24)
  rounds : OtherDays card day → ∀ f, parseHoursF64 (card.dayHours day) = .ok f → f + h ≤ 24 →
    RoundsAlike (100 * f) (100 * h)
  readable : ∀ f, parseExistingHours (card.dayHours day) = .ok (.finite f) →
    0 ≤ f + roundedHours h → f + roundedHours h ≤ 24 →
    OtherDays card day ∧ parseHoursF64 (card.dayHours day) = .ok f

/-- Hours that are changed as they are previewed. -/
def ChangesAlike (card : HoursCard) (day : Weekday) (h : ℚ) : SetMode → Prop
  | .set => SetsAlike card day h
  | .add => AddsAlike card day h

/-- What is previewed of a request that is in scope. -/
def Previewed (card : HoursCard) (input : SetHoursInput) (toHours : String) : Prop :=
  previewToHours (card.dayHours input.day) input.hours input.mode = .ok toHours ∧
    ∃ totalAfter, previewTotalAfter card input.day toHours = .ok totalAfter

/-- What is written of a request that is in scope. -/
def Written (card : HoursCard) (input : SetHoursInput) (value : TimeValue) : Prop :=
  ∃ h, parseHoursF64 input.hours = .ok h ∧
    writeValue card input.day ⟨normalizeHours h⟩ input.mode = .ok value

variable {card : HoursCard} {input : SetHoursInput}

theorem faithfulPreview_iff :
    FaithfulPreview sha256 planId card input actor.text ↔
      (MayWrite card actor → ((∃ toHours, Previewed card input toHours) ↔
          ∃ value, Written card input value) ∧
        ∀ toHours value, Previewed card input toHours → Written card input value →
          toHours = value.text) := by
  constructor
  · intro hfaithful hmay
    refine ⟨⟨?_, ?_⟩, ?_⟩
    · rintro ⟨toHours, hto, totalAfter, htotal⟩
      obtain ⟨value, hvalue⟩ := hfaithful.accepts.mp
        ⟨_, planSetHours_eq_ok_iff.mpr ⟨hmay, toHours, totalAfter, hto, htotal, rfl⟩⟩
      exact ⟨value, (setTimecardHours_eq_ok_iff.mp hvalue).2⟩
    · rintro ⟨value, hvalue⟩
      obtain ⟨plan, hplan⟩ := hfaithful.accepts.mpr
        ⟨value, setTimecardHours_eq_ok_iff.mpr ⟨hmay, hvalue⟩⟩
      obtain ⟨-, toHours, totalAfter, hto, htotal, -⟩ := planSetHours_eq_ok_iff.mp hplan
      exact ⟨toHours, hto, totalAfter, htotal⟩
    · rintro toHours value ⟨hto, totalAfter, htotal⟩ hvalue
      obtain ⟨planned, hplanned, htext, -⟩ := hfaithful.text _ value
        (planSetHours_eq_ok_iff.mpr ⟨hmay, toHours, totalAfter, hto, htotal, rfl⟩)
        (setTimecardHours_eq_ok_iff.mpr ⟨hmay, hvalue⟩)
      rw [fromPlan_build] at hplanned
      rw [← htext, ← Except.ok.inj hplanned]
      rfl
  · intro h
    refine ⟨⟨?_, ?_⟩, ?_⟩
    · rintro ⟨plan, hplan⟩
      obtain ⟨hmay, toHours, totalAfter, hto, htotal, -⟩ := planSetHours_eq_ok_iff.mp hplan
      obtain ⟨value, hvalue⟩ := (h hmay).1.mp ⟨toHours, hto, totalAfter, htotal⟩
      exact ⟨value, setTimecardHours_eq_ok_iff.mpr ⟨hmay, hvalue⟩⟩
    · rintro ⟨value, hvalue⟩
      obtain ⟨hmay, hwritten⟩ := setTimecardHours_eq_ok_iff.mp hvalue
      obtain ⟨toHours, hto, totalAfter, htotal⟩ := (h hmay).1.mpr ⟨value, hwritten⟩
      exact ⟨_, planSetHours_eq_ok_iff.mpr ⟨hmay, toHours, totalAfter, hto, htotal, rfl⟩⟩
    · intro plan value hplan hvalue
      obtain ⟨hmay, hwritten⟩ := setTimecardHours_eq_ok_iff.mp hvalue
      obtain ⟨-, toHours, totalAfter, hto, htotal, rfl⟩ := planSetHours_eq_ok_iff.mp hplan
      have htext := (h hmay).2 toHours value ⟨hto, totalAfter, htotal⟩ hwritten
      refine ⟨_, fromPlan_build, htext, ?_⟩
      intro call auditId startedAt completedAt written
      rw [← htext]
      rfl

/-- The same text is previewed and written exactly if both round alike. -/
theorem shortened_eq_normalizeHours_iff {x y : ℚ} (hx : 0 ≤ x) (hy : 0 ≤ y) :
    shortened x = normalizeHours y ↔ roundEven (100 * x) = roundAway (100 * y) := by
  have hround := roundEven_nonneg (x := 100 * x) (by positivity)
  have hround' := roundAway_nonneg (x := 100 * y) (by positivity)
  rw [shortened_of_nonneg hx, normalizeHours_of_nonneg hy, hundredths_inj]
  omega

theorem previewed_set (hmode : input.mode = .set) :
    Previewed card input toHours ↔
      ∃ h, parseHoursF64 input.hours = .ok h ∧ toHours = shortened h ∧ OtherDays card input.day := by
  rw [Previewed, hmode, previewToHours_set]
  constructor
  · rintro ⟨⟨h, hh, rfl⟩, htotal⟩
    obtain ⟨-, hnonneg, hday⟩ := parseHoursF64_eq_ok_iff.mp hh
    exact ⟨h, hh, rfl, (previewTotalAfter_ok_iff hnonneg hday).mp htotal⟩
  · rintro ⟨h, hh, rfl, hothers⟩
    obtain ⟨-, hnonneg, hday⟩ := parseHoursF64_eq_ok_iff.mp hh
    exact ⟨⟨h, hh, rfl⟩, (previewTotalAfter_ok_iff hnonneg hday).mpr hothers⟩

theorem previewed_add (hmode : input.mode = .add) :
    Previewed card input toHours ↔ ∃ f h, parseHoursF64 (card.dayHours input.day) = .ok f ∧
      parseHoursF64 input.hours = .ok h ∧ f + h ≤ 24 ∧ toHours = shortened (f + h) ∧
      OtherDays card input.day := by
  rw [Previewed, hmode, previewToHours_add]
  constructor
  · rintro ⟨⟨f, h, hf, hh, hday, rfl⟩, htotal⟩
    have hnonneg := add_nonneg (parseHoursF64_eq_ok_iff.mp hf).2.1 (parseHoursF64_eq_ok_iff.mp hh).2.1
    exact ⟨f, h, hf, hh, hday, rfl, (previewTotalAfter_ok_iff hnonneg hday).mp htotal⟩
  · rintro ⟨f, h, hf, hh, hday, rfl, hothers⟩
    have hnonneg := add_nonneg (parseHoursF64_eq_ok_iff.mp hf).2.1 (parseHoursF64_eq_ok_iff.mp hh).2.1
    exact ⟨⟨f, h, hf, hh, hday, rfl⟩, (previewTotalAfter_ok_iff hnonneg hday).mpr hothers⟩

theorem written_set (hmode : input.mode = .set) :
    Written card input value ↔
      ∃ h, parseHoursF64 input.hours = .ok h ∧ value = ⟨normalizeHours h⟩ := by
  rw [Written, hmode]
  constructor
  · rintro ⟨h, hh, hvalue⟩
    exact ⟨h, hh, (Except.ok.inj hvalue).symm⟩
  · rintro ⟨h, hh, rfl⟩
    exact ⟨h, hh, rfl⟩

theorem written_add (hmode : input.mode = .add) :
    Written card input value ↔ ∃ f h, parseExistingHours (card.dayHours input.day) = .ok (.finite f) ∧
      parseHoursF64 input.hours = .ok h ∧ 0 ≤ f + roundedHours h ∧ f + roundedHours h ≤ 24 ∧
      value = ⟨normalizeHours (f + roundedHours h)⟩ := by
  rw [Written, hmode]
  constructor
  · rintro ⟨h, hh, hvalue⟩
    obtain ⟨f, hf, hrest⟩ := (writeValue_add (parseHoursF64_eq_ok_iff.mp hh).2.1).mp hvalue
    exact ⟨f, h, hf, hh, hrest⟩
  · rintro ⟨f, h, hf, hh, hrest⟩
    exact ⟨h, hh, (writeValue_add (parseHoursF64_eq_ok_iff.mp hh).2.1).mpr ⟨f, hf, hrest⟩⟩

/-- Hours of a day are read as what a day has. -/
theorem parseExistingHours_of_parse {value : String} {f : ℚ} (h : parseHoursF64 value = .ok f) :
    parseExistingHours value = .ok (.finite f) := by
  obtain ⟨hnumber, -, -⟩ := parseHoursF64_eq_ok_iff.mp h
  have hne : trim value ≠ "" := by
    intro hblank
    have hempty : parseF64 "" = .error "cannot parse float from empty string" := rfl
    rw [hblank, hempty] at hnumber
    cases hnumber
  rw [parseExistingHours, if_neg hne]
  exact mapError_eq_ok_iff.mpr hnumber

theorem alike_set {h : ℚ} (hmode : input.mode = .set) (hh : parseHoursF64 input.hours = .ok h) :
    (((∃ toHours, Previewed card input toHours) ↔ ∃ value, Written card input value) ∧
      ∀ toHours value, Previewed card input toHours → Written card input value →
        toHours = value.text) ↔ SetsAlike card input.day h := by
  have hnonneg := (parseHoursF64_eq_ok_iff.mp hh).2.1
  have hunique : ∀ h', parseHoursF64 input.hours = .ok h' → h' = h := by
    intro h' hh'
    exact Except.ok.inj (hh'.symm.trans hh)
  have hwritten : Written card input ⟨normalizeHours h⟩ := (written_set hmode).mpr ⟨h, hh, rfl⟩
  have hhalf : shortened h = normalizeHours h ↔ (Int.fract (100 * h) = 1 / 2 → ⌊100 * h⌋ % 2 = 1) := by
    rw [shortened_eq_normalizeHours_iff hnonneg hnonneg, roundEven_eq_roundAway_iff (by positivity)]
  constructor
  · rintro ⟨haccepts, htext⟩
    obtain ⟨toHours, hto⟩ := haccepts.mpr ⟨_, hwritten⟩
    obtain ⟨h', hh', rfl, hothers⟩ := (previewed_set hmode).mp hto
    obtain rfl := hunique h' hh'
    exact ⟨hothers, hhalf.mp (htext _ _ hto hwritten)⟩
  · intro halike
    refine ⟨⟨fun _ => ⟨_, hwritten⟩, fun _ => ?_⟩, ?_⟩
    · exact ⟨_, (previewed_set hmode).mpr ⟨h, hh, rfl, halike.others⟩⟩
    · intro toHours value hto hvalue
      obtain ⟨h', hh', rfl, -⟩ := (previewed_set hmode).mp hto
      obtain rfl := hunique h' hh'
      obtain ⟨h'', hh'', rfl⟩ := (written_set hmode).mp hvalue
      rw [hunique h'' hh'']
      exact hhalf.mpr halike.half

theorem alike_add {h : ℚ} (hmode : input.mode = .add) (hh : parseHoursF64 input.hours = .ok h) :
    (((∃ toHours, Previewed card input toHours) ↔ ∃ value, Written card input value) ∧
      ∀ toHours value, Previewed card input toHours → Written card input value →
        toHours = value.text) ↔ AddsAlike card input.day h := by
  have hnonneg := (parseHoursF64_eq_ok_iff.mp hh).2.1
  have hunique : ∀ h', parseHoursF64 input.hours = .ok h' → h' = h := by
    intro h' hh'
    exact Except.ok.inj (hh'.symm.trans hh)
  have hsame : ∀ f f', parseHoursF64 (card.dayHours input.day) = .ok f →
      parseExistingHours (card.dayHours input.day) = .ok (.finite f') → f' = f := by
    intro f f' hf hf'
    rw [parseExistingHours_of_parse hf] at hf'
    exact (F64.finite.inj (Except.ok.inj hf')).symm
  have hrounded : 0 ≤ roundedHours h := by
    have hround : (0 : ℚ) ≤ roundAway (100 * h) := by
      exact_mod_cast roundAway_nonneg (x := 100 * h) (by positivity)
    rw [roundedHours]
    positivity
  have htexts : ∀ f : ℚ, 0 ≤ f → (shortened (f + h) = normalizeHours (f + roundedHours h) ↔
      RoundsAlike (100 * f) (100 * h)) := by
    intro f hf
    rw [shortened_eq_normalizeHours_iff (add_nonneg hf hnonneg) (add_nonneg hf hrounded),
      ← roundEven_add_eq_iff (by positivity) (by positivity), roundedHours, mul_add, mul_add,
      mul_div_cancel₀ _ (by norm_num)]
  constructor
  · rintro ⟨haccepts, htext⟩
    have hfits : OtherDays card input.day → ∀ f, parseHoursF64 (card.dayHours input.day) = .ok f →
        (f + h ≤ 24 ↔ f + roundedHours h ≤ 24) := by
      intro hothers f hf
      have hf0 := (parseHoursF64_eq_ok_iff.mp hf).2.1
      constructor
      · intro hday
        obtain ⟨value, hvalue⟩ := haccepts.mp
          ⟨_, (previewed_add hmode).mpr ⟨f, h, hf, hh, hday, rfl, hothers⟩⟩
        obtain ⟨f', h', hf', hh', -, hfit, -⟩ := (written_add hmode).mp hvalue
        rwa [hsame f f' hf hf', hunique h' hh'] at hfit
      · intro hfit
        obtain ⟨toHours, hto⟩ := haccepts.mpr ⟨_, (written_add hmode).mpr
          ⟨f, h, parseExistingHours_of_parse hf, hh, add_nonneg hf0 hrounded, hfit, rfl⟩⟩
        obtain ⟨f', h', hf', hh', hday, -, -⟩ := (previewed_add hmode).mp hto
        rwa [Except.ok.inj (hf'.symm.trans hf), hunique h' hh'] at hday
    refine ⟨hfits, ?_, ?_⟩
    · intro hothers f hf hday
      have hf0 := (parseHoursF64_eq_ok_iff.mp hf).2.1
      exact (htexts f hf0).mp (htext _ _
        ((previewed_add hmode).mpr ⟨f, h, hf, hh, hday, rfl, hothers⟩)
        ((written_add hmode).mpr ⟨f, h, parseExistingHours_of_parse hf, hh,
          add_nonneg hf0 hrounded, (hfits hothers f hf).mp hday, rfl⟩))
    · intro f hf hge hfit
      obtain ⟨toHours, hto⟩ := haccepts.mpr
        ⟨_, (written_add hmode).mpr ⟨f, h, hf, hh, hge, hfit, rfl⟩⟩
      obtain ⟨f', h', hf', -, -, -, hothers⟩ := (previewed_add hmode).mp hto
      rw [hsame f' f hf' hf]
      exact ⟨hothers, hf'⟩
  · intro halike
    refine ⟨⟨?_, ?_⟩, ?_⟩
    · rintro ⟨toHours, hto⟩
      obtain ⟨f, h', hf, hh', hday, -, hothers⟩ := (previewed_add hmode).mp hto
      obtain rfl := hunique h' hh'
      have hf0 := (parseHoursF64_eq_ok_iff.mp hf).2.1
      exact ⟨_, (written_add hmode).mpr ⟨f, h', parseExistingHours_of_parse hf, hh',
        add_nonneg hf0 hrounded, (halike.fits hothers f hf).mp hday, rfl⟩⟩
    · rintro ⟨value, hvalue⟩
      obtain ⟨f, h', hf, hh', hge, hfit, -⟩ := (written_add hmode).mp hvalue
      obtain rfl := hunique h' hh'
      obtain ⟨hothers, hparse⟩ := halike.readable f hf hge hfit
      exact ⟨_, (previewed_add hmode).mpr
        ⟨f, h', hparse, hh', (halike.fits hothers f hparse).mpr hfit, rfl, hothers⟩⟩
    · intro toHours value hto hvalue
      obtain ⟨f, h', hf, hh', hday, rfl, hothers⟩ := (previewed_add hmode).mp hto
      obtain rfl := hunique h' hh'
      obtain ⟨f', h'', hf', hh'', -, -, rfl⟩ := (written_add hmode).mp hvalue
      rw [hsame f f' hf hf', hunique h'' hh'']
      exact (htexts f (parseHoursF64_eq_ok_iff.mp hf).2.1).mpr (halike.rounds hothers f hf hday)

/-- **When the preview is faithful**: the card may not be written, or the hours are not those of a
day, or they are changed as they are previewed. -/
theorem set_hours_preview_iff (sha256 : Sha256) (planId : String) (card : HoursCard)
    (input : SetHoursInput) (actor : UserSysId) :
    FaithfulPreview sha256 planId card input actor.text ↔
      (MayWrite card actor → ∀ h, parseHoursF64 input.hours = .ok h →
        ChangesAlike card input.day h input.mode) := by
  rw [faithfulPreview_iff]
  refine forall_congr' fun hmay => ?_
  by_cases hhours : ∃ h, parseHoursF64 input.hours = .ok h
  · obtain ⟨h, hh⟩ := hhours
    have hone : (∀ h', parseHoursF64 input.hours = .ok h' →
        ChangesAlike card input.day h' input.mode) ↔ ChangesAlike card input.day h input.mode := by
      constructor
      · exact fun hall => hall h hh
      · intro halike h' hh'
        rwa [Except.ok.inj (hh'.symm.trans hh)]
    rw [hone]
    rcases hmode : input.mode with _ | _
    · exact alike_set hmode hh
    · exact alike_add hmode hh
  · have hnone : ∀ h, parseHoursF64 input.hours ≠ .ok h := fun h hh => hhours ⟨h, hh⟩
    refine ⟨fun _ h hh => absurd hh (hnone h), fun _ => ?_⟩
    have hwritten : ∀ value, ¬ Written card input value := by
      rintro value ⟨h, hh, -⟩
      exact hnone h hh
    have hpreviewed : ∀ toHours, ¬ Previewed card input toHours := by
      rintro toHours ⟨hto, -⟩
      obtain ⟨h, hh, -⟩ := bind_eq_ok_iff.mp hto
      exact hnone h hh
    refine ⟨⟨?_, ?_⟩, ?_⟩
    · rintro ⟨toHours, hto⟩
      exact absurd hto (hpreviewed toHours)
    · rintro ⟨value, hvalue⟩
      exact absurd hvalue (hwritten value)
    · intro toHours value hto
      exact absurd hto (hpreviewed toHours)

/-- A user. -/
def cardOwner : UserSysId := ⟨"6816f79cc0a8016401c5a33be04be441", by decide +kernel, by decide⟩

/-- A card without hours. -/
def idleCard : HoursCard where
  sysId := "9d3c1b7f2f10201045db5ac2f699b6a0"
  weekStartsOn := "2026-05-17"
  userSysId := "6816f79cc0a8016401c5a33be04be441"
  task := none
  category := "task_work"
  projectTimeCategory := none
  state := "Pending"
  sysUpdatedOn := "2026-05-21 10:11:12"
  sysModCount := some 3
  json := .null
  hours := #v["0", "0", "0", "0", "0", "0", "0"]
  total := "0"

/-- Half a hundredth behind an even number of them, on a Monday. -/
def halfHundredth : SetHoursInput :=
  ⟨"9d3c1b7f2f10201045db5ac2f699b6a0", .mon, "mon", "monday", "7.125", .set, rfl, rfl⟩

/-- **Another text is sent than planned**: 7.12 is previewed of 7.125, and 7.13 is written. -/
theorem half_hundredth_differs :
    ¬ FaithfulPreview plainDigest "plan-1" idleCard halfHundredth cardOwner.text := by
  have hh : parseHoursF64 halfHundredth.hours = .ok (57 / 8) := by decide +kernel
  have hmay : MayWrite idleCard cardOwner := ⟨rfl, by decide +kernel⟩
  rw [faithfulPreview_iff]
  intro h
  have halike := (alike_set rfl hh).mp (h hmay)
  have hodd := halike.half (by decide +kernel)
  exact absurd hodd (by decide +kernel)

/-- The texts that are planned and written of it. -/
example : previewToHours "0" "7.125" .set = .ok "7.12" ∧
    TimeValue.parse "7.125" = .ok ⟨"7.13"⟩ := by
  decide +kernel

end TimecardWrite

end SnowAgent
