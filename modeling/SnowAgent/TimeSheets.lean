import SnowAgent.Chrono
import SnowAgent.RecordCache

/-! # The time sheet of a week

The core reads the latest time sheets of a user, at most 80 of them, and looks for the one whose
seven days contain a date.  When none does, it says that there is none only if an older sheet cannot
contain the date either: all sheets that it has read start on one weekday, and the week of the date
does not start before the oldest of them.
-/
namespace SnowAgent.TimeSheets

open Text Core Chrono

/-- The first bytes of a text, if it has so many and they end with a character. -/
def firstBytes (n : Nat) : List Char → Option (List Char)
  | [] => if n = 0 then some [] else none
  | c :: cs =>
    if n = 0 then some []
    else if c.utf8Size ≤ n then (firstBytes (n - c.utf8Size) cs).map (c :: ·)
    else none

/-- `parse_servicenow_date`, as the number of the day. -/
def parseServicenowDate (value : Option String) : Option Int :=
  value.bind fun value =>
    let value := trim value
    let date := ((firstBytes 10 value.toList).map String.ofList).getD value
    (parseDate date).map NaiveDate.numDaysFromCe

/-- `TimecardSheetResolution`. -/
inductive TimecardSheetResolution where
  | found (row : Record)
  | absent (weekStartsOn : Int)

section Lookup

variable (lib : CoreLib)

/-- The day on which the week of a sheet starts. -/
def weekStartsOn (row : Record) : Option Int :=
  parseServicenowDate (((row.getRaw "week_starts_on").orElse
    fun _ => row.getDisplay "week_starts_on").orElse fun _ => row.getStr lib "week_starts_on")

/-- `time_sheet_row_contains_date`. -/
def timeSheetRowContainsDate (row : Record) (date : Int) : Bool :=
  ((weekStartsOn lib row).map fun start => decide (start ≤ date ∧ date < start + 7)).getD false

/-- The week starts of all rows, if all can be read. -/
def weekStarts (rows : List Record) : Except String (List Int) :=
  rows.mapM fun row =>
    match weekStartsOn lib row with
    | some start => .ok start
    | none => .error "time sheet lookup has no valid week start anchor"

/-- `resolve_my_timecard_sheet_at`, of the rows that are read, for the date that a label tells of. -/
def resolveMyTimecardSheetAt (rows : List Record) (date : Int) (label : String) :
    Except String TimecardSheetResolution :=
  match rows.find? fun row => timeSheetRowContainsDate lib row date with
  | some row => .ok (.found row)
  | none => do
    let starts ← weekStarts lib rows
    match starts.head?.map numDaysFromSunday with
    | none => .error ("time sheet lookup has no week start anchor for " ++ label)
    | some anchor =>
      if starts.any fun start => numDaysFromSunday start ≠ anchor then
        .error ("time sheet lookup has inconsistent week start anchors for " ++ label)
      else
        let offset := (numDaysFromSunday date + 7 - anchor) % 7
        let targetStart := date - offset
        if 80 ≤ rows.length ∧ starts.min?.any fun oldest => targetStart < oldest then
          .error ("time sheet lookup horizon is ambiguous for " ++ label)
        else .ok (.absent targetStart)

/-- What the read of the latest sheets has to do with all sheets of the user: it has 80 of them, or
all, the latest first, and those it leaves out do not start later than any that it has. -/
structure LatestSheets (sheets rows : List Record) : Prop where
  limit : rows.length = min 80 sheets.length
  descending : rows.Pairwise fun a b =>
    ∀ start ∈ weekStartsOn lib a, ∀ start' ∈ weekStartsOn lib b, start' ≤ start
  older : ∃ rest, (rows ++ rest).Perm sheets ∧ ∀ row ∈ rows, ∀ sheet ∈ rest,
    ∀ start ∈ weekStartsOn lib row, ∀ start' ∈ weekStartsOn lib sheet, start' ≤ start

variable {lib} {sheets rows : List Record} {date : Int} {label : String} {row : Record}

theorem timeSheetRowContainsDate_iff :
    timeSheetRowContainsDate lib row date = true ↔
      ∃ start, weekStartsOn lib row = some start ∧ start ≤ date ∧ date < start + 7 := by
  unfold timeSheetRowContainsDate
  rcases hstart : weekStartsOn lib row with _ | start <;> simp

/-- The starts of rows that can all be read. -/
theorem mem_weekStarts {starts : List Int} (h : weekStarts lib rows = .ok starts) :
    rows.map (weekStartsOn lib) = starts.map some := by
  induction rows generalizing starts with
  | nil =>
    cases h
    rfl
  | cons row rest step =>
    unfold weekStarts at h
    rw [List.mapM_cons] at h
    rcases hstart : weekStartsOn lib row with _ | start
    · rw [hstart] at h
      cases h
    · rw [hstart] at h
      rcases hrest : weekStarts lib rest with reason | others
      · unfold weekStarts at hrest
        rw [hrest] at h
        cases h
      · have hmap := step hrest
        unfold weekStarts at hrest
        rw [hrest] at h
        cases h
        rw [List.map_cons, List.map_cons, hstart, hmap]

variable (lib) in
/-- What an answer that there is no sheet rests on. -/
structure AbsentFrom (rows : List Record) (starts : List Int) (date target : Int) : Prop where
  apart : ∀ row ∈ rows, timeSheetRowContainsDate lib row date = false
  read : rows.map (weekStartsOn lib) = starts.map some
  nonempty : starts ≠ []
  anchored : ∀ start ∈ starts, numDaysFromSunday start = numDaysFromSunday target
  week : date - 6 ≤ target ∧ target ≤ date
  horizon : 80 ≤ rows.length → ∃ oldest ∈ starts, oldest ≤ target

/-- A sheet is found among the rows. -/
theorem resolve_found (h : resolveMyTimecardSheetAt lib rows date label = .ok (.found row)) :
    row ∈ rows ∧ timeSheetRowContainsDate lib row date = true := by
  unfold resolveMyTimecardSheetAt at h
  split at h
  · rename_i found hfind
    cases h
    exact ⟨List.mem_of_find?_eq_some hfind, by simpa using List.find?_some hfind⟩
  · rcases hstarts : weekStarts lib rows with reason | starts
    · rw [hstarts] at h
      cases h
    · rw [hstarts] at h
      simp only [Bind.bind, Except.bind] at h
      split at h
      · cases h
      · split_ifs at h
        cases h

/-- No sheet is found when none of the rows contains the date, and all of them start on the weekday
of the week that is reported. -/
theorem resolve_absent {target : Int}
    (h : resolveMyTimecardSheetAt lib rows date label = .ok (.absent target)) :
    ∃ starts, AbsentFrom lib rows starts date target := by
  unfold resolveMyTimecardSheetAt at h
  split at h
  · cases h
  rename_i hfind
  rcases hstarts : weekStarts lib rows with reason | starts
  · rw [hstarts] at h
    cases h
  rw [hstarts] at h
  simp only [Bind.bind, Except.bind] at h
  split at h
  · cases h
  rename_i anchor hanchor
  obtain ⟨first, hfirst, rfl⟩ := Option.map_eq_some_iff.mp hanchor
  by_cases hmixed : (starts.any fun start => numDaysFromSunday start ≠ numDaysFromSunday first) = true
  · rw [if_pos hmixed] at h
    cases h
  rw [if_neg hmixed] at h
  split_ifs at h with hhorizon
  rw [Except.ok.injEq, TimecardSheetResolution.absent.injEq] at h
  subst h
  have hweekday : numDaysFromSunday (date -
      (numDaysFromSunday date + 7 - numDaysFromSunday first) % 7) =
      numDaysFromSunday first := by
    unfold numDaysFromSunday
    omega
  refine ⟨starts, ?_, mem_weekStarts hstarts, ?_, ?_, ?_, ?_⟩
  · intro row hrow
    exact Bool.eq_false_of_not_eq_true (List.find?_eq_none.mp hfind row hrow)
  · rintro rfl
    cases hfirst
  · intro start hstart
    rw [hweekday]
    by_contra hne
    exact hmixed (List.any_eq_true.mpr ⟨start, hstart, decide_eq_true hne⟩)
  · unfold numDaysFromSunday
    constructor <;> omega
  · intro hfull
    rcases hmin : starts.min? with _ | oldest
    · rw [List.min?_eq_none_iff] at hmin
      subst hmin
      cases hfirst
    · refine ⟨oldest, List.min?_mem hmin, ?_⟩
      by_contra hlt
      refine hhorizon ⟨hfull, ?_⟩
      rw [hmin, Option.any_some]
      exact decide_eq_true (not_le.mp hlt)

/-- No sheet contains the date: not one of the rows, and no older one. -/
theorem AbsentFrom.conclusive {starts : List Int} {target : Int} {sheet : Record}
    (h : AbsentFrom lib rows starts date target) (hlatest : LatestSheets lib sheets rows)
    (hsheet : sheet ∈ sheets) : timeSheetRowContainsDate lib sheet date = false := by
  obtain ⟨rest, hperm, holder⟩ := hlatest.older
  rcases List.mem_append.mp (hperm.mem_iff.mpr hsheet) with hrow | hrest
  · exact h.apart sheet hrow
  -- some sheet was left out, so 80 were read
  have hfull : 80 ≤ rows.length := by
    have hlength := hperm.length_eq
    rw [List.length_append] at hlength
    have hpos := List.length_pos_of_mem hrest
    have := hlatest.limit
    omega
  obtain ⟨oldest, hmem, hle⟩ := h.horizon hfull
  obtain ⟨row, hrow, hstart⟩ : ∃ row ∈ rows, weekStartsOn lib row = some oldest := by
    have : some oldest ∈ rows.map (weekStartsOn lib) := by
      rw [h.read]
      exact List.mem_map_of_mem hmem
    exact List.mem_map.mp this
  -- the oldest row is a whole number of weeks before the week of the date
  have hne : oldest ≠ target := by
    rintro rfl
    have happart := h.apart row hrow
    have hcontains : timeSheetRowContainsDate lib row date = true :=
      timeSheetRowContainsDate_iff.mpr ⟨oldest, hstart, h.week.2, by have := h.week.1; omega⟩
    rw [hcontains] at happart
    cases happart
  have hweeks : oldest + 7 ≤ target := by
    have hanchor := h.anchored oldest hmem
    unfold numDaysFromSunday at hanchor
    omega
  rw [← Bool.not_eq_true, timeSheetRowContainsDate_iff]
  rintro ⟨start, hsome, -, hlast⟩
  have := holder row hrow sheet hrest oldest hstart start hsome
  have := h.week.2
  omega

/-- **The lookup of a time sheet is conclusive.**  What it finds is a sheet of the user whose seven
days contain the date; when it says that there is none, no sheet of the user contains the date, and
the week start it reports is the one day of the last seven that falls on the weekday on which all
the sheets that were read start. -/
theorem time_sheet_lookup_conclusive (lib : CoreLib) (sheets rows : List Record) (date : Int)
    (label : String) (hlatest : LatestSheets lib sheets rows) :
    (∀ row, resolveMyTimecardSheetAt lib rows date label = .ok (.found row) → row ∈ sheets ∧
        ∃ start, weekStartsOn lib row = some start ∧ start ≤ date ∧ date < start + 7) ∧
    ∀ target, resolveMyTimecardSheetAt lib rows date label = .ok (.absent target) →
      (∀ sheet ∈ sheets, ¬ ∃ start,
        weekStartsOn lib sheet = some start ∧ start ≤ date ∧ date < start + 7) ∧
      rows ≠ [] ∧
      ∃ weekday, (∀ row ∈ rows, ∃ start, weekStartsOn lib row = some start ∧
          numDaysFromSunday start = weekday) ∧
        ∀ day, day = target ↔ date - 6 ≤ day ∧ day ≤ date ∧ numDaysFromSunday day = weekday := by
  constructor
  · intro row hrow
    obtain ⟨hmem, hcontains⟩ := resolve_found hrow
    obtain ⟨rest, hperm, -⟩ := hlatest.older
    exact ⟨hperm.mem_iff.mp (List.mem_append_left _ hmem),
      timeSheetRowContainsDate_iff.mp hcontains⟩
  · intro target htarget
    obtain ⟨starts, habsent⟩ := resolve_absent htarget
    refine ⟨fun sheet hsheet hcontains => ?_, ?_, numDaysFromSunday target, fun row hrow => ?_,
      fun day => ⟨?_, ?_⟩⟩
    · have hnot := habsent.conclusive hlatest hsheet
      rw [timeSheetRowContainsDate_iff.mpr hcontains] at hnot
      cases hnot
    · rintro rfl
      exact habsent.nonempty (List.map_eq_nil_iff.mp habsent.read.symm)
    · have hmem : weekStartsOn lib row ∈ starts.map some := by
        rw [← habsent.read]
        exact List.mem_map_of_mem hrow
      obtain ⟨start, hstart, heq⟩ := List.mem_map.mp hmem
      exact ⟨start, heq.symm, habsent.anchored start hstart⟩
    · rintro rfl
      exact ⟨habsent.week.1, habsent.week.2, rfl⟩
    · rintro ⟨hfirst, hlast, hweekday⟩
      have := habsent.week
      unfold numDaysFromSunday at hweekday
      omega

/-- A sheet whose week starts on a Monday. -/
def mondaySheet : Record where
  sysId := "s1"
  table := "time_sheet"
  fields := [("week_starts_on", ⟨some (.string "2026-02-09"), none⟩)]

/-- With that one sheet, the week before it has none. -/
theorem week_before_absent :
    (∃ target, resolveMyTimecardSheetAt incidentLib [mondaySheet] 739655 "2026-02-08" =
      .ok (.absent target) ∧ target = 739649) ∧
    ∀ sheet ∈ [mondaySheet], ¬ ∃ start, weekStartsOn incidentLib sheet = some start ∧
      start ≤ 739655 ∧ 739655 < start + 7 := by
  have hlatest : LatestSheets incidentLib [mondaySheet] [mondaySheet] :=
    ⟨by decide, List.pairwise_singleton _ _, [], List.Perm.refl _, fun _ _ _ h => nomatch h⟩
  have habsent : resolveMyTimecardSheetAt incidentLib [mondaySheet] 739655 "2026-02-08" =
      .ok (.absent 739649) := by rfl
  exact ⟨⟨739649, habsent, rfl⟩, ((time_sheet_lookup_conclusive incidentLib [mondaySheet]
    [mondaySheet] 739655 "2026-02-08" hlatest).2 739649 habsent).1⟩

end Lookup

end SnowAgent.TimeSheets
