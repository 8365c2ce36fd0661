import SnowAgent.IncidentQueue

/-! # Timestamps of incident reads

The incident reads accept a timestamp when `chrono` can read it, and then compare its text: two
timestamps of a range with each other, and the one before which an incident is stale with the texts
of ServiceNow, which always have the form `YYYY-MM-DD HH:MM:SS`.
-/
namespace SnowAgent.Core

open Json Text Chrono

/-- `validate_incident_timestamp`. -/
def validateIncidentTimestamp (value : Option String) (field : String) :
    Except IncidentReadError (Option String) :=
  match value with
  | none => .ok none
  | some value =>
    match parseDateTime value with
    | some _ => .ok (some value)
    | none => .error (.invalidParams (field ++ " must use YYYY-MM-DD HH:MM:SS"))

/-- `validate_time_range`. -/
def validateTimeRange (after before : Option String) (field : String) :
    Except IncidentReadError Unit :=
  match after, before with
  | some after, some before =>
    if before ≤ after then
      .error (.invalidParams (field ++ "_after must be earlier than " ++ field ++ "_before"))
    else .ok ()
  | _, _ => .ok ()

/-- A range is refused when its first moment is not earlier than its second. -/
def RangeByTime (after before : String) (t u : NaiveDateTime) : Prop :=
  ∀ field, (∃ err, validateTimeRange (some after) (some before) field = .error err) ↔ ¬ t.Before u

/-- An item that ServiceNow has updated at some time. -/
def UpdatedAt (item : QueueItem) (u : NaiveDateTime) : Prop :=
  u.Writable ∧ incidentFieldValue item.record "sys_updated_on" = u.text

/-- Stale items are those that were updated before a moment. -/
def StaleByTime (stale : String) (t : NaiveDateTime) : Prop :=
  ∀ (items : List (QueueItem × NaiveDateTime)) (threshold : ℚ) (complete : Bool),
    (∀ entry ∈ items, UpdatedAt entry.1 entry.2) →
    (incidentQueueAggregates (items.map Prod.fst) stale threshold complete).stale =
      items.countP fun entry => decide (entry.2.Before t)

/-! ## Reading the definitions -/

theorem validateIncidentTimestamp_ok_iff {value field : String} :
    validateIncidentTimestamp (some value) field = .ok (some value) ↔
      ∃ t, parseDateTime value = some t := by
  unfold validateIncidentTimestamp
  split
  · rename_i heq
    cases heq
  · rename_i found heq
    obtain rfl := Option.some.inj heq
    split
    · rename_i t ht
      exact ⟨fun _ => ⟨t, ht⟩, fun _ => rfl⟩
    · rename_i hnone
      constructor
      · intro h
        cases h
      · rintro ⟨t, ht⟩
        rw [hnone] at ht
        cases ht

theorem validateTimeRange_error_iff {after before field : String} :
    (∃ err, validateTimeRange (some after) (some before) field = .error err) ↔ before ≤ after := by
  unfold validateTimeRange
  by_cases h : before ≤ after
  · simp [h]
  · simp [h]

theorem rangeByTime_iff {after before : String} {t u : NaiveDateTime} :
    RangeByTime after before t u ↔ (after < before ↔ t.Before u) := by
  unfold RangeByTime
  simp only [validateTimeRange_error_iff, forall_const, ← not_lt, not_iff_not]

/-- The count of the stale items. -/
theorem stale_foldl (items : List QueueItem) (stale : String) (threshold : ℚ)
    (counts : QueueAggregates) :
    (items.foldl (countItem stale threshold) counts).stale = counts.stale +
      items.countP fun item => decide (incidentFieldValue item.record "sys_updated_on" < stale) := by
  induction items generalizing counts with
  | nil => simp
  | cons item items step =>
    rw [List.foldl_cons, step, List.countP_cons]
    by_cases h : incidentFieldValue item.record "sys_updated_on" < stale
    · simp only [countItem, h, if_true, decide_true]
      omega
    · simp [countItem, h]

/-- Of a request that is accepted, the stale timestamp can be read without the blanks around it. -/
theorem staleBefore_read {input : QueueInput} {validated : ValidatedQueueInput} {stale : String}
    (h : validateIncidentQueueInput input = .ok validated) (hstale : input.staleBefore = some stale) :
    ∃ t, parseDateTime (trim stale) = some t := by
  have hchecked := (validateIncidentQueueInput_accepted h).timestamps
  rw [queueTimestamps, hstale] at hchecked
  obtain ⟨-, -, hchecked⟩ := bind_eq_ok hchecked
  obtain ⟨-, -, hchecked⟩ := bind_eq_ok hchecked
  obtain ⟨-, -, hchecked⟩ := bind_eq_ok hchecked
  obtain ⟨-, -, hchecked⟩ := bind_eq_ok hchecked
  obtain ⟨⟨⟩, hread, -⟩ := bind_eq_ok hchecked
  rcases ht : parseDateTime (trim stale) with _ | t
  · rw [checkQueueTimestamp, ht] at hread
    cases hread
  · exact ⟨t, rfl⟩

/-- An incident with a time of its last update. -/
def updatedItem (updated : String) : QueueItem where
  record :=
    { sysId := "1", number := "INC1", table := "incident", resourceType := .incident, state := "1"
      shortDescription := "", description := ""
      fields := [("sys_updated_on", ⟨updated, none⟩)]
      parent := none, references := [], syncedAt := 0 }
  sla := ⟨"INC1", "incident", "1", ⟨0, 0, 0, none⟩, .emptyOrAclRestricted⟩

theorem staleByTime_iff {stale : String} {t : NaiveDateTime} :
    StaleByTime stale t ↔ ∀ u : NaiveDateTime, u.Writable → (u.text < stale ↔ u.Before t) := by
  constructor
  · intro h u hu
    have hone := h [(updatedItem u.text, u)] 80 true (by
      intro entry hentry
      rw [List.mem_singleton.mp hentry]
      exact ⟨hu, rfl⟩)
    rw [incidentQueueAggregates, stale_foldl] at hone
    have htext : incidentFieldValue (updatedItem u.text).record "sys_updated_on" = u.text := rfl
    rw [List.map_singleton, List.countP_singleton, List.countP_singleton, htext] at hone
    by_cases hlt : u.text < stale
    · rw [if_pos (decide_eq_true hlt)] at hone
      refine iff_of_true hlt ?_
      by_contra hnot
      rw [if_neg (by simpa using hnot)] at hone
      cases hone
    · rw [if_neg (by rw [decide_eq_true_iff]; exact hlt)] at hone
      refine iff_of_false hlt fun hbefore => ?_
      rw [if_pos (decide_eq_true hbefore)] at hone
      cases hone
  · intro h items threshold complete hitems
    rw [incidentQueueAggregates, stale_foldl, List.countP_map, Nat.zero_add]
    refine List.countP_congr fun entry hentry => ?_
    obtain ⟨hu, htext⟩ := hitems entry hentry
    simp only [Function.comp_apply, htext, decide_eq_true_iff]
    exact h entry.2 hu

/-- **When timestamps are compared as the moments they stand for.**  A timestamp of a range stands
rightly against all timestamps of the usual form exactly if it has that form itself, or is of a year
with another length and beyond all of them as a text.  The stale count is right for all items exactly
if the text of the timestamp is not after the text of its moment, and after that of the moment just
before. -/
theorem incident_timestamps_iff (field value : String) (input : QueueInput)
    (validated : ValidatedQueueInput) (stale : String) :
    (validateIncidentTimestamp (some value) field = .ok (some value) →
      ∃ t, parseDateTime value = some t ∧ ((∀ u : NaiveDateTime, u.Writable →
          RangeByTime value u.text t u ∧ RangeByTime u.text value u t) ↔
            NaiveDateTime.Standard value t)) ∧
    (validateIncidentQueueInput input = .ok validated → input.staleBefore = some stale →
      ∃ t, parseDateTime (trim stale) = some t ∧
        (StaleByTime stale t ↔ NaiveDateTime.Splits stale t)) := by
  constructor
  · intro hvalue
    obtain ⟨t, ht⟩ := validateIncidentTimestamp_ok_iff.mp hvalue
    refine ⟨t, ht, ?_⟩
    rw [← NaiveDateTime.standard_iff]
    refine forall_congr' fun u => forall_congr' fun _ => ?_
    rw [rangeByTime_iff, rangeByTime_iff]
    exact and_comm
  · intro hinput hstale
    obtain ⟨t, ht⟩ := staleBefore_read hinput hstale
    exact ⟨t, ht, staleByTime_iff.trans NaiveDateTime.splits_iff⟩

/-- A request for the queue of a group, with a moment before which an incident is stale. -/
def staleRequest (stale : String) : QueueInput where
  group := "Network"
  staleBefore := some stale

/-- Two midnights: both are accepted, as a timestamp of a range and as one of a queue. -/
theorem midnight_timestamps :
    (∃ t, parseDateTime "2024-01-05 00:00:00" = some t ∧ ((∀ u : NaiveDateTime, u.Writable →
        RangeByTime "2024-01-05 00:00:00" u.text t u ∧
          RangeByTime u.text "2024-01-05 00:00:00" u t) ↔
            NaiveDateTime.Standard "2024-01-05 00:00:00" t)) ∧
    ∃ t, parseDateTime (trim "2024-01-05  00:00:00") = some t ∧
      (StaleByTime "2024-01-05  00:00:00" t ↔ NaiveDateTime.Splits "2024-01-05  00:00:00" t) :=
  ⟨(incident_timestamps_iff "opened_after" "2024-01-05 00:00:00" (staleRequest "2024-01-05  00:00:00")
      ⟨50, 0, 2000, []⟩ "2024-01-05  00:00:00").1 (by rfl),
    (incident_timestamps_iff "opened_after" "2024-01-05 00:00:00" (staleRequest "2024-01-05  00:00:00")
      ⟨50, 0, 2000, []⟩ "2024-01-05  00:00:00").2 (by rfl) rfl⟩

/-- A month before another is refused as the first end of a range, when it is written without its
zero; and the incident of a later day counts as stale. -/
theorem unpadded_month_is_refused :
    (∃ t u, parseDateTime "2024-1-05 00:00:00" = some t ∧
      parseDateTime "2024-02-05 00:00:00" = some u ∧ t.Before u ∧
      ∃ err, validateTimeRange (some "2024-1-05 00:00:00") (some "2024-02-05 00:00:00") "opened" =
        .error err) ∧
    ∃ t u, parseDateTime "2024-1-05 00:00:00" = some t ∧
      parseDateTime "2024-01-06 00:00:00" = some u ∧ ¬ u.Before t ∧
      (incidentQueueAggregates [updatedItem "2024-01-06 00:00:00"] "2024-1-05 00:00:00" 80 true).stale
        = 1 := by
  refine ⟨⟨⟨⟨2024, 1, 5, by decide⟩, 0, 0, 0, by decide⟩,
      ⟨⟨2024, 2, 5, by decide⟩, 0, 0, 0, by decide⟩,
    by rfl, by rfl, by decide, _, by rfl⟩,
    ⟨⟨2024, 1, 5, by decide⟩, 0, 0, 0, by decide⟩, ⟨⟨2024, 1, 6, by decide⟩, 0, 0, 0, by decide⟩,
    by rfl, by rfl, by decide, by rfl⟩

end SnowAgent.Core
