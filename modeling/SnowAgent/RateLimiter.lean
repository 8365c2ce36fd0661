import SnowAgent.Daemon
import SnowAgent.SlidingWindow

/-! # The rate limiter

`rate_limit` keeps, for each bucket, the instants of the events recorded in the last
minute.  A call is refused while there are as many as its limit, and is told how many
seconds to wait.  The instants kept are the recorded ones that are still in the window,
so never more than `limit` calls are admitted in one; but the answer speaks of the
oldest instant only, and of whole seconds.
-/
namespace SnowAgent

open SlidingWindow

/-! ## Calls -/

/-- `u32::MAX`. -/
def u32Max : Nat := 4294967295

/-- A call of the limiter. -/
inductive LimiterCall where
  | checkAndRecordRateLimit (bucket actor tool : String) (limitPerMinute : Nat)
  | checkRateLimitOnly (bucket actor tool : String) (limitPerMinute : Nat)
  | recordRateLimitEvent (bucket actor tool : String)

/-- The key of the call's entries. -/
def LimiterCall.key : LimiterCall → String
  | .checkAndRecordRateLimit bucket actor tool _
  | .checkRateLimitOnly bucket actor tool _
  | .recordRateLimitEvent bucket actor tool => bucket ++ ":" ++ actor ++ ":" ++ tool

/-- The limit the call passes to `rate_limit`. -/
def LimiterCall.limit : LimiterCall → Nat
  | .checkAndRecordRateLimit _ _ _ limitPerMinute
  | .checkRateLimitOnly _ _ _ limitPerMinute => limitPerMinute
  | .recordRateLimitEvent .. => u32Max

/-- The call's `record_event`. -/
def LimiterCall.records : LimiterCall → Bool
  | .checkAndRecordRateLimit .. | .recordRateLimitEvent .. => true
  | .checkRateLimitOnly .. => false

/-- `check_and_record_rate_limit` is the call that admits and counts. -/
def LimiterCall.counts : LimiterCall → Bool
  | .checkAndRecordRateLimit .. => true
  | .checkRateLimitOnly .. | .recordRateLimitEvent .. => false

theorem LimiterCall.records_of_counts {call : LimiterCall} (h : call.counts = true) :
    call.records = true := by
  cases call with
  | checkAndRecordRateLimit => rfl
  | checkRateLimitOnly => cases h
  | recordRateLimitEvent => cases h

/-- A call and the instant its `Utc::now()` is. -/
structure TimedCall where
  now : DateTime
  call : LimiterCall

/-- The window in nanoseconds. -/
def rateLimitWindow : DateTime := durationSeconds rateLimitWindowSeconds

/-- The instants kept for a key. -/
def RateLimits.entries (limits : RateLimits) (key : String) : List DateTime :=
  (limits.row key).getD []

/-- The instants kept for a key that are in the window. -/
def RateLimits.live (limits : RateLimits) (key : String) (now : DateTime) : List DateTime :=
  newer (now - rateLimitWindow) (limits.entries key)

/-- `rate_limit`, with the clock's answer. -/
def RateLimits.call (limits : RateLimits) (c : TimedCall) : RateLimits × Option Int :=
  if c.call.limit = 0 then (limits, some rateLimitWindowSeconds)
  else limits.take c.call.key c.now c.call.limit c.call.records

/-- `rate_limit` on the instants in the window. -/
theorem take_eq (limits : RateLimits) (key : String) (now : DateTime) (limitPerMinute : Nat)
    (recordEvent : Bool) :
    limits.take key now limitPerMinute recordEvent =
      if limitPerMinute ≤ (limits.live key now).length then
        (limits.put key (limits.live key now), (limits.live key now).head?.map fun oldest =>
          max ((oldest + rateLimitWindow - now).tdiv 1000000000) 1)
      else if recordEvent then (limits.put key (limits.live key now ++ [now]), none)
      else (limits.put key (limits.live key now), none) := rfl

@[simp] theorem entries_empty (key : String) : RateLimits.entries Table.empty key = [] := rfl

@[simp] theorem entries_put_self (limits : RateLimits) (key : String) (log : List DateTime) :
    RateLimits.entries (limits.put key log) key = log := by
  simp [RateLimits.entries]

@[simp] theorem entries_put_of_ne (limits : RateLimits) {key key' : String} (log : List DateTime)
    (h : key' ≠ key) : RateLimits.entries (limits.put key log) key' = limits.entries key' := by
  simp [RateLimits.entries, h]

/-! ## What a call does -/

variable {later : DateTime} {key : String}

section Call

variable (limits : RateLimits) (c : TimedCall)

/-- **A call is admitted** just when fewer instants than its limit are in the window. -/
theorem call_admitted_iff :
    (limits.call c).2 = none ↔ (limits.live c.call.key c.now).length < c.call.limit := by
  rw [RateLimits.call]
  by_cases hzero : c.call.limit = 0
  · simp [hzero]
  · rw [if_neg hzero, take_eq]
    by_cases hfull : c.call.limit ≤ (limits.live c.call.key c.now).length
    · have hsome : (limits.live c.call.key c.now).head? ≠ none := by
        intro hnone
        rw [List.head?_eq_none_iff] at hnone
        rw [hnone] at hfull
        exact hzero (Nat.le_zero.mp hfull)
      rw [if_pos hfull, Option.map_eq_none_iff]
      exact ⟨fun hnone => absurd hnone hsome, fun hlt => absurd hlt (by omega)⟩
    · rw [if_neg hfull]
      have hlt : (limits.live c.call.key c.now).length < c.call.limit := by omega
      by_cases hrecords : c.call.records = true
      · simp [hrecords, hlt]
      · simp [hrecords, hlt]

/-- The seconds a refused call is told. -/
theorem call_refused {r : Int} (hpos : 0 < c.call.limit) (h : (limits.call c).2 = some r) :
    ∃ oldest, (limits.live c.call.key c.now).head? = some oldest ∧
      r = max ((oldest + rateLimitWindow - c.now).tdiv 1000000000) 1 := by
  rw [RateLimits.call, if_neg (by omega), take_eq] at h
  by_cases hfull : c.call.limit ≤ (limits.live c.call.key c.now).length
  · rw [if_pos hfull] at h
    obtain ⟨oldest, holdest, hr⟩ := Option.map_eq_some_iff.mp h
    exact ⟨oldest, holdest, hr.symm⟩
  · rw [if_neg hfull] at h
    split at h <;> cases h

/-- The instant a call records. -/
def recordedBy : List DateTime :=
  if c.call.records = true ∧ (limits.call c).2 = none then [c.now] else []

/-- **After a call** its key has the instants that were in the window and what the call
recorded. -/
theorem entries_call_self (hzero : c.call.limit ≠ 0) :
    (limits.call c).1.entries c.call.key = limits.live c.call.key c.now ++ recordedBy limits c := by
  have hadmitted := call_admitted_iff limits c
  rw [recordedBy]
  by_cases hfull : c.call.limit ≤ (limits.live c.call.key c.now).length
  · have hnot : ¬ (limits.call c).2 = none := by
      rw [hadmitted]
      omega
    rw [if_neg fun h => hnot h.2, List.append_nil, RateLimits.call, if_neg hzero, take_eq,
      if_pos hfull, entries_put_self]
  · have hnone : (limits.call c).2 = none := by
      rw [hadmitted]
      omega
    by_cases hrecords : c.call.records = true
    · rw [if_pos ⟨hrecords, hnone⟩, RateLimits.call, if_neg hzero, take_eq, if_neg hfull,
        if_pos hrecords, entries_put_self]
    · rw [if_neg fun h => hrecords h.1, List.append_nil, RateLimits.call, if_neg hzero, take_eq,
        if_neg hfull, if_neg hrecords, entries_put_self]

/-- A call of limit zero records nothing. -/
theorem recordedBy_of_zero (hzero : c.call.limit = 0) : recordedBy limits c = [] := by
  simp [recordedBy, RateLimits.call, hzero]

/-- A call leaves the entries of the other keys alone. -/
theorem entries_call_of_ne (h : key ≠ c.call.key) :
    (limits.call c).1.entries key = limits.entries key := by
  rw [RateLimits.call]
  by_cases hzero : c.call.limit = 0
  · rw [if_pos hzero]
  · rw [if_neg hzero, take_eq]
    split
    · exact entries_put_of_ne limits _ h
    · split
      · exact entries_put_of_ne limits _ h
      · exact entries_put_of_ne limits _ h

/-- A later look at a key after a call sees what was there and what was recorded. -/
theorem newer_call (h : c.now ≤ later) (key : String) :
    newer (later - rateLimitWindow) ((limits.call c).1.entries key) =
      newer (later - rateLimitWindow)
        (limits.entries key ++ if c.call.key = key then recordedBy limits c else []) := by
  by_cases hkey : c.call.key = key
  · subst hkey
    rw [if_pos rfl]
    by_cases hzero : c.call.limit = 0
    · rw [recordedBy_of_zero limits c hzero, List.append_nil, RateLimits.call, if_pos hzero]
    · rw [entries_call_self limits c hzero, newer_append, newer_append, RateLimits.live,
        newer_newer (Int.sub_le_sub_right h _)]
  · rw [if_neg hkey, List.append_nil, entries_call_of_ne limits c (Ne.symm hkey)]

end Call

/-! ## Runs -/

variable {calls : List TimedCall}

/-- The state after a list of calls. -/
def RateLimits.after (limits : RateLimits) (calls : List TimedCall) : RateLimits :=
  calls.foldl (fun limits c => (limits.call c).1) limits

/-- What happened at a call. -/
structure LimiterEvent where
  timed : TimedCall
  answer : Option Int

/-- What happened at each of a list of calls. -/
def RateLimits.events (limits : RateLimits) : List TimedCall → List LimiterEvent
  | [] => []
  | c :: calls => ⟨c, (limits.call c).2⟩ :: (limits.call c).1.events calls

@[simp] theorem after_nil (limits : RateLimits) : limits.after [] = limits := rfl

@[simp] theorem after_append (limits : RateLimits) (calls calls' : List TimedCall) :
    limits.after (calls ++ calls') = (limits.after calls).after calls' := List.foldl_append

@[simp] theorem after_singleton (limits : RateLimits) (c : TimedCall) :
    limits.after [c] = (limits.call c).1 := rfl

@[simp] theorem events_append (limits : RateLimits) (calls calls' : List TimedCall) :
    limits.events (calls ++ calls') =
      limits.events calls ++ (limits.after calls).events calls' := by
  induction calls generalizing limits with
  | nil => rfl
  | cons c calls ih => simp [RateLimits.events, RateLimits.after, ih]

/-- The event recorded an instant under the key. -/
def LimiterEvent.recordedOn (key : String) (e : LimiterEvent) : Prop :=
  e.timed.call.key = key ∧ e.timed.call.records = true ∧ e.answer = none

instance (key : String) (e : LimiterEvent) : Decidable (e.recordedOn key) :=
  inferInstanceAs (Decidable (_ ∧ _ ∧ _))

/-- All the instants ever recorded under a key. -/
def recordedOn (key : String) (events : List LimiterEvent) : List DateTime :=
  (events.filter fun e => e.recordedOn key).map fun e => e.timed.now

@[simp] theorem recordedOn_append (key : String) (events events' : List LimiterEvent) :
    recordedOn key (events ++ events') = recordedOn key events ++ recordedOn key events' := by
  simp [recordedOn]

/-- What the events of one call recorded. -/
theorem recordedOn_singleton (limits : RateLimits) (c : TimedCall) (key : String) :
    recordedOn key (limits.events [c]) = if c.call.key = key then recordedBy limits c else [] := by
  by_cases hkey : c.call.key = key
  · rw [if_pos hkey, recordedBy]
    by_cases hrec : c.call.records = true ∧ (limits.call c).2 = none
    · simp [recordedOn, RateLimits.events, LimiterEvent.recordedOn, hkey, hrec]
    · rw [if_neg hrec]
      simp [recordedOn, RateLimits.events, LimiterEvent.recordedOn, hkey, hrec]
  · simp [recordedOn, RateLimits.events, LimiterEvent.recordedOn, hkey]

/-- The calls are made one after another. -/
def InOrder (calls : List TimedCall) : Prop := calls.Pairwise fun a b => a.now ≤ b.now

/-- **The entries are the history.**  Whatever a later look sees of a key's entries is
what it would see of all the instants ever recorded under it. -/
theorem newer_entries (hcalls : InOrder calls) (hlater : ∀ c ∈ calls, c.now ≤ later)
    (key : String) :
    newer (later - rateLimitWindow) ((RateLimits.after Table.empty calls).entries key) =
      newer (later - rateLimitWindow) (recordedOn key (RateLimits.events Table.empty calls)) := by
  induction calls using List.reverseRecOn with
  | nil => rfl
  | append_singleton calls c ih =>
    have hbefore : ∀ b ∈ calls, b.now ≤ later := fun b hb => hlater b (by simp [hb])
    have hfound := ih (hcalls.sublist (List.sublist_append_left _ _)) hbefore
    rw [after_append, after_singleton, newer_call _ c (hlater c (by simp)), newer_append, hfound,
      events_append, recordedOn_append, newer_append, recordedOn_singleton]

/-- What is in the window of a key at a later instant, by the history. -/
theorem live_eq (hcalls : InOrder calls) (hlater : ∀ c ∈ calls, c.now ≤ later) (key : String) :
    (RateLimits.after Table.empty calls).live key later =
      newer (later - rateLimitWindow) (recordedOn key (RateLimits.events Table.empty calls)) :=
  newer_entries hcalls hlater key

theorem events_timed (limits : RateLimits) (calls : List TimedCall) :
    (limits.events calls).map LimiterEvent.timed = calls := by
  induction calls generalizing limits with
  | nil => rfl
  | cons c calls ih => rw [RateLimits.events, List.map_cons, ih]

/-- The instants recorded are in the order of the calls. -/
theorem recordedOn_pairwise (hcalls : InOrder calls) (limits : RateLimits) (key : String) :
    (recordedOn key (limits.events calls)).Pairwise (· ≤ ·) := by
  have htimes : ((limits.events calls).map fun e => e.timed.now).Pairwise (· ≤ ·) := by
    rw [← events_timed limits calls, InOrder, List.pairwise_map] at hcalls
    exact List.pairwise_map.mpr hcalls
  exact htimes.sublist (List.filter_sublist.map _)

/-! ## One key at a time -/

/-- **A call depends on its key.**  What it answers and what it leaves under its key follow
from what was there. -/
theorem call_congr {limits limits' : RateLimits} {c : TimedCall}
    (h : limits.entries c.call.key = limits'.entries c.call.key) :
    (limits.call c).2 = (limits'.call c).2 ∧
      (limits.call c).1.entries c.call.key = (limits'.call c).1.entries c.call.key := by
  have hlive : limits.live c.call.key c.now = limits'.live c.call.key c.now := by
    rw [RateLimits.live, RateLimits.live, h]
  rw [RateLimits.call, RateLimits.call]
  by_cases hzero : c.call.limit = 0
  · rw [if_pos hzero, if_pos hzero]
    exact ⟨rfl, h⟩
  · rw [if_neg hzero, if_neg hzero, take_eq, take_eq, hlive]
    split
    · simp
    · split <;> simp

/-- **The keys do not interfere.**  The calls under a key are answered, and leave its entries,
as if no call under another key had been made. -/
theorem key_alone (limits : RateLimits) (calls : List TimedCall) (key : String) :
    (limits.events calls).filter (fun e => e.timed.call.key = key) =
        limits.events (calls.filter fun c => c.call.key = key) ∧
      (limits.after calls).entries key =
        (limits.after (calls.filter fun c => c.call.key = key)).entries key := by
  -- the two runs agree on the entries of the key
  have hgeneral : ∀ limits' : RateLimits, limits.entries key = limits'.entries key →
      (limits.events calls).filter (fun e => e.timed.call.key = key) =
          limits'.events (calls.filter fun c => c.call.key = key) ∧
        (limits.after calls).entries key =
          (limits'.after (calls.filter fun c => c.call.key = key)).entries key := by
    induction calls generalizing limits with
    | nil => exact fun _ h => ⟨rfl, h⟩
    | cons c calls ih =>
      intro limits' h
      by_cases hkey : c.call.key = key
      · subst hkey
        obtain ⟨hanswer, hentries⟩ := call_congr h
        obtain ⟨hevents, hafter⟩ := ih _ _ hentries
        rw [List.filter_cons_of_pos (by simp)]
        exact ⟨by simp [RateLimits.events, hanswer, hevents], hafter⟩
      · obtain ⟨hevents, hafter⟩ := ih (limits.call c).1 limits'
          ((entries_call_of_ne limits c (Ne.symm hkey)).trans h)
        rw [List.filter_cons_of_neg (by simpa using hkey)]
        exact ⟨by simp [RateLimits.events, hkey, hevents], hafter⟩
  exact hgeneral limits rfl

/-! ## Never more than the limit -/

/-- The call was admitted and counted under the key, for a limit of at most `limit`, in
the minute from `start` on. -/
def LimiterEvent.AdmittedIn (key : String) (limit : Nat) (start : DateTime)
    (e : LimiterEvent) : Prop :=
  e.timed.call.key = key ∧ e.timed.call.counts = true ∧ e.timed.call.limit ≤ limit ∧
    e.answer = none ∧ start ≤ e.timed.now ∧ e.timed.now < start + rateLimitWindow

instance (key : String) (limit : Nat) (start : DateTime) (e : LimiterEvent) :
    Decidable (e.AdmittedIn key limit start) :=
  inferInstanceAs (Decidable (_ ∧ _ ∧ _ ∧ _ ∧ _ ∧ _))

/-- How many calls were admitted and counted under the key in the minute from `start` on. -/
def admittedIn (key : String) (limit : Nat) (start : DateTime) (events : List LimiterEvent) :
    Nat :=
  events.countP fun e => e.AdmittedIn key limit start

/-- What was admitted in the window of a call is still kept when the call is made. -/
theorem admittedIn_le_live (hcalls : InOrder calls) {now : DateTime}
    (hnow : ∀ c ∈ calls, c.now ≤ now) {start : DateTime}
    (hstart : now < start + rateLimitWindow) (key : String) (limit : Nat) :
    admittedIn key limit start (RateLimits.events Table.empty calls) ≤
      ((RateLimits.after Table.empty calls).live key now).length := by
  rw [live_eq hcalls hnow, admittedIn, recordedOn, newer, List.filter_map, List.length_map,
    List.filter_filter, List.countP_eq_length_filter]
  refine List.Sublist.length_le (List.monotone_filter_right _ fun e he => ?_)
  obtain ⟨hkey, hcounts, -, hanswer, hfrom, -⟩ := of_decide_eq_true he
  have hin : now - rateLimitWindow < e.timed.now := by
    have hle : now < e.timed.now + rateLimitWindow :=
      lt_of_lt_of_le hstart (Int.add_le_add_right hfrom _)
    exact Int.sub_right_lt_of_lt_add hle
  have hrecorded : e.recordedOn key := ⟨hkey, LimiterCall.records_of_counts hcounts, hanswer⟩
  simp [hin, hrecorded]

/-- **Never more than the limit** is admitted in a minute. -/
theorem admittedIn_le (hcalls : InOrder calls) (key : String) (limit : Nat) (start : DateTime) :
    admittedIn key limit start (RateLimits.events Table.empty calls) ≤ limit := by
  induction calls using List.reverseRecOn with
  | nil => exact Nat.zero_le _
  | append_singleton calls c ih =>
    have hbefore : InOrder calls := hcalls.sublist (List.sublist_append_left _ _)
    have hle : ∀ b ∈ calls, b.now ≤ c.now := fun b hb =>
      (List.pairwise_append.mp hcalls).2.2 b hb c (by simp)
    have hcount : admittedIn key limit start (RateLimits.events Table.empty (calls ++ [c])) =
        admittedIn key limit start (RateLimits.events Table.empty calls) +
          admittedIn key limit start ((RateLimits.after Table.empty calls).events [c]) := by
      rw [events_append, admittedIn, List.countP_append]
      rfl
    by_cases hlast : (LimiterEvent.mk c ((RateLimits.after Table.empty calls).call c).2).AdmittedIn
        key limit start
    · -- the last call was admitted: fewer than its limit were in its window
      have hone : admittedIn key limit start
          ((RateLimits.after Table.empty calls).events [c]) = 1 := by
        simp [admittedIn, RateLimits.events, hlast]
      obtain ⟨hkey, -, hlimit, hanswer, -, hin⟩ := hlast
      have hlive := (call_admitted_iff _ c).mp hanswer
      have hkept := admittedIn_le_live hbefore hle hin key limit
      rw [← hkey] at hkept ⊢
      rw [← hkey] at hcount hone
      dsimp only at *
      omega
    · have hnone : admittedIn key limit start
          ((RateLimits.after Table.empty calls).events [c]) = 0 := by
        simp [admittedIn, RateLimits.events, hlast]
      have hrest := ih hbefore
      omega

/-! ## Back-off -/

/-- The instant a refused call that was told `seconds` is made again. -/
def retryAt (now : DateTime) (seconds : Int) : DateTime := now + durationSeconds seconds

/-- **The entry that matters leaves in time**: the one whose leaving brings the key under
the limit leaves the window within a second, or it was recorded with the oldest one, a
whole number of seconds ago. -/
def LeavesInTime (limits : RateLimits) (key : String) (now : DateTime) (limit : Nat) : Prop :=
  ∃ oldest next, (limits.live key now).head? = some oldest ∧
    (limits.live key now)[(limits.live key now).length - limit]? = some next ∧
      (next + rateLimitWindow ≤ now + durationSeconds 1 ∨
        next = oldest ∧ (now - oldest) % durationSeconds 1 = 0)

/-- The seconds told, against the time until the oldest entry and the one that matters
leave the window. -/
theorem told_seconds_iff {oldest next now : Int} (hin : now - rateLimitWindow < oldest)
    (hle : oldest ≤ next) :
    next ≤ retryAt now (max ((oldest + rateLimitWindow - now).tdiv 1000000000) 1) -
        rateLimitWindow ↔
      next + rateLimitWindow ≤ now + durationSeconds 1 ∨
        next = oldest ∧ (now - oldest) % durationSeconds 1 = 0 := by
  have hwindow : rateLimitWindow = 60000000000 := rfl
  rw [Int.tdiv_eq_ediv_of_nonneg (by omega)]
  simp only [retryAt, durationSeconds, hwindow] at *
  omega

/-- The calls recorded nothing under the key. -/
def RecordsNothing (key : String) (events : List LimiterEvent) : Prop :=
  ∀ e ∈ events, ¬ e.recordedOn key

theorem recordedOn_of_recordsNothing {events : List LimiterEvent}
    (h : RecordsNothing key events) : recordedOn key events = [] := by
  rw [recordedOn, List.filter_eq_nil_iff.mpr fun e he => by simpa using h e he, List.map_nil]

/-- The window of a key at a later instant, when nothing was recorded in between. -/
theorem live_later {before between : List TimedCall} (hcalls : InOrder (before ++ between))
    {now later : DateTime} (hnow : ∀ c ∈ before, c.now ≤ now)
    (hlater : ∀ c ∈ before ++ between, c.now ≤ later) (hle : now ≤ later)
    (hnothing : RecordsNothing key ((RateLimits.after Table.empty before).events between)) :
    (RateLimits.after Table.empty (before ++ between)).live key later =
      newer (later - rateLimitWindow) ((RateLimits.after Table.empty before).live key now) := by
  rw [live_eq hcalls hlater, events_append, recordedOn_append,
    recordedOn_of_recordsNothing hnothing, List.append_nil,
    live_eq (hcalls.sublist (List.sublist_append_left _ _)) hnow,
    newer_newer (Int.sub_le_sub_right hle _)]

/-- **A refused call made again** after the seconds it was told, with nothing recorded
under its key in between, is admitted just when the entry that matters leaves in time. -/
theorem retry_admitted_iff {before between : List TimedCall} {refused : TimedCall}
    (hcalls : InOrder (before ++ refused :: between)) (hpos : 0 < refused.call.limit) {r : Int}
    (hrefused : ((RateLimits.after Table.empty before).call refused).2 = some r)
    (hnothing : RecordsNothing refused.call.key
      ((RateLimits.after Table.empty before).events (refused :: between)))
    (hbetween : ∀ c ∈ between, c.now ≤ retryAt refused.now r) {again : LimiterCall}
    (hkey : again.key = refused.call.key) (hlimit : again.limit = refused.call.limit) :
    ((RateLimits.after Table.empty (before ++ refused :: between)).call
        ⟨retryAt refused.now r, again⟩).2 = none ↔
      LeavesInTime (RateLimits.after Table.empty before) refused.call.key refused.now
        refused.call.limit := by
  have hfull := (call_admitted_iff (RateLimits.after Table.empty before) refused).not.mp
    (by rw [hrefused]; exact Option.some_ne_none r)
  obtain ⟨oldest, holdest, hr⟩ := call_refused _ _ hpos hrefused
  have hbefore : ∀ c ∈ before, c.now ≤ refused.now := fun c hc =>
    (List.pairwise_append.mp hcalls).2.2 c hc refused (by simp)
  have hone : 1 ≤ r := by
    rw [hr]
    exact le_max_right _ _
  have hgrows : refused.now ≤ retryAt refused.now r := by
    show refused.now ≤ refused.now + r * 1000000000
    exact Int.le_add_of_nonneg_right (by omega)
  have hlater : ∀ c ∈ before ++ refused :: between, c.now ≤ retryAt refused.now r := by
    intro c hc
    rcases List.mem_append.mp hc with hc | hc
    · exact le_trans (hbefore c hc) hgrows
    · rcases List.mem_cons.mp hc with rfl | hc
      · exact hgrows
      · exact hbetween c hc
  rw [call_admitted_iff]
  show ((RateLimits.after Table.empty (before ++ refused :: between)).live again.key
    (retryAt refused.now r)).length < again.limit ↔ _
  rw [hkey, hlimit, live_later hcalls hbefore hlater hgrows hnothing]
  -- the entries in the window of the refused call, in order
  have hsorted : ((RateLimits.after Table.empty before).live refused.call.key
      refused.now).Pairwise (· ≤ ·) := by
    rw [live_eq (hcalls.sublist (List.sublist_append_left _ _)) hbefore]
    exact pairwise_newer (recordedOn_pairwise (hcalls.sublist (List.sublist_append_left _ _)) _ _)
  have hnewer : ∀ t ∈ (RateLimits.after Table.empty before).live refused.call.key refused.now,
      refused.now - rateLimitWindow < t := fun t ht => (mem_newer.mp ht).2
  rw [LeavesInTime]
  generalize (RateLimits.after Table.empty before).live refused.call.key refused.now = live at *
  rw [length_newer_lt_iff hsorted hpos (not_lt.mp hfull)]
  have hlen : live.length - refused.call.limit < live.length := by omega
  have hfirst : oldest ∈ live := List.mem_of_head? holdest
  have hle : oldest ≤ live[live.length - refused.call.limit] := by
    cases live with
    | nil => cases hfirst
    | cons t live =>
      obtain rfl : t = oldest := by simpa using holdest
      rcases List.mem_cons.mp (List.getElem_mem hlen) with heq | hmem
      · exact le_of_eq heq.symm
      · exact (List.pairwise_cons.mp hsorted).1 _ hmem
  rw [hr, told_seconds_iff (hnewer oldest hfirst) hle, holdest, List.getElem?_eq_getElem hlen]
  simp

/-- **The rate limiter.**  In every run of calls made one after another from no entries, at
most `limit` calls are admitted and counted under a key in any minute; and a refused call
that is made again after the seconds it was told, with nothing recorded under its key in
between, is admitted just when the entry that matters leaves the window in time. -/
theorem rate_limiter_exact {calls : List TimedCall} (hcalls : InOrder calls) :
    (∀ key limit start, admittedIn key limit start (RateLimits.events Table.empty calls) ≤ limit) ∧
    ∀ before refused between, calls = before ++ refused :: between → 0 < refused.call.limit →
      ∀ r, ((RateLimits.after Table.empty before).call refused).2 = some r →
      RecordsNothing refused.call.key
        ((RateLimits.after Table.empty before).events (refused :: between)) →
      (∀ c ∈ between, c.now ≤ retryAt refused.now r) →
      ∀ again : LimiterCall, again.key = refused.call.key → again.limit = refused.call.limit →
        (((RateLimits.after Table.empty calls).call ⟨retryAt refused.now r, again⟩).2 = none ↔
          LeavesInTime (RateLimits.after Table.empty before) refused.call.key refused.now
            refused.call.limit) := by
  refine ⟨fun key limit start => admittedIn_le hcalls key limit start, ?_⟩
  rintro before refused between rfl hpos r hrefused hnothing hbetween again hkey hlimit
  exact retry_admitted_iff hcalls hpos hrefused hnothing hbetween hkey hlimit

/-- One apply of a story, by an actor who may make one in a minute. -/
def applyAt (now : DateTime) : TimedCall :=
  ⟨now, .checkAndRecordRateLimit "story_apply" "u1" "story_apply_update" 1⟩

/-- A failed confirmation of the same actor, recorded at an instant. -/
def failedAt (now : DateTime) : TimedCall :=
  ⟨now, .recordRateLimitEvent "story_failed_confirmation" "u1" "story_apply_update"⟩

/-- The check of the failed confirmations, of which one in a minute is let through. -/
def failuresAt (now : DateTime) : TimedCall :=
  ⟨now, .checkRateLimitOnly "story_failed_confirmation" "u1" "story_apply_update" 1⟩

/-- An apply ten seconds after another is told fifty seconds, and is then admitted. -/
theorem rate_limiter_exact_applies :
    InOrder [applyAt 0, applyAt (durationSeconds 10)] ∧
      ((RateLimits.after Table.empty [applyAt 0]).call (applyAt (durationSeconds 10))).2 = some 50 ∧
      ((RateLimits.after Table.empty [applyAt 0, applyAt (durationSeconds 10)]).call
        ⟨retryAt (durationSeconds 10) 50, (applyAt 0).call⟩).2 = none ∧
      admittedIn (applyAt 0).call.key 1 0
        (RateLimits.events Table.empty [applyAt 0, applyAt (durationSeconds 10)]) ≤ 1 := by
  have hcalls : InOrder [applyAt 0, applyAt (durationSeconds 10)] := by
    simp [InOrder, applyAt, durationSeconds]
  have hlive : (RateLimits.after Table.empty [applyAt 0]).live (applyAt 0).call.key
      (durationSeconds 10) = [0] := by decide
  refine ⟨hcalls, by decide, ?_, (rate_limiter_exact hcalls).1 _ _ _⟩
  refine ((rate_limiter_exact hcalls).2 [applyAt 0] (applyAt (durationSeconds 10)) [] rfl
    (by decide) 50 (by decide) ?_ (by simp) (applyAt 0).call rfl rfl).mpr ?_
  · intro e he
    obtain rfl := List.mem_singleton.mp he
    decide
  · refine ⟨0, 0, ?_, ?_, .inr ⟨rfl, by decide⟩⟩
    · exact congrArg List.head? hlive
    · show ((RateLimits.after Table.empty [applyAt 0]).live (applyAt 0).call.key
        (durationSeconds 10))[_ - 1]? = some 0
      rw [hlive]
      rfl

/-- The fraction of a second is dropped: the call is told fifty seconds and refused again
half a second before the entry leaves.  And the oldest entry alone is looked at: after
the seconds told, the second of two recorded failures still fills the bucket. -/
theorem told_too_early :
    ((RateLimits.after Table.empty [applyAt 500000000]).call
        (applyAt (durationSeconds 10))).2 = some 50 ∧
      ((RateLimits.after Table.empty [applyAt 500000000, applyAt (durationSeconds 10)]).call
        (applyAt (retryAt (durationSeconds 10) 50))).2 = some 1 ∧
      ((RateLimits.after Table.empty [failedAt 0, failedAt (durationSeconds 30)]).call
        (failuresAt (durationSeconds 40))).2 = some 20 ∧
      ((RateLimits.after Table.empty [failedAt 0, failedAt (durationSeconds 30),
        failuresAt (durationSeconds 40)]).call
          (failuresAt (retryAt (durationSeconds 40) 20))).2 = some 30 := by
  refine ⟨by decide, by decide, by decide, by decide⟩

end SnowAgent
