import SnowAgent.PlanStore
import SnowAgent.Timestamps

/-! # Stored instants

`to_rfc3339` writes an instant of the years 0 to 9999 with a year of four digits, no fraction of a
second or one of 3, 6 or 9 digits, and `+00:00`.  The texts have four lengths, and are in the order
of their instants all the same: `sweep_expired` compares nothing else.
-/
namespace SnowAgent

open Chrono FixedWidth

/-! ## Days in their order -/

variable (year : Int)

theorem daysBefore_succ {month : Nat} (h : 1 ≤ month) :
    daysBefore year (month + 1) = daysBefore year month + daysInMonth year month := by
  rw [daysBefore, List.range_succ, List.drop_append_of_le_length (by simpa using h),
    List.foldl_append]
  rfl

theorem daysBefore_le {month month' : Nat} (h : 1 ≤ month) (hle : month < month') :
    daysBefore year month + daysInMonth year month ≤ daysBefore year month' := by
  induction month' with
  | zero => omega
  | succ last ih =>
    rw [daysBefore_succ year (by omega)]
    by_cases hlast : month = last
    · rw [hlast]
    · have := ih (by omega)
      omega

theorem daysBefore_year : daysBefore year 13 = if isLeap year then 366 else 365 := by
  unfold daysBefore daysInMonth
  cases isLeap year <;> decide

/-- The days before a year. -/
def daysBeforeYear (year : Int) : Int :=
  365 * (year - 1) + (year - 1) / 4 - (year - 1) / 100 + (year - 1) / 400

theorem daysBeforeYear_succ :
    daysBeforeYear (year + 1) = daysBeforeYear year + daysBefore year 13 := by
  have hleap : isLeap year = true ↔ year % 4 = 0 ∧ (year % 100 ≠ 0 ∨ year % 400 = 0) := by
    simp [isLeap]
  rw [daysBefore_year, daysBeforeYear, daysBeforeYear]
  by_cases h : isLeap year = true
  · have := hleap.mp h
    rw [if_pos h]
    omega
  · have := mt hleap.mpr h
    rw [if_neg h]
    omega

theorem daysBeforeYear_mono {year year' : Int} (h : year ≤ year') :
    daysBeforeYear year ≤ daysBeforeYear year' := by
  unfold daysBeforeYear
  omega

/-- A later date has a greater number. -/
theorem numDaysFromCe_lt {date date' : NaiveDate}
    (h : date.year < date'.year ∨ date.year = date'.year ∧
      (date.month < date'.month ∨ date.month = date'.month ∧ date.day < date'.day)) :
    date.numDaysFromCe < date'.numDaysFromCe := by
  obtain ⟨-, hmonth, hday⟩ := date.valid
  obtain ⟨-, hmonth', hday'⟩ := date'.valid
  show daysBeforeYear date.year + _ + _ < daysBeforeYear date'.year + _ + _
  have hend := daysBefore_le date.year hmonth.1 (show date.month < 13 by omega)
  rcases h with hyear | ⟨hyear, hmonths | ⟨hsame, hdays⟩⟩
  · have hsucc := daysBeforeYear_succ date.year
    have hmono := daysBeforeYear_mono (show date.year + 1 ≤ date'.year by omega)
    omega
  · have hle := daysBefore_le date.year hmonth.1 hmonths
    rw [← hyear]
    omega
  · rw [← hyear, ← hsame]
    omega

/-! ## Instants by the calendar -/

/-- An instant of the years 0 to 9999, by its date, its time and its nanosecond. -/
structure UtcInstant where
  moment : NaiveDateTime
  nanosecond : Nat
  valid : moment.Writable ∧ moment.second < 60 ∧ nanosecond < 1000000000

namespace UtcInstant

/-- The instant itself: the day 719163 is the first of 1970. -/
def dateTime (u : UtcInstant) : DateTime :=
  durationSeconds ((u.moment.date.numDaysFromCe - 719163) * 86400 +
    (u.moment.hour * 3600 + u.moment.minute * 60 + u.moment.second : Nat)) + u.nanosecond

/-- An instant is before another, the years deciding first and the nanoseconds last. -/
def Before (u v : UtcInstant) : Prop :=
  u.moment.Before v.moment ∨ u.moment = v.moment ∧ u.nanosecond < v.nanosecond

/-- The places of the whole seconds. -/
def layout : Layout := [([], 4), (['-'], 2), (['-'], 2), (['T'], 2), ([':'], 2), ([':'], 2)]

/-- The whole seconds. -/
def seconds (u : UtcInstant) : List Char :=
  render layout (u.moment.date.year.toNat :: u.moment.numbers)

/-- The fraction of a second in so many digits, and the zone. -/
def fraction (places n : Nat) : List Char :=
  (if places = 0 then [] else '.' :: digits places (n / 10 ^ (9 - places))) ++ "+00:00".toList

/-- The text with so many digits of the fraction. -/
def text (u : UtcInstant) (places : Nat) : String :=
  String.ofList (u.seconds ++ fraction places u.nanosecond)

end UtcInstant

/-- What `to_rfc3339` writes: the whole seconds, the fraction in 0, 3, 6 or 9 digits that say it in
full, and the zone. -/
def WritesInstants (rfc3339 : Rfc3339) : Prop :=
  ∀ u : UtcInstant, ∃ places ∈ [0, 3, 6, 9],
    10 ^ (9 - places) ∣ u.nanosecond ∧ rfc3339 u.dateTime = u.text places

namespace UtcInstant

variable {u v : UtcInstant}

theorem dateTime_lt (h : u.Before v) : u.dateTime < v.dateTime := by
  obtain ⟨-, hsecond, hnanos⟩ := u.valid
  obtain ⟨-, hsecond', hnanos'⟩ := v.valid
  have htime := u.moment.valid
  have htime' := v.moment.valid
  have hdays : u.moment.date.numDaysFromCe < v.moment.date.numDaysFromCe →
      u.dateTime < v.dateTime := by
    intro hlt
    unfold dateTime durationSeconds
    show (_ : Int) < _
    omega
  rcases h with h | ⟨hsame, hlt⟩
  · rw [NaiveDateTime.before_iff] at h
    rcases h with hyear | ⟨hyear, hmonth | ⟨hmonth, hday | ⟨hday, htimes⟩⟩⟩
    · exact hdays (numDaysFromCe_lt (.inl hyear))
    · exact hdays (numDaysFromCe_lt (.inr ⟨hyear, .inl hmonth⟩))
    · exact hdays (numDaysFromCe_lt (.inr ⟨hyear, .inr ⟨hmonth, hday⟩⟩))
    · have hdate : u.moment.date.numDaysFromCe = v.moment.date.numDaysFromCe := by
        rw [NaiveDate.numDaysFromCe, NaiveDate.numDaysFromCe, hyear, hmonth, hday]
      unfold dateTime durationSeconds
      rw [hdate]
      show (_ : Int) < _
      omega
  · unfold dateTime durationSeconds
    rw [hsame]
    show (_ : Int) < _
    omega

/-- Of two instants, one is before the other, or they are the same. -/
theorem before_trichotomy (u v : UtcInstant) : u.Before v ∨ u = v ∨ v.Before u := by
  rcases NaiveDateTime.before_trichotomy u.moment v.moment with h | h | h
  · exact .inl (.inl h)
  · rcases Nat.lt_trichotomy u.nanosecond v.nanosecond with hn | hn | hn
    · exact .inl (.inr ⟨h, hn⟩)
    · refine .inr (.inl ?_)
      cases u
      cases v
      cases h
      cases hn
      rfl
    · exact .inr (.inr (.inr ⟨h.symm, hn⟩))
  · exact .inr (.inr (.inl h))

/-! ## The texts in their order -/

theorem digits_add (width more n : Nat) :
    digits (width + more) n = digits width (n / 10 ^ more) ++ digits more n := by
  induction more generalizing n with
  | zero => simp [digits]
  | succ more ih =>
    rw [← Nat.add_assoc, digits, ih, digits, List.append_assoc, Nat.pow_succ',
      Nat.div_div_eq_div_mul]

/-- Digits go on where the zone follows after fewer: the sign is before every digit. -/
theorem zone_lt_digits {more n : Nat} (h : more ≠ 0) (rest rest' : List Char) :
    '+' :: rest < digits more n ++ rest' := by
  obtain ⟨c, cs, hcs⟩ : ∃ c cs, digits more n = c :: cs :=
    List.exists_cons_of_length_pos (by rw [length_digits]; omega)
  have hlt : '+' < c := digits_all (P := fun c => '+' < c) (by decide) c (hcs ▸ List.mem_cons_self)
  rw [hcs, List.cons_append, List.cons_lt_cons_iff]
  exact .inl hlt

/-- **Fractions of any two lengths are in the order of their numbers.** -/
theorem fraction_lt {p q m n : Nat} (hp : p ∈ [0, 3, 6, 9]) (hq : q ∈ [0, 3, 6, 9])
    (hm : 10 ^ (9 - p) ∣ m) (hn : 10 ^ (9 - q) ∣ n) (hlt : m < n) (hbound : n < 1000000000) :
    fraction p m < fraction q n := by
  have hq0 : q ≠ 0 := by
    rintro rfl
    obtain ⟨k, rfl⟩ := hn
    omega
  unfold fraction
  rw [if_neg hq0]
  by_cases hp0 : p = 0
  · rw [if_pos hp0]
    exact List.cons_lt_cons_iff.mpr (.inl (by decide))
  rw [if_neg hp0, List.cons_append, List.cons_append, List.cons_lt_cons_iff]
  refine .inr ⟨rfl, ?_⟩
  obtain ⟨a, rfl⟩ := hm
  obtain ⟨b, rfl⟩ := hn
  rw [Nat.mul_div_cancel_left _ (by positivity), Nat.mul_div_cancel_left _ (by positivity)]
  have hp9 : p ≤ 9 := by simp at hp; omega
  have hq9 : q ≤ 9 := by simp at hq; omega
  have hpow : ∀ {k}, k ≤ 9 → 10 ^ (9 - k) * 10 ^ k = 1000000000 := by
    intro k hk
    rw [← Nat.pow_add, Nat.sub_add_cancel hk]
  have hb : b < 10 ^ q := Nat.lt_of_mul_lt_mul_left (hbound.trans_eq (hpow hq9).symm)
  have ha : a < 10 ^ p := Nat.lt_of_mul_lt_mul_left ((hlt.trans hbound).trans_eq (hpow hp9).symm)
  by_cases hle : p ≤ q
  · obtain ⟨k, rfl⟩ := Nat.exists_eq_add_of_le hle
    have hab : 10 ^ k * a < b := by
      refine Nat.lt_of_mul_lt_mul_left (a := 10 ^ (9 - (p + k))) ?_
      rwa [← Nat.mul_assoc, ← Nat.pow_add, show 9 - (p + k) + k = 9 - p by omega]
    have hquotient : a ≤ b / 10 ^ k :=
      (Nat.le_div_iff_mul_le (by positivity)).mpr (by rw [Nat.mul_comm]; exact hab.le)
    have hsmall : b / 10 ^ k < 10 ^ p := Nat.div_lt_of_lt_mul (by rwa [← Nat.pow_add, Nat.add_comm])
    rw [digits_add, List.append_assoc, append_lt_append_iff (by simp), digits_lt_iff ha hsmall,
      digits_inj ha hsmall]
    rcases hquotient.lt_or_eq with hless | heq
    · exact .inl hless
    · refine .inr ⟨heq, zone_lt_digits ?_ _ _⟩
      rintro rfl
      simp at heq hab
      omega
  · obtain ⟨k, rfl⟩ := Nat.exists_eq_add_of_le (Nat.le_of_not_le hle)
    have hab : a < 10 ^ k * b := by
      refine Nat.lt_of_mul_lt_mul_left (a := 10 ^ (9 - (q + k))) ?_
      rwa [← Nat.mul_assoc, ← Nat.pow_add, show 9 - (q + k) + k = 9 - q by omega]
    have hquotient : a / 10 ^ k < b := Nat.div_lt_of_lt_mul hab
    rw [digits_add, List.append_assoc, append_lt_append_iff (by simp),
      digits_lt_iff (hquotient.trans hb) hb]
    exact .inl hquotient

/-- A text of an earlier instant is before one of a later instant. -/
theorem text_lt (h : u.Before v) {p q : Nat} (hp : p ∈ [0, 3, 6, 9]) (hq : q ∈ [0, 3, 6, 9])
    (hu : 10 ^ (9 - p) ∣ u.nanosecond) (hv : 10 ^ (9 - q) ∣ v.nanosecond) :
    u.text p < v.text q := by
  have hfits : ∀ t : NaiveDateTime, t.Writable → Fits layout (t.date.year.toNat :: t.numbers) :=
    fun t ht => NaiveDateTime.fits ht
  have hlength : u.seconds.length = v.seconds.length := by
    simp [seconds, render, layout, NaiveDateTime.numbers]
  rw [text, text, String.lt_iff_toList_lt, String.toList_ofList, String.toList_ofList,
    append_lt_append_iff hlength]
  rcases h with hbefore | ⟨hsame, hlt⟩
  · have hyear := u.valid.1
    have hyear' := v.valid.1
    refine .inl ((render_lt_iff (hfits _ hyear) (hfits _ hyear')).mpr ?_)
    rw [List.cons_lt_cons_iff]
    rcases hbefore with hlt | ⟨heq, hlt⟩
    · exact .inl (by have := hyear.1; omega)
    · exact .inr ⟨by rw [heq], hlt⟩
  · refine .inr ⟨by rw [seconds, hsame, seconds], ?_⟩
    exact fraction_lt hp hq hu hv hlt v.valid.2.2

theorem dateTime_injective : Function.Injective dateTime := by
  intro u v h
  rcases before_trichotomy u v with hbefore | hsame | hafter
  · exact absurd h (dateTime_lt hbefore).ne
  · exact hsame
  · exact absurd h (dateTime_lt hafter).ne'

/-- **Stored texts are in the order of their instants.** -/
theorem rfc3339_lt_iff {rfc3339 : Rfc3339} (h : WritesInstants rfc3339) (u v : UtcInstant) :
    rfc3339 u.dateTime < rfc3339 v.dateTime ↔ u.dateTime < v.dateTime := by
  have hlt : ∀ {u v : UtcInstant}, u.Before v → rfc3339 u.dateTime < rfc3339 v.dateTime := by
    intro u v hbefore
    obtain ⟨p, hp, hu, hutext⟩ := h u
    obtain ⟨q, hq, hv, hvtext⟩ := h v
    rw [hutext, hvtext]
    exact text_lt hbefore hp hq hu hv
  rcases before_trichotomy u v with hbefore | rfl | hafter
  · exact iff_of_true (hlt hbefore) (dateTime_lt hbefore)
  · exact iff_of_false (lt_irrefl _) (lt_irrefl _)
  · exact iff_of_false (hlt hafter).asymm (dateTime_lt hafter).asymm

end UtcInstant

/-! ## The sweep -/

/-- `sweep_expired`: pending plans whose text is not after that of the instant are expired. -/
def SqlitePlanStore.sweepExpired (rfc3339 : Rfc3339) (now : DateTime) (store : SqlitePlanStore) :
    SqlitePlanStore :=
  ⟨fun planId => (store.row planId).map fun record =>
    if record.state = .pending ∧ rfc3339 record.expiresAt ≤ rfc3339 now then
      { record with state := .expired }
    else record⟩

/-- An instant of the years 0 to 9999. -/
def InWrittenYears (t : DateTime) : Prop := ∃ u : UtcInstant, u.dateTime = t

/-- **Stored timestamps order like time**, so a sweep expires the pending plans whose time is not
after its instant and no others, and a consumed plan stays consumed. -/
theorem stored_instants_in_order (rfc3339 : Rfc3339) (h : WritesInstants rfc3339) :
    (∀ s t, InWrittenYears s → InWrittenYears t →
      (rfc3339 s < rfc3339 t ↔ s < t) ∧ (rfc3339 s = rfc3339 t ↔ s = t)) ∧
    (∀ (store : SqlitePlanStore) now, InWrittenYears now →
      (∀ planId record, store.row planId = some record → InWrittenYears record.expiresAt) →
      ∀ planId, (store.sweepExpired rfc3339 now).row planId = (store.row planId).map fun record =>
          if record.state = .pending ∧ record.expiresAt ≤ now then
            { record with state := .expired }
          else record) ∧
    ∀ (store : SqlitePlanStore) planId record, store.row planId = some record →
      record.state = .consumed →
      (∀ now, (store.sweepExpired rfc3339 now).row planId = some record) ∧
        ∀ planId', (store.markExpired planId').row planId = some record := by
  have horder : ∀ s t, InWrittenYears s → InWrittenYears t → (rfc3339 s < rfc3339 t ↔ s < t) := by
    rintro _ _ ⟨u, rfl⟩ ⟨v, rfl⟩
    exact UtcInstant.rfc3339_lt_iff h u v
  refine ⟨fun s t hs ht => ⟨horder s t hs ht, ?_⟩, fun store now hnow hrows planId => ?_,
    fun store planId record hrow hconsumed => ⟨fun now => ?_, fun planId' => ?_⟩⟩
  · refine ⟨fun heq => le_antisymm (not_lt.mp fun hlt => ?_) (not_lt.mp fun hlt => ?_), congrArg _⟩
    · exact heq.not_gt ((horder t s ht hs).mpr hlt)
    · exact heq.not_lt ((horder s t hs ht).mpr hlt)
  · show (store.row planId).map _ = _
    rcases hrow : store.row planId with _ | record
    · rfl
    · have hle : rfc3339 record.expiresAt ≤ rfc3339 now ↔ record.expiresAt ≤ now := by
        rw [← not_lt, ← not_lt, horder now _ hnow (hrows planId record hrow)]
      simp only [Option.map_some, hle]
  · simp [SqlitePlanStore.sweepExpired, hrow, hconsumed]
  · by_cases hsame : planId = planId'
    · subst hsame
      rw [SqlitePlanStore.markExpired, Table.row_update_self, hrow, Option.map_some,
        if_pos hconsumed]
    · rw [SqlitePlanStore.markExpired, Table.row_update_of_ne _ _ hsame, hrow]

/-! ## A plan of the new year -/

/-- The fewest digits that say a fraction in full. -/
def fewestPlaces (nanosecond : Nat) : Nat :=
  if nanosecond = 0 then 0
  else if nanosecond % 1000000 = 0 then 3
  else if nanosecond % 1000 = 0 then 6
  else 9

open Classical in
/-- The text of an instant with the fewest digits, if its year has four digits. -/
noncomputable def calendarText : Rfc3339 := fun t =>
  if h : InWrittenYears t then h.choose.text (fewestPlaces h.choose.nanosecond) else ""

theorem writesInstants_calendarText : WritesInstants calendarText := by
  intro u
  have hyears : InWrittenYears u.dateTime := ⟨u, rfl⟩
  have hsame : hyears.choose = u := UtcInstant.dateTime_injective hyears.choose_spec
  have hplaces : ∀ n, fewestPlaces n ∈ [0, 3, 6, 9] ∧ 10 ^ (9 - fewestPlaces n) ∣ n := by
    intro n
    unfold fewestPlaces
    split_ifs with hnone hthree hsix
    · exact ⟨by decide, by simp [hnone]⟩
    · exact ⟨by decide, Nat.dvd_of_mod_eq_zero hthree⟩
    · exact ⟨by decide, Nat.dvd_of_mod_eq_zero hsix⟩
    · exact ⟨by decide, one_dvd _⟩
  refine ⟨_, (hplaces u.nanosecond).1, (hplaces u.nanosecond).2, ?_⟩
  rw [calendarText, dif_pos hyears, hsame]

/-- The start of 2026, and so many nanoseconds later. -/
def newYearInstant (nanosecond : Nat) (h : nanosecond < 1000000000) : UtcInstant :=
  ⟨⟨⟨2026, 1, 1, by decide⟩, 0, 0, 0, NaiveDateTime.first.valid⟩, nanosecond, by decide, by decide, h⟩

/-- A plan that expires as 2026 starts. -/
def newYearPlan : PlanStoreRecord :=
  ⟨"plan-1", "story_plan_create", "actor-1", "hash-1",
    ⟨⟨"plan-1", "story_plan_create", none, .null, "hash-1"⟩, "story_apply_create", [], []⟩, none,
    newYear, newYear, .pending⟩

/-- It is expired by a sweep half a second later, whose text has a fraction. -/
theorem new_year_plan_swept :
    ((SqlitePlanStore.put newYearPlan .empty).sweepExpired calendarText
      (newYear + 500000000)).row "plan-1" = some { newYearPlan with state := .expired } := by
  have hnow : InWrittenYears (newYear + 500000000) :=
    ⟨newYearInstant 500000000 (by decide), by decide⟩
  have hrow : (SqlitePlanStore.put newYearPlan .empty).row "plan-1" = some newYearPlan := by decide
  refine ((stored_instants_in_order calendarText writesInstants_calendarText).2.1 _ _ hnow
    (fun planId record h => ?_) "plan-1").trans (by rw [hrow]; decide)
  rcases Table.row_put_eq_some h with ⟨-, h⟩ | ⟨-, rfl⟩
  · cases h
  · exact ⟨newYearInstant 0 (by decide), by decide⟩

end SnowAgent
