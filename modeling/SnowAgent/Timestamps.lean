import SnowAgent.Chrono
import SnowAgent.FixedWidth
import SnowAgent.Letters

/-! # Timestamps

The format `%Y-%m-%d %H:%M:%S` as `chrono` reads it, and the one text of that form that a moment has
when all numbers have the width of their place.  These texts are in the order of their moments.
-/
namespace SnowAgent.Chrono

open Text FixedWidth

/-! ## Moments -/

/-- `NaiveDateTime`, with the second `60` for a leap second. -/
structure NaiveDateTime where
  date : NaiveDate
  hour : Nat
  minute : Nat
  second : Nat
  valid : hour < 24 ∧ minute < 60 ∧ second ≤ 60
deriving DecidableEq

namespace NaiveDateTime

/-- The numbers after the year. -/
def numbers (t : NaiveDateTime) : List Nat := [t.date.month, t.date.day, t.hour, t.minute, t.second]

/-- A moment is before another. -/
def Before (t u : NaiveDateTime) : Prop :=
  t.date.year < u.date.year ∨ t.date.year = u.date.year ∧ t.numbers < u.numbers

instance (t u : NaiveDateTime) : Decidable (t.Before u) :=
  inferInstanceAs (Decidable (_ ∨ _ ∧ _))

/-- The year has four digits. -/
def Writable (t : NaiveDateTime) : Prop := 0 ≤ t.date.year ∧ t.date.year ≤ 9999

instance (t : NaiveDateTime) : Decidable t.Writable := inferInstanceAs (Decidable (_ ∧ _))

/-- The places of `YYYY-MM-DD HH:MM:SS`. -/
def layout : Layout := [([], 4), (['-'], 2), (['-'], 2), ([' '], 2), ([':'], 2), ([':'], 2)]

/-- `YYYY-MM-DD HH:MM:SS`. -/
def text (t : NaiveDateTime) : String :=
  String.ofList (render layout (t.date.year.toNat :: t.numbers))

end NaiveDateTime

/-- `%Y-%m-%d %H:%M:%S`, and what follows it. -/
def scanDateTime (cs : List Char) :
    Option ((Int × Nat × Nat) × (Nat × Nat × Nat) × List Char) := do
  let (numbers, cs) ← scanDate cs
  let (hour, cs) ← scanTwo (trimStart cs)
  let cs ← scanLiteral ':' cs
  let (minute, cs) ← scanTwo cs
  let cs ← scanLiteral ':' cs
  let (second, cs) ← scanTwo cs
  return (numbers, (hour, minute, second), cs)

/-- The moment of a date and the numbers of a time, if there is one. -/
def NaiveDateTime.ofNumbers (date : NaiveDate) (time : Nat × Nat × Nat) : Option NaiveDateTime :=
  if h : time.1 < 24 ∧ time.2.1 < 60 ∧ time.2.2 ≤ 60 then
    some ⟨date, time.1, time.2.1, time.2.2, h⟩
  else none

/-- `NaiveDateTime::parse_from_str` with `%Y-%m-%d %H:%M:%S`. -/
def parseDateTime (text : String) : Option NaiveDateTime := do
  let (numbers, time, rest) ← scanDateTime text.toList
  if rest = [] then (NaiveDate.ofNumbers numbers).bind fun date => NaiveDateTime.ofNumbers date time
  else none

/-! ## The order of the texts -/

namespace NaiveDateTime

variable {t u : NaiveDateTime}

theorem month_lt (t : NaiveDateTime) : t.date.month < 100 := by
  have := t.date.valid.2.1.2
  omega

theorem daysInMonth_le (year : Int) (month : Nat) : daysInMonth year month ≤ 31 := by
  unfold daysInMonth
  split_ifs <;> omega

theorem day_lt (t : NaiveDateTime) : t.date.day < 100 := by
  have hday := t.date.valid.2.2.2
  have := daysInMonth_le t.date.year t.date.month
  omega

/-- The numbers of a moment fit their places. -/
theorem fits (ht : t.Writable) : Fits layout (t.date.year.toNat :: t.numbers) := by
  have hyear := ht.2
  have htime := t.valid
  exact ⟨by omega, by have := t.month_lt; omega, by have := t.day_lt; omega, by omega, by omega,
    by omega, trivial⟩

/-- **The texts are in the order of their moments.** -/
theorem text_lt_iff (ht : t.Writable) (hu : u.Writable) : t.text < u.text ↔ t.Before u := by
  have hnot := ht.1
  have hnot' := hu.1
  rw [text, text, String.lt_iff_toList_lt, String.toList_ofList, String.toList_ofList,
    render_lt_iff (fits ht) (fits hu), List.cons_lt_cons_iff, Before]
  have hlt : t.date.year.toNat < u.date.year.toNat ↔ t.date.year < u.date.year := by omega
  have heq : t.date.year.toNat = u.date.year.toNat ↔ t.date.year = u.date.year := by omega
  rw [hlt, heq]

theorem ext_numbers (hyear : t.date.year = u.date.year)
    (hnumbers : t.numbers = u.numbers) : t = u := by
  obtain ⟨⟨year, month, day, hdate⟩, hour, minute, second, htime⟩ := t
  obtain ⟨⟨year', month', day', hdate'⟩, hour', minute', second', htime'⟩ := u
  obtain ⟨rfl, rfl, rfl, rfl, rfl⟩ : month = month' ∧ day = day' ∧ hour = hour' ∧
      minute = minute' ∧ second = second' := by
    simpa [numbers] using hnumbers
  obtain rfl : year = year' := hyear
  rfl

/-- Of two moments, one is before the other, or they are the same. -/
theorem before_trichotomy (t u : NaiveDateTime) : t.Before u ∨ t = u ∨ u.Before t := by
  rcases lt_trichotomy t.date.year u.date.year with h | h | h
  · exact Or.inl (Or.inl h)
  · rcases lt_trichotomy t.numbers u.numbers with hn | hn | hn
    · exact Or.inl (Or.inr ⟨h, hn⟩)
    · exact Or.inr (Or.inl (ext_numbers h hn))
    · exact Or.inr (Or.inr (Or.inr ⟨h.symm, hn⟩))
  · exact Or.inr (Or.inr (Or.inl h))

theorem Before.irrefl (t : NaiveDateTime) : ¬ t.Before t := by
  rintro (h | ⟨-, h⟩)
  · exact lt_irrefl _ h
  · exact lt_irrefl _ h

theorem Before.trans {v : NaiveDateTime} (h : t.Before u) (h' : u.Before v) : t.Before v := by
  rcases h with h | ⟨hyear, h⟩
  · rcases h' with h' | ⟨hyear', -⟩
    · exact Or.inl (h.trans h')
    · exact Or.inl (hyear' ▸ h)
  · rcases h' with h' | ⟨hyear', h'⟩
    · exact Or.inl (hyear ▸ h')
    · exact Or.inr ⟨hyear.trans hyear', h.trans h'⟩

end NaiveDateTime

/-! ## The moment before -/

/-- The day before a date, in the range of dates. -/
def NaiveDate.previous (date : NaiveDate) : Option NaiveDate :=
  if 1 < date.day then NaiveDate.ofNumbers (date.year, date.month, date.day - 1)
  else if 1 < date.month then
    NaiveDate.ofNumbers (date.year, date.month - 1, daysInMonth date.year (date.month - 1))
  else NaiveDate.ofNumbers (date.year - 1, 12, 31)

namespace NaiveDateTime

/-- The last moment before one, whole seconds and leap seconds counted. -/
def previous (t : NaiveDateTime) : Option NaiveDateTime :=
  if 0 < t.second then ofNumbers t.date (t.hour, t.minute, t.second - 1)
  else if 0 < t.minute then ofNumbers t.date (t.hour, t.minute - 1, 60)
  else if 0 < t.hour then ofNumbers t.date (t.hour - 1, 59, 60)
  else t.date.previous.bind fun date => ofNumbers date (23, 59, 60)

variable {t u p : NaiveDateTime}

theorem before_iff : t.Before u ↔ t.date.year < u.date.year ∨ t.date.year = u.date.year ∧
      (t.date.month < u.date.month ∨ t.date.month = u.date.month ∧
        (t.date.day < u.date.day ∨ t.date.day = u.date.day ∧ (t.hour < u.hour ∨ t.hour = u.hour ∧
            (t.minute < u.minute ∨ t.minute = u.minute ∧ t.second < u.second)))) := by
  simp [Before, numbers, List.cons_lt_cons_iff]

variable {date : NaiveDate}

theorem ofNumbers_eq_some {time : Nat × Nat × Nat} (h : ofNumbers date time = some p) :
    p.date = date ∧ p.hour = time.1 ∧ p.minute = time.2.1 ∧ p.second = time.2.2 := by
  unfold ofNumbers at h
  split_ifs at h
  cases h
  exact ⟨rfl, rfl, rfl, rfl⟩

/-- What the day before a date is. -/
theorem previousDate_cases {date p : NaiveDate} (h : date.previous = some p) :
    (1 < date.day ∧ p.year = date.year ∧ p.month = date.month ∧ p.day = date.day - 1) ∨
    (date.day = 1 ∧ 1 < date.month ∧ p.year = date.year ∧ p.month = date.month - 1 ∧
      p.day = daysInMonth date.year (date.month - 1)) ∨
    (date.day = 1 ∧ date.month = 1 ∧ p.year = date.year - 1 ∧ p.month = 12 ∧ p.day = 31) := by
  have hmonth := date.valid.2.1
  have hday := date.valid.2.2
  have hof : ∀ {numbers : Int × Nat × Nat}, NaiveDate.ofNumbers numbers = some p →
      p.year = numbers.1 ∧ p.month = numbers.2.1 ∧ p.day = numbers.2.2 := by
    intro numbers hnumbers
    unfold NaiveDate.ofNumbers at hnumbers
    split_ifs at hnumbers
    cases hnumbers
    exact ⟨rfl, rfl, rfl⟩
  unfold NaiveDate.previous at h
  split_ifs at h with hfirst hjanuary
  · exact Or.inl ⟨hfirst, hof h⟩
  · exact Or.inr (Or.inl ⟨by omega, hjanuary, hof h⟩)
  · exact Or.inr (Or.inr ⟨by omega, by omega, hof h⟩)

/-- What the moment before one is. -/
theorem previous_cases (h : t.previous = some p) :
    (0 < t.second ∧ p.date = t.date ∧ p.hour = t.hour ∧ p.minute = t.minute ∧
      p.second = t.second - 1) ∨
    (t.second = 0 ∧ 0 < t.minute ∧ p.date = t.date ∧ p.hour = t.hour ∧ p.minute = t.minute - 1 ∧
      p.second = 60) ∨
    (t.second = 0 ∧ t.minute = 0 ∧ 0 < t.hour ∧ p.date = t.date ∧ p.hour = t.hour - 1 ∧
      p.minute = 59 ∧ p.second = 60) ∨
    (t.second = 0 ∧ t.minute = 0 ∧ t.hour = 0 ∧ t.date.previous = some p.date ∧ p.hour = 23 ∧
      p.minute = 59 ∧ p.second = 60) := by
  unfold previous at h
  split_ifs at h with hsecond hminute hhour
  · exact Or.inl ⟨hsecond, ofNumbers_eq_some h⟩
  · exact Or.inr (Or.inl ⟨by omega, hminute, ofNumbers_eq_some h⟩)
  · exact Or.inr (Or.inr (Or.inl ⟨by omega, by omega, hhour, ofNumbers_eq_some h⟩))
  · obtain ⟨date, hdate, hp⟩ := Option.bind_eq_some_iff.mp h
    obtain ⟨hsame, hnumbers⟩ := ofNumbers_eq_some hp
    subst hsame
    exact Or.inr (Or.inr (Or.inr ⟨by omega, by omega, by omega, hdate, hnumbers⟩))

/-- It is before. -/
theorem previous_before (h : t.previous = some p) : p.Before t := by
  rw [before_iff]
  rcases previous_cases h with ⟨hpos, hd, hh, hm, hs⟩ | ⟨-, hpos, hd, hh, hm, -⟩ |
    ⟨-, -, hpos, hd, hh, -, -⟩ | ⟨-, -, -, hd, -, -, -⟩
  · rw [hd]
    omega
  · rw [hd]
    omega
  · rw [hd]
    omega
  · rcases previousDate_cases hd with hd | hd | hd
    · omega
    · omega
    · omega

/-- Nothing is between. -/
theorem not_between_previous (h : t.previous = some p) (hu : u.Before t) : ¬ p.Before u := by
  rw [before_iff] at hu ⊢
  have htime := u.valid
  have hmonth := u.date.valid.2.1
  have hday := u.date.valid.2.2
  rcases previous_cases h with ⟨hpos, hd, hh, hm, hs⟩ | ⟨hs0, hpos, hd, hh, hm, hs⟩ |
    ⟨hs0, hm0, hpos, hd, hh, hm, hs⟩ | ⟨hs0, hm0, hh0, hd, hh, hm, hs⟩
  · rw [hd]
    omega
  · rw [hd]
    omega
  · rw [hd]
    omega
  · rcases previousDate_cases hd with hd | ⟨h1, h2, hy, hmo, hda⟩ | hd
    · omega
    · by_cases hsame : u.date.year = t.date.year ∧ u.date.month = t.date.month - 1
      · rw [hsame.1, hsame.2] at hday
        omega
      · omega
    · have hle := daysInMonth_le u.date.year u.date.month
      omega

theorem ofNumbers_isSome {hour minute second : Nat} (hhour : hour < 24) (hminute : minute < 60)
    (hsecond : second ≤ 60) :
    ∃ p, ofNumbers date (hour, minute, second) = some p := by
  rw [ofNumbers, dif_pos ⟨hhour, hminute, hsecond⟩]
  exact ⟨_, rfl⟩

/-- Only the first moment of all has none before it. -/
theorem previous_exists (hyear : -262143 < t.date.year) : ∃ p, t.previous = some p := by
  have htime := t.valid
  have hmonth := t.date.valid.2.1
  have hday := t.date.valid.2.2
  have hlast := t.date.valid.1.2
  have hdate : ∀ {year : Int} {month day : Nat}, ValidDate year month day →
      ∃ p, (NaiveDate.ofNumbers (year, month, day)).bind
        (fun date => ofNumbers date (23, 59, 60)) = some p := by
    intro year month day hvalid
    rw [NaiveDate.ofNumbers, dif_pos hvalid]
    exact ofNumbers_isSome (by omega) (by omega) le_rfl
  unfold previous
  split_ifs
  · exact ofNumbers_isSome htime.1 htime.2.1 (by omega)
  · exact ofNumbers_isSome htime.1 (by omega) le_rfl
  · exact ofNumbers_isSome (by omega) (by omega) le_rfl
  · unfold NaiveDate.previous
    split_ifs
    · exact hdate ⟨⟨by omega, hlast⟩, hmonth, by omega, by omega⟩
    · refine hdate ⟨⟨by omega, hlast⟩, ⟨by omega, by omega⟩, ?_, le_rfl⟩
      show 1 ≤ daysInMonth t.date.year (t.date.month - 1)
      unfold daysInMonth
      split_ifs <;> omega
    · exact hdate ⟨⟨by omega, by omega⟩, by omega, by omega, le_rfl⟩

/-! ## Texts in other forms -/

/-- The first moment with a year of four digits. -/
def first : NaiveDateTime := ⟨⟨0, 1, 1, by decide⟩, 0, 0, 0, by decide⟩

/-- The last moment with a year of four digits. -/
def last : NaiveDateTime := ⟨⟨9999, 12, 31, by decide⟩, 23, 59, 60, by decide⟩

theorem first_le (hu : u.Writable) : first.text ≤ u.text := by
  rw [← not_lt, text_lt_iff hu (by decide), before_iff]
  have hyear := hu.1
  have hvalid := u.date.valid.2
  show ¬ (u.date.year < 0 ∨ u.date.year = 0 ∧ (u.date.month < 1 ∨ u.date.month = 1 ∧
    (u.date.day < 1 ∨ u.date.day = 1 ∧ (u.hour < 0 ∨ u.hour = 0 ∧
      (u.minute < 0 ∨ u.minute = 0 ∧ u.second < 0)))))
  omega

theorem le_last (hu : u.Writable) : u.text ≤ last.text := by
  rw [← not_lt, text_lt_iff (by decide) hu, before_iff]
  have hyear := hu.2
  have hvalid := u.date.valid.2
  have htime := u.valid
  have hday := daysInMonth_le u.date.year u.date.month
  show ¬ (9999 < u.date.year ∨ 9999 = u.date.year ∧ (12 < u.date.month ∨ 12 = u.date.month ∧
    (31 < u.date.day ∨ 31 = u.date.day ∧ (23 < u.hour ∨ 23 = u.hour ∧
      (59 < u.minute ∨ 59 = u.minute ∧ 60 < u.second)))))
  omega

/-- A text that stands for a moment, and compares with all texts of the usual form as the moment
does: it has that form, or the moment has a year of another length and the text is beyond all. -/
structure Standard (s : String) (t : NaiveDateTime) : Prop where
  early : t.date.year < 0 → s < first.text
  late : 9999 < t.date.year → last.text < s
  exact_text : t.Writable → s = t.text

/-- A text that stands for a moment, and has the earlier moments before it: it is not after the text
of the moment, and it is after that of the last moment before. -/
structure Splits (s : String) (t : NaiveDateTime) : Prop where
  early : t.date.year < 0 → s ≤ first.text
  late : 9999 < t.date.year → last.text < s
  le_text : t.Writable → s ≤ t.text
  after : t.Writable → ∀ p, t.previous = some p → p.Writable → p.text < s

theorem text_le_of_not_before (ht : t.Writable) (hu : u.Writable) (h : ¬ u.Before t) :
    t.text ≤ u.text := by
  rw [← not_lt, text_lt_iff hu ht]
  exact h

/-- **When a text compares as its moment.** -/
theorem standard_iff {s : String} {t : NaiveDateTime} :
    (∀ u : NaiveDateTime, u.Writable → (u.text < s ↔ u.Before t) ∧ (s < u.text ↔ t.Before u)) ↔
      Standard s t := by
  constructor
  · intro h
    refine ⟨fun hyear => ?_, fun hyear => ?_, fun ht => ?_⟩
    · exact ((h first (by decide)).2.mpr (Or.inl hyear))
    · exact ((h last (by decide)).1.mpr (Or.inl hyear))
    · refine le_antisymm (not_lt.mp fun hlt => ?_) (not_lt.mp fun hlt => ?_)
      · exact Before.irrefl t ((h t ht).1.mp hlt)
      · exact Before.irrefl t ((h t ht).2.mp hlt)
  · intro h u hu
    have hlow := hu.1
    have hhigh := hu.2
    by_cases hearly : t.date.year < 0
    · have hlt : s < u.text := (h.early hearly).trans_le (first_le hu)
      have hbefore : t.Before u := Or.inl (by omega)
      have hnot : ¬ u.Before t := fun hut => Before.irrefl t (hbefore.trans hut)
      exact ⟨iff_of_false hlt.asymm hnot, iff_of_true hlt hbefore⟩
    · by_cases hlate : 9999 < t.date.year
      · have hlt : u.text < s := (le_last hu).trans_lt (h.late hlate)
        have hbefore : u.Before t := Or.inl (by omega)
        have hnot : ¬ t.Before u := fun htu => Before.irrefl t (htu.trans hbefore)
        exact ⟨iff_of_true hlt hbefore, iff_of_false hlt.asymm hnot⟩
      · have ht : t.Writable := ⟨by omega, by omega⟩
        rw [h.exact_text ht, text_lt_iff hu ht, text_lt_iff ht hu]
        exact ⟨Iff.rfl, Iff.rfl⟩

/-- **When a text splits the texts of the usual form as its moment does.** -/
theorem splits_iff {s : String} {t : NaiveDateTime} :
    (∀ u : NaiveDateTime, u.Writable → (u.text < s ↔ u.Before t)) ↔ Splits s t := by
  constructor
  · intro h
    refine ⟨fun hyear => ?_, fun hyear => ?_, fun ht => ?_, fun ht p hp hpw => ?_⟩
    · refine not_lt.mp fun hlt => ?_
      have hbefore := (h first (by decide)).mp hlt
      rw [before_iff] at hbefore
      have hzero : first.date.year = 0 := rfl
      omega
    · exact (h last (by decide)).mpr (Or.inl hyear)
    · exact not_lt.mp fun hlt => Before.irrefl t ((h t ht).mp hlt)
    · exact (h p hpw).mpr (previous_before hp)
  · intro h u hu
    have hlow := hu.1
    have hhigh := hu.2
    by_cases hearly : t.date.year < 0
    · have hle : s ≤ u.text := (h.early hearly).trans (first_le hu)
      have hbefore : t.Before u := Or.inl (by omega)
      exact iff_of_false hle.not_gt fun hut => Before.irrefl t (hbefore.trans hut)
    · by_cases hlate : 9999 < t.date.year
      · exact iff_of_true ((le_last hu).trans_lt (h.late hlate)) (Or.inl (by omega))
      · have ht : t.Writable := ⟨by omega, by omega⟩
        obtain ⟨p, hp⟩ := previous_exists (t := t) (by omega)
        by_cases hut : u.Before t
        · have hnot := not_between_previous hp hut
          -- the moment before is not before a year of four digits, nor after one
          have hpw : p.Writable := by
            have hpt := previous_before hp
            rw [before_iff] at hnot hpt
            exact ⟨by omega, by omega⟩
          exact iff_of_true ((text_le_of_not_before hu hpw hnot).trans_lt (h.after ht p hp hpw)) hut
        · have hle : s ≤ u.text := (h.le_text ht).trans (text_le_of_not_before ht hu hut)
          exact iff_of_false hle.not_gt hut

end NaiveDateTime

end SnowAgent.Chrono
