import Mathlib.Algebra.GroupWithZero.Nat
import SnowAgent.Letters

/-! # Refresh intervals

The setting `full_sync_interval` is read in two places.  The knowledge service cuts the last
byte off the text and reads the unit there; the refresh strategy takes the digits of the text,
wherever they stand, and the characters between them as the unit.  Both are compared with what an
interval is: a decimal number, a unit letter, and blanks around them.

A duration is its number of seconds.  A panic and a product beyond 64 bits are outcomes of their
own.
-/
namespace SnowAgent

open Text Trimming

/-! ## The two parsers -/

/-- How a parser stops without an answer. -/
inductive Fault where
  /-- `split_at` inside a character. -/
  | notBoundary
  /-- A product that does not fit in 64 bits. -/
  | overflow
deriving DecidableEq

abbrev Parsed := Except Fault (Option Nat)

/-- `u64::MAX`. -/
def u64Max : Nat := 2 ^ 64 - 1

/-- `str::parse` to a `u64`. -/
def parseU64 (cs : List Char) : Option Nat :=
  let digits := match cs with
    | '+' :: rest => rest
    | _ => cs
  (digitsValue digits).filter (· ≤ u64Max)

/-- The seconds of a unit. -/
def intervalUnit : List Char → Option Nat
  | ['s'] => some 1
  | ['m'] => some 60
  | ['h'] => some (60 * 60)
  | ['d'] => some (60 * 60 * 24)
  | _ => none

/-- `Duration::from_secs` of an amount times the seconds of its unit. -/
def fromSecs (amount : Nat) (unit : List Char) : Parsed :=
  match intervalUnit unit with
  | none => .ok none
  | some seconds =>
    if amount * seconds ≤ u64Max then .ok (some (amount * seconds)) else .error .overflow

/-- `str::len`. -/
def strLen (cs : List Char) : Nat := (cs.map Char.utf8Size).sum

/-- `parse_duration` of the knowledge service. -/
def Knowledge.parseDuration (input : String) : Parsed :=
  let chars := input.toList
  if strLen chars < 2 then .ok none
  else
    match chars.getLast? with
    | none => .ok none
    | some unit =>
      -- the last byte is a character, or the end of one
      if 1 < unit.utf8Size then .error .notBoundary
      else
        match parseU64 (trimChars chars.dropLast) with
        | none => .ok none
        | some value => fromSecs value [unit]

/-- `parse_duration` of the refresh strategy. -/
def Refresh.parseDuration (input : String) : Parsed :=
  let trimmed := trimChars input.toList
  if trimmed = [] then .ok none
  else
    match parseU64 (trimmed.filter Char.isDigit) with
    | none => .ok none
    | some value => fromSecs value (trimmed.filter fun c => !c.isDigit)

/-! ## What an interval is -/

/-- The seconds of an interval: a decimal number and a unit letter, with blanks around them,
whose product fits in 64 bits. -/
def interval (input : String) : Option Nat := do
  let chars := trimChars input.toList
  let unit ← chars.getLast?
  let amount ← digitsValue chars.dropLast
  let seconds ← intervalUnit [unit]
  if amount * seconds ≤ u64Max then some (amount * seconds) else none

/-- Both parsers read a text as what it is. -/
def ReadAlike (input : String) : Prop :=
  Knowledge.parseDuration input = .ok (interval input) ∧
    Refresh.parseDuration input = .ok (interval input)

instance (input : String) : Decidable (ReadAlike input) := inferInstanceAs (Decidable (_ ∧ _))

/-- A number that fits in 64 bits, and a unit. -/
structure Amount (digits : List Char) (unit : Char) (value seconds : Nat) : Prop where
  reads : digitsValue digits = some value
  fits : value ≤ u64Max
  named : intervalUnit [unit] = some seconds

/-- **The texts that are not read alike.** -/
inductive Misread (cs : List Char) : Prop where
  /-- The last character takes more than a byte. -/
  | wide {init : List Char} {c : Char} : cs = init ++ [c] → 1 < c.utf8Size → Misread cs
  /-- An interval with a blank at its end. -/
  | trailing {init digits : List Char} {unit blank : Char} {value seconds : Nat} :
      trimChars cs = digits ++ [unit] → Amount digits unit value seconds →
        value * seconds ≤ u64Max → cs = init ++ [blank] → isWhitespace blank = true → Misread cs
  /-- A number that fits in 64 bits, and a unit with which it does not. -/
  | large {digits : List Char} {unit : Char} {value seconds : Nat} :
      trimChars cs = digits ++ [unit] → Amount digits unit value seconds →
        u64Max < value * seconds → Misread cs
  /-- Digits after the unit. -/
  | scattered {digits digits' : List Char} {unit : Char} {value seconds : Nat} :
      trimChars cs = digits ++ unit :: digits' → Amount (digits ++ digits') unit value seconds →
        digits' ≠ [] → Misread cs
  /-- A sign before the number, or blanks after it. -/
  | spaced {init sign digits : List Char} {unit : Char} {value seconds : Nat} :
      cs = init ++ [unit] → trimChars init = sign ++ digits → sign = [] ∨ sign = ['+'] →
        Amount digits unit value seconds → trimChars cs ≠ digits ++ [unit] → Misread cs

section

variable {cs init digits digits' sign : List Char} {unit c : Char} {value seconds n : Nat}

/-! ## Digits and units -/

theorem digitsValue_some (h : digitsValue cs = some n) : cs ≠ [] ∧ ∀ c ∈ cs, c.isDigit = true := by
  unfold digitsValue at h
  split_ifs at h with hbad
  rw [Bool.or_eq_true, not_or, List.isEmpty_iff, List.any_eq_true, not_exists] at hbad
  exact ⟨hbad.1, fun c hc => by simpa [hc] using hbad.2 c⟩

theorem parseU64_signed (hsign : sign = [] ∨ sign = ['+']) (h : digitsValue digits = some n)
    (hn : n ≤ u64Max) : parseU64 (sign ++ digits) = some n := by
  have hdigits := (digitsValue_some h).2
  unfold parseU64
  rcases hsign with rfl | rfl
  · rw [List.nil_append]
    split
    · exact absurd (hdigits '+' List.mem_cons_self) (by decide)
    · simp [h, hn]
  · simp [h, hn]

/-- What is read as a `u64`. -/
theorem parseU64_some (h : parseU64 cs = some n) : ∃ sign digits, cs = sign ++ digits ∧
    (sign = [] ∨ sign = ['+']) ∧ digitsValue digits = some n ∧ n ≤ u64Max := by
  unfold parseU64 at h
  obtain ⟨hvalue, hfits⟩ := Option.filter_eq_some_iff.mp h
  split at hvalue
  · exact ⟨['+'], _, rfl, Or.inr rfl, hvalue, by simpa using hfits⟩
  · exact ⟨[], _, rfl, Or.inl rfl, hvalue, by simpa using hfits⟩

/-- What a unit is: one letter, one byte, no digit, no blank, and at least a second. -/
theorem intervalUnit_some (h : intervalUnit cs = some seconds) : ∃ unit, cs = [unit] ∧
    unit.utf8Size = 1 ∧ unit.isDigit = false ∧ isWhitespace unit = false ∧ 1 ≤ seconds := by
  unfold intervalUnit at h
  split at h
  · cases h; exact ⟨'s', rfl, by decide⟩
  · cases h; exact ⟨'m', rfl, by decide⟩
  · cases h; exact ⟨'h', rfl, by decide⟩
  · cases h; exact ⟨'d', rfl, by decide⟩
  · cases h

theorem intervalUnit_none (h : unit.isDigit = true ∨ isWhitespace unit = true) :
    intervalUnit [unit] = none := by
  cases hunit : intervalUnit [unit] with
  | none => rfl
  | some seconds =>
    obtain ⟨_, heq, -, hdigit, hblank, -⟩ := intervalUnit_some hunit
    obtain rfl := (List.cons.inj heq).1
    rw [hdigit, hblank] at h
    simp at h

theorem fromSecs_of_none (h : intervalUnit cs = none) : fromSecs value cs = .ok none := by
  rw [fromSecs, h]

namespace Amount

variable (h : Amount digits unit value seconds)
include h

theorem digits_ne_nil : digits ≠ [] := (digitsValue_some h.reads).1

theorem digit : ∀ c ∈ digits, c.isDigit = true := (digitsValue_some h.reads).2

theorem of_unit : unit.utf8Size = 1 ∧ unit.isDigit = false ∧ isWhitespace unit = false ∧
    1 ≤ seconds := by
  obtain ⟨_, heq, hunit⟩ := intervalUnit_some h.named
  obtain rfl := (List.cons.inj heq).1
  exact hunit

theorem fromSecs_eq : fromSecs value [unit] =
    if value * seconds ≤ u64Max then .ok (some (value * seconds)) else .error .overflow := by
  unfold fromSecs
  rw [h.named]

/-- An amount is read by its product, or is too large. -/
theorem fromSecs_ne : fromSecs value [unit] ≠ .ok none := by
  rw [h.fromSecs_eq]
  split_ifs
  · simp
  · simp

end Amount

/-! ## Intervals -/

/-- Nothing is trimmed after a character that is no blank. -/
theorem trimChars_concat (hc : isWhitespace c = false) :
    trimChars (init ++ [c]) = init.dropWhile isWhitespace ++ [c] := by
  have hlast : ∀ l : List Char, (l ++ [c]).rdropWhile isWhitespace = l ++ [c] := fun l =>
    rdropWhile_of_ends (ends_append (ends_of_forall (by simpa using hc)) (by simp))
  rw [trimChars_eq, List.dropWhile_append]
  split
  · rename_i hnil
    rw [List.isEmpty_iff.mp hnil, List.dropWhile_cons_of_neg (by simp [hc])]
    exact hlast []
  · exact hlast _

theorem trimChars_digits (h : ∀ c ∈ init.dropWhile isWhitespace, c.isDigit = true) :
    trimChars init = init.dropWhile isWhitespace := by
  rw [trimChars_eq]
  exact rdropWhile_of_ends (ends_of_forall fun c hc => isWhitespace_digit (h c hc))

variable {input : String}

theorem interval_eq (htrim : trimChars input.toList = init ++ [unit]) :
    interval input = (digitsValue init).bind fun amount =>
      (intervalUnit [unit]).bind fun seconds =>
        if amount * seconds ≤ u64Max then some (amount * seconds) else none := by
  unfold interval
  dsimp only
  rw [htrim, List.getLast?_concat, List.dropLast_concat]
  rfl

/-- **What is accepted.** -/
theorem interval_eq_some_iff : interval input = some n ↔ ∃ digits unit value seconds,
    trimChars input.toList = digits ++ [unit] ∧ Amount digits unit value seconds ∧
      value * seconds ≤ u64Max ∧ n = value * seconds := by
  constructor
  · intro h
    unfold interval at h
    obtain ⟨unit, hlast, h⟩ := Option.bind_eq_some_iff.mp h
    obtain ⟨value, hvalue, h⟩ := Option.bind_eq_some_iff.mp h
    obtain ⟨seconds, hunit, h⟩ := Option.bind_eq_some_iff.mp h
    split_ifs at h with hfits
    obtain ⟨_, -, -, -, -, hpos⟩ := intervalUnit_some hunit
    exact ⟨_, unit, value, seconds, (List.dropLast_append_getLast? _ hlast).symm,
      ⟨hvalue, (Nat.le_mul_of_pos_right value hpos).trans hfits, hunit⟩, hfits,
      (Option.some.inj h).symm⟩
  · rintro ⟨digits, unit, value, seconds, htrim, h, hfits, rfl⟩
    rw [interval_eq htrim, h.reads, h.named]
    simp [hfits]

/-! ## What the parsers answer -/

/-- The knowledge service reads the characters before the last one, if it has one byte. -/
theorem knowledge_eq (hinput : input.toList = init ++ [unit]) (hlong : init ≠ [])
    (hone : ¬ 1 < unit.utf8Size) : Knowledge.parseDuration input =
      match parseU64 (trimChars init) with
      | none => .ok none
      | some value => fromSecs value [unit] := by
  have hlen : ¬ strLen (init ++ [unit]) < 2 := by
    obtain ⟨c, rest, rfl⟩ := List.exists_cons_of_ne_nil hlong
    have hfirst := c.utf8Size_pos
    have hlast := unit.utf8Size_pos
    simp [strLen]
    omega
  unfold Knowledge.parseDuration
  dsimp only
  rw [hinput, if_neg hlen, List.getLast?_concat]
  dsimp only
  rw [if_neg hone, List.dropLast_concat]

theorem knowledge_wide (hinput : input.toList = init ++ [c]) (hwide : 1 < c.utf8Size) :
    Knowledge.parseDuration input = .error .notBoundary := by
  have hlen : ¬ strLen (init ++ [c]) < 2 := by
    simp [strLen]
    omega
  unfold Knowledge.parseDuration
  dsimp only
  rw [hinput, if_neg hlen, List.getLast?_concat]
  dsimp only
  rw [if_pos hwide]

/-- The refresh strategy reads digits on both sides of a unit as one number. -/
theorem refresh_eq (h : Amount (digits ++ digits') unit value seconds)
    (htrim : trimChars input.toList = digits ++ unit :: digits') :
    Refresh.parseDuration input = fromSecs value [unit] := by
  have hdigits : (digits ++ unit :: digits').filter Char.isDigit = digits ++ digits' := by
    rw [List.filter_append, List.filter_cons_of_neg (by simp [h.of_unit.2.1]), ← List.filter_append,
      List.filter_eq_self]
    exact h.digit
  have hunit : (digits ++ unit :: digits').filter (fun c => !c.isDigit) = [unit] := by
    have hnone : (digits ++ digits').filter (fun c => !c.isDigit) = [] := by
      rw [List.filter_eq_nil_iff]
      intro c hc
      simp [h.digit c hc]
    obtain ⟨hbefore, hafter⟩ := List.append_eq_nil_iff.mp (List.filter_append .. ▸ hnone)
    rw [List.filter_append, List.filter_cons_of_pos (by simp [h.of_unit.2.1]), hbefore, hafter,
      List.nil_append]
  unfold Refresh.parseDuration
  dsimp only
  rw [htrim, if_neg (by simp), hdigits, hunit, ← List.nil_append (digits ++ digits'),
    parseU64_signed (.inl rfl) h.reads h.fits]

/-- No text of these kinds is read alike. -/
theorem Misread.not_readAlike (h : Misread input.toList) : ¬ ReadAlike input := by
  rintro ⟨hknowledge, hrefresh⟩
  cases h with
  | wide hinput hwide =>
    rw [knowledge_wide hinput hwide] at hknowledge
    cases hknowledge
  | @trailing init digits unit blank value seconds htrim h hfits hinput hblank =>
    rw [interval_eq_some_iff.mpr ⟨digits, unit, value, seconds, htrim, h, hfits, rfl⟩] at hknowledge
    by_cases hwide : 1 < blank.utf8Size
    · rw [knowledge_wide hinput hwide] at hknowledge
      cases hknowledge
    · have hinit : init ≠ [] := by
        rintro rfl
        have hnil : trimChars input.toList = [] := by
          rw [hinput, trimChars, List.nil_append, List.dropWhile_cons_of_pos hblank]
          rfl
        simp [hnil] at htrim
      rw [knowledge_eq hinput hinit hwide] at hknowledge
      split at hknowledge
      · cases hknowledge
      · rw [fromSecs_of_none (intervalUnit_none (Or.inr hblank))] at hknowledge
        cases hknowledge
  | large htrim h hlarge =>
    rw [refresh_eq (by rwa [List.append_nil]) htrim, h.fromSecs_eq,
      if_neg (by omega)] at hrefresh
    cases hrefresh
  | @scattered digits digits' unit value seconds htrim h hafter =>
    rw [refresh_eq h htrim] at hrefresh
    obtain ⟨init, last, rfl⟩ := (List.eq_nil_or_concat digits').resolve_left hafter
    have hnone : interval input = none := by
      have hlast : trimChars input.toList = (digits ++ unit :: init) ++ [last] := by
        rw [htrim]
        simp
      rw [interval_eq hlast, intervalUnit_none (Or.inl (h.digit last (by simp)))]
      cases digitsValue (digits ++ unit :: init) <;> rfl
    exact h.fromSecs_ne (hrefresh.trans (by rw [hnone]))
  | @spaced init sign digits unit value seconds hinput hinit hsign h hother =>
    have hne : init ≠ [] := by
      rintro rfl
      exact h.digits_ne_nil (List.append_eq_nil_iff.mp hinit.symm).2
    rw [knowledge_eq hinput hne (by simp [h.of_unit.1]), hinit, parseU64_signed hsign h.reads h.fits]
      at hknowledge
    have htrim : trimChars input.toList = _ := hinput ▸ trimChars_concat h.of_unit.2.2.1
    have hnone : digitsValue (init.dropWhile isWhitespace) = none := by
      cases hvalue : digitsValue (init.dropWhile isWhitespace) with
      | none => rfl
      | some n =>
        have hdigits := (digitsValue_some hvalue).2
        rw [← trimChars_digits hdigits, hinit] at htrim
        rw [← trimChars_digits hdigits, hinit] at hdigits
        rcases hsign with rfl | rfl
        · exact absurd htrim hother
        · exact absurd (hdigits '+' (by simp)) (by decide)
    have hinterval : interval input = none := by
      rw [interval_eq htrim, hnone]
      rfl
    exact h.fromSecs_ne (hknowledge.trans (by rw [hinterval]))

/-- The refresh strategy reads every other text as what it is. -/
theorem refresh_interval (h : ¬ Misread input.toList) :
    Refresh.parseDuration input = .ok (interval input) := by
  cases hinterval : interval input with
  | some k =>
    obtain ⟨digits, unit, value, seconds, htrim, ham, hfits, rfl⟩ :=
      interval_eq_some_iff.mp hinterval
    rw [refresh_eq (by rwa [List.append_nil]) htrim, ham.fromSecs_eq, if_pos hfits]
  | none =>
    unfold Refresh.parseDuration
    dsimp only
    split_ifs with hnil
    · rfl
    split
    · rfl
    rename_i value hparse
    cases hunit : intervalUnit ((trimChars input.toList).filter fun c => !c.isDigit) with
    | none => exact fromSecs_of_none hunit
    | some seconds =>
      -- one character is no digit, and stands between digits
      obtain ⟨unit, hone, -, hletter, -⟩ := intervalUnit_some hunit
      obtain ⟨digits, digits', htrim, hbefore, -, hafter⟩ := List.filter_eq_cons_iff.mp hone
      have hdigits : (trimChars input.toList).filter Char.isDigit = digits ++ digits' := by
        rw [htrim, List.filter_append, List.filter_cons_of_neg (by simp [hletter]),
          List.filter_eq_self.mpr (by simpa using hbefore),
          List.filter_eq_self.mpr (by simpa using hafter)]
      obtain ⟨sign, rest, hsplit, hsign, hvalue, hfits⟩ := parseU64_some hparse
      have hplain : sign = [] := by
        refine hsign.resolve_right fun hplus => ?_
        have hmem : '+' ∈ (trimChars input.toList).filter Char.isDigit := by
          rw [hsplit, hplus]
          exact List.mem_cons_self
        exact absurd (List.mem_filter.mp hmem).2 (by decide)
      rw [hplain, List.nil_append, hdigits] at hsplit
      have ham : Amount (digits ++ digits') unit value seconds :=
        ⟨hsplit ▸ hvalue, hfits, hone ▸ hunit⟩
      exfalso
      by_cases hlast : digits' = []
      · subst hlast
        rw [List.append_nil] at ham
        by_cases hlarge : value * seconds ≤ u64Max
        · rw [interval_eq_some_iff.mpr ⟨digits, unit, value, seconds, htrim, ham, hlarge, rfl⟩]
            at hinterval
          cases hinterval
        · exact h (.large htrim ham (by omega))
      · exact h (.scattered htrim ham hlast)

/-- And so does the knowledge service. -/
theorem knowledge_interval (h : ¬ Misread input.toList) :
    Knowledge.parseDuration input = .ok (interval input) := by
  rcases List.eq_nil_or_concat input.toList with hnil | ⟨init, last, hinput⟩
  · simp [Knowledge.parseDuration, interval, hnil, strLen, trimChars]
  rw [List.concat_eq_append] at hinput
  have hwide : ¬ 1 < last.utf8Size := fun hwide => h (.wide hinput hwide)
  cases hinterval : interval input with
  | some k =>
    obtain ⟨digits, unit, value, seconds, htrim, ham, hfits, rfl⟩ :=
      interval_eq_some_iff.mp hinterval
    have hlast : isWhitespace last = false := by
      by_contra hblank
      exact h (.trailing htrim ham hfits hinput (by simpa using hblank))
    rw [hinput, trimChars_concat hlast] at htrim
    obtain ⟨hdigits, hunit⟩ := List.append_inj' htrim rfl
    obtain rfl := (List.cons.inj hunit).1
    have hinit : trimChars init = digits := (trimChars_digits (hdigits ▸ ham.digit)).trans hdigits
    have hne : init ≠ [] := by
      rintro rfl
      exact ham.digits_ne_nil hdigits.symm
    rw [knowledge_eq hinput hne hwide, hinit, ← List.nil_append digits,
      parseU64_signed (.inl rfl) ham.reads ham.fits]
    show fromSecs value [last] = _
    rw [ham.fromSecs_eq, if_pos hfits]
  | none =>
    by_cases hinit : init = []
    · rw [Knowledge.parseDuration, hinput, hinit, if_pos]
      simp [strLen]
      omega
    rw [knowledge_eq hinput hinit hwide]
    split
    · rfl
    rename_i value hparse
    cases hunit : intervalUnit [last] with
    | none => exact fromSecs_of_none hunit
    | some seconds =>
      obtain ⟨sign, digits, hsplit, hsign, hvalue, hfits⟩ := parseU64_some hparse
      have ham : Amount digits last value seconds := ⟨hvalue, hfits, hunit⟩
      exfalso
      by_cases htrim : trimChars input.toList = digits ++ [last]
      · by_cases hlarge : value * seconds ≤ u64Max
        · rw [interval_eq_some_iff.mpr ⟨digits, last, value, seconds, htrim, ham, hlarge, rfl⟩]
            at hinterval
          cases hinterval
        · exact h (.large htrim ham (by omega))
      · exact h (.spaced hinput hsplit hsign ham htrim)

end

/-- **When both parsers read a text as what it is.** -/
theorem refresh_intervals_alike_iff (input : String) : ReadAlike input ↔ ¬ Misread input.toList :=
  ⟨fun halike hmis => hmis.not_readAlike halike,
    fun h => ⟨knowledge_interval h, refresh_interval h⟩⟩

/-- **Texts that are read differently.**  One ends in a character of two bytes, one has its unit
first, and one has a blank at its end. -/
theorem refresh_intervals_differ :
    ¬ ReadAlike "1µ" ∧ Knowledge.parseDuration "1µ" = .error .notBoundary ∧
      Knowledge.parseDuration "h1" = .ok none ∧ Refresh.parseDuration "h1" = .ok (some 3600) ∧
      Knowledge.parseDuration "1h " = .ok none ∧ Refresh.parseDuration "1h " = .ok (some 3600) ∧
      Refresh.parseDuration "18446744073709551615d" = .error .overflow := by
  decide +kernel

end SnowAgent
