import SnowAgent.Text
import SnowAgent.Trimming

/-! # Letters and white space

What the string functions find and change: a pattern is found where it occurs in the
characters, the lower case of a text has the same white space, and trimming removes
nothing but white space.
-/
namespace SnowAgent.Text

open Trimming

/-- `char::to_ascii_uppercase`. -/
def upperChar (c : Char) : Char :=
  if 97 ≤ c.toNat && c.toNat ≤ 122 then Char.ofNat (c.toNat - 32) else c

/-- `str::to_ascii_uppercase`. -/
def toAsciiUppercase (s : String) : String := String.ofList (s.toList.map upperChar)

/-! ## Patterns -/

theorem startsWithChars_iff {s pattern : List Char} :
    startsWithChars s pattern = true ↔ pattern <+: s := by
  induction pattern generalizing s with
  | nil => simp [startsWithChars]
  | cons p pattern ih =>
    cases s with
    | nil => simp [startsWithChars]
    | cons c s =>
      rw [startsWithChars, Bool.and_eq_true, ih, List.cons_prefix_cons, beq_iff_eq]
      exact ⟨fun h => ⟨h.1.symm, h.2⟩, fun h => ⟨h.1.symm, h.2⟩⟩

theorem containsChars_iff {s pattern : List Char} :
    containsChars pattern s = true ↔ pattern <:+: s := by
  induction s with
  | nil => simp [containsChars]
  | cons c s ih =>
    rw [containsChars, Bool.or_eq_true, ih, startsWithChars_iff, List.infix_cons_iff]

theorem containsChars_singleton {c : Char} {s : List Char} :
    containsChars [c] s = true ↔ c ∈ s := by
  induction s with
  | nil => simp [containsChars]
  | cons d s ih =>
    rw [containsChars, Bool.or_eq_true, ih, startsWithChars_iff, List.cons_prefix_cons,
      List.mem_cons]
    simp

theorem ofList_eq_empty_iff {cs : List Char} : String.ofList cs = "" ↔ cs = [] := by
  constructor
  · intro h
    have := congrArg String.toList h
    simpa using this
  · rintro rfl
    rfl

/-! ## Case -/

variable (c : Char) {pattern : String}

/-- The lower case of a character is itself, or a letter. -/
theorem lowerChar_cases :
    lowerChar c = c ∨
      (65 ≤ c.toNat ∧ c.toNat ≤ 90) ∧ 97 ≤ (lowerChar c).toNat ∧ (lowerChar c).toNat ≤ 122 := by
  by_cases h : 65 ≤ c.toNat ∧ c.toNat ≤ 90
  · right
    have hvalid : (c.toNat + 32).isValidChar := by
      left
      omega
    have hto : (lowerChar c).toNat = c.toNat + 32 := by
      rw [lowerChar, if_pos (by simpa using h), Char.ofNat, dif_pos hvalid]
      rfl
    omega
  · left
    rw [lowerChar, if_neg (by simpa using h)]

/-- A test that no letter passes is the same for the lower case of a character. -/
theorem test_lowerChar {test : Char → Bool}
    (hletters : ∀ c : Char, 65 ≤ c.toNat → c.toNat ≤ 122 → test c = false) (c : Char) :
    test (lowerChar c) = test c := by
  rcases lowerChar_cases c with h | ⟨⟨hlow, hhigh⟩, hlow', hhigh'⟩
  · rw [h]
  · rw [hletters _ (by omega) (by omega), hletters _ (by omega) (by omega)]

theorem isWhitespace_lowerChar : isWhitespace (lowerChar c) = isWhitespace c :=
  test_lowerChar (fun c hlow hhigh => by simp [isWhitespace]; omega) c

theorem lowerChar_isDigit {c : Char} (h : c.isDigit = true) : lowerChar c = c := by
  rcases lowerChar_cases c with heq | ⟨⟨hlow, -⟩, -⟩
  · exact heq
  · have hhigh : c.toNat ≤ 57 := (Char.isDigit_iff_toNat.mp h).2
    omega

theorem isWhitespace_digit {c : Char} (h : c.isDigit = true) : isWhitespace c = false := by
  have hlow : 48 ≤ c.toNat := (Char.isDigit_iff_toNat.mp h).1
  have hhigh : c.toNat ≤ 57 := (Char.isDigit_iff_toNat.mp h).2
  simp only [isWhitespace, Bool.or_eq_false_iff, Bool.and_eq_false_iff, decide_eq_false_iff_not,
    beq_eq_false_iff_ne]
  omega

theorem map_lowerChar_digits {digits : List Char} (h : ∀ c ∈ digits, c.isDigit = true) :
    digits.map lowerChar = digits := by
  rw [List.map_congr_left fun c hc => lowerChar_isDigit (h c hc), List.map_id']

theorem lowerChar_lowerChar : lowerChar (lowerChar c) = lowerChar c := by
  rcases lowerChar_cases c with h | ⟨-, hlow, -⟩
  · rw [h, h]
  · rw [lowerChar, if_neg]
    simp
    omega

/-- The lower case of a trimmed text speaks of what the lower case of the text does, if what it
speaks of has no blanks at its ends. -/
theorem contains_lower_trim_of_ends (hstart : Stops isWhitespace pattern.toList)
    (hend : Ends isWhitespace pattern.toList) (s : String) :
    contains (toAsciiLowercase (trim s)) pattern = contains (toAsciiLowercase s) pattern := by
  obtain ⟨lead, trail, hs, hlead, htrail⟩ := exists_trimmed isWhitespace s.toList
  have hblank : ∀ cs : List Char, (∀ c ∈ cs, isWhitespace c = true) →
      ∀ c ∈ cs.map lowerChar, isWhitespace c = true := by
    intro cs hcs c hc
    obtain ⟨d, hd, rfl⟩ := List.mem_map.mp hc
    rw [isWhitespace_lowerChar]
    exact hcs d hd
  rw [Bool.eq_iff_iff, contains, contains, containsChars_iff, containsChars_iff, toAsciiLowercase,
    toAsciiLowercase, String.toList_ofList, String.toList_ofList, trim, String.toList_ofList]
  show pattern.toList <:+: (trimmed isWhitespace s.toList).map lowerChar ↔ _
  conv_rhs => rw [hs, List.map_append, List.map_append]
  exact (infix_surrounded (hblank lead hlead) (hblank trail htrail) hstart hend).symm

theorem contains_lower_trim (hpattern : ∀ c ∈ pattern.toList, isWhitespace c = false)
    (s : String) :
    contains (toAsciiLowercase (trim s)) pattern = contains (toAsciiLowercase s) pattern :=
  contains_lower_trim_of_ends (stops_of_forall hpattern) (ends_of_forall hpattern) s

end SnowAgent.Text
