import Mathlib.Data.List.TakeWhile
import Mathlib.Data.Rat.Floor
import Mathlib.Algebra.Order.Floor.Ring
import Mathlib.Tactic.Linarith
import Mathlib.Tactic.Ring

/-! # Decimal numbers

Numbers that are exact, rounded to whole ones in two ways, and their texts: what a text with a sign,
a fraction and an exponent stands for, and two decimal places of which trailing zeros are dropped.
-/
namespace Decimals

/-! ## Rounding -/

variable {x : ℚ}

/-- To the nearest whole number, halves away from zero. -/
def roundAway (x : ℚ) : ℤ := if x < 0 then -⌊-x + 1 / 2⌋ else ⌊x + 1 / 2⌋

/-- To the nearest whole number, halves to the even one. -/
def roundEven (x : ℚ) : ℤ :=
  if Int.fract x < 1 / 2 then ⌊x⌋
  else if 1 / 2 < Int.fract x then ⌊x⌋ + 1
  else if ⌊x⌋ % 2 = 0 then ⌊x⌋
  else ⌊x⌋ + 1

theorem roundAway_of_lt (hx : 0 ≤ x) (h : Int.fract x < 1 / 2) : roundAway x = ⌊x⌋ := by
  rw [roundAway, if_neg (not_lt.mpr hx), Int.floor_eq_iff]
  have hsum := Int.floor_add_fract x
  have hfract := Int.fract_nonneg x
  constructor
  · linarith
  · linarith

theorem roundAway_of_le (hx : 0 ≤ x) (h : 1 / 2 ≤ Int.fract x) : roundAway x = ⌊x⌋ + 1 := by
  rw [roundAway, if_neg (not_lt.mpr hx), Int.floor_eq_iff]
  have hsum := Int.floor_add_fract x
  have hfract := Int.fract_lt_one x
  push_cast
  constructor
  · linarith
  · linarith

theorem roundEven_natCast (n : ℕ) : roundEven n = n := by
  rw [roundEven, Int.fract_natCast, if_pos (by norm_num), Int.floor_natCast]

theorem roundAway_nonneg (hx : 0 ≤ x) : 0 ≤ roundAway x := by
  rw [roundAway, if_neg (not_lt.mpr hx)]
  exact Int.floor_nonneg.mpr (by linarith)

theorem roundEven_nonneg (hx : 0 ≤ x) : 0 ≤ roundEven x := by
  have hfloor : 0 ≤ ⌊x⌋ := Int.floor_nonneg.mpr hx
  rw [roundEven]
  split_ifs <;> omega

theorem roundEven_le {n : ℕ} (h : x ≤ n) : roundEven x ≤ n := by
  have hfloor : ⌊x⌋ ≤ n := by
    have := Int.floor_le_floor h
    rwa [Int.floor_natCast] at this
  have hsum := Int.floor_add_fract x
  have hnext : 0 < Int.fract x → ⌊x⌋ + 1 ≤ n := by
    intro hfract
    have hlt : (⌊x⌋ : ℚ) < n := by linarith
    have : ⌊x⌋ < n := by exact_mod_cast hlt
    omega
  rw [roundEven]
  split_ifs with h₁ h₂
  · exact hfloor
  · exact hnext (by linarith)
  · exact hfloor
  · exact hnext (by linarith)

/-- What is whole is added before or after halves are rounded away. -/
theorem roundAway_add_intCast (hx : 0 ≤ x) {n : ℤ} (hn : 0 ≤ n) :
    roundAway (x + n) = roundAway x + n := by
  have hsum : (0 : ℚ) ≤ x + n := add_nonneg hx (by exact_mod_cast hn)
  rw [roundAway, roundAway, if_neg (not_lt.mpr hx), if_neg (not_lt.mpr hsum),
    show x + n + 1 / 2 = x + 1 / 2 + n by ring, Int.floor_add_intCast]

/-! ## One rounding and two -/

/-- The sum of two numbers rounds, with halves to the even one, to what the second rounds to and then
the sum, with halves away from zero: as the parts behind the points are. -/
structure RoundsAlike (x y : ℚ) : Prop where
  below : Int.fract x < 1 / 2 → Int.fract y < 1 / 2 → Int.fract x + Int.fract y < 1 / 2 ∨
    Int.fract x + Int.fract y = 1 / 2 ∧ (⌊x⌋ + ⌊y⌋) % 2 = 0
  first : 1 / 2 ≤ Int.fract x → Int.fract y < 1 / 2 → 1 / 2 < Int.fract x + Int.fract y ∨
    (⌊x⌋ + ⌊y⌋) % 2 = 1
  second : Int.fract x < 1 / 2 → 1 / 2 ≤ Int.fract y → 1 / 2 < Int.fract x + Int.fract y ∨
    (⌊x⌋ + ⌊y⌋) % 2 = 1
  above : 1 / 2 ≤ Int.fract x → 1 / 2 ≤ Int.fract y → 3 / 2 < Int.fract x + Int.fract y ∨
    Int.fract x + Int.fract y = 3 / 2 ∧ (⌊x⌋ + ⌊y⌋) % 2 = 0

theorem roundEven_eq_floor_iff :
    roundEven x = ⌊x⌋ ↔ Int.fract x < 1 / 2 ∨ Int.fract x = 1 / 2 ∧ ⌊x⌋ % 2 = 0 := by
  rw [roundEven]
  split_ifs with hbelow habove heven
  · exact ⟨fun _ => .inl hbelow, fun _ => rfl⟩
  · refine ⟨fun h => by omega, fun h => ?_⟩
    rcases h with h | ⟨h, -⟩
    · exact absurd h hbelow
    · exact absurd habove (by rw [h]; exact lt_irrefl _)
  · simp only [true_iff]
    exact .inr ⟨le_antisymm (not_lt.mp habove) (not_lt.mp hbelow), heven⟩
  · refine ⟨fun h => by omega, fun h => ?_⟩
    rcases h with h | ⟨-, h⟩
    · exact absurd h hbelow
    · exact absurd h heven

theorem roundEven_eq_next_iff :
    roundEven x = ⌊x⌋ + 1 ↔ 1 / 2 < Int.fract x ∨ Int.fract x = 1 / 2 ∧ ⌊x⌋ % 2 = 1 := by
  rw [roundEven]
  split_ifs with hbelow habove heven
  · refine ⟨fun h => by omega, fun h => ?_⟩
    rcases h with h | ⟨h, -⟩
    · exact absurd hbelow (not_lt.mpr h.le)
    · exact absurd hbelow (by rw [h]; exact lt_irrefl _)
  · exact ⟨fun _ => .inl habove, fun _ => rfl⟩
  · refine ⟨fun h => by omega, fun h => ?_⟩
    rcases h with h | ⟨-, h⟩
    · exact absurd h habove
    · omega
  · simp only [true_iff]
    exact .inr ⟨le_antisymm (not_lt.mp habove) (not_lt.mp hbelow), by omega⟩

theorem floor_add_of_lt {x y : ℚ} (h : Int.fract x + Int.fract y < 1) :
    ⌊x + y⌋ = ⌊x⌋ + ⌊y⌋ := by
  have hx := Int.floor_add_fract x
  have hy := Int.floor_add_fract y
  have hx' := Int.fract_nonneg x
  have hy' := Int.fract_nonneg y
  rw [Int.floor_eq_iff]
  push_cast
  constructor
  · linarith
  · linarith

theorem floor_add_of_le {x y : ℚ} (h : 1 ≤ Int.fract x + Int.fract y) :
    ⌊x + y⌋ = ⌊x⌋ + ⌊y⌋ + 1 := by
  have hx := Int.floor_add_fract x
  have hy := Int.floor_add_fract y
  have hx' := Int.fract_lt_one x
  have hy' := Int.fract_lt_one y
  rw [Int.floor_eq_iff]
  push_cast
  constructor
  · linarith
  · linarith

theorem fract_add_of_lt {x y : ℚ} (h : Int.fract x + Int.fract y < 1) :
    Int.fract (x + y) = Int.fract x + Int.fract y := by
  rw [Int.fract, floor_add_of_lt h, Int.fract, Int.fract]
  push_cast
  ring

theorem fract_add_of_le {x y : ℚ} (h : 1 ≤ Int.fract x + Int.fract y) :
    Int.fract (x + y) = Int.fract x + Int.fract y - 1 := by
  rw [Int.fract, floor_add_of_le h, Int.fract, Int.fract]
  push_cast
  ring

/-- One part behind the point reaches a half, the other does not. -/
theorem roundEven_add_eq_next_iff {x y : ℚ} (hhalf : 1 / 2 ≤ Int.fract x + Int.fract y)
    (hlt : Int.fract x + Int.fract y < 3 / 2) :
    roundEven (x + y) = ⌊x⌋ + ⌊y⌋ + 1 ↔
      1 / 2 < Int.fract x + Int.fract y ∨ (⌊x⌋ + ⌊y⌋) % 2 = 1 := by
  by_cases h : Int.fract x + Int.fract y < 1
  · rw [← floor_add_of_lt h, roundEven_eq_next_iff, fract_add_of_lt h]
    constructor
    · rintro (h' | ⟨-, h'⟩)
      · exact .inl h'
      · exact .inr h'
    · rintro (h' | h')
      · exact .inl h'
      · rcases hhalf.lt_or_eq with hlt' | heq
        · exact .inl hlt'
        · exact .inr ⟨heq.symm, h'⟩
  · rw [not_lt] at h
    rw [← floor_add_of_le h, roundEven_eq_floor_iff, fract_add_of_le h]
    exact ⟨fun _ => .inl (by linarith), fun _ => .inl (by linarith)⟩

/-- **When one rounding is two.** -/
theorem roundEven_add_eq_iff {x y : ℚ} (hx : 0 ≤ x) (hy : 0 ≤ y) :
    roundEven (x + y) = roundAway (x + roundAway y) ↔ RoundsAlike x y := by
  rw [roundAway_add_intCast hx (roundAway_nonneg hy)]
  by_cases hfirst : Int.fract x < 1 / 2
  · by_cases hsecond : Int.fract y < 1 / 2
    · have hlt : Int.fract x + Int.fract y < 1 := by linarith
      rw [roundAway_of_lt hx hfirst, roundAway_of_lt hy hsecond, ← floor_add_of_lt hlt,
        roundEven_eq_floor_iff, fract_add_of_lt hlt, floor_add_of_lt hlt]
      exact ⟨fun h => ⟨fun _ _ => h, fun h' => absurd hfirst (not_lt.mpr h'),
          fun _ h' => absurd hsecond (not_lt.mpr h'), fun h' => absurd hfirst (not_lt.mpr h')⟩,
        fun h => h.below hfirst hsecond⟩
    · have hle := not_lt.mp hsecond
      have hx' := Int.fract_nonneg x
      have hy' := Int.fract_lt_one y
      rw [roundAway_of_lt hx hfirst, roundAway_of_le hy hle, ← add_assoc,
        roundEven_add_eq_next_iff (by linarith) (by linarith)]
      exact ⟨fun h => ⟨fun _ h' => absurd h' hsecond, fun h' => absurd hfirst (not_lt.mpr h'),
          fun _ _ => h, fun h' => absurd hfirst (not_lt.mpr h')⟩,
        fun h => h.second hfirst hle⟩
  · have hle := not_lt.mp hfirst
    have hx' := Int.fract_lt_one x
    by_cases hsecond : Int.fract y < 1 / 2
    · have hy' := Int.fract_nonneg y
      rw [roundAway_of_le hx hle, roundAway_of_lt hy hsecond, add_right_comm,
        roundEven_add_eq_next_iff (by linarith) (by linarith)]
      exact ⟨fun h => ⟨fun h' => absurd h' hfirst, fun _ _ => h, fun h' => absurd h' hfirst,
          fun _ h' => absurd hsecond (not_lt.mpr h')⟩,
        fun h => h.first hle hsecond⟩
    · have hle' := not_lt.mp hsecond
      have hge : 1 ≤ Int.fract x + Int.fract y := by linarith
      rw [roundAway_of_le hx hle, roundAway_of_le hy hle',
        show ⌊x⌋ + 1 + (⌊y⌋ + 1) = ⌊x⌋ + ⌊y⌋ + 1 + 1 by ring, ← floor_add_of_le hge,
        roundEven_eq_next_iff, fract_add_of_le hge, floor_add_of_le hge]
      constructor
      · intro h
        refine ⟨fun h' => absurd h' hfirst, fun _ h' => absurd h' hsecond,
          fun h' => absurd h' hfirst, fun _ _ => ?_⟩
        rcases h with h | ⟨h, hodd⟩
        · exact .inl (by linarith)
        · exact .inr ⟨by linarith, by omega⟩
      · intro h
        rcases h.above hle hle' with h | ⟨h, heven⟩
        · exact .inl (by linarith)
        · exact .inr ⟨by linarith, by omega⟩

/-- A number alone rounds alike unless it is a half behind an even number. -/
theorem roundEven_eq_roundAway_iff (hx : 0 ≤ x) :
    roundEven x = roundAway x ↔ (Int.fract x = 1 / 2 → ⌊x⌋ % 2 = 1) := by
  by_cases h : Int.fract x < 1 / 2
  · rw [roundAway_of_lt hx h, roundEven_eq_floor_iff]
    exact ⟨fun _ h' => absurd h (by rw [h']; exact lt_irrefl _), fun _ => .inl h⟩
  · have hle := not_lt.mp h
    rw [roundAway_of_le hx hle, roundEven_eq_next_iff]
    constructor
    · rintro (h' | ⟨-, h'⟩) heq
      · exact absurd h' (by rw [heq]; exact lt_irrefl _)
      · exact h'
    · intro h'
      rcases hle.lt_or_eq with hlt | heq
      · exact .inl hlt
      · exact .inr ⟨heq.symm, h' heq.symm⟩

/-! ## Reading texts -/

/-- A number that is read: what is not finite is not told apart. -/
inductive F64 where
  | finite (value : ℚ)
  | notFinite
deriving DecidableEq

/-- The sum of two numbers. -/
def F64.add : F64 → F64 → F64
  | .finite x, .finite y => .finite (x + y)
  | _, _ => .notFinite

/-- Why a text is not read. -/
inductive ParseError where
  | empty
  | invalid
deriving DecidableEq

/-- A sign, if there is one. -/
def scanSign : List Char → ℤ × List Char
  | '+' :: rest => (1, rest)
  | '-' :: rest => (-1, rest)
  | rest => (1, rest)

/-- The exponent that ends a number, if there is one. -/
def parseExponent : List Char → Option ℤ
  | [] => some 0
  | c :: rest =>
    if (c = 'e' ∨ c = 'E') ∧ (scanSign rest).2 ≠ [] ∧ (scanSign rest).2.all Char.isDigit then
      some ((scanSign rest).1 * Nat.ofDigitChars 10 (scanSign rest).2 0)
    else none

/-- The digits behind the point, and what follows. -/
def scanFraction : List Char → List Char × List Char
  | '.' :: rest => (rest.takeWhile Char.isDigit, rest.dropWhile Char.isDigit)
  | rest => ([], rest)

/-- A number without a sign. -/
def parseUnsigned (cs : List Char) : Option ℚ :=
  let fraction := scanFraction (cs.dropWhile Char.isDigit)
  let digits := cs.takeWhile Char.isDigit ++ fraction.1
  if digits = [] then none
  else (parseExponent fraction.2).map fun exponent : ℤ =>
    Nat.ofDigitChars 10 digits 0 * 10 ^ (exponent - fraction.1.length)

/-- The names of what is not finite. -/
def notFiniteNames : List (List Char) := ["inf".toList, "infinity".toList, "nan".toList]

/-- What a text stands for. -/
def parse (cs : List Char) : Except ParseError F64 :=
  let (sign, rest) := scanSign cs
  if cs = [] then .error .empty
  else if rest.map Char.toLower ∈ notFiniteNames then .ok .notFinite
  else match parseUnsigned rest with
    | some x => .ok (.finite (sign * x))
    | none => .error .invalid

/-! ## Two decimal places -/

variable {c : Char} {d : ℕ}

/-- A number of hundredths, with its point. -/
def places (n : ℕ) : List Char :=
  Nat.toDigits 10 (n / 100) ++ ['.', (n / 10 % 10).digitChar, (n % 10).digitChar]

/-- Two decimal places, halves to the even one. -/
def fixed (x : ℚ) : List Char :=
  (if x < 0 then ['-'] else []) ++ places (roundEven (100 * x)).natAbs

/-- Drops the zeros at the front while there is a point. -/
def popZeros : List Char → List Char
  | [] => []
  | c :: cs => if '.' ∈ c :: cs ∧ c = '0' then popZeros cs else c :: cs

/-- Drops a point at the front. -/
def popPoint : List Char → List Char
  | '.' :: cs => cs
  | cs => cs

/-- Drops zeros at the end of a text with a point, and then a point at its end. -/
def trimZeros (cs : List Char) : List Char := (popPoint (popZeros cs.reverse)).reverse

/-- What is left of the places behind the point. -/
def lastPlaces (n : ℕ) : List Char :=
  if n % 100 = 0 then []
  else if n % 10 = 0 then [(n / 10 % 10).digitChar]
  else [(n / 10 % 10).digitChar, (n % 10).digitChar]

theorem digitChar_eq_zero_iff (h : d < 10) : d.digitChar = '0' ↔ d = 0 := by
  have hall : ∀ d < 10, (d.digitChar = '0' ↔ d = 0) := by decide
  exact hall d h

theorem isDigit_digitChar (h : d < 10) : d.digitChar.isDigit = true := by
  have hall : ∀ d < 10, d.digitChar.isDigit = true := by decide
  exact hall d h

theorem popZeros_of_ne (h : c ≠ '0') (cs : List Char) : popZeros (c :: cs) = c :: cs := by
  rw [popZeros, if_neg fun hc => h hc.2]

theorem popZeros_zero {cs : List Char} (h : '.' ∈ cs) : popZeros ('0' :: cs) = popZeros cs := by
  rw [popZeros, if_pos ⟨List.mem_cons_of_mem _ h, rfl⟩]

theorem popPoint_of_ne (h : c ≠ '.') (cs : List Char) : popPoint (c :: cs) = c :: cs := by
  unfold popPoint
  split
  · rename_i heq
    exact absurd (List.cons.inj heq).1 h
  · rfl

theorem digitChar_ne_point (h : d < 10) : d.digitChar ≠ '.' := by
  have hall : ∀ d < 10, d.digitChar ≠ '.' := by decide
  exact hall d h

theorem reverse_places (n : ℕ) : (places n).reverse =
    (n % 10).digitChar :: (n / 10 % 10).digitChar :: '.' :: (Nat.toDigits 10 (n / 100)).reverse := by
  rw [places, List.reverse_append]
  rfl

/-- What is left of two decimal places. -/
theorem trimZeros_places (n : ℕ) :
    trimZeros (places n) =
      Nat.toDigits 10 (n / 100) ++ (if n % 100 = 0 then [] else '.' :: lastPlaces n) := by
  have hlast : n % 10 < 10 := Nat.mod_lt n (by omega)
  have hfirst : n / 10 % 10 < 10 := Nat.mod_lt (n / 10) (by omega)
  rw [trimZeros, reverse_places]
  by_cases h : n % 10 = 0
  · rw [(digitChar_eq_zero_iff hlast).mpr h, popZeros_zero (by simp)]
    by_cases h' : n / 10 % 10 = 0
    · rw [(digitChar_eq_zero_iff hfirst).mpr h', popZeros_zero (by simp),
        popZeros_of_ne (by decide), popPoint, List.reverse_reverse, if_pos (by omega),
        List.append_nil]
    · rw [popZeros_of_ne (fun heq => h' ((digitChar_eq_zero_iff hfirst).mp heq)),
        popPoint_of_ne (digitChar_ne_point hfirst), if_neg (by omega), lastPlaces,
        if_neg (by omega), if_pos h]
      simp
  · rw [popZeros_of_ne (fun heq => h ((digitChar_eq_zero_iff hlast).mp heq)),
      popPoint_of_ne (digitChar_ne_point hlast), if_neg (by omega), lastPlaces, if_neg (by omega),
      if_neg h]
    simp

/-! ## Reading them back -/

theorem isDigit_lastPlaces {n : ℕ} : ∀ c ∈ lastPlaces n, c.isDigit = true := by
  have hlast : n % 10 < 10 := Nat.mod_lt n (by omega)
  have hfirst : n / 10 % 10 < 10 := Nat.mod_lt (n / 10) (by omega)
  intro c hc
  rw [lastPlaces] at hc
  split_ifs at hc
  · cases hc
  · rw [List.mem_singleton] at hc
    rw [hc]
    exact isDigit_digitChar hfirst
  · rw [List.mem_cons, List.mem_singleton] at hc
    rcases hc with rfl | rfl
    · exact isDigit_digitChar hfirst
    · exact isDigit_digitChar hlast

theorem isDigit_whole {n : ℕ} : ∀ c ∈ Nat.toDigits 10 n, c.isDigit = true :=
  fun _ hc => Nat.isDigit_of_mem_toDigits (by decide) (by decide) hc

/-- The digits of a number of hundredths stand for it. -/
theorem lastPlaces_value (n : ℕ) :
    (Nat.ofDigitChars 10 (Nat.toDigits 10 (n / 100) ++ lastPlaces n) 0 : ℚ) *
      10 ^ (-((lastPlaces n).length : ℤ)) = n / 100 := by
  have hlast : n % 10 < 10 := Nat.mod_lt n (by omega)
  have hfirst : n / 10 % 10 < 10 := Nat.mod_lt (n / 10) (by omega)
  rw [Nat.ofDigitChars_append, Nat.ofDigitChars_ten_toDigits, lastPlaces]
  split_ifs with h h'
  · rw [Nat.ofDigitChars_nil]
    have hn : n = 100 * (n / 100) := by omega
    have hq : (n : ℚ) = 100 * (n / 100 : ℕ) := by exact_mod_cast hn
    rw [hq]
    simp
  · rw [Nat.ofDigitChars_cons_digitChar_of_lt_ten hfirst, Nat.ofDigitChars_nil]
    have hn : n = 10 * (10 * (n / 100) + n / 10 % 10) := by omega
    have hq : (n : ℚ) = 10 * (10 * (n / 100) + n / 10 % 10 : ℕ) := by exact_mod_cast hn
    rw [hq]
    norm_num
    ring
  · rw [Nat.ofDigitChars_cons_digitChar_of_lt_ten hfirst,
      Nat.ofDigitChars_cons_digitChar_of_lt_ten hlast, Nat.ofDigitChars_nil]
    have hn : n = 10 * (10 * (n / 100) + n / 10 % 10) + n % 10 := by omega
    have hq : (n : ℚ) = (10 * (10 * (n / 100) + n / 10 % 10) + n % 10 : ℕ) := by exact_mod_cast hn
    rw [hq]
    norm_num
    ring

/-- What follows the digits before the point. -/
theorem scanFraction_lastPlaces (n : ℕ) :
    scanFraction (if n % 100 = 0 then [] else '.' :: lastPlaces n) = (lastPlaces n, []) := by
  by_cases h : n % 100 = 0
  · rw [if_pos h, lastPlaces, if_pos h]
    rfl
  · rw [if_neg h, scanFraction, List.takeWhile_eq_self_iff.mpr isDigit_lastPlaces,
      List.dropWhile_eq_nil_iff.mpr isDigit_lastPlaces]

theorem parseUnsigned_places (n : ℕ) :
    parseUnsigned (trimZeros (places n)) = some ((n : ℚ) / 100) := by
  have htail : (if n % 100 = 0 then [] else '.' :: lastPlaces n).takeWhile Char.isDigit = [] ∧
      (if n % 100 = 0 then [] else '.' :: lastPlaces n).dropWhile Char.isDigit =
        (if n % 100 = 0 then [] else '.' :: lastPlaces n) := by
    split
    · exact ⟨rfl, rfl⟩
    · exact ⟨rfl, rfl⟩
  have hwhole : (trimZeros (places n)).takeWhile Char.isDigit = Nat.toDigits 10 (n / 100) := by
    rw [trimZeros_places, List.takeWhile_append_of_pos isDigit_whole, htail.1, List.append_nil]
  have hrest : scanFraction ((trimZeros (places n)).dropWhile Char.isDigit) = (lastPlaces n, []) := by
    rw [trimZeros_places, List.dropWhile_append_of_pos isDigit_whole, htail.2,
      scanFraction_lastPlaces]
  have hne : Nat.toDigits 10 (n / 100) ++ lastPlaces n ≠ [] :=
    List.append_ne_nil_of_left_ne_nil Nat.toDigits_ne_nil _
  rw [parseUnsigned, hwhole, hrest]
  simp only [if_neg hne, parseExponent, Option.map_some, zero_sub]
  rw [lastPlaces_value]

/-- The first character of a number of hundredths is a digit. -/
theorem exists_cons_places (n : ℕ) :
    ∃ c cs, trimZeros (places n) = c :: cs ∧ c.isDigit = true := by
  obtain ⟨c, cs, hcs⟩ := List.exists_cons_of_ne_nil (Nat.toDigits_ne_nil (n := n / 100) (b := 10))
  refine ⟨c, _, by rw [trimZeros_places, hcs, List.cons_append], ?_⟩
  exact isDigit_whole c (by rw [hcs]; exact List.mem_cons_self)

theorem toLower_of_isDigit (h : c.isDigit = true) : c.toLower = c := by
  have hhigh : c.toNat ≤ 57 := (Char.isDigit_iff_toNat.mp h).2
  show dite _ _ _ = c
  rw [dif_neg]
  rintro ⟨hge, -⟩
  have hlow : 65 ≤ c.toNat := hge
  omega

/-- **A number of hundredths is read back.** -/
theorem parse_places (n : ℕ) : parse (trimZeros (places n)) = .ok (.finite ((n : ℚ) / 100)) := by
  obtain ⟨c, cs, hcs, hdigit⟩ := exists_cons_places n
  have hsign : scanSign (trimZeros (places n)) = (1, trimZeros (places n)) := by
    rw [hcs]
    unfold scanSign
    split
    · rename_i heq
      rw [(List.cons.inj heq).1] at hdigit
      exact absurd hdigit (by decide)
    · rename_i heq
      rw [(List.cons.inj heq).1] at hdigit
      exact absurd hdigit (by decide)
    · rfl
  have hname : (trimZeros (places n)).map Char.toLower ∉ notFiniteNames := by
    have hlower := toLower_of_isDigit hdigit
    have hnames : ∀ name ∈ notFiniteNames, name.head?.any Char.isDigit = false := by decide
    intro hmem
    have hother := hnames _ hmem
    rw [hcs, List.map_cons, hlower, List.head?_cons, Option.any_some, hdigit] at hother
    cases hother
  rw [parse, hsign]
  simp only [hname, if_false, parseUnsigned_places]
  rw [if_neg (by rw [hcs]; exact List.cons_ne_nil _ _)]
  simp

/-- Numbers of hundredths with the same text are the same. -/
theorem trimZeros_places_inj {m n : ℕ} : trimZeros (places m) = trimZeros (places n) ↔ m = n := by
  constructor
  · intro h
    have hsame := parse_places m
    rw [h, parse_places n] at hsame
    have hvalue : (n : ℚ) / 100 = m / 100 := F64.finite.inj (Except.ok.inj hsame)
    have hcast : (n : ℚ) = m := by linarith
    exact_mod_cast hcast.symm
  · rintro rfl
    rfl

end Decimals
