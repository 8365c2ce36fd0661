import Mathlib.Algebra.Group.Nat.Defs
import Mathlib.Data.Nat.Notation
import Mathlib.Order.Basic
import Mathlib.Tactic.Tauto

/-! # Numbers of fixed width

Numbers written with leading zeros, as many digits as their place has, between separators that are
always the same: the order of such texts is that of the numbers, the first ones deciding first.
-/
namespace FixedWidth

/-! ## Digits -/

/-- A digit. -/
def digit (d : Nat) : Char := Char.ofNat (48 + d)

/-- A number, in digits of a given width. -/
def digits : Nat → Nat → List Char
  | 0, _ => []
  | width + 1, n => digits width (n / 10) ++ [digit (n % 10)]

@[simp] theorem length_digits (width n : Nat) : (digits width n).length = width := by
  induction width generalizing n with
  | zero => rfl
  | succ width ih => rw [digits, List.length_append, ih, List.length_singleton]

theorem digit_lt_iff {a b : Nat} (ha : a < 10) (hb : b < 10) : digit a < digit b ↔ a < b := by
  have hall : ∀ a < 10, ∀ b < 10, (digit a < digit b ↔ a < b) := by decide
  exact hall a ha b hb

theorem digit_inj {a b : Nat} (ha : a < 10) (hb : b < 10) : digit a = digit b ↔ a = b := by
  have hall : ∀ a < 10, ∀ b < 10, (digit a = digit b ↔ a = b) := by decide
  exact hall a ha b hb

/-- What a property of the ten digits says of every character of a number. -/
theorem digits_all {P : Char → Prop} (h : ∀ d < 10, P (digit d)) {width n : Nat} :
    ∀ c ∈ digits width n, P c := by
  induction width generalizing n with
  | zero => simp [digits]
  | succ width ih =>
    intro c hc
    rw [digits, List.mem_append, List.mem_singleton] at hc
    rcases hc with hc | rfl
    · exact ih c hc
    · exact h _ (Nat.mod_lt _ (by omega))

/-! ## The order of texts -/

/-- The first parts decide first, if they have the same length. -/
theorem append_lt_append_iff {α : Type} [LT α] {u v w x : List α}
    (h : u.length = v.length) : u ++ w < v ++ x ↔ u < v ∨ (u = v ∧ w < x) := by
  induction u generalizing v with
  | nil =>
    obtain rfl := List.length_eq_zero_iff.mp h.symm
    simp
  | cons a u ih =>
    rcases v with _ | ⟨b, v⟩
    · cases h
    · rw [List.cons_append, List.cons_append, List.cons_lt_cons_iff, List.cons_lt_cons_iff,
        ih (Nat.succ.inj h), List.cons.injEq]
      tauto

theorem singleton_lt_iff {α : Type} [LT α] {a b : α} : [a] < [b] ↔ a < b := by
  rw [List.cons_lt_cons_iff]
  simp

/-- Numbers of one width are the same if their digits are. -/
theorem digits_inj {width a b : Nat} (ha : a < 10 ^ width) (hb : b < 10 ^ width) :
    digits width a = digits width b ↔ a = b := by
  induction width generalizing a b with
  | zero =>
    rw [Nat.pow_zero] at ha hb
    simp [digits, show a = b by omega]
  | succ width ih =>
    rw [Nat.pow_succ] at ha hb
    have hlast := digit_inj (Nat.mod_lt a (show 0 < 10 by omega)) (Nat.mod_lt b (by omega))
    constructor
    · intro h
      obtain ⟨hfirst, hd⟩ := List.append_inj h (by simp)
      have hquotient := (ih (by omega) (by omega)).mp hfirst
      have hremainder := hlast.mp (List.head_eq_of_cons_eq hd)
      omega
    · rintro rfl
      rfl

/-- Digits of one width are in the order of their numbers. -/
theorem digits_lt_iff {width a b : Nat} (ha : a < 10 ^ width) (hb : b < 10 ^ width) :
    digits width a < digits width b ↔ a < b := by
  induction width generalizing a b with
  | zero =>
    rw [Nat.pow_zero] at ha hb
    simp [digits, show a = b by omega]
  | succ width ih =>
    rw [Nat.pow_succ] at ha hb
    rw [digits, digits, append_lt_append_iff (by simp), singleton_lt_iff,
      ih (by omega) (by omega), digits_inj (by omega) (by omega),
      digit_lt_iff (Nat.mod_lt _ (by omega)) (Nat.mod_lt _ (by omega))]
    omega

/-! ## Layouts -/

/-- The separators of a text, each with the width of the number after it. -/
abbrev Layout := List (List Char × Nat)

/-- Numbers that fit a layout. -/
def Fits : Layout → List Nat → Prop
  | (_, width) :: layout, n :: ns => n < 10 ^ width ∧ Fits layout ns
  | [], [] => True
  | _, _ => False

/-- The text of numbers. -/
def render : Layout → List Nat → List Char
  | (separator, width) :: layout, n :: ns => separator ++ (digits width n ++ render layout ns)
  | _, _ => []

/-- A text where what is read of the separators is something else, the digits staying. -/
theorem map_render {f : Char → Char} (h : ∀ d < 10, f (digit d) = digit d) (layout : Layout)
    (ns : List Nat) :
    (render layout ns).map f = render (layout.map fun place => (place.1.map f, place.2)) ns := by
  induction layout generalizing ns with
  | nil => rfl
  | cons head layout ih =>
    obtain ⟨separator, width⟩ := head
    rcases ns with _ | ⟨n, ns⟩
    · rfl
    · have hdigits : (digits width n).map f = digits width n :=
        (List.map_congr_left (digits_all h)).trans (List.map_id _)
      rw [render, List.map_append, List.map_append, hdigits, ih]
      rfl

/-- **Texts of one layout are in the order of their numbers.** -/
theorem render_lt_iff {layout : Layout} {ns ns' : List Nat} (h : Fits layout ns)
    (h' : Fits layout ns') : render layout ns < render layout ns' ↔ ns < ns' := by
  induction layout generalizing ns ns' with
  | nil =>
    rcases ns with _ | ⟨n, ns⟩
    · rcases ns' with _ | ⟨n', ns'⟩
      · simp [render]
      · cases h'
    · cases h
  | cons head layout ih =>
    obtain ⟨separator, width⟩ := head
    rcases ns with _ | ⟨n, ns⟩
    · cases h
    · rcases ns' with _ | ⟨n', ns'⟩
      · cases h'
      · obtain ⟨hn, h⟩ := h
        obtain ⟨hn', h'⟩ := h'
        rw [render, render, append_lt_append_iff rfl, append_lt_append_iff (by simp),
          digits_lt_iff hn hn', digits_inj hn hn', ih h h', List.cons_lt_cons_iff]
        have hsame : ¬ separator < separator := List.lt_irrefl _
        simp [hsame]

end FixedWidth
