import Mathlib.Data.List.Infix
import Mathlib.Data.List.Basic

/-! # Replacing what occurs in a list

Every occurrence of a pattern is replaced, from left to right, the next one looked for behind the
last.  Where patterns and replacements do not overlap, another pattern stays where it is, none comes
up that was not there, and the pattern itself is gone.
-/
namespace Replacing

variable {α : Type}

/-- A list with every occurrence of a pattern replaced, of which some elements are skipped first. -/
def replaceFrom [DecidableEq α] (pattern new : List α) : Nat → List α → List α
  | _, [] => []
  | k + 1, _ :: l => replaceFrom pattern new k l
  | 0, a :: l =>
    if pattern <+: a :: l then new ++ replaceFrom pattern new (pattern.length - 1) l
    else a :: replaceFrom pattern new 0 l

/-- A list with every occurrence of a pattern replaced. -/
def replace [DecidableEq α] (pattern new l : List α) : List α := replaceFrom pattern new 0 l

/-- No occurrence of one list begins within another, whatever follows. -/
def Apart (x y : List α) : Prop := ∀ u ∈ x.tails, u ≠ [] → ¬ u <+: y ∧ ¬ y <+: u

instance [DecidableEq α] (x y : List α) : Decidable (Apart x y) := List.decidableBAll _ _

variable {pattern new v l : List α}

section

variable [DecidableEq α]

theorem replaceFrom_eq (k : Nat) (l : List α) :
    replaceFrom pattern new k l = replace pattern new (l.drop k) := by
  induction l generalizing k with
  | nil => cases k <;> rfl
  | cons a l ih =>
    rcases k with _ | k
    · rfl
    · rw [replaceFrom, ih, List.drop_succ_cons]

theorem replace_of_not_starts {a : α} (h : ¬ pattern <+: a :: l) :
    replace pattern new (a :: l) = a :: replace pattern new l := by
  rw [replace, replaceFrom, if_neg h]
  rfl

theorem replace_append (hpattern : pattern ≠ []) :
    replace pattern new (pattern ++ l) = new ++ replace pattern new l := by
  obtain ⟨a, rest, rfl⟩ := List.exists_cons_of_ne_nil hpattern
  rw [List.cons_append, replace, replaceFrom, if_pos (by simp), replaceFrom_eq]
  simp

/-- Induction along the occurrences of a pattern. -/
theorem replace_induction (hpattern : pattern ≠ []) {motive : List α → Prop} (nil : motive [])
    (occurrence : ∀ l, motive l → motive (pattern ++ l))
    (other : ∀ a l, ¬ pattern <+: a :: l → motive l → motive (a :: l)) (l : List α) : motive l := by
  induction hn : l.length using Nat.strong_induction_on generalizing l with
  | _ n ih =>
    rcases l with _ | ⟨a, l⟩
    · exact nil
    · by_cases h : pattern <+: a :: l
      · obtain ⟨rest, hrest⟩ := h
        rw [← hrest]
        refine occurrence rest (ih rest.length ?_ rest rfl)
        have hlength := congrArg List.length hrest
        have hpos := List.length_pos_iff.mpr hpattern
        rw [List.length_append] at hlength
        omega
      · refine other a l h (ih l.length ?_ l rfl)
        rw [List.length_cons] at hn
        omega

end

/-! ## Overlaps -/

theorem Apart.not_prefix_append {x : List α} (h : Apart x v) (hx : x ≠ []) : ¬ v <+: x ++ l := by
  intro hv
  obtain ⟨hpre, hpre'⟩ := h x ((List.mem_tails x x).mpr (List.suffix_refl x)) hx
  rcases List.prefix_or_prefix_of_prefix hv (List.prefix_append x l) with h' | h'
  · exact hpre' h'
  · exact hpre h'

theorem Apart.tail {a : α} {x : List α} (h : Apart (a :: x) v) : Apart x v := by
  intro u hu hne
  refine h u ?_ hne
  rw [List.mem_tails] at hu ⊢
  exact hu.trans (List.suffix_cons a x)

/-- What does not begin within a list occurs behind it. -/
theorem Apart.infix_append {x : List α} (h : Apart x v) (hv : v <:+: x ++ l) : v <:+: l := by
  induction x with
  | nil => exact hv
  | cons a x ih =>
    rw [List.cons_append, List.infix_cons_iff] at hv
    rcases hv with hv | hv
    · exact absurd hv (h.not_prefix_append (List.cons_ne_nil a x))
    · exact ih h.tail hv

section

variable {β : Type} (f : α → β)

/-- Lists of which none begins within the other once their elements are told apart less. -/
theorem Apart.of_map {x y : List α} (h : Apart (x.map f) (y.map f)) : Apart x y := by
  intro u hu hne
  rw [List.mem_tails] at hu
  obtain ⟨hpre, hpre'⟩ := h (u.map f) ((List.mem_tails _ _).mpr (hu.map f))
    (fun hnil => hne (List.map_eq_nil_iff.mp hnil))
  exact ⟨fun h' => hpre (h'.map f), fun h' => hpre' (h'.map f)⟩

/-- Two lists that come to the same one, no end of which starts it. -/
theorem Apart.of_same {x y : List α} {m : List β} (hx : x.map f = m) (hy : y.map f = m)
    (hne : x ≠ y) (hborder : ∀ u ∈ m.tails, u ≠ [] → u ≠ m → ¬ u <+: m) : Apart x y := by
  have hlength : x.length = y.length := by
    rw [← List.length_map f, hx, ← hy, List.length_map]
  intro u hu hnil
  rw [List.mem_tails] at hu
  by_cases hwhole : u = x
  · rw [hwhole]
    exact ⟨fun h => hne (h.eq_of_length hlength), fun h => hne (h.eq_of_length hlength.symm).symm⟩
  · have hshort : u.length < x.length :=
      lt_of_le_of_ne hu.length_le fun h => hwhole (hu.eq_of_length h)
    constructor
    · intro h
      refine hborder (u.map f) ((List.mem_tails _ _).mpr (hx ▸ hu.map f))
        (fun h' => hnil (List.map_eq_nil_iff.mp h')) (fun h' => ?_) (hy ▸ h.map f)
      have hmap := congrArg List.length (h'.trans hx.symm)
      rw [List.length_map, List.length_map] at hmap
      omega
    · intro h
      have hle := h.length_le
      omega

/-- What occurs in an image is the image of what occurs. -/
theorem infix_map_iff {m : List β} {l : List α} :
    m <:+: l.map f ↔ ∃ v, v.map f = m ∧ v <:+: l := by
  constructor
  · rintro ⟨before, after, h⟩
    rw [eq_comm, List.map_eq_append_iff] at h
    obtain ⟨front, back, rfl, hfront, -⟩ := h
    obtain ⟨start, v, rfl, -, hv⟩ := List.map_eq_append_iff.mp hfront
    exact ⟨v, hv, start, back, rfl⟩
  · rintro ⟨v, rfl, hv⟩
    exact hv.map f

end

variable [DecidableEq α]

/-- A list within which no pattern begins stays. -/
theorem Apart.replace_append {x : List α} (h : Apart x pattern) :
    replace pattern new (x ++ l) = x ++ replace pattern new l := by
  induction x with
  | nil => rfl
  | cons a x ih =>
    have hnot : ¬ pattern <+: a :: (x ++ l) := h.not_prefix_append (List.cons_ne_nil a x)
    rw [List.cons_append, replace_of_not_starts hnot, ih h.tail, List.cons_append]

/-! ## What is there afterwards -/

section

variable (hpattern : pattern ≠ []) {b : α} (hnew : new.head? = some b)

include hpattern hnew

/-- What starts the list afterwards started it before, if it does not have the replacement's first
element. -/
theorem prefix_of_prefix_replace (hb : b ∉ v) (h : v <+: replace pattern new l) : v <+: l := by
  induction l generalizing v with
  | nil => exact h
  | cons a l ih =>
    by_cases hpre : pattern <+: a :: l
    · obtain ⟨rest, hrest⟩ := hpre
      rw [← hrest, Replacing.replace_append hpattern] at h
      rcases v with _ | ⟨c, v⟩
      · exact List.nil_prefix
      · obtain ⟨new', rfl⟩ : ∃ new', new = b :: new' := List.head?_eq_some_iff.mp hnew
        rw [List.cons_append, List.cons_prefix_cons] at h
        exact absurd (h.1 ▸ List.mem_cons_self) hb
    · rw [replace_of_not_starts hpre] at h
      rcases v with _ | ⟨c, v⟩
      · exact List.nil_prefix
      · rw [List.cons_prefix_cons] at h ⊢
        exact ⟨h.1, ih (fun hmem => hb (List.mem_cons_of_mem c hmem)) h.2⟩

/-- What occurs afterwards occurred before. -/
theorem infix_of_infix_replace (hb : b ∉ v) (hapart : Apart new v) (h : v <:+: replace pattern new l) : v <:+: l := by
  induction l using replace_induction hpattern with
  | nil => exact h
  | occurrence l ih =>
    rw [Replacing.replace_append hpattern] at h
    exact (ih (hapart.infix_append h)).trans (List.suffix_append pattern l).isInfix
  | other a l hnot ih =>
    have hwhole : v <+: replace pattern new (a :: l) → v <+: a :: l :=
      prefix_of_prefix_replace hpattern hnew hb
    rw [replace_of_not_starts hnot] at h hwhole
    rw [List.infix_cons_iff] at h ⊢
    exact h.imp hwhole ih

/-- The pattern is gone. -/
theorem not_infix_replace (hb : b ∉ pattern) (hapart : Apart new pattern) : ¬ pattern <:+: replace pattern new l := by
  induction l using replace_induction hpattern with
  | nil => exact fun h => hpattern (List.infix_nil.mp h)
  | occurrence l ih =>
    rw [Replacing.replace_append hpattern]
    exact fun h => ih (hapart.infix_append h)
  | other a l hnot ih =>
    intro h
    have hwhole : pattern <+: replace pattern new (a :: l) → pattern <+: a :: l :=
      prefix_of_prefix_replace hpattern hnew hb
    rw [replace_of_not_starts hnot] at h hwhole
    rcases List.infix_cons_iff.mp h with h | h
    · exact hnot (hwhole h)
    · exact ih h

end

/-- What does not overlap the pattern stays. -/
theorem infix_replace (hpattern : pattern ≠ []) (hbefore : Apart pattern v)
    (hafter : Apart v pattern) (h : v <:+: l) : v <:+: replace pattern new l := by
  induction l using replace_induction hpattern with
  | nil => exact h
  | occurrence l ih =>
    rw [Replacing.replace_append hpattern]
    exact (ih (hbefore.infix_append h)).trans (List.suffix_append new _).isInfix
  | other a l hnot ih =>
    rcases List.infix_cons_iff.mp h with hpre | hrest
    · obtain ⟨rest, hrest⟩ := hpre
      rw [← hrest, hafter.replace_append]
      exact (List.prefix_append v _).isInfix
    · rw [replace_of_not_starts hnot]
      exact (ih hrest).trans (List.suffix_cons a _).isInfix

end Replacing
