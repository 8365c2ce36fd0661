import Mathlib.Data.List.Nodup
import Mathlib.Data.List.Count
import Mathlib.Data.Finset.Card
import Mathlib.Data.Finset.Dedup

/-! # Gates at first sight

A list of values is gone through with a budget.  A value is asked for the budget when it is seen for
the first time: it is let in while there is some left, and refused after that.  A gate that is only
at the first sight lets a value in that it has seen before, whether it was let in or refused.

What gets through are the first values that the budget lets in, and the refused ones that come
again.  So the budget is kept if and only if no refused value comes twice.
-/
namespace FirstSeen

variable {α : Type} [DecidableEq α]

/-- The values of a list that were not seen before, each once. -/
def fresh : List α → List α → List α
  | _, [] => []
  | seen, x :: xs => if x ∈ seen then fresh seen xs else x :: fresh (x :: seen) xs

/-- The values that get through a gate. -/
def through : Nat → List α → List α → List α
  | _, _, [] => []
  | budget, seen, x :: xs =>
    if x ∈ seen then x :: through budget seen xs
    else
      match budget with
      | 0 => through 0 (x :: seen) xs
      | budget + 1 => x :: through budget (x :: seen) xs

/-- The values that are refused, each at its first sight. -/
def refused : Nat → List α → List α → List α
  | _, _, [] => []
  | budget, seen, x :: xs =>
    if x ∈ seen then refused budget seen xs
    else
      match budget with
      | 0 => x :: refused 0 (x :: seen) xs
      | budget + 1 => refused budget (x :: seen) xs

theorem mem_fresh (seen xs : List α) (y : α) : y ∈ fresh seen xs ↔ y ∈ xs ∧ y ∉ seen := by
  induction xs generalizing seen with
  | nil => simp [fresh]
  | cons x xs step =>
    unfold fresh
    by_cases hseen : x ∈ seen
    · rw [if_pos hseen, step]
      constructor
      · rintro ⟨hmem, hy⟩
        exact ⟨.tail _ hmem, hy⟩
      · rintro ⟨hmem, hy⟩
        rcases List.mem_cons.mp hmem with rfl | hmem
        · exact absurd hseen hy
        · exact ⟨hmem, hy⟩
    · rw [if_neg hseen, List.mem_cons, step]
      by_cases hy : y = x
      · subst hy
        simp [hseen]
      · simp [hy]

theorem fresh_nodup (seen xs : List α) : (fresh seen xs).Nodup := by
  induction xs generalizing seen with
  | nil => exact .nil
  | cons x xs step =>
    unfold fresh
    by_cases hseen : x ∈ seen
    · rw [if_pos hseen]
      exact step seen
    · rw [if_neg hseen, List.nodup_cons, mem_fresh]
      exact ⟨fun h => h.2 List.mem_cons_self, step _⟩

/-- Refused are the values after those that the budget lets in. -/
theorem refused_eq (budget : Nat) (seen xs : List α) :
    refused budget seen xs = (fresh seen xs).drop budget := by
  induction xs generalizing budget seen with
  | nil => simp [refused, fresh]
  | cons x xs step =>
    unfold refused fresh
    by_cases hseen : x ∈ seen
    · rw [if_pos hseen, if_pos hseen, step]
    · rw [if_neg hseen, if_neg hseen]
      cases budget with
      | zero => simp only [List.drop_zero, step]
      | succ budget => simp only [List.drop_succ_cons, step]

/-- **What gets through.**  A value that was seen, one that the budget lets in, or a refused one
that comes again. -/
theorem mem_through (budget : Nat) (seen xs : List α) (y : α) :
    y ∈ through budget seen xs ↔ y ∈ seen ∧ y ∈ xs ∨ y ∈ (fresh seen xs).take budget ∨
        y ∈ (fresh seen xs).drop budget ∧ 2 ≤ xs.count y := by
  induction xs generalizing budget seen with
  | nil => simp [through, fresh]
  | cons x xs step =>
    unfold through fresh
    by_cases hseen : x ∈ seen
    · rw [if_pos hseen, if_pos hseen, List.mem_cons, step]
      by_cases hy : y = x
      · subst hy
        simp [hseen]
      · simp [hy, List.count_cons_of_ne (Ne.symm hy)]
    · rw [if_neg hseen, if_neg hseen]
      have hx : x ∉ fresh (x :: seen) xs := fun h => ((mem_fresh _ _ _).mp h).2 List.mem_cons_self
      cases budget with
      | zero =>
        simp only [List.take_zero, List.drop_zero, step]
        by_cases hy : y = x
        · subst hy
          simp [hseen, hx, List.count_cons_self]
        · simp [hy, List.count_cons_of_ne (Ne.symm hy)]
      | succ budget =>
        simp only [List.take_succ_cons, List.drop_succ_cons, List.mem_cons, step]
        by_cases hy : y = x
        · simp [hy]
        · simp [hy, List.count_cons_of_ne (Ne.symm hy)]

section Keys

variable {β : Type} (key : β → α)

/-- The elements whose keys were not seen before, the first one of each key. -/
def freshBy : List α → List β → List β
  | _, [] => []
  | seen, b :: bs =>
    if key b ∈ seen then freshBy seen bs else b :: freshBy (key b :: seen) bs

variable (seen : List α) (bs : List β)

theorem map_freshBy : (freshBy key seen bs).map key = fresh seen (bs.map key) := by
  induction bs generalizing seen with
  | nil => rfl
  | cons b bs step =>
    rw [freshBy, List.map_cons, fresh]
    by_cases hseen : key b ∈ seen
    · rw [if_pos hseen, if_pos hseen, step]
    · rw [if_neg hseen, if_neg hseen, List.map_cons, step]

theorem freshBy_subset : freshBy key seen bs ⊆ bs := by
  induction bs generalizing seen with
  | nil => exact List.Subset.refl []
  | cons b bs step =>
    rw [freshBy]
    by_cases hseen : key b ∈ seen
    · rw [if_pos hseen]
      exact List.subset_cons_of_subset b (step seen)
    · rw [if_neg hseen]
      exact List.cons_subset_cons b (step _)

/-- **Where a key tells the elements apart**, all elements are left whose key was not seen. -/
theorem mem_freshBy {seen : List α} {bs : List β} {b : β}
    (hinj : ∀ c ∈ bs, ∀ d ∈ bs, key c = key d → c = d) :
    b ∈ freshBy key seen bs ↔ b ∈ bs ∧ key b ∉ seen := by
  have hkeys : ∀ k, k ∈ (freshBy key seen bs).map key ↔ k ∈ bs.map key ∧ k ∉ seen := by
    intro k
    rw [map_freshBy]
    exact mem_fresh seen _ k
  constructor
  · intro h
    exact ⟨freshBy_subset key seen bs h, ((hkeys _).mp (List.mem_map_of_mem h)).2⟩
  · rintro ⟨hmem, hnew⟩
    obtain ⟨c, hc, hkey⟩ := List.mem_map.mp ((hkeys _).mpr ⟨List.mem_map_of_mem hmem, hnew⟩)
    rw [← hinj c (freshBy_subset key seen bs hc) b hmem hkey]
    exact hc

theorem freshBy_nodup : ((freshBy key seen bs).map key).Nodup := by
  rw [map_freshBy]
  exact fresh_nodup seen _

end Keys

section Budget

variable {budget : Nat} {xs : List α}

/-- Nothing that is refused gets through, if it does not come again. -/
theorem not_mem_through (h : ∀ x ∈ (fresh [] xs).drop budget, xs.count x ≤ 1) {x : α}
    (hx : x ∈ (fresh [] xs).drop budget) : x ∉ through budget [] xs := by
  rw [mem_through]
  rintro (⟨hmem, -⟩ | htake | ⟨-, hcount⟩)
  · exact absurd hmem List.not_mem_nil
  · have hnodup := fresh_nodup [] xs
    rw [← List.take_append_drop budget (fresh [] xs)] at hnodup
    exact (List.nodup_append.mp hnodup).2.2 x htake x hx rfl
  · have := h x hx
    omega

/-- **A gate keeps its budget** if and only if no refused value comes twice. -/
theorem through_card_le_iff : (through budget [] xs).toFinset.card ≤ budget ↔
    ∀ x ∈ (fresh [] xs).drop budget, xs.count x ≤ 1 := by
  have hnodup := fresh_nodup [] xs
  have hsub : ((fresh [] xs).take budget).toFinset ⊆ (through budget [] xs).toFinset := by
    intro y hy
    rw [List.mem_toFinset] at hy ⊢
    exact (mem_through _ _ _ _).mpr (.inr (.inl hy))
  have hcard : ((fresh [] xs).take budget).toFinset.card = min budget (fresh [] xs).length := by
    rw [List.toFinset_card_of_nodup (hnodup.sublist (List.take_sublist _ _)), List.length_take]
  constructor
  · intro hle x hx
    by_contra hcount
    have hfull : budget < (fresh [] xs).length := by
      by_contra hlen
      rw [List.drop_eq_nil_of_le (by omega)] at hx
      exact absurd hx List.not_mem_nil
    have hthrough : x ∈ (through budget [] xs).toFinset := by
      rw [List.mem_toFinset, mem_through]
      exact .inr (.inr ⟨hx, by omega⟩)
    have htake : x ∉ ((fresh [] xs).take budget).toFinset := by
      rw [List.mem_toFinset]
      intro htake
      rw [← List.take_append_drop budget (fresh [] xs)] at hnodup
      exact (List.nodup_append.mp hnodup).2.2 x htake x hx rfl
    have hlt := Finset.card_lt_card (Finset.ssubset_iff_subset_ne.mpr
      ⟨hsub, fun heq => htake (heq ▸ hthrough)⟩)
    omega
  · intro h
    have heq : (through budget [] xs).toFinset ⊆ ((fresh [] xs).take budget).toFinset := by
      intro y hy
      rw [List.mem_toFinset, mem_through] at hy
      rcases hy with ⟨hmem, -⟩ | htake | ⟨hdrop, hcount⟩
      · exact absurd hmem List.not_mem_nil
      · exact List.mem_toFinset.mpr htake
      · have := h y hdrop
        omega
    have := Finset.card_le_card heq
    omega

end Budget

end FirstSeen
