import Mathlib.Data.List.Pairwise
import Mathlib.Data.List.Sort
import Mathlib.Order.Basic

/-! # Rankings

Elements with different ranks in a linear order have one ranking, the list of them in the order of
their ranks.  The place of an element in it is the number of elements that rank before.  So the
first `n` places stay as they are when one element replaces another exactly if `n` others rank
before both.

A stable sort by part of a rank gives the ranking if the list was sorted by the rest.
-/
namespace Rankings

section Ranking

variable {α β : Type} [LinearOrder β] (rank : α → β)

/-- A ranking of elements. -/
structure Ranking (items ranking : List α) : Prop where
  perm : ranking.Perm items
  sorted : ranking.Pairwise fun a b => rank a < rank b

/-- The elements that rank before a given rank. -/
def before (items : List α) (r : β) : Nat := items.countP fun a => rank a < r

variable {rank} {items items' ranking ranking' : List α} {a b : α} {n : Nat}

theorem before_perm (h : items.Perm items') (r : β) :
    before rank items r = before rank items' r := h.countP_eq _

theorem Ranking.congr (h : Ranking rank items ranking) (hperm : items.Perm items') :
    Ranking rank items' ranking :=
  ⟨h.perm.trans hperm, h.sorted⟩

/-- There is one ranking. -/
theorem Ranking.unique (h : Ranking rank items ranking) (h' : Ranking rank items ranking') :
    ranking = ranking' :=
  (h.perm.trans h'.perm.symm).eq_of_pairwise
    (fun _ _ _ _ hab hba => absurd (hab.trans hba) (lt_irrefl _)) h.sorted h'.sorted

section

variable (h : Ranking rank (a :: items) ranking)

include h

/-- The elements before an element of a ranking are as many as rank before it. -/
theorem Ranking.split :
    ∃ first last, ranking = first ++ a :: last ∧ Ranking rank items (first ++ last) ∧
      first.length = before rank items (rank a) := by
  obtain ⟨first, last, rfl⟩ := List.append_of_mem (h.perm.mem_iff.mpr List.mem_cons_self)
  have hperm : (first ++ last).Perm items := (List.perm_middle.symm.trans h.perm).cons_inv
  obtain ⟨hfirst, hlast, hbetween⟩ := List.pairwise_append.mp h.sorted
  rw [List.pairwise_cons] at hlast
  refine ⟨first, last, rfl, ⟨hperm, List.pairwise_append.mpr ⟨hfirst, hlast.2, ?_⟩⟩, ?_⟩
  · exact fun b hb c hc => hbetween b hb c (List.mem_cons_of_mem _ hc)
  · rw [← before_perm hperm, before, List.countP_append]
    have hall : first.countP (fun b => rank b < rank a) = first.length :=
      List.countP_eq_length.mpr fun b hb => decide_eq_true (hbetween b hb a List.mem_cons_self)
    have hnone : last.countP (fun b => rank b < rank a) = 0 :=
      List.countP_eq_zero.mpr fun b hb hbefore =>
        lt_asymm (hlast.1 b hb) (of_decide_eq_true hbefore)
    rw [hall, hnone, Nat.add_zero]

/-- An element is in the first `n` places if fewer rank before it. -/
theorem Ranking.mem_take (hn : before rank items (rank a) < n) : a ∈ ranking.take n := by
  obtain ⟨first, last, rfl, -, hlength⟩ := h.split
  rw [List.take_append]
  refine List.mem_append_right _ ?_
  rw [hlength, show n - before rank items (rank a) =
    (n - before rank items (rank a) - 1) + 1 by omega, List.take_succ_cons]
  exact List.mem_cons_self

/-- Otherwise the first `n` places are those of the others. -/
theorem Ranking.take_eq (h' : Ranking rank items ranking') (hn : n ≤ before rank items (rank a)) :
    ranking.take n = ranking'.take n := by
  obtain ⟨first, last, rfl, hothers, hlength⟩ := h.split
  rw [h'.unique hothers, List.take_append_of_le_length (by omega),
    List.take_append_of_le_length (by omega)]

/-- Elements have a ranking if others with them have one. -/
theorem Ranking.tail :
    ∃ ranking', Ranking rank items ranking' := by
  obtain ⟨first, last, -, hothers, -⟩ := h.split
  exact ⟨_, hothers⟩

/-- **One more element** leaves the first `n` places as they are exactly if `n` others rank before
it. -/
theorem take_insert_iff (h' : Ranking rank items ranking') (hnew : a ∉ items) :
    ranking'.take n = ranking.take n ↔ n ≤ before rank items (rank a) := by
  constructor
  · intro htake
    by_contra hlt
    have hmem := h.mem_take (Nat.lt_of_not_le hlt)
    rw [← htake] at hmem
    exact hnew (h'.perm.mem_iff.mp (List.mem_of_mem_take hmem))
  · intro hn
    exact (h.take_eq h' hn).symm

/-- **One element in place of another** leaves the first `n` places as they are exactly if `n`
others rank before both. -/
theorem take_replace_iff (h' : Ranking rank (b :: items) ranking') (ha : a ∉ b :: items) (hb : b ∉ a :: items) :
    ranking'.take n = ranking.take n ↔
      n ≤ before rank items (rank a) ∧ n ≤ before rank items (rank b) := by
  constructor
  · intro htake
    constructor
    · by_contra hlt
      have hmem := h.mem_take (Nat.lt_of_not_le hlt)
      rw [← htake] at hmem
      exact ha (h'.perm.mem_iff.mp (List.mem_of_mem_take hmem))
    · by_contra hlt
      have hmem := h'.mem_take (Nat.lt_of_not_le hlt)
      rw [htake] at hmem
      exact hb (h.perm.mem_iff.mp (List.mem_of_mem_take hmem))
  · rintro ⟨hna, hnb⟩
    obtain ⟨others, hothers⟩ := h.tail
    rw [h.take_eq hothers hna, h'.take_eq hothers hnb]

end

end Ranking

/-! ## Stable sorts -/

section Stable

variable {α : Type} {le : α → α → Bool} {items : List α}

/-- Two elements of a list without repetition have one order. -/
theorem not_both_orders {a b : α} (hnodup : items.Nodup)
    (h : [a, b].Sublist items) : ¬ [b, a].Sublist items := by
  induction items with
  | nil => cases h
  | cons c items ih =>
    intro h'
    obtain ⟨hc, hnodup⟩ := List.nodup_cons.mp hnodup
    rcases List.sublist_cons_iff.mp h with hlater | ⟨_, heq, hlater⟩
    · rcases List.sublist_cons_iff.mp h' with hlater' | ⟨_, heq', -⟩
      · exact ih hnodup hlater hlater'
      · cases heq'
        exact hc (hlater.subset (List.mem_cons_of_mem _ List.mem_cons_self))
    · cases heq
      rcases List.sublist_cons_iff.mp h' with hlater' | ⟨_, heq', hlater'⟩
      · exact hc (hlater'.subset (List.mem_cons_of_mem _ List.mem_cons_self))
      · cases heq'
        exact hc (hlater.subset List.mem_cons_self)

/-- Two different elements of a list are in one order or the other. -/
theorem pair_sublist {a b : α} (ha : a ∈ items) (hb : b ∈ items) (hne : a ≠ b) :
    [a, b].Sublist items ∨ [b, a].Sublist items := by
  obtain ⟨first, last, rfl⟩ := List.append_of_mem ha
  rcases List.mem_append.mp hb with hfirst | hlast
  · right
    exact (List.singleton_sublist.mpr hfirst).append (List.singleton_sublist.mpr List.mem_cons_self)
  · left
    have hlast' : b ∈ last := (List.mem_cons.mp hlast).resolve_left (Ne.symm hne)
    exact ((List.singleton_sublist.mpr hlast').cons_cons a).trans (List.sublist_append_right _ _)

/-- Elements that a sort does not tell apart stay in their order. -/
theorem mergeSort_pairwise (trans : ∀ a b c, le a b = true → le b c = true → le a c = true)
    (total : ∀ a b, (le a b || le b a) = true) (hnodup : items.Nodup) :
    (items.mergeSort le).Pairwise fun a b =>
      le a b = true ∧ (le b a = true → [a, b].Sublist items) := by
  refine List.pairwise_iff_forall_sublist.mpr fun {a b} hsub => ?_
  have hsorted := List.pairwise_iff_forall_sublist.mp
    (List.pairwise_mergeSort trans total items) hsub
  refine ⟨hsorted, fun hback => ?_⟩
  have hdifferent : (items.mergeSort le).Nodup := (List.mergeSort_perm items le).nodup_iff.mpr hnodup
  have hne : a ≠ b := List.pairwise_iff_forall_sublist.mp hdifferent hsub
  have ha : a ∈ items := List.mem_mergeSort.mp (hsub.subset List.mem_cons_self)
  have hb : b ∈ items :=
    List.mem_mergeSort.mp (hsub.subset (List.mem_cons_of_mem _ List.mem_cons_self))
  rcases pair_sublist ha hb hne with hkept | hswapped
  · exact hkept
  · exact absurd (List.pair_sublist_mergeSort trans total hback hswapped)
      (not_both_orders hdifferent hsub)

end Stable

end Rankings
