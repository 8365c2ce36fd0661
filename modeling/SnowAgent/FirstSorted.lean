import Mathlib.Data.List.Perm.Basic
import Mathlib.Order.Lattice
import Mathlib.Data.List.Count

/-! # The first elements in an order

A list is wanted in an order that may have ties, and only its first elements.  Which elements these
can be: as many as there are to be, in order, and none of the others before one of them.

An answer that is listed by another key instead, its ties in any order, is such a list for every
order of the ties exactly if the elements that can come first by the key are in order, and not after
those that are left out.
-/
namespace FirstSorted

variable {α : Type}

/-- A list cut at a limit, if there is one. -/
def truncate (limit : Option Nat) (items : List α) : List α :=
  limit.elim items fun k => items.take k

theorem truncate_eq_take {limit : Option Nat} {items : List α} {n : Nat} (h : items.length ≤ n) :
    truncate limit items = items.take (limit.getD n) := by
  rcases limit with _ | k
  · exact (List.take_of_length_le h).symm
  · rfl

/-- A result is the beginning of the items in some arrangement that is in order. -/
def FirstOf (le : α → α → Bool) (limit : Option Nat) (items result : List α) : Prop :=
  ∃ full : List α, full.Perm items ∧ (full.Pairwise fun a b => le a b = true) ∧
    result = truncate limit full

section Order

variable [DecidableEq α] {le : α → α → Bool} {limit : Option Nat} {items result : List α}

/-- **What the beginnings are.** -/
theorem firstOf_iff (trans : ∀ a b c, le a b = true → le b c = true → le a c = true)
    (total : ∀ a b, (le a b || le b a) = true) (hitems : items.Nodup) (hresult : result.Nodup)
    (hsub : ∀ a ∈ result, a ∈ items) :
    FirstOf le limit items result ↔ result.length = min (limit.getD items.length) items.length ∧
      (result.Pairwise fun a b => le a b = true) ∧
      ∀ a ∈ result, ∀ b ∈ items, b ∉ result → le a b = true := by
  constructor
  · rintro ⟨full, hperm, hsorted, rfl⟩
    rw [truncate_eq_take (Nat.le_of_eq hperm.length_eq)]
    refine ⟨?_, hsorted.sublist (List.take_sublist _ _), fun a ha b hb hnot => ?_⟩
    · rw [List.length_take, hperm.length_eq]
    · rw [← List.take_append_drop (limit.getD items.length) full, List.pairwise_append] at hsorted
      have hb' : b ∈ full := hperm.mem_iff.mpr hb
      rw [← List.take_append_drop (limit.getD items.length) full, List.mem_append] at hb'
      exact hsorted.2.2 a ha b (hb'.resolve_left hnot)
  · rintro ⟨hlength, hsorted, houtside⟩
    have hperm : (result ++ items.filter (· ∉ result)).Perm items := by
      refine (List.perm_ext_iff_of_nodup ?_ hitems).mpr fun a => ?_
      · refine List.nodup_append.mpr ⟨hresult, hitems.filter _, fun a ha b hb => ?_⟩
        rintro rfl
        exact of_decide_eq_true (List.mem_filter.mp hb).2 ha
      · rw [List.mem_append, List.mem_filter, decide_eq_true_iff]
        by_cases ha : a ∈ result
        · exact iff_of_true (Or.inl ha) (hsub a ha)
        · exact ⟨fun h => (h.resolve_left ha).1, fun h => Or.inr ⟨h, ha⟩⟩
    have hrest := List.mergeSort_perm (items.filter (· ∉ result)) le
    refine ⟨result ++ (items.filter (· ∉ result)).mergeSort le,
      (hrest.append_left result).trans hperm, ?_, ?_⟩
    · refine List.pairwise_append.mpr ⟨hsorted, List.pairwise_mergeSort trans total _, ?_⟩
      intro a ha b hb
      have hmem := List.mem_filter.mp (hrest.mem_iff.mp hb)
      exact houtside a ha b hmem.1 (of_decide_eq_true hmem.2)
    · have hfull := (hrest.append_left result).trans hperm
      rw [truncate_eq_take (Nat.le_of_eq hfull.length_eq)]
      by_cases hshort : limit.getD items.length ≤ items.length
      · rw [Nat.min_eq_left hshort] at hlength
        rw [← hlength, List.take_left]
      · rw [Nat.min_eq_right (by omega)] at hlength
        have hnone : (items.filter (· ∉ result)).mergeSort le = [] := by
          have hcount := hfull.length_eq
          rw [List.length_append] at hcount
          exact List.eq_nil_of_length_eq_zero (by omega)
        rw [hnone, List.append_nil, List.take_of_length_le (by omega)]

end Order

/-! ## Lists by another key -/

section Keys

variable {β : Type} [LinearOrder β] {key : α → β} {items listed : List α}

/-- Items listed by a key, those of one key in any order. -/
structure ListedBy (key : α → β) (items listed : List α) : Prop where
  perm : listed.Perm items
  sorted : listed.Pairwise fun a b => key a ≤ key b

theorem ListedBy.filter (h : ListedBy key items listed) (p : α → Bool) :
    ListedBy key (items.filter p) (listed.filter p) :=
  ⟨h.perm.filter p, h.sorted.sublist List.filter_sublist⟩

/-- Sorting by the key gives such a list. -/
theorem listedBy_mergeSort (key : α → β) (items : List α) :
    ListedBy key items (items.mergeSort fun a b => decide (key a ≤ key b)) := by
  refine ⟨List.mergeSort_perm items _, ?_⟩
  refine (List.pairwise_mergeSort (fun a b c hab hbc => ?_) (fun a b => ?_) items).imp
    fun h => of_decide_eq_true h
  · exact decide_eq_true ((of_decide_eq_true hab).trans (of_decide_eq_true hbc))
  · rw [Bool.or_eq_true, decide_eq_true_iff, decide_eq_true_iff]
    exact le_total (key a) (key b)

/-- There is such a list. -/
theorem exists_listedBy (key : α → β) (items : List α) : ∃ listed, ListedBy key items listed :=
  ⟨_, listedBy_mergeSort key items⟩

/-- The items with a smaller key. -/
def below (key : α → β) (items : List α) (a : α) : Nat :=
  items.countP fun b => decide (key b < key a)

/-- Of the items before a limit, fewer than that have a smaller key. -/
theorem ListedBy.below_lt (h : ListedBy key items listed) {k : Nat} {a : α} (ha : a ∈ listed.take k) :
    below key items a < k := by
  have hsorted := h.sorted
  rw [← List.take_append_drop k listed, List.pairwise_append] at hsorted
  have hdrop : (listed.drop k).countP (fun b => decide (key b < key a)) = 0 := by
    rw [List.countP_eq_zero]
    intro b hb hlt
    exact absurd (of_decide_eq_true hlt) (not_lt.mpr (hsorted.2.2 a ha b hb))
  have htake : (listed.take k).countP (fun b => decide (key b < key a)) < (listed.take k).length := by
    refine Nat.lt_of_le_of_ne List.countP_le_length fun heq => ?_
    exact lt_irrefl _ (of_decide_eq_true (List.countP_eq_length.mp heq a ha))
  have hlength : (listed.take k).length ≤ k := by
    rw [List.length_take]
    exact Nat.min_le_left _ _
  rw [below, ← h.perm.countP_eq, ← List.take_append_drop k listed, List.countP_append, hdrop]
  omega

variable [DecidableEq α]

/-- One comparison: by the key, and an item before all others of its key. -/
def firstLe (key : α → β) (a x y : α) : Bool := key x < key y ∨ key x = key y ∧ (x = a ∨ y ≠ a)

theorem firstLe_trans (a x y z : α) (h : firstLe key a x y = true) (h' : firstLe key a y z = true) :
    firstLe key a x z = true := by
  simp only [firstLe, decide_eq_true_iff] at h h' ⊢
  rcases h with h | ⟨h, hx⟩
  · rcases h' with h' | ⟨h', -⟩
    · exact Or.inl (h.trans h')
    · exact Or.inl (h'.subst h)
  · rcases h' with h' | ⟨h', hy⟩
    · exact Or.inl (h.trans_lt h')
    · refine Or.inr ⟨h.trans h', ?_⟩
      by_cases hz : z = a
      · have hya : y = a := hy.resolve_right (not_not_intro hz)
        exact Or.inl (hx.resolve_right (not_not_intro hya))
      · exact Or.inr hz

theorem firstLe_total (a x y : α) : (firstLe key a x y || firstLe key a y x) = true := by
  simp only [firstLe, Bool.or_eq_true, decide_eq_true_iff]
  rcases lt_trichotomy (key x) (key y) with h | h | h
  · exact Or.inl (Or.inl h)
  · by_cases hx : x = a
    · exact Or.inl (Or.inr ⟨h, Or.inl hx⟩)
    · exact Or.inr (Or.inr ⟨h.symm, Or.inr hx⟩)
  · exact Or.inr (Or.inl h)

/-- The items by their key, one of them before the others of its key. -/
def firstListed (key : α → β) (a : α) (items : List α) : List α := items.mergeSort (firstLe key a)

theorem firstListed_sorted (a : α) (items : List α) :
    (firstListed key a items).Pairwise fun x y => firstLe key a x y = true :=
  List.pairwise_mergeSort (firstLe_trans a) (firstLe_total a) items

theorem firstListed_listedBy (a : α) (items : List α) :
    ListedBy key items (firstListed key a items) := by
  refine ⟨List.mergeSort_perm items _, (firstListed_sorted a items).imp fun h => ?_⟩
  simp only [firstLe, decide_eq_true_iff] at h
  exact h.elim le_of_lt fun h => h.1.le

/-- An item is listed before a limit, if fewer than that have a smaller key and it is the first of
its own. -/
theorem mem_take_of_below {k : Nat} {a : α}
    (hsorted : listed.Pairwise fun x y => firstLe key a x y = true)
    (ha : a ∈ listed) (hbelow : below key listed a < k) : a ∈ listed.take k := by
  by_contra hnot
  have hdrop : a ∈ listed.drop k := by
    rw [← List.take_append_drop k listed, List.mem_append] at ha
    exact ha.resolve_left hnot
  have hlength : (listed.take k).length = k := by
    have hpos := List.length_pos_of_mem hdrop
    rw [List.length_drop] at hpos
    rw [List.length_take]
    omega
  rw [← List.take_append_drop k listed, List.pairwise_append] at hsorted
  have hall : (listed.take k).countP (fun b => decide (key b < key a)) = (listed.take k).length := by
    refine List.countP_eq_length.mpr fun x hx => ?_
    have hle := hsorted.2.2 x hx a hdrop
    simp only [firstLe, decide_eq_true_iff] at hle
    rcases hle with hlt | ⟨-, hxa | hne⟩
    · exact decide_eq_true hlt
    · exact absurd (hxa ▸ hx) hnot
    · exact absurd rfl hne
  have hcount : (listed.take k).countP (fun b => decide (key b < key a)) ≤ below key listed a :=
    (List.take_sublist k listed).countP_le
  omega

end Keys

end FirstSorted
