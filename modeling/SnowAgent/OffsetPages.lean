import Mathlib.Data.List.Basic

/-! # Pages by offset

A list is read in slices: each call shows the items from an offset on, as many as the limit lets
through, and says where the next call is to start, as long as something is left.  Following these
offsets from the start shows every item once, in the order of the list.
-/
namespace OffsetPages

section Slices

variable {α : Type} (limit : Nat) (items : List α) (offset : Nat)

/-- The items that a page shows. -/
def slice : List α := (items.drop offset).take limit

/-- Where the next page starts, if something is left. -/
def next : Option Nat :=
  let consumed := offset + (slice limit items offset).length
  if consumed < items.length then some consumed else none

variable {limit items offset}

theorem slice_last (h : next limit items offset = none) :
    slice limit items offset = items.drop offset := by
  rw [next] at h
  split_ifs at h with hleft
  rw [slice, List.length_take, List.length_drop] at hleft
  rw [slice, List.take_of_length_le]
  rw [List.length_drop]
  omega

theorem slice_append {n : Nat} (h : next limit items offset = some n) :
    slice limit items offset ++ items.drop n = items.drop offset := by
  rw [next] at h
  split_ifs at h
  cases h
  rw [← List.drop_drop]
  have hlength : (slice limit items offset).length ≤ (items.drop offset).length := by
    rw [slice, List.length_take]
    omega
  have hslice : slice limit items offset =
      (items.drop offset).take (slice limit items offset).length := by
    conv_lhs => rw [slice]
    rw [slice, List.length_take, List.take_eq_take_iff]
    omega
  conv_lhs => rw [hslice]
  rw [List.length_take, Nat.min_eq_left hlength]
  exact List.take_append_drop _ _

theorem next_lt (hlimit : 1 ≤ limit) {n : Nat} (h : next limit items offset = some n) :
    offset < n ∧ n < items.length := by
  rw [next] at h
  split_ifs at h with hleft
  cases h
  rw [slice, List.length_take, List.length_drop] at hleft ⊢
  omega

variable {γ : Type} (f : α → γ)

theorem slice_map : slice limit (items.map f) offset = (slice limit items offset).map f := by
  rw [slice, slice, List.map_take, List.map_drop]

theorem next_map : next limit (items.map f) offset = next limit items offset := by
  rw [next, next, slice_map, List.length_map, List.length_map]

end Slices

section Following

variable {ε β : Type}

/-- The answers to calls, each at the offset that the one before it has named, until one names
none. -/
inductive Followed (call : Nat → Except ε β) (named : β → Option Nat) : Nat → List β → Prop where
  | last {offset : Nat} {page : β} : call offset = .ok page → named page = none →
      Followed call named offset [page]
  | more {offset n : Nat} {page : β} {pages : List β} : call offset = .ok page →
      named page = some n → Followed call named n pages →
      Followed call named offset (page :: pages)

variable {α : Type} {call : Nat → Except ε β} {named : β → Option Nat} {shown : β → List α}
  {limit : Nat} {items : List α}

/-- A page shows its slice and names the next offset. -/
def Serves (shown : β → List α) (named : β → Option Nat) (limit : Nat) (items : List α)
    (offset : Nat) (page : β) : Prop :=
  shown page = slice limit items offset ∧ named page = next limit items offset

variable {pages : List β} {offset : Nat}

/-- **The pages show what is left**, once and in order. -/
theorem Followed.shown_eq (h : Followed call named offset pages)
    (hcall : ∀ offset page, call offset = .ok page → Serves shown named limit items offset page) :
    pages.flatMap shown = items.drop offset := by
  induction h with
  | last hpage hnone =>
    obtain ⟨hshown, hnamed⟩ := hcall _ _ hpage
    rw [List.flatMap_singleton, hshown, slice_last (hnamed.symm.trans hnone)]
  | more hpage hsome _ step =>
    obtain ⟨hshown, hnamed⟩ := hcall _ _ hpage
    rw [List.flatMap_cons, step, hshown, slice_append (hnamed.symm.trans hsome)]

theorem Followed.mem (h : Followed call named offset pages) :
    ∀ page ∈ pages, ∃ offset, call offset = .ok page := by
  induction h with
  | last hpage hnone =>
    intro page hmem
    rw [List.mem_singleton.mp hmem]
    exact ⟨_, hpage⟩
  | more hpage hsome _ step =>
    intro page hmem
    rcases List.mem_cons.mp hmem with rfl | hmem
    · exact ⟨_, hpage⟩
    · exact step page hmem

theorem Followed.exists_mem (h : Followed call named offset pages) : ∃ page, page ∈ pages := by
  cases h with
  | last hpage hnone => exact ⟨_, List.mem_singleton_self _⟩
  | more hpage hsome hrest => exact ⟨_, List.mem_cons_self⟩

/-- **Following the offsets ends.** -/
theorem exists_followed (hlimit : 1 ≤ limit)
    (hcall : ∀ offset, offset = 0 ∨ offset < items.length →
      ∃ page, call offset = .ok page ∧ Serves shown named limit items offset page) :
    ∃ pages, Followed call named 0 pages := by
  have hfrom : ∀ left offset, items.length - offset = left → offset = 0 ∨ offset < items.length →
      ∃ pages, Followed call named offset pages := by
    intro left
    induction left using Nat.strongRecOn with
    | _ left step =>
      intro offset hleft hoffset
      obtain ⟨page, hpage, -, hnamed⟩ := hcall offset hoffset
      rcases hnext : next limit items offset with _ | n
      · exact ⟨[page], .last hpage (hnamed.trans hnext)⟩
      · obtain ⟨hlt, hn⟩ := next_lt hlimit hnext
        obtain ⟨pages, hpages⟩ := step (items.length - n) (by omega) n rfl (Or.inr hn)
        exact ⟨page :: pages, .more hpage (hnamed.trans hnext) hpages⟩
  exact hfrom _ 0 rfl (Or.inl rfl)

end Following

end OffsetPages
