import SnowAgent.OffsetPages

/-! # Pages read one after the other

A reader asks for one page after the other until a page is short, and gives up after some number of
pages.  Every page is a slice of the items in some order, and the order may be another one at each
request: then an item may be on two pages, or on none.
-/
namespace PagedReads

open OffsetPages

variable {α ε : Type}

/-- Reads pages until one is short, from some page on. -/
def readPages (size : Nat) (truncated : ε) (page : Nat → Except ε (List α)) :
    Nat → Nat → Except ε (List α)
  | 0, _ => .error truncated
  | left + 1, k =>
    match page k with
    | .error err => .error err
    | .ok items =>
      if items.length < size then .ok items
      else (readPages size truncated page left (k + 1)).map (items ++ ·)

section

variable {size : Nat} {truncated : ε} {page : Nat → Except ε (List α)} {items : List α}
variable {order : Nat → List α}

/-- The page of a request, in the order of that request. -/
def pageOf (size : Nat) (order : Nat → List α) (k : Nat) : List α := slice size (order k) (k * size)

/-- **An item is on a page**: no page border passes over it from one request to the next. -/
def OnPage (size : Nat) (order : Nat → List α) (a : α) : Prop := ∃ k, a ∈ pageOf size order k

variable (size) in
theorem pageOf_length (horder : ∀ k, (order k).Perm items) (k : Nat) :
    (pageOf size order k).length = min size (items.length - k * size) := by
  rw [pageOf, slice, List.length_take, List.length_drop, (horder k).length_eq]

theorem mem_of_onPage (horder : ∀ k, (order k).Perm items) {a : α} (h : OnPage size order a) :
    a ∈ items := by
  obtain ⟨k, hk⟩ := h
  exact (horder k).mem_iff.mp (List.mem_of_mem_drop (List.mem_of_mem_take hk))

/-- The pages from some page on. -/
def pagesFrom (size : Nat) (order : Nat → List α) (total : Nat) : Nat → Nat → List α
  | 0, _ => []
  | left + 1, k =>
    if total < (k + 1) * size then pageOf size order k
    else pageOf size order k ++ pagesFrom size order total left (k + 1)

/-- **Reading ends** where the pages suffice. -/
theorem readPages_ok (horder : ∀ k, (order k).Perm items)
    (hpage : ∀ k, page k = .ok (pageOf size order k)) (left k : Nat)
    (hcap : items.length < (k + left) * size) (hstart : k * size ≤ items.length) :
    readPages size truncated page left k = .ok (pagesFrom size order items.length left k) := by
  induction left generalizing k with
  | zero =>
    rw [Nat.add_zero] at hcap
    omega
  | succ left ih =>
    rw [readPages, hpage, pagesFrom]
    dsimp only
    have hlength := pageOf_length size horder k
    have hnext : (k + 1) * size = k * size + size := Nat.succ_mul k size
    by_cases hshort : items.length < (k + 1) * size
    · rw [if_pos hshort, if_pos (by omega)]
    · rw [if_neg hshort, if_neg (by omega), ih (k + 1) (by rw [Nat.add_right_comm]; exact hcap)
        (by omega)]
      rfl

/-- What is read is what is on a page. -/
theorem mem_pagesFrom (horder : ∀ k, (order k).Perm items) {a : α} (left k : Nat)
    (hcap : items.length < (k + left) * size) :
    a ∈ pagesFrom size order items.length left k ↔ ∃ j, k ≤ j ∧ a ∈ pageOf size order j := by
  have hempty : ∀ j, items.length ≤ j * size → pageOf size order j = [] := by
    intro j hj
    refine List.length_eq_zero_iff.mp ?_
    rw [pageOf_length size horder]
    omega
  induction left generalizing k with
  | zero =>
    rw [Nat.add_zero] at hcap
    refine ⟨fun h => (List.not_mem_nil h).elim, fun ⟨j, hkj, hj⟩ => ?_⟩
    rw [hempty j (Nat.le_trans (Nat.le_of_lt hcap) (Nat.mul_le_mul_right size hkj))] at hj
    exact hj
  | succ left ih =>
    rw [pagesFrom]
    by_cases hshort : items.length < (k + 1) * size
    · rw [if_pos hshort]
      refine ⟨fun h => ⟨k, Nat.le_refl k, h⟩, fun ⟨j, hkj, hj⟩ => ?_⟩
      rcases Nat.eq_or_lt_of_le hkj with rfl | hlt
      · exact hj
      · rw [hempty j (Nat.le_trans (Nat.le_of_lt hshort) (Nat.mul_le_mul_right size hlt))] at hj
        exact (List.not_mem_nil hj).elim
    · have hrest := ih (k + 1) (by rw [Nat.add_right_comm]; exact hcap)
      rw [if_neg hshort, List.mem_append]
      refine (or_congr Iff.rfl hrest).trans ?_
      constructor
      · rintro (h | ⟨j, hkj, hj⟩)
        · exact ⟨k, Nat.le_refl k, h⟩
        · exact ⟨j, by omega, hj⟩
      · rintro ⟨j, hkj, hj⟩
        rcases Nat.eq_or_lt_of_le hkj with rfl | hlt
        · exact .inl hj
        · exact .inr ⟨j, hlt, hj⟩

/-- What is read from the first page on is what is on some page. -/
theorem mem_pagesFrom_zero (horder : ∀ k, (order k).Perm items) {a : α} (left : Nat)
    (hcap : items.length < left * size) :
    a ∈ pagesFrom size order items.length left 0 ↔ OnPage size order a := by
  rw [mem_pagesFrom horder left 0 (by rw [Nat.zero_add]; exact hcap)]
  exact ⟨fun ⟨k, _, h⟩ => ⟨k, h⟩, fun ⟨k, h⟩ => ⟨k, Nat.zero_le k, h⟩⟩

end

end PagedReads
