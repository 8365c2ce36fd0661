import Mathlib.Data.List.Pairwise
import Mathlib.Order.Lattice

/-! # Sliding windows

A log of instants of which only those later than a cutoff count.  What no longer
counts may be forgotten as soon as it is seen: a later look, whose cutoff is not
earlier, counts the same.
-/
namespace SlidingWindow

variable {Time : Type} [LinearOrder Time]

/-- The entries of a log later than a cutoff. -/
def newer (cutoff : Time) (log : List Time) : List Time := log.filter fun t => cutoff < t

@[simp] theorem newer_nil (cutoff : Time) : newer cutoff [] = [] := rfl

@[simp] theorem newer_append (cutoff : Time) (log log' : List Time) :
    newer cutoff (log ++ log') = newer cutoff log ++ newer cutoff log' := List.filter_append ..

variable {log : List Time}

theorem mem_newer {cutoff t : Time} : t ∈ newer cutoff log ↔ t ∈ log ∧ cutoff < t := by
  simp [newer]

/-- Forgetting what no longer counts does not change a later look. -/
theorem newer_newer {cutoff later : Time} (h : cutoff ≤ later) (log : List Time) :
    newer later (newer cutoff log) = newer later log := by
  rw [newer, newer, newer, List.filter_filter]
  refine List.filter_congr fun t _ => ?_
  by_cases ht : later < t
  · simp [ht, lt_of_le_of_lt h ht]
  · simp [ht]

variable {cutoff : Time}

theorem newer_of_forall_lt (h : ∀ t ∈ log, cutoff < t) : newer cutoff log = log :=
  List.filter_eq_self.mpr fun t ht => decide_eq_true (h t ht)

theorem newer_of_forall_le (h : ∀ t ∈ log, t ≤ cutoff) : newer cutoff log = [] :=
  List.filter_eq_nil_iff.mpr fun t ht => by simpa using h t ht

theorem pairwise_newer (h : log.Pairwise (· ≤ ·)) :
    (newer cutoff log).Pairwise (· ≤ ·) := h.sublist List.filter_sublist

/-- **The entry that matters.**  In a log in order with at least `limit` entries, fewer
than `limit` of them are later than a cutoff just when the `limit`-th from the end is
not. -/
theorem length_newer_lt_iff (hlog : log.Pairwise (· ≤ ·)) {limit : Nat} (hpos : 0 < limit)
    (hlimit : limit ≤ log.length) (cutoff : Time) :
    (newer cutoff log).length < limit ↔ log[log.length - limit] ≤ cutoff := by
  have hk : log.length - limit < log.length := by omega
  constructor
  · intro hlt
    by_contra hnot
    -- the last `limit` entries are all later than the cutoff
    have hlast : newer cutoff (log.drop (log.length - limit)) = log.drop (log.length - limit) := by
      refine newer_of_forall_lt fun t ht => ?_
      obtain ⟨i, hi, rfl⟩ := List.mem_drop_iff_getElem.mp ht
      have hle : log.get ⟨log.length - limit, hk⟩ ≤ log.get ⟨log.length - limit + i, by omega⟩ :=
        hlog.rel_get_of_le (by simp)
      exact lt_of_lt_of_le (not_le.mp hnot) hle
    have hlen : (log.drop (log.length - limit)).length = limit := by
      rw [List.length_drop]
      omega
    rw [← List.take_append_drop (log.length - limit) log, newer_append, List.length_append,
      hlast, hlen] at hlt
    omega
  · intro hle
    -- every entry up to the one that matters is as old
    have hfirst : newer cutoff (log.take (log.length - limit + 1)) = [] := by
      refine newer_of_forall_le fun t ht => ?_
      obtain ⟨i, hi, rfl⟩ := List.mem_take_iff_getElem.mp ht
      have hold : log.get ⟨i, by omega⟩ ≤ log.get ⟨log.length - limit, hk⟩ :=
        hlog.rel_get_of_le (by simp; omega)
      exact le_trans hold hle
    have hrest : (newer cutoff (log.drop (log.length - limit + 1))).length ≤ limit - 1 := by
      have hle := List.length_filter_le (fun t => decide (cutoff < t))
        (log.drop (log.length - limit + 1))
      rw [List.length_drop] at hle
      rw [newer]
      omega
    rw [← List.take_append_drop (log.length - limit + 1) log, newer_append, hfirst, List.nil_append]
    omega

end SlidingWindow
