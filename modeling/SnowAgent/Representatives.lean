import Mathlib.Data.List.Nodup

/-! # Representatives

Of a list that is cut, each element is replaced by its representative before it is asked whether it
is wanted; what should be there is what is wanted of the whole list.
-/
namespace Representatives

variable {α : Type} {wanted : α → Bool} {rep : α → α} {front rest : List α} {n : Nat}

/-- The elements that are wanted although only their representative is. -/
def strangers (wanted : α → Bool) (rep : α → α) (front : List α) : List α :=
  front.filter fun a => !wanted a && wanted (rep a)

/-- What is wanted of a list that is cut, up to some number. -/
theorem take_filter_append (hfront : front.length ≤ n) :
    ((front ++ rest).filter wanted).take n =
      front.filter wanted ++ (rest.filter wanted).take (n - (front.filter wanted).length) := by
  have hle : (front.filter wanted).length ≤ n := Nat.le_trans (List.length_filter_le _ _) hfront
  rw [List.filter_append, List.take_append, List.take_of_length_le hle]

/-- **The representatives of the elements at the front are what is wanted of the whole list** if and
only if the elements wanted there stand for themselves, and those wanted for their representative
alone come after them and stand for the next ones of the rest. -/
theorem representatives_eq_iff (hidem : ∀ a, rep (rep a) = rep a) (hnodup : (front ++ rest).Nodup)
    (hfront : front.length ≤ n) :
    (front.filter fun a => wanted (rep a)).map rep = ((front ++ rest).filter wanted).take n ↔
      (∀ a ∈ front, wanted a = true → rep a = a) ∧ (front.filter fun a => wanted (rep a)) =
          front.filter wanted ++ strangers wanted rep front ∧
        (strangers wanted rep front).map rep =
          (rest.filter wanted).take (n - (front.filter wanted).length) := by
  rw [take_filter_append hfront]
  constructor
  · intro h
    have hself : ∀ a ∈ front, wanted a = true → rep a = a := by
      intro a ha hwanted
      have hmem : a ∈ (front.filter fun a => wanted (rep a)).map rep := by
        rw [h]
        exact List.mem_append_left _ (List.mem_filter.mpr ⟨ha, hwanted⟩)
      obtain ⟨b, -, rfl⟩ := List.mem_map.mp hmem
      exact hidem b
    have hdisjoint := List.disjoint_of_nodup_append hnodup
    obtain ⟨first, second, hsplit, hfirst, hsecond⟩ := List.map_eq_append_iff.mp h
    have hin : ∀ b, b ∈ first ∨ b ∈ second ↔ b ∈ front ∧ wanted (rep b) = true := by
      intro b
      rw [← List.mem_append, ← hsplit, List.mem_filter]
    -- Whoever stands for somebody of the rest is a stranger.
    have hstrange : ∀ b ∈ second, wanted b = false := by
      intro b hb
      by_contra hwanted
      rw [Bool.not_eq_false] at hwanted
      have hbfront := ((hin b).mp (.inr hb)).1
      have hbrest : rep b ∈ rest := by
        have hmem : rep b ∈ second.map rep := List.mem_map_of_mem hb
        rw [hsecond] at hmem
        exact (List.mem_filter.mp (List.mem_of_mem_take hmem)).1
      rw [hself b hbfront hwanted] at hbrest
      exact hdisjoint hbfront hbrest
    -- The others stand for themselves: each of their representatives is among them.
    have hown : ∀ b ∈ first, wanted b = true := by
      intro b hb
      have hrep : rep b ∈ front.filter wanted := by
        rw [← hfirst]
        exact List.mem_map_of_mem hb
      obtain ⟨hrepFront, hrepWanted⟩ := List.mem_filter.mp hrep
      have hrepFirst : rep b ∈ first := by
        rcases (hin (rep b)).mpr ⟨hrepFront, by rw [hidem]; exact hrepWanted⟩ with hmem | hmem
        · exact hmem
        · rw [hstrange _ hmem] at hrepWanted
          cases hrepWanted
      have hnodupFirst : (first.map rep).Nodup := by
        rw [hfirst]
        exact (List.nodup_append.mp hnodup).1.filter _
      have hsame := List.inj_on_of_nodup_map hnodupFirst hb hrepFirst (hidem b).symm
      rw [hsame]
      exact hrepWanted
    have hfirstSelf : first = front.filter wanted := by
      rw [← hfirst]
      refine (List.map_id' first).symm.trans (List.map_congr_left fun b hb => ?_)
      exact (hself b ((hin b).mp (.inl hb)).1 (hown b hb)).symm
    have hsecondStrange : second = strangers wanted rep front := by
      have hnone : (first.filter fun b => !wanted b) = [] := by
        rw [List.filter_eq_nil_iff]
        intro b hb
        rw [hown b hb]
        decide
      have hall : (second.filter fun b => !wanted b) = second := by
        rw [List.filter_eq_self]
        intro b hb
        rw [hstrange b hb]
        rfl
      have hfilter := congrArg (List.filter fun b => !wanted b) hsplit
      rw [List.filter_filter, List.filter_append, hnone, hall, List.nil_append] at hfilter
      exact hfilter.symm
    refine ⟨hself, ?_, ?_⟩
    · rw [hsplit, hfirstSelf, hsecondStrange]
    · rw [← hsecondStrange, hsecond]
  · rintro ⟨hself, hsplit, hstrangers⟩
    rw [hsplit, List.map_append, hstrangers]
    congr 1
    refine (List.map_congr_left fun a ha => ?_).trans (List.map_id' _)
    obtain ⟨hmem, hwanted⟩ := List.mem_filter.mp ha
    exact hself a hmem hwanted

end Representatives
