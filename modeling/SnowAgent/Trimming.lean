import Mathlib.Data.List.DropRight
import Mathlib.Data.List.TakeWhile

/-! # Trimming

A list without the elements of a kind at its end, or at both its ends, and what
trimming makes of a list put together from parts.
-/
namespace Trimming

variable {α : Type} {p : α → Bool}

/-- The list without the elements of a kind at both its ends. -/
def trimmed (p : α → Bool) (l : List α) : List α := (l.dropWhile p).rdropWhile p

/-! ## Reading up to a stop -/

variable {l : List α} {x : α}

/-- The list is empty or starts with an element that is not of the kind. -/
def Stops (p : α → Bool) (l : List α) : Prop := ∀ x ∈ l.head?, p x = false

@[simp] theorem stops_nil : Stops p [] := by simp [Stops]

@[simp] theorem stops_cons : Stops p (x :: l) ↔ p x = false := by
  simp [Stops]

theorem takeWhile_of_stops (h : Stops p l) : l.takeWhile p = [] := by
  cases l with
  | nil => rfl
  | cons x l =>
    have hx : ¬ p x = true := by simp [stops_cons.mp h]
    exact List.takeWhile_cons_of_neg hx

theorem dropWhile_of_stops (h : Stops p l) : l.dropWhile p = l := by
  cases l with
  | nil => rfl
  | cons x l =>
    have hx : ¬ p x = true := by simp [stops_cons.mp h]
    exact List.dropWhile_cons_of_neg hx

theorem stops_dropWhile (l : List α) : Stops p (l.dropWhile p) := by
  intro x hx
  have hhead := List.head?_dropWhile_not p l
  rw [Option.mem_def.mp hx] at hhead
  exact hhead

/-- Nothing is read beyond a stop. -/
theorem takeWhile_append_stops (l : List α) {r : List α} (hr : Stops p r) :
    (l ++ r).takeWhile p = l.takeWhile p := by
  rw [List.takeWhile_append]
  split
  · rename_i hlen
    rw [takeWhile_of_stops hr, List.append_nil, (List.takeWhile_prefix p).eq_of_length hlen]
  · rfl

theorem takeWhile_append_of_stops {l r : List α} (hl : ∀ x ∈ l, p x = true) (hr : Stops p r) :
    (l ++ r).takeWhile p = l := by
  rw [takeWhile_append_stops l hr, List.takeWhile_eq_self_iff.mpr hl]

/-- Nothing is read beyond the first element that is not of the kind. -/
theorem takeWhile_append_of_mem (r : List α) (hx : x ∈ l)
    (hp : p x = false) : (l ++ r).takeWhile p = l.takeWhile p := by
  rw [List.takeWhile_append, if_neg]
  intro hlen
  have hself := (List.takeWhile_prefix p).eq_of_length hlen
  have hall := List.takeWhile_eq_self_iff.mp hself x hx
  exact Bool.false_ne_true (hp.symm.trans hall)

theorem dropWhile_append_of_stops {l r : List α} (hl : ∀ x ∈ l, p x = true) (hr : Stops p r) :
    (l ++ r).dropWhile p = r := by
  rw [List.dropWhile_append_of_pos hl, dropWhile_of_stops hr]

/-! ## The end of a list -/

theorem rdropWhile_append_of_pos {l r : List α} (h : ∀ x ∈ r, p x = true) :
    (l ++ r).rdropWhile p = l.rdropWhile p := by
  induction r using List.reverseRecOn with
  | nil => rw [List.append_nil]
  | append_singleton r x ih =>
    rw [← List.append_assoc, List.rdropWhile_concat_pos _ _ _ (h x (by simp))]
    exact ih fun y hy => h y (by simp [hy])

theorem rdropWhile_append_cons {l r : List α} (hx : p x = false) :
    (l ++ x :: r).rdropWhile p = l ++ x :: r.rdropWhile p := by
  induction r using List.reverseRecOn with
  | nil =>
    have hnot : ¬ p x = true := by simp [hx]
    exact List.rdropWhile_concat_neg _ _ _ hnot
  | append_singleton r y ih =>
    rw [← List.cons_append, ← List.append_assoc]
    by_cases hy : p y = true
    · rw [List.rdropWhile_concat_pos _ _ _ hy, ih, List.rdropWhile_concat_pos _ _ _ hy]
    · rw [List.rdropWhile_concat_neg _ _ _ hy, List.rdropWhile_concat_neg _ _ _ hy]
      simp

/-- The list does not end with an element of the kind. -/
def Ends (p : α → Bool) (l : List α) : Prop := ∀ x ∈ l.getLast?, p x = false

theorem rdropWhile_of_ends (h : Ends p l) : l.rdropWhile p = l := by
  rw [List.rdropWhile_eq_self_iff]
  intro hne
  have hlast := h (l.getLast hne) (by simp [List.getLast?_eq_getLast_of_ne_nil hne])
  simp [hlast]

theorem ends_rdropWhile (l : List α) : Ends p (l.rdropWhile p) := by
  intro x hx
  have hne : l.rdropWhile p ≠ [] := by
    intro hnil
    simp [hnil] at hx
  have hlast := List.rdropWhile_last_not p l hne
  rw [List.getLast?_eq_getLast_of_ne_nil hne, Option.mem_some_iff] at hx
  rw [← hx]
  simpa using hlast

/-- A list is what its end is trimmed to, and the elements trimmed. -/
theorem exists_rdropWhile (p : α → Bool) (l : List α) :
    ∃ r, l = l.rdropWhile p ++ r ∧ ∀ x ∈ r, p x = true :=
  ⟨l.rtakeWhile p, (List.rdropWhile_append_rtakeWhile ..).symm, fun _ hx =>
    List.mem_rtakeWhile_imp hx⟩

theorem ends_append {l r : List α} (hr : Ends p r) (hne : r ≠ []) : Ends p (l ++ r) := by
  intro x hx
  refine hr x ?_
  rwa [List.getLast?_append_of_ne_nil _ hne] at hx

/-! ## Both ends -/

theorem trimmed_of (hstart : Stops p l) (hend : Ends p l) : trimmed p l = l := by
  rw [trimmed, dropWhile_of_stops hstart, rdropWhile_of_ends hend]

theorem stops_of_forall (h : ∀ x ∈ l, p x = false) : Stops p l :=
  fun x hx => h x (List.mem_of_mem_head? hx)

theorem ends_of_forall (h : ∀ x ∈ l, p x = false) : Ends p l :=
  fun x hx => h x (List.mem_of_getLast? hx)

theorem trimmed_of_forall (h : ∀ x ∈ l, p x = false) : trimmed p l = l :=
  trimmed_of (stops_of_forall h) (ends_of_forall h)

theorem stops_of_start {l r : List α} (h : Stops p l) (hr : r <+: l) : Stops p r := by
  obtain ⟨rest, rfl⟩ := hr
  cases r with
  | nil => exact stops_nil
  | cons x r => exact stops_cons.mpr (stops_cons.mp h)

theorem stops_trimmed (l : List α) : Stops p (trimmed p l) :=
  stops_of_start (stops_dropWhile l) (List.rdropWhile_prefix _ _)

theorem ends_trimmed (l : List α) : Ends p (trimmed p l) := ends_rdropWhile _

theorem trimmed_sublist (l : List α) : (trimmed p l).Sublist l :=
  (List.rdropWhile_prefix _ _).sublist.trans (List.dropWhile_sublist p)

theorem mem_of_mem_trimmed (h : x ∈ trimmed p l) : x ∈ l := (trimmed_sublist l).subset h

/-- A start of a trimmed list is trimmed at its end only. -/
theorem trimmed_prefix {l r : List α} (h : Stops p l) (hr : r <+: l) :
    trimmed p r = r.rdropWhile p := by
  rw [trimmed, dropWhile_of_stops (stops_of_start h hr)]

/-- What stands before and after a list that neither starts nor ends with an element of
the kind. -/
theorem trimmed_append {l m r : List α} (hl : ∀ x ∈ l, p x = true) (hstart : Stops p m)
    (hend : Ends p m) (hne : m ≠ []) : trimmed p (l ++ m ++ r) = m ++ r.rdropWhile p := by
  have hm : Stops p (m ++ r) := by
    cases m with
    | nil => exact absurd rfl hne
    | cons x m => exact stops_cons.mpr (stops_cons.mp hstart)
  obtain ⟨init, x, rfl⟩ : ∃ init x, m = init ++ [x] :=
    ⟨m.dropLast, m.getLast hne, (List.dropLast_append_getLast hne).symm⟩
  have hx : p x = false := hend x (by simp)
  rw [trimmed, List.append_assoc, List.dropWhile_append_of_pos hl, dropWhile_of_stops hm,
    List.append_assoc, List.singleton_append, rdropWhile_append_cons hx, List.append_assoc,
    List.singleton_append]

/-- A list is what it is trimmed to, between elements of the kind. -/
theorem exists_trimmed (p : α → Bool) (l : List α) :
    ∃ r s, l = r ++ trimmed p l ++ s ∧ (∀ x ∈ r, p x = true) ∧ ∀ x ∈ s, p x = true := by
  obtain ⟨s, hs, hall⟩ := exists_rdropWhile p (l.dropWhile p)
  refine ⟨l.takeWhile p, s, ?_, fun x hx => List.mem_takeWhile_imp hx, hall⟩
  rw [List.append_assoc]
  show l = l.takeWhile p ++ ((l.dropWhile p).rdropWhile p ++ s)
  rw [← hs, List.takeWhile_append_dropWhile]

theorem infix_append_of_pos {l m q : List α} (hl : ∀ x ∈ l, p x = true) (hq : Stops p q) :
    q <:+: l ++ m ↔ q <:+: m := by
  induction l with
  | nil => rw [List.nil_append]
  | cons y l ih =>
    rw [List.cons_append, List.infix_cons_iff, ih fun x hx => hl x (by simp [hx])]
    constructor
    · rintro (hstarts | hinfix)
      · cases q with
        | nil => exact List.nil_infix
        | cons x q =>
          obtain rfl := (List.cons_prefix_cons.mp hstarts).1
          have hx := (stops_cons.mp hq).symm.trans (hl x (by simp))
          exact absurd hx Bool.false_ne_true
      · exact hinfix
    · exact Or.inr

theorem stops_reverse (h : Ends p l) : Stops p l.reverse := by
  intro x hx
  rw [List.head?_reverse] at hx
  exact h x hx

/-- A list that neither starts nor ends with an element of the kind occurs between such elements
only inside. -/
theorem infix_surrounded {l m r q : List α} (hl : ∀ x ∈ l, p x = true)
    (hr : ∀ x ∈ r, p x = true) (hstart : Stops p q) (hend : Ends p q) :
    q <:+: l ++ m ++ r ↔ q <:+: m := by
  rw [List.append_assoc, infix_append_of_pos hl hstart, ← List.reverse_infix, List.reverse_append,
    infix_append_of_pos (p := p) (fun x hx => hr x (List.mem_reverse.mp hx)) (stops_reverse hend),
    List.reverse_infix]

end Trimming
