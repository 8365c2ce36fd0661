import SnowAgent.Interleaving

/-! # Where facts come from

A fact about the world that does not hold when an execution starts, and that others do not bring
about, holds only after an event of a task has brought it about: `Run.happened`.  An event that
is answered only where such a fact holds comes after that one: `Run.happened_before`.  And an
event that is answered only while a fact does not hold, and makes it hold for good, is
answered once at most in all tasks together: `Run.once`.
-/
namespace Interleaving

open Program

variable {S : Interface} {World Call Out : Type} {sys : System S World Call Out}
  {allowed : Config S World Call Out → Label S World Call → Prop} {world : World}
  {c c' : Config S World Call Out} {l : Label S World Call} {P : Event S → Prop} {ev : Event S}

/-- An event of a kind is in the past of some task. -/
def Happened (P : Event S → Prop) (c : Config S World Call Out) : Prop :=
  ∃ (i : Nat) (t : Task S Call Out), c.tasks[i]? = some t ∧ ∃ ev ∈ t.past, P ev

/-- What has happened has happened ever after. -/
theorem Happened.step (h : Happened P c) (hs : Step sys c l c') : Happened P c' := by
  obtain ⟨i, t, ht, ev, hev, hP⟩ := h
  obtain ⟨u, more, hu, _, hpast⟩ := hs.grows ht
  refine ⟨i, u, hu, ev, ?_, hP⟩
  rw [hpast]
  exact List.mem_append_left _ hev

/-- What is answered in a step has happened after it. -/
theorem Step.happened (hs : Step sys c l c') (hev : l.event? = some ev) (hP : P ev) :
    Happened P c' := by
  obtain ⟨_, _, _, _, htask, _, _, _, rfl⟩ := hs.performed hev
  exact ⟨_, _, afterAct_self htask, ev, List.mem_append_right _ (List.mem_singleton_self _), hP⟩

/-- What a step answers, the world before it answers. -/
theorem Step.answered (hs : Step sys c l c') (hev : l.event? = some ev) :
    sys.answers c.world ev.1 ev.2 c'.world := by
  obtain ⟨_, _, _, _, _, _, ha, _, rfl⟩ := hs.performed hev
  exact ha

/-- What a step does to the world: an action is answered, others change it, or it stays. -/
theorem Step.world_cases (hs : Step sys c l c') : (∃ ev, l.event? = some ev) ∨
    l.event? = none ∧ (sys.environment c.world c'.world ∨ c'.world = c.world) := by
  cases hs with
  | act | receive => exact .inl ⟨_, rfl⟩
  | environment hw => exact .inr ⟨rfl, .inl hw⟩
  | _ => exact .inr ⟨rfl, .inr rfl⟩

/-- How many events of a kind a task has seen. -/
def countEvents (p : Event S → Bool) (t : Task S Call Out) : Nat := t.past.countP p

/-- A step adds to the events of a kind the one that it answers. -/
theorem Step.total_count (hs : Step sys c l c') (p : Event S → Bool) :
    total (countEvents p) c' = total (countEvents p) c + l.event?.toList.countP p := by
  cases hev : l.event? with
  | some ev =>
    obtain ⟨e, r⟩ := ev
    obtain ⟨i, t, k, w, ht, _, _, _, rfl⟩ := hs.performed hev
    have hsum := total_afterAct (f := countEvents p) (e := e) (k := k) (r := r) (w := w) ht
    simp only [countEvents, List.countP_append, Option.toList_some] at hsum ⊢
    omega
  | none =>
    cases hs with
    | spawn hidle => simp [total_afterSpawn, countEvents]
    | act | receive => cases hev
    | _ => rfl

variable {Q : World → Prop}

section

variable (h : Run sys allowed world c) (hstart : ¬ Q world)
  (hanswer : ∀ {w e r w'}, sys.answers w e r w' → Q w' → Q w ∨ P ⟨e, r⟩)
  (henvironment : ∀ {w w'}, sys.environment w w' → Q w' → Q w)

include h hstart hanswer henvironment

/-- **Where a fact comes from.**  A fact that does not hold at the start, and that others do
not bring about, holds only after an event that brings it about. -/
theorem Run.happened (hQ : Q c.world) :
    Happened P c := by
  refine h.invariant (I := fun c => Q c.world → Happened P c) (fun hQ => absurd hQ hstart) ?_ hQ
  intro c l c' _ ih _ hs hQ
  rcases hs.world_cases with ⟨ev, hev⟩ | ⟨_, hw | hw⟩
  · rcases hanswer (hs.answered hev) hQ with hbefore | hP
    · exact (ih hbefore).step hs
    · exact hs.happened hev hP
  · exact (ih (henvironment hw hQ)).step hs
  · rw [hw] at hQ
    exact (ih hQ).step hs

/-- **What comes first.**  An event that is answered only where such a fact holds comes after
one that has brought the fact about. -/
theorem Run.happened_before {i : Nat}
    {t : Task S Call Out} (ht : c.tasks[i]? = some t) (hev : ev ∈ t.past)
    (hneeds : ∀ {w w'}, sys.answers w ev.1 ev.2 w' → Q w) : Happened P c := by
  refine h.past_kept ht (W := fun ev' c => ev' = ev → Happened P c) ?_ ?_ ev hev rfl
  · rintro c l c' _ hrun - hs hhappens rfl
    have hbefore := hneeds (hs.answered hhappens)
    exact (hrun.happened hstart hanswer henvironment hbefore).step hs
  · exact fun _ _ hs hkept heq => (hkept heq).step hs

end

/-- **Once.**  An event that is answered only while a fact does not hold, and makes it hold for
good, is answered once at most in all tasks together. -/
theorem Run.once {p : Event S → Bool} (h : Run sys allowed world c)
    (hfirst : ∀ {c l c' ev}, allowed c l → Step sys c l c' → l.event? = some ev → p ev = true →
      ¬ Q c.world ∧ Q c'.world)
    (hkept : ∀ {c l c'}, allowed c l → Step sys c l c' → Q c.world → Q c'.world) :
    total (countEvents p) c ≤ 1 := by
  refine (h.invariant (I := fun c => total (countEvents p) c ≤ 1 ∧
    (total (countEvents p) c ≠ 0 → Q c.world)) ⟨by simp [total], by simp [total]⟩ ?_).1
  rintro c l c' - ⟨honce, hheld⟩ hl hs
  rw [hs.total_count p]
  cases hev : l.event? with
  | none => exact ⟨honce, fun hne => hkept hl hs (hheld hne)⟩
  | some ev =>
    rw [Option.toList_some, List.countP_singleton]
    by_cases hp : p ev = true
    · -- the fact did not hold, so there was no such event before
      obtain ⟨hnot, hnow⟩ := hfirst hl hs hev hp
      have hzero : total (countEvents p) c = 0 := by
        by_contra hne
        exact hnot (hheld hne)
      rw [if_pos hp]
      exact ⟨by omega, fun _ => hnow⟩
    · rw [if_neg hp]
      exact ⟨honce, fun hne => hkept hl hs (hheld hne)⟩

end Interleaving
