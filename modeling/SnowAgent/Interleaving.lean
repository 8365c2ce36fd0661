import Mathlib.Algebra.BigOperators.Group.List.Basic
import Mathlib.Algebra.Order.BigOperators.Group.List
import Mathlib.Algebra.GroupWithZero.Nat
import Mathlib.Algebra.Order.Group.Nat
import SnowAgent.Program

/-! # Tasks that share a world

A single-threaded executor runs any number of tasks, each a program.  A task
keeps running, action after action, until it returns or reaches an action that
**yields**: it then waits for the answer, and other tasks run in between.  So
between two yields of a task nothing else happens, and at a yield everything may.

`Run` lists the executions whose steps satisfy a condition; a step sees the
configuration before it and the label of what happens.  `Run.invariant` proves a
property of all of them step by step, and `Run.safe` carries what `Program.Safe`
says of the programs over to the tasks of any run, however they interleave.
-/
namespace Interleaving

open Program

variable {S : Interface} {World Call Out : Type}

/-- An action with its answer. -/
abbrev Event (S : Interface) := Σ e : S.Act, S.Ans e

/-- One task: the call it serves, what it has done, and what is left of its program. -/
structure Task (S : Interface) (Call Out : Type) where
  call : Call
  past : List (Event S)
  rest : Program S Out

/-- What is executed: a program for every call, the answers a world may give, the actions
that yield, and what others may do to the world at any time. -/
structure System (S : Interface) (World Call Out : Type) where
  program : Call → Program S Out
  answers : World → (e : S.Act) → S.Ans e → World → Prop
  yields : S.Act → Bool
  environment : World → World → Prop

/-- The world, the tasks and the one that is running. -/
structure Config (S : Interface) (World Call Out : Type) where
  world : World
  tasks : List (Task S Call Out)
  running : Option Nat

/-- What happens in a step. -/
inductive Label (S : Interface) (World Call : Type) where
  /-- A call comes in, and its task starts to run. -/
  | spawn (call : Call)
  /-- The running task performs an action that does not yield. -/
  | act (i : Nat) (e : S.Act) (r : S.Ans e)
  /-- The running task sends off an action that yields, and waits. -/
  | send (i : Nat) (e : S.Act)
  /-- The answer arrives, and the task runs again. -/
  | receive (i : Nat) (e : S.Act) (r : S.Ans e)
  /-- The running task has returned. -/
  | finish (i : Nat)
  /-- Others change the world. -/
  | environment (w : World)

/-- The action that is answered in a step, with its answer. -/
def Label.event? : Label S World Call → Option (Event S)
  | .act _ e r | .receive _ e r => some ⟨e, r⟩
  | _ => none

/-- The task to whose action an answer comes in a step. -/
def Label.task? : Label S World Call → Option Nat
  | .act i _ _ | .receive i _ _ => some i
  | _ => none

namespace Config

/-- After task `i`, which was `t`, has performed an action. -/
def afterAct (c : Config S World Call Out) (i : Nat) (t : Task S Call Out) (e : S.Act)
    (r : S.Ans e) (k : S.Ans e → Program S Out) (w : World) : Config S World Call Out where
  world := w
  tasks := c.tasks.set i ⟨t.call, t.past ++ [⟨e, r⟩], k r⟩
  running := some i

/-- After a call has come in. -/
def afterSpawn (c : Config S World Call Out) (sys : System S World Call Out) (call : Call) :
    Config S World Call Out where
  world := c.world
  tasks := c.tasks ++ [⟨call, [], sys.program call⟩]
  running := some c.tasks.length

/-- After the running task has stopped running. -/
def parked (c : Config S World Call Out) : Config S World Call Out := { c with running := none }

end Config

variable (sys : System S World Call Out)

/-- The steps of an execution. -/
inductive Step : Config S World Call Out → Label S World Call → Config S World Call Out → Prop where
  | spawn {c : Config S World Call Out} {call : Call} :
      c.running = none → Step c (.spawn call) (c.afterSpawn sys call)
  | act {c : Config S World Call Out} {i : Nat} {t : Task S Call Out} {e : S.Act}
      {k : S.Ans e → Program S Out} {r : S.Ans e} {w : World} :
      c.running = some i → c.tasks[i]? = some t → t.rest = .act e k → sys.yields e = false →
      sys.answers c.world e r w → Step c (.act i e r) (c.afterAct i t e r k w)
  | send {c : Config S World Call Out} {i : Nat} {t : Task S Call Out} {e : S.Act}
      {k : S.Ans e → Program S Out} :
      c.running = some i → c.tasks[i]? = some t → t.rest = .act e k → sys.yields e = true →
      Step c (.send i e) c.parked
  | receive {c : Config S World Call Out} {i : Nat} {t : Task S Call Out} {e : S.Act}
      {k : S.Ans e → Program S Out} {r : S.Ans e} {w : World} :
      c.running = none → c.tasks[i]? = some t → t.rest = .act e k → sys.yields e = true →
      sys.answers c.world e r w → Step c (.receive i e r) (c.afterAct i t e r k w)
  | finish {c : Config S World Call Out} {i : Nat} {t : Task S Call Out} {a : Out} :
      c.running = some i → c.tasks[i]? = some t → t.rest = .pure a → Step c (.finish i) c.parked
  | environment {c : Config S World Call Out} {w : World} :
      sys.environment c.world w → Step c (.environment w) { c with world := w }

variable (allowed : Config S World Call Out → Label S World Call → Prop)

/-- The executions from `world` whose steps are all allowed. -/
inductive Run (world : World) : Config S World Call Out → Prop where
  | start : Run world ⟨world, [], none⟩
  | next {c c' : Config S World Call Out} {l : Label S World Call} :
      Run world c → allowed c l → Step sys c l c' → Run world c'

variable {sys allowed} {world : World}

/-- What holds at the start and is preserved by every allowed step holds throughout. -/
theorem Run.invariant {I : Config S World Call Out → Prop} (hinit : I ⟨world, [], none⟩)
    (hstep : ∀ c l c', Run sys allowed world c → I c → allowed c l → Step sys c l c' → I c')
    {c : Config S World Call Out} (h : Run sys allowed world c) : I c := by
  induction h with
  | start => exact hinit
  | next hrun hl hs ih => exact hstep _ _ _ hrun ih hl hs

variable {allowed' : Config S World Call Out → Label S World Call → Prop}

theorem Run.mono (hle : ∀ c l, allowed c l → allowed' c l) {c : Config S World Call Out}
    (h : Run sys allowed world c) : Run sys allowed' world c := by
  induction h with
  | start => exact .start
  | next _ hl hs ih => exact .next ih (hle _ _ hl) hs

/-- What an execution goes on with from a configuration, by allowed steps. -/
inductive Leads (sys : System S World Call Out)
    (allowed : Config S World Call Out → Label S World Call → Prop) (c : Config S World Call Out) :
    Config S World Call Out → Prop where
  | refl : Leads sys allowed c c
  | next {c' c'' : Config S World Call Out} {l : Label S World Call} :
      Leads sys allowed c c' → allowed c' l → Step sys c' l c'' → Leads sys allowed c c''

/-- An execution and what it goes on with are one execution. -/
theorem Leads.run (hle : ∀ c l, allowed' c l → allowed c l) {c c' : Config S World Call Out}
    (h : Leads sys allowed' c c') (hrun : Run sys allowed world c) : Run sys allowed world c' := by
  induction h with
  | refl => exact hrun
  | next _ hl hs ih => exact .next ih (hle _ _ hl) hs

/-- An execution is what it goes on with from its start. -/
theorem Run.leads {c : Config S World Call Out} (h : Run sys allowed world c) :
    Leads sys allowed ⟨world, [], none⟩ c := by
  induction h with
  | start => exact .refl
  | next _ hl hs ih => exact .next ih hl hs

/-! ## The tasks after a step -/

variable {c' : Config S World Call Out} {l : Label S World Call}

section Tasks

variable {c : Config S World Call Out} {i j : Nat} {t u : Task S Call Out} {e : S.Act}
  {k : S.Ans e → Program S Out} {r : S.Ans e} {w : World} {call : Call}

/-- An action changes the task that performs it and no other. -/
theorem afterAct_task (h : (c.afterAct i t e r k w).tasks[j]? = some u) :
    j = i ∧ u = ⟨t.call, t.past ++ [⟨e, r⟩], k r⟩ ∨ j ≠ i ∧ c.tasks[j]? = some u := by
  rw [Config.afterAct, List.getElem?_set] at h
  by_cases hij : i = j
  · subst hij
    rw [if_pos rfl] at h
    split_ifs at h with hlt
    exact .inl ⟨rfl, (Option.some.inj h).symm⟩
  · rw [if_neg hij] at h
    exact .inr ⟨Ne.symm hij, h⟩

theorem afterAct_self (hi : c.tasks[i]? = some t) :
    (c.afterAct i t e r k w).tasks[i]? = some ⟨t.call, t.past ++ [⟨e, r⟩], k r⟩ := by
  have hlt := (List.getElem?_eq_some_iff.mp hi).1
  rw [Config.afterAct, List.getElem?_set, if_pos rfl, if_pos hlt]

theorem afterAct_other (hij : j ≠ i) :
    (c.afterAct i t e r k w).tasks[j]? = c.tasks[j]? := by
  rw [Config.afterAct, List.getElem?_set, if_neg (Ne.symm hij)]

/-- A new task comes after all others. -/
theorem afterSpawn_task (h : (c.afterSpawn sys call).tasks[j]? = some u) :
    j = c.tasks.length ∧ u = ⟨call, [], sys.program call⟩ ∨ c.tasks[j]? = some u := by
  rw [Config.afterSpawn, List.getElem?_append] at h
  split_ifs at h with hlt
  · exact .inr h
  · obtain ⟨hj, hu⟩ := List.getElem?_eq_some_iff.mp h
    have hzero : j - c.tasks.length = 0 := by simpa using hj
    refine .inl ⟨by omega, ?_⟩
    rw [← hu]
    simp [hzero]

theorem afterSpawn_old (h : c.tasks[j]? = some u) :
    (c.afterSpawn sys call).tasks[j]? = some u := by
  have hlt := (List.getElem?_eq_some_iff.mp h).1
  rw [Config.afterSpawn, List.getElem?_append, if_pos hlt, h]

/-- What a step answers, a task performs, in the world before it. -/
theorem Step.performed {ev : Event S} (hs : Step sys c l c') (hev : l.event? = some ev) :
    ∃ i t k w, c.tasks[i]? = some t ∧ t.rest = .act ev.1 k ∧ sys.answers c.world ev.1 ev.2 w ∧
      l.task? = some i ∧ c' = c.afterAct i t ev.1 ev.2 k w := by
  cases hs with
  | act hr htask hrest hy ha | receive hr htask hrest hy ha =>
    cases hev
    exact ⟨_, _, _, _, htask, hrest, ha, rfl, rfl⟩
  | _ => cases hev

/-- A step leaves the calls of the tasks, and their pasts only grow. -/
theorem Step.grows (hs : Step sys c l c') (h : c.tasks[j]? = some u) :
    ∃ u' more, c'.tasks[j]? = some u' ∧ u'.call = u.call ∧ u'.past = u.past ++ more := by
  cases hev : l.event? with
  | some ev =>
    obtain ⟨i, t, _, _, ht, _, _, _, rfl⟩ := hs.performed hev
    by_cases hij : j = i
    · subst hij
      rw [ht] at h
      cases h
      exact ⟨_, _, afterAct_self ht, rfl, rfl⟩
    · exact ⟨u, [], by rw [afterAct_other hij, h], rfl, by simp⟩
  | none =>
    refine ⟨u, [], ?_, rfl, by simp⟩
    cases hs with
    | spawn hidle => exact afterSpawn_old h
    | act | receive => cases hev
    | _ => exact h

/-- What a step makes of a task: the task has just come in, has performed the action of the step,
or is as it was. -/
theorem Step.task_cases (hs : Step sys c l c') (h : c'.tasks[j]? = some u) :
    (∃ call, u = ⟨call, [], sys.program call⟩) ∨
      (∃ t e k r, c.tasks[j]? = some t ∧ t.rest = .act e k ∧ l.event? = some ⟨e, r⟩ ∧
        l.task? = some j ∧ u = ⟨t.call, t.past ++ [⟨e, r⟩], k r⟩) ∨
      c.tasks[j]? = some u := by
  cases hs with
  | spawn hidle =>
    rcases afterSpawn_task h with ⟨_, rfl⟩ | h
    · exact .inl ⟨_, rfl⟩
    · exact .inr (.inr h)
  | act hr htask hrest hy ha | receive hr htask hrest hy ha =>
    rcases afterAct_task h with ⟨rfl, rfl⟩ | ⟨_, h⟩
    · exact .inr (.inl ⟨_, _, _, _, htask, hrest, rfl, rfl, rfl⟩)
    · exact .inr (.inr h)
  | _ => exact .inr (.inr h)

/-- What does not wait, the running task performs. -/
theorem Step.eq_act (hs : Step sys c l c') (hev : l.event? = some ⟨e, r⟩)
    (hy : sys.yields e = false) : ∃ i, l = .act i e r := by
  cases hs with
  | act =>
    cases hev
    exact ⟨_, rfl⟩
  | receive hr htask hrest hyields =>
    cases hev
    rw [hy] at hyields
    cases hyields
  | _ => cases hev

/-- What holds of the tasks that come in, and what every action keeps of the task that performs
it, holds of every task. -/
theorem Run.task_invariant {I : Task S Call Out → Prop}
    (hinit : ∀ call, I ⟨call, [], sys.program call⟩)
    (hact : ∀ {c l c' i t e k r}, Run sys allowed world c → allowed c l → Step sys c l c' →
      c.tasks[i]? = some t → t.rest = .act e k → l.event? = some ⟨e, r⟩ → l.task? = some i →
        I t → I ⟨t.call, t.past ++ [⟨e, r⟩], k r⟩)
    {c : Config S World Call Out} (h : Run sys allowed world c) {i : Nat} {t : Task S Call Out}
    (ht : c.tasks[i]? = some t) : I t := by
  induction h generalizing i t with
  | start => simp at ht
  | next hrun hl hs ih =>
    rcases hs.task_cases ht with ⟨call, rfl⟩ | ⟨u, e, k, r, hu, hrest, hev, htask, rfl⟩ | hold
    · exact hinit call
    · exact hact hrun hl hs hu hrest hev htask (ih hu)
    · exact ih hold

end Tasks

/-! ## Counting over the tasks -/

variable {f : Task S Call Out → Nat}

/-- The sum of a measure over the tasks. -/
def total (f : Task S Call Out → Nat) (c : Config S World Call Out) : Nat := (c.tasks.map f).sum

theorem sum_set {f : Task S Call Out → Nat} : ∀ {ts : List (Task S Call Out)} {i : Nat}
    {t u : Task S Call Out}, ts[i]? = some t →
    ((ts.set i u).map f).sum + f t = (ts.map f).sum + f u
  | [], _, _, _, h => by cases h
  | t' :: ts, 0, t, u, h => by
    cases h
    simp only [List.set_cons_zero, List.map_cons, List.sum_cons]
    omega
  | t' :: ts, i + 1, t, u, h => by
    have ih := sum_set (f := f) (u := u) (show ts[i]? = some t from h)
    simp only [List.set_cons_succ, List.map_cons, List.sum_cons]
    omega

theorem total_afterAct {c : Config S World Call Out} {i : Nat} {t : Task S Call Out} {e : S.Act}
    {k : S.Ans e → Program S Out} {r : S.Ans e} {w : World}
    (h : c.tasks[i]? = some t) :
    total f (c.afterAct i t e r k w) + f t =
      total f c + f ⟨t.call, t.past ++ [⟨e, r⟩], k r⟩ := sum_set h

theorem total_afterSpawn (f : Task S Call Out → Nat) (c : Config S World Call Out) (call : Call) :
    total f (c.afterSpawn sys call) = total f c + f ⟨call, [], sys.program call⟩ := by
  simp [total, Config.afterSpawn]

/-- A total is at most another that is so task by task. -/
theorem total_le {f g : Task S Call Out → Nat} {c : Config S World Call Out}
    (h : ∀ t ∈ c.tasks, f t ≤ g t) : total f c ≤ total g c :=
  List.sum_le_sum h

/-- A total that is not zero comes from some task. -/
theorem exists_of_total_ne_zero {c : Config S World Call Out}
    (h : total f c ≠ 0) : ∃ (i : Nat) (t : Task S Call Out), c.tasks[i]? = some t ∧ f t ≠ 0 := by
  obtain ⟨n, hn, hne⟩ := List.exists_mem_ne_zero_of_sum_ne_zero h
  obtain ⟨t, ht, rfl⟩ := List.mem_map.mp hn
  obtain ⟨i, hi⟩ := List.mem_iff_getElem?.mp ht
  exact ⟨i, t, hi, hne⟩

/-! ## One call after another -/

/-- A call comes in only when every task has returned. -/
def Sequential (c : Config S World Call Out) : Label S World Call → Prop
  | .spawn _ => ∀ t ∈ c.tasks, t.rest.Returned
  | _ => True

instance (c : Config S World Call Out) : (l : Label S World Call) → Decidable (Sequential c l)
  | .spawn _ => inferInstanceAs (Decidable (∀ t ∈ c.tasks, t.rest.Returned))
  | .act .. | .send .. | .receive .. | .finish _ | .environment _ => .isTrue trivial

/-- A task that has not returned after an action had not returned before it. -/
theorem afterAct_busy {c : Config S World Call Out} {i j : Nat} {t u : Task S Call Out}
    {e : S.Act} {k : S.Ans e → Program S Out} {r : S.Ans e} {w : World}
    (ht : c.tasks[i]? = some t) (hrest : t.rest = .act e k)
    (hu : (c.afterAct i t e r k w).tasks[j]? = some u) (hbusy : ¬ u.rest.Returned) :
    ∃ v, c.tasks[j]? = some v ∧ ¬ v.rest.Returned := by
  rcases afterAct_task hu with ⟨rfl, _⟩ | ⟨_, hu⟩
  · refine ⟨t, ht, ?_⟩
    rw [hrest]
    exact id
  · exact ⟨u, hu, hbusy⟩

/-- In a sequential execution one task at most has not returned. -/
theorem Run.sequential (hseq : ∀ c l, allowed c l → Sequential c l)
    {c : Config S World Call Out} (h : Run sys allowed world c) {i j : Nat}
    {t u : Task S Call Out} (ht : c.tasks[i]? = some t) (hu : c.tasks[j]? = some u)
    (hbusy : ¬ t.rest.Returned) (hbusy' : ¬ u.rest.Returned) : i = j := by
  induction h generalizing i j t u with
  | start => simp at ht
  | next hrun hl hs ih =>
    cases hs with
    | spawn hidle =>
      have hold := hseq _ _ hl
      rcases afterSpawn_task ht with ⟨hi, _⟩ | ht
      · rcases afterSpawn_task hu with ⟨hj, _⟩ | hu
        · rw [hi, hj]
        · exact absurd (hold u (List.mem_of_getElem? hu)) hbusy'
      · exact absurd (hold t (List.mem_of_getElem? ht)) hbusy
    | act hr htask hrest hy ha | receive hr htask hrest hy ha =>
      obtain ⟨v, hv, hv'⟩ := afterAct_busy htask hrest ht hbusy
      obtain ⟨x, hx, hx'⟩ := afterAct_busy htask hrest hu hbusy'
      exact ih hv hx hv' hx'
    | _ => exact ih ht hu hbusy hbusy'

/-! ## Observers of tasks -/

variable (O : Observer S) (init : Call → O.State)

/-- What an observer has of a task, from what the task has done. -/
def Task.observed (t : Task S Call Out) : O.State :=
  t.past.foldl (fun s ev => O.next s ev.1 ev.2) (init t.call)

@[simp] theorem observed_new (call : Call) (p : Program S Out) :
    Task.observed O init ⟨call, [], p⟩ = init call := rfl

@[simp] theorem observed_act (t : Task S Call Out) (e : S.Act) (r : S.Ans e) (p : Program S Out) :
    Task.observed O init ⟨t.call, t.past ++ [⟨e, r⟩], p⟩ = O.next (t.observed O init) e r := by
  simp [Task.observed]

/-- The observer that keeps everything. -/
def trace (S : Interface) : Observer S := ⟨List (Event S), fun past e r => past ++ [⟨e, r⟩]⟩

theorem observed_trace (t : Task S Call Out) : t.observed (trace S) (fun _ => []) = t.past := by
  have hfold : ∀ past done : List (Event S),
      past.foldl (fun s ev => s ++ [⟨ev.1, ev.2⟩]) done = done ++ past := by
    intro past
    induction past with
    | nil => intro done; simp
    | cons ev past ih =>
      intro done
      rw [List.foldl_cons, ih, List.append_assoc, List.singleton_append]
  exact hfold t.past []

variable {O init} {ok : O.State → S.Act → Prop} {Q : Call → O.State → Out → Prop}
  {okPast : List (Event S) → S.Act → Prop} {E : Call → List (Event S) → Out → Prop}

section

variable {c : Config S World Call Out} (h : Run sys allowed world c) {i : Nat}
  {t : Task S Call Out} (ht : c.tasks[i]? = some t)

include h ht

/-- **Safe programs stay safe as tasks.**  Whatever the interleaving, what is left of the
task of a safe program is safe from what the observer has of it. -/
theorem Run.safe (hsafe : Safe O ok (sys.program t.call) (init t.call) (Q t.call)) :
    Safe O ok t.rest (t.observed O init) (Q t.call) := by
  refine Run.task_invariant (I := fun t => Safe O ok (sys.program t.call) (init t.call) (Q t.call) →
    Safe O ok t.rest (t.observed O init) (Q t.call)) (fun _ => id) ?_ h ht hsafe
  intro c l c' i t e k r _ _ _ _ hrest _ _ ih hsafe
  have hbefore := ih hsafe
  rw [hrest] at hbefore
  rw [observed_act]
  exact hbefore.2 r

/-- What permitted actions keep of an observer's states holds of what it has of any task. -/
theorem Run.observed_invariant {I : O.State → Prop}
    (hsafe : Safe O ok (sys.program t.call) (init t.call) (Q t.call)) (hinit : I (init t.call))
    (hnext : ∀ s e r, I s → ok s e → I (O.next s e r)) : I (t.observed O init) := by
  refine Run.task_invariant (I := fun t => Safe O ok (sys.program t.call) (init t.call) (Q t.call) →
    I (init t.call) → I (t.observed O init)) (fun _ _ => id) ?_ h ht hsafe hinit
  intro c l c' i t e k r hrun _ _ htask hrest _ _ ih hsafe hinit
  have hbefore := hrun.safe htask hsafe
  rw [hrest] at hbefore
  rw [observed_act]
  exact hnext _ _ _ (ih hsafe hinit) hbefore.1

/-- What is left of a task is safe from its past. -/
theorem Run.safe_past (hsafe : Safe (trace S) okPast (sys.program t.call) [] (E t.call)) :
    Safe (trace S) okPast t.rest t.past (E t.call) := by
  have hkept : Safe (trace S) okPast t.rest (t.observed (trace S) fun _ => []) (E t.call) :=
    h.safe ht hsafe
  rwa [observed_trace t] at hkept

/-- What permitted actions keep of a past holds of the past of every task. -/
theorem Run.past_invariant {I : List (Event S) → Prop}
    (hsafe : Safe (trace S) okPast (sys.program t.call) [] (E t.call)) (hinit : I [])
    (hnext : ∀ past e r, I past → okPast past e → I (past ++ [⟨e, r⟩])) : I t.past := by
  have hkept : I (t.observed (trace S) fun _ => []) :=
    h.observed_invariant (O := trace S) ht hsafe hinit hnext
  rwa [observed_trace t] at hkept

/-- Whatever a task has done, and whatever it does next, was permitted after all before it. -/
theorem Run.permitted (hsafe : Safe (trace S) okPast (sys.program t.call) [] (E t.call)) :
    (∀ before ev after, t.past = before ++ ev :: after → okPast before ev.1) ∧
      ∀ e k, t.rest = .act e k → okPast t.past e := by
  constructor
  · refine h.past_invariant ht (I := fun past => ∀ before ev after,
      past = before ++ ev :: after → okPast before ev.1) hsafe ?_ ?_
    · intro before ev after hsplit
      simp at hsplit
    · intro past e r hpast hok before ev after hsplit
      rcases List.eq_nil_or_concat after with rfl | ⟨after', last, rfl⟩
      · obtain ⟨rfl, hev⟩ := List.append_inj' hsplit rfl
        cases hev
        exact hok
      · rw [List.concat_eq_append, ← List.cons_append, ← List.append_assoc] at hsplit
        exact hpast before ev after' (List.append_inj' hsplit rfl).1
  · intro e k hrest
    have hleft := h.safe_past ht hsafe
    rw [hrest] at hleft
    exact hleft.1

/-- What every step keeps of the call and the past of the task whose action it answers holds of
every task. -/
theorem Run.call_step {I : Call → List (Event S) → Prop}
    (hinit : ∀ call, I call [])
    (hevent : ∀ {c l c' i t ev}, Run sys allowed world c → allowed c l → Step sys c l c' →
      l.event? = some ev → l.task? = some i → c.tasks[i]? = some t → I t.call t.past →
        I t.call (t.past ++ [ev])) : I t.call t.past :=
  Run.task_invariant (I := fun t => I t.call t.past) hinit
    (fun hrun hl hs htask _ hev hi ih => hevent hrun hl hs hev hi htask ih) h ht

/-- The same of the past alone. -/
theorem Run.past_step {I : List (Event S) → Prop} (hinit : I [])
    (hevent : ∀ {c l c' i t ev}, Run sys allowed world c → allowed c l → Step sys c l c' →
      l.event? = some ev → l.task? = some i → c.tasks[i]? = some t → I t.past →
        I (t.past ++ [ev])) : I t.past :=
  h.call_step ht (I := fun _ => I) (fun _ => hinit) hevent

/-- What holds of every event that a step lets happen holds of all that is past. -/
theorem Run.past_all {P : Event S → Prop}
    (hevent : ∀ {c l c'}, Run sys allowed world c → allowed c l → Step sys c l c' →
      ∀ ev ∈ l.event?, P ev) : ∀ ev ∈ t.past, P ev := by
  refine h.past_step ht (I := fun past => ∀ ev ∈ past, P ev) (fun ev hev => absurd hev
    List.not_mem_nil) fun hrun hl hs hhappens _ _ hpast ev hev => ?_
  rcases List.mem_append.mp hev with hev | hev
  · exact hpast ev hev
  · rw [List.mem_singleton.mp hev]
    exact hevent hrun hl hs _ hhappens

/-- **Assumptions on answers, for the tasks of a run.**  A task whose answers have all been as
assumed has only performed the actions its program performs then, and goes on so. -/
theorem Run.given {G : (e : S.Act) → S.Ans e → Prop}
    {P : S.Act → Prop} {R : Out → Prop} (hgiven : Given G P R (sys.program t.call))
    (hpast : ∀ ev ∈ t.past, G ev.1 ev.2) : (∀ ev ∈ t.past, P ev.1) ∧ Given G P R t.rest := by
  refine Run.task_invariant (I := fun t => Given G P R (sys.program t.call) →
    (∀ ev ∈ t.past, G ev.1 ev.2) → (∀ ev ∈ t.past, P ev.1) ∧ Given G P R t.rest) ?_ ?_ h ht hgiven
    hpast
  · exact fun _ hgiven _ => ⟨fun ev hev => absurd hev List.not_mem_nil, hgiven⟩
  · intro c l c' i t e k r _ _ _ _ hrest _ _ ih hgiven hall
    obtain ⟨hdone, hnext⟩ := ih hgiven fun ev hev => hall ev (List.mem_append_left _ hev)
    rw [hrest] at hnext
    refine ⟨fun ev hev => ?_, hnext.2 r (hall ⟨e, r⟩ (List.mem_append_right _ (by simp)))⟩
    rcases List.mem_append.mp hev with hev | hev
    · exact hdone ev hev
    · rw [List.mem_singleton.mp hev]
      exact hnext.1

end

/-- A step of an execution is one of the actions its programs use. -/
theorem Run.step_uses {c c' : Config S World Call Out} (h : Run sys allowed world c)
    (hs : Step sys c l c') {P : S.Act → Prop}
    (huses : ∀ call, (sys.program call).Uses P fun _ => True) : ∀ ev ∈ l.event?, P ev.1 := by
  have hrest : ∀ {i : Nat} {t : Task S Call Out} {e : S.Act} {k : S.Ans e → Program S Out},
      c.tasks[i]? = some t → t.rest = .act e k → P e := by
    intro i t e k ht hrest
    have hgiven : Given (fun _ _ => True) P (fun _ => True) t.rest :=
      (h.given ht (huses t.call).given fun _ _ => trivial).2
    rw [hrest] at hgiven
    exact hgiven.1
  intro ev hev
  obtain ⟨_, _, _, _, htask, hnext, _⟩ := hs.performed hev
  exact hrest htask hnext

variable {W : Event S → Config S World Call Out → Prop}

/-- What every event makes true, and every step keeps, holds of all that is past of the tasks
that have come in. -/
theorem Leads.past_kept {c c' : Config S World Call Out} (h : Leads sys allowed c c') {j : Nat}
    {u : Task S Call Out} (hj : c.tasks.length ≤ j) (hu : c'.tasks[j]? = some u)
    (hnew : ∀ {c₁ l c₂ ev i t}, Leads sys allowed c c₁ → allowed c₁ l → Step sys c₁ l c₂ →
      l.event? = some ev → l.task? = some i → c₁.tasks[i]? = some t → t.call = u.call → W ev c₂)
    (hkeep : ∀ {c₁ l c₂ ev}, Leads sys allowed c c₁ → allowed c₁ l → Step sys c₁ l c₂ →
      W ev c₁ → W ev c₂) : ∀ ev ∈ u.past, W ev c' := by
  obtain ⟨call, hcall⟩ : ∃ call, u.call = call := ⟨_, rfl⟩
  rw [hcall] at hnew
  induction h generalizing j u with
  | refl =>
    have hlt := (List.getElem?_eq_some_iff.mp hu).1
    omega
  | @next c₁ c₂ l hlead hl hs ih =>
    intro ev hev
    have hold : ∀ {j : Nat} {u : Task S Call Out}, c.tasks.length ≤ j →
        c₁.tasks[j]? = some u → u.call = call → ev ∈ u.past → W ev c₂ :=
      fun hj hu hcall hev => hkeep hlead hl hs (ih hj hu hcall ev hev)
    rcases hs.task_cases hu with ⟨_, rfl⟩ | ⟨t, e, k, r, ht, _, hhappens, htask, rfl⟩ | hu
    · exact absurd hev List.not_mem_nil
    · rcases List.mem_append.mp hev with hev | hev
      · exact hold hj ht hcall hev
      · rw [List.mem_singleton.mp hev]
        exact hnew hlead hl hs hhappens htask ht hcall
    · exact hold hj hu hcall hev

/-- The same of all that is past in an execution. -/
theorem Run.past_kept {c : Config S World Call Out} (h : Run sys allowed world c) {i : Nat}
    {t : Task S Call Out} (ht : c.tasks[i]? = some t)
    (hnew : ∀ {c l c' ev}, Run sys allowed world c → allowed c l → Step sys c l c' →
      l.event? = some ev → W ev c')
    (hkeep : ∀ {c l c' ev}, Run sys allowed world c → allowed c l → Step sys c l c' →
      W ev c → W ev c') : ∀ ev ∈ t.past, W ev c := by
  have hruns : ∀ {c₁ : Config S World Call Out}, Leads sys allowed ⟨world, [], none⟩ c₁ →
      Run sys allowed world c₁ := fun hlead => hlead.run (fun _ _ => id) .start
  exact h.leads.past_kept (Nat.zero_le _) ht
    (fun hlead hl hs hev _ _ _ => hnew (hruns hlead) hl hs hev)
    fun hlead hl hs hkept => hkeep (hruns hlead) hl hs hkept

/-- A past that goes on with actions of one kind only. -/
def Extends (P : S.Act → Prop) (past past' : List (Event S)) : Prop :=
  ∃ more, past' = past ++ more ∧ ∀ ev ∈ more, P ev.1

namespace Extends

variable {P P' : S.Act → Prop} {past past' past'' : List (Event S)}

theorem refl (past : List (Event S)) : Extends P past past := ⟨[], by simp, by simp⟩

section

variable (h : Extends P past past')

include h

theorem act {e : S.Act} (he : P e) (r : S.Ans e) :
    Extends P past (past' ++ [⟨e, r⟩]) := by
  obtain ⟨more, rfl, hmore⟩ := h
  refine ⟨more ++ [⟨e, r⟩], List.append_assoc .., fun ev hev => ?_⟩
  rcases List.mem_append.mp hev with hev | hev
  · exact hmore ev hev
  · rw [List.mem_singleton.mp hev]
    exact he

theorem trans (h' : Extends P past' past'') :
    Extends P past past'' := by
  obtain ⟨more, rfl, hmore⟩ := h
  obtain ⟨more', rfl, hmore'⟩ := h'
  refine ⟨more ++ more', List.append_assoc .., fun ev hev => ?_⟩
  rcases List.mem_append.mp hev with hev | hev
  · exact hmore ev hev
  · exact hmore' ev hev

theorem mono (hP : ∀ e, P e → P' e) : Extends P' past past' := by
  obtain ⟨more, rfl, hmore⟩ := h
  exact ⟨more, rfl, fun ev hev => hP ev.1 (hmore ev hev)⟩

theorem mem {ev : Event S} (hev : ev ∈ past) : ev ∈ past' := by
  obtain ⟨more, rfl, _⟩ := h
  exact List.mem_append_left more hev

/-- What the actions do not show has not changed. -/
theorem filterMap {B : Type} {f : Event S → Option B} (hf : ∀ e r, P e → f ⟨e, r⟩ = none) : past'.filterMap f = past.filterMap f := by
  obtain ⟨more, rfl, hmore⟩ := h
  rw [List.filterMap_append, List.filterMap_eq_nil_iff.mpr fun ev hev => hf _ _ (hmore ev hev),
    List.append_nil]

/-- What the actions do not show is found where it was. -/
theorem findSome? {B : Type} {f : Event S → Option B} (hf : ∀ e r, P e → f ⟨e, r⟩ = none) : past'.findSome? f = past.findSome? f := by
  obtain ⟨more, rfl, hmore⟩ := h
  rw [List.findSome?_append, List.findSome?_eq_none_iff.mpr fun ev hev => hf _ _ (hmore ev hev),
    Option.or_none]

end

end Extends

/-- A part of a program extends the past by the actions it performs. -/
theorem uses_extends {A : Type} {P : S.Act → Prop} {R : A → Prop} {p : Program S A}
    {ok : List (Event S) → S.Act → Prop} (hp : p.Uses P R) (hok : ∀ past e, P e → ok past e)
    (past : List (Event S)) :
    Safe (trace S) ok p past fun past' a => Extends P past past' ∧ R a :=
  hp.safe (O := trace S) (I := Extends P past) (Extends.refl past) (fun past e _ => hok past e)
    fun _ _ r hs he => hs.act he r

/-- What a program does from the start, it does after any past. -/
theorem safe_after {A : Type} {p : Program S A} {Q : List (Event S) → A → Prop}
    (h : Safe (trace S) (fun _ _ => True) p [] Q) (past : List (Event S)) :
    Safe (trace S) (fun _ _ => True) p past fun past' a =>
      ∃ more, past' = past ++ more ∧ Q more a := by
  have hshift : ∀ {p : Program S A} {done : List (Event S)},
      Safe (trace S) (fun _ _ => True) p done Q →
      Safe (trace S) (fun _ _ => True) p (past ++ done) fun past' a =>
        ∃ more, past' = past ++ more ∧ Q more a := by
    intro p
    induction p with
    | pure a => exact fun hdone => ⟨_, rfl, hdone⟩
    | act e k ih =>
      intro done hdone
      refine ⟨trivial, fun r => ?_⟩
      have hsame : (trace S).next (past ++ done) e r = past ++ (done ++ [⟨e, r⟩]) :=
        List.append_assoc ..
      rw [hsame]
      exact ih r (hdone.2 r)
  have hstart := hshift h
  rwa [List.append_nil] at hstart

/-! ## Scripted executions

A fixed execution is played from a script: which call comes in or which task is
resumed next, while a player answers the actions.  What the script plays is a run
(`play_run`). -/

/-- A player answers every action in one way the world may answer it. -/
structure Player (sys : System S World Call Out) where
  answer : World → (e : S.Act) → Option (S.Ans e × World)
  sound : ∀ {w e r w'}, answer w e = some (r, w') → sys.answers w e r w'

/-- The moves of a script. -/
inductive Move (Call : Type) where
  | call (call : Call)
  | resume (i : Nat)

section Script

variable (allowed) (player : Player sys)
  [∀ (c : Config S World Call Out) (l : Label S World Call), Decidable (allowed c l)]

/-- Lets the running task go on until it waits or has returned, for at most so many steps. -/
def advance : Nat → Config S World Call Out → Option (Config S World Call Out)
  | 0, _ => none
  | n + 1, c =>
    match c.running with
    | none => some c
    | some i =>
      match c.tasks[i]? with
      | none => none
      | some t =>
        match t.rest with
        | .pure _ => if allowed c (.finish i) then some c.parked else none
        | .act e k =>
          if sys.yields e then
            if allowed c (.send i e) then some c.parked else none
          else
            match player.answer c.world e with
            | none => none
            | some (r, w) =>
              if allowed c (.act i e r) then advance n (c.afterAct i t e r k w)
              else none

/-- Makes one move, and lets the task go on. -/
def move (n : Nat) (c : Config S World Call Out) : Move Call → Option (Config S World Call Out)
  | .call call =>
    if c.running.isNone ∧ allowed c (.spawn call) then
      advance allowed player n (c.afterSpawn sys call)
    else none
  | .resume i =>
    match c.running, c.tasks[i]? with
    | none, some t =>
      match t.rest with
      | .pure _ => none
      | .act e k =>
        match player.answer c.world e with
        | none => none
        | some (r, w) =>
          if sys.yields e ∧ allowed c (.receive i e r) then
            advance allowed player n (c.afterAct i t e r k w)
          else none
    | _, _ => none

/-- Plays a script. -/
def play (n : Nat) (c : Config S World Call Out) :
    List (Move Call) → Option (Config S World Call Out)
  | [] => some c
  | m :: ms =>
    match move allowed player n c m with
    | none => none
    | some c' => play n c' ms

variable {allowed player} {n : Nat}

theorem advance_leads {c₀ c c' : Config S World Call Out} (hlead : Leads sys allowed c₀ c)
    (h : advance allowed player n c = some c') :
    Leads sys allowed c₀ c' := by
  induction n generalizing c with
  | zero => cases h
  | succ n ih =>
    rw [advance] at h
    split at h
    · cases h
      exact hlead
    · rename_i i hi
      split at h
      · cases h
      · rename_i t ht
        split at h
        · rename_i a hrest
          split_ifs at h with hl
          cases h
          exact .next hlead hl (.finish hi ht hrest)
        · rename_i e k hrest
          split_ifs at h with hy hl
          · cases h
            exact .next hlead hl (.send hi ht hrest hy)
          · split at h
            · cases h
            · rename_i r w hanswer
              split_ifs at h with hl
              exact ih (.next hlead hl (.act hi ht hrest (by simpa using hy)
                (player.sound hanswer))) h

theorem move_leads {c₀ c c' : Config S World Call Out} {m : Move Call}
    (hlead : Leads sys allowed c₀ c) (h : move allowed player n c m = some c') :
    Leads sys allowed c₀ c' := by
  cases m with
  | call call =>
    rw [move] at h
    split_ifs at h with hl
    exact advance_leads (.next hlead hl.2 (.spawn (by simpa using hl.1))) h
  | resume i =>
    rw [move] at h
    split at h
    · rename_i t hidle ht
      split at h
      · cases h
      · rename_i e k hrest
        split at h
        · cases h
        · rename_i r w hanswer
          split_ifs at h with hl
          exact advance_leads (.next hlead hl.2 (.receive hidle ht hrest hl.1
            (player.sound hanswer))) h
    · cases h

variable {ms : List (Move Call)}

/-- What a script plays goes on from where it starts. -/
theorem play_leads {c₀ c c' : Config S World Call Out} (hlead : Leads sys allowed c₀ c)
    (h : play allowed player n c ms = some c') :
    Leads sys allowed c₀ c' := by
  induction ms generalizing c with
  | nil =>
    cases h
    exact hlead
  | cons m ms ih =>
    rw [play] at h
    split at h
    · cases h
    · rename_i c'' hmove
      exact ih (move_leads hlead hmove) h

/-- What a script plays is a run. -/
theorem play_run {c c' : Config S World Call Out} (hrun : Run sys allowed world c)
    (h : play allowed player n c ms = some c') :
    Run sys allowed world c' :=
  (play_leads .refl h).run (fun _ _ => id) hrun

end Script

end Interleaving
