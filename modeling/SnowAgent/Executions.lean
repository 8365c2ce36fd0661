import SnowAgent.Program

/-! # Executions of programs in a world

A world answers the actions of a program one after another.  `Executes` relates a
program and the world it starts in to what the program does, the value it ends with
and the world it leaves.  `executes_bind` and `executes_run_bind` take an execution
apart where the program was put together.

A **sequence of calls** executes one program after another, each in the world the last
one left.  What the calls of a sequence preserve is proved once per call
(`Calls.invariant`).
-/
namespace Program

variable {S : Interface} {World A B E Call Out : Type}

/-- What a program has done: its actions with their answers. -/
abbrev Trace (S : Interface) := List (Σ e : S.Act, S.Ans e)

variable (answers : World → (e : S.Act) → S.Ans e → World → Prop)

/-- The executions of a program. -/
inductive Executes : Program S A → World → Trace S → A → World → Prop where
  | pure (a : A) (w : World) : Executes (pure a) w [] a w
  | act {e : S.Act} {k : S.Ans e → Program S A} {w w' w'' : World} {r : S.Ans e} {past : Trace S}
      {a : A} :
      answers w e r w' → Executes (k r) w' past a w'' → Executes (act e k) w (⟨e, r⟩ :: past) a w''

variable {answers} {past : Trace S}

theorem executes_pure {a b : A} {w w' : World} :
    Executes answers (Pure.pure a : Program S A) w past b w' ↔ past = [] ∧ b = a ∧ w' = w := by
  constructor
  · intro h
    cases h
    exact ⟨rfl, rfl, rfl⟩
  · rintro ⟨rfl, rfl, rfl⟩
    exact .pure b w'

/-- A program executes as its first part does and then its second. -/
theorem executes_bind {p : Program S A} {f : A → Program S B} {w w'' : World} {b : B} :
    Executes answers (p >>= f) w past b w'' ↔
      ∃ a w' past₁ past₂, past = past₁ ++ past₂ ∧ Executes answers p w past₁ a w' ∧
        Executes answers (f a) w' past₂ b w'' := by
  constructor
  · intro h
    induction p generalizing w past with
    | pure a => exact ⟨a, w, [], past, rfl, .pure a w, h⟩
    | act e k ih =>
      cases h with
      | act ha hk =>
        obtain ⟨a, w', past₁, past₂, rfl, hfirst, hrest⟩ := ih _ hk
        exact ⟨a, w', _ :: past₁, past₂, rfl, .act ha hfirst, hrest⟩
  · rintro ⟨a, w', past₁, past₂, rfl, hfirst, hrest⟩
    induction hfirst with
    | pure a w => exact hrest
    | act ha hk ih => exact .act ha (ih hrest)

variable {f : A → ExceptT E (Program S) B} {x : ExceptT E (Program S) A}

/-- A fallible program executes as its first part does, and if that has a value then as the
second part does. -/
theorem executes_run_bind {w w'' : World} {r : Except E B} :
    Executes answers (x >>= f).run w past r w'' ↔
      (∃ err, r = .error err ∧ Executes answers x.run w past (.error err) w'') ∨
        ∃ a w' past₁ past₂, past = past₁ ++ past₂ ∧ Executes answers x.run w past₁ (.ok a) w' ∧
          Executes answers (f a).run w' past₂ r w'' := by
  have hbind : (x >>= f).run = x.run >>= ExceptT.bindCont f := rfl
  rw [hbind, executes_bind]
  constructor
  · rintro ⟨a | a, w', past₁, past₂, rfl, hfirst, hrest⟩
    · obtain ⟨rfl, rfl, rfl⟩ := executes_pure.mp hrest
      exact .inl ⟨a, rfl, by simpa using hfirst⟩
    · exact .inr ⟨a, w', past₁, past₂, rfl, hfirst, hrest⟩
  · rintro (⟨err, rfl, hfirst⟩ | ⟨a, w', past₁, past₂, rfl, hfirst, hrest⟩)
    · exact ⟨.error err, w'', past, [], by simp, hfirst, .pure _ _⟩
    · exact ⟨.ok a, w', past₁, past₂, rfl, hfirst, hrest⟩

variable {a : A}

theorem executes_run_pure {w w' : World} {r : Except E A} :
    Executes answers (Pure.pure a : ExceptT E (Program S) A).run w past r w' ↔
      past = [] ∧ r = .ok a ∧ w' = w := executes_pure

variable {P : S.Act → Prop} {R : A → Prop}

/-- What a program uses, its executions do, and so does what it may end with. -/
theorem Executes.uses {p : Program S A} {w w' : World} (h : Executes answers p w past a w')
    (hp : Uses P R p) :
    (∀ ev ∈ past, P ev.1) ∧ R a := by
  induction h with
  | pure a w => exact ⟨fun ev hev => absurd hev List.not_mem_nil, hp⟩
  | act ha hk ih =>
    obtain ⟨hpast, hend⟩ := ih (hp.2 _)
    refine ⟨fun ev hev => ?_, hend⟩
    rcases List.mem_cons.mp hev with rfl | hev
    · exact hp.1
    · exact hpast ev hev

/-- What the actions of a program preserve of the world, its executions preserve. -/
theorem Executes.keeps {I : World → Prop} {p : Program S A} {w w' : World}
    (h : Executes answers p w past a w')
    (hp : Uses P R p) (hkeep : ∀ {w e r w'}, P e → I w → answers w e r w' → I w')
    (hw : I w) : I w' := by
  induction h with
  | pure a w => exact hw
  | act ha hk ih => exact ih (hp.2 _) (hkeep hp.1 hw ha)

/-! ## Programs that may stop anywhere -/

variable (answers) in
/-- The executions of a program up to some action, after which it may have stopped. -/
inductive Reaches : Program S A → World → World → Prop where
  | here (p : Program S A) (w : World) : Reaches p w w
  | act {e : S.Act} {k : S.Ans e → Program S A} {w w' w'' : World} {r : S.Ans e} :
      answers w e r w' → Reaches (k r) w' w'' → Reaches (act e k) w w''

variable (answers) in
/-- Every world that a program reaches is so, and so is what it ends with. -/
def Always (I : World → Prop) (Q : A → World → Prop) : Program S A → World → Prop
  | pure a, w => I w ∧ Q a w
  | act e k, w => I w ∧ ∀ r w', answers w e r w' → Always I Q (k r) w'

section Always

variable {I : World → Prop} {Q : A → World → Prop} {Q' : B → World → Prop}

/-- What holds always holds wherever the program stops, and of every execution to its end. -/
theorem always_iff {p : Program S A} {w : World} : Always answers I Q p w ↔
    (∀ w', Reaches answers p w w' → I w') ∧
      ∀ past a w', Executes answers p w past a w' → Q a w' := by
  induction p generalizing w with
  | pure a =>
    constructor
    · rintro ⟨hI, hQ⟩
      refine ⟨fun w' h => ?_, fun past b w' h => ?_⟩
      · cases h
        exact hI
      · cases h
        exact hQ
    · rintro ⟨hI, hQ⟩
      exact ⟨hI w (.here _ _), hQ [] a w (.pure a w)⟩
  | act e k ih =>
    constructor
    · rintro ⟨hI, hall⟩
      refine ⟨fun w' h => ?_, fun past b w' h => ?_⟩
      · cases h with
        | here => exact hI
        | act ha hrest => exact (ih _ |>.mp (hall _ _ ha)).1 _ hrest
      · cases h with
        | act ha hrest => exact (ih _ |>.mp (hall _ _ ha)).2 _ _ _ hrest
    · rintro ⟨hI, hQ⟩
      refine ⟨hI w (.here _ _), fun r w' ha => (ih r).mpr ⟨fun w'' h => ?_, fun past b w'' h => ?_⟩⟩
      · exact hI w'' (.act ha h)
      · exact hQ _ b w'' (.act ha h)

theorem Always.now {p : Program S A} {w : World} (h : Always answers I Q p w) : I w := by
  cases p with
  | pure a => exact h.1
  | act e k => exact h.1

theorem always_bind {p : Program S A} {f : A → Program S B} {w : World} :
    Always answers I Q' (p >>= f) w ↔
      Always answers I (fun a w' => Always answers I Q' (f a) w') p w := by
  induction p generalizing w with
  | pure a =>
    show Always answers I Q' (f a) w ↔ I w ∧ Always answers I Q' (f a) w
    exact ⟨fun h => ⟨h.now, h⟩, fun h => h.2⟩
  | act e k ih =>
    show (I w ∧ ∀ r w', answers w e r w' → Always answers I Q' (k r >>= f) w') ↔ _
    refine and_congr_right fun _ => forall_congr' fun r => forall_congr' fun w' => ?_
    exact imp_congr_right fun _ => ih r

theorem Always.mono {I' : World → Prop} {R : A → World → Prop} {p : Program S A} {w : World}
    (h : Always answers I Q p w) (hI : ∀ w, I w → I' w) (hQ : ∀ a w, I w → Q a w → R a w) :
    Always answers I' R p w := by
  induction p generalizing w with
  | pure a => exact ⟨hI w h.1, hQ a w h.1 h.2⟩
  | act e k ih => exact ⟨hI w h.1, fun r w' ha => ih r (h.2 r w' ha)⟩

/-- A fallible program always is so as its first part is, and the second after it. -/
theorem always_run_bind {Q : Except E B → World → Prop} {w : World} :
    Always answers I Q (x >>= f).run w ↔ Always answers I (fun r w' => match r with
        | .ok a => Always answers I Q (f a).run w'
        | .error err => I w' ∧ Q (.error err) w') x.run w := by
  have hbind : (x >>= f).run = x.run >>= ExceptT.bindCont f := rfl
  rw [hbind, always_bind]
  have hcont : (fun r w' => Always answers I Q (ExceptT.bindCont f r) w') =
      fun (r : Except E A) w' => match r with
        | .ok a => Always answers I Q (f a).run w'
        | .error err => I w' ∧ Q (.error err) w' := by
    funext r w'
    cases r <;> rfl
  rw [hcont]

/-- A loop keeps what its body keeps. -/
theorem always_run_forM {f : A → ExceptT E (Program S) PUnit} {J : World → Prop}
    (hJ : ∀ w, J w → I w)
    (hf : ∀ a w, J w → Always answers I (fun _ w' => J w') (f a).run w) (as : List A) {w : World}
    (hw : J w) : Always answers I (fun _ w' => J w') (as.forM f).run w := by
  induction as generalizing w with
  | nil => exact ⟨hJ w hw, hw⟩
  | cons a as ih =>
    have hcons : (a :: as).forM f = f a >>= fun _ => as.forM f := rfl
    rw [hcons, always_run_bind]
    refine (hf a w hw).mono (fun _ h => h) fun r w' _ hw' => ?_
    cases r with
    | error err => exact ⟨hJ w' hw', hw'⟩
    | ok _ => exact ih hw'

end Always

/-! ## What a program may come to -/

/-- A program may end with a value and leave a world. -/
def MayEnd (answers : World → (e : S.Act) → S.Ans e → World → Prop) (p : Program S A) (w : World)
    (a : A) (w' : World) : Prop := ∃ past, Executes answers p w past a w'

theorem mayEnd_pure (a : A) (w : World) : MayEnd answers (Pure.pure a : Program S A) w a w :=
  ⟨[], .pure a w⟩

theorem MayEnd.act {e : S.Act} {k : S.Ans e → Program S A} {w w' w'' : World} {r : S.Ans e}
    (ha : answers w e r w') (h : MayEnd answers (k r) w' a w'') :
    MayEnd answers (Program.act e k) w a w'' := by
  obtain ⟨past, hexec⟩ := h
  exact ⟨_, .act ha hexec⟩

theorem MayEnd.run_bind {w w' w'' : World} {r : Except E B}
    (hx : MayEnd answers x.run w (.ok a) w')
    (hf : MayEnd answers (f a).run w' r w'') : MayEnd answers (x >>= f).run w r w'' := by
  obtain ⟨past₁, hfirst⟩ := hx
  obtain ⟨past₂, hrest⟩ := hf
  exact ⟨past₁ ++ past₂, executes_run_bind.mpr (.inr ⟨a, w', past₁, past₂, rfl, hfirst, hrest⟩)⟩

/-! ## One call after another -/

variable (answers) (program : Call → Program S Out) (enter : World → Call → World)

/-- A call with what it has done and its outcome. -/
structure Called (S : Interface) (Call Out : Type) where
  call : Call
  past : Trace S
  out : Out

variable (allowed : List (Called S Call Out) → World → Call → Prop)

/-- Sequences of calls, each allowed after those before it and in the world it is made in.  The
world may take note of a call when it comes in. -/
inductive Calls (world : World) : List (Called S Call Out) → World → Prop where
  | start : Calls world [] world
  | next {calls : List (Called S Call Out)} {w w' : World} {c : Called S Call Out} :
      Calls world calls w → allowed calls w c.call →
      Executes answers (program c.call) (enter w c.call) c.past c.out w' →
      Calls world (calls ++ [c]) w'

variable {answers program enter allowed} {calls : List (Called S Call Out)}

/-- What every call preserves holds after every sequence of calls. -/
theorem Calls.invariant {world : World} {I : List (Called S Call Out) → World → Prop}
    (hinit : I [] world)
    (hstep : ∀ calls w c w', Calls answers program enter allowed world calls w → I calls w →
      allowed calls w c.call → Executes answers (program c.call) (enter w c.call) c.past c.out w' →
      I (calls ++ [c]) w') {w : World}
    (h : Calls answers program enter allowed world calls w) : I calls w := by
  induction h with
  | start => exact hinit
  | next hcalls hallowed hexec ih => exact hstep _ _ _ _ hcalls ih hallowed hexec

/-- The last call of a sequence, and what was before it. -/
theorem Calls.last {world w' : World} {c : Called S Call Out}
    (h : Calls answers program enter allowed world (calls ++ [c]) w') :
    ∃ w, Calls answers program enter allowed world calls w ∧ allowed calls w c.call ∧
      Executes answers (program c.call) (enter w c.call) c.past c.out w' := by
  obtain ⟨all, hall⟩ : ∃ all, calls ++ [c] = all := ⟨_, rfl⟩
  rw [hall] at h
  cases h with
  | start => simp at hall
  | next hcalls hallowed hexec =>
    obtain ⟨rfl, hlast⟩ := List.append_inj' hall rfl
    obtain rfl : c = _ := by simpa using hlast
    exact ⟨_, hcalls, hallowed, hexec⟩

/-! ## Executions that are computed -/

section Computed

variable (player : World → (e : S.Act) → S.Ans e × World)

/-- Executes a program with answers that are given by a function. -/
def execute : Program S A → World → Trace S × A × World
  | pure a, w => ([], a, w)
  | act e k, w =>
    let answer := player w e
    let rest := execute (k answer.1) answer.2
    (⟨e, answer.1⟩ :: rest.1, rest.2)

variable {player}

theorem execute_executes (hsound : ∀ w e, answers w e (player w e).1 (player w e).2)
    (p : Program S A) (w : World) :
    Executes answers p w (execute player p w).1 (execute player p w).2.1
      (execute player p w).2.2 := by
  induction p generalizing w with
  | pure a => exact .pure a w
  | act e k ih => exact .act (hsound w e) (ih _ _)

variable (player program enter)

/-- Makes some calls, one after another. -/
def callAll : List Call → World → List (Called S Call Out) × World
  | [], w => ([], w)
  | call :: rest, w =>
    let done := execute player (program call) (enter w call)
    let more := callAll rest done.2.2
    (⟨call, done.1, done.2.1⟩ :: more.1, more.2)

variable {player program enter}

/-- Calls that are made are a sequence of calls. -/
theorem callAll_calls (hsound : ∀ w e, answers w e (player w e).1 (player w e).2)
    {world w : World} {done : List (Called S Call Out)} (todo : List Call)
    (h : Calls answers program enter (fun _ _ _ => True) world done w) :
    Calls answers program enter (fun _ _ _ => True) world
      (done ++ (callAll program enter player todo w).1)
      (callAll program enter player todo w).2 := by
  induction todo generalizing done w with
  | nil => simpa [callAll] using h
  | cons call todo ih =>
    have hnext := ih (.next (c := ⟨call, _, _⟩) h trivial
      (execute_executes hsound (program call) (enter w call)))
    simpa [callAll] using hnext

end Computed

end Program
