import Mathlib.Logic.Basic

/-! # Programs over an interface

A program is a tree: it returns a value, or performs one action of its interface
and goes on with the answer.  Nothing is said about where answers come from; a
world, a script or an adversary can supply them.

An **observer** follows one path of a program and keeps what the path has shown
so far.  `Safe` says of a program that, from an observer's state, every action on
every path is one the observer permits there, and that every path ends as
promised.  `safe_bind` composes such statements, and `Uses.safe` takes care of
the parts of a program that only perform actions the observer does not mind.
-/

/-- The actions a program may perform, and what each is answered with. -/
structure Interface where
  Act : Type
  Ans : Act → Type

/-- A program that performs actions of an interface. -/
inductive Program (S : Interface) (A : Type) : Type where
  | pure (a : A) : Program S A
  | act (e : S.Act) (k : S.Ans e → Program S A) : Program S A

namespace Program

variable {S : Interface} {A B C : Type}

/-- Goes on with the value of a program. -/
def bind : Program S A → (A → Program S B) → Program S B
  | pure a, f => f a
  | act e k, f => act e fun r => bind (k r) f

instance : Monad (Program S) where
  pure := pure
  bind := bind

/-- One action. -/
def perform (e : S.Act) : Program S (S.Ans e) := act e pure

/-- Whether a program has returned. -/
def Returned : Program S A → Prop
  | pure _ => True
  | act _ _ => False

instance : (p : Program S A) → Decidable p.Returned
  | pure _ => .isTrue trivial
  | act _ _ => .isFalse id

/-- The value of a program that has returned. -/
def value : Program S A → Option A
  | pure a => some a
  | act _ _ => none

variable {p : Program S A} {a : A}

theorem eq_pure_of_value (h : p.value = some a) : p = pure a := by
  cases p with
  | pure b =>
    cases h
    rfl
  | act e k => cases h

/-! ## Observers -/

/-- What is kept along a path: a state, moved on by each action and its answer. -/
structure Observer (S : Interface) where
  State : Type
  next : State → (e : S.Act) → S.Ans e → State

variable (O : Observer S) (ok : O.State → S.Act → Prop)

/-- From the state `s`, every action on every path is permitted, and every path ends in a
state and a value that satisfy `Q`. -/
def Safe : Program S A → O.State → (O.State → A → Prop) → Prop
  | pure a, s, Q => Q s a
  | act e k, s, Q => ok s e ∧ ∀ r, Safe (k r) (O.next s e r) Q

variable {O ok} {s : O.State} {Q : O.State → A → Prop}

theorem safe_pure (h : Q s a) : Safe O ok (Pure.pure a : Program S A) s Q := h

variable {e : S.Act}

theorem safe_act {k : S.Ans e → Program S A} (he : ok s e)
    (hk : ∀ r, Safe O ok (k r) (O.next s e r) Q) :
    Safe O ok (act e k) s Q := ⟨he, hk⟩

theorem Safe.mono {Q Q' : O.State → A → Prop} (h : Safe O ok p s Q)
    (hQ : ∀ s a, Q s a → Q' s a) : Safe O ok p s Q' := by
  induction p generalizing s with
  | pure a => exact hQ s a h
  | act e k ih => exact ⟨h.1, fun r => ih r (h.2 r)⟩

/-- A safe program stays safe when more is permitted. -/
theorem Safe.weaken {ok' : O.State → S.Act → Prop} (h : Safe O ok p s Q)
    (hok : ∀ s e, ok s e → ok' s e) :
    Safe O ok' p s Q := by
  induction p generalizing s with
  | pure a => exact h
  | act e k ih => exact ⟨hok s e h.1, fun r => ih r (h.2 r)⟩

/-- What holds at the ends of a safe program one way and another holds of them at once. -/
theorem Safe.and {Q Q' : O.State → A → Prop} (h : Safe O ok p s Q)
    (h' : Safe O ok p s Q') : Safe O ok p s fun s a => Q s a ∧ Q' s a := by
  induction p generalizing s with
  | pure a => exact ⟨h, h'⟩
  | act e k ih => exact ⟨h.1, fun r => ih r (h.2 r) (h'.2 r)⟩

/-- A program is safe when its first part is and the rest is safe after it. -/
theorem safe_bind {f : A → Program S B} {Q : O.State → B → Prop}
    (h : Safe O ok p s fun s a => Safe O ok (f a) s Q) :
    Safe O ok (p >>= f) s Q := by
  induction p generalizing s with
  | pure a => exact h
  | act e k ih => exact ⟨h.1, fun r => ih r (h.2 r)⟩

theorem safe_perform {f : S.Ans e → Program S B} {Q : O.State → B → Prop} (he : ok s e)
    (hf : ∀ r, Safe O ok (f r) (O.next s e r) Q) :
    Safe O ok (perform e >>= f) s Q := ⟨he, hf⟩

/-! ## The actions of a program -/

/-- Every action on every path satisfies `P`, and every path ends in a value that satisfies
`R`. -/
def Uses (P : S.Act → Prop) (R : A → Prop) : Program S A → Prop
  | pure a => R a
  | act e k => P e ∧ ∀ r, Uses P R (k r)

variable {P P' : S.Act → Prop} {R R' : A → Prop}

theorem uses_pure (h : R a) : Uses P R (Pure.pure a : Program S A) := h

theorem uses_performed (h : P e) : Uses P (fun _ => True) (perform e : Program S (S.Ans e)) :=
  ⟨h, fun _ => trivial⟩

theorem uses_perform {f : S.Ans e → Program S B} {R : B → Prop} (he : P e)
    (hf : ∀ r, Uses P R (f r)) : Uses P R (perform e >>= f) := ⟨he, hf⟩

/-- A program uses what its two parts use. -/
theorem uses_bind {R' : B → Prop} {f : A → Program S B} (hp : Uses P R p)
    (hf : ∀ a, R a → Uses P R' (f a)) : Uses P R' (p >>= f) := by
  induction p with
  | pure a => exact hf a hp
  | act e k ih => exact ⟨hp.1, fun r => ih r (hp.2 r)⟩

theorem Uses.mono (h : Uses P R p) (hP : ∀ e, P e → P' e)
    (hR : ∀ a, R a → R' a) : Uses P' R' p := by
  induction p with
  | pure a => exact hR a h
  | act e k ih => exact ⟨hP e h.1, fun r => ih r (h.2 r)⟩

theorem Uses.forget (h : Uses P R p) : Uses P (fun _ => True) p :=
  h.mono (fun _ => id) fun _ _ => trivial

/-- A part that only performs actions which keep an invariant of the observer, and are
permitted under it, is safe and keeps the invariant. -/
theorem Uses.safe {I : O.State → Prop} (hp : Uses P R p) (hI : I s)
    (hok : ∀ s e, I s → P e → ok s e)
    (hnext : ∀ s e r, I s → P e → I (O.next s e r)) :
    Safe O ok p s fun s a => I s ∧ R a := by
  induction p generalizing s with
  | pure a => exact ⟨hI, hp⟩
  | act e k ih => exact ⟨hok s e hI hp.1, fun r => ih r (hp.2 r) (hnext s e r hI hp.1)⟩

/-! ## Under assumptions on the answers -/

section Given

variable (G : (e : S.Act) → S.Ans e → Prop)

/-- On every path whose answers are as assumed, every action satisfies `P`, and the path ends
in a value that satisfies `R`. -/
def Given (P : S.Act → Prop) (R : A → Prop) : Program S A → Prop
  | pure a => R a
  | act e k => P e ∧ ∀ r, G e r → Given P R (k r)

variable {G}

theorem given_pure (h : R a) : Given G P R (Pure.pure a : Program S A) := h

theorem given_perform {f : S.Ans e → Program S B} {R : B → Prop} (he : P e)
    (hf : ∀ r, G e r → Given G P R (f r)) : Given G P R (perform e >>= f) := ⟨he, hf⟩

theorem given_bind {R' : B → Prop} {f : A → Program S B} (hp : Given G P R p)
    (hf : ∀ a, R a → Given G P R' (f a)) : Given G P R' (p >>= f) := by
  induction p with
  | pure a => exact hf a hp
  | act e k ih => exact ⟨hp.1, fun r hr => ih r (hp.2 r hr)⟩

/-- What a program does whatever the answers, it does under assumptions on them. -/
theorem Uses.given (h : Uses P R p) : Given G P R p := by
  induction p with
  | pure a => exact h
  | act e k ih => exact ⟨h.1, fun r _ => ih r (h.2 r)⟩

end Given

/-! ## Answers given in advance

Every path of a program is the one on which the `n`-th action is answered with
`answers n`, for some choice of `answers`. -/

section Eval

variable (answers : Nat → (e : S.Act) → S.Ans e)

/-- The value of a program and the number of the next action, from action `n` on. -/
def eval : Nat → Program S A → A × Nat
  | n, pure a => (a, n)
  | n, act e k => eval (n + 1) (k (answers n e))

variable {answers}

@[simp] theorem eval_pure (n : Nat) (a : A) :
    eval answers n (Pure.pure a : Program S A) = (a, n) := rfl

theorem eval_bind (n : Nat) (p : Program S A) (f : A → Program S B) :
    eval answers n (p >>= f) = eval answers (eval answers n p).2 (f (eval answers n p).1) := by
  induction p generalizing n with
  | pure a => rfl
  | act e k ih => exact ih _ (n + 1)

variable {E : Type} {f : A → ExceptT E (Program S) B} {x : ExceptT E (Program S) A}

/-- What follows a fallible program that has a value. -/
theorem eval_run_bind_ok {n m : Nat} (h : eval answers n x.run = (.ok a, m)) :
    eval answers n (x >>= f).run = eval answers m (f a).run := by
  have hbind : (x >>= f).run = x.run >>= ExceptT.bindCont f := rfl
  rw [hbind, eval_bind, h]
  rfl

/-- A program that cannot fail, among those that can. -/
theorem eval_run_lift (p : Program S A) (n : Nat) :
    eval answers n (liftM p : ExceptT E (Program S) A).run =
      (.ok (eval answers n p).1, (eval answers n p).2) := by
  have hlift : (liftM p : ExceptT E (Program S) A).run =
      p >>= fun a => Pure.pure (Except.ok a) := rfl
  rw [hlift, eval_bind]
  rfl

/-- A fallible program has a value when its two parts have. -/
theorem eval_run_bind {n : Nat} {b : B} (h : (eval answers n (x >>= f).run).1 = .ok b) :
    ∃ a, (eval answers n x.run).1 = .ok a ∧
      (eval answers (eval answers n x.run).2 (f a).run).1 = .ok b := by
  have hbind : (x >>= f).run = x.run >>= ExceptT.bindCont f := rfl
  rw [hbind, eval_bind] at h
  cases hx : (eval answers n x.run).1 with
  | error err =>
    rw [hx] at h
    cases h
  | ok a =>
    rw [hx] at h
    exact ⟨a, rfl, h⟩

end Eval

/-! ## Fallible programs -/

section Fallible

variable {E : Type} {f : A → ExceptT E (Program S) B} {x : ExceptT E (Program S) A}

/-- A fallible program is safe when its first part is, the rest is safe after every value, and
every failure ends as promised. -/
theorem safe_run_bind {Q : O.State → Except E B → Prop} (h : Safe O ok x.run s fun s r =>
      match r with
      | .ok a => Safe O ok (f a).run s Q
      | .error err => Q s (.error err)) :
    Safe O ok (x >>= f).run s Q := by
  have hbind : (x >>= f).run = x.run >>= ExceptT.bindCont f := rfl
  rw [hbind]
  refine safe_bind (h.mono fun s r hr => ?_)
  cases r with
  | ok a => exact hr
  | error err => exact hr

/-- A fallible program uses what its parts use, and ends with what its second part may end with or
with a failure of the first. -/
theorem uses_run_bind_ends {R : Except E A → Prop} {R' : Except E B → Prop} (hx : Uses P R x.run)
    (hf : ∀ a, R (.ok a) → Uses P R' (f a).run) (hfail : ∀ err, R (.error err) → R' (.error err)) :
    Uses P R' (x >>= f).run := by
  have hbind : (x >>= f).run = x.run >>= ExceptT.bindCont f := rfl
  rw [hbind]
  refine uses_bind hx fun r hr => ?_
  cases r with
  | ok a => exact hf a hr
  | error err => exact hfail err hr

/-- A fallible program uses what its parts use. -/
theorem uses_run_bind (hx : Uses P (fun _ => True) x.run)
    (hf : ∀ a, Uses P (fun _ => True) (f a).run) :
    Uses P (fun _ => True) (x >>= f).run :=
  uses_run_bind_ends hx (fun a _ => hf a) fun _ _ => trivial

/-- A loop uses what its body uses. -/
theorem uses_run_foldlM {f : B → A → ExceptT E (Program S) B}
    (hf : ∀ b a, Uses P (fun _ => True) (f b a).run) (as : List A) (b : B) :
    Uses P (fun _ => True) (as.foldlM f b).run := by
  induction as generalizing b with
  | nil => trivial
  | cons a as ih =>
    rw [List.foldlM_cons]
    exact uses_run_bind (hf b a) ih

end Fallible

/-! ## One answer for each action -/

section Answered

variable (answer : (e : S.Act) → S.Ans e)

/-- The actions a program performs and its value, when every action has its one answer. -/
def answered : Program S A → List S.Act × A
  | pure a => ([], a)
  | act e k => (e :: (answered (k (answer e))).1, (answered (k (answer e))).2)

variable {answer}

@[simp] theorem answered_pure (a : A) : answered answer (Pure.pure a : Program S A) = ([], a) := rfl

@[simp] theorem answered_perform (e : S.Act) :
    answered answer (perform e : Program S (S.Ans e)) = ([e], answer e) := rfl

theorem answered_bind (p : Program S A) (f : A → Program S B) :
    answered answer (p >>= f) =
      ((answered answer p).1 ++ (answered answer (f (answered answer p).2)).1,
        (answered answer (f (answered answer p).2)).2) := by
  induction p with
  | pure a => rfl
  | act e k ih =>
    show (e :: (answered answer (k (answer e) >>= f)).1, (answered answer (k (answer e) >>= f)).2) =
      _
    rw [ih]
    rfl

variable {E : Type} {f : A → ExceptT E (Program S) B} {x : ExceptT E (Program S) A}

/-- A fallible program goes on after a value. -/
theorem answered_run_bind_ok (h : (answered answer x.run).2 = .ok a) :
    answered answer (x >>= f).run = ((answered answer x.run).1 ++ (answered answer (f a).run).1,
        (answered answer (f a).run).2) := by
  have hbind : (x >>= f).run = x.run >>= ExceptT.bindCont f := rfl
  rw [hbind, answered_bind, h]
  rfl

/-- A fallible program ends with the failure of its first part. -/
theorem answered_run_bind_error {err : E} (h : (answered answer x.run).2 = .error err) :
    answered answer (x >>= f).run = ((answered answer x.run).1, .error err) := by
  have hbind : (x >>= f).run = x.run >>= ExceptT.bindCont f := rfl
  rw [hbind, answered_bind, h]
  exact Prod.ext (List.append_nil _) rfl

end Answered

/-! ## Programs of a smaller interface -/

variable {T : Interface}

/-- A program of a smaller interface, its actions performed as actions of a larger one. -/
def embed (act' : S.Act → T.Act) (ans : ∀ e, T.Ans (act' e) → S.Ans e) :
    Program S A → Program T A
  | pure a => pure a
  | act e k => act (act' e) fun r => embed act' ans (k (ans e r))

theorem uses_embed {act' : S.Act → T.Act} {ans : ∀ e, T.Ans (act' e) → S.Ans e}
    {P : T.Act → Prop} (h : ∀ e, P (act' e)) (p : Program S A) :
    Uses P (fun _ => True) (p.embed act' ans) := by
  induction p with
  | pure a => trivial
  | act e k ih => exact ⟨h e, fun r => ih _⟩

end Program
