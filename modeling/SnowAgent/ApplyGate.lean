import SnowAgent.StoryApply

/-! # The gates of an apply call

The apply handlers answer as soon as a check fails.  A **gate** is a part of a handler
that comes to a value or to a refusal, which is then all that is left of the call;
`Gate.enter` goes on with the one or with the other.  What a gate uses is found part by
part, as it is for the parts of a handler, and apart from what its refusals use.
-/
namespace SnowAgent

open Json Program

/-- A part of a handler that may end the call with a refusal. -/
abbrev Gate (A : Type) := ExceptT (Handler JsonRpcResponse) (Program DaemonIO) A

variable {p : Handler JsonRpcResponse} {RQ : Handler JsonRpcResponse → Prop}

namespace Gate

variable {A B : Type}

/-- Ends the call. -/
def answer (refusal : Handler JsonRpcResponse) : Gate A := ExceptT.mk (return .error refusal)

/-- A part that does not end the call. -/
def doing (p : Handler A) : Gate A := ExceptT.mk do return .ok (← p)

/-- A part whose failure is answered as an internal error. -/
def trying (p : Handler (Except String A)) : Gate A := ExceptT.mk do
  match ← p with
  | .error text => return .error (Pure.pure (internalError text))
  | .ok a => return .ok a

/-- Ends the call unless a check holds. -/
def require (holds : Bool) (refusal : Handler JsonRpcResponse) : Gate Unit :=
  if holds then pure () else answer refusal

/-- The value of an option, or a refusal. -/
def require? (a : Option A) (refusal : Handler JsonRpcResponse) : Gate A :=
  match a with
  | some a => pure a
  | none => answer refusal

/-- Passes a gate and goes on, or ends the call. -/
def enter (gate : Gate A) (next : A → Handler JsonRpcResponse) : Handler JsonRpcResponse := do
  match ← gate.run with
  | .error refusal => refusal
  | .ok a => next a

/-! ## What a gate uses -/

variable {refusal : Handler JsonRpcResponse} {gate : Gate A} {next : A → Handler JsonRpcResponse}

variable {f : A → Gate B} {a : Option A} {x : Gate A}

section Uses

/-- A gate performs only such actions, its refusals satisfy `R`, and the value it comes to
satisfies `R'`. -/
def Uses (P : DaemonAct → Prop) (R : Handler JsonRpcResponse → Prop) (R' : A → Prop)
    (gate : Gate A) : Prop :=
  Program.Uses (S := DaemonIO) P (fun | .error refusal => R refusal | .ok a => R' a) gate.run

variable {P : DaemonAct → Prop} {R : Handler JsonRpcResponse → Prop} {R' : A → Prop}
  {R'' : B → Prop}

theorem uses_pure {a : A} (h : R' a) : (pure a : Gate A).Uses P R R' := h

theorem uses_answer (h : R p) : (answer p : Gate A).Uses P R R' := h

theorem uses_doing {p : Handler A} (h : p.Uses P R') : (doing p).Uses P R R' :=
  Program.uses_bind h fun _ ha => ha

theorem uses_trying {p : Handler (Except String A)} (h : p.Uses P fun _ => True)
    (hinternal : ∀ text, R (Pure.pure (internalError text))) :
    (trying p).Uses P R fun _ => True := by
  refine Program.uses_bind h fun answered _ => ?_
  cases answered with
  | error text => exact hinternal text
  | ok a => trivial

theorem uses_require {holds : Bool} (h : R refusal) :
    (require holds refusal).Uses P R fun _ => holds = true := by
  unfold require
  split
  · exact uses_pure ‹_›
  · exact uses_answer h

theorem uses_require? (h : R refusal) : (require? a refusal).Uses P R fun x => a = some x := by
  cases a with
  | none => exact uses_answer h
  | some x => exact uses_pure rfl

/-- A gate uses what its two parts use. -/
theorem uses_bind (hx : x.Uses P R R')
    (hf : ∀ a, R' a → (f a).Uses P R R'') : (x >>= f).Uses P R R'' := by
  refine Program.uses_bind hx fun passed h => ?_
  cases passed with
  | error refusal => exact Program.uses_pure h
  | ok a => exact hf a h

/-- What follows a gate uses what the gate and the rest use. -/
theorem uses_enter {R₁ : JsonRpcResponse → Prop} (hgate : gate.Uses P (fun p => p.Uses P R₁) R')
    (hnext : ∀ a, R' a → (next a).Uses P R₁) : (gate.enter next).Uses P R₁ := by
  refine Program.uses_bind hgate fun passed h => ?_
  cases passed with
  | error refusal => exact h
  | ok a => exact hnext a h

theorem Uses.mono {P' : DaemonAct → Prop} {R₁ : Handler JsonRpcResponse → Prop} {R₂ : A → Prop}
    (h : gate.Uses P R R') (hP : ∀ e, P e → P' e) (hR : ∀ p, R p → R₁ p)
    (hR' : ∀ a, R' a → R₂ a) : gate.Uses P' R₁ R₂ := by
  refine Program.Uses.mono h hP fun passed hpassed => ?_
  cases passed with
  | error refusal => exact hR refusal hpassed
  | ok a => exact hR' a hpassed

end Uses

/-! ## Gates under assumptions on the answers -/

section Given

/-- Where the answers are as assumed, a gate performs only actions that satisfy `P`, its
refusals do too and end as `R` says, and the value it comes to satisfies `R'`. -/
def Given (G : (e : DaemonAct) → e.Ans → Prop) (P : DaemonAct → Prop) (R : JsonRpcResponse → Prop)
    (R' : A → Prop) (gate : Gate A) : Prop :=
  Program.Given (S := DaemonIO) G P
    (fun | .error refusal => Program.Given (S := DaemonIO) G P R refusal | .ok a => R' a) gate.run

variable {G : (e : DaemonAct) → e.Ans → Prop} {P : DaemonAct → Prop} {R : JsonRpcResponse → Prop}
  {R' : A → Prop} {R'' : B → Prop}

theorem given_pure {a : A} (h : R' a) : (pure a : Gate A).Given G P R R' := h

theorem given_answer (h : Program.Given (S := DaemonIO) G P R p) :
    (answer p : Gate A).Given G P R R' := h

theorem given_doing {p : Handler A} (h : Program.Given (S := DaemonIO) G P R' p) :
    (doing p).Given G P R R' :=
  Program.given_bind h fun _ ha => ha

theorem given_trying {p : Handler (Except String A)}
    (h : Program.Given (S := DaemonIO) G P (fun answered => ∃ a, answered = .ok a ∧ R' a) p) :
    (trying p).Given G P R R' := by
  refine Program.given_bind h ?_
  rintro _ ⟨a, rfl, ha⟩
  exact ha

theorem given_require {holds : Bool} (h : holds = true) :
    (require holds refusal).Given G P R fun _ => True := by
  rw [require, if_pos h]
  trivial

theorem given_require? {x : A} (h : a = some x) :
    (require? a refusal).Given G P R fun y => y = x := by
  rw [h]
  exact given_pure rfl

theorem given_bind (hx : x.Given G P R R')
    (hf : ∀ a, R' a → (f a).Given G P R R'') : (x >>= f).Given G P R R'' := by
  refine Program.given_bind hx fun passed h => ?_
  cases passed with
  | error refusal => exact h
  | ok a => exact hf a h

theorem given_enter (hgate : gate.Given G P R R')
    (hnext : ∀ a, R' a → Program.Given (S := DaemonIO) G P R (next a)) :
    Program.Given (S := DaemonIO) G P R (gate.enter next) := by
  refine Program.given_bind hgate fun passed h => ?_
  cases passed with
  | error refusal => exact h
  | ok a => exact hnext a h

end Given

/-! ## Safe gates -/

section Safe

variable (O : Observer DaemonIO) (ok : O.State → DaemonAct → Prop)

/-- From the state `s` a gate performs only permitted actions; its refusals are safe and end
as `Q` says, and it comes to a value as `R` says. -/
def Safe (gate : Gate A) (s : O.State) (Q : O.State → JsonRpcResponse → Prop)
    (R : O.State → A → Prop) : Prop :=
  Program.Safe O ok gate.run s fun s' passed =>
    match passed with
    | .error refusal => Program.Safe O ok refusal s' Q
    | .ok a => R s' a

variable {O ok} {s : O.State} {Q : O.State → JsonRpcResponse → Prop} {R : O.State → A → Prop}
  {R' : O.State → B → Prop}

theorem safe_pure {a : A} (h : R s a) : (pure a : Gate A).Safe O ok s Q R := h

theorem safe_answer (h : Program.Safe O ok p s Q) : (answer p : Gate A).Safe O ok s Q R := h

theorem safe_doing {p : Handler A} (h : Program.Safe O ok p s R) : (doing p).Safe O ok s Q R :=
  Program.safe_bind h

theorem safe_require {holds : Bool} {R : O.State → Unit → Prop}
    (hrefusal : Program.Safe O ok refusal s Q) (h : holds = true → R s ()) :
    (require holds refusal).Safe O ok s Q R := by
  unfold require
  split
  · exact safe_pure (h ‹_›)
  · exact safe_answer hrefusal

theorem safe_require? (hrefusal : Program.Safe O ok refusal s Q) (h : ∀ x, a = some x → R s x) :
    (require? a refusal).Safe O ok s Q R := by
  cases a with
  | none => exact safe_answer hrefusal
  | some x => exact safe_pure (h x rfl)

theorem safe_trying {p : Handler (Except String A)} (h : Program.Safe O ok p s fun s' answered =>
      match answered with
      | .error text => Q s' (internalError text)
      | .ok a => R s' a) : (trying p).Safe O ok s Q R := by
  refine Program.safe_bind (h.mono fun s' answered hanswered => ?_)
  cases answered with
  | error text => exact hanswered
  | ok a => exact hanswered

theorem safe_bind
    (h : x.Safe O ok s Q fun s' a => (f a).Safe O ok s' Q R') : (x >>= f).Safe O ok s Q R' := by
  refine Program.safe_bind (Program.Safe.mono h fun s' passed hpassed => ?_)
  cases passed with
  | error refusal => exact hpassed
  | ok a => exact hpassed

theorem Safe.mono {R' : O.State → A → Prop} (h : gate.Safe O ok s Q R)
    (hR : ∀ s a, R s a → R' s a) : gate.Safe O ok s Q R' := by
  refine Program.Safe.mono h fun s' passed hpassed => ?_
  cases passed with
  | error refusal => exact hpassed
  | ok a => exact hR s' a hpassed

variable {P : DaemonAct → Prop} {RR : A → Prop}

/-- A gate that only performs actions which keep an invariant, and are permitted under it, is
safe when its refusals are safe under the invariant, and keeps the invariant. -/
theorem Uses.safe {I : O.State → Prop} (hgate : gate.Uses P RQ RR) (hI : I s)
    (hok : ∀ s e, I s → P e → ok s e) (hnext : ∀ s e r, I s → P e → I (O.next s e r))
    (hrefusal : ∀ s p, I s → RQ p → Program.Safe O ok p s Q) :
    gate.Safe O ok s Q fun s' a => I s' ∧ RR a := by
  refine (Program.Uses.safe hgate hI hok hnext).mono fun s' passed hpassed => ?_
  cases passed with
  | error refusal => exact hrefusal s' refusal hpassed.1 hpassed.2
  | ok a => exact hpassed

/-- A gate extends the past by the actions it performs. -/
theorem Uses.extends (hgate : gate.Uses P RQ RR)
    {ok : List (Interleaving.Event DaemonIO) → DaemonAct → Prop} (hok : ∀ past e, P e → ok past e)
    {past : List (Interleaving.Event DaemonIO)}
    {Q : List (Interleaving.Event DaemonIO) → JsonRpcResponse → Prop}
    (hrefusal : ∀ past' p, Interleaving.Extends P past past' → RQ p →
      Program.Safe (Interleaving.trace DaemonIO) ok p past' Q) :
    gate.Safe (Interleaving.trace DaemonIO) ok past Q fun past' a =>
      Interleaving.Extends P past past' ∧ RR a :=
  hgate.safe (O := Interleaving.trace DaemonIO) (I := Interleaving.Extends P past)
    (Interleaving.Extends.refl past) (fun past e _ => hok past e)
    (fun _ _ r hs he => hs.act he r) hrefusal

/-- What follows a gate that is safe is safe. -/
theorem safe_enter (h : gate.Safe O ok s Q fun s' a => Program.Safe O ok (next a) s' Q) :
    Program.Safe O ok (gate.enter next) s Q := by
  refine Program.safe_bind (Program.Safe.mono h fun s' passed hpassed => ?_)
  cases passed with
  | error refusal => exact hpassed
  | ok a => exact hpassed

end Safe

end Gate

/-! ## Calm gates -/

variable {e : DaemonAct}

/-- The actions that neither write, nor consume a token, nor store a plan. -/
def calm : DaemonAct → Prop
  | .write _ _ => False
  | .store (.consumeConfirmation ..) | .store (.putPlan _) => False
  | _ => True

/-- The calm actions that save no receipt. -/
def refuses : DaemonAct → Prop
  | .write _ _ => False
  | .store (.consumeConfirmation ..) | .store (.putPlan _) | .store (.saveReceipt _ _) => False
  | _ => True

/-- The calm actions that neither audit nor save a receipt. -/
def prepares : DaemonAct → Prop
  | .write _ _ => False
  | .store (.consumeConfirmation ..) | .store (.putPlan _) | .store (.saveReceipt _ _)
  | .store (.appendAudit ..) => False
  | _ => True

/-- The actions that prepare a write without loading a plan or reading from ServiceNow. -/
def inspects : DaemonAct → Prop
  | .write _ _ | .read _ => False
  | .store (.consumeConfirmation ..) | .store (.putPlan _) | .store (.saveReceipt _ _)
  | .store (.appendAudit ..) | .store (.getPlan _) => False
  | _ => True

theorem prepares_of_inspects (h : inspects e) : prepares e := by
  cases e with
  | write => exact h
  | store call => cases call <;> first | exact h | trivial
  | _ => trivial

theorem calm_of_routine (h : e.routine) : calm e := by
  cases e with
  | write => exact h
  | store call => cases call <;> first | exact h | trivial
  | _ => trivial

theorem calm_of_refuses (h : refuses e) : calm e := by
  cases e with
  | write => exact h
  | store call => cases call <;> first | exact h | trivial
  | _ => trivial

theorem refuses_of_prepares (h : prepares e) : refuses e := by
  cases e with
  | write => exact h
  | store call => cases call <;> first | exact h | trivial
  | _ => trivial

theorem calm_of_prepares (h : prepares e) : calm e := calm_of_refuses (refuses_of_prepares h)

/-- A refusal that only performs calm actions, and saves no receipt. -/
abbrev CalmRefusal (p : Handler JsonRpcResponse) : Prop := p.Uses refuses fun _ => True

theorem CalmRefusal.calm (h : CalmRefusal p) : p.Uses SnowAgent.calm fun _ => True :=
  h.mono (fun _ => calm_of_refuses) fun _ => id

/-- A gate that inspects prepares. -/
theorem Gate.Uses.prepares {A : Type} {gate : Gate A} {RR : A → Prop}
    (h : gate.Uses inspects RQ RR) : gate.Uses SnowAgent.prepares RQ RR :=
  h.mono (fun _ => prepares_of_inspects) (fun _ => id) fun _ => id

end SnowAgent
