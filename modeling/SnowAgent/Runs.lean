import Mathlib.Data.List.Basic

/-! # Runs of a store

A store is a state and a total step function.  A run performs operations one
after another, each of them allowed by a condition on the state before it; its
history lists them in order.  An invariant of such runs is proved once per
operation and carried over the run by `Run.invariant`.
-/
namespace Runs

variable {State Op : Type} (step : Op → State → State) (allowed : State → Op → Prop)
variable (init : State)

/-- The runs from `init` whose operations are all allowed. -/
inductive Run : List Op → State → Prop where
  | start : Run [] init
  | next {ops : List Op} {s : State} {op : Op} :
      Run ops s → allowed s op → Run (ops ++ [op]) (step op s)

variable {step allowed init}

/-- What holds at the start and is preserved by every allowed operation holds along
every run. -/
theorem Run.invariant {I : List Op → State → Prop} (hinit : I [] init)
    (hstep : ∀ ops s op, Run step allowed init ops s → I ops s → allowed s op →
      I (ops ++ [op]) (step op s))
    {ops : List Op} {s : State} (h : Run step allowed init ops s) : I ops s := by
  induction h with
  | start => exact hinit
  | next hrun hop ih => exact hstep _ _ _ hrun ih hop

end Runs
