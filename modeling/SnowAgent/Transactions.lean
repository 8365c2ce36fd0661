import SnowAgent.Savepoints

/-! # Plain transactions

A connection on which statements run by themselves, or in a transaction between `BEGIN` and `COMMIT`.
A commit that fails may leave the transaction open, and then what follows is part of it.

What every statement keeps holds of the tables as the connection sees them, and as they will be when
the transaction is undone.
-/
namespace Savepoints

variable {T E A B : Type}

namespace Session

/-- What comes after a step, if the step succeeds. -/
def andThen : Except E A × Session T → (A → Session T → Except E B × Session T) →
    Except E B × Session T
  | (.error err, s), _ => (.error err, s)
  | (.ok a, s), next => next a s

variable (s : Session T)

/-- A statement that reads. -/
def query (outcome : Outcome E) (f : T → Except E A) : Except E A × Session T :=
  match outcome with
  | .failed err => (.error err, s)
  | .undone err => (.error err, s.undo)
  | .ran => (f s.tables, s)

/-- `BEGIN`, which fails within a transaction. -/
def begin (outcome : Outcome E) (nested : E) : Except E Unit × Session T :=
  match outcome with
  | .failed err => (.error err, s)
  | .undone err => (.error err, s.undo)
  | .ran =>
    match s.saved with
    | [] => (.ok (), s.savepoint)
    | _ :: _ => (.error nested, s)

/-- `COMMIT`.  When it fails, the transaction may be open still. -/
def commit (outcome : Outcome E) : Except E Unit × Session T :=
  match outcome with
  | .failed err => (.error err, s)
  | .undone err => (.error err, s.undo)
  | .ran => (.ok (), ⟨s.tables, []⟩)

/-- `ROLLBACK`, whatever comes of it. -/
def rollback (outcome : Outcome E) : Session T :=
  match outcome with
  | .failed _ => s
  | .undone _ | .ran => s.undo

end Session

/-! ## One statement -/

variable {next : A → Session T → Except E B × Session T} {r : Except E A × Session T}
  {outcome : Outcome E}

variable {f : T → Except E T}

section

variable {s : Session T}

/-- **One statement** has changed the tables; or it has failed and changed nothing, or undone the
transaction. -/
theorem statement_cases (s : Session T) (outcome : Outcome E) (f : T → Except E T) :
    (∃ tables, outcome = .ran ∧ f s.tables = .ok tables ∧
        s.statement outcome f = (.ok (), ⟨tables, s.saved⟩)) ∨
      ∃ err, s.statement outcome f = (.error err, s) ∨
        s.statement outcome f = (.error err, s.undo) := by
  cases outcome with
  | failed err => exact .inr ⟨err, .inl rfl⟩
  | undone err => exact .inr ⟨err, .inr rfl⟩
  | ran =>
    cases hf : f s.tables with
    | error err => exact .inr ⟨err, .inl (by simp only [Session.statement, hf])⟩
    | ok tables => exact .inl ⟨tables, rfl, rfl, by simp only [Session.statement, hf]⟩

/-- A statement that succeeds has run. -/
theorem statement_ok (h : (s.statement outcome f).1 = .ok ()) :
    outcome = .ran ∧ ∃ tables, f s.tables = .ok tables ∧
      s.statement outcome f = (.ok (), ⟨tables, s.saved⟩) := by
  rcases statement_cases s outcome f with ⟨tables, hran, hf, hrun⟩ | ⟨err, hrun | hrun⟩
  · exact ⟨hran, tables, hf, hrun⟩
  · rw [hrun] at h
    cases h
  · rw [hrun] at h
    cases h

theorem query_ok {f : T → Except E A} {a : A} (h : (s.query outcome f).1 = .ok a) :
    outcome = .ran ∧ f s.tables = .ok a ∧ (s.query outcome f).2 = s := by
  cases outcome with
  | failed err => cases h
  | undone err => cases h
  | ran => exact ⟨rfl, h, rfl⟩

theorem andThen_ok {b : B} (h : (Session.andThen r next).1 = .ok b) :
    ∃ a, r.1 = .ok a ∧ (next a r.2).1 = .ok b := by
  obtain ⟨result, s'⟩ := r
  cases result with
  | error err => cases h
  | ok a => exact ⟨a, rfl, h⟩

/-- Outside a transaction there is nothing to undo. -/
@[simp] theorem undo_closed (tables : T) : Session.undo ⟨tables, []⟩ = ⟨tables, []⟩ := rfl

@[simp] theorem undo_open (tables before : T) : Session.undo ⟨tables, [before]⟩ = ⟨before, []⟩ :=
  rfl

end

/-- Statements that all run. -/
theorem statements_ran {X : Type} {outcome : X → Outcome E} {g : T → X → T} (xs : List X)
    (h : ∀ x ∈ xs, outcome x = .ran) (tables : T) (saved : List T) :
    Session.statements (xs.map fun x => (outcome x, fun t => .ok (g t x))) ⟨tables, saved⟩ =
      (.ok (), ⟨xs.foldl g tables, saved⟩) := by
  induction xs generalizing tables with
  | nil => rfl
  | cons x xs ih =>
    rw [List.map_cons, Session.statements, h x (.head xs)]
    exact ih (fun y hy => h y (.tail x hy)) (g tables x)

variable (body : List (Outcome E × (T → Except E T)))

/-- Statements that have nothing to change. -/
theorem statements_idle {tables : T} (h : ∀ entry ∈ body, entry.2 tables = .ok tables) :
    (Session.statements body ⟨tables, []⟩).2 = ⟨tables, []⟩ := by
  induction body with
  | nil => rfl
  | cons entry body ih =>
    obtain ⟨outcome, f⟩ := entry
    have hf : f tables = .ok tables := h _ (.head body)
    rw [Session.statements]
    rcases statement_cases ⟨tables, []⟩ outcome f with ⟨after, -, hafter, hrun⟩ | ⟨err, hrun | hrun⟩
    · rw [hf] at hafter
      obtain rfl := Except.ok.inj hafter
      rw [hrun]
      exact ih fun entry hentry => h entry (.tail _ hentry)
    · rw [hrun]
    · rw [hrun]
      rfl

/-- A statement that does not run outside a transaction changes nothing. -/
theorem statement_closed (tables : T) (f : T → Except E T) (h : outcome ≠ .ran) :
    ∃ err, Session.statement ⟨tables, []⟩ outcome f = (.error err, ⟨tables, []⟩) := by
  cases outcome with
  | failed err => exact ⟨err, rfl⟩
  | undone err => exact ⟨err, rfl⟩
  | ran => exact absurd rfl h

/-! ## What a transaction is left as -/

/-- The transaction is open still; or the step has failed and undone it. -/
def Session.Within (before : T) (r : Except E A × Session T) : Prop :=
  r.2.saved = [before] ∨ (∃ err, r.1 = .error err) ∧ r.2 = ⟨before, []⟩

namespace Session.Within

variable {before : T} {s : Session T}

theorem undone {err : E} (h : s.saved = [before]) :
    Within (A := A) before (.error err, s.undo) := by
  obtain ⟨tables, saved⟩ := s
  obtain rfl : saved = [before] := h
  exact .inr ⟨⟨err, rfl⟩, rfl⟩

theorem statement (h : s.saved = [before]) (outcome : Outcome E) (f : T → Except E T) :
    Within before (s.statement outcome f) := by
  rcases statement_cases s outcome f with ⟨tables, -, -, hrun⟩ | ⟨err, hrun | hrun⟩
  · rw [hrun]
    exact .inl h
  · rw [hrun]
    exact .inl h
  · rw [hrun]
    exact undone h

theorem query (h : s.saved = [before]) (outcome : Outcome E) (f : T → Except E A) :
    Within before (s.query outcome f) := by
  cases outcome with
  | failed err => exact .inl h
  | undone err => exact undone h
  | ran => exact .inl h

theorem andThen (h : Within before r)
    (hnext : ∀ a s, s.saved = [before] → Within before (next a s)) :
    Within before (Session.andThen r next) := by
  obtain ⟨result, s'⟩ := r
  rcases h with hsaved | ⟨⟨err, rfl⟩, hs⟩
  · cases result with
    | error err => exact .inl hsaved
    | ok a => exact hnext a s' hsaved
  · exact .inr ⟨⟨err, rfl⟩, hs⟩

end Session.Within

/-! ## What every statement keeps -/

/-- Something holds of the tables, and of what they will be when savepoints are rolled back. -/
def Session.Everywhere (P : T → Prop) (s : Session T) : Prop := P s.tables ∧ ∀ t ∈ s.saved, P t

namespace Session.Everywhere

variable {P : T → Prop} {s : Session T}

theorem of_closed {tables : T} (h : P tables) : Everywhere P ⟨tables, []⟩ :=
  ⟨h, fun _ ht => (List.not_mem_nil ht).elim⟩

theorem undo (h : s.Everywhere P) : s.undo.Everywhere P := by
  refine of_closed ?_
  cases hlast : s.saved.getLast? with
  | none => exact h.1
  | some t => exact h.2 t (List.mem_of_getLast? hlast)

theorem savepoint (h : s.Everywhere P) : s.savepoint.Everywhere P := by
  refine ⟨h.1, fun t ht => ?_⟩
  rcases List.mem_cons.mp ht with rfl | ht
  · exact h.1
  · exact h.2 t ht

theorem statement (h : s.Everywhere P) (outcome : Outcome E)
    (hf : ∀ t t', P t → f t = .ok t' → P t') : (s.statement outcome f).2.Everywhere P := by
  rcases statement_cases s outcome f with ⟨tables, -, htables, hrun⟩ | ⟨err, hrun | hrun⟩
  · rw [hrun]
    exact ⟨hf _ _ h.1 htables, h.2⟩
  · rw [hrun]
    exact h
  · rw [hrun]
    exact h.undo

theorem query (h : s.Everywhere P) (outcome : Outcome E) (f : T → Except E A) :
    (s.query outcome f).2.Everywhere P := by
  cases outcome with
  | failed err => exact h
  | undone err => exact h.undo
  | ran => exact h

theorem andThen (h : r.2.Everywhere P)
    (hnext : ∀ a s, s.Everywhere P → (next a s).2.Everywhere P) :
    (Session.andThen r next).2.Everywhere P := by
  obtain ⟨result, s'⟩ := r
  cases result with
  | error err => exact h
  | ok a => exact hnext a s' h

theorem statements (hbody : ∀ entry ∈ body, ∀ t t', P t → entry.2 t = .ok t' → P t')
    {s : Session T}
    (h : s.Everywhere P) : (Session.statements body s).2.Everywhere P := by
  induction body generalizing s with
  | nil => exact h
  | cons entry body ih =>
    obtain ⟨outcome, f⟩ := entry
    have hstep : (s.statement outcome f).2.Everywhere P := h.statement outcome (hbody _ (.head body))
    rw [Session.statements]
    cases hrun : s.statement outcome f with
    | mk result s' =>
      rw [hrun] at hstep
      cases result with
      | error err => exact hstep
      | ok _ => exact ih (fun entry hentry => hbody entry (.tail _ hentry)) hstep

theorem begin (h : s.Everywhere P) (outcome : Outcome E) (nested : E) :
    (s.begin outcome nested).2.Everywhere P := by
  cases outcome with
  | failed err => exact h
  | undone err => exact h.undo
  | ran =>
    unfold Session.begin
    dsimp only
    split
    · exact h.savepoint
    · exact h

theorem commit (h : s.Everywhere P) (outcome : Outcome E) : (s.commit outcome).2.Everywhere P := by
  cases outcome with
  | failed err => exact h
  | undone err => exact h.undo
  | ran => exact of_closed h.1

theorem rollback (h : s.Everywhere P) (outcome : Outcome E) : (s.rollback outcome).Everywhere P := by
  cases outcome with
  | failed err => exact h
  | undone err => exact h.undo
  | ran => exact h.undo

end Session.Everywhere

end Savepoints
