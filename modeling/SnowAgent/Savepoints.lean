import Mathlib.Data.List.Basic

/-! # Savepoints

A connection to a database in which statements run between savepoints.  A statement that
fails changes nothing, or else the whole transaction with it is undone; the release of the
outermost savepoint commits, and a commit that fails undoes the transaction.
-/
namespace Savepoints

variable {T E : Type}

/-- A connection: its tables as it sees them, and as they were at each open savepoint, the
last one first. -/
structure Session (T : Type) where
  tables : T
  saved : List T

/-- How a statement ends that may change the tables. -/
inductive Outcome (E : Type) where
  | ran
  | failed (err : E)
  | undone (err : E)

namespace Session

variable (s : Session T)

/-- `SAVEPOINT`. -/
def savepoint : Session T := { s with saved := s.tables :: s.saved }

/-- `RELEASE` of the last savepoint. -/
def release : Session T := { s with saved := s.saved.tail }

/-- `ROLLBACK TO` the last savepoint. -/
def rollbackTo : Session T := { s with tables := s.saved.head?.getD s.tables }

/-- The transaction is undone, and with it all its savepoints. -/
def undo : Session T := ⟨s.saved.getLast?.getD s.tables, []⟩

/-- One statement. -/
def statement (outcome : Outcome E) (f : T → Except E T) : Except E Unit × Session T :=
  match outcome with
  | .failed err => (.error err, s)
  | .undone err => (.error err, s.undo)
  | .ran =>
    match f s.tables with
    | .ok tables => (.ok (), { s with tables := tables })
    | .error err => (.error err, s)

/-- Statements up to the first that fails. -/
def statements : List (Outcome E × (T → Except E T)) → Session T → Except E Unit × Session T
  | [], s => (.ok (), s)
  | (outcome, f) :: rest, s =>
    match s.statement outcome f with
    | (.ok (), s') => statements rest s'
    | (.error err, s') => (.error err, s')

/-- Statements in a savepoint, which is released after them and rolled back to when one of
them fails. -/
def scope (opening closing : Outcome E) (body : List (Outcome E × (T → Except E T))) :
    Except E Unit × Session T :=
  match opening with
  | .failed err => (.error err, s)
  | .undone err => (.error err, s.undo)
  | .ran =>
    match statements body s.savepoint with
    | (.error err, s') => (.error err, s'.rollbackTo.release)
    | (.ok (), s') =>
      match closing with
      | .ran => (.ok (), s'.release)
      | .failed err | .undone err => (.error err, s'.undo)

end Session

/-- What the statements make of the tables. -/
def runAll : List (T → Except E T) → T → Except E T
  | [], t => .ok t
  | f :: rest, t => (f t).bind (runAll rest)

variable {body : List (Outcome E × (T → Except E T))}

/-- In a transaction of one savepoint, statements leave the savepoint open and have changed
the tables as a whole; or one of them has failed and the savepoint is open still, or gone
with all changes. -/
theorem statements_cases (body : List (Outcome E × (T → Except E T))) (before : T) (tables : T) :
    (∃ tables', Session.statements body ⟨tables, [before]⟩ = (.ok (), ⟨tables', [before]⟩) ∧
        runAll (body.map Prod.snd) tables = .ok tables') ∨
      ∃ err, (∃ tables', Session.statements body ⟨tables, [before]⟩ =
          (.error err, ⟨tables', [before]⟩)) ∨
        Session.statements body ⟨tables, [before]⟩ = (.error err, ⟨before, []⟩) := by
  induction body generalizing tables with
  | nil => exact .inl ⟨tables, rfl, rfl⟩
  | cons entry body ih =>
    obtain ⟨outcome, f⟩ := entry
    cases outcome with
    | failed err => exact .inr ⟨err, .inl ⟨tables, rfl⟩⟩
    | undone err => exact .inr ⟨err, .inr rfl⟩
    | ran =>
      cases hf : f tables with
      | error err =>
        refine .inr ⟨err, .inl ⟨tables, ?_⟩⟩
        rw [Session.statements, Session.statement]
        simp only [hf]
      | ok tables' =>
        have hstep : Session.statements ((.ran, f) :: body) ⟨tables, [before]⟩ =
            Session.statements body ⟨tables', [before]⟩ := by
          rw [Session.statements, Session.statement]
          simp only [hf]
        have hrun : runAll (((.ran, f) :: body : List (Outcome E × _)).map Prod.snd) tables =
            runAll (body.map Prod.snd) tables' := by
          show (f tables).bind _ = _
          rw [hf]
          rfl
        rw [hstep, hrun]
        exact ih tables'

/-- **A savepoint outside a transaction**: it ends with all its statements done, or with an
error and the tables as they were. -/
theorem scope_cases (body : List (Outcome E × (T → Except E T))) (tables : T)
    (opening closing : Outcome E) :
    (∃ tables', Session.scope ⟨tables, []⟩ opening closing body = (.ok (), ⟨tables', []⟩) ∧
        runAll (body.map Prod.snd) tables = .ok tables') ∨
      ∃ err, Session.scope ⟨tables, []⟩ opening closing body = (.error err, ⟨tables, []⟩) := by
  cases opening with
  | failed err => exact .inr ⟨err, rfl⟩
  | undone err => exact .inr ⟨err, rfl⟩
  | ran =>
    have hscope : Session.scope ⟨tables, []⟩ .ran closing body =
        match Session.statements body ⟨tables, [tables]⟩ with
        | (.error err, s') => (.error err, s'.rollbackTo.release)
        | (.ok (), s') =>
          match closing with
          | .ran => (.ok (), s'.release)
          | .failed err | .undone err => (.error err, s'.undo) := rfl
    rw [hscope]
    rcases statements_cases body tables tables with
      ⟨tables', hrun, hall⟩ | ⟨err, ⟨tables', hrun⟩ | hrun⟩
    · rw [hrun]
      cases closing with
      | ran => exact .inl ⟨tables', rfl, hall⟩
      | failed err => exact .inr ⟨err, rfl⟩
      | undone err => exact .inr ⟨err, rfl⟩
    · rw [hrun]
      exact .inr ⟨err, rfl⟩
    · rw [hrun]
      exact .inr ⟨err, rfl⟩

end Savepoints
