import Mathlib.Logic.Function.Basic

/-! # A database with a write-ahead log

A database is a main file, and perhaps a log of committed pages beside it.  Whoever
opens it replays the log over whatever main file is there.  So a log that is taken
away, or left beside another main file, changes the content, unless the main file has
all its pages already.
-/
namespace WalDatabase

variable {P : Type}

/-- The pages of a database, by number. -/
abbrev Pages (P : Type) := Nat → Option P

/-- The committed pages in a log, in the order in which they were written. -/
abbrev Frames (P : Type) := List (Nat × P)

/-- Puts the pages of a log in place. -/
def replay (frames : Frames P) (main : Pages P) : Pages P := fun n =>
  (frames.reverse.lookup n).or (main n)

/-- The two files. -/
structure Files (P : Type) where
  main : Option (Pages P)
  wal : Option (Frames P)

/-- What is found when the database is opened. -/
def Files.content (files : Files P) : Option (Pages P) :=
  files.main.map (replay (files.wal.getD []))

/-- The database when the log has been taken away. -/
def Files.withoutWal (files : Files P) : Files P := { files with wal := none }

@[simp] theorem replay_nil (main : Pages P) : replay [] main = main := rfl

variable (main : Option (Pages P))

@[simp] theorem content_whole : (Files.mk main none).content = main := by
  cases main <;> rfl

@[simp] theorem content_emptied : (Files.mk main (some [])).content = main := by
  cases main <;> rfl

/-- A log leaves a main file as it is exactly when the main file has the last page of each number
in it. -/
theorem replay_eq_iff {frames : Frames P} {main : Pages P} :
    replay frames main = main ↔ ∀ n page, frames.reverse.lookup n = some page →
      main n = some page := by
  constructor
  · intro h n page hpage
    have hn := congrFun h n
    rw [replay, hpage] at hn
    exact hn.symm
  · intro h
    funext n
    cases hpage : frames.reverse.lookup n with
    | none => rw [replay, hpage, Option.none_or]
    | some page => rw [replay, hpage, h n page hpage, Option.some_or]

/-- Every page in the log is in the main file as it is. -/
def Files.Settled (files : Files P) : Prop :=
  ∀ main, files.main = some main → ∀ n page,
    (files.wal.getD []).reverse.lookup n = some page → main n = some page

theorem content_withoutWal (files : Files P) : files.withoutWal.content = files.main :=
  content_whole files.main

/-- **A log may be taken away** exactly when its pages are in the main file. -/
theorem content_eq_main_iff {files : Files P} : files.main = files.content ↔ files.Settled := by
  obtain ⟨main, wal⟩ := files
  cases main with
  | none => exact ⟨fun _ _ h => (nomatch h), fun _ => rfl⟩
  | some main =>
    constructor
    · intro h main' hmain n page hpage
      cases hmain
      exact replay_eq_iff.mp (Option.some.inj h).symm n page hpage
    · intro h
      exact congrArg some (replay_eq_iff.mpr (h main rfl)).symm

end WalDatabase
