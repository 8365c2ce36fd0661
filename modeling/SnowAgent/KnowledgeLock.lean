import SnowAgent.KnowledgeSync

/-! # One knowledge sync at a time

The lock of the knowledge sync is the time at which it was taken, and nothing else: a
call that finds it older than `kbLockStaleMs` takes it over, and a call that ends
clears it, whoever holds it by then.  A call also clears it once before it ends, with
the state that it saves.

Calls of several processes interleave at every action.  What follows is about the runs
in which no call asks for the lock while another one is late or has already saved.
-/
namespace SnowAgent.Knowledge

open Core Program Interleaving

/-! ## How far a call has come -/

/-- How far a call has come with the lock. -/
inductive LockPhase where
  | waiting
  /-- It has taken the lock, at this time. -/
  | working (ms : Int)
  /-- It has saved its state, and the lock with it, and is not over. -/
  | saved (ms : Int)
  | released
deriving DecidableEq

/-- When a call that still runs has taken the lock. -/
def LockPhase.lockedAt : LockPhase → Option Int
  | working ms | saved ms => some ms
  | waiting | released => none

/-- What an action makes of the phase of its call. -/
def LockPhase.next (phase : LockPhase) : (e : SyncAct) → SyncAct.Ans e → LockPhase
  | .acquireKbSyncLock nowMs _, .ok true => .working nowMs
  | .setKbSyncState _, .ok () =>
    match phase with
    | .working ms => .saved ms
    | other => other
  | .releaseKbSyncLock, _ => .released
  | _, _ => phase

/-- The observer of the lock. -/
def lockObserver : Observer SyncIO := ⟨LockPhase, LockPhase.next⟩

/-- What a call does with the lock, by its phase. -/
def lockOk : LockPhase → SyncAct → Prop
  | phase, .acquireKbSyncLock _ _ => phase = .waiting
  | phase, .setKbSyncState row => (∃ ms, phase = .working ms) ∧ row.kbSyncLock = none
  | phase, .releaseKbSyncLock => phase.lockedAt.isSome
  | _, _ => True

/-- An action that has nothing to do with the lock. -/
def lockFree : SyncAct → Prop
  | .acquireKbSyncLock _ _ | .setKbSyncState _ | .releaseKbSyncLock => False
  | _ => True

theorem lockFree.ok {e : SyncAct} (h : lockFree e) (phase : LockPhase) : lockOk phase e := by
  cases e with
  | acquireKbSyncLock | setKbSyncState | releaseKbSyncLock => exact h.elim
  | _ => trivial

theorem lockFree.next {e : SyncAct} (h : lockFree e) (phase : LockPhase) (r : SyncAct.Ans e) :
    phase.next e r = phase := by
  cases e with
  | acquireKbSyncLock | setKbSyncState | releaseKbSyncLock => exact h.elim
  | _ => rfl

/-- A part of a call that leaves the lock alone. -/
abbrev LeavesLock {A : Type} (x : SyncM A) : Prop :=
  Uses (S := SyncIO) lockFree (fun _ => True) x.run

/-- What follows a part that leaves the lock alone starts in the phase that part started in. -/
theorem LeavesLock.safe_bind {A B : Type} {x : SyncM A} {f : A → SyncM B} {phase : LockPhase}
    {Q : LockPhase → Except String B → Prop} (hx : LeavesLock x)
    (hf : ∀ a, Safe lockObserver lockOk (f a).run phase Q) (hfail : ∀ err, Q phase (.error err)) :
    Safe lockObserver lockOk (x >>= f).run phase Q := by
  have hkept : ∀ s : lockObserver.State, ∀ e, s = phase → lockFree e → lockOk s e :=
    fun s e _ he => he.ok s
  have hsafe := Uses.safe (O := lockObserver) (I := (· = phase)) (s := phase) hx rfl hkept
    (fun s e r hs he => (he.next s r).trans hs)
  refine safe_run_bind (hsafe.mono fun s r h => ?_)
  obtain ⟨rfl, -⟩ := h
  cases r with
  | ok a => exact hf a
  | error err => exact hfail err

/-! ## What a call does -/

section Calls

variable (lib : SyncLib) (progress : WatermarkProgress)

theorem observeExistingBase_leavesLock (record : Record) :
    LeavesLock (observeExistingBaseForRecord lib progress record) := by
  refine uses_run_bind ⟨trivial, fun _ => trivial⟩ fun existing => ?_
  cases existing with
  | none => trivial
  | some base =>
    show LeavesLock (ite _ _ _)
    split <;> trivial

theorem syncQuery_leavesLock (query : KnowledgeQuery) :
    LeavesLock (syncQuery lib progress query) := by
  refine uses_run_bind ⟨trivial, fun _ => trivial⟩ fun pages => ?_
  refine uses_run_bind (uses_run_foldlM (fun progress record => ?_) _ _) fun _ =>
    uses_run_bind trivial fun _ => trivial
  refine uses_run_bind (observeExistingBase_leavesLock lib progress record) fun _ => ?_
  exact uses_run_bind ⟨trivial, fun _ => trivial⟩ fun _ => trivial

theorem reconcileRow_leavesLock (row : String × RecordLifecycle) :
    LeavesLock (reconcileRow progress row) := by
  unfold reconcileRow
  split
  · trivial
  · refine uses_run_bind ⟨trivial, fun _ => trivial⟩ fun existing => ?_
    obtain ⟨sysId, lifecycle⟩ := row
    cases lifecycle with
    | active => exact uses_run_bind ⟨trivial, fun _ => trivial⟩ fun _ => trivial
    | tombstoned => exact uses_run_bind ⟨trivial, fun _ => trivial⟩ fun _ => trivial
    | pruned => trivial

theorem runFull_leavesLock (withBodies : Bool) :
    LeavesLock (runFullKnowledgeSync lib withBodies) := by
  refine uses_run_bind (syncQuery_leavesLock lib _ _) fun progress => ?_
  refine uses_run_bind ⟨trivial, fun _ => trivial⟩ fun rows => ?_
  exact uses_run_foldlM reconcileRow_leavesLock rows progress

theorem runIncremental_leavesLock (previous : KbSyncStateRow) :
    LeavesLock (runIncrementalKnowledgeSync lib previous) := by
  unfold runIncrementalKnowledgeSync
  split
  · exact uses_run_bind (syncQuery_leavesLock lib _ _) fun progress =>
      syncQuery_leavesLock lib _ _
  · exact runFull_leavesLock lib true

theorem runKnowledgeSync_leavesLock (mode : KnowledgeSyncMode) (withBodies : Bool)
    (previous : KbSyncStateRow) :
    LeavesLock (runKnowledgeSync lib mode withBodies previous) := by
  cases mode with
  | full => exact runFull_leavesLock lib withBodies
  | incremental => exact runIncremental_leavesLock lib previous

/-- The locked work of a call that has taken the lock ends with the lock taken or saved. -/
theorem syncKnowledgeLocked_safe (full withBodies : Bool) (ingest : LocalKnowledgeIngest)
    (ms : Int) :
    Safe lockObserver lockOk (syncKnowledgeLocked lib full withBodies ingest).run (.working ms)
      fun phase _ => phase.lockedAt = some ms := by
  unfold syncKnowledgeLocked
  refine LeavesLock.safe_bind ⟨trivial, fun _ => trivial⟩ (fun now => ?_) fun _ => rfl
  refine LeavesLock.safe_bind ⟨trivial, fun _ => trivial⟩ (fun previous => ?_) fun _ => rfl
  refine LeavesLock.safe_bind (runKnowledgeSync_leavesLock lib _ _ previous)
    (fun progress => ?_) fun _ => rfl
  refine LeavesLock.safe_bind ⟨trivial, fun _ => trivial⟩ (fun drift => ?_) fun _ => rfl
  refine LeavesLock.safe_bind ⟨trivial, fun _ => trivial⟩ (fun _ => ?_) fun _ => rfl
  -- Only here does the locked work touch the lock.
  refine safe_run_bind (safe_act ⟨⟨ms, rfl⟩, rfl⟩ fun saved => ?_)
  cases saved with
  | error err => exact rfl
  | ok _ =>
    refine LeavesLock.safe_bind ⟨trivial, fun _ => trivial⟩ (fun _ => ?_) fun _ => rfl
    exact rfl

/-- A call takes the lock at most once, saves its state at most once and while it has the lock,
and releases the lock before it is over. -/
theorem syncKnowledge_safe (full withBodies : Bool) :
    Safe lockObserver lockOk (syncKnowledge lib full withBodies).run .waiting
      fun phase _ => phase.lockedAt = none := by
  unfold syncKnowledge
  refine LeavesLock.safe_bind ⟨trivial, fun _ => trivial⟩ (fun ingest => ?_) fun _ => rfl
  refine LeavesLock.safe_bind ⟨trivial, fun _ => trivial⟩ (fun now => ?_) fun _ => rfl
  refine safe_run_bind (safe_act rfl fun acquired => ?_)
  cases acquired with
  | error err => exact rfl
  | ok acquired =>
    cases acquired with
    | false => exact rfl
    | true =>
      refine safe_run_bind (Program.safe_bind ?_)
      refine (syncKnowledgeLocked_safe lib full withBodies ingest _).mono fun phase result h => ?_
      refine safe_run_bind (safe_act ?_ fun released => ?_)
      · show phase.lockedAt.isSome = true
        rw [h]
        rfl
      · show Safe lockObserver lockOk (settled (syncAnswer result released)).run
          LockPhase.released fun phase _ => phase.lockedAt = none
        exact rfl

end Calls

/-! ## The calls of several processes -/

/-- What a call asks for. -/
structure SyncCall where
  full : Bool
  withBodies : Bool
deriving DecidableEq

/-- `acquire_kb_sync_lock`. -/
def acquireKbSyncLock (row : KbSyncStateRow) (nowMs staleAfterMs : Int) : Bool × KbSyncStateRow :=
  if row.kbSyncLock.all (fun lock => lock < nowMs - staleAfterMs) then
    (true, { row with kbSyncLock := some nowMs })
  else (false, row)

/-- What the store may answer, and what then becomes of the row of the sync.  A statement that
fails leaves the row as it is. -/
def syncAnswers (row : KbSyncStateRow) : (e : SyncAct) → SyncAct.Ans e → KbSyncStateRow → Prop
  | .acquireKbSyncLock nowMs staleAfterMs, .ok acquired, row' =>
    acquireKbSyncLock row nowMs staleAfterMs = (acquired, row')
  | .getKbSyncState, .ok found, row' => found = row ∧ row' = row
  | .setKbSyncState saved, .ok (), row' => row' = saved
  | .releaseKbSyncLock, .ok (), row' => row' = { row with kbSyncLock := none }
  | _, _, row' => row' = row

/-- Calls of `sync_knowledge`, in any processes that share the store. -/
def syncSystem (lib : SyncLib) :
    System SyncIO KbSyncStateRow SyncCall (Except String KnowledgeSyncOutcome) where
  program call := (syncKnowledge lib call.full call.withBodies).run
  answers := syncAnswers
  yields _ := true
  environment _ _ := False

/-- The executions' configurations. -/
abbrev SyncConfig := Config SyncIO KbSyncStateRow SyncCall (Except String KnowledgeSyncOutcome)

/-- A call in an execution. -/
abbrev SyncTask := Task SyncIO SyncCall (Except String KnowledgeSyncOutcome)

/-- How far a call has come with the lock. -/
def SyncTask.phase (t : SyncTask) : LockPhase := t.observed lockObserver fun _ => .waiting

/-! ## What is promised -/

/-- In the row there is the lock of every call that has taken it and has not cleared it itself,
and there is none once every call is over. -/
structure LockKept (c : SyncConfig) : Prop where
  kept : ∀ (i : Nat) (t : SyncTask) (ms : Int), c.tasks[i]? = some t →
    SyncTask.phase t = .working ms → c.world.kbSyncLock = some ms
  freed : (∀ t ∈ c.tasks, t.rest.Returned) → c.world.kbSyncLock = none

/-- A call that is let in now comes in when every call that was let in and still runs has had
its lock for at least `kbLockStaleMs`. -/
def LetInAlone (c : SyncConfig) (l : Label SyncIO KbSyncStateRow SyncCall) : Prop :=
  match l.event? with
  | some ⟨.acquireKbSyncLock nowMs _, .ok true⟩ =>
    ∀ t ∈ c.tasks, ∀ ms ∈ (SyncTask.phase t).lockedAt, kbLockStaleMs ≤ nowMs - ms
  | _ => True

/-- The condition on a step: a call asks for the lock while no call runs that has saved its state
or whose lock is late by then, and a release that fails finds the lock empty. -/
def Punctual (c : SyncConfig) (l : Label SyncIO KbSyncStateRow SyncCall) : Prop :=
  match l.event? with
  | some ⟨.acquireKbSyncLock nowMs staleAfterMs, _⟩ =>
    ∀ t ∈ c.tasks, ∀ ms ∈ (SyncTask.phase t).lockedAt,
      SyncTask.phase t = .working ms ∧ nowMs - staleAfterMs ≤ ms
  | some ⟨.releaseKbSyncLock, .error _⟩ => c.world.kbSyncLock = none
  | _ => True

instance (c : SyncConfig) (l : Label SyncIO KbSyncStateRow SyncCall) :
    Decidable (Punctual c l) := by
  unfold Punctual
  split <;> infer_instance

/-! ## At most one call has the lock -/

/-- What holds throughout of the phases of the calls and the lock in the row: at most one call
that was let in runs, and the row has its lock until it saves its state. -/
structure LockInv (phases : List LockPhase) (lock : Option Int) : Prop where
  alone : ∀ {i j : Nat} {p q : LockPhase} {ms ms' : Int}, phases[i]? = some p →
    phases[j]? = some q → p.lockedAt = some ms → q.lockedAt = some ms' → i = j
  kept : ∀ {i : Nat} {ms : Int}, phases[i]? = some (.working ms) → lock = some ms
  free : (∀ (i : Nat) (ms : Int), phases[i]? ≠ some (.working ms)) → lock = none

section Invariant

variable {phases : List LockPhase} {lock lock' : Option Int} {i : Nat} {p p' : LockPhase}

theorem getElem?_set_self {ps : List LockPhase} (h : ps[i]? = some p) :
    (ps.set i p')[i]? = some p' := by
  rw [List.getElem?_set_self (List.getElem?_eq_some_iff.mp h).1]

theorem getElem?_set_other {ps : List LockPhase} {j : Nat} (h : j ≠ i) :
    (ps.set i p')[j]? = ps[j]? := List.getElem?_set_ne (Ne.symm h)

/-- A call that takes the lock while no other runs. -/
theorem LockInv.take {nowMs : Int} (hp : phases[i]? = some p)
    (hnone : ∀ (j : Nat) (q : LockPhase), phases[j]? = some q → q.lockedAt = none) :
    LockInv (phases.set i (.working nowMs)) (some nowMs) := by
  have honly : ∀ {j : Nat} {q : LockPhase} {ms : Int},
      (phases.set i (.working nowMs))[j]? = some q → q.lockedAt = some ms → j = i := by
    intro j q ms hq hms
    by_contra hj
    rw [getElem?_set_other hj] at hq
    rw [hnone j q hq] at hms
    cases hms
  constructor
  · intro a b q q' ms ms' ha hb hq hq'
    rw [honly ha hq, honly hb hq']
  · intro a ms ha
    obtain rfl := honly ha rfl
    rw [getElem?_set_self hp] at ha
    cases ha
    rfl
  · intro hworking
    exact absurd (getElem?_set_self hp) (hworking i nowMs)

/-- A call that runs gives up its lock: it has saved its state, or it is over. -/
theorem LockInv.giveUp (hinv : LockInv phases lock) (hp : phases[i]? = some p) {ms : Int}
    (hms : p.lockedAt = some ms) (hp' : ∀ ms, p' ≠ .working ms) :
    LockInv (phases.set i p') none := by
  have hnot : ∀ {j : Nat} {q : LockPhase} {ms' : Int}, j ≠ i →
      (phases.set i p')[j]? = some q → q.lockedAt = some ms' → False := by
    intro j q ms' hj hq hms'
    rw [getElem?_set_other hj] at hq
    exact hj (hinv.alone hq hp hms' hms)
  constructor
  · intro a b q q' ma mb ha hb hq hq'
    by_cases hai : a = i
    · by_cases hbi : b = i
      · omega
      · exact (hnot hbi hb hq').elim
    · exact (hnot hai ha hq).elim
  · intro a ma ha
    by_cases hai : a = i
    · subst hai
      rw [getElem?_set_self hp] at ha
      exact absurd (Option.some.inj ha) (hp' ma)
    · exact (hnot hai ha rfl).elim
  · exact fun _ => rfl

/-- A new call. -/
theorem LockInv.arrive (hinv : LockInv phases lock) : LockInv (phases ++ [.waiting]) lock := by
  have hold : ∀ {j : Nat} {q : LockPhase}, (phases ++ [.waiting])[j]? = some q →
      phases[j]? = some q ∨ q = .waiting := by
    intro j q hq
    rw [List.getElem?_append] at hq
    split at hq
    · exact .inl hq
    · right
      have hmem := List.mem_of_getElem? hq
      simpa using hmem
  constructor
  · intro a b q q' ma mb ha hb hq hq'
    rcases hold ha with ha | rfl
    · rcases hold hb with hb | rfl
      · exact hinv.alone ha hb hq hq'
      · cases hq'
    · cases hq
  · intro a ma ha
    rcases hold ha with ha | ha
    · exact hinv.kept ha
    · cases ha
  · intro hworking
    refine hinv.free fun j ms hj => hworking j ms ?_
    have hlt := (List.getElem?_eq_some_iff.mp hj).1
    rw [List.getElem?_append, if_pos hlt, hj]

end Invariant

variable {lib : SyncLib}

/-- The phases of the calls of an execution. -/
def phases (c : SyncConfig) : List LockPhase := c.tasks.map SyncTask.phase

variable {c : SyncConfig} {t : SyncTask}

theorem phases_get {i : Nat} (h : c.tasks[i]? = some t) :
    (phases c)[i]? = some (SyncTask.phase t) := by
  rw [phases, List.getElem?_map, h]
  rfl

theorem phases_afterAct {i : Nat} {e : SyncIO.Act}
    {k : SyncIO.Ans e → Program SyncIO (Except String KnowledgeSyncOutcome)}
    {r : SyncIO.Ans e} {w : KbSyncStateRow} :
    phases (c.afterAct i t e r k w) = (phases c).set i ((SyncTask.phase t).next e r) := by
  rw [phases, phases, Config.afterAct, List.map_set]
  congr 1
  exact observed_act lockObserver (fun _ => .waiting) t e r (k r)

theorem phases_afterSpawn {call : SyncCall} :
    phases (c.afterSpawn (syncSystem lib) call) = phases c ++ [.waiting] := by
  rw [phases, Config.afterSpawn, List.map_append]
  rfl

/-- What is left of a call, from its phase: it lets go of the lock before it is over. -/
theorem run_syncKnowledge_safe {allowed : SyncConfig → Label SyncIO KbSyncStateRow SyncCall → Prop}
    {row : KbSyncStateRow} (h : Run (syncSystem lib) allowed row c) {i : Nat}
    (ht : c.tasks[i]? = some t) :
    Safe lockObserver lockOk t.rest (SyncTask.phase t) fun phase _ => phase.lockedAt = none := by
  have hcall : Safe lockObserver lockOk ((syncSystem lib).program t.call) .waiting
      fun phase _ => LockPhase.lockedAt phase = none := syncKnowledge_safe lib _ _
  exact h.safe (Q := fun _ (phase : lockObserver.State) _ => LockPhase.lockedAt phase = none)
    ht hcall

/-- An answered action keeps the invariant. -/
theorem LockInv.answered {i : Nat} {e : SyncIO.Act} {r : SyncIO.Ans e} {w : KbSyncStateRow}
    (hinv : LockInv (phases c) c.world.kbSyncLock)
    (ht : c.tasks[i]? = some t) (hok : lockOk (SyncTask.phase t) e)
    (ha : syncAnswers c.world e r w) (hpunctual : Punctual c (.receive i e r)) :
    LockInv ((phases c).set i ((SyncTask.phase t).next e r)) w.kbSyncLock := by
  have hi := phases_get ht
  -- What is known when the phase and the row stay as they are.
  have hcalm : w = c.world → LockInv ((phases c).set i (SyncTask.phase t)) w.kbSyncLock := by
    rintro rfl
    obtain ⟨hlt, hget⟩ := List.getElem?_eq_some_iff.mp hi
    rw [← hget, List.set_getElem_self]
    exact hinv
  cases e with
  | acquireKbSyncLock nowMs staleAfterMs =>
    cases r with
    | error err => exact hcalm ha
    | ok acquired =>
      have hwon : acquireKbSyncLock c.world nowMs staleAfterMs = (acquired, w) := ha
      unfold acquireKbSyncLock at hwon
      split at hwon
      · rename_i hlock
        obtain ⟨rfl, rfl⟩ := Prod.mk.inj hwon
        refine LockInv.take hi fun j q hq => ?_
        by_contra hrunning
        obtain ⟨ms, hms⟩ := Option.ne_none_iff_exists'.mp hrunning
        -- The call `j` still runs, so by the condition its lock is in place and not late.
        obtain ⟨u, hu, rfl⟩ : ∃ u, c.tasks[j]? = some u ∧ SyncTask.phase u = q := by
          rwa [phases, List.getElem?_map, Option.map_eq_some_iff] at hq
        have hlate := hpunctual u (List.mem_of_getElem? hu) ms hms
        rw [hlate.1] at hq
        rw [hinv.kept hq] at hlock
        have hstale : ms < nowMs - staleAfterMs := by simpa using hlock
        omega
      · obtain ⟨rfl, rfl⟩ := Prod.mk.inj hwon
        exact hcalm rfl
  | setKbSyncState row =>
    cases r with
    | error err => exact hcalm ha
    | ok _ =>
      obtain ⟨⟨ms, hms⟩, hrow⟩ := hok
      have hw : w = row := ha
      rw [hw, hrow]
      have hlocked : (SyncTask.phase t).lockedAt = some ms := by rw [hms]; rfl
      have hgiven : LockInv ((phases c).set i (.saved ms)) none :=
        hinv.giveUp hi hlocked fun ms' h => by cases h
      rw [hms]
      exact hgiven
  | releaseKbSyncLock =>
    obtain ⟨ms, hms⟩ := Option.isSome_iff_exists.mp hok
    have hgiven : LockInv ((phases c).set i .released) none :=
      hinv.giveUp hi hms fun ms' h => by cases h
    cases r with
    | error err =>
      have hw : w = c.world := ha
      have hnone : c.world.kbSyncLock = none := hpunctual
      rw [hw, hnone]
      exact hgiven
    | ok _ =>
      have hw : w = { c.world with kbSyncLock := none } := ha
      rw [hw]
      exact hgiven
  | getKbSyncState =>
    cases r with
    | error err => exact hcalm ha
    | ok found => exact hcalm ha.2
  | _ => exact hcalm ha

/-- The invariant holds in every execution whose steps meet the condition. -/
theorem run_lockInv {row : KbSyncStateRow} (hrow : row.kbSyncLock = none)
    (h : Run (syncSystem lib) Punctual row c) :
    LockInv (phases c) c.world.kbSyncLock := by
  refine h.invariant (I := fun c => LockInv (phases c) c.world.kbSyncLock) ?_ ?_
  · refine ⟨fun hp => ?_, fun hp => ?_, fun _ => hrow⟩
    · cases hp
    · cases hp
  · intro c l c' hrun hinv hl hs
    cases hs with
    | spawn hidle =>
      rw [phases_afterSpawn]
      exact hinv.arrive
    | act hr ht hrest hy ha => cases hy
    | receive hidle ht hrest hy ha =>
      have hsafe := run_syncKnowledge_safe hrun ht
      rw [hrest] at hsafe
      rw [phases_afterAct]
      exact hinv.answered ht hsafe.1 ha hl
    | send => exact hinv
    | finish => exact hinv
    | environment hw => exact hw.elim

/-- **One knowledge sync at a time.**  While calls are punctual, no call removes the lock of
another, no call is let in beside one whose lock is still young, and no lock stays behind. -/
theorem one_sync_at_a_time {row : KbSyncStateRow} {c : SyncConfig}
    (hrow : row.kbSyncLock = none) (h : Run (syncSystem lib) Punctual row c) :
    LockKept c ∧ ∀ l c', Punctual c l → Step (syncSystem lib) c l c' → LetInAlone c l := by
  have hinv := run_lockInv hrow h
  refine ⟨⟨fun i t ms ht hms => ?_, fun hover => hinv.free fun i ms hi => ?_⟩, ?_⟩
  · exact hinv.kept (hms ▸ phases_get ht)
  · obtain ⟨t, ht, hworking⟩ : ∃ t, c.tasks[i]? = some t ∧ SyncTask.phase t = .working ms := by
      rwa [phases, List.getElem?_map, Option.map_eq_some_iff] at hi
    have hsafe := run_syncKnowledge_safe h ht
    have hreturned := hover t (List.mem_of_getElem? ht)
    cases hrest : t.rest with
    | act e k =>
      rw [hrest] at hreturned
      exact hreturned
    | pure a =>
      rw [hrest] at hsafe
      have hfree : (SyncTask.phase t).lockedAt = none := hsafe
      rw [hworking] at hfree
      cases hfree
  · intro l c' hl hs
    cases hs with
    | spawn hidle => trivial
    | act hr ht hrest hy ha => cases hy
    | send => trivial
    | finish => trivial
    | environment hw => trivial
    | @receive i t e k r w hidle ht hrest hy ha =>
      cases e with
      | acquireKbSyncLock nowMs staleAfterMs =>
        rcases r with err | acquired | acquired
        · trivial
        · trivial
        · -- The call is let in, so no other one runs: its lock would be in place and young.
          intro u hu ms hms
          obtain ⟨j, hj⟩ := List.mem_iff_getElem?.mp hu
          obtain ⟨hworking, hyoung⟩ := hl u hu ms hms
          have hlock := hinv.kept (hworking ▸ phases_get hj)
          have hwon : acquireKbSyncLock c.world nowMs staleAfterMs = (true, w) := ha
          unfold acquireKbSyncLock at hwon
          rw [hlock] at hwon
          have hstale : ¬ ms < nowMs - staleAfterMs := by omega
          simp [hstale] at hwon
      | _ => trivial

/-! ## Two executions -/

/-- A client without rows, and no interval. -/
def emptyLib : SyncLib := ⟨fun _ => none, fun _ => none, none⟩

/-- The store answers, the clock stands still, and the table is empty. -/
def quietAnswer (row : KbSyncStateRow) : (e : SyncAct) → Option (SyncAct.Ans e × KbSyncStateRow)
  | .ingestLocalKnowledgeState => some (.ok ⟨[], []⟩, row)
  | .now => some ((0 : DateTime), row)
  | .acquireKbSyncLock nowMs staleAfterMs =>
    let won := acquireKbSyncLock row nowMs staleAfterMs
    some (.ok won.1, won.2)
  | .getKbSyncState => some (.ok row, row)
  | .query _ => some (([], .ok ()), row)
  | .articleBase _ => some (.ok none, row)
  | .listKnowledgeRecords => some (.ok [], row)
  | .refreshKnowledgeAutoTags _ _ _ => some (.ok 0, row)
  | .setKbSyncState saved => some (.ok (), saved)
  | .releaseKbSyncLock => some (.ok (), { row with kbSyncLock := none })
  | .persistRecord _ | .tombstoneRecord _ | .pruneRecord _ | .rebuildKnowledgeIndexes _ _ =>
    some (.ok (), row)
  | .maybeRunInlineSemanticRebuild => some ((), row)

/-- The player of these answers. -/
def quietPlayer : Player (syncSystem emptyLib) where
  answer := quietAnswer
  sound := by
    intro w e r w' h
    cases e with
    | _ =>
      cases h
      first
      | rfl
      | exact ⟨rfl, rfl⟩

/-- A call is turned away by one that runs, which then comes to its end. -/
theorem one_sync_at_a_time_refused :
    ∃ c, Run (syncSystem emptyLib) Punctual .empty c ∧ phases c = [.released, .waiting] ∧
      LockKept c ∧
      ∀ l c', Punctual c l → Step (syncSystem emptyLib) c l c' → LetInAlone c l := by
  have hplay : (play Punctual quietPlayer 50 ⟨.empty, [], none⟩
      (.call ⟨true, true⟩ :: List.replicate 5 (.resume 0) ++ .call ⟨true, true⟩ ::
        List.replicate 3 (.resume 1) ++ List.replicate 7 (.resume 0))).map phases =
      some [.released, .waiting] := by decide +kernel
  obtain ⟨c, hc, hphases⟩ := Option.map_eq_some_iff.mp hplay
  have hrun := play_run .start hc
  obtain ⟨hkept, halone⟩ := one_sync_at_a_time rfl hrun
  exact ⟨c, hrun, hphases, hkept, halone⟩

/-- **A call removes the lock of another.**  The first call has saved its state and is at work on
the semantic index; a second call is let in, and the first clears its lock. -/
theorem sync_lock_lost :
    ¬ ∀ (lib : SyncLib) (row : KbSyncStateRow) (c : SyncConfig), row.kbSyncLock = none →
      Run (syncSystem lib) (fun _ _ => True) row c →
        LockKept c ∧ ∀ l c', Step (syncSystem lib) c l c' → LetInAlone c l := by
  intro hsafe
  have hplay : (play (fun _ _ => True) quietPlayer 50 ⟨.empty, [], none⟩
      (.call ⟨true, true⟩ :: List.replicate 10 (.resume 0) ++ .call ⟨true, true⟩ ::
        List.replicate 3 (.resume 1) ++ List.replicate 2 (.resume 0))).map
          (fun c => (phases c, c.world.kbSyncLock)) =
      some ([.released, .working 0], none) := by decide +kernel
  obtain ⟨c, hc, hlost⟩ := Option.map_eq_some_iff.mp hplay
  obtain ⟨hphases, hlock⟩ := Prod.mk.inj hlost
  obtain ⟨t, ht, hworking⟩ : ∃ t, c.tasks[1]? = some t ∧ SyncTask.phase t = .working 0 := by
    have hget : (phases c)[1]? = some (.working 0) := by rw [hphases]; rfl
    rwa [phases, List.getElem?_map, Option.map_eq_some_iff] at hget
  have hkept := (hsafe emptyLib .empty c rfl (play_run .start hc)).1.kept 1 t 0 ht hworking
  rw [hlock] at hkept
  cases hkept

end SnowAgent.Knowledge
