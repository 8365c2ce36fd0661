import SnowAgent.JobRegistry

/-! # Jobs from start to end

`spawn` runs a job from its record to its end, and `cancel` cancels one; any number of
both run side by side.  A sweep keeps the records of working jobs, and `cancel` tells
the truth, in every run in which no cancellation is overtaken by the end of its job and
no cancelled worker is waited for too long.
-/
namespace SnowAgent

open Json Interleaving Program

/-! ## The registry and its world -/

/-- A `CancellationToken`: its clones are one token. -/
abbrev Token := Nat

/-- The registry, and what is remembered next to it. -/
structure JobWorld where
  jobs : Table JobId Job
  /-- The kinds whose lock is held. -/
  kindLocks : List JobKind
  cancelTokens : Table JobId Token
  /-- The tokens that have fired. -/
  fired : List Token
  /-- How many tokens there are. -/
  tokens : Nat
  /-- Every identifier given to a job. -/
  issued : List JobId
  /-- The records that the sweeps have dropped. -/
  dropped : Table JobId Job

namespace JobWorld

/-- `JobRegistry::new`. -/
def empty : JobWorld := ⟨Table.empty, [], Table.empty, [], 0, [], Table.empty⟩

/-- The record of a job, in the registry or dropped from it. -/
def last (w : JobWorld) (id : JobId) : Option Job :=
  (w.jobs.row id).orElse fun _ => w.dropped.row id

/-- `insert`. -/
def insert (w : JobWorld) (id : JobId) (kind : JobKind) (now : DateTime) : JobWorld :=
  { w with
    jobs := w.jobs.put id (Job.create id kind now)
    issued := w.issued ++ [id] }

/-- Changes the record of a job, if it is there. -/
def modify (w : JobWorld) (id : JobId) (f : Job → Job) : JobWorld :=
  { w with jobs := w.jobs.update id f }

/-- `register_token`. -/
def registerToken (w : JobWorld) (id : JobId) : JobWorld :=
  { w with cancelTokens := w.cancelTokens.put id w.tokens, tokens := w.tokens + 1 }

/-- Whether the record of a job is there and can be cancelled. -/
def isCancellable (w : JobWorld) (id : JobId) : Bool :=
  ((w.jobs.row id).map fun job => job.status.cancellable).getD false

/-- Fires the registered token of a job, unless it has fired. -/
def fireToken (w : JobWorld) (id : JobId) : Bool × JobWorld :=
  match w.cancelTokens.row id with
  | some token =>
    if token ∈ w.fired then (false, w) else (true, { w with fired := token :: w.fired })
  | none => (false, w)

/-- The finished jobs of the registry. -/
def finished (w : JobWorld) : List (JobId × DateTime) :=
  w.issued.filterMap fun id =>
    (w.jobs.row id).bind fun job => job.finishedAt.map fun t => (id, t)

/-- Drops records. -/
def sweep (w : JobWorld) (removed : List JobId) : JobWorld :=
  { w with
    jobs := ⟨fun id => if id ∈ removed then none else w.jobs.row id⟩
    dropped := ⟨fun id => if id ∈ removed then w.last id else w.dropped.row id⟩ }

end JobWorld

/-! ## Sections -/

/-- The sections that the calls of the registry take, and what a worker does between them. -/
inductive JobAct where
  | insert (kind : JobKind)
  | registerToken (id : JobId)
  | kindLock (kind : JobKind)
  | lockKind (kind : JobKind)
  | unlockKind (kind : JobKind)
  | isCancelled (token : Token)
  | markRunning (id : JobId)
  | recordProgress (id : JobId) (progress : JobProgress)
  | appendLog (id : JobId) (line : String)
  /-- Whatever a worker awaits elsewhere. -/
  | work
  | finishJob (id : JobId) (status : JobStatus) (result : Option Value) (error : Option String)
  | removeToken (id : JobId)
  | now
  | sweepJobs (cutoff : DateTime)
  | removeTokens (ids : List JobId)
  | isCancellable (id : JobId)
  | fireToken (id : JobId)
  | markCancelled (id : JobId)

namespace JobAct

def Ans : JobAct → Type
  | insert _ => JobId
  | registerToken _ => Token
  | isCancelled _ | isCancellable _ | fireToken _ => Bool
  | work => Value
  | now => DateTime
  | sweepJobs _ => List JobId
  | kindLock _ | lockKind _ | unlockKind _ | markRunning _ | recordProgress _ _ | appendLog _ _
  | finishJob _ _ _ _ | removeToken _ | removeTokens _ | markCancelled _ => Unit

/-- A section waits for its lock; the rest happens at once. -/
def yields : JobAct → Bool
  | unlockKind _ | isCancelled _ | now => false
  | _ => true

end JobAct

abbrev JobIO : Interface := ⟨JobAct, JobAct.Ans⟩

/-- What a section can answer, and the world after it.  The clock shows any time, and a
sweep comes upon the finished jobs in any order. -/
def JobWorld.answers (w : JobWorld) : (e : JobAct) → e.Ans → JobWorld → Prop
  | .insert kind, id, w' => id ∉ w.issued ∧ ∃ now, w' = w.insert id kind now
  | .registerToken id, token, w' => token = w.tokens ∧ w' = w.registerToken id
  | .kindLock _, _, w' => w' = w
  | .lockKind kind, _, w' =>
    kind ∉ w.kindLocks ∧ w' = { w with kindLocks := kind :: w.kindLocks }
  | .unlockKind kind, _, w' => w' = { w with kindLocks := w.kindLocks.erase kind }
  | .isCancelled token, b, w' => b = decide (token ∈ w.fired) ∧ w' = w
  | .markRunning id, _, w' => w' = w.modify id Job.markRunning
  | .recordProgress id progress, _, w' => w' = w.modify id (Job.recordProgress progress)
  | .appendLog id line, _, w' => w' = w.modify id (Job.appendLog line)
  | .work, _, w' => w' = w
  | .finishJob id status result error, _, w' =>
    ∃ now, w' = w.modify id (Job.finish status result error now)
  | .removeToken id, _, w' => w' = { w with cancelTokens := w.cancelTokens.delete id }
  | .now, _, w' => w' = w
  | .sweepJobs cutoff, removed, w' =>
    ∃ entries : List (JobId × DateTime), entries.Perm w.finished ∧
      removed = sweptIds cutoff entries ∧ w' = w.sweep removed
  | .removeTokens ids, _, w' =>
    w' = { w with cancelTokens := ids.foldl Table.delete w.cancelTokens }
  | .isCancellable id, b, w' => b = w.isCancellable id ∧ w' = w
  | .fireToken id, b, w' => (b, w') = w.fireToken id
  | .markCancelled id, _, w' => ∃ now, w' = w.modify id (Job.cancel now)

/-! ## The calls -/

namespace JobRegistry

/-- `sweep_retention`. -/
def sweepRetention : Program JobIO Unit := do
  let now : DateTime ← perform (S := JobIO) .now
  let removed : List JobId ← perform (S := JobIO)
    (.sweepJobs (now - durationSeconds finishedRetentionSecs))
  if !removed.isEmpty then perform (S := JobIO) (.removeTokens removed)

/-- `finish`. -/
def finish (id : JobId) (status : JobStatus) (result : Option Value) (error : Option String) :
    Program JobIO Unit := do
  let () ← perform (S := JobIO) (.finishJob id status result error)
  let () ← perform (S := JobIO) (.removeToken id)
  sweepRetention

/-- `cancel`. -/
def cancel (id : JobId) : Program JobIO Bool := do
  let cancellable : Bool ← perform (S := JobIO) (.isCancellable id)
  if !cancellable then return false
  let fired : Bool ← perform (S := JobIO) (.fireToken id)
  if !fired then return false
  let () ← perform (S := JobIO) (.markCancelled id)
  return true

end JobRegistry

/-- What a worker does through its `JobContext`, and elsewhere. -/
inductive ContextAct where
  | progress (stage : JobProgress)
  | log (line : String)
  | isCancelled
  | work

def ContextAct.Ans : ContextAct → Type
  | progress _ | log _ => Unit
  | isCancelled => Bool
  | work => Value

abbrev ContextIO : Interface := ⟨ContextAct, ContextAct.Ans⟩

/-- The section a `JobContext` takes for its worker. -/
def ContextAct.toJob (id : JobId) (token : Token) : ContextAct → JobAct
  | .progress stage => .recordProgress id stage
  | .log line => .appendLog id line
  | .isCancelled => .isCancelled token
  | .work => .work

/-- Its answer. -/
def ContextAct.answer (id : JobId) (token : Token) :
    (e : ContextAct) → (e.toJob id token).Ans → e.Ans
  | .progress _, r => r
  | .log _, r => r
  | .isCancelled, r => r
  | .work, r => r

/-- `run_kind` of one job: what its worker does, and its outcome. -/
abbrev Worker := Program ContextIO (Except String Value)

/-- How a job ends after its worker has. -/
def endJob (id : JobId) (token : Token) : Except String Value → Program JobIO Unit
  | .ok value => do
    let cancelled : Bool ← perform (S := JobIO) (.isCancelled token)
    if cancelled then JobRegistry.finish id .cancelled none none
    else JobRegistry.finish id .succeeded (some value) none
  | .error text => JobRegistry.finish id .failed none (some text)

/-- The local task of `spawn`, under the lock of its kind. -/
def runJob (id : JobId) (token : Token) (worker : Worker) : Program JobIO Unit := do
  let cancelled : Bool ← perform (S := JobIO) (.isCancelled token)
  if cancelled then JobRegistry.finish id .cancelled none none
  else
    let () ← perform (S := JobIO) (.markRunning id)
    let outcome ← worker.embed (T := JobIO) (ContextAct.toJob id token) (ContextAct.answer id token)
    endJob id token outcome

/-- `spawn`, and the local task it starts. -/
def spawn (kind : JobKind) (worker : Worker) : Program JobIO Unit := do
  let id ← perform (S := JobIO) (.insert kind)
  let token ← perform (S := JobIO) (.registerToken id)
  let () ← perform (S := JobIO) (.kindLock kind)
  let () ← perform (S := JobIO) (.lockKind kind)
  runJob id token worker
  perform (S := JobIO) (.unlockKind kind)

/-- The calls: a job that is started, or one that is to be cancelled. -/
inductive JobCall where
  | spawn (kind : JobKind) (worker : Worker)
  | cancel (id : JobId)

/-- What a call answers: `cancel` whether it has cancelled the job. -/
def JobCall.program : JobCall → Program JobIO (Option Bool)
  | .spawn kind worker => do
    let () ← SnowAgent.spawn kind worker
    return none
  | .cancel id => do
    let cancelled ← JobRegistry.cancel id
    return some cancelled

/-- The jobs of the daemon, side by side. -/
def jobSystem : System JobIO JobWorld JobCall (Option Bool) where
  program := JobCall.program
  answers := JobWorld.answers
  yields := JobAct.yields
  environment := fun _ _ => False

/-! ## What a section changes -/

/-- The records a section changes, and how. -/
inductive JobAct.Modifies : JobAct → JobId → (Job → Job) → Prop where
  | markRunning (id : JobId) : Modifies (.markRunning id) id Job.markRunning
  | recordProgress (id : JobId) (progress : JobProgress) :
      Modifies (.recordProgress id progress) id (Job.recordProgress progress)
  | appendLog (id : JobId) (line : String) :
      Modifies (.appendLog id line) id (Job.appendLog line)
  | finishJob (id : JobId) (status : JobStatus) (result : Option Value) (error : Option String)
      (now : DateTime) :
      Modifies (.finishJob id status result error) id (Job.finish status result error now)
  | markCancelled (id : JobId) (now : DateTime) :
      Modifies (.markCancelled id) id (Job.cancel now)

/-- The sections that leave every record alone. -/
def JobAct.leavesJobs : JobAct → Bool
  | .registerToken _ | .kindLock _ | .lockKind _ | .unlockKind _ | .isCancelled _ | .work
  | .removeToken _ | .now | .removeTokens _ | .fireToken _ => true
  | _ => false

/-- **What a section can do to the records.** -/
inductive JobChange (w : JobWorld) : (e : JobAct) → e.Ans → JobWorld → Prop where
  | leave {e : JobAct} {r : e.Ans} {w' : JobWorld} :
      e.leavesJobs = true → w'.jobs = w.jobs → w'.issued = w.issued → w'.dropped = w.dropped →
      JobChange w e r w'
  | look {id : JobId} : JobChange w (.isCancellable id) (w.isCancellable id) w
  | insert {kind : JobKind} {id : JobId} {now : DateTime} :
      id ∉ w.issued → JobChange w (.insert kind) id (w.insert id kind now)
  | modify {e : JobAct} {r : e.Ans} {id : JobId} {f : Job → Job} :
      e.Modifies id f → JobChange w e r (w.modify id f)
  | sweep {cutoff : DateTime} {entries : List (JobId × DateTime)} :
      entries.Perm w.finished →
      JobChange w (.sweepJobs cutoff) (sweptIds cutoff entries) (w.sweep (sweptIds cutoff entries))

theorem answers_change {w w' : JobWorld} {e : JobAct} {r : e.Ans} (h : w.answers e r w') :
    JobChange w e r w' := by
  cases e with
  | insert kind =>
    obtain ⟨hfresh, now, rfl⟩ := h
    exact .insert hfresh
  | registerToken id =>
    obtain ⟨_, rfl⟩ := h
    exact .leave rfl rfl rfl rfl
  | lockKind kind =>
    obtain ⟨_, rfl⟩ := h
    exact .leave rfl rfl rfl rfl
  | isCancelled token =>
    obtain ⟨_, rfl⟩ := h
    exact .leave rfl rfl rfl rfl
  | kindLock _ | unlockKind _ | work | removeToken _ | now | removeTokens _ =>
    cases h
    exact .leave rfl rfl rfl rfl
  | markRunning id =>
    cases h
    exact .modify (.markRunning id)
  | recordProgress id progress =>
    cases h
    exact .modify (.recordProgress id progress)
  | appendLog id line =>
    cases h
    exact .modify (.appendLog id line)
  | finishJob id status result error =>
    obtain ⟨now, rfl⟩ := h
    exact .modify (.finishJob id status result error now)
  | sweepJobs cutoff =>
    obtain ⟨entries, hperm, rfl, rfl⟩ := h
    exact .sweep hperm
  | isCancellable id =>
    obtain ⟨rfl, rfl⟩ := h
    exact .look
  | fireToken id =>
    have hworld : w' = (w.fireToken id).2 := congrArg Prod.snd h
    rw [JobWorld.fireToken] at hworld
    split at hworld
    · split_ifs at hworld
      · exact .leave rfl (by rw [hworld]) (by rw [hworld]) (by rw [hworld])
      · exact .leave rfl (by rw [hworld]) (by rw [hworld]) (by rw [hworld])
    · exact .leave rfl (by rw [hworld]) (by rw [hworld]) (by rw [hworld])
  | markCancelled id =>
    obtain ⟨now, rfl⟩ := h
    exact .modify (.markCancelled id now)

/-! ## Records after a change -/

variable {now : DateTime}

namespace JobWorld

variable {w w' : JobWorld} {id id' : JobId} {job : Job} {f : Job → Job}

theorem last_of_row (h : w.jobs.row id = some job) : w.last id = some job := by
  rw [last, h]
  rfl

variable {kind : JobKind}

theorem last_insert_self : (w.insert id kind now).last id = some (Job.create id kind now) :=
  last_of_row (Table.row_put_self _ _ _)

theorem last_insert_of_ne (hne : id' ≠ id) : (w.insert id kind now).last id' = w.last id' := by
  show ((w.jobs.put id _).row id').orElse _ = _
  rw [Table.row_put_of_ne _ _ hne]
  rfl

theorem last_modify_of_row (h : w.jobs.row id = some job) :
    (w.modify id f).last id = some (f job) := by
  refine last_of_row ?_
  show (w.jobs.update id f).row id = _
  rw [Table.row_update_self, h]
  rfl

theorem last_modify_of_not (h : id' = id → w.jobs.row id = none) :
    (w.modify id f).last id' = w.last id' := by
  show ((w.jobs.update id f).row id').orElse _ = (w.jobs.row id').orElse _
  by_cases hid : id' = id
  · subst hid
    rw [Table.row_update_self, h rfl]
    rfl
  · rw [Table.row_update_of_ne _ _ hid]
    rfl

/-- A record after a change of one: it is as before, or it is the changed one. -/
theorem last_modify_cases (h : (w.modify id f).last id' = some job) :
    w.last id' = some job ∨ ∃ before, id' = id ∧ w.jobs.row id = some before ∧ job = f before := by
  cases hrow : w.jobs.row id with
  | none =>
    rw [last_modify_of_not fun _ => hrow] at h
    exact .inl h
  | some before =>
    by_cases hid : id' = id
    · subst hid
      rw [last_modify_of_row hrow] at h
      exact .inr ⟨before, rfl, rfl, (Option.some.inj h).symm⟩
    · rw [last_modify_of_not fun heq => absurd heq hid] at h
      exact .inl h

theorem last_sweep (removed : List JobId) : (w.sweep removed).last id = w.last id := by
  show (if id ∈ removed then none else w.jobs.row id).orElse
    (fun _ => if id ∈ removed then w.last id else w.dropped.row id) = w.last id
  split_ifs
  · rfl
  · rfl

theorem mem_finished {t : DateTime} (h : (id, t) ∈ w.finished) :
    ∃ job, w.jobs.row id = some job ∧ job.finishedAt = some t := by
  obtain ⟨id', _, hentry⟩ := List.mem_filterMap.mp h
  obtain ⟨job, hjob, htime⟩ := Option.bind_eq_some_iff.mp hentry
  obtain ⟨t', ht', heq⟩ := Option.map_eq_some_iff.mp htime
  cases heq
  exact ⟨job, hjob, ht'⟩

theorem finished_nodup (h : w.issued.Nodup) : (w.finished.map Prod.fst).Nodup := by
  have hsub : (w.finished.map Prod.fst).Sublist w.issued := by
    rw [finished]
    induction w.issued with
    | nil => exact .slnil
    | cons id ids ih =>
      rw [List.filterMap_cons]
      split
      · exact ih.cons id
      · rename_i entry hentry
        obtain ⟨job, _, htime⟩ := Option.bind_eq_some_iff.mp hentry
        obtain ⟨t, _, rfl⟩ := Option.map_eq_some_iff.mp htime
        exact ih.cons_cons id
  exact hsub.nodup h

/-- What holds of the records at any time: they are those of the issued identifiers, each
is consistent, and only ended jobs are dropped. -/
structure Sound (w : JobWorld) : Prop where
  nodup : w.issued.Nodup
  recorded : ∀ id, id ∈ w.issued ↔ ∃ job, w.last id = some job
  consistent : ∀ id job, w.last id = some job → job.Consistent
  dropped : ∀ id job, w.jobs.row id = none → w.last id = some job → job.status.terminal = true

/-- The job is in the registry, and its worker has not reported its end. -/
def Working (w : JobWorld) (id : JobId) : Prop :=
  ∃ job, w.jobs.row id = some job ∧ job.status.reported = false

/-- The job has been cancelled. -/
def Cancelled (w : JobWorld) (id : JobId) : Prop :=
  ∃ job, w.last id = some job ∧ job.status = .cancelled

theorem sound_empty : empty.Sound where
  nodup := List.nodup_nil
  recorded id := by
    constructor
    · intro h
      cases h
    · rintro ⟨job, hjob⟩
      cases hjob
  consistent _ _ h := nomatch h
  dropped _ _ _ h := nomatch h

end JobWorld

/-! ## What every section keeps -/

namespace JobAct.Modifies

variable {e : JobAct} {id : JobId} {f : Job → Job} {job : Job}

/-- A section that ends a job gives it a status to end with. -/
theorem consistent (h : e.Modifies id f)
    (hends : ∀ status result error, e = .finishJob id status result error →
      status.terminal = true) (hjob : job.Consistent) : (f job).Consistent := by
  cases h with
  | markRunning => exact Job.markRunning_consistent hjob
  | recordProgress _ progress => exact hjob
  | appendLog _ line => exact hjob
  | finishJob _ status result error now => exact Job.finish_consistent (hends _ _ _ rfl)
  | markCancelled _ now => exact Job.cancel_consistent hjob

/-- Only a second end could change the status of a job that has ended. -/
theorem status (h : e.Modifies id f)
    (hends : ∀ status result error, e = .finishJob id status result error →
      job.status.reported = false) (hterminal : job.status.terminal = true) :
    (f job).status = job.status := by
  cases h with
  | markRunning => exact Job.markRunning_status hterminal
  | recordProgress _ progress => rfl
  | appendLog _ line => rfl
  | finishJob _ status result error now => exact Job.finish_status hterminal (hends _ _ _ rfl)
  | markCancelled _ now => exact Job.cancel_status hterminal

/-- Only the end of a job reports it. -/
theorem reported (h : e.Modifies id f)
    (hends : ∀ status result error, e ≠ .finishJob id status result error) :
    (f job).status.reported = job.status.reported := by
  cases h with
  | markRunning => exact Job.markRunning_reported job
  | recordProgress _ progress => rfl
  | appendLog _ line => rfl
  | finishJob _ status result error now => exact absurd rfl (hends _ _ _)
  | markCancelled _ now => exact Job.cancel_reported now job

end JobAct.Modifies

/-- A section may end a job only once, with a status to end with. -/
def EndsOnce (w : JobWorld) (e : JobAct) : Prop :=
  ∀ id status result error, e = .finishJob id status result error →
    w.Working id ∧ status.terminal = true

namespace JobChange

variable {w w' : JobWorld} {e : JobAct} {r : e.Ans} {id : JobId} {job : Job}

theorem issued (h : JobChange w e r w') (hid : id ∈ w.issued) : id ∈ w'.issued := by
  cases h with
  | leave _ _ hissued _ =>
    rw [hissued]
    exact hid
  | look => exact hid
  | insert _ => exact List.mem_append_left _ hid
  | modify _ => exact hid
  | sweep _ => exact hid

theorem last_of_leave (hjobs : w'.jobs = w.jobs) (hdropped : w'.dropped = w.dropped) :
    w'.last id = w.last id := by
  rw [JobWorld.last, JobWorld.last, hjobs, hdropped]

section

variable (h : JobChange w e r w') (hsound : w.Sound)

include h hsound

/-- **A status to end with stays.** -/
theorem status (hends : EndsOnce w e)
    (hjob : w.last id = some job) (hterminal : job.status.terminal = true) :
    ∃ job', w'.last id = some job' ∧ job'.status = job.status := by
  cases h with
  | leave _ hjobs _ hdropped =>
    rw [last_of_leave hjobs hdropped]
    exact ⟨job, hjob, rfl⟩
  | look => exact ⟨job, hjob, rfl⟩
  | @insert kind new now hfresh =>
    have hne : id ≠ new := by
      rintro rfl
      exact hfresh ((hsound.recorded id).mpr ⟨job, hjob⟩)
    rw [JobWorld.last_insert_of_ne hne]
    exact ⟨job, hjob, rfl⟩
  | @modify _ _ changed f hf =>
    by_cases hchanged : id = changed ∧ (w.jobs.row changed).isSome
    · obtain ⟨rfl, hsome⟩ := hchanged
      obtain ⟨before, hrow⟩ := Option.isSome_iff_exists.mp hsome
      have heq : before = job := Option.some.inj ((JobWorld.last_of_row hrow).symm.trans hjob)
      subst heq
      refine ⟨f before, JobWorld.last_modify_of_row hrow, hf.status ?_ hterminal⟩
      intro status result error he
      obtain ⟨⟨job', hrow', hreported⟩, _⟩ := hends _ _ _ _ he
      rw [hrow] at hrow'
      cases hrow'
      exact hreported
    · rw [JobWorld.last_modify_of_not]
      · exact ⟨job, hjob, rfl⟩
      · intro hid
        cases hrow : w.jobs.row changed with
        | none => rfl
        | some before => exact absurd ⟨hid, by rw [hrow]; rfl⟩ hchanged
  | sweep _ =>
    rw [JobWorld.last_sweep]
    exact ⟨job, hjob, rfl⟩

theorem cancelled (hends : EndsOnce w e)
    (hid : w.Cancelled id) : w'.Cancelled id := by
  obtain ⟨job, hjob, hstatus⟩ := hid
  obtain ⟨job', hjob', hsame⟩ := h.status hsound hends hjob (by rw [hstatus]; rfl)
  exact ⟨job', hjob', hsame.trans hstatus⟩

/-- A working job keeps its record, unless it ends or is swept. -/
theorem working (hid : w.Working id)
    (hends : ∀ status result error, e ≠ .finishJob id status result error)
    (hspared : ∀ cutoff entries, e = .sweepJobs cutoff → entries.Perm w.finished →
      id ∉ sweptIds cutoff entries) : w'.Working id := by
  obtain ⟨job, hrow, hreported⟩ := hid
  cases h with
  | leave _ hjobs _ _ => exact ⟨job, by rw [hjobs]; exact hrow, hreported⟩
  | look => exact ⟨job, hrow, hreported⟩
  | @insert kind new now hfresh =>
    have hne : id ≠ new := by
      rintro rfl
      exact hfresh ((hsound.recorded id).mpr ⟨job, JobWorld.last_of_row hrow⟩)
    refine ⟨job, ?_, hreported⟩
    show (w.jobs.put new _).row id = _
    rw [Table.row_put_of_ne _ _ hne]
    exact hrow
  | @modify _ _ changed f hf =>
    by_cases hchanged : id = changed
    · subst hchanged
      refine ⟨f job, ?_, ?_⟩
      · show (w.jobs.update id f).row id = _
        rw [Table.row_update_self, hrow]
        rfl
      · rw [hf.reported hends]
        exact hreported
    · refine ⟨job, ?_, hreported⟩
      show (w.jobs.update changed f).row id = _
      rw [Table.row_update_of_ne _ _ hchanged]
      exact hrow
  | @sweep cutoff entries hperm =>
    refine ⟨job, ?_, hreported⟩
    show (if id ∈ sweptIds cutoff entries then none else w.jobs.row id) = _
    rw [if_neg (hspared cutoff entries rfl hperm)]
    exact hrow

/-- Every section keeps the records sound. -/
theorem sound (hends : EndsOnce w e) : w'.Sound := by
  cases h with
  | leave _ hjobs hissued hdropped =>
    refine ⟨by rw [hissued]; exact hsound.nodup, ?_, ?_, ?_⟩
    · intro id
      rw [hissued, last_of_leave hjobs hdropped]
      exact hsound.recorded id
    · intro id job hjob
      rw [last_of_leave hjobs hdropped] at hjob
      exact hsound.consistent id job hjob
    · intro id job hrow hjob
      rw [hjobs] at hrow
      rw [last_of_leave hjobs hdropped] at hjob
      exact hsound.dropped id job hrow hjob
  | look => exact hsound
  | @insert kind new now hfresh =>
    refine ⟨?_, ?_, ?_, ?_⟩
    · exact List.nodup_append.mpr ⟨hsound.nodup, List.nodup_singleton new,
        fun a ha b hb hab => hfresh (List.mem_singleton.mp hb ▸ hab ▸ ha)⟩
    · intro id
      by_cases hid : id = new
      · subst hid
        exact iff_of_true (List.mem_append_right _ (List.mem_singleton_self id))
          ⟨_, JobWorld.last_insert_self⟩
      · rw [JobWorld.last_insert_of_ne hid, ← hsound.recorded id]
        simp [JobWorld.insert, hid]
    · intro id job hjob
      by_cases hid : id = new
      · subst hid
        rw [JobWorld.last_insert_self] at hjob
        cases hjob
        exact Job.create_consistent _ _ _
      · rw [JobWorld.last_insert_of_ne hid] at hjob
        exact hsound.consistent id job hjob
    · intro id job hrow hjob
      by_cases hid : id = new
      · subst hid
        rw [show (w.insert id kind now).jobs.row id = _ from Table.row_put_self _ _ _] at hrow
        cases hrow
      · rw [show (w.insert new kind now).jobs.row id = _ from
          Table.row_put_of_ne _ _ hid] at hrow
        rw [JobWorld.last_insert_of_ne hid] at hjob
        exact hsound.dropped id job hrow hjob
  | @modify _ _ changed f hf =>
    refine ⟨hsound.nodup, ?_, ?_, ?_⟩
    · intro id
      rw [show (w.modify changed f).issued = w.issued from rfl, hsound.recorded id]
      cases hrow : w.jobs.row changed with
      | none => rw [JobWorld.last_modify_of_not fun _ => hrow]
      | some before =>
        by_cases hid : id = changed
        · subst hid
          rw [JobWorld.last_modify_of_row hrow, JobWorld.last_of_row hrow]
          simp
        · rw [JobWorld.last_modify_of_not fun heq => absurd heq hid]
    · intro id job hjob
      rcases JobWorld.last_modify_cases hjob with hjob | ⟨before, rfl, hrow, rfl⟩
      · exact hsound.consistent id job hjob
      · exact hf.consistent (fun status result error he => (hends _ _ _ _ he).2)
          (hsound.consistent _ _ (JobWorld.last_of_row hrow))
    · intro id job hrow hjob
      have hbefore : w.jobs.row id = none := by
        by_cases hid : id = changed
        · subst hid
          simpa [JobWorld.modify] using hrow
        · simpa [JobWorld.modify, hid] using hrow
      rcases JobWorld.last_modify_cases hjob with hjob | ⟨before, rfl, hrow', rfl⟩
      · exact hsound.dropped id job hbefore hjob
      · rw [hbefore] at hrow'
        cases hrow'
  | @sweep cutoff entries hperm =>
    refine ⟨hsound.nodup, ?_, ?_, ?_⟩
    · intro id
      rw [JobWorld.last_sweep]
      exact hsound.recorded id
    · intro id job hjob
      rw [JobWorld.last_sweep] at hjob
      exact hsound.consistent id job hjob
    · intro id job hrow hjob
      rw [JobWorld.last_sweep] at hjob
      by_cases hid : id ∈ sweptIds cutoff entries
      · obtain ⟨t, ht⟩ := mem_sweptIds hid
        obtain ⟨finished, hfinished, htime⟩ := JobWorld.mem_finished (hperm.subset ht)
        have heq : finished = job :=
          Option.some.inj ((JobWorld.last_of_row hfinished).symm.trans hjob)
        subst heq
        have hconsistent := hsound.consistent id finished hjob
        rw [Job.Consistent, htime] at hconsistent
        exact hconsistent.symm
      · refine hsound.dropped id job ?_ hjob
        rw [← hrow]
        exact (if_neg hid).symm

end

end JobChange

/-! ## What a task does to jobs -/

/-- What a task has done to jobs so far. -/
structure JobLife where
  /-- The job it runs. -/
  id : Option JobId
  /-- Whether it has ended that job. -/
  finished : Bool
  /-- A job that it has found in the registry. -/
  seen : Option JobId
  /-- The job that it has marked as cancelled. -/
  marked : Option JobId

/-- A task that has done nothing yet. -/
def newLife : JobLife := ⟨none, false, none, none⟩

def jobLife : Observer JobIO where
  State := JobLife
  next s
    | .insert _, id => { s with id := some id }
    | .finishJob _ _ _ _, _ => { s with finished := true }
    | .isCancellable id, true => { s with seen := some id }
    | .markCancelled id, _ => { s with marked := some id }
    | _, _ => s

/-- What a task may do to jobs: run one, end that one once, and mark one that it has seen. -/
def permitted (s : JobLife) : JobAct → Prop
  | .insert _ => s.id = none
  | .finishJob id status _ _ => s.id = some id ∧ s.finished = false ∧ status.terminal = true
  | .markCancelled id => s.seen = some id
  | _ => True

/-- The sections that a task may take at any time, and that say nothing of its life. -/
def JobAct.free : JobAct → Prop
  | .insert _ | .finishJob _ _ _ _ | .isCancellable _ | .markCancelled _ => False
  | _ => True

theorem permitted_free {s : JobLife} {e : JobAct} (h : e.free) : permitted s e := by
  cases e with
  | insert _ | finishJob _ _ _ _ | isCancellable _ | markCancelled _ => exact h.elim
  | _ => trivial

theorem jobLife_free {s : JobLife} {e : JobAct} (r : e.Ans) (h : e.free) :
    jobLife.next s e r = s := by
  cases e with
  | insert _ | finishJob _ _ _ _ | isCancellable _ | markCancelled _ => exact h.elim
  | _ => rfl

/-- A program of free sections leaves the life of its task as it is. -/
theorem free_safe {A : Type} {p : Program JobIO A} {s : JobLife}
    (h : Uses (S := JobIO) JobAct.free (fun _ => True) p) :
    Safe jobLife permitted p s fun s' _ => s' = s :=
  have hkept : Safe jobLife permitted p s fun s' _ => s' = s ∧ True :=
    h.safe (O := jobLife) (I := fun s' => s' = s) rfl (fun _ _ _ he => permitted_free he)
      fun _ _ r hs he => (jobLife_free r he).trans hs
  hkept.mono fun _ _ hs => hs.1

namespace JobRegistry

theorem sweepRetention_free :
    Uses (S := JobIO) JobAct.free (fun _ => True) sweepRetention := by
  rw [sweepRetention]
  refine ⟨trivial, fun now => ⟨trivial, fun removed => ?_⟩⟩
  show Uses (S := JobIO) JobAct.free (fun _ => True)
    (if !removed.isEmpty then perform (S := JobIO) (.removeTokens removed) else Pure.pure ())
  cases removed with
  | nil => exact trivial
  | cons id ids => exact ⟨trivial, fun _ => trivial⟩

theorem finish_safe {id : JobId} {status : JobStatus} {result : Option Value}
    {error : Option String} {s : JobLife} (hid : s.id = some id) (hfinished : s.finished = false)
    (hstatus : status.terminal = true) :
    Safe jobLife permitted (finish id status result error) s fun _ _ => True := by
  refine safe_perform ⟨hid, hfinished, hstatus⟩ fun _ => ?_
  refine safe_perform trivial fun _ => ?_
  exact (free_safe sweepRetention_free).mono fun _ _ _ => trivial

theorem cancel_safe (id : JobId) :
    Safe jobLife permitted (cancel id) newLife fun s answer => answer = true → s.marked = some id := by
  refine safe_perform trivial fun cancellable => ?_
  cases cancellable with
  | false => exact safe_pure nofun
  | true =>
    refine safe_perform trivial fun fired => ?_
    cases fired with
    | false => exact safe_pure nofun
    | true =>
      refine safe_perform rfl fun _ => ?_
      exact safe_pure fun _ => rfl

end JobRegistry

theorem toJob_free (id : JobId) (token : Token) (e : ContextAct) : (e.toJob id token).free := by
  cases e with
  | progress _ | log _ | isCancelled | work => trivial

theorem runJob_safe {id : JobId} {token : Token} {worker : Worker} {s : JobLife}
    (hid : s.id = some id) (hfinished : s.finished = false) :
    Safe jobLife permitted (runJob id token worker) s fun _ _ => True := by
  refine safe_perform trivial fun cancelled => ?_
  cases cancelled with
  | true => exact JobRegistry.finish_safe hid hfinished rfl
  | false =>
    refine safe_perform trivial fun _ => safe_bind ?_
    refine (free_safe (uses_embed (T := JobIO) (toJob_free id token) worker)).mono ?_
    rintro _ outcome rfl
    cases outcome with
    | error text => exact JobRegistry.finish_safe hid hfinished rfl
    | ok value =>
      refine safe_perform trivial fun cancelled => ?_
      cases cancelled with
      | true => exact JobRegistry.finish_safe hid hfinished rfl
      | false => exact JobRegistry.finish_safe hid hfinished rfl

/-- `cancel` answers yes only for the job it has marked. -/
def Truthful (call : JobCall) (s : JobLife) (answer : Option Bool) : Prop :=
  ∀ id, call = .cancel id → answer = some true → s.marked = some id

/-- **What a call does to jobs is permitted,** and its answer is truthful. -/
theorem program_safe (call : JobCall) :
    Safe jobLife permitted call.program newLife (Truthful call) := by
  cases call with
  | spawn kind worker =>
    refine safe_bind (Safe.mono (Q := fun _ _ => True) ?_ fun s _ _ => ?_)
    · refine safe_perform rfl fun id => ?_
      refine safe_perform trivial fun token => ?_
      refine safe_perform trivial fun _ => ?_
      refine safe_perform trivial fun _ => safe_bind ?_
      exact (runJob_safe rfl rfl).mono fun _ _ _ => safe_act trivial fun _ => trivial
    · exact safe_pure nofun
  | cancel id =>
    refine safe_bind ((JobRegistry.cancel_safe id).mono fun s answer hmarked => ?_)
    refine safe_pure ?_
    rintro id' hcall hanswer
    cases hcall
    exact hmarked (Option.some.inj hanswer)

/-! ## Fitting the records -/

/-- What a task has done fits the records. -/
structure JobLife.Fits (s : JobLife) (w : JobWorld) : Prop where
  issued : ∀ id, s.id = some id → id ∈ w.issued
  working : ∀ id, s.id = some id → s.finished = false → w.Working id
  seen : ∀ id, s.seen = some id → id ∈ w.issued
  marked : ∀ id, s.marked = some id → w.Cancelled id

theorem newLife_fits (w : JobWorld) : newLife.Fits w where
  issued _ h := nomatch h
  working _ h := nomatch h
  seen _ h := nomatch h
  marked _ h := nomatch h

/-- A job, if it bears a time of its end, bears one that a sweep spares: it is not before the
cutoff, and fewer than a hundred other jobs have ended at that time or later. -/
def Spared (w : JobWorld) (cutoff : DateTime) (id : JobId) : Prop :=
  ∀ job ∈ w.jobs.row id, ∀ finishedAt ∈ job.finishedAt,
    cutoff ≤ finishedAt ∧ (finishedSince w.finished id finishedAt).length < finishedCap

instance (w : JobWorld) (cutoff : DateTime) (id : JobId) : Decidable (Spared w cutoff id) :=
  inferInstanceAs (Decidable (∀ job ∈ w.jobs.row id, ∀ finishedAt ∈ job.finishedAt,
    cutoff ≤ finishedAt ∧ (finishedSince w.finished id finishedAt).length < finishedCap))

theorem Spared.not_swept {w : JobWorld} {cutoff : DateTime} {id : JobId}
    {entries : List (JobId × DateTime)} (h : Spared w cutoff id) (hsound : w.Sound)
    (hperm : entries.Perm w.finished) : id ∉ sweptIds cutoff entries := by
  intro hswept
  obtain ⟨t, ht⟩ := mem_sweptIds hswept
  obtain ⟨job, hjob, htime⟩ := JobWorld.mem_finished (hperm.subset ht)
  obtain ⟨hcutoff, hcap⟩ := h job hjob t htime
  have hnodup : (entries.map Prod.fst).Nodup :=
    (hperm.map Prod.fst).nodup_iff.mpr (JobWorld.finished_nodup hsound.nodup)
  have hcount : (finishedSince entries id t).length = (finishedSince w.finished id t).length :=
    (hperm.filter _).length_eq
  exact not_mem_sweptIds hnodup ht hcutoff (by rw [hcount]; exact hcap) hswept

namespace JobLife.Fits

variable {s : JobLife} {w w' : JobWorld} {e : JobAct} {r : e.Ans}

/-- A section that neither ends the task's job nor sweeps it keeps the fit. -/
theorem keep (h : s.Fits w) (hchange : JobChange w e r w') (hsound : w.Sound)
    (hends : EndsOnce w e)
    (hother : ∀ id status result error, e = .finishJob id status result error →
      s.id = some id → s.finished = true)
    (hspared : ∀ cutoff id, e = .sweepJobs cutoff → s.id = some id → s.finished = false →
      Spared w cutoff id) : s.Fits w' where
  issued id hid := hchange.issued (h.issued id hid)
  working id hid hfinished := by
    refine hchange.working hsound (h.working id hid hfinished) ?_ ?_
    · intro status result error he
      rw [hother _ _ _ _ he hid] at hfinished
      cases hfinished
    · intro cutoff entries he hperm
      exact (hspared _ _ he hid hfinished).not_swept hsound hperm
  seen id hid := hchange.issued (h.seen id hid)
  marked id hid := hchange.cancelled hsound hends (h.marked id hid)

/-- Once the job's end is reported, only that remains. -/
theorem finish (h : s.Fits w) : JobLife.Fits { s with finished := true } w where
  issued := h.issued
  working _ _ hfinished := nomatch hfinished
  seen := h.seen
  marked := h.marked

end JobLife.Fits

theorem free_of_leavesJobs {e : JobAct} (h : e.leavesJobs = true) : e.free := by
  cases e with
  | insert _ | finishJob _ _ _ _ | isCancellable _ | markCancelled _ => cases h
  | _ => trivial

theorem isCancellable_issued {w : JobWorld} {id : JobId} (hsound : w.Sound)
    (h : w.isCancellable id = true) : id ∈ w.issued := by
  rw [JobWorld.isCancellable] at h
  cases hrow : w.jobs.row id with
  | none =>
    rw [hrow] at h
    cases h
  | some job => exact (hsound.recorded id).mpr ⟨job, JobWorld.last_of_row hrow⟩

/-- A job that has not been reported as ended is cancelled once it has been marked. -/
theorem markCancelled_cancelled {w : JobWorld} {id : JobId} (hsound : w.Sound)
    (hissued : id ∈ w.issued)
    (hopen : ∀ job, w.last id = some job → job.status.reported = false) :
    (w.modify id (Job.cancel now)).Cancelled id := by
  obtain ⟨job, hjob⟩ := (hsound.recorded id).mp hissued
  cases hrow : w.jobs.row id with
  | some found =>
    have hreported := hopen found (JobWorld.last_of_row hrow)
    exact ⟨_, JobWorld.last_modify_of_row hrow, Job.cancel_cancelled hreported⟩
  | none =>
    have hterminal := hsound.dropped id job hrow hjob
    refine ⟨job, by rw [JobWorld.last_modify_of_not fun _ => hrow]; exact hjob, ?_⟩
    have hreported := hopen job hjob
    cases hstatus : job.status with
    | cancelled => rfl
    | pending | running =>
      rw [hstatus] at hterminal
      cases hterminal
    | succeeded | failed =>
      rw [hstatus] at hreported
      cases hreported

/-- **One section keeps the fit of the task that takes it.** -/
theorem JobLife.Fits.next {s : JobLife} {w w' : JobWorld} {e : JobAct} {r : e.Ans}
    (h : s.Fits w) (hok : permitted s e) (hchange : JobChange w e r w') (hsound : w.Sound)
    (hends : EndsOnce w e)
    (hopen : ∀ id, e = .markCancelled id → ∀ job, w.last id = some job →
      job.status.reported = false)
    (hspared : ∀ cutoff id, e = .sweepJobs cutoff → s.id = some id → s.finished = false →
      Spared w cutoff id) : (jobLife.next s e r : JobLife).Fits w' := by
  by_cases hfree : e.free
  · rw [jobLife_free r hfree]
    refine h.keep hchange hsound hends ?_ hspared
    rintro id status result error rfl
    exact hfree.elim
  · cases hchange with
    | leave hleaves _ _ _ => exact absurd (free_of_leavesJobs hleaves) hfree
    | sweep _ => exact absurd trivial hfree
    | @look id =>
      cases hfound : w.isCancellable id with
      | false => exact h
      | true =>
        refine ⟨h.issued, h.working, ?_, h.marked⟩
        rintro id' hid'
        cases hid'
        exact isCancellable_issued hsound hfound
    | @insert kind id now hfresh =>
      have hkeep : s.Fits (w.insert id kind now) :=
        h.keep (.insert hfresh) hsound hends nofun nofun
      refine ⟨?_, ?_, hkeep.seen, hkeep.marked⟩
      · rintro id' hid'
        cases hid'
        exact List.mem_append_right _ (List.mem_singleton_self id)
      · rintro id' hid' _
        cases hid'
        exact ⟨_, Table.row_put_self _ _ _, rfl⟩
    | @modify _ _ id f hf =>
      cases hf with
      | markRunning | recordProgress | appendLog => exact absurd trivial hfree
      | finishJob _ status result error now =>
        exact h.finish.keep (r := r) (.modify (.finishJob id status result error now)) hsound hends
          (fun _ _ _ _ _ _ => rfl) nofun
      | markCancelled _ now =>
        have hkeep := h.keep (r := r) (.modify (.markCancelled id now)) hsound hends nofun nofun
        refine ⟨hkeep.issued, hkeep.working, hkeep.seen, ?_⟩
        rintro id' hid'
        cases hid'
        exact markCancelled_cancelled hsound (h.seen id hok) (hopen id rfl)

/-! ## Runs -/

abbrev JobConfig := Config JobIO JobWorld JobCall (Option Bool)
abbrev JobLabel := Label JobIO JobWorld JobCall

/-- What a task has done to jobs. -/
def life (t : Task JobIO JobCall (Option Bool)) : JobLife := t.observed jobLife fun _ => newLife

/-- The job that a step marks as cancelled. -/
def marks : JobLabel → Option JobId
  | .receive _ (.markCancelled id) _ => some id
  | _ => none

/-- The cutoff of the sweep that a step makes. -/
def sweepCutoff : JobLabel → Option DateTime
  | .receive _ (.sweepJobs cutoff) _ => some cutoff
  | _ => none

/-- The end of a job does not come in between when a cancellation fires the token and marks
the record: the job that is marked has not been reported as ended. -/
def CancelsInTime (c : JobConfig) (l : JobLabel) : Prop :=
  ∀ id ∈ marks l, ∀ job ∈ c.world.last id, job.status.reported = false

/-- A sweep comes upon no working job that has been marked as cancelled for more than half an
hour, or before a hundred other jobs ended. -/
def SparesWorkers (c : JobConfig) (l : JobLabel) : Prop :=
  ∀ cutoff ∈ sweepCutoff l, ∀ t ∈ c.tasks, ∀ id ∈ (life t).id, (life t).finished = false →
    Spared c.world cutoff id

/-- Both. -/
def Undisturbed (c : JobConfig) (l : JobLabel) : Prop := CancelsInTime c l ∧ SparesWorkers c l

instance (c : JobConfig) (l : JobLabel) : Decidable (Undisturbed c l) :=
  inferInstanceAs (Decidable ((∀ id ∈ marks l, ∀ job ∈ c.world.last id,
    job.status.reported = false) ∧ ∀ cutoff ∈ sweepCutoff l, ∀ t ∈ c.tasks, ∀ id ∈ (life t).id,
      (life t).finished = false → Spared c.world cutoff id))

structure JobsInv (c : JobConfig) : Prop where
  sound : c.world.Sound
  fits : ∀ t ∈ c.tasks, (life t).Fits c.world
  apart : ∀ (i j : Nat) (t u : Task JobIO JobCall (Option Bool)) (id : JobId),
    c.tasks[i]? = some t → c.tasks[j]? = some u →
    (life t).id = some id → (life u).id = some id → i = j

section Step

variable {c : JobConfig} {i : Nat} {t : Task JobIO JobCall (Option Bool)} {e : JobAct}
  {k : e.Ans → Program JobIO (Option Bool)} {r : e.Ans} {w : JobWorld}

theorem JobsInv.endsOnce (h : JobsInv c) (ht : c.tasks[i]? = some t)
    (hok : permitted (life t) e) : EndsOnce c.world e := by
  rintro id status result error rfl
  obtain ⟨hid, hfinished, hstatus⟩ := hok
  exact ⟨(h.fits t (List.mem_of_getElem? ht)).working id hid hfinished, hstatus⟩

theorem life_act : life ⟨t.call, t.past ++ [⟨e, r⟩], k r⟩ = jobLife.next (life t) e r :=
  observed_act jobLife (fun _ => newLife) t e r (k r)

/-- Only the insertion of a new job gives a task its job. -/
theorem next_id {s : JobLife} {id : JobId} (h : (jobLife.next s e r : JobLife).id = some id)
    (hchange : JobChange c.world e r w) : s.id = some id ∨ id ∉ c.world.issued := by
  cases hchange with
  | leave hleaves _ _ _ =>
    rw [jobLife_free r (free_of_leavesJobs hleaves)] at h
    exact .inl h
  | @look id' =>
    cases hfound : c.world.isCancellable id' with
    | false =>
      rw [hfound] at h
      exact .inl h
    | true =>
      rw [hfound] at h
      exact .inl h
  | insert hfresh =>
    cases h
    exact .inr hfresh
  | modify hf =>
    cases hf with
    | markRunning | recordProgress | appendLog | finishJob | markCancelled => exact .inl h
  | sweep _ => exact .inl h

/-- **One section keeps the invariant.** -/
theorem JobsInv.perform (h : JobsInv c) (ht : c.tasks[i]? = some t) (hok : permitted (life t) e)
    (hanswer : c.world.answers e r w)
    (hopen : ∀ id, e = .markCancelled id → ∀ job, c.world.last id = some job →
      job.status.reported = false)
    (hspared : ∀ cutoff, e = .sweepJobs cutoff → ∀ u ∈ c.tasks, ∀ id, (life u).id = some id →
      (life u).finished = false → Spared c.world cutoff id) :
    JobsInv (c.afterAct i t e r k w) := by
  have hchange := answers_change hanswer
  have hends := h.endsOnce ht hok
  have hmem := List.mem_of_getElem? ht
  have hissued : ∀ {j : Nat} {u : Task JobIO JobCall (Option Bool)} {id : JobId},
      c.tasks[j]? = some u →
      (life u).id = some id → id ∈ c.world.issued :=
    fun hu hid => (h.fits _ (List.mem_of_getElem? hu)).issued _ hid
  refine ⟨hchange.sound h.sound hends, ?_, ?_⟩
  · intro u hu
    obtain ⟨j, hj⟩ := List.mem_iff_getElem?.mp hu
    rcases afterAct_task hj with ⟨rfl, rfl⟩ | ⟨hne, hold⟩
    · rw [life_act]
      exact (h.fits t hmem).next hok hchange h.sound hends hopen
        fun cutoff id he => hspared cutoff he t hmem id
    · have hu' := List.mem_of_getElem? hold
      refine (h.fits u hu').keep hchange h.sound hends ?_ fun cutoff id he => hspared
          cutoff he u hu' id
      rintro id status result error rfl hid
      exact absurd (h.apart _ _ _ _ _ hold ht hid hok.1) hne
  · intro j j' u u' id hu hu' hid hid'
    rcases afterAct_task hu with ⟨rfl, rfl⟩ | ⟨hne, hold⟩
    · rcases afterAct_task hu' with ⟨rfl, rfl⟩ | ⟨hne', hold'⟩
      · rfl
      · rw [life_act] at hid
        rcases next_id hid hchange with hid | hfresh
        · exact h.apart _ _ _ _ _ ht hold' hid hid'
        · exact absurd (hissued hold' hid') hfresh
    · rcases afterAct_task hu' with ⟨rfl, rfl⟩ | ⟨hne', hold'⟩
      · rw [life_act] at hid'
        rcases next_id hid' hchange with hid' | hfresh
        · exact h.apart _ _ _ _ _ hold ht hid hid'
        · exact absurd (hissued hold hid) hfresh
      · exact h.apart _ _ _ _ _ hold hold' hid hid'

end Step

/-- The invariant holds in every undisturbed run. -/
theorem Run.jobsInv {c : JobConfig} (h : Run jobSystem Undisturbed JobWorld.empty c) :
    JobsInv c := by
  refine h.invariant ?_ ?_
  · exact ⟨JobWorld.sound_empty, nofun, by simp⟩
  · intro c l c' hrun hinv hallowed hstep
    have hsafe : ∀ {i : Nat} {t : Task JobIO JobCall (Option Bool)} {e : JobAct}
        {k : e.Ans → Program JobIO (Option Bool)}, c.tasks[i]? = some t → t.rest = .act e k →
        permitted (life t) e := by
      intro i t e k ht hrest
      have hprogram : Safe jobLife permitted t.rest (life t) (Truthful t.call) :=
        hrun.safe ht (program_safe t.call)
      rw [hrest] at hprogram
      exact hprogram.1
    cases hstep with
    | @spawn call hidle =>
      refine ⟨hinv.sound, ?_, ?_⟩
      · intro u hu
        obtain ⟨j, hj⟩ := List.mem_iff_getElem?.mp hu
        rcases afterSpawn_task hj with ⟨_, rfl⟩ | hold
        · exact newLife_fits _
        · exact hinv.fits u (List.mem_of_getElem? hold)
      · intro j j' u u' id hu hu' hid hid'
        rcases afterSpawn_task hu with ⟨_, rfl⟩ | hold
        · cases hid
        · rcases afterSpawn_task hu' with ⟨_, rfl⟩ | hold'
          · cases hid'
          · exact hinv.apart _ _ _ _ _ hold hold' hid hid'
    | @act i t e k r w _ ht hrest hyields hanswer =>
      refine hinv.perform ht (hsafe ht hrest) hanswer ?_ ?_
      · rintro id rfl
        cases hyields
      · rintro cutoff rfl
        cases hyields
    | @receive i t e k r w _ ht hrest _ hanswer =>
      refine hinv.perform ht (hsafe ht hrest) hanswer ?_ ?_
      · rintro id rfl
        exact hallowed.1 id rfl
      · rintro cutoff rfl
        exact hallowed.2 cutoff rfl
    | send => exact ⟨hinv.sound, hinv.fits, hinv.apart⟩
    | finish => exact ⟨hinv.sound, hinv.fits, hinv.apart⟩
    | environment henv => exact henv.elim

/-! ## The life of a job -/

/-- The promises about every job, in one state of a run. -/
structure JobsSound (c : JobConfig) : Prop where
  /-- The time of the end is there exactly when the status is one to end with. -/
  finished : ∀ id job, c.world.last id = some job → job.finishedAt.isSome = job.status.terminal
  /-- A status to end with stays. -/
  final : ∀ l c', Step jobSystem c l c' → ∀ id job, c.world.last id = some job →
    job.status.terminal = true → ∃ job', c'.world.last id = some job' ∧ job'.status = job.status
  /-- A cancellation that was answered with yes has ended its job as cancelled. -/
  cancelled : ∀ t ∈ c.tasks, ∀ id, t.call = .cancel id → t.rest = .pure (some true) →
    c.world.Cancelled id
  /-- The record of a job is there as long as its worker has not ended it. -/
  kept : ∀ t ∈ c.tasks, ∀ id, (life t).id = some id → (life t).finished = false →
    (c.world.jobs.row id).isSome = true

/-- **The life of a job.**  In every run in which no job ends while a cancellation marks it,
and no sweep meets a worker that was cancelled long ago, all promises are kept. -/
theorem run_jobsSound {c : JobConfig} (h : Run jobSystem Undisturbed JobWorld.empty c) :
    JobsSound c := by
  have hinv := Run.jobsInv h
  have hsafe : ∀ {i : Nat} {t : Task JobIO JobCall (Option Bool)}, c.tasks[i]? = some t →
      Safe jobLife permitted t.rest (life t) (Truthful t.call) :=
    fun ht => h.safe ht (program_safe _)
  refine ⟨hinv.sound.consistent, ?_, ?_, ?_⟩
  · intro l c' hstep id job hjob hterminal
    have hperform : ∀ {i : Nat} {t : Task JobIO JobCall (Option Bool)} {e : JobAct}
        {k : e.Ans → Program JobIO (Option Bool)} {r : e.Ans} {w : JobWorld},
        c.tasks[i]? = some t → t.rest = .act e k → c.world.answers e r w →
        ∃ job', w.last id = some job' ∧ job'.status = job.status := by
      intro i t e k r w ht hrest hanswer
      have hok := hsafe ht
      rw [hrest] at hok
      exact (answers_change hanswer).status hinv.sound (hinv.endsOnce ht hok.1) hjob hterminal
    cases hstep with
    | spawn _ => exact ⟨job, hjob, rfl⟩
    | act _ ht hrest _ hanswer | receive _ ht hrest _ hanswer => exact hperform ht hrest hanswer
    | send _ _ _ _ => exact ⟨job, hjob, rfl⟩
    | finish _ _ _ => exact ⟨job, hjob, rfl⟩
    | environment henv => exact henv.elim
  · intro t ht id hcall hrest
    obtain ⟨i, hi⟩ := List.mem_iff_getElem?.mp ht
    have hreturned := hsafe hi
    rw [hrest] at hreturned
    exact (hinv.fits t ht).marked id (hreturned id hcall rfl)
  · intro t ht id hid hfinished
    obtain ⟨job, hrow, _⟩ := (hinv.fits t ht).working id hid hfinished
    rw [hrow]
    rfl

/-! ## Two scripted runs -/

/-- Answers at one time, and gives out identifiers in turn. -/
def jobPlayer (now : DateTime) : Player jobSystem where
  answer w
    | .insert kind =>
      if w.issued.length ∈ w.issued then none
      else some (w.issued.length, w.insert w.issued.length kind now)
    | .registerToken id => some (w.tokens, w.registerToken id)
    | .kindLock _ => some ((), w)
    | .lockKind kind =>
      if kind ∈ w.kindLocks then none
      else some ((), { w with kindLocks := kind :: w.kindLocks })
    | .unlockKind kind => some ((), { w with kindLocks := w.kindLocks.erase kind })
    | .isCancelled token => some (decide (token ∈ w.fired), w)
    | .markRunning id => some ((), w.modify id Job.markRunning)
    | .recordProgress id progress => some ((), w.modify id (Job.recordProgress progress))
    | .appendLog id line => some ((), w.modify id (Job.appendLog line))
    | .work => some (Value.null, w)
    | .finishJob id status result error =>
      some ((), w.modify id (Job.finish status result error now))
    | .removeToken id => some ((), { w with cancelTokens := w.cancelTokens.delete id })
    | .now => some (now, w)
    | .sweepJobs cutoff =>
      some (sweptIds cutoff w.finished, w.sweep (sweptIds cutoff w.finished))
    | .removeTokens ids =>
      some ((), { w with cancelTokens := ids.foldl Table.delete w.cancelTokens })
    | .isCancellable id => some (w.isCancellable id, w)
    | .fireToken id => some (w.fireToken id)
    | .markCancelled id => some ((), w.modify id (Job.cancel now))
  sound := by
    intro w e r w' h
    cases e with
    | insert kind =>
      by_cases hissued : w.issued.length ∈ w.issued
      · simp [hissued] at h
      · simp only [hissued] at h
        cases h
        exact ⟨hissued, now, rfl⟩
    | lockKind kind =>
      by_cases hheld : kind ∈ w.kindLocks
      · simp [hheld] at h
      · simp only [hheld] at h
        cases h
        exact ⟨hheld, rfl⟩
    | finishJob _ _ _ _ | markCancelled _ =>
      cases h
      exact ⟨now, rfl⟩
    | sweepJobs cutoff =>
      cases h
      exact ⟨w.finished, .refl _, rfl, rfl⟩
    | registerToken _ | isCancelled _ | isCancellable _ =>
      cases h
      exact ⟨rfl, rfl⟩
    | fireToken id => exact (Option.some.inj h).symm
    | kindLock _ | unlockKind _ | markRunning _ | recordProgress _ _ | appendLog _ _ | work
    | removeToken _ | now | removeTokens _ =>
      cases h
      rfl

/-- A worker that awaits something once. -/
def shortWorker : Worker := do
  let value ← perform (S := ContextIO) .work
  return .ok value

/-- The first `n` sections of the task of a job. -/
def started (n : Nat) : List (Move JobCall) :=
  .call (.spawn .kbSync shortWorker) :: List.replicate n (.resume 0)

/-- The job that a call is to cancel. -/
def JobCall.cancels : JobCall → Option JobId
  | .spawn _ _ => none
  | .cancel id => some id

theorem eq_cancel_of_cancels {call : JobCall} {id : JobId} (h : call.cancels = some id) :
    call = .cancel id := by
  cases call with
  | spawn kind worker => cases h
  | cancel id' =>
    cases h
    rfl

/-- What each task is to cancel and has answered, and the last status of the first job. -/
def jobOutcome (c : JobConfig) :
    List (Option JobId × Option (Option Bool)) × Option JobStatus :=
  (c.tasks.map fun t => (t.call.cancels, t.rest.value), (c.world.last 0).map Job.status)

/-- A job is cancelled while its worker waits, and the worker ends it. -/
theorem run_jobsSound_cancelled :
    ∃ c, Run jobSystem Undisturbed JobWorld.empty c ∧
      jobOutcome c = ([(none, some none), (some 0, some (some true))], some .cancelled) ∧
      JobsSound c := by
  have hplay : (play Undisturbed (jobPlayer newYear) 50 ⟨JobWorld.empty, [], none⟩
      (started 5 ++ [.call (.cancel 0), .resume 1, .resume 1, .resume 1] ++
        List.replicate 4 (.resume 0))).map jobOutcome =
      some ([(none, some none), (some 0, some (some true))], some .cancelled) := by
    decide +kernel
  obtain ⟨c, hc, houtcome⟩ := Option.map_eq_some_iff.mp hplay
  have hrun := play_run .start hc
  exact ⟨c, hrun, houtcome, run_jobsSound hrun⟩

/-- **A cancellation that cancels nothing.**  The worker ends its job as succeeded after
`cancel` has read that the job is running, and before `cancel` reads its token. -/
theorem run_jobs_not_sound :
    ¬ ∀ c, Run jobSystem (fun _ _ => True) JobWorld.empty c → JobsSound c := by
  intro hsound
  have hplay : (play (fun _ _ => True) (jobPlayer newYear) 50 ⟨JobWorld.empty, [], none⟩
      (started 6 ++ [.call (.cancel 0), .resume 1, .resume 0, .resume 1, .resume 1])).map
        jobOutcome = some ([(none, none), (some 0, some (some true))], some .succeeded) := by
    decide +kernel
  obtain ⟨c, hc, houtcome⟩ := Option.map_eq_some_iff.mp hplay
  obtain ⟨hanswers, hstatus⟩ := Prod.mk.inj houtcome
  have hcancel : (some 0, some (some true)) ∈ c.tasks.map
      fun t => (t.call.cancels, t.rest.value) := by
    rw [hanswers]
    simp
  obtain ⟨t, ht, htask⟩ := List.mem_map.mp hcancel
  obtain ⟨hcall, hvalue⟩ := Prod.mk.inj htask
  obtain ⟨job, hjob, hcancelled⟩ := (hsound c (play_run .start hc)).cancelled t ht 0
    (eq_cancel_of_cancels hcall) (eq_pure_of_value hvalue)
  rw [hjob] at hstatus
  have hsucceeded : job.status = .succeeded := Option.some.inj hstatus
  rw [hcancelled] at hsucceeded
  cases hsucceeded

end SnowAgent
