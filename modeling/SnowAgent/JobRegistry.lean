import Mathlib.Data.List.Nodup
import Mathlib.Order.Defs.LinearOrder
import SnowAgent.Interleaving
import SnowAgent.Primitives
import SnowAgent.Table

/-! # The job registry

A background job is a record of the registry, a cancellation token and a worker.  The
records and the tokens are behind locks of their own, which every call takes one after
the other; each section under a lock is one action here, and others run between two of
them.  A sweep at the end of every job drops the records that have been finished for
long.

What the sweeps have dropped is kept aside, so that the last status of a job can still
be spoken of.
-/
namespace SnowAgent

open Json

/-! ## Jobs -/

inductive JobKind where
  | kbSync
  | kbSyncFull
  | verifyVault
  | pruneOrphans
  | repairVault
  | refreshAll
  | semanticIndexRebuild
deriving DecidableEq

inductive JobStatus where
  | pending
  | running
  | succeeded
  | failed
  | cancelled
deriving DecidableEq

namespace JobStatus

/-- The statuses a job can be cancelled in. -/
def cancellable : JobStatus → Bool
  | pending | running => true
  | succeeded | failed | cancelled => false

/-- The statuses a job ends with. -/
def terminal (status : JobStatus) : Bool := !status.cancellable

/-- The statuses only a worker gives a job, at its end. -/
def reported : JobStatus → Bool
  | succeeded | failed => true
  | pending | running | cancelled => false

end JobStatus

structure JobProgress where
  current : Nat
  total : Option Nat
  stage : String
deriving DecidableEq

/-- The `Uuid` of a job. -/
abbrev JobId := Nat

structure Job where
  id : JobId
  kind : JobKind
  status : JobStatus
  startedAt : DateTime
  finishedAt : Option DateTime
  progress : Option JobProgress
  logTail : List String
  result : Option Value
  error : Option String
deriving DecidableEq

/-- `LOG_TAIL_CAP`. -/
def logTailCap : Nat := 200

/-- `FINISHED_RETENTION_SECS`. -/
def finishedRetentionSecs : Int := 30 * 60

/-- `FINISHED_CAP`. -/
def finishedCap : Nat := 100

namespace Job

/-- A new job. -/
def create (id : JobId) (kind : JobKind) (now : DateTime) : Job where
  id := id
  kind := kind
  status := .pending
  startedAt := now
  finishedAt := none
  progress := none
  logTail := []
  result := none
  error := none

/-- `mark_running` of the record. -/
def markRunning (job : Job) : Job :=
  if job.status = .pending then { job with status := .running } else job

/-- `record_progress` of the record. -/
def recordProgress (progress : JobProgress) (job : Job) : Job :=
  { job with progress := some progress }

/-- `append_log` of the record: a full tail loses its first line. -/
def appendLog (line : String) (job : Job) : Job :=
  { job with
    logTail :=
      (if job.logTail.length = logTailCap then job.logTail.drop 1 else job.logTail) ++ [line] }

/-- `finish` of the record: a cancelled job stays cancelled. -/
def finish (status : JobStatus) (result : Option Value) (error : Option String) (now : DateTime)
    (job : Job) : Job :=
  { job with
    status := if job.status ≠ .cancelled ∨ status = .cancelled then status else job.status
    finishedAt := some now
    result := result
    error := error }

/-- `cancel` of the record, once its token has fired. -/
def cancel (now : DateTime) (job : Job) : Job :=
  if job.status.cancellable then { job with status := .cancelled, finishedAt := some now }
  else job

/-- A job has a time of its end exactly when its status is one to end with. -/
def Consistent (job : Job) : Prop := job.finishedAt.isSome = job.status.terminal

theorem create_consistent (id : JobId) (kind : JobKind) (now : DateTime) :
    (create id kind now).Consistent := rfl

variable {job : Job}

theorem markRunning_consistent (h : job.Consistent) : job.markRunning.Consistent := by
  rw [markRunning]
  split_ifs with hpending
  · rw [Consistent, hpending] at h
    exact h
  · exact h

variable {now : DateTime} {result : Option Value} {error : Option String} {status : JobStatus}

theorem finish_consistent (hstatus : status.terminal = true) :
    (finish status result error now job).Consistent := by
  show true = (if job.status ≠ .cancelled ∨ status = .cancelled then status
    else job.status).terminal
  split_ifs with hkeep
  · exact hstatus.symm
  · have hcancelled : job.status = .cancelled := by
      by_contra hne
      exact hkeep (.inl hne)
    rw [hcancelled]
    rfl

theorem cancel_consistent (h : job.Consistent) : (cancel now job).Consistent := by
  rw [cancel]
  split_ifs
  · rfl
  · exact h

theorem markRunning_status (h : job.status.terminal = true) :
    job.markRunning.status = job.status := by
  rw [markRunning, if_neg]
  intro hpending
  rw [hpending] at h
  cases h

theorem finish_status (h : job.status.terminal = true) (hreported : job.status.reported = false) :
    (finish status result error now job).status = job.status := by
  have hcancelled : job.status = .cancelled := by
    cases hstatus : job.status with
    | cancelled => rfl
    | pending | running =>
      rw [hstatus] at h
      cases h
    | succeeded | failed =>
      rw [hstatus] at hreported
      cases hreported
  show (if job.status ≠ .cancelled ∨ status = .cancelled then status else job.status) = _
  split_ifs with hkeep
  · rcases hkeep with hne | heq
    · exact absurd hcancelled hne
    · rw [heq, hcancelled]
  · rfl

theorem cancel_status (h : job.status.terminal = true) : (cancel now job).status = job.status := by
  rw [cancel, if_neg]
  simpa [JobStatus.terminal] using h

theorem markRunning_reported (job : Job) :
    job.markRunning.status.reported = job.status.reported := by
  rw [markRunning]
  split_ifs with hpending
  · rw [hpending]
    rfl
  · rfl

theorem cancel_reported (now : DateTime) (job : Job) :
    (cancel now job).status.reported = job.status.reported := by
  rw [cancel]
  split_ifs with hcancellable
  · cases hstatus : job.status with
    | pending | running | cancelled => rfl
    | succeeded | failed =>
      rw [hstatus] at hcancellable
      cases hcancellable
  · rfl

/-- A job that has not been reported as ended is cancelled after a `cancel`. -/
theorem cancel_cancelled (h : job.status.reported = false) :
    (cancel now job).status = .cancelled := by
  rw [cancel]
  split_ifs with hcancellable
  · rfl
  · cases hstatus : job.status with
    | cancelled => rfl
    | pending | running =>
      rw [hstatus] at hcancellable
      exact absurd rfl hcancellable
    | succeeded | failed =>
      rw [hstatus] at h
      cases h

end Job

/-! ## Retention -/

/-- What a sweep removes of the finished jobs, in the order in which it comes upon them:
those finished before the cutoff, and of the others the oldest beyond the cap. -/
def sweptIds (cutoff : DateTime) (finished : List (JobId × DateTime)) : List JobId :=
  let retained := finished.filter fun entry => !(decide (entry.2 < cutoff))
  (finished.filter fun entry => entry.2 < cutoff).map Prod.fst ++
    if retained.length > finishedCap then
      ((retained.mergeSort fun a b => a.2 ≤ b.2).take (retained.length - finishedCap)).map Prod.fst
    else []

section Retention

variable {cutoff t : DateTime} {finished : List (JobId × DateTime)} {id : JobId}

theorem mem_sweptIds (h : id ∈ sweptIds cutoff finished) : ∃ t, (id, t) ∈ finished := by
  rw [sweptIds, List.mem_append] at h
  rcases h with h | h
  · obtain ⟨entry, hentry, rfl⟩ := List.mem_map.mp h
    exact ⟨entry.2, (List.mem_filter.mp hentry).1⟩
  · split_ifs at h
    · obtain ⟨entry, hentry, rfl⟩ := List.mem_map.mp h
      have hretained := List.mem_mergeSort.mp (List.mem_of_mem_take hentry)
      exact ⟨entry.2, (List.mem_filter.mp hretained).1⟩
    · cases h

/-- The jobs other than `id` that have finished at `t` or later. -/
def finishedSince (finished : List (JobId × DateTime)) (id : JobId) (t : DateTime) :
    List (JobId × DateTime) :=
  finished.filter fun entry => entry.1 ≠ id ∧ t ≤ entry.2

/-- What stands after an entry of a sorted list, and is not the entry's, is counted. -/
theorem length_drop_le_finishedSince {sorted : List (JobId × DateTime)} {n : Nat}
    (hsorted : sorted.Pairwise fun a b => a.2 ≤ b.2) (hnodup : (sorted.map Prod.fst).Nodup)
    (h : (id, t) ∈ sorted.take n) :
    (sorted.drop n).length ≤ (finishedSince sorted id t).length := by
  have hsplit : sorted.take n ++ sorted.drop n = sorted := List.take_append_drop n sorted
  have hcounted : ∀ entry ∈ sorted.drop n, entry.1 ≠ id ∧ t ≤ entry.2 := by
    intro entry hentry
    rw [← hsplit, List.map_append] at hnodup
    rw [← hsplit] at hsorted
    refine ⟨?_, (List.pairwise_append.mp hsorted).2.2 _ h _ hentry⟩
    rintro rfl
    exact (List.nodup_append.mp hnodup).2.2 _ (List.mem_map.mpr ⟨_, h, rfl⟩) _
      (List.mem_map.mpr ⟨_, hentry, rfl⟩) rfl
  have hself : (sorted.drop n).filter (fun entry => entry.1 ≠ id ∧ t ≤ entry.2) =
      sorted.drop n := List.filter_eq_self.mpr fun entry hentry => by simpa using hcounted entry hentry
  rw [← hself]
  exact ((List.drop_sublist n sorted).filter _).length_le

theorem Nodup.fst_inj (hnodup : (finished.map Prod.fst).Nodup) {t' : DateTime}
    (h : (id, t) ∈ finished) (h' : (id, t') ∈ finished) : t = t' := by
  have heq := List.inj_on_of_nodup_map hnodup h h' rfl
  exact congrArg Prod.snd heq

/-- **What a sweep spares.**  A job that finished since the cutoff, with fewer than a
hundred others at its time or later, stays. -/
theorem not_mem_sweptIds (hnodup : (finished.map Prod.fst).Nodup) (h : (id, t) ∈ finished)
    (hcutoff : cutoff ≤ t) (hcap : (finishedSince finished id t).length < finishedCap) :
    id ∉ sweptIds cutoff finished := by
  intro hswept
  rw [sweptIds, List.mem_append] at hswept
  rcases hswept with hswept | hswept
  · obtain ⟨entry, hentry, rfl⟩ := List.mem_map.mp hswept
    obtain ⟨hmem, hexpired⟩ := List.mem_filter.mp hentry
    have ht := Nodup.fst_inj hnodup h hmem
    have hlt : entry.2 < cutoff := by simpa using hexpired
    rw [← ht] at hlt
    exact absurd hcutoff (not_le.mpr hlt)
  · split_ifs at hswept with hfull
    · obtain ⟨entry, hentry, rfl⟩ := List.mem_map.mp hswept
      set retained := finished.filter fun entry => !(decide (entry.2 < cutoff)) with hretained
      have hperm := List.mergeSort_perm retained fun a b => a.2 ≤ b.2
      have hsub : retained.Sublist finished := List.filter_sublist
      have hmem : entry ∈ finished := hsub.subset (hperm.subset (List.mem_of_mem_take hentry))
      have ht := Nodup.fst_inj hnodup h hmem
      have hsorted : (retained.mergeSort fun a b => a.2 ≤ b.2).Pairwise fun a b => a.2 ≤ b.2 := by
        refine (@List.pairwise_mergeSort _ (fun a b => a.2 ≤ b.2) ?_ ?_ retained).imp ?_
        · intro a b c hab hbc
          simp only [decide_eq_true_eq] at hab hbc ⊢
          exact le_trans hab hbc
        · intro a b
          simp only [Bool.or_eq_true, decide_eq_true_eq]
          exact le_total a.2 b.2
        · intro a b hab
          simpa using hab
      have hdrop := length_drop_le_finishedSince hsorted
        ((hperm.map Prod.fst).nodup_iff.mpr ((hsub.map Prod.fst).nodup hnodup)) hentry
      have hcount : (finishedSince (retained.mergeSort fun a b => a.2 ≤ b.2) entry.1 entry.2).length ≤
          (finishedSince finished entry.1 entry.2).length :=
        ((hperm.filter _).length_eq.trans_le (hsub.filter _).length_le)
      rw [List.length_drop, List.length_mergeSort] at hdrop
      rw [ht] at hcap
      omega
    · cases hswept

end Retention

end SnowAgent
