import SnowAgent.Primitives
import Mathlib.Data.List.Basic

/-! # The windows of incremental refreshes

An incremental refresh asks for what changed after the mark of the last one and up to its own
end.  It commits the latest change it saw in that window, or the end itself when it saw
none, and the next refresh starts there.  A refresh never commits more than its end, so the
next window starts no later than this one ends.
-/
namespace SnowAgent

/-! ## Checkpoints -/

structure SyncWindow where
  lowerExclusive : DateTime
  upperInclusive : DateTime
deriving DecidableEq

/-- `SyncWindow::contains`. -/
def SyncWindow.contains (window : SyncWindow) (value : DateTime) : Bool :=
  decide (window.lowerExclusive < value) && decide (value ≤ window.upperInclusive)

structure RefreshCheckpoint where
  window : SyncWindow
  observedHighWatermark : DateTime
deriving DecidableEq

structure SyncStateRow where
  resourceType : String
  lastFull : Option DateTime
  lastIncr : Option DateTime
  highWatermark : Option DateTime
  cursor : Option String
  filterHash : Option String
deriving DecidableEq

namespace RefreshCheckpoint

/-- `RefreshCheckpoint::new`. -/
def new (window : SyncWindow) : RefreshCheckpoint := ⟨window, window.upperInclusive⟩

/-- `from_sync_state`. -/
def fromSyncState (lastIncr : Option DateTime) (windowEnd : DateTime) : RefreshCheckpoint :=
  new ⟨lastIncr.getD windowEnd, windowEnd⟩

/-- `observe`. -/
def observe (checkpoint : RefreshCheckpoint) (value : DateTime) : Bool :=
  checkpoint.window.contains value

/-- `commit_high_watermark`. -/
def commitHighWatermark (checkpoint : RefreshCheckpoint) : DateTime :=
  checkpoint.observedHighWatermark

/-- `to_sync_state_row`. -/
def toSyncStateRow (checkpoint : RefreshCheckpoint) (resourceType : String)
    (lastFull : Option DateTime) (cursor filterHash : Option String) : SyncStateRow where
  resourceType := resourceType
  lastFull := lastFull
  lastIncr := some checkpoint.commitHighWatermark
  highWatermark := some checkpoint.observedHighWatermark
  cursor := cursor
  filterHash := filterHash

end RefreshCheckpoint

structure WatermarkTracker where
  checkpoint : RefreshCheckpoint
  observedMax : Option DateTime

namespace WatermarkTracker

/-- `WatermarkTracker::new`. -/
def new (checkpoint : RefreshCheckpoint) : WatermarkTracker := ⟨checkpoint, none⟩

/-- `record_observation`. -/
def recordObservation (tracker : WatermarkTracker) (value : DateTime) : WatermarkTracker × Bool :=
  if tracker.checkpoint.observe value then
    ({ tracker with
        observedMax := some ((tracker.observedMax.map fun current => max current value).getD value) },
      true)
  else (tracker, false)

/-- The tracker after it was given values in order. -/
def recordAll (tracker : WatermarkTracker) (values : List DateTime) : WatermarkTracker :=
  values.foldl (fun tracker value => (tracker.recordObservation value).1) tracker

/-- `finalize`. -/
def finalize (tracker : WatermarkTracker) : RefreshCheckpoint :=
  match tracker.observedMax with
  | some latest => { tracker.checkpoint with observedHighWatermark := latest }
  | none => tracker.checkpoint

end WatermarkTracker

/-! ## Refreshes -/

/-- One incremental refresh: the end of its window, what it observes in order, and what else
it saves. -/
structure SyncRun where
  windowEnd : DateTime
  observations : List DateTime
  resourceType : String
  lastFull : Option DateTime
  cursor : Option String
  filterHash : Option String

/-- How a saved row is read back: as it is, or from the store, which keeps whole seconds. -/
inductive Keeping where
  | row
  | store

/-- The instant that is read back for one that was saved. -/
def Keeping.mark : Keeping → DateTime → DateTime
  | .row, t => t
  | .store, t => durationSeconds (timestampSeconds t)

/-- The row that is read back. -/
def Keeping.read (keeping : Keeping) (row : SyncStateRow) : SyncStateRow :=
  { row with
    lastFull := row.lastFull.map keeping.mark
    lastIncr := row.lastIncr.map keeping.mark
    highWatermark := row.highWatermark.map keeping.mark }

/-- The checkpoint of a refresh after the row saved before it, with all it has observed. -/
def SyncRun.finalized (previous : Option SyncStateRow) (run : SyncRun) : RefreshCheckpoint :=
  ((WatermarkTracker.new (.fromSyncState (previous.bind SyncStateRow.lastIncr)
    run.windowEnd)).recordAll run.observations).finalize

/-- The row a refresh saves. -/
def SyncRun.saved (run : SyncRun) (checkpoint : RefreshCheckpoint) : SyncStateRow :=
  checkpoint.toSyncStateRow run.resourceType run.lastFull run.cursor run.filterHash

variable (keeping : Keeping)

/-- The checkpoints of refreshes that follow one another. -/
def finalizedRuns (previous : Option SyncStateRow) : List SyncRun → List RefreshCheckpoint
  | [] => []
  | run :: runs =>
    run.finalized previous ::
      finalizedRuns (some (keeping.read (run.saved (run.finalized previous)))) runs

/-! ## One refresh -/

theorem SyncWindow.contains_iff {window : SyncWindow} {value : DateTime} :
    window.contains value = true ↔
      window.lowerExclusive < value ∧ value ≤ window.upperInclusive := by
  rw [SyncWindow.contains, Bool.and_eq_true, decide_eq_true_eq, decide_eq_true_eq]

/-- The tracker keeps its checkpoint, and the latest it has seen is in the window. -/
structure WatermarkTracker.Within (checkpoint : RefreshCheckpoint) (tracker : WatermarkTracker) :
    Prop where
  kept : tracker.checkpoint = checkpoint
  observed : ∀ latest ∈ tracker.observedMax, checkpoint.window.contains latest = true

namespace WatermarkTracker

variable {checkpoint : RefreshCheckpoint} {tracker : WatermarkTracker}

theorem Within.record (h : tracker.Within checkpoint) (value : DateTime) :
    (tracker.recordObservation value).1.Within checkpoint := by
  rw [recordObservation, h.kept]
  by_cases hin : checkpoint.observe value = true
  · rw [if_pos hin]
    refine ⟨rfl, ?_⟩
    rintro latest hlatest
    obtain rfl := Option.mem_some_iff.mp hlatest
    cases hmax : tracker.observedMax with
    | none => exact hin
    | some current =>
      -- the later of two instants of the window is in the window
      have hcurrent := h.observed current hmax
      rw [Option.map_some, Option.getD_some]
      rcases max_choice current value with hmax | hmax
      · rw [hmax]
        exact hcurrent
      · rw [hmax]
        exact hin
  · rw [if_neg hin]
    exact h

theorem Within.recordAll (h : tracker.Within checkpoint) (values : List DateTime) :
    (tracker.recordAll values).Within checkpoint := by
  induction values generalizing tracker with
  | nil => exact h
  | cons value values ih => exact ih (h.record value)

theorem finalize_none (h : tracker.observedMax = none) : tracker.finalize = tracker.checkpoint := by
  rw [finalize, h]

theorem finalize_some {latest : DateTime} (h : tracker.observedMax = some latest) :
    tracker.finalize = { tracker.checkpoint with observedHighWatermark := latest } := by
  rw [finalize, h]

end WatermarkTracker

variable (previous : Option SyncStateRow) (run : SyncRun)

/-- **One refresh**: its window starts at the mark before it and ends at its end; what it
commits is no later, and no earlier than its start when that is not after its end. -/
theorem SyncRun.finalized_spec :
    (run.finalized previous).window =
        ⟨(previous.bind SyncStateRow.lastIncr).getD run.windowEnd, run.windowEnd⟩ ∧
      (run.finalized previous).commitHighWatermark ≤ run.windowEnd ∧
        ∀ mark ∈ previous.bind SyncStateRow.lastIncr, mark ≤ run.windowEnd →
          mark ≤ (run.finalized previous).commitHighWatermark := by
  have hstart : (WatermarkTracker.new (.fromSyncState (previous.bind SyncStateRow.lastIncr)
      run.windowEnd)).Within (.fromSyncState (previous.bind SyncStateRow.lastIncr)
        run.windowEnd) := ⟨rfl, fun _ h => by cases h⟩
  have hwithin := hstart.recordAll run.observations
  rw [SyncRun.finalized]
  cases hmax : ((WatermarkTracker.new (.fromSyncState (previous.bind SyncStateRow.lastIncr)
      run.windowEnd)).recordAll run.observations).observedMax with
  | none =>
    rw [WatermarkTracker.finalize_none hmax, hwithin.kept]
    exact ⟨rfl, le_refl _, fun _ _ hle => hle⟩
  | some latest =>
    obtain ⟨hlower, hupper⟩ := SyncWindow.contains_iff.mp (hwithin.observed latest hmax)
    rw [WatermarkTracker.finalize_some hmax, hwithin.kept]
    refine ⟨rfl, hupper, fun mark hmark _ => ?_⟩
    have hmark' : (previous.bind SyncStateRow.lastIncr).getD run.windowEnd = mark := by
      rw [Option.mem_def.mp hmark, Option.getD_some]
    exact le_of_lt (hmark' ▸ hlower)

/-! ## Refreshes that follow one another -/

variable {runs : List SyncRun} (t : DateTime)

theorem Keeping.mark_le : keeping.mark t ≤ t := by
  cases keeping with
  | row => exact le_refl t
  | store =>
    show timestampSeconds t * 1000000000 ≤ t
    rw [timestampSeconds]
    omega

theorem Keeping.mark_mono {t t' : DateTime} (h : t ≤ t') : keeping.mark t ≤ keeping.mark t' := by
  cases keeping with
  | row => exact h
  | store =>
    show timestampSeconds t * 1000000000 ≤ timestampSeconds t' * 1000000000
    rw [timestampSeconds, timestampSeconds]
    have hdiv := Int.ediv_le_ediv (show (0 : Int) < 1000000000 by decide) h
    omega

theorem Keeping.mark_mark : keeping.mark (keeping.mark t) = keeping.mark t := by
  cases keeping with
  | row => rfl
  | store =>
    show timestampSeconds (timestampSeconds t * 1000000000) * 1000000000 = _
    rw [timestampSeconds, Int.mul_ediv_cancel _ (by decide)]
    rfl

/-- The mark the next refresh starts at. -/
def SyncRun.nextMark (previous : Option SyncStateRow) (run : SyncRun) : DateTime :=
  keeping.mark (run.finalized previous).commitHighWatermark

theorem lastIncr_saved :
    (some (keeping.read (run.saved (run.finalized previous)))).bind SyncStateRow.lastIncr =
      some (run.nextMark keeping previous) := rfl

/-- The ends of the refreshes do not go back. -/
def EndsInOrder (runs : List SyncRun) : Prop := runs.Pairwise fun a b => a.windowEnd ≤ b.windowEnd

theorem nextMark_le {previous : Option SyncStateRow} {run : SyncRun} :
    run.nextMark keeping previous ≤ run.windowEnd :=
  le_trans (keeping.mark_le _) (run.finalized_spec previous).2.1

/-- No refresh commits more than its end. -/
theorem commits_le (runs : List SyncRun) :
    List.Forall₂ (fun checkpoint run => checkpoint.commitHighWatermark ≤ run.windowEnd)
      (finalizedRuns keeping previous runs) runs := by
  induction runs generalizing previous with
  | nil => exact .nil
  | cons run runs ih => exact .cons (run.finalized_spec previous).2.1 (ih _)

/-- No refresh after a mark commits less, when the mark is not after their ends. -/
theorem mark_le_commits {previous : Option SyncStateRow} {mark : DateTime}
    (hmark : previous.bind SyncStateRow.lastIncr = some mark) (hkept : keeping.mark mark = mark)
    (hends : EndsInOrder runs) (hle : ∀ run ∈ runs, mark ≤ run.windowEnd) :
    ∀ checkpoint ∈ finalizedRuns keeping previous runs,
      mark ≤ keeping.mark checkpoint.commitHighWatermark := by
  induction runs generalizing previous mark with
  | nil => exact fun _ h => by cases h
  | cons run runs ih =>
    have hfirst : mark ≤ run.nextMark keeping previous := by
      have hcommit := (run.finalized_spec previous).2.2 mark hmark (hle run List.mem_cons_self)
      exact hkept ▸ keeping.mark_mono hcommit
    intro checkpoint hcheckpoint
    rcases List.mem_cons.mp hcheckpoint with rfl | hlater
    · exact hfirst
    · obtain ⟨hbefore, hrest⟩ := List.pairwise_cons.mp hends
      refine le_trans hfirst (ih (lastIncr_saved keeping previous run) (keeping.mark_mark _) hrest
        (fun later hmem => le_trans (nextMark_le keeping) (hbefore later hmem)) _ hlater)

/-- The marks do not go back. -/
theorem marks_pairwise (hends : EndsInOrder runs) :
    ((finalizedRuns keeping previous runs).map fun checkpoint =>
      keeping.mark checkpoint.commitHighWatermark).Pairwise (· ≤ ·) := by
  induction runs generalizing previous with
  | nil => exact .nil
  | cons run runs ih =>
    obtain ⟨hbefore, hrest⟩ := List.pairwise_cons.mp hends
    rw [finalizedRuns, List.map_cons, List.pairwise_cons]
    refine ⟨?_, ih _ hrest⟩
    rintro mark hmark
    obtain ⟨checkpoint, hcheckpoint, rfl⟩ := List.mem_map.mp hmark
    exact mark_le_commits keeping (lastIncr_saved keeping previous run) (keeping.mark_mark _) hrest
      (fun later hmem => le_trans (nextMark_le keeping) (hbefore later hmem)) _ hcheckpoint

/-- Every instant after the first start and up to the last end is in a window. -/
theorem windows_cover {first last : SyncRun} (hfirst : runs.head? = some first)
    (hlast : runs.getLast? = some last) {t : DateTime}
    (hstart : (previous.bind SyncStateRow.lastIncr).getD first.windowEnd < t)
    (hend : t ≤ last.windowEnd) :
    ∃ checkpoint ∈ finalizedRuns keeping previous runs, checkpoint.window.contains t = true := by
  induction runs generalizing previous first with
  | nil => cases hfirst
  | cons run runs ih =>
    obtain rfl : run = first := Option.some.inj hfirst
    by_cases hin : t ≤ run.windowEnd
    · refine ⟨run.finalized previous, List.mem_cons_self, ?_⟩
      rw [(run.finalized_spec previous).1, SyncWindow.contains_iff]
      exact ⟨hstart, hin⟩
    · cases runs with
      | nil =>
        obtain rfl : run = last := by simpa using hlast
        exact absurd hend hin
      | cons next runs =>
        -- the next window starts no later than this one ends
        have hnext : run.nextMark keeping previous < t :=
          lt_of_le_of_lt (nextMark_le keeping) (not_le.mp hin)
        obtain ⟨checkpoint, hmem, hcontains⟩ :=
          ih (some (keeping.read (run.saved (run.finalized previous))))
            (show (next :: runs).head? = some next from rfl)
            (by rwa [List.getLast?_cons_cons] at hlast)
            (by rw [lastIncr_saved]; exact hnext)
        exact ⟨checkpoint, List.mem_cons_of_mem _ hmem, hcontains⟩

/-- **Incremental windows leave no gap.**  For refreshes whose ends do not go back, after any
saved row: the marks do not go back, and start no earlier than a saved mark that is not
after the first end; no refresh commits more than its end; and every instant after the
first window's start and up to the last end is in a window. -/
theorem incremental_windows (previous : Option SyncStateRow) {runs : List SyncRun}
    (hends : EndsInOrder runs) :
    ((finalizedRuns keeping previous runs).map fun checkpoint =>
        keeping.mark checkpoint.commitHighWatermark).Pairwise (· ≤ ·) ∧
      (∀ mark, previous.bind SyncStateRow.lastIncr = some mark → keeping.mark mark = mark →
        (∀ first ∈ runs.head?, mark ≤ first.windowEnd) →
        ∀ checkpoint ∈ finalizedRuns keeping previous runs,
          mark ≤ keeping.mark checkpoint.commitHighWatermark) ∧
      List.Forall₂ (fun checkpoint run => checkpoint.commitHighWatermark ≤ run.windowEnd)
        (finalizedRuns keeping previous runs) runs ∧
      ∀ start ∈ (finalizedRuns keeping previous runs).head?, ∀ last ∈ runs.getLast?,
        ∀ t, start.window.lowerExclusive < t → t ≤ last.windowEnd →
          ∃ checkpoint ∈ finalizedRuns keeping previous runs,
            checkpoint.window.contains t = true := by
  refine ⟨marks_pairwise keeping previous hends, ?_, commits_le keeping previous runs, ?_⟩
  · intro mark hmark hkept hfirst
    refine mark_le_commits keeping hmark hkept hends fun run hrun => ?_
    cases runs with
    | nil => cases hrun
    | cons first runs =>
      have hle := hfirst first rfl
      rcases List.mem_cons.mp hrun with rfl | hrun
      · exact hle
      · exact le_trans hle ((List.pairwise_cons.mp hends).1 run hrun)
  · intro start hstart last hlast t hlower hupper
    cases runs with
    | nil => cases hlast
    | cons first runs =>
      obtain rfl : first.finalized previous = start := Option.some.inj hstart
      rw [(first.finalized_spec previous).1] at hlower
      exact windows_cover keeping previous rfl hlast hlower hupper

/-- A refresh of the incidents, which ends and observes at some seconds. -/
def incidentRun (windowEnd : Int) (observations : List Int) : SyncRun where
  windowEnd := durationSeconds windowEnd
  observations := observations.map durationSeconds
  resourceType := "incident"
  lastFull := none
  cursor := none
  filterHash := none

/-- A refresh that finds nothing, one that finds a change, and one after it. -/
def threeRuns : List SyncRun := [incidentRun 100 [], incidentRun 200 [150, 250], incidentRun 200 []]

example : (finalizedRuns .store none threeRuns).map (·.commitHighWatermark) =
    [100, 150, 200].map durationSeconds := by decide

/-- Nothing is lost between the three. -/
theorem incremental_windows_three :
    ((finalizedRuns .store none threeRuns).map fun checkpoint =>
        Keeping.store.mark checkpoint.commitHighWatermark).Pairwise (· ≤ ·) ∧
      ∃ checkpoint ∈ finalizedRuns .store none threeRuns,
        checkpoint.window.contains (durationSeconds 101) = true := by
  have hends : EndsInOrder threeRuns := by
    simp [EndsInOrder, threeRuns, incidentRun, durationSeconds]
  have hwindows := incremental_windows .store none hends
  refine ⟨hwindows.1, ?_⟩
  exact hwindows.2.2.2 _ rfl (incidentRun 200 []) rfl (durationSeconds 101) (by decide) (by decide)

end SnowAgent
