import SnowAgent.BulkRuns
import SnowAgent.ChangeRuns
import SnowAgent.ResourcePlanVersions
import SnowAgent.TimecardRuns

/-! # Kill switches

Five families of writes look at their kill switches before anything else.  Whatever the other
calls do, a call of theirs that has not read of each switch that it is off neither writes to
the site nor consumes its token.
-/
namespace SnowAgent

open Json Interleaving Program

/-- **The handlers with kill switches**, and the variables that switch them off whatever the
others are: a second one of Timecards counts only where the first is unset. -/
inductive Switched (lib : ResourcePlanWrite.PlanLib) (state : DaemonState) :
    Handler JsonRpcResponse → List String → Prop
  | story (tool : String) (params : Value) :
    Switched lib state (StoryWrite.handleStoryApply state tool params)
      ["SNOW_STORY_WRITE_KILL_SWITCH"]
  | change (tool : String) (params : Value) :
    Switched lib state (ChangeWrite.handleChangeApply state tool params)
      ["SNOW_CHANGE_WRITE_KILL_SWITCH", "SNOW_INCIDENT_WRITE_KILL_SWITCH",
        "SNOW_MCP_WRITE_KILL_SWITCH"]
  | resourcePlan (tool : String) (params : Value) :
    Switched lib state (ResourcePlanWrite.handleResourcePlanApply lib state tool params)
      ["SNOW_RESOURCE_PLAN_WRITE_KILL_SWITCH"]
  | bulk (params : Except String BulkWrite.BulkApplyRequest) :
    Switched lib state (BulkWrite.handleApply state params)
      ["SNOW_INCIDENT_WRITE_KILL_SWITCH", "SNOW_MCP_WRITE_KILL_SWITCH"]
  | timecard (parseTimeValue : String → Option String) (params : Value) :
    Switched lib state (TimecardWrite.handleTimecardApplySetHours state parseTimeValue params)
      ["SNOW_TIMECARD_WRITE_KILL_SWITCH"]

/-- The variable switches off whenever it is read. -/
def FoundSet (name : String) : (e : DaemonAct) → e.Ans → Prop
  | .envVar name', value => name' = name → killSwitchSet value = true
  | _, _ => True

/-- Of each variable it has been read that it does not switch off. -/
def ReadOff (names : List String) (past : List (Event DaemonIO)) : Prop :=
  ∀ name ∈ names, ∃ value, (⟨.envVar name, value⟩ : Event DaemonIO) ∈ past ∧
    killSwitchSet value = false

section Found

variable {A B : Type} {name : String} {names : List String}

/-- A part of a call that stays calm where the variable is found set. -/
abbrev StaysCalm (name : String) (R : A → Prop) (p : Handler A) : Prop :=
  Program.Given (S := DaemonIO) (FoundSet name) calm R p

/-- One of the variables is found set, at the latest. -/
theorem anyKillSwitch_found (hname : name ∈ names) :
    StaysCalm name (· = true) (anyKillSwitch names) := by
  induction names with
  | nil => cases hname
  | cons first names ih =>
    refine given_perform trivial fun value hvalue => ?_
    by_cases hset : killSwitchSet value = true
    · rw [if_pos hset]
      exact given_pure rfl
    · rw [if_neg hset]
      refine ih ((List.mem_cons.mp hname).resolve_left ?_)
      rintro rfl
      exact hset (hvalue rfl)

/-- A gate that turns every call away calmly, where the variable is found set. -/
abbrev TurnsAway (name : String) (gate : Gate A) : Prop :=
  gate.Given (FoundSet name) calm (fun _ => True) fun _ => False

/-- A call whose gate turns it away at first stays calm. -/
theorem TurnsAway.calm {gate : Gate A} (h : TurnsAway name gate) (f : A → Gate B)
    (next : B → Handler JsonRpcResponse) :
    StaysCalm name (fun _ => True) ((gate >>= f).enter next) := by
  have hturns : TurnsAway name (gate >>= f) := Gate.given_bind h fun _ => False.elim
  exact Gate.given_enter hturns fun _ => False.elim

theorem turnsAway_doing {switched : Handler Bool} {f : Bool → Gate A}
    (h : StaysCalm name (· = true) switched) (hf : TurnsAway name (f true)) :
    TurnsAway name (Gate.doing switched >>= f) :=
  Gate.given_bind (Gate.given_doing h) fun _ hoff => hoff ▸ hf

theorem turnsAway_switchedOn {switched : Handler Bool} {refuse : Refuse}
    (h : StaysCalm name (· = true) switched)
    (hrefuse : ∀ code message data status, CalmRefusal (refuse code message data status)) :
    TurnsAway name (requireSwitchedOn refuse switched) :=
  turnsAway_doing h (Gate.given_answer (hrefuse _ _ _ _).calm.given)

/-- A call of the families stays calm where one of its variables is found set. -/
theorem Switched.staysCalm {lib : ResourcePlanWrite.PlanLib} {state : DaemonState}
    {p : Handler JsonRpcResponse} (h : Switched lib state p names) (hname : name ∈ names) :
    StaysCalm name (fun _ => True) p := by
  have hfound := anyKillSwitch_found hname
  cases h with
  | story tool params =>
    obtain rfl := List.mem_singleton.mp hname
    refine given_perform trivial fun value hvalue => ?_
    rw [if_pos (hvalue rfl)]
    exact ((StoryWrite.routine_auditedStoryError state _ _ _ _).mono (fun _ => calm_of_routine)
      fun _ _ => trivial).given
  | change tool params =>
    exact (turnsAway_switchedOn hfound (ChangeWrite.calm_auditedChangeError state tool)).calm _ _
  | resourcePlan tool params =>
    exact (turnsAway_switchedOn hfound (ResourcePlanWrite.calm_auditedError state tool)).calm _ _
  | bulk params =>
    have hdenied : TurnsAway name (BulkWrite.requireWritable state) :=
      turnsAway_doing hfound (Gate.given_bind (Gate.given_answer (given_pure trivial))
        fun _ => False.elim)
    exact hdenied.calm _ _
  | timecard parseTimeValue params =>
    have hset : StaysCalm name (· = true) TimecardWrite.isKillSwitched := by
      refine given_perform trivial fun value hvalue => ?_
      obtain rfl := List.mem_singleton.mp hname
      cases value with
      | none => cases hvalue rfl
      | some value => exact given_pure (hvalue rfl)
    exact (turnsAway_switchedOn hset (TimecardWrite.calm_auditedTimecardError state)).calm _ _

end Found

/-- **Kill switches hold.**  In every run, of any calls, a call of the five families has read of
each of its switches that it is off before it writes, consumes its token or stores a plan. -/
theorem kill_switches_hold {Call : Type} {crates : Crates} {handle : Call → Handler JsonRpcResponse}
    {allowed : Config DaemonIO World Call JsonRpcResponse → Label DaemonIO World Call → Prop}
    {world : World} {c : Config DaemonIO World Call JsonRpcResponse}
    (hrun : Run (daemon crates handle) allowed world c) {i : Nat}
    {t : Task DaemonIO Call JsonRpcResponse} (ht : c.tasks[i]? = some t)
    {lib : ResourcePlanWrite.PlanLib} {state : DaemonState} {names : List String}
    (hswitched : Switched lib state (handle t.call) names) :
    (∀ ev ∈ t.past, ¬ calm ev.1 → ReadOff names t.past) ∧
      ∀ e k, t.rest = .act e k → ¬ calm e → ReadOff names t.past := by
  -- a variable that has not been read so has been found set
  have hcalm : ¬ ReadOff names t.past → (∀ ev ∈ t.past, calm ev.1) ∧
      ∃ name, StaysCalm name (fun _ => True) t.rest := by
    intro hnot
    simp only [ReadOff, not_forall, not_exists, not_and] at hnot
    obtain ⟨name, hname, hset⟩ := hnot
    obtain ⟨hpast, hrest⟩ := hrun.given ht (hswitched.staysCalm hname) (by
      rintro ⟨e, r⟩ hev
      cases e with
      | envVar name' =>
        rintro rfl
        exact Bool.not_eq_false _ ▸ hset r hev
      | _ => trivial)
    exact ⟨hpast, name, hrest⟩
  constructor
  · intro ev hev hwild
    by_contra hnot
    exact hwild ((hcalm hnot).1 ev hev)
  · intro e k hrest hwild
    by_contra hnot
    obtain ⟨_, name, hstays⟩ := hcalm hnot
    rw [hrest] at hstays
    exact hwild hstays.1

namespace ChangeWrite

/-- A Change call that has written. -/
theorem kill_switches_hold_change :
    ∃ c t, Run (daemon changeState.crates (handleChange changeState)) (fun _ _ => True)
        plannedWorld c ∧
      c.tasks[0]? = some t ∧ t.past.any wrote = true ∧
      ReadOff ["SNOW_CHANGE_WRITE_KILL_SWITCH", "SNOW_INCIDENT_WRITE_KILL_SWITCH",
        "SNOW_MCP_WRITE_KILL_SWITCH"] t.past := by
  have hplay : (play (fun _ _ => True)
      (scripted changeState.crates (handleChange changeState) sampleServiceNow) 50
      ⟨plannedWorld, [], none⟩ [apply "key-1", .resume 0]).map
        (fun c => c.tasks[0]?.map fun t => t.past.any wrote) = some (some true) := by
    decide +kernel
  obtain ⟨c, hc, hseen⟩ := Option.map_eq_some_iff.mp hplay
  obtain ⟨t, ht, hwrote⟩ := Option.map_eq_some_iff.mp hseen
  obtain ⟨ev, hev, hwrite⟩ := List.any_eq_true.mp hwrote
  have hwild : ¬ calm ev.1 := by
    unfold wrote at hwrite
    split at hwrite
    · exact id
    · cases hwrite
  have hrun := play_run .start hc
  have hswitched : Switched ResourcePlanWrite.plainPlanLib changeState
      (handleChange changeState t.call) _ := .change t.call.tool t.call.params
  exact ⟨c, t, hrun, ht, hwrote, (kill_switches_hold hrun ht hswitched).1 ev hev hwild⟩

end ChangeWrite

end SnowAgent
