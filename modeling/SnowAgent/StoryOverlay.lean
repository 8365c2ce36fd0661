import SnowAgent.FieldAgreement

/-! # The board scope of an updated Story

The guard of a Story update looks at the record as it is, and never at what the plan
makes of it.  The record after the update lies on the board exactly when each of the
three fields that the scope is defined by, if the plan writes it at all, is written
with a value of the board.
-/
namespace SnowAgent

open Json Text Story

/-! ## The record after an update -/

variable {snapshot : InScopeSnapshot}

/-- The text that a planned value leaves in a field: of a reference its `sys_id`, as
`story_create_payload_in_scope` reads it; null empties the field. -/
def writtenText : Value → String
  | .null => ""
  | v => (stringFromReferenceValue v).getD v.text

/-- The planned changes, field by field. -/
def OperationPlan.changes (plan : OperationPlan) : List (String × Value) :=
  plan.plannedChanges.asObject.getD []

/-- What a plan writes to a field, if it writes it. -/
def plannedText (changes : List (String × Value)) (field : String) : Option String :=
  (lookup field changes).map writtenText

/-- A record with the planned changes laid over it. -/
def SnowRecord.overlay (record : SnowRecord) (changes : List (String × Value)) : SnowRecord :=
  { record with
    fields :=
      changes.map (fun change => (change.1, FieldValue.mk (writtenText change.2) none)) ++
        record.fields
    references := record.references.filter fun entry => !containsKey entry.1 changes }

section Overlay

variable (record : SnowRecord) (changes : List (String × Value)) (field : String)

theorem get_append {α : Type} (m n : StringMap α) (key : String) :
    StringMap.get (m ++ n) key = (m.get key).orElse fun _ => n.get key := by
  rw [StringMap.get, StringMap.get, StringMap.get, List.find?_append]
  cases m.find? fun entry => entry.1 == key with
  | none => rfl
  | some entry => rfl

theorem get_written :
    StringMap.get (changes.map fun change => (change.1, FieldValue.mk (writtenText change.2) none))
        field = (plannedText changes field).map fun text => FieldValue.mk text none := by
  induction changes with
  | nil => rfl
  | cons change changes ih =>
    by_cases hfield : change.1 = field
    · simp [StringMap.get, plannedText, lookup, hfield]
    · have hhead : (change.1 == field) = false := by simpa using hfield
      simpa [StringMap.get, plannedText, lookup, hhead] using ih

theorem overlay_fields_get :
    (record.overlay changes).fields.get field =
      ((plannedText changes field).map fun text => FieldValue.mk text none).orElse
        fun _ => record.fields.get field := by
  rw [SnowRecord.overlay, get_append, get_written]

theorem overlay_references_get :
    (record.overlay changes).references.get field =
      if containsKey field changes then none else record.references.get field := by
  show StringMap.get (record.references.filter _) field = _
  induction record.references with
  | nil => simp [StringMap.get]
  | cons entry entries ih =>
    by_cases hfield : entry.1 = field
    · subst hfield
      by_cases hkey : containsKey entry.1 changes = true
      · simpa [List.filter_cons, hkey] using ih
      · simp [hkey, StringMap.get]
    · have hhead : (entry.1 == field) = false := by simpa using hfield
      by_cases hkey : containsKey entry.1 changes = true
      · simpa [List.filter_cons, hkey, StringMap.get, hhead] using ih
      · simpa [List.filter_cons, hkey, StringMap.get, hhead] using ih

/-- A field that the plan writes is read as it was written, and every other as before. -/
theorem overlay_recordReference :
    recordReference (record.overlay changes) field =
      (plannedText changes field).orElse fun _ => recordReference record field := by
  rw [recordReference, recordReference, overlay_fields_get, overlay_references_get]
  cases hplanned : lookup field changes with
  | none => simp [plannedText, containsKey, hplanned]
  | some v => simp [plannedText, containsKey, hplanned]

/-- What the scope looks at after the update. -/
def overlaySnapshot (snapshot : InScopeSnapshot) : InScopeSnapshot where
  active := ((plannedText changes "active").map fun text => (parseBoolish text).getD true).getD
    snapshot.active
  assignmentGroupSysId := (plannedText changes "assignment_group").getD
    snapshot.assignmentGroupSysId
  sprintSysId := (plannedText changes "sprint").orElse fun _ => snapshot.sprintSysId

theorem snapshot_overlay (h : inScopeSnapshotFromSnowRecord record = some snapshot) :
    inScopeSnapshotFromSnowRecord (record.overlay changes) =
      some (overlaySnapshot changes snapshot) := by
  rw [inScopeSnapshotFromSnowRecord] at h ⊢
  obtain ⟨group, hgroup, rfl⟩ := Option.map_eq_some_iff.mp h
  rw [overlay_recordReference, overlay_recordReference, overlay_fields_get, hgroup]
  cases hactive : plannedText changes "active" with
  | none =>
    cases hplanned : plannedText changes "assignment_group" with
    | none => simp [overlaySnapshot, hactive, hplanned]
    | some text => simp [overlaySnapshot, hactive, hplanned]
  | some text =>
    cases hplanned : plannedText changes "assignment_group" with
    | none => simp [overlaySnapshot, hactive, hplanned]
    | some text => simp [overlaySnapshot, hactive, hplanned]

end Overlay

/-! ## Staying on the board -/

variable {binding : BoardBinding}

/-- The plan keeps the assignment group, the sprint and the activity it writes on the board. -/
structure StaysOnBoard (changes : List (String × Value)) (binding : BoardBinding) : Prop where
  group : ∀ text ∈ plannedText changes "assignment_group",
    equalSysId text binding.assignmentGroup = true
  sprint : ∀ text ∈ plannedText changes "sprint",
    binding.allowedSprints.any (equalSysId text) = true
  active : ∀ text ∈ plannedText changes "active", parseBoolish text ≠ some false

/-- `story_in_scope` of a restricted binding, as a condition on the snapshot. -/
theorem storyInScope_ok_iff (hrestricted : binding.allowedSprints ≠ []) :
    storyInScope snapshot binding = .ok () ↔ snapshot.active = true ∧
        equalSysId snapshot.assignmentGroupSysId binding.assignmentGroup = true ∧
          ∃ sprint, snapshot.sprintSysId = some sprint ∧
            binding.allowedSprints.any (equalSysId sprint) = true := by
  have hsome : binding.allowedSprints.isEmpty = false := by
    cases hsprints : binding.allowedSprints with
    | nil => exact absurd hsprints hrestricted
    | cons sprint sprints => rfl
  rw [storyInScope, hsome]
  by_cases hactive : snapshot.active = true
  · by_cases hgroup : equalSysId snapshot.assignmentGroupSysId binding.assignmentGroup = true
    · cases hsprint : snapshot.sprintSysId with
      | none => simp [hactive, hgroup]
      | some sprint => simp [hactive, hgroup]
    · simp [hactive, hgroup]
  · simp [hactive]

theorem overlaySnapshot_inScope_iff {changes : List (String × Value)}
    (hrestricted : binding.allowedSprints ≠ []) (hscope : storyInScope snapshot binding = .ok ()) :
    storyInScope (overlaySnapshot changes snapshot) binding = .ok () ↔
      StaysOnBoard changes binding := by
  rw [storyInScope_ok_iff hrestricted] at hscope ⊢
  obtain ⟨hactive, hgroup, sprint, hsprint, hallowed⟩ := hscope
  constructor
  · rintro ⟨hactive', hgroup', sprint', hsprint', hallowed'⟩
    refine ⟨?_, ?_, ?_⟩
    · intro text htext
      simpa [overlaySnapshot, Option.mem_def.mp htext] using hgroup'
    · intro text htext
      have htext' : text = sprint' := by
        simpa [overlaySnapshot, Option.mem_def.mp htext] using hsprint'
      rwa [htext']
    · intro text htext hfalse
      simp [overlaySnapshot, Option.mem_def.mp htext, hfalse] at hactive'
  · rintro ⟨hgroup', hsprint', hactive'⟩
    refine ⟨?_, ?_, ?_⟩
    · cases htext : plannedText changes "active" with
      | none => simpa [overlaySnapshot, htext] using hactive
      | some text =>
        have hnot := hactive' text htext
        cases hparsed : parseBoolish text with
        | none => simp [overlaySnapshot, htext, hparsed]
        | some b =>
          cases b with
          | true => simp [overlaySnapshot, htext, hparsed]
          | false => exact absurd hparsed hnot
    · cases htext : plannedText changes "assignment_group" with
      | none => simpa [overlaySnapshot, htext] using hgroup
      | some text => simpa [overlaySnapshot, htext] using hgroup' text htext
    · cases htext : plannedText changes "sprint" with
      | none => exact ⟨sprint, by simp [overlaySnapshot, htext, hsprint], hallowed⟩
      | some text => exact ⟨text, by simp [overlaySnapshot, htext], hsprint' text htext⟩

theorem storyRecordInScope_ok_iff {record : SnowRecord} :
    StoryWrite.storyRecordInScope record binding = .ok () ↔
      ∃ snapshot, inScopeSnapshotFromSnowRecord record = some snapshot ∧
        storyInScope snapshot binding = .ok () := by
  rw [StoryWrite.storyRecordInScope]
  cases hsnapshot : inScopeSnapshotFromSnowRecord record with
  | none => simp [StoryWrite.requireSnapshot, bind, Except.bind]
  | some snapshot => simp [StoryWrite.requireSnapshot, bind, Except.bind]

/-- **Scope of the record that a plan makes of one on the board.** -/
theorem overlay_inScope_iff {record : SnowRecord} {changes : List (String × Value)}
    (hrestricted : binding.allowedSprints ≠ [])
    (hscope : StoryWrite.storyRecordInScope record binding = .ok ()) :
    StoryWrite.storyRecordInScope (record.overlay changes) binding = .ok () ↔
      StaysOnBoard changes binding := by
  obtain ⟨snapshot, hsnapshot, hok⟩ := storyRecordInScope_ok_iff.mp hscope
  rw [storyRecordInScope_ok_iff, snapshot_overlay record changes hsnapshot]
  rw [← overlaySnapshot_inScope_iff hrestricted hok]
  simp

/-! ## What the guard lets through -/

namespace StoryWrite

/-- A guard about a record passes only on a record that it has fetched and checked. -/
theorem guardRecord_ok {answers : Nat → (r : SnowRead) → r.Ans} {number : String}
    {unread missing : InScopeFailure} {check : SnowRecord → Except InScopeFailure Unit}
    (h : (Program.eval answers 0 (guardRecord number unread missing check)).1 = .ok ()) :
    ∃ record, (answers 0 (.recordFresh number) : Except String (Option SnowRecord)) =
      .ok (some record) ∧ check record = .ok () := by
  rw [guardRecord, Program.eval_bind] at h
  have hanswer : (Program.eval answers 0 (SnowRead.getRecordFresh number)).1 =
      answers 0 (.recordFresh number) := rfl
  rw [hanswer] at h
  generalize (answers 0 (.recordFresh number) : Except String (Option SnowRecord)) = answer at h
  cases answer with
  | error text => cases h
  | ok found =>
    cases found with
    | none => cases h
    | some record => exact ⟨record, rfl, h⟩

/-- The guard of a Story update under a restricted binding. -/
theorem enforceApplyGuard_update {plan : OperationPlan}
    (hrestricted : binding.allowedSprints ≠ []) :
    enforceApplyGuard "story_apply_update" plan binding = match plan.target with
      | none => return .error (.wrongAssignmentGroup binding.assignmentGroup "")
      | some target =>
        guardRecord target.number (.wrongAssignmentGroup binding.assignmentGroup "")
          (.wrongAssignmentGroup binding.assignmentGroup "") (storyRecordInScope · binding) := by
  have hsome : binding.allowedSprints.isEmpty = false := by
    cases hsprints : binding.allowedSprints with
    | nil => exact absurd hsprints hrestricted
    | cons sprint sprints => rfl
  obtain ⟨planId, tool, target, plannedChanges, opHash⟩ := plan
  unfold enforceApplyGuard
  rw [hsome]
  cases target with
  | none => rfl
  | some target => rfl

/-- **A guarded update stays on the board exactly when its plan does.**  The guard passes
only if the record it fetches is on the board; the update then keeps it there exactly when
every field of the scope that the plan writes is written with a value of the board. -/
theorem guardedUpdate_inScope_iff {answers : Nat → (r : SnowRead) → r.Ans}
    {plan : OperationPlan} {binding : BoardBinding}
    (hrestricted : binding.allowedSprints ≠ [])
    (hguard : (Program.eval answers 0 (enforceApplyGuard "story_apply_update" plan binding)).1 =
      .ok ()) :
    ∃ target record, plan.target = some target ∧
      (answers 0 (.recordFresh target.number) : Except String (Option SnowRecord)) =
        .ok (some record) ∧
      (storyRecordInScope (record.overlay plan.changes) binding = .ok () ↔
        StaysOnBoard plan.changes binding) := by
  rw [enforceApplyGuard_update hrestricted] at hguard
  cases htarget : plan.target with
  | none =>
    rw [htarget] at hguard
    cases hguard
  | some target =>
    rw [htarget] at hguard
    obtain ⟨record, hread, hscope⟩ := guardRecord_ok hguard
    exact ⟨target, record, rfl, hread, overlay_inScope_iff hrestricted hscope⟩

/-! ## A plan that moves a Story off the board -/

/-- The board, confined to one sprint. -/
def sprintBoard : BoardBinding := { sampleBoard with allowedSprints := ["s1"] }

/-- A daemon that may update the Stories of that sprint. -/
def updatingState : DaemonState :=
  { sampleState with
    policy :=
      { sampleState.policy with
        boards := [("board", sprintBoard)]
        tools := ["story_plan_update", "story_apply_update"].map sampleTool } }

/-- A Story of that sprint. -/
def sprintStory : SnowRecord :=
  { sampleStory with
    references := [("assignment_group", "group"), ("sprint", "s1")] }

/-- Every fetched record is that Story. -/
def sprintAnswers : Nat → (r : SnowRead) → r.Ans
  | _, .recordFresh _ | _, .recordLive _ => .ok (some sprintStory)
  | _, r => sampleServiceNow.read r

/-- A caller who moves the Story to a sprint. -/
def moveArgs (sprint : String) : List (String × Value) :=
  [("number", .string sprintStory.number), ("sprint", .string sprint)]

/-- The target and the planned changes of an accepted plan for that move. -/
def plannedMove (sprint : String) : Option (Option RecordRef × Value) :=
  ((Program.eval sprintAnswers 0 (buildPlanInput updatingState sprintBoard (moveArgs sprint)
    "story_plan_update" ⟨"snow", none, none⟩).run).1.toOption).map fun input =>
      (input.target, input.plannedChanges)

/-- The plan that is stored for that move. -/
def movePlan (sprint : String) : OperationPlan :=
  .build plainDigest "plan-1" "story_plan_update" (some sprintStory.ref)
    (obj [("sprint", .string sprint)])

/-- The Story is moved within the board. -/
theorem guardedUpdate_inScope_within :
    ∃ target record, (movePlan "s1").target = some target ∧
      (sprintAnswers 0 (.recordFresh target.number) : Except String (Option SnowRecord)) =
        .ok (some record) ∧
      (storyRecordInScope (record.overlay (movePlan "s1").changes) sprintBoard = .ok () ↔
        StaysOnBoard (movePlan "s1").changes sprintBoard) :=
  guardedUpdate_inScope_iff (by decide) (by decide +kernel)

/-- **A Story that leaves its board.**  The plan moves a Story of the board's only sprint to
another sprint; the planner and the guard accept it. -/
theorem guardedUpdate_leaves_board :
    ¬ ∀ (state : DaemonState) (binding : BoardBinding) (args : List (String × Value))
      (actor : Actor) (input : PlanInput) (planId : String) (record : SnowRecord)
      (answers answers' : Nat → (r : SnowRead) → r.Ans) (target : RecordRef),
      binding.allowedSprints ≠ [] →
      fieldGovernanceRejections "story_plan_update" args state.policy .planInput = [] →
      (Program.eval answers 0 (buildPlanInput state binding args "story_plan_update" actor).run).1 =
        .ok input →
      (Program.eval answers' 0 (enforceApplyGuard "story_apply_update"
        (.build state.crates.sha256 planId input.tool input.target input.plannedChanges)
        binding)).1 = .ok () →
      input.target = some target →
      (answers' 0 (.recordFresh target.number) : Except String (Option SnowRecord)) =
        .ok (some record) →
      storyRecordInScope (record.overlay (input.plannedChanges.asObject.getD [])) binding =
        .ok () := by
  intro hcloses
  have hplanned : plannedMove "s2" =
      some (some sprintStory.ref, obj [("sprint", .string "s2")]) := by decide +kernel
  obtain ⟨input, hinput, hparts⟩ := Option.map_eq_some_iff.mp hplanned
  cases hresult : (Program.eval sprintAnswers 0 (buildPlanInput updatingState sprintBoard
      (moveArgs "s2") "story_plan_update" ⟨"snow", none, none⟩).run).1 with
  | error err =>
    rw [hresult] at hinput
    cases hinput
  | ok input' =>
    rw [hresult] at hinput
    cases hinput
    obtain ⟨htarget, hchanges⟩ := Prod.mk.inj hparts
    have hscope := hcloses updatingState sprintBoard (moveArgs "s2") ⟨"snow", none, none⟩ input
      "plan-1" sprintStory sprintAnswers sprintAnswers sprintStory.ref (by decide)
      (by decide +kernel) hresult (by rw [htarget]; rfl) htarget rfl
    rw [hchanges] at hscope
    exact absurd hscope (by decide +kernel)

end StoryWrite

end SnowAgent
