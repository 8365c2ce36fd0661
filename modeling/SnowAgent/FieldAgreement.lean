import SnowAgent.StoryPlan

/-! # Fields a planner adds

A plan call judges the fields its caller sends, and an apply call judges the fields of
the stored payload.  In between the planner strips the selectors, resolves the
assignee, and fills in the defaults of a new Story.  The two verdicts agree on every
field the caller sent; they agree on the payload exactly when the apply tool may also
write the fields the planner has added.
-/
namespace SnowAgent

open Json Text Program Story

namespace StoryWrite

/-! ## The verdict on one field -/

variable {policy : PolicyConfig}

/-- A field that is neither denied nor unlisted. -/
def FieldAccepted (tool : String) (policy : PolicyConfig) (mode : FieldGovernanceMode)
    (field : String) : Prop :=
  fieldBlocked tool mode field = false ∧ fieldUnlisted tool policy mode field = false

theorem fieldGovernanceRejections_eq_nil {tool : String} {args : List (String × Value)}
    {mode : FieldGovernanceMode} :
    fieldGovernanceRejections tool args policy mode = [] ↔
      ∀ field ∈ args.map Prod.fst, FieldAccepted tool policy mode field := by
  simp only [fieldGovernanceRejections, List.append_eq_nil_iff, List.map_eq_nil_iff,
    List.filter_eq_nil_iff, FieldAccepted]
  constructor
  · rintro ⟨hblocked, hunlisted⟩ field hfield
    have hfree : fieldBlocked tool mode field = false := by simpa using hblocked field hfield
    refine ⟨hfree, ?_⟩
    simpa [hfree] using hunlisted field hfield
  · intro h
    refine ⟨fun field hfield => ?_, fun field hfield => ?_⟩
    · simp [(h field hfield).1]
    · simp [(h field hfield).2]

theorem allowsWithoutPolicy_planInput {tool field : String} :
    fieldGovernanceAllowsWithoutPolicy tool field .planInput = true ↔
      tool = "story_task_plan_create" ∧ field = "assignment_group" := by
  constructor
  · intro h
    unfold fieldGovernanceAllowsWithoutPolicy at h
    split at h <;> simp_all
  · rintro ⟨rfl, rfl⟩
    rfl

/-- An apply tool denies what its plan tool denies, and the selectors. -/
theorem blockedFields_apply {tool field : String} (htool : tool ∈ storyPlanToolNames)
    (h : field ∈ blockedFieldsForTool (applyToolForPlanTool tool)) :
    field ∈ blockedFieldsForTool tool ∨ field ∈ planSelectorFields tool := by
  have hall : ∀ tool ∈ storyPlanToolNames,
      ∀ field ∈ blockedFieldsForTool (applyToolForPlanTool tool),
        field ∈ blockedFieldsForTool tool ∨ field ∈ planSelectorFields tool := by decide
  exact hall tool htool field h

/-- Apply tools are their own apply tools. -/
theorem applyTool_applyTool {tool : String} (htool : tool ∈ storyPlanToolNames) :
    applyToolForPlanTool (applyToolForPlanTool tool) = applyToolForPlanTool tool := by
  have hall : ∀ tool ∈ storyPlanToolNames,
      applyToolForPlanTool (applyToolForPlanTool tool) = applyToolForPlanTool tool := by decide
  exact hall tool htool

/-- A listed field that the plan tool does not deny is accepted at apply time. -/
theorem fieldAccepted_of_listed {tool field : String} (htool : tool ∈ storyPlanToolNames)
    (hblocked : field ∉ blockedFieldsForTool tool)
    (hselector : field ∉ planSelectorFields tool)
    (hlisted : field ∈ fieldAllowlistForApplyTool policy (applyToolForPlanTool tool)) :
    FieldAccepted (applyToolForPlanTool tool) policy .writePayload field := by
  have hfree : field ∉ blockedFieldsForTool (applyToolForPlanTool tool) := fun h =>
    (blockedFields_apply htool h).elim hblocked hselector
  constructor
  · simp [fieldBlocked, hfree]
  · simp [fieldUnlisted, applyTool_applyTool htool, hlisted]

/-- A field of the caller that is neither metadata nor a selector is accepted at apply time
when it is accepted at plan time. -/
theorem fieldAccepted_apply {tool field : String} (htool : tool ∈ storyPlanToolNames)
    (h : FieldAccepted tool policy .planInput field)
    (hmeta : field ∉ metadataFields) (hselector : field ∉ planSelectorFields tool) :
    FieldAccepted (applyToolForPlanTool tool) policy .writePayload field := by
  obtain ⟨hblocked, hunlisted⟩ := h
  by_cases hexempt : fieldGovernanceAllowsWithoutPolicy tool field .planInput = true
  · obtain ⟨rfl, rfl⟩ := allowsWithoutPolicy_planInput.mp hexempt
    exact ⟨rfl, rfl⟩
  · have hfree : field ∉ blockedFieldsForTool tool := by
      simpa [fieldBlocked, hexempt] using hblocked
    have hlisted : field ∈ fieldAllowlistForApplyTool policy (applyToolForPlanTool tool) := by
      simpa [fieldUnlisted, hexempt, hmeta, hselector] using hunlisted
    exact fieldAccepted_of_listed htool hfree hselector hlisted

/-- A field that is neither metadata nor exempt is accepted at apply time only if it is listed. -/
theorem FieldAccepted.listed {tool field : String} (htool : tool ∈ storyPlanToolNames)
    (h : FieldAccepted (applyToolForPlanTool tool) policy .writePayload field)
    (hmeta : field ∉ metadataFields)
    (hexempt : fieldGovernanceAllowsWithoutPolicy (applyToolForPlanTool tool) field
      .writePayload = false) :
    field ∈ fieldAllowlistForApplyTool policy (applyToolForPlanTool tool) := by
  have hunlisted := h.2
  simpa [fieldUnlisted, hexempt, hmeta, applyTool_applyTool htool] using hunlisted

/-! ## The keys of a payload -/

variable {field : String}

/-- An object whose keys are those that satisfy `P`. -/
def HasKeys (payload : Value) (P : String → Prop) : Prop :=
  ∃ fields, payload = .object fields ∧ ∀ k, k ∈ fields.map Prod.fst ↔ P k

section Keys

variable {payload payload' : Value} {P : String → Prop}
  {answers : Nat → (r : SnowRead) → r.Ans} {n : Nat}

section

variable (h : HasKeys payload P)

include h

theorem HasKeys.inject (field : String) (v : Value) :
    HasKeys (inject payload field v) fun k => k = field ∨ P k := by
  obtain ⟨fields, rfl, hkeys⟩ := h
  refine ⟨Json.insert field v fields, rfl, fun k => ?_⟩
  rw [mem_keys_insert, hkeys]

/-- Setting a field that is there adds no key. -/
theorem HasKeys.reset (hfield : P field) (v : Value) :
    HasKeys (StoryWrite.inject payload field v) P := by
  obtain ⟨fields, hpayload, hkeys⟩ := h.inject field v
  refine ⟨fields, hpayload, fun k => (hkeys k).trans ⟨?_, Or.inr⟩⟩
  rintro (rfl | hk)
  · exact hfield
  · exact hk

/-- A field that can be read is a key. -/
theorem HasKeys.of_get {v : Value}
    (hget : payload.get field = some v) : P field := by
  obtain ⟨fields, rfl, hkeys⟩ := h
  exact (hkeys field).mp (mem_keys_of_lookup hget)

theorem HasKeys.of_text {field text : String}
    (hget : (payload.get field).bind Value.asStr = some text) : P field := by
  obtain ⟨v, hv, _⟩ := Option.bind_eq_some_iff.mp hget
  exact h.of_get hv

theorem validateStoryCreateBacklogType_keys :
    HasKeys (validateStoryCreateBacklogType payload).1 P := by
  unfold validateStoryCreateBacklogType
  split
  · exact h
  · rename_i value hget
    split
    · exact h
    · split
      · exact h.reset (h.of_get hget) _
      · exact h

end

variable {binding : BoardBinding} {warnings : List ReceiptWarning}

variable {fields : List Value} {table : String}

theorem validatePriority_keys (h : HasKeys payload P)
    (heval : (eval answers n (validatePriority payload binding table).run).1 =
      .ok (payload', fields, warnings)) : HasKeys payload' P := by
  unfold validatePriority at heval
  split at heval
  · cases heval
    exact h
  · rename_i priority hpriority
    have hfield := h.of_text hpriority
    split at heval
    · cases heval
      exact h
    · obtain ⟨validation, _, heval⟩ := eval_run_bind heval
      cases validation with
      | matched value =>
        cases heval
        exact h.reset hfield _
      | constrained =>
        cases heval
        exact h
      | unmapped =>
        cases heval
        exact h

variable {currentRecord : Option SnowRecord} {tool : String}

theorem validateState_keys (h : HasKeys payload P)
    (heval : (eval answers n (validateState tool payload binding table currentRecord).run).1 =
      .ok (payload', fields)) : HasKeys payload' P := by
  unfold validateState at heval
  split at heval
  · cases heval
    exact h
  · rename_i supplied hsupplied
    have hfield := h.of_text hsupplied
    obtain ⟨choices, _, heval⟩ := eval_run_bind heval
    dsimp only at heval
    generalize resolveStateFromCachedChoices _ _ _ = resolution at heval
    cases resolution with
    | resolved value =>
      cases heval
      exact h.reset hfield _
    | mapped label value =>
      cases heval
      exact h.reset hfield _
    | required candidates operatorNote => cases heval
    | fieldRejected field reason original =>
      cases heval
      exact h
    | omitted =>
      cases heval
      exact h

/-- Checking the values of a payload adds no field to it. -/
theorem validateConstrainedFields_keys (h : HasKeys payload P) (heval : (eval answers n
      (validateConstrainedFields tool payload binding currentRecord).run).1 = .ok
        (payload', warnings)) : HasKeys payload' P := by
  have hbacklog : HasKeys (if tool = "story_plan_create" ∨ tool = "story_apply_create" then
      validateStoryCreateBacklogType payload else (payload, [])).1 P := by
    split
    · exact validateStoryCreateBacklogType_keys h
    · exact h
  unfold validateConstrainedFields at heval
  obtain ⟨⟨payload₁, _, _⟩, hpriority, heval⟩ := eval_run_bind heval
  obtain ⟨⟨payload₂, _⟩, hstate, heval⟩ := eval_run_bind heval
  obtain ⟨_, _, heval⟩ := eval_run_bind heval
  dsimp only at heval
  split at heval
  · cases heval
    exact validateState_keys (validatePriority_keys hbacklog hpriority) hstate
  · cases heval

end Keys

/-! ## Resolving the caller -/

/-- The user record that stands in for an assignee (`default_assignee_from_actor`). -/
def callerSysUser (actor : Actor) : Program SnowReads (Option String) := do
  match ← usersNamedBy "email" actor.email with
  | [sysId] => return some sysId
  | _ =>
    match ← usersNamedBy "user_name" (some actor.subject) with
    | [sysId] => return some sysId
    | _ => return none

/-- Whether a plan call looks its assignee up: it is `caller`, or left out of a create. -/
def assigneeLookedUp (tool : String) (args : List (String × Value)) : Bool :=
  match lookup "assigned_to" args with
  | none => !endsWith tool "_plan_update"
  | some supplied => supplied.asStr.any fun value =>
    !isSysId value && eqIgnoreAsciiCase (trim value) "caller"

/-- The lookup of the assignee, where there is one. -/
def assigneeLookup (tool : String) (args : List (String × Value)) (actor : Actor) :
    Program SnowReads (Option String) :=
  if assigneeLookedUp tool args then callerSysUser actor else return none

section Resolve

variable {sha256 : Sha256} {tool : String} {fields : List (String × Value)} {actor : Actor}
  {answers : Nat → (r : SnowRead) → r.Ans} {n : Nat}

/-- The keys of a payload whose assignee was looked up. -/
def AssigneeSet (fields : List (String × Value)) (assignee : Option String) (k : String) : Prop :=
  if k = "assigned_to" then assignee.isSome = true else k ∈ fields.map Prod.fst

/-- The keys of a payload after its assignee has been resolved: the caller's own, unless the
assignee was looked up. -/
def ResolvedKey (tool : String) (fields : List (String × Value)) (assignee : Option String)
    (k : String) : Prop :=
  if assigneeLookedUp tool fields = true then AssigneeSet fields assignee k
  else k ∈ fields.map Prod.fst

theorem hasKeys_assigned (sysId : String) :
    HasKeys (.object (insert "assigned_to" (.string sysId) fields))
      (AssigneeSet fields (some sysId)) := by
  refine ⟨_, rfl, fun k => ?_⟩
  rw [mem_keys_insert]
  by_cases hk : k = "assigned_to" <;> simp [AssigneeSet, hk]

theorem hasKeys_unassigned :
    HasKeys (.object (remove "assigned_to" fields)) (AssigneeSet fields none) := by
  refine ⟨_, rfl, fun k => ?_⟩
  rw [mem_keys_remove]
  by_cases hk : k = "assigned_to" <;> simp [AssigneeSet, hk]

/-- The assignee is set to the caller's user record, or else removed. -/
theorem defaultAssigneeFromActor_eval :
    (eval answers n (defaultAssigneeFromActor sha256 fields actor)).2 =
        (eval answers n (callerSysUser actor)).2 ∧
      HasKeys (eval answers n (defaultAssigneeFromActor sha256 fields actor)).1.1
        (AssigneeSet fields (eval answers n (callerSysUser actor)).1) := by
  unfold defaultAssigneeFromActor callerSysUser
  rw [eval_bind, eval_bind]
  generalize eval answers n (usersNamedBy "email" actor.email) = asked
  obtain ⟨byEmail, m⟩ := asked
  rcases byEmail with _ | ⟨sysId, _ | ⟨other, rest⟩⟩
  on_goal 2 => exact ⟨rfl, hasKeys_assigned sysId⟩
  -- the email does not name exactly one user
  all_goals
    dsimp only
    rw [eval_bind, eval_bind]
    generalize eval answers m (usersNamedBy "user_name" (some actor.subject)) = asked
    obtain ⟨byName, m⟩ := asked
    rcases byName with _ | ⟨sysId, _ | ⟨other, rest⟩⟩
    · exact ⟨rfl, hasKeys_unassigned⟩
    · exact ⟨rfl, hasKeys_assigned sysId⟩
    · exact ⟨rfl, hasKeys_unassigned⟩

/-- **The assignee of a payload.**  It is the caller's own when it was given, and the one that
was looked up when it was not. -/
theorem resolveAssigneeInPayload_eval {payload : Value} {warnings : List ReceiptWarning}
    (heval : (eval answers n (resolveAssigneeInPayload sha256 tool (.object fields) actor).run).1 =
        .ok (payload, warnings)) :
    (eval answers n (resolveAssigneeInPayload sha256 tool (.object fields) actor).run).2 =
        (eval answers n (assigneeLookup tool fields actor)).2 ∧
      HasKeys payload
        (ResolvedKey tool fields (eval answers n (assigneeLookup tool fields actor)).1) := by
  have hgiven : assigneeLookedUp tool fields = false →
      n = (eval answers n (assigneeLookup tool fields actor)).2 ∧ HasKeys (.object fields)
          (ResolvedKey tool fields (eval answers n (assigneeLookup tool fields actor)).1) := by
    intro hlooked
    have hnone : eval answers n (assigneeLookup tool fields actor) = (none, n) := by
      simp [assigneeLookup, hlooked]
    rw [hnone]
    exact ⟨rfl, fields, rfl, fun k => by simp [ResolvedKey, hlooked]⟩
  have hdefault : assigneeLookedUp tool fields = true →
      (eval answers n (liftM (defaultAssigneeFromActor sha256 fields actor) :
        Building (Value × List ReceiptWarning)).run).1 = .ok (payload, warnings) →
      (eval answers n (liftM (defaultAssigneeFromActor sha256 fields actor) :
        Building (Value × List ReceiptWarning)).run).2 =
          (eval answers n (assigneeLookup tool fields actor)).2 ∧
        HasKeys payload (AssigneeSet fields
          (eval answers n (assigneeLookup tool fields actor)).1) := by
    intro hlooked hok
    obtain ⟨hn, hkeys⟩ := @defaultAssigneeFromActor_eval sha256 fields actor answers n
    rw [eval_run_lift] at hok ⊢
    rw [assigneeLookup, if_pos hlooked]
    rw [Except.ok.inj hok] at hkeys
    exact ⟨hn, hkeys⟩
  unfold resolveAssigneeInPayload at heval ⊢
  dsimp only at heval ⊢
  cases hassigned : lookup "assigned_to" fields with
  | none =>
    simp only [hassigned] at heval ⊢
    by_cases hupdate : endsWith tool "_plan_update" = true
    · have hlooked : assigneeLookedUp tool fields = false := by
        simp [assigneeLookedUp, hassigned, hupdate]
      rw [if_pos hupdate] at heval ⊢
      cases heval
      exact hgiven hlooked
    · have hlooked : assigneeLookedUp tool fields = true := by
        simp [assigneeLookedUp, hassigned, hupdate]
      rw [if_neg hupdate] at heval ⊢
      obtain ⟨hn, fields', hpayload, hkeys⟩ := hdefault hlooked heval
      exact ⟨hn, fields', hpayload, fun k => by simp [ResolvedKey, hlooked, hkeys]⟩
  | some supplied =>
    simp only [hassigned] at heval ⊢
    cases supplied with
    | null =>
      have hlooked : assigneeLookedUp tool fields = false := by
        simp [assigneeLookedUp, hassigned, Value.asStr]
      cases heval
      exact hgiven hlooked
    | string value =>
      by_cases hsysId : isSysId value = true
      · have hlooked : assigneeLookedUp tool fields = false := by
          simp [assigneeLookedUp, hassigned, Value.asStr, hsysId]
        simp only [hsysId, if_true] at heval ⊢
        cases heval
        exact hgiven hlooked
      · simp only [hsysId] at heval ⊢
        by_cases hcaller : eqIgnoreAsciiCase (trim value) "caller" = true
        · have hlooked : assigneeLookedUp tool fields = true := by
            simp [assigneeLookedUp, hassigned, Value.asStr, hsysId, hcaller]
          simp only [hcaller, if_true] at heval ⊢
          obtain ⟨hn, fields', hpayload, hkeys⟩ := hdefault hlooked heval
          exact ⟨hn, fields', hpayload, fun k => by simp [ResolvedKey, hlooked, hkeys]⟩
        · simp only [hcaller] at heval
          cases heval
    | bool b => cases heval
    | number m => cases heval
    | array items => cases heval
    | object entries => cases heval

end Resolve

/-! ## The defaults of a plan -/

section Defaults

variable {payload payload' : Value} {P : String → Prop} {actor : Actor}
  {state : DaemonState} {binding : BoardBinding} {args : List (String × Value)}
  {warnings : List ReceiptWarning} {input : PlanInput}
  {answers : Nat → (r : SnowRead) → r.Ans} {n : Nat}

/-- A new Story gets an assignment group, and loses a blank sprint. -/
theorem defaultStoryCreateReferenceFields_keys (h : HasKeys payload P)
    (hok : defaultStoryCreateReferenceFields payload binding = .ok payload') :
    ∃ P', HasKeys payload' P' ∧ P' "assignment_group" ∧
      (∀ k, P' k → k = "assignment_group" ∨ P k) ∧ ∀ k, k ≠ "sprint" → P k → P' k := by
  obtain ⟨fields, rfl, hkeys⟩ := h
  unfold defaultStoryCreateReferenceFields at hok
  dsimp only at hok
  cases hgroup : defaultAssignmentGroup fields binding with
  | error err =>
    rw [hgroup] at hok
    cases hok
  | ok grouped =>
    have hgrouped : ∀ k, k ∈ grouped.map Prod.fst ↔
        k = "assignment_group" ∨ k ∈ fields.map Prod.fst := by
      intro k
      unfold defaultAssignmentGroup at hgroup
      split at hgroup
      · cases hgroup
        exact mem_keys_insert
      · rename_i supplied hsupplied
        split_ifs at hgroup
        cases hgroup
        refine ⟨Or.inr, ?_⟩
        rintro (rfl | hk)
        · exact mem_keys_of_lookup hsupplied
        · exact hk
    rw [hgroup] at hok
    cases hsprint : defaultSprint grouped with
    | error err =>
      have hfail : (do
        let fields ← defaultSprint grouped
        return Value.object fields : Except PlanBuildError Value) = .ok payload' := hok
      rw [hsprint] at hfail
      cases hfail
    | ok final =>
      have hdone : (do
        let fields ← defaultSprint grouped
        return Value.object fields : Except PlanBuildError Value) = .ok payload' := hok
      rw [hsprint] at hdone
      cases hdone
      have hfinal : (∀ k, k ∈ final.map Prod.fst → k ∈ grouped.map Prod.fst) ∧
          ∀ k, k ≠ "sprint" → k ∈ grouped.map Prod.fst → k ∈ final.map Prod.fst := by
        unfold defaultSprint at hsprint
        split at hsprint
        · cases hsprint
          exact ⟨fun _ => id, fun _ _ => id⟩
        · split_ifs at hsprint
          · cases hsprint
            exact ⟨fun k hk => (mem_keys_remove.mp hk).2,
              fun k hne hk => mem_keys_remove.mpr ⟨hne, hk⟩⟩
          · split at hsprint
            · cases hsprint
            · split_ifs at hsprint
              cases hsprint
              exact ⟨fun _ => id, fun _ _ => id⟩
      refine ⟨fun k => k ∈ final.map Prod.fst, ⟨final, rfl, fun _ => Iff.rfl⟩, ?_, ?_, ?_⟩
      · exact hfinal.2 _ (by decide) ((hgrouped _).mpr (.inl rfl))
      · intro k hk
        exact ((hgrouped k).mp (hfinal.1 k hk)).imp id (hkeys k).mp
      · intro k hne hk
        exact hfinal.2 k hne ((hgrouped k).mpr (.inr ((hkeys k).mpr hk)))

/-- A new Story gets a backlog type only if the apply tool may write it. -/
theorem defaultStoryCreateBacklogType_keys (policy : PolicyConfig) (h : HasKeys payload P) :
    ∃ P', HasKeys (defaultStoryCreateBacklogType payload policy) P' ∧
      (∀ k, P' k → P k ∨ k = storyBacklogTypeField ∧
        storyBacklogTypeField ∈ fieldAllowlistForApplyTool policy "story_apply_create") ∧
      ∀ k, P k → P' k := by
  have hsame : ∃ P', HasKeys payload P' ∧ (∀ k, P' k → P k ∨ k = storyBacklogTypeField ∧
        storyBacklogTypeField ∈ fieldAllowlistForApplyTool policy "story_apply_create") ∧
      ∀ k, P k → P' k := ⟨P, h, fun _ => .inl, fun _ => id⟩
  obtain ⟨fields, rfl, hkeys⟩ := h
  unfold defaultStoryCreateBacklogType
  dsimp only
  split_ifs with hcond
  · have hlisted : storyBacklogTypeField ∈
        fieldAllowlistForApplyTool policy "story_apply_create" := by
      simp only [Bool.and_eq_true] at hcond
      simpa using hcond.1.2
    refine ⟨fun k => k = storyBacklogTypeField ∨ P k, ⟨_, rfl, fun k => ?_⟩, ?_, fun _ => .inr⟩
    · rw [mem_keys_insert, hkeys]
    · rintro k (rfl | hk)
      · exact .inr ⟨rfl, hlisted⟩
      · exact .inl hk
  · exact hsame

/-- A new Story gets an owner when the caller resolves to a user record. -/
theorem defaultStoryOwnerFromActor_keys (h : HasKeys payload P) :
    HasKeys (eval answers n (defaultStoryOwnerFromActor payload actor)).1.1 fun k =>
      k = "u_story_owner" ∧ (eval answers n (resolveActorSysUserSysId actor)).1.isSome = true ∨
        P k := by
  have hplain := h
  obtain ⟨fields, rfl, hkeys⟩ := h
  unfold defaultStoryOwnerFromActor
  dsimp only
  split_ifs with howner
  · refine ⟨fields, rfl, fun k => (hkeys k).trans ⟨.inr, ?_⟩⟩
    rintro (⟨rfl, _⟩ | hk)
    · exact (hkeys _).mp (containsKey_iff.mp howner)
    · exact hk
  · rw [eval_bind]
    generalize eval answers n (resolveActorSysUserSysId actor) = resolved
    obtain ⟨resolved, m⟩ := resolved
    cases resolved with
    | none => exact ⟨fields, rfl, fun k => by simp [hkeys]⟩
    | some sysId =>
      obtain ⟨fields', hpayload, hkeys'⟩ := hplain.inject "u_story_owner" (.string sysId)
      exact ⟨fields', hpayload, fun k => by simp [hkeys']⟩

theorem eval_checking {A : Type} (result : Except PlanBuildError A) :
    eval answers n (checking result).run = (result, n) := rfl

/-- What the planner of a new Story makes of a payload. -/
theorem buildStoryCreate_keys (h : HasKeys payload P) (heval : (eval answers n
      (buildStoryCreate state binding args payload warnings actor).run).1 = .ok input) :
    ∃ P', HasKeys input.plannedChanges P' ∧ P' "assignment_group" ∧
      ((eval answers n (resolveActorSysUserSysId actor)).1.isSome = true → P' "u_story_owner") ∧
      (∀ k, k ≠ "sprint" → P k → P' k) ∧
      ∀ k, P' k → k = "active" ∨ k = "assignment_group" ∨
        k = "u_story_owner" ∧ (eval answers n (resolveActorSysUserSysId actor)).1.isSome = true ∨
        k = storyBacklogTypeField ∧ storyBacklogTypeField ∈
          fieldAllowlistForApplyTool state.policy "story_apply_create" ∨ P k := by
  unfold buildStoryCreate at heval
  obtain ⟨_, _, heval⟩ := eval_run_bind heval
  obtain ⟨_, _, heval⟩ := eval_run_bind heval
  obtain ⟨referenced, hreferenced, heval⟩ := eval_run_bind heval
  simp only [eval_checking] at hreferenced heval
  obtain ⟨P₁, h₁, hgroup, hupper₁, hlower₁⟩ := defaultStoryCreateReferenceFields_keys h hreferenced
  obtain ⟨P₂, h₂, hupper₂, hlower₂⟩ := defaultStoryCreateBacklogType_keys state.policy h₁
  rw [eval_run_bind_ok (eval_run_lift _ n)] at heval
  have h₃ := (@defaultStoryOwnerFromActor_keys _ _ actor answers n h₂).inject "active" (.bool true)
  obtain ⟨⟨validated, _⟩, hvalidated, heval⟩ := eval_run_bind heval
  obtain ⟨_, _, heval⟩ := eval_run_bind heval
  cases heval
  refine ⟨_, validateConstrainedFields_keys h₃ hvalidated, ?_, ?_, ?_, ?_⟩
  · exact .inr (.inr (hlower₂ _ hgroup))
  · exact fun howner => .inr (.inl ⟨rfl, howner⟩)
  · exact fun k hne hk => .inr (.inr (hlower₂ k (hlower₁ k hne hk)))
  · rintro k (rfl | howner | hk)
    · exact .inl rfl
    · exact .inr (.inr (.inl howner))
    · rcases hupper₂ k hk with hk | hbacklog
      · rcases hupper₁ k hk with rfl | hk
        · exact .inr (.inl rfl)
        · exact .inr (.inr (.inr (.inr hk)))
      · exact .inr (.inr (.inr (.inl hbacklog)))

/-- What the planner of a new Story Task makes of a payload. -/
theorem buildStoryTaskCreate_keys (h : HasKeys payload P)
    (heval : (eval answers n (buildStoryTaskCreate binding args payload warnings).run).1 =
      .ok input) :
    HasKeys input.plannedChanges fun k => k = "assignment_group" ∨ k = "story" ∨ P k := by
  unfold buildStoryTaskCreate at heval
  obtain ⟨_, _, heval⟩ := eval_run_bind heval
  obtain ⟨_, _, heval⟩ := eval_run_bind heval
  obtain ⟨parent, _, heval⟩ := eval_run_bind heval
  obtain ⟨_, _, heval⟩ := eval_run_bind heval
  obtain ⟨group, _, heval⟩ := eval_run_bind heval
  have hkeys := (h.inject "story" (.string parent.sysId)).inject "assignment_group" (.string group)
  obtain ⟨⟨validated, _⟩, hvalidated, heval⟩ := eval_run_bind heval
  obtain ⟨_, _, heval⟩ := eval_run_bind heval
  cases heval
  exact validateConstrainedFields_keys hkeys hvalidated

/-- The planner of an update adds nothing. -/
theorem buildStoryUpdate_keys {tool : String} (h : HasKeys payload P)
    (heval : (eval answers n (buildStoryUpdate binding args payload warnings tool).run).1 =
      .ok input) : HasKeys input.plannedChanges P := by
  unfold buildStoryUpdate at heval
  obtain ⟨_, _, heval⟩ := eval_run_bind heval
  obtain ⟨record, _, heval⟩ := eval_run_bind heval
  obtain ⟨_, _, heval⟩ := eval_run_bind heval
  obtain ⟨⟨validated, _⟩, hvalidated, heval⟩ := eval_run_bind heval
  cases heval
  exact validateConstrainedFields_keys h hvalidated

end Defaults

/-! ## Plan and apply -/

/-- The fields a plan call adds to what its caller sent. -/
def addedFields (tool : String) (args : List (String × Value)) (assignee owner : Option String) :
    List String :=
  (if assigneeLookedUp tool args && assignee.isSome && !containsKey "assigned_to" args then
    ["assigned_to"] else []) ++
  if tool = "story_plan_create" then
    (if containsKey "assignment_group" args then [] else ["assignment_group"]) ++
      (if owner.isSome && !containsKey "u_story_owner" args then ["u_story_owner"] else [])
  else []

theorem mem_addedFields {tool k : String} {args : List (String × Value)}
    {assignee owner : Option String} :
    k ∈ addedFields tool args assignee owner ↔
      k = "assigned_to" ∧ assigneeLookedUp tool args = true ∧ assignee.isSome = true ∧
          k ∉ args.map Prod.fst ∨
        tool = "story_plan_create" ∧ (k = "assignment_group" ∧ k ∉ args.map Prod.fst ∨
          k = "u_story_owner" ∧ owner.isSome = true ∧ k ∉ args.map Prod.fst) := by
  unfold addedFields
  rw [List.mem_append]
  refine or_congr ?_ ?_
  · split_ifs with h
    · simp only [Bool.and_eq_true, Bool.not_eq_true', Bool.eq_false_iff, Ne, containsKey_iff] at h
      rw [List.mem_singleton]
      exact ⟨fun hk => ⟨hk, h.1.1, h.1.2, hk ▸ h.2⟩, And.left⟩
    · refine iff_of_false (List.not_mem_nil) ?_
      rintro ⟨rfl, hasked, hfound, hfree⟩
      refine h ?_
      simp only [Bool.and_eq_true, Bool.not_eq_true', Bool.eq_false_iff, Ne, containsKey_iff]
      exact ⟨⟨hasked, hfound⟩, hfree⟩
  · by_cases hcreate : tool = "story_plan_create"
    · rw [if_pos hcreate, List.mem_append]
      simp only [hcreate, true_and]
      refine or_congr ?_ ?_
      · split_ifs with h
        · rw [containsKey_iff] at h
          refine iff_of_false (List.not_mem_nil) ?_
          rintro ⟨rfl, hfree⟩
          exact hfree h
        · rw [containsKey_iff] at h
          rw [List.mem_singleton]
          exact ⟨fun hk => ⟨hk, hk ▸ h⟩, And.left⟩
      · split_ifs with h
        · simp only [Bool.and_eq_true, Bool.not_eq_true', Bool.eq_false_iff, Ne,
            containsKey_iff] at h
          rw [List.mem_singleton]
          exact ⟨fun hk => ⟨hk, h.1, hk ▸ h.2⟩, And.left⟩
        · refine iff_of_false (List.not_mem_nil) ?_
          rintro ⟨rfl, hfound, hfree⟩
          refine h ?_
          simp only [Bool.and_eq_true, Bool.not_eq_true', Bool.eq_false_iff, Ne, containsKey_iff]
          exact ⟨hfound, hfree⟩
    · simp [hcreate]

/-- The user records a plan call resolves its caller to: for the assignee, and after it for
the owner. -/
def resolveCaller (answers : Nat → (r : SnowRead) → r.Ans) (tool : String)
    (args : List (String × Value)) (actor : Actor) : Option String × Option String :=
  let looked := eval answers 0 (assigneeLookup tool args actor)
  (looked.1, (eval answers looked.2 (resolveActorSysUserSysId actor)).1)

theorem mem_keys_strip {tool k : String} {args : List (String × Value)} :
    k ∈ (stripNonWritableSelectorFields tool args).map Prod.fst ↔
      k ∈ args.map Prod.fst ∧ k ∉ metadataFields ∧ k ∉ planSelectorFields tool := by
  have hfold : ∀ (names : List String) (fields : List (String × Value)),
      k ∈ (names.foldl (fun fields field => remove field fields) fields).map Prod.fst ↔
        k ∈ fields.map Prod.fst ∧ k ∉ names := by
    intro names
    induction names with
    | nil => simp
    | cons name names ih =>
      intro fields
      rw [List.foldl_cons, ih, mem_keys_remove, List.mem_cons, not_or]
      exact ⟨fun h => ⟨h.1.2, h.1.1, h.2⟩, fun h => ⟨⟨h.2.1, h.1⟩, h.2.2⟩⟩
  rw [stripNonWritableSelectorFields, hfold, List.mem_append, not_or]

theorem lookup_strip {tool k : String} {args : List (String × Value)}
    (hmeta : k ∉ metadataFields) (hselector : k ∉ planSelectorFields tool) :
    lookup k (stripNonWritableSelectorFields tool args) = lookup k args := by
  have hremove : ∀ (name : String) (fields : List (String × Value)), k ≠ name →
      lookup k (remove name fields) = lookup k fields := by
    intro name fields hne
    rw [lookup, lookup, remove, List.find?_filter]
    congr 2
    funext f
    by_cases hf : f.1 = k
    · simp [hf, hne]
    · simp [hf]
  have hfold : ∀ (names : List String) (fields : List (String × Value)), k ∉ names →
      lookup k (names.foldl (fun fields field => remove field fields) fields) =
        lookup k fields := by
    intro names
    induction names with
    | nil => exact fun _ _ => rfl
    | cons name names ih =>
      intro fields hnames
      rw [List.mem_cons, not_or] at hnames
      rw [List.foldl_cons, ih _ hnames.2, hremove name fields hnames.1]
  refine hfold _ args ?_
  rw [List.mem_append, not_or]
  exact ⟨hmeta, hselector⟩

theorem assigneeLookup_strip {tool : String} {args : List (String × Value)} {actor : Actor}
    (hselector : "assigned_to" ∉ planSelectorFields tool) :
    assigneeLookup tool (stripNonWritableSelectorFields tool args) actor =
      assigneeLookup tool args actor := by
  unfold assigneeLookup assigneeLookedUp
  rw [lookup_strip (by decide) hselector]

/-- Where every field of a payload is the caller's, added, or accepted on its own, the payload
is accepted exactly when the added fields are listed. -/
theorem rejections_iff_listed {tool : String} {args payload : List (String × Value)}
    {added : List String} (htool : tool ∈ storyPlanToolNames)
    (hplan : fieldGovernanceRejections tool args policy .planInput = [])
    (hsources : ∀ k ∈ payload.map Prod.fst, k ∈ added ∨
      k ∈ (stripNonWritableSelectorFields tool args).map Prod.fst ∨
      FieldAccepted (applyToolForPlanTool tool) policy .writePayload k)
    (hadded : ∀ k ∈ added, k ∈ payload.map Prod.fst)
    (hplain : ∀ k ∈ added, k ∉ blockedFieldsForTool tool ∧ k ∉ metadataFields ∧
      k ∉ planSelectorFields tool ∧
      fieldGovernanceAllowsWithoutPolicy (applyToolForPlanTool tool) k .writePayload = false) :
    fieldGovernanceRejections (applyToolForPlanTool tool) payload policy .writePayload = [] ↔
      ∀ k ∈ added, k ∈ fieldAllowlistForApplyTool policy (applyToolForPlanTool tool) := by
  rw [fieldGovernanceRejections_eq_nil] at hplan ⊢
  constructor
  · intro h k hk
    obtain ⟨_, hmeta, _, hexempt⟩ := hplain k hk
    exact (h k (hadded k hk)).listed htool hmeta hexempt
  · intro h k hk
    rcases hsources k hk with hk | hk | hk
    · obtain ⟨hblocked, _, hselector, _⟩ := hplain k hk
      exact fieldAccepted_of_listed htool hblocked hselector (h k hk)
    · obtain ⟨hk, hmeta, hselector⟩ := mem_keys_strip.mp hk
      exact fieldAccepted_apply htool (hplan k hk) hmeta hselector
    · exact hk

section Agreement

variable {state : DaemonState} {binding : BoardBinding} {args : List (String × Value)}
  {tool : String} {actor : Actor} {input : PlanInput}
  {answers : Nat → (r : SnowRead) → r.Ans}

/-- The assignee is a key of the resolved payload when it is the caller's or was added. -/
theorem resolvedKey_sources (args : List (String × Value)) (assignee owner : Option String)
    (hselector : "assigned_to" ∉ planSelectorFields tool) :
    (∀ k, ResolvedKey tool (stripNonWritableSelectorFields tool args) assignee k →
      k ∈ addedFields tool args assignee owner ∨
        k ∈ (stripNonWritableSelectorFields tool args).map Prod.fst) ∧
    (assigneeLookedUp tool args = true → assignee.isSome = true →
      ResolvedKey tool (stripNonWritableSelectorFields tool args) assignee "assigned_to") := by
  have hlooked : assigneeLookedUp tool (stripNonWritableSelectorFields tool args) =
      assigneeLookedUp tool args := by
    unfold assigneeLookedUp
    rw [lookup_strip (by decide) hselector]
  unfold ResolvedKey
  rw [hlooked]
  refine ⟨fun k hkey => ?_, fun hasked hfound => ?_⟩
  · split_ifs at hkey with hasked
    · unfold AssigneeSet at hkey
      split_ifs at hkey with hname
      · subst hname
        by_cases hgiven : "assigned_to" ∈ args.map Prod.fst
        · exact .inr (mem_keys_strip.mpr ⟨hgiven, by decide, hselector⟩)
        · have hfree : containsKey "assigned_to" args = false := by
            rw [Bool.eq_false_iff, Ne, containsKey_iff]
            exact hgiven
          exact .inl (by simp [addedFields, hasked, hkey, hfree])
      · exact .inr hkey
    · exact .inr hkey
  · simp [hasked, AssigneeSet, hfound]

/-- **When plan and apply agree on the fields.**  The payload of an accepted plan passes the
field governance of the apply tool exactly when the tool's allowlist has the fields the planner
added on its own. -/
theorem fieldGovernance_agrees_iff
    (hplan : fieldGovernanceRejections tool args state.policy .planInput = [])
    (hbuild : (eval answers 0 (buildPlanInput state binding args tool actor).run).1 = .ok input) :
    (∃ payload, input.plannedChanges = .object payload ∧
      fieldGovernanceRejections (applyToolForPlanTool tool) payload state.policy
        .writePayload = []) ↔
      ∀ k ∈ addedFields tool args (resolveCaller answers tool args actor).1
          (resolveCaller answers tool args actor).2,
        k ∈ fieldAllowlistForApplyTool state.policy (applyToolForPlanTool tool) := by
  unfold buildPlanInput at hbuild
  obtain ⟨⟨payload, warnings⟩, hassign, hbuild⟩ := eval_run_bind hbuild
  obtain ⟨hn, hkeys⟩ := resolveAssigneeInPayload_eval hassign
  -- the two lookups of the caller, one after the other
  have hselector : "assigned_to" ∉ planSelectorFields tool := by
    unfold planSelectorFields
    split <;> decide
  rw [assigneeLookup_strip hselector] at hn hkeys
  rw [hn] at hbuild
  obtain ⟨hsources, hfound⟩ := resolvedKey_sources args
    (resolveCaller answers tool args actor).1 (resolveCaller answers tool args actor).2 hselector
  dsimp only at hbuild
  have hpayload : ∀ {fields}, input.plannedChanges = .object fields →
      ((∃ payload, input.plannedChanges = .object payload ∧
        fieldGovernanceRejections (applyToolForPlanTool tool) payload state.policy
          .writePayload = []) ↔
        fieldGovernanceRejections (applyToolForPlanTool tool) fields state.policy
          .writePayload = []) := by
    intro fields hchanges
    constructor
    · rintro ⟨payload, hpayload, hnone⟩
      rw [hchanges] at hpayload
      cases hpayload
      exact hnone
    · exact fun hnone => ⟨fields, hchanges, hnone⟩
  -- a field the planner sets is the caller's when the caller sent it
  have hsent : ∀ {k}, k ∈ args.map Prod.fst → k ∉ metadataFields → k ∉ planSelectorFields tool →
      k ∈ (stripNonWritableSelectorFields tool args).map Prod.fst :=
    fun hk hmeta hselector => mem_keys_strip.mpr ⟨hk, hmeta, hselector⟩
  by_cases hcreate : tool = "story_plan_create"
  · subst hcreate
    obtain ⟨P, ⟨fields, hchanges, hfields⟩, hgroup, howner, hkept, hupper⟩ :=
      buildStoryCreate_keys hkeys hbuild
    refine (hpayload hchanges).trans (rejections_iff_listed (by decide) hplan ?_ ?_ ?_)
    · intro k hk
      rcases hupper k ((hfields k).mp hk) with rfl | rfl | ⟨rfl, hresolved⟩ | ⟨rfl, hlisted⟩ | hk
      · exact .inr (.inr ⟨rfl, rfl⟩)
      · by_cases hgiven : "assignment_group" ∈ args.map Prod.fst
        · exact .inr (.inl (hsent hgiven (by decide) (by decide)))
        · exact .inl (mem_addedFields.mpr (.inr ⟨rfl, .inl ⟨rfl, hgiven⟩⟩))
      · by_cases hgiven : "u_story_owner" ∈ args.map Prod.fst
        · exact .inr (.inl (hsent hgiven (by decide) (by decide)))
        · exact .inl (mem_addedFields.mpr (.inr ⟨rfl, .inr ⟨rfl, hresolved, hgiven⟩⟩))
      · exact .inr (.inr (fieldAccepted_of_listed (by decide) (by decide) (by decide) hlisted))
      · exact (hsources k hk).imp_right .inl
    · intro k hk
      rw [hfields]
      rcases mem_addedFields.mp hk with
        ⟨rfl, hasked, hresolved, _⟩ | ⟨_, ⟨rfl, _⟩ | ⟨rfl, hresolved, _⟩⟩
      · exact hkept _ (by decide) (hfound hasked hresolved)
      · exact hgroup
      · exact howner hresolved
    · intro k hk
      rcases mem_addedFields.mp hk with ⟨rfl, _⟩ | ⟨_, ⟨rfl, _⟩ | ⟨rfl, _⟩⟩ <;> decide
  by_cases htask : tool = "story_task_plan_create"
  · subst htask
    obtain ⟨fields, hchanges, hfields⟩ := buildStoryTaskCreate_keys hkeys hbuild
    refine (hpayload hchanges).trans (rejections_iff_listed (by decide) hplan ?_ ?_ ?_)
    · intro k hk
      rcases (hfields k).mp hk with rfl | rfl | hk
      · exact .inr (.inr ⟨rfl, rfl⟩)
      · exact .inr (.inr ⟨rfl, rfl⟩)
      · exact (hsources k hk).imp_right .inl
    · intro k hk
      rw [hfields]
      rcases mem_addedFields.mp hk with ⟨rfl, hasked, hresolved, _⟩ | ⟨hname, _⟩
      · exact .inr (.inr (hfound hasked hresolved))
      · exact absurd hname (by decide)
    · intro k hk
      rcases mem_addedFields.mp hk with ⟨rfl, _⟩ | ⟨hname, _⟩
      · decide
      · exact absurd hname (by decide)
  by_cases hupdate : tool = "story_plan_update" ∨ tool = "story_task_plan_update"
  · have hbuild' : (eval answers (eval answers 0 (assigneeLookup tool args actor)).2
        (buildStoryUpdate binding args payload warnings tool).run).1 = .ok input := by
      rcases hupdate with rfl | rfl <;> exact hbuild
    obtain ⟨fields, hchanges, hfields⟩ := buildStoryUpdate_keys hkeys hbuild'
    have htool : tool ∈ storyPlanToolNames := by rcases hupdate with rfl | rfl <;> decide
    refine (hpayload hchanges).trans (rejections_iff_listed htool hplan ?_ ?_ ?_)
    · intro k hk
      exact (hsources k ((hfields k).mp hk)).imp_right .inl
    · intro k hk
      rw [hfields]
      rcases mem_addedFields.mp hk with ⟨rfl, hasked, hresolved, _⟩ | ⟨hname, _⟩
      · exact hfound hasked hresolved
      · exact absurd hname hcreate
    · intro k hk
      rcases mem_addedFields.mp hk with ⟨rfl, _⟩ | ⟨hname, _⟩
      · rcases hupdate with rfl | rfl <;> decide
      · exact absurd hname hcreate
  · simp [not_or.mp hupdate] at hbuild

end Agreement

/-! ## An allowlist without the owner -/

/-- A daemon whose tool may write these fields of a new Story. -/
def allowingState (allowlist : List String) : DaemonState :=
  { sampleState with
    policy :=
      { sampleState.policy with
        tools := [("story_apply_create",
          { (sampleTool "story_apply_create").2 with fieldAllowlist := allowlist })] } }

/-- A new Story without an owner. -/
def ownerlessArgs : List (String × Value) :=
  [("assigned_to", .null), ("description", .string "text"), ("short_description", .string "title")]

/-- A caller who is named by a `sys_id`. -/
def sysIdActor : Actor := ⟨"0123456789abcdef0123456789abcdef", none, none⟩

/-- Nothing is found. -/
def noAnswers : Nat → (r : SnowRead) → r.Ans := fun _ => sampleServiceNow.read

/-- The planned changes of an accepted plan for that Story. -/
def plannedStory (allowlist : List String) : Option Value :=
  ((eval noAnswers 0 (buildPlanInput (allowingState allowlist) sampleBoard ownerlessArgs
    "story_plan_create" sysIdActor).run).1.toOption).map PlanInput.plannedChanges

theorem plannedStory_input {allowlist : List String} {changes : Value}
    (h : plannedStory allowlist = some changes) :
    ∃ input, (eval noAnswers 0 (buildPlanInput (allowingState allowlist) sampleBoard
      ownerlessArgs "story_plan_create" sysIdActor).run).1 = .ok input ∧
        input.plannedChanges = changes := by
  obtain ⟨input, hinput, hchanges⟩ := Option.map_eq_some_iff.mp h
  cases hresult : (eval noAnswers 0 (buildPlanInput (allowingState allowlist) sampleBoard
      ownerlessArgs "story_plan_create" sysIdActor).run).1 with
  | error err =>
    rw [hresult] at hinput
    cases hinput
  | ok input' =>
    rw [hresult] at hinput
    cases hinput
    exact ⟨input, rfl, hchanges⟩

/-- The Story with its owner. -/
def ownedStory : Value :=
  obj (ownerlessArgs ++ [("active", .bool true), ("assignment_group", .string "group"),
    ("backlog_type", .string "product"), ("u_story_owner", .string sysIdActor.subject)])

/-- With the default allowlist, the added owner is accepted. -/
theorem fieldGovernance_agrees_default :
    ∃ input, (eval noAnswers 0 (buildPlanInput
        (allowingState (defaultFieldAllowlist "story_apply_create")) sampleBoard ownerlessArgs
        "story_plan_create" sysIdActor).run).1 = .ok input ∧
      ∃ payload, input.plannedChanges = .object payload ∧
        fieldGovernanceRejections "story_apply_create" payload
          (allowingState (defaultFieldAllowlist "story_apply_create")).policy .writePayload = [] := by
  have hplanned : plannedStory (defaultFieldAllowlist "story_apply_create") = some ownedStory := by
    decide +kernel
  obtain ⟨input, hinput, _⟩ := plannedStory_input hplanned
  exact ⟨input, hinput, (fieldGovernance_agrees_iff (by decide) hinput).mpr (by decide +kernel)⟩

/-- **A plan that is doomed by its own owner.**  The planner fills in an owner that the
configured allowlist does not have. -/
theorem fieldGovernance_disagrees :
    ¬ ∀ (state : DaemonState) (binding : BoardBinding) (args : List (String × Value))
      (tool : String) (actor : Actor) (input : PlanInput)
      (answers : Nat → (r : SnowRead) → r.Ans),
      fieldGovernanceRejections tool args state.policy .planInput = [] →
      (eval answers 0 (buildPlanInput state binding args tool actor).run).1 = .ok input →
      ∃ payload, input.plannedChanges = .object payload ∧
        fieldGovernanceRejections (applyToolForPlanTool tool) payload state.policy
          .writePayload = [] := by
  intro hagrees
  have hplanned : plannedStory ["backlog_type", "assigned_to", "assignment_group", "description",
      "short_description"] = some ownedStory := by decide +kernel
  obtain ⟨input, hinput, hchanges⟩ := plannedStory_input hplanned
  obtain ⟨payload, hpayload, hnone⟩ := hagrees _ _ _ _ _ _ _ (by decide) hinput
  have hrejected : (ownedStory.asObject.map fun payload =>
      fieldGovernanceRejections "story_apply_create" payload (allowingState ["backlog_type",
        "assigned_to", "assignment_group", "description", "short_description"]).policy
        .writePayload) ≠ some [] := by decide +kernel
  rw [← hchanges, hpayload] at hrejected
  exact hrejected (congrArg some hnone)

end StoryWrite

end SnowAgent
