import SnowAgent.BulkApply
import SnowAgent.RecordPages
import SnowAgent.Letters

/-! # Planning an update of an incident

One incident is updated through `incident_plan_update`, several through the bulk tool.  Both
refuse a state selector that speaks of cancelling and resolve any other against the live
choices; only the bulk tool looks at the choice it resolves to as well.
-/
namespace SnowAgent

open Json Text

/-- The screening of both tools: `to_ascii_lowercase().contains("cancel")`. -/
def speaksOfCancel (text : String) : Bool := contains (toAsciiLowercase text) "cancel"

namespace ChangeWrite

/-! ## One incident -/

/-- An error of a read, or a state that is not resolved. -/
inductive UpstreamError where
  | snow (text : String)
  | unresolvedState (err : Core.IncidentAssignmentGroupListError)

/-- `PlanBuildError`. -/
inductive PlanBuildError where
  | invalid (field : String)
  | fieldRejected (fields : List Value)
  | notFound (message : String)
  | wrongType (number table : String)
  | terminalRecord (number : String)
  | upstream (err : UpstreamError)

/-- `IncidentAssignmentGroup`. -/
structure IncidentAssignmentGroup where
  sysId : String
  name : String

/-- `UserLookup` of an active user. -/
inductive ActiveUserLookup where
  | sysId (sysId : String)
  | query (query : String)

/-- What the core answers while one update is planned; nothing is asked twice. -/
structure UpdateReads where
  /-- `get_record_live_without_persistence`. -/
  record : String → Except String (Option SnowRecord)
  incidentAssignmentGroups : Except String (List IncidentAssignmentGroup)
  currentUserSysId : Except String String
  /-- `lookup_user`: the `sys_id` of the user found. -/
  lookupUser : ActiveUserLookup → Except String (Option String)
  /-- `field_choices("incident", "state")`. -/
  fieldChoices : Except String (List FieldChoice)

/-- The result of a read, or the error it is reported as. -/
def upstream {A : Type} (result : Except String A) : Except PlanBuildError A :=
  result.mapError fun text => .upstream (.snow text)

/-- `strip_non_writable_selector_fields` of an update. -/
def stripNonWritableSelectorFields (args : List (String × Value)) : List (String × Value) :=
  remove "number" (metadataFields.foldl (fun fields field => remove field fields) args)

/-- `reject_cancel_state`. -/
def rejectCancelState (payload : List (String × Value)) : Except PlanBuildError Unit :=
  if ((lookup "state" payload).bind Value.asStr).any speaksOfCancel then
    .error (.fieldRejected [fieldReason "state" "value_constrained"])
  else .ok ()

/-- `require_string`. -/
def requireString (args : List (String × Value)) (field : String) : Except PlanBuildError Unit :=
  match ((lookup field args).bind Value.asStr).filter fun value => trim value ≠ "" with
  | some _ => .ok ()
  | none => .error (.invalid field)

/-- The selector a field is given by. -/
def selectorOf (field : String) (value : Value) : Except PlanBuildError String :=
  match (value.asStr.map trim).filter (· ≠ "") with
  | some selector => .ok selector
  | none => .error (.invalid field)

section Payload

variable (reads : UpdateReads)

/-- The group a selector names. -/
def resolveAssignmentGroup (value : Value) : Except PlanBuildError String := do
  let selector ← selectorOf "assignment_group" value
  let groups ← upstream reads.incidentAssignmentGroups
  match groups.filter fun group =>
      eqIgnoreAsciiCase group.sysId selector || eqIgnoreAsciiCase group.name selector with
  | [group] => .ok group.sysId
  | [] =>
    .error (.fieldRejected [fieldReason "assignment_group" "not_an_active_membership"])
  | _ => .error (.fieldRejected [fieldReason "assignment_group" "ambiguous_group"])

/-- The user a selector names. -/
def resolveAssignedTo (value : Value) : Except PlanBuildError String := do
  let selector ← selectorOf "assigned_to" value
  if eqIgnoreAsciiCase selector "unassigned" then .ok ""
  else if eqIgnoreAsciiCase selector "me" then upstream reads.currentUserSysId
  else
    let lookup :=
      match Core.normalizeRecordLookupSysId selector with
      | .ok sysId => ActiveUserLookup.sysId sysId
      | .error _ => ActiveUserLookup.query selector
    match ← upstream (reads.lookupUser lookup) with
    | some sysId => .ok sysId
    | none => .error (.fieldRejected [fieldReason "assigned_to" "active_user_not_found"])

/-- The raw value of the state a selector names. -/
def resolveState (value : Value) : Except PlanBuildError String := do
  let selector ← selectorOf "state" value
  let choices ← upstream reads.fieldChoices
  let choice ← (Core.resolveIncidentState selector choices).mapError fun err =>
    .upstream (.unresolvedState err)
  .ok choice.value

/-- Replaces the value of a field by what it resolves to. -/
def resolveField (resolve : Value → Except PlanBuildError String) (field : String)
    (payload : List (String × Value)) : Except PlanBuildError (List (String × Value)) :=
  match lookup field payload with
  | none => .ok payload
  | some value => (resolve value).map fun resolved => insert field (.string resolved) payload

/-- The check of a journal field. -/
def checkJournal (field : String) (payload : List (String × Value)) : Except PlanBuildError Unit :=
  match lookup field payload with
  | none => .ok ()
  | some value =>
    match value.asStr with
    | none => .error (.invalid field)
    | some text =>
      if trim text = "" ∨ 16000 < text.toList.length then .error (.invalid field) else .ok ()

/-- The fields an update may change. -/
def incidentChanges : List String :=
  ["assigned_to", "assignment_group", "state", "work_notes", "comments"]

/-- At least one field is changed. -/
def requireChange (payload : List (String × Value)) : Except PlanBuildError Unit :=
  if payload.any fun entry => incidentChanges.contains entry.1 then .ok ()
  else .error (.fieldRejected [fieldReason "changes" "at_least_one_change_required"])

/-- `normalize_incident_update_payload`. -/
def normalizeIncidentUpdatePayload (payload : List (String × Value)) :
    Except PlanBuildError (List (String × Value)) := do
  requireChange payload
  let payload ← resolveField (resolveAssignmentGroup reads) "assignment_group" payload
  let payload ← resolveField (resolveAssignedTo reads) "assigned_to" payload
  let payload ← resolveField (resolveState reads) "state" payload
  checkJournal "work_notes" payload
  checkJournal "comments" payload
  .ok payload

/-- `record_is_terminal`. -/
def recordIsTerminal (record : SnowRecord) : Bool :=
  let state :=
    match record.fields.get "state" with
    | some field =>
      toAsciiLowercase field.value ++ " " ++ toAsciiLowercase (field.displayValue.getD "")
    | none => toAsciiLowercase record.state
  ["closed", "complete", "completed", "cancel", "cancelled"].any (contains state)

/-- `PlanInput`. -/
structure IncidentPlanInput where
  target : RecordRef
  plannedChanges : List (String × Value)
  concurrencyToken : Option ConcurrencyToken

/-- Reads the record that is to be changed. -/
def requireIncident (number : String) : Except PlanBuildError SnowRecord := do
  match ← upstream (reads.record number) with
  | none => .error (.notFound ("record " ++ number ++ " not found"))
  | some record =>
    if record.table = "incident" then .ok record
    else .error (.wrongType record.number record.table)

/-- `build_plan_input` of `incident_plan_update`, under a policy that skips terminal records
or does not. -/
def buildIncidentUpdate (skipTerminalRecords : Bool) (args : List (String × Value)) :
    Except PlanBuildError IncidentPlanInput := do
  let payload := stripNonWritableSelectorFields args
  rejectCancelState payload
  requireString args "number"
  let number := ((lookup "number" args).bind Value.asStr).getD ""
  let record ← requireIncident reads number
  let payload ← normalizeIncidentUpdatePayload reads payload
  if skipTerminalRecords && recordIsTerminal record then .error (.terminalRecord number)
  else
    .ok {
      target := record.ref
      plannedChanges := payload
      concurrencyToken := concurrencyFromRecord record }

end Payload

end ChangeWrite

/-! ## Several incidents -/

namespace BulkWrite

/-- `IncidentPatch`. -/
structure IncidentPatch where
  assignedTo : Option String
  assignmentGroup : Option String
  state : Option String
  workNotes : Option String
  comments : Option String

/-- `valid_sys_id`. -/
def validSysId (value : String) : Bool :=
  value.toList.length = 32 && value.toList.all fun c =>
    c.isDigit || (97 ≤ (lowerChar c).toNat && (lowerChar c).toNat ≤ 102)

/-- The check of a reference. -/
def normalizeReference (field : String) : Option String →
    Except BuildError (List (String × String))
  | none => .ok []
  | some value =>
    if validSysId (trim value) then .ok [(field, toAsciiLowercase (trim value))]
    else .error (.invalid "INVALID_REFERENCE" (field ++ " must be an exact 32-hex sys_id"))

/-- The check of a state, with the answer of `field_choices`. -/
def normalizeState (choices : Except String (List FieldChoice)) : Option String →
    Except BuildError (List (String × String))
  | none => .ok []
  | some value => do
    let selector := trim value
    if selector = "" ∨ speaksOfCancel selector = true then
      .error (.invalid "STATE_REJECTED" "state is empty or cancellation is forbidden")
    else
      let choices ← choices.mapError fun _ => BuildError.read .serviceNowError
      let choice ← (Core.resolveIncidentState selector choices).mapError fun _ =>
        BuildError.invalid "INCIDENT_STATE_UNRESOLVED"
          "state is not an exact raw value or live choice label"
      if speaksOfCancel choice.value || speaksOfCancel choice.label then
        .error (.invalid "STATE_REJECTED" "cancellation states are forbidden")
      else .ok [("state", choice.value)]

/-- The check of a journal field. -/
def normalizeJournal (field : String) : Option String → Except BuildError (List (String × String))
  | none => .ok []
  | some value =>
    if trim value = "" ∨ 16000 < value.toList.length then
      .error (.invalid "JOURNAL_REJECTED" (field ++ " must contain 1..=16000 characters"))
    else .ok [(field, value)]

/-- `normalize_patch` of a patch that is there. -/
def normalizePatch (choices : Except String (List FieldChoice)) (patch : IncidentPatch) :
    Except BuildError (List (String × String)) := do
  let assignedTo ← normalizeReference "assigned_to" patch.assignedTo
  let assignmentGroup ← normalizeReference "assignment_group" patch.assignmentGroup
  let state ← normalizeState choices patch.state
  let workNotes ← normalizeJournal "work_notes" patch.workNotes
  let comments ← normalizeJournal "comments" patch.comments
  .ok (assignedTo ++ assignmentGroup ++ state ++ workNotes ++ comments)

end BulkWrite

/-! ## When an update is planned -/

variable {input : IncidentPlanInput}

namespace ChangeWrite

/-- A value that is there resolves. -/
def Resolves (resolve : Value → Except PlanBuildError String) (value : Option Value) : Prop :=
  ∀ v ∈ value, ∃ resolved, resolve v = .ok resolved

variable {key : String}

section ResolveField

variable {resolve : Value → Except PlanBuildError String} {field : String}
  {payload payload' : List (String × Value)}

theorem resolveField_ok_iff :
    (∃ payload', resolveField resolve field payload = .ok payload') ↔
      Resolves resolve (lookup field payload) := by
  rw [resolveField, Resolves]
  cases lookup field payload with
  | none => simp
  | some v =>
    cases hv : resolve v with
    | error err => simp [hv, Except.map]
    | ok resolved => simp [hv, Except.map]

theorem resolveField_other (h : resolveField resolve field payload = .ok payload')
    (hkey : key ≠ field) : lookup key payload' = lookup key payload := by
  rw [resolveField] at h
  cases hv : lookup field payload with
  | none =>
    rw [hv] at h
    rw [Except.ok.inj h]
  | some v =>
    rw [hv] at h
    obtain ⟨resolved, -, rfl⟩ := map_eq_ok_iff.mp h
    exact lookup_insert_of_ne hkey _ _

theorem resolveField_own (h : resolveField resolve field payload = .ok payload') {v : Value}
    (hv : lookup field payload = some v) :
    ∃ resolved, resolve v = .ok resolved ∧ lookup field payload' = some (.string resolved) := by
  rw [resolveField, hv] at h
  obtain ⟨resolved, hresolved, rfl⟩ := map_eq_ok_iff.mp h
  exact ⟨resolved, hresolved, lookup_insert_self _ _ _⟩

end ResolveField

theorem checkJournal_congr {field : String} {payload payload' : List (String × Value)}
    (h : lookup field payload' = lookup field payload) :
    checkJournal field payload' = checkJournal field payload := by
  rw [checkJournal, checkJournal, h]

section Update

variable {reads : UpdateReads} {skip : Bool} {args payload payload' : List (String × Value)}

/-- The parts of a payload other than its state can be planned. -/
structure PayloadFine (reads : UpdateReads) (payload : List (String × Value)) : Prop where
  change : requireChange payload = .ok ()
  assignmentGroup : Resolves (resolveAssignmentGroup reads) (lookup "assignment_group" payload)
  assignedTo : Resolves (resolveAssignedTo reads) (lookup "assigned_to" payload)
  workNotes : checkJournal "work_notes" payload = .ok ()
  comments : checkJournal "comments" payload = .ok ()

/-- A payload is normalised just when its state and its other parts can be. -/
theorem normalizeIncidentUpdatePayload_ok_iff :
    (∃ payload', normalizeIncidentUpdatePayload reads payload = .ok payload') ↔
      PayloadFine reads payload ∧ Resolves (resolveState reads) (lookup "state" payload) := by
  constructor
  · rintro ⟨last, h⟩
    rw [normalizeIncidentUpdatePayload] at h
    obtain ⟨⟨⟩, hchange, h⟩ := bind_eq_ok h
    obtain ⟨p₁, hgroup, h⟩ := bind_eq_ok h
    obtain ⟨p₂, huser, h⟩ := bind_eq_ok h
    obtain ⟨p₃, hstate, h⟩ := bind_eq_ok h
    obtain ⟨⟨⟩, hnotes, h⟩ := bind_eq_ok h
    obtain ⟨⟨⟩, hcomments, -⟩ := bind_eq_ok h
    have hother : ∀ key, key ≠ "assignment_group" → key ≠ "assigned_to" → key ≠ "state" →
        lookup key p₃ = lookup key payload := fun key h₁ h₂ h₃ =>
      (resolveField_other hstate h₃).trans
        ((resolveField_other huser h₂).trans (resolveField_other hgroup h₁))
    refine ⟨⟨hchange, resolveField_ok_iff.mp ⟨_, hgroup⟩, ?_, ?_, ?_⟩, ?_⟩
    · rw [← resolveField_other hgroup (show "assigned_to" ≠ "assignment_group" by decide)]
      exact resolveField_ok_iff.mp ⟨_, huser⟩
    · rw [← checkJournal_congr (hother _ (by decide) (by decide) (by decide))]
      exact hnotes
    · rw [← checkJournal_congr (hother _ (by decide) (by decide) (by decide))]
      exact hcomments
    · rw [← resolveField_other hgroup (show "state" ≠ "assignment_group" by decide),
        ← resolveField_other huser (show "state" ≠ "assigned_to" by decide)]
      exact resolveField_ok_iff.mp ⟨_, hstate⟩
  · rintro ⟨hfine, hstates⟩
    obtain ⟨p₁, hgroup⟩ := resolveField_ok_iff.mpr hfine.assignmentGroup
    have husers := hfine.assignedTo
    rw [← resolveField_other hgroup (show "assigned_to" ≠ "assignment_group" by decide)] at husers
    obtain ⟨p₂, huser⟩ := resolveField_ok_iff.mpr husers
    rw [← resolveField_other hgroup (show "state" ≠ "assignment_group" by decide),
      ← resolveField_other huser (show "state" ≠ "assigned_to" by decide)] at hstates
    obtain ⟨p₃, hstate⟩ := resolveField_ok_iff.mpr hstates
    have hother : ∀ key, key ≠ "assignment_group" → key ≠ "assigned_to" → key ≠ "state" →
        lookup key p₃ = lookup key payload := fun key h₁ h₂ h₃ =>
      (resolveField_other hstate h₃).trans
        ((resolveField_other huser h₂).trans (resolveField_other hgroup h₁))
    refine ⟨p₃, ?_⟩
    rw [normalizeIncidentUpdatePayload]
    refine bind_eq_ok_iff.mpr ⟨(), hfine.change, ?_⟩
    refine bind_eq_ok_iff.mpr ⟨p₁, hgroup, bind_eq_ok_iff.mpr ⟨p₂, huser, ?_⟩⟩
    refine bind_eq_ok_iff.mpr ⟨p₃, hstate, bind_eq_ok_iff.mpr ⟨(), ?_, ?_⟩⟩
    · rw [checkJournal_congr (hother "work_notes" (by decide) (by decide) (by decide))]
      exact hfine.workNotes
    · refine bind_eq_ok_iff.mpr ⟨(), ?_, rfl⟩
      rw [checkJournal_congr (hother "comments" (by decide) (by decide) (by decide))]
      exact hfine.comments

theorem lookup_strip (hmeta : key ∉ metadataFields) (hnumber : key ≠ "number") :
    lookup key (stripNonWritableSelectorFields args) = lookup key args := by
  have hfold : ∀ (fields : List String) (args : List (String × Value)), key ∉ fields →
      lookup key (fields.foldl (fun args field => remove field args) args) = lookup key args := by
    intro fields
    induction fields with
    | nil => intro args _; rfl
    | cons field fields ih =>
      intro args hkey
      have hne : key ≠ field := by
        rintro rfl
        exact hkey List.mem_cons_self
      rw [List.foldl_cons, ih _ (fun h => hkey (List.mem_cons_of_mem _ h)), lookup_remove_of_ne hne]
  rw [stripNonWritableSelectorFields, lookup_remove_of_ne hnumber, hfold _ _ hmeta]

theorem lookup_state_strip :
    lookup "state" (stripNonWritableSelectorFields args) = lookup "state" args :=
  lookup_strip (by decide) (by decide)

/-- An update other than its state can be planned. -/
structure UpdateFine (reads : UpdateReads) (skip : Bool) (args : List (String × Value)) :
    Prop where
  number : requireString args "number" = .ok ()
  record : ∃ record,
    requireIncident reads (((lookup "number" args).bind Value.asStr).getD "") = .ok record ∧
      (skip && recordIsTerminal record) = false
  payload : PayloadFine reads (stripNonWritableSelectorFields args)

/-- **An update is planned** just when its state passes and its other parts can be. -/
theorem buildIncidentUpdate_ok_iff :
    (∃ input, buildIncidentUpdate reads skip args = .ok input) ↔ UpdateFine reads skip args ∧
        ((lookup "state" args).bind Value.asStr).any speaksOfCancel = false ∧
          Resolves (resolveState reads) (lookup "state" args) := by
  have hscreen : rejectCancelState (stripNonWritableSelectorFields args) = .ok () ↔
      ((lookup "state" args).bind Value.asStr).any speaksOfCancel = false := by
    rw [rejectCancelState, lookup_state_strip]
    cases ((lookup "state" args).bind Value.asStr).any speaksOfCancel <;> simp
  constructor
  · rintro ⟨input, h⟩
    rw [buildIncidentUpdate] at h
    obtain ⟨⟨⟩, hreject, h⟩ := bind_eq_ok h
    obtain ⟨⟨⟩, hnumber, h⟩ := bind_eq_ok h
    obtain ⟨record, hrecord, h⟩ := bind_eq_ok h
    obtain ⟨payload, hpayload, h⟩ := bind_eq_ok h
    obtain ⟨hfine, hstate⟩ := normalizeIncidentUpdatePayload_ok_iff.mp ⟨payload, hpayload⟩
    rw [lookup_state_strip] at hstate
    have hterminal : (skip && recordIsTerminal record) = false := by
      by_contra hskip
      rw [Bool.not_eq_false] at hskip
      rw [if_pos hskip] at h
      cases h
    exact ⟨⟨hnumber, ⟨record, hrecord, hterminal⟩, hfine⟩, hscreen.mp hreject, hstate⟩
  · rintro ⟨⟨hnumber, ⟨record, hrecord, hterminal⟩, hfine⟩, hreject, hstate⟩
    rw [← @lookup_state_strip args] at hstate
    obtain ⟨payload, hpayload⟩ := normalizeIncidentUpdatePayload_ok_iff.mpr ⟨hfine, hstate⟩
    refine ⟨⟨record.ref, payload, concurrencyFromRecord record⟩, ?_⟩
    rw [buildIncidentUpdate]
    refine bind_eq_ok_iff.mpr ⟨(), hscreen.mpr hreject, bind_eq_ok_iff.mpr ⟨(), hnumber, ?_⟩⟩
    refine bind_eq_ok_iff.mpr ⟨record, hrecord, bind_eq_ok_iff.mpr ⟨payload, hpayload, ?_⟩⟩
    rw [hterminal]
    rfl

/-- The state that is planned is the value its selector resolves to. -/
theorem planned_state (h : buildIncidentUpdate reads skip args = .ok input) {value : Value}
    (hvalue : lookup "state" args = some value) :
    ∃ resolved, resolveState reads value = .ok resolved ∧
      lookup "state" input.plannedChanges = some (.string resolved) := by
  rw [buildIncidentUpdate] at h
  obtain ⟨⟨⟩, -, h⟩ := bind_eq_ok h
  obtain ⟨⟨⟩, -, h⟩ := bind_eq_ok h
  obtain ⟨record, -, h⟩ := bind_eq_ok h
  obtain ⟨last, hpayload, h⟩ := bind_eq_ok h
  have hlast : input.plannedChanges = last := by
    split at h
    · cases h
    · rw [← Except.ok.inj h]
  rw [normalizeIncidentUpdatePayload] at hpayload
  obtain ⟨⟨⟩, -, hpayload⟩ := bind_eq_ok hpayload
  obtain ⟨p₁, hgroup, hpayload⟩ := bind_eq_ok hpayload
  obtain ⟨p₂, huser, hpayload⟩ := bind_eq_ok hpayload
  obtain ⟨p₃, hstate, hpayload⟩ := bind_eq_ok hpayload
  obtain ⟨⟨⟩, -, hpayload⟩ := bind_eq_ok hpayload
  obtain ⟨⟨⟩, -, hpayload⟩ := bind_eq_ok hpayload
  rw [hlast, ← Except.ok.inj hpayload]
  refine resolveField_own hstate ?_
  rw [resolveField_other huser (by decide), resolveField_other hgroup (by decide),
    lookup_state_strip, hvalue]

/-- What a text selects, when the choices are known. -/
theorem resolveState_ok_iff {choices : List FieldChoice} (hchoices : reads.fieldChoices = .ok choices)
    {text resolved : String} :
    resolveState reads (.string text) = .ok resolved ↔
      trim text ≠ "" ∧ ∃ choice, Core.resolveIncidentState text choices = .ok choice ∧
        choice.value = resolved := by
  have hselector : ∀ selector, selectorOf "state" (.string text) = .ok selector ↔
      trim text ≠ "" ∧ selector = trim text := by
    intro selector
    rw [selectorOf]
    show (match (some (trim text)).filter (· ≠ "") with
      | some selector => Except.ok selector
      | none => Except.error (ChangeWrite.PlanBuildError.invalid "state")) = .ok selector ↔ _
    by_cases hblank : trim text = ""
    · simp [Option.filter_some, hblank]
    · simp [Option.filter_some, hblank, eq_comm]
  have htrim : Core.resolveIncidentState (trim text) choices =
      Core.resolveIncidentState text choices := by
    rw [Core.resolveIncidentState, Core.resolveIncidentState, trim_trim]
  rw [resolveState, bind_eq_ok_iff]
  simp only [hselector, bind_eq_ok_iff, upstream, mapError_eq_ok_iff, hchoices]
  constructor
  · rintro ⟨selector, ⟨hblank, rfl⟩, found, hfound, choice, hchoice, hresolved⟩
    rw [← Except.ok.inj hfound, htrim] at hchoice
    exact ⟨hblank, choice, hchoice, Except.ok.inj hresolved⟩
  · rintro ⟨hblank, choice, hchoice, rfl⟩
    exact ⟨trim text, ⟨hblank, rfl⟩, choices, rfl, choice, htrim.trans hchoice, rfl⟩

end Update

end ChangeWrite

/-! ## When a patch is accepted -/

variable {text : String}

namespace BulkWrite

/-- The parts of a patch other than its state are accepted. -/
structure PatchFine (patch : IncidentPatch) : Prop where
  assignedTo : ∃ entries, normalizeReference "assigned_to" patch.assignedTo = .ok entries
  assignmentGroup :
    ∃ entries, normalizeReference "assignment_group" patch.assignmentGroup = .ok entries
  workNotes : ∃ entries, normalizeJournal "work_notes" patch.workNotes = .ok entries
  comments : ∃ entries, normalizeJournal "comments" patch.comments = .ok entries

variable {choices : Except String (List FieldChoice)} {patch : IncidentPatch}

/-- A patch is accepted just when its state and its other parts are. -/
theorem normalizePatch_ok_iff :
    (∃ entries, normalizePatch choices patch = .ok entries) ↔
      PatchFine patch ∧ ∃ entries, normalizeState choices patch.state = .ok entries := by
  constructor
  · rintro ⟨entries, h⟩
    rw [normalizePatch] at h
    obtain ⟨assignedTo, hassigned, h⟩ := bind_eq_ok h
    obtain ⟨assignmentGroup, hgroup, h⟩ := bind_eq_ok h
    obtain ⟨state, hstate, h⟩ := bind_eq_ok h
    obtain ⟨workNotes, hnotes, h⟩ := bind_eq_ok h
    obtain ⟨comments, hcomments, -⟩ := bind_eq_ok h
    exact ⟨⟨⟨_, hassigned⟩, ⟨_, hgroup⟩, ⟨_, hnotes⟩, ⟨_, hcomments⟩⟩, _, hstate⟩
  · rintro ⟨⟨⟨assignedTo, hassigned⟩, ⟨assignmentGroup, hgroup⟩, ⟨workNotes, hnotes⟩,
      ⟨comments, hcomments⟩⟩, state, hstate⟩
    refine ⟨assignedTo ++ assignmentGroup ++ state ++ workNotes ++ comments, ?_⟩
    rw [normalizePatch]
    refine bind_eq_ok_iff.mpr ⟨_, hassigned, bind_eq_ok_iff.mpr ⟨_, hgroup, ?_⟩⟩
    refine bind_eq_ok_iff.mpr ⟨_, hstate, bind_eq_ok_iff.mpr ⟨_, hnotes, ?_⟩⟩
    exact bind_eq_ok_iff.mpr ⟨_, hcomments, rfl⟩

/-- A state is accepted when neither its text nor the choice it resolves to speaks of
cancelling. -/
theorem normalizeState_ok_iff {choices : List FieldChoice} :
    (∃ entries, normalizeState (.ok choices) (some text) = .ok entries) ↔
      trim text ≠ "" ∧ speaksOfCancel text = false ∧
        ∃ choice, Core.resolveIncidentState text choices = .ok choice ∧
          speaksOfCancel choice.value = false ∧ speaksOfCancel choice.label = false := by
  have hscreen : speaksOfCancel (trim text) = speaksOfCancel text :=
    contains_lower_trim (forall_mem_of_all (by decide)) text
  have htrim : Core.resolveIncidentState (trim text) choices =
      Core.resolveIncidentState text choices := by
    rw [Core.resolveIncidentState, Core.resolveIncidentState, trim_trim]
  rw [normalizeState]
  simp only [hscreen]
  by_cases hrefused : trim text = "" ∨ speaksOfCancel text = true
  · rw [if_pos hrefused]
    constructor
    · rintro ⟨entries, h⟩
      cases h
    · rintro ⟨hblank, hcancel, -⟩
      rcases hrefused with hrefused | hrefused
      · exact absurd hrefused hblank
      · exact absurd (hcancel.symm.trans hrefused) Bool.false_ne_true
  · rw [if_neg hrefused]
    obtain ⟨hblank, hcancel⟩ := not_or.mp hrefused
    rw [Bool.not_eq_true] at hcancel
    constructor
    · rintro ⟨entries, h⟩
      obtain ⟨found, hfound, h⟩ := bind_eq_ok h
      rw [mapError_eq_ok_iff] at hfound
      rw [← Except.ok.inj hfound] at h
      obtain ⟨choice, hchoice, h⟩ := bind_eq_ok h
      rw [mapError_eq_ok_iff, htrim] at hchoice
      split at h
      · cases h
      · rename_i hplain
        rw [Bool.not_eq_true, Bool.or_eq_false_iff] at hplain
        exact ⟨hblank, hcancel, choice, hchoice, hplain⟩
    · rintro ⟨-, -, choice, hchoice, hvalue, hlabel⟩
      refine ⟨[("state", choice.value)], bind_eq_ok_iff.mpr
        ⟨choices, mapError_eq_ok_iff.mpr rfl, ?_⟩⟩
      refine bind_eq_ok_iff.mpr ⟨choice, mapError_eq_ok_iff.mpr (htrim.trans hchoice), ?_⟩
      rw [hvalue, hlabel]
      rfl

end BulkWrite

/-! ## One and several -/

/-- **The selector names a cancelled state** although it does not say so: the first choice
with its value has a label that does; or no choice has its value, and the only one with its
label has a value that does. -/
def NamesCancelled (text : String) (choices : List FieldChoice) : Prop :=
  trim text ≠ "" ∧
    ((∃ choice, (choices.find? fun choice => choice.value == trim text) = some choice ∧
        speaksOfCancel choice.label = true) ∨
      (∀ choice ∈ choices, choice.value ≠ trim text) ∧
        ∃ choice, (choices.filter fun choice => eqIgnoreAsciiCase choice.label (trim text)) =
          [choice] ∧ speaksOfCancel choice.value = true)

theorem speaksOfCancel_congr {a b : String} (h : eqIgnoreAsciiCase a b = true) :
    speaksOfCancel a = speaksOfCancel b := by
  rw [eqIgnoreAsciiCase, beq_iff_eq] at h
  rw [speaksOfCancel, speaksOfCancel, toAsciiLowercase, toAsciiLowercase, h]

theorem namesCancelled_iff (hplain : speaksOfCancel text = false) (choices : List FieldChoice) :
    NamesCancelled text choices ↔ trim text ≠ "" ∧
      ∃ choice, Core.resolveIncidentState text choices = .ok choice ∧
        (speaksOfCancel choice.value = true ∨ speaksOfCancel choice.label = true) := by
  have htext : speaksOfCancel (trim text) = false :=
    (contains_lower_trim (forall_mem_of_all (by decide)) text).trans hplain
  rw [NamesCancelled, Core.resolveIncidentState]
  refine and_congr_right fun _ => ?_
  cases hfound : choices.find? fun choice => choice.value == trim text with
  | some choice =>
    have hvalue : choice.value = trim text := by
      have htest := List.find?_some hfound
      simpa using htest
    have hthere : ¬ ∀ choice ∈ choices, choice.value ≠ trim text := fun hnone =>
      hnone choice (List.mem_of_find?_eq_some hfound) hvalue
    simp [hthere, hvalue, htext]
  | none =>
    have hnone : ∀ choice ∈ choices, choice.value ≠ trim text := by
      intro choice hmem
      have htest := List.find?_eq_none.mp hfound choice hmem
      simpa using htest
    have hlabel : ∀ choice, (choices.filter fun choice =>
        eqIgnoreAsciiCase choice.label (trim text)) = [choice] →
          speaksOfCancel choice.label = false := by
      intro choice hone
      have hmem : choice ∈ choices.filter fun choice =>
        eqIgnoreAsciiCase choice.label (trim text) := by simp [hone]
      exact (speaksOfCancel_congr (List.mem_filter.mp hmem).2).trans htext
    simp only [reduceCtorEq, false_and, exists_false, false_or]
    constructor
    · rintro ⟨-, choice, hone, hcancel⟩
      rw [hone]
      exact ⟨_, rfl, .inl hcancel⟩
    · rintro ⟨choice, hchoice, hcancel⟩
      refine ⟨hnone, ?_⟩
      split at hchoice
      · rename_i found hone
        obtain rfl := Except.ok.inj hchoice
        rw [hlabel found hone] at hcancel
        exact ⟨found, hone, hcancel.resolve_right Bool.false_ne_true⟩
      · cases hchoice
      · cases hchoice

open ChangeWrite BulkWrite

/-- A planned state is the value of the choice its selector resolves to, which speaks of
cancelling just when the selector names a cancelled state. -/
theorem planned_state_cancelled_iff {reads : UpdateReads} {skip : Bool}
    {args : List (String × Value)}
    {choices : List FieldChoice} (htext : lookup "state" args = some (.string text))
    (hchoices : reads.fieldChoices = .ok choices)
    (hplanned : buildIncidentUpdate reads skip args = .ok input) :
    ∃ choice, Core.resolveIncidentState text choices = .ok choice ∧
      lookup "state" input.plannedChanges = some (.string choice.value) ∧
        ((speaksOfCancel choice.value = false ∧ speaksOfCancel choice.label = false) ↔
          ¬ NamesCancelled text choices) := by
  obtain ⟨-, hscreen, -⟩ := buildIncidentUpdate_ok_iff.mp ⟨input, hplanned⟩
  rw [htext] at hscreen
  have hplain : speaksOfCancel text = false := hscreen
  obtain ⟨resolved, hresolved, hstate⟩ := planned_state hplanned htext
  obtain ⟨hblank, choice, hchoice, rfl⟩ := (resolveState_ok_iff hchoices).mp hresolved
  refine ⟨choice, hchoice, hstate, ?_⟩
  rw [namesCancelled_iff hplain]
  constructor
  · rintro ⟨hvalue, hlabel⟩ ⟨-, other, hother, hcancel⟩
    rw [hchoice] at hother
    obtain rfl := Except.ok.inj hother
    rw [hvalue, hlabel] at hcancel
    exact hcancel.elim Bool.false_ne_true Bool.false_ne_true
  · intro hnot
    constructor
    · by_contra hvalue
      exact hnot ⟨hblank, choice, hchoice, .inl (by simpa using hvalue)⟩
    · by_contra hlabel
      exact hnot ⟨hblank, choice, hchoice, .inr (by simpa using hlabel)⟩

/-- The two tools agree on a selector just when it does not name a cancelled state without
saying so. -/
theorem tools_agree_iff {reads : UpdateReads} {skip : Bool} {args : List (String × Value)}
    {patch : IncidentPatch} {choices : List FieldChoice}
    (htext : lookup "state" args = some (.string text)) (hpatch : patch.state = some text)
    (hchoices : reads.fieldChoices = .ok choices) (hupdate : UpdateFine reads skip args)
    (hfine : PatchFine patch) :
    ((∃ input, buildIncidentUpdate reads skip args = .ok input) ↔
        ∃ entries, normalizePatch reads.fieldChoices patch = .ok entries) ↔
      ¬ (speaksOfCancel text = false ∧ NamesCancelled text choices) := by
  have hone : (∃ input, buildIncidentUpdate reads skip args = .ok input) ↔
      speaksOfCancel text = false ∧ trim text ≠ "" ∧
        ∃ choice, Core.resolveIncidentState text choices = .ok choice := by
    rw [buildIncidentUpdate_ok_iff, htext]
    constructor
    · rintro ⟨-, hscreen, hresolves⟩
      obtain ⟨resolved, hresolved⟩ := hresolves _ rfl
      obtain ⟨hblank, choice, hchoice, -⟩ := (resolveState_ok_iff hchoices).mp hresolved
      exact ⟨hscreen, hblank, choice, hchoice⟩
    · rintro ⟨hscreen, hblank, choice, hchoice⟩
      refine ⟨hupdate, hscreen, ?_⟩
      rintro v hv
      obtain rfl := Option.mem_some_iff.mp hv
      exact ⟨choice.value, (resolveState_ok_iff hchoices).mpr ⟨hblank, choice, hchoice, rfl⟩⟩
  rw [hone, normalizePatch_ok_iff, hpatch, hchoices, normalizeState_ok_iff]
  cases hcancel : speaksOfCancel text with
  | true => simp
  | false =>
    rw [namesCancelled_iff hcancel]
    constructor
    · rintro hagree ⟨-, hblank, choice, hchoice, hspeaks⟩
      obtain ⟨-, -, -, other, hother, hvalue, hlabel⟩ := hagree.mp ⟨rfl, hblank, choice, hchoice⟩
      rw [hchoice] at hother
      obtain rfl := Except.ok.inj hother
      rw [hvalue, hlabel] at hspeaks
      exact hspeaks.elim Bool.false_ne_true Bool.false_ne_true
    · intro hnot
      constructor
      · rintro ⟨-, hblank, choice, hchoice⟩
        refine ⟨hfine, hblank, rfl, choice, hchoice, ?_, ?_⟩
        · by_contra hvalue
          exact hnot ⟨rfl, hblank, choice, hchoice, .inl (by simpa using hvalue)⟩
        · by_contra hlabel
          exact hnot ⟨rfl, hblank, choice, hchoice, .inr (by simpa using hlabel)⟩
      · rintro ⟨-, hblank, -, choice, hchoice, -, -⟩
        exact ⟨rfl, hblank, choice, hchoice⟩

/-- **Forbidden cancellation.**  The state planned for one incident is the value of the choice
its selector resolves to, which speaks of cancelling just when the selector names a
cancelled state; and the single and the bulk tool accept the same selectors but for those
that name a cancelled state without saying so. -/
theorem incident_states_exact (reads : UpdateReads) (skip : Bool) (args : List (String × Value)) :
    (∀ (input : IncidentPlanInput) (text : String) (choices : List FieldChoice),
      lookup "state" args = some (.string text) → reads.fieldChoices = .ok choices →
      buildIncidentUpdate reads skip args = .ok input →
      ∃ choice, Core.resolveIncidentState text choices = .ok choice ∧
        lookup "state" input.plannedChanges = some (.string choice.value) ∧
          ((speaksOfCancel choice.value = false ∧ speaksOfCancel choice.label = false) ↔
            ¬ NamesCancelled text choices)) ∧
    ∀ (patch : IncidentPatch) (text : String) (choices : List FieldChoice),
      lookup "state" args = some (.string text) → patch.state = some text →
      reads.fieldChoices = .ok choices → UpdateFine reads skip args → PatchFine patch →
      (((∃ input, buildIncidentUpdate reads skip args = .ok input) ↔
          ∃ entries, normalizePatch reads.fieldChoices patch = .ok entries) ↔
        ¬ (speaksOfCancel text = false ∧ NamesCancelled text choices)) :=
  ⟨fun _ _ _ => planned_state_cancelled_iff, fun _ _ _ => tools_agree_iff⟩

/-! ### An incident with a cancelled state -/

variable (selector : String)

/-- The live choices of an incident's state. -/
def incidentChoices : List FieldChoice := [⟨"New", "1", false⟩, ⟨"Cancelled", "8", true⟩]

/-- An incident that is new, with those choices. -/
def newIncidentReads : UpdateReads where
  record _ := .ok (some
    { sysId := "i1"
      number := "INC0000001"
      table := "incident"
      state := "1"
      fields := []
      references := []
      json := .null })
  incidentAssignmentGroups := .ok []
  currentUserSysId := .ok "u1"
  lookupUser _ := .ok none
  fieldChoices := .ok incidentChoices

/-- The arguments that set its state. -/
def stateArgs (selector : String) : List (String × Value) :=
  [("number", .string "INC0000001"), ("state", .string selector)]

/-- The patch that sets its state. -/
def statePatch (selector : String) : IncidentPatch := ⟨none, none, some selector, none, none⟩

theorem updateFine_stateArgs :
    UpdateFine newIncidentReads true (stateArgs selector) where
  number := rfl
  record := ⟨_, rfl, by decide⟩
  payload :=
    { change := rfl
      assignmentGroup := fun _ h => by cases h
      assignedTo := fun _ h => by cases h
      workNotes := rfl
      comments := rfl }

theorem patchFine_statePatch : PatchFine (statePatch selector) where
  assignedTo := ⟨_, rfl⟩
  assignmentGroup := ⟨_, rfl⟩
  workNotes := ⟨_, rfl⟩
  comments := ⟨_, rfl⟩

theorem not_namesCancelled_new : ¬ NamesCancelled "new" incidentChoices := by
  rintro ⟨-, ⟨choice, hfound, -⟩ | ⟨-, choice, hone, hcancel⟩⟩
  · have hnone : (incidentChoices.find? fun choice => choice.value == trim "new") = none := by
      decide
    rw [hnone] at hfound
    cases hfound
  · have hfilter : (incidentChoices.filter fun choice =>
        eqIgnoreAsciiCase choice.label (trim "new")) = [⟨"New", "1", false⟩] := by decide
    rw [hfilter] at hone
    obtain rfl := List.singleton_inj.mp hone
    revert hcancel
    decide

/-- Both tools accept "new". -/
theorem incident_states_exact_new :
    ((∃ input, buildIncidentUpdate newIncidentReads true (stateArgs "new") = .ok input) ↔
      ∃ entries, normalizePatch newIncidentReads.fieldChoices (statePatch "new") = .ok entries) ∧
    ∃ input choice, buildIncidentUpdate newIncidentReads true (stateArgs "new") = .ok input ∧
      Core.resolveIncidentState "new" incidentChoices = .ok choice ∧
        speaksOfCancel choice.value = false ∧ speaksOfCancel choice.label = false := by
  have hagree := ((incident_states_exact newIncidentReads true (stateArgs "new")).2
    (statePatch "new") "new" incidentChoices rfl rfl rfl (updateFine_stateArgs "new")
    (patchFine_statePatch "new")).mpr fun h => not_namesCancelled_new h.2
  refine ⟨hagree, ?_⟩
  obtain ⟨input, hinput⟩ := hagree.mpr ⟨[("state", "1")], rfl⟩
  obtain ⟨choice, hchoice, -, hplain⟩ := (incident_states_exact newIncidentReads true
    (stateArgs "new")).1 input "new" incidentChoices rfl rfl hinput
  exact ⟨input, choice, hinput, hchoice, hplain.mpr not_namesCancelled_new⟩

/-- The raw value of the cancelled state is planned for one incident, and refused in bulk. -/
theorem cancelled_value_planned :
    ((buildIncidentUpdate newIncidentReads true (stateArgs "8")).map fun input =>
        lookup "state" input.plannedChanges) = .ok (some (.string "8")) ∧
      (Core.resolveIncidentState "8" incidentChoices).map (speaksOfCancel ·.label) = .ok true ∧
      normalizePatch newIncidentReads.fieldChoices (statePatch "8") =
        .error (.invalid "STATE_REJECTED" "cancellation states are forbidden") := by
  refine ⟨rfl, rfl, rfl⟩

end SnowAgent
