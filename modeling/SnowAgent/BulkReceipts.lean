import SnowAgent.BulkApply

/-! # What a bulk receipt says

A call is watched along its path: which targets it has sent a PATCH for, which of these were
acknowledged, which were found not to be as planned, and which were lost sight of after their
PATCH.  The receipt a call saves says just that, target by target and in the order of the plan.
-/
namespace SnowAgent

open Json Interleaving Program

namespace BulkWrite

/-! ## What a call has done to a target -/

/-- Whether an event is a PATCH of an incident. -/
def patched (sysId : String) : Event DaemonIO → Bool
  | ⟨.write _ (.patchIncident id _), _⟩ => id == sysId
  | _ => false

/-- Whether an event is a PATCH of an incident that ServiceNow has acknowledged. -/
def acknowledged (sysId : String) : Event DaemonIO → Bool
  | ⟨.write _ (.patchIncident id _), .ok _⟩ => id == sysId
  | _ => false

/-- Whether an answer shows a target as it was planned. -/
def asPlanned (target : BulkPlannedTarget)
    (answer : Except IncidentReadError (StringMap FieldValue)) : Bool :=
  match resolveTarget answer with
  | .ok current => current.sysUpdatedOn = target.sysUpdatedOn
  | .error _ => false

/-- Whether an event is a read that does not show a target as it was planned. -/
def unplanned (target : BulkPlannedTarget) : Event DaemonIO → Bool
  | ⟨.read (.incidentGet none (some id)), answer⟩ =>
    id == target.target.sysId && !asPlanned target answer
  | _ => false

/-- Whether an event fails to show an incident, or to replace it in the cache. -/
def lost (sysId : String) : Event DaemonIO → Bool
  | ⟨.read (.incidentGet none (some id)), answer⟩ => id == sysId && !(resolveTarget answer).isOk
  | ⟨.write _ (.refreshProjection id), .error _⟩ => id == sysId
  | _ => false

/-- What a past shows of a target. -/
structure Seen where
  /-- A PATCH was sent. -/
  sent : Bool
  /-- A PATCH was acknowledged. -/
  acked : Bool
  /-- The target was not as planned. -/
  refused : Bool
  /-- The target could not be read, or not be replaced in the cache. -/
  lost : Bool
deriving DecidableEq

/-- Nothing but reads that found the target as planned. -/
def Seen.untouched : Seen := ⟨false, false, false, false⟩

/-- What a past shows of a target. -/
def see (target : BulkPlannedTarget) (past : List (Event DaemonIO)) : Seen where
  sent := past.any (patched target.target.sysId)
  acked := past.any (acknowledged target.target.sysId)
  refused := past.any (unplanned target)
  lost := past.any (lost target.target.sysId)

/-- The incident an action is about. -/
def about : DaemonAct → Option String
  | .read (.incidentGet none (some id)) => some id
  | .write _ (.patchIncident id _) => some id
  | .write _ (.refreshProjection id) => some id
  | _ => none

section Past

variable {past past' : List (Event DaemonIO)} {target : BulkPlannedTarget} {sysId : String}

variable {ev : Event DaemonIO}

theorem patched_of_about (h : about ev.1 ≠ some sysId) : patched sysId ev = false := by
  unfold patched
  split
  · simpa [about] using h
  · rfl

theorem patched_of_acknowledged (h : acknowledged sysId ev = true) : patched sysId ev = true := by
  unfold acknowledged at h
  split at h
  · exact h
  · cases h

theorem any_patched_of_acknowledged (h : past.any (acknowledged sysId) = true) :
    past.any (patched sysId) = true := by
  obtain ⟨ev, hev, hack⟩ := List.any_eq_true.mp h
  exact List.any_eq_true.mpr ⟨ev, hev, patched_of_acknowledged hack⟩

theorem unplanned_of_about (h : about ev.1 ≠ some target.target.sysId) :
    unplanned target ev = false := by
  unfold unplanned
  split
  · simp only [about, ne_eq, Option.some.injEq] at h
    simp [h]
  · rfl

theorem lost_of_about (h : about ev.1 ≠ some sysId) : lost sysId ev = false := by
  unfold lost
  split
  · simp only [about, ne_eq, Option.some.injEq] at h
    simp [h]
  · simpa [about] using h
  · rfl

/-- What a past shows of a target does not change with what is not about it. -/
theorem see_of_extends (h : Extends (fun e => about e ≠ some target.target.sysId) past past') :
    see target past' = see target past := by
  obtain ⟨more, rfl, hmore⟩ := h
  have hnone : ∀ f : Event DaemonIO → Bool,
      (∀ ev : Event DaemonIO, about ev.1 ≠ some target.target.sysId → f ev = false) →
      (past ++ more).any f = past.any f := by
    intro f hf
    have hmore' : more.any f = false :=
      List.any_eq_false.mpr fun ev hev => by simp [hf ev (hmore ev hev)]
    rw [List.any_append, hmore', Bool.or_false]
  have hacked : ∀ ev : Event DaemonIO, about ev.1 ≠ some target.target.sysId →
      acknowledged target.target.sysId ev = false := by
    intro ev hev
    by_contra hack
    rw [Bool.not_eq_false] at hack
    have hpatched := patched_of_acknowledged hack
    rw [patched_of_about hev] at hpatched
    cases hpatched
  unfold see
  rw [hnone _ fun _ => patched_of_about, hnone _ hacked, hnone _ fun _ => unplanned_of_about,
    hnone _ fun _ => lost_of_about]

variable (past target) in
/-- A read of the target. -/
theorem see_read (answer : Except IncidentReadError (StringMap FieldValue)) :
    see target (past ++ [⟨.read (.incidentGet none (some target.target.sysId)), answer⟩]) =
      { see target past with
        refused := (see target past).refused || !asPlanned target answer
        lost := (see target past).lost || !(resolveTarget answer).isOk } := by
  simp [see, patched, acknowledged, unplanned, lost]

variable (past target) in
/-- A PATCH of the target. -/
theorem see_patch (planId : String) (patch : StringMap String)
    (answer : Except String (Option String)) :
    see target (past ++ [⟨.write planId (.patchIncident target.target.sysId patch), answer⟩]) =
      { see target past with
        sent := true
        acked := (see target past).acked || answer.isOk } := by
  cases answer <;> simp [see, patched, acknowledged, unplanned, lost, Except.isOk, Except.toBool]

variable (past target) in
/-- A replacement of the target in the cache. -/
theorem see_refresh (planId : String) (answer : Except String Unit) :
    see target (past ++ [⟨.write planId (.refreshProjection target.target.sysId), answer⟩]) =
      { see target past with lost := (see target past).lost || !answer.isOk } := by
  cases answer <;> simp [see, patched, acknowledged, unplanned, lost, Except.isOk, Except.toBool]

end Past

/-! ## Truthful receipts -/

/-- A plan that a call has loaded. -/
def Loaded (plan : BulkPlan) (past : List (Event DaemonIO)) : Prop :=
  ∃ planId, (⟨.store (.getBulkPlan planId), .ok (some plan)⟩ : Event DaemonIO) ∈ past

/-- What a result says of a target is what a past shows of it. -/
structure TruthfulResult (past : List (Event DaemonIO)) (target : BulkPlannedTarget)
    (result : BulkTargetResult) : Prop where
  identity : ⟨result.number, result.sysId⟩ = target.target
  applied : result.status = .applied ↔ (see target past).acked = true
  notAttempted : result.status = .notAttempted ↔
    (see target past).sent = false ∧ result.errorCode = none
  blamed : result.errorCode.isSome = true ↔
    (see target past).acked = false ∧ ((see target past).sent || (see target past).refused) = true

/-- Applied results, at most one that failed, and then results that were not attempted. -/
def Stepped (results : List BulkTargetResult) : Prop :=
  ∃ applied failed notAttempted, failed ≤ 1 ∧
    results.map BulkTargetResult.status =
      List.replicate applied .applied ++
        (List.replicate failed .failed ++ List.replicate notAttempted .notAttempted)

/-- What a receipt says of a plan is what a past shows. -/
structure Truthful (plan : BulkPlan) (past : List (Event DaemonIO)) (receipt : BulkReceipt) :
    Prop where
  results : List.Forall₂ (TruthfulResult past) plan.preview.targets receipt.targetResults
  stepped : Stepped receipt.targetResults
  applied_count : receipt.appliedCount = countStatus .applied receipt.targetResults
  failed_count : receipt.failedCount = countStatus .failed receipt.targetResults
  notAttempted_count : receipt.notAttemptedCount = countStatus .notAttempted receipt.targetResults
  counts : receipt.appliedCount + receipt.failedCount + receipt.notAttemptedCount =
    plan.preview.targets.length
  coherent : receipt.cacheCoherent = true ↔ ∀ target ∈ plan.preview.targets,
    (see target past).acked = true → (see target past).lost = false
  success : receipt.status = .success ↔
    (∀ result ∈ receipt.targetResults, result.status = .applied) ∧ receipt.cacheCoherent = true

/-- No PATCH was acknowledged. -/
def Unapplied (past : List (Event DaemonIO)) : Prop :=
  ∀ sysId, past.any (acknowledged sysId) = false

/-! ## The receipt along the loop -/

/-- What the invariant keeps of a result: whose it is, its status, and whether it has an error. -/
def outline (result : BulkTargetResult) : BulkTargetIdentity × BulkTargetStatus × Bool :=
  (⟨result.number, result.sysId⟩, result.status, result.errorCode.isSome)

/-- The outline of a target with a status. -/
def marked (status : BulkTargetStatus) (target : BulkPlannedTarget) :
    BulkTargetIdentity × BulkTargetStatus × Bool :=
  (target.target, status, status = .failed)

/-- A receipt is right about a plan, some targets of which were applied, then one perhaps failed,
and the rest were not touched. -/
structure Reached (plan : BulkPlan) (past : List (Event DaemonIO)) (receipt : BulkReceipt)
    (done : List BulkPlannedTarget) (failed : Option BulkPlannedTarget)
    (rest : List BulkPlannedTarget) : Prop where
  targets : plan.preview.targets = done ++ (failed.toList ++ rest)
  outlines : receipt.targetResults.map outline =
    done.map (marked .applied) ++ (failed.toList.map (marked .failed) ++
      rest.map (marked .notAttempted))
  applied : ∀ target ∈ done, (see target past).sent = true ∧ (see target past).acked = true
  blamed : ∀ target ∈ failed, (see target past).acked = false ∧
    ((see target past).sent || (see target past).refused) = true
  untouched : ∀ target ∈ rest, see target past = .untouched
  only : ∀ sysId, past.any (patched sysId) = true →
    ∃ target ∈ plan.preview.targets, target.target.sysId = sysId
  coherent : receipt.cacheCoherent = true ↔ ∀ target ∈ done, (see target past).lost = false
  success : receipt.status = .success

section Marks

variable {receipt : BulkReceipt} {front back : List BulkTargetResult} {result : BulkTargetResult}

/-- A result that was not attempted, or is not any more. -/
def idle (result : BulkTargetResult) : BulkTargetResult :=
  { result with
    status := .notAttempted
    changedFields := []
    errorCode := none }

theorem markApplied_targetResults (sha256 : Sha256) (target : BulkPlannedTarget)
    (before : StringMap FieldValue) (observed : String)
    (h : receipt.targetResults = front ++ result :: back) :
    (markApplied sha256 receipt front.length target before observed).targetResults =
      front ++ { number := target.target.number
                 sysId := target.target.sysId
                 status := .applied
                 changedFields := changedFields sha256 target.patch before
                 observedSysUpdatedOn := observed
                 errorCode := none } :: back := by
  show receipt.targetResults.set _ _ = _
  rw [h, List.set_append_right _ _ (Nat.le_refl _), Nat.sub_self, List.set_cons_zero]

theorem markNotAttemptedAfter_targetResults (h : receipt.targetResults = front ++ result :: back) :
    (markNotAttemptedAfter receipt front.length).targetResults =
      front ++ result :: back.map idle := by
  show receipt.targetResults.take _ ++ (receipt.targetResults.drop _).map idle = _
  have hsplit : receipt.targetResults = (front ++ [result]) ++ back := by simp [h]
  have hlength : front.length + 1 = (front ++ [result]).length := by simp
  rw [hsplit, hlength, List.take_left, List.drop_left, List.append_assoc, List.singleton_append]

theorem markFailedAndRemaining_targetResults (code observed : String)
    (h : receipt.targetResults = front ++ result :: back) :
    (markFailedAndRemaining receipt front.length code observed).targetResults =
      front ++ failedResult code observed result :: back.map idle := by
  refine markNotAttemptedAfter_targetResults ?_
  show receipt.targetResults.modify _ _ = _
  rw [h, List.modify_eq_take_drop, List.take_left, List.drop_left, List.modifyHead_cons]

theorem outlines_idle {targets : List BulkPlannedTarget}
    (h : back.map outline = targets.map (marked .notAttempted)) :
    (back.map idle).map outline = targets.map (marked .notAttempted) := by
  have hsame : ∀ result ∈ back, outline (idle result) = outline result := by
    intro result hresult
    obtain ⟨target, _, hmarked⟩ := List.mem_map.mp (h ▸ List.mem_map_of_mem hresult)
    rw [← hmarked]
    exact Prod.ext (congrArg Prod.fst hmarked).symm rfl
  rw [List.map_map, ← h]
  exact List.map_congr_left hsame

end Marks

/-! ### One target -/

variable {progress : Progress}

/-- The actions that concern no target but one. -/
def Near (target : BulkPlannedTarget) (e : DaemonAct) : Prop :=
  about e = none ∨ about e = some target.target.sysId

section Turn

variable {plan : BulkPlan} {past past' : List (Event DaemonIO)} {receipt : BulkReceipt}
  {done rest : List BulkPlannedTarget} {target : BulkPlannedTarget}

/-- The results of the targets before, of the target and of those after it. -/
theorem Reached.split (h : Reached plan past receipt done none (target :: rest)) :
    ∃ front result back, receipt.targetResults = front ++ result :: back ∧
      front.length = done.length ∧ front.map outline = done.map (marked .applied) ∧
      outline result = marked .notAttempted target ∧
      back.map outline = rest.map (marked .notAttempted) := by
  have houtlines := h.outlines
  rw [Option.toList_none, List.map_nil, List.nil_append, List.map_cons] at houtlines
  obtain ⟨front, more, hresults, hfront, hmore⟩ := List.map_eq_append_iff.mp houtlines
  obtain ⟨result, back, rfl, hresult, hback⟩ := List.map_eq_cons_iff.mp hmore
  refine ⟨front, result, back, hresults, ?_, hfront, hresult, hback⟩
  simpa using congrArg List.length hfront

/-- What concerns one target leaves what is known of the others. -/
theorem Reached.others (h : Reached plan past receipt done none (target :: rest))
    (hnear : Extends (Near target) past past') :
    (∀ t ∈ done, see t past' = see t past) ∧ (∀ t ∈ rest, see t past' = .untouched) ∧
      ∀ sysId, past'.any (patched sysId) = true →
        ∃ t ∈ plan.preview.targets, t.target.sysId = sysId := by
  have hdistinct := plan.preview.distinct
  rw [h.targets, Option.toList_none, List.nil_append] at hdistinct
  have hother : ∀ t : BulkPlannedTarget, t.target.sysId ≠ target.target.sysId →
      see t past' = see t past := by
    intro t hne
    refine see_of_extends (hnear.mono fun e he => ?_)
    rcases he with he | he
    · rw [he]
      exact nofun
    · rw [he]
      exact fun heq => hne (Option.some.inj heq).symm
  rw [List.map_append, List.map_cons, List.nodup_append] at hdistinct
  obtain ⟨_, hback, hapart⟩ := hdistinct
  refine ⟨fun t ht => hother t ?_, fun t ht => ?_, fun sysId hsent => ?_⟩
  · exact hapart _ (List.mem_map_of_mem ht) _ List.mem_cons_self
  · rw [hother t ?_]
    · exact h.untouched t (List.mem_cons_of_mem _ ht)
    · intro heq
      exact (List.nodup_cons.mp hback).1 (heq ▸ List.mem_map_of_mem ht)
  · obtain ⟨more, rfl, hmore⟩ := hnear
    rw [List.any_append, Bool.or_eq_true] at hsent
    rcases hsent with hsent | hsent
    · exact h.only sysId hsent
    · obtain ⟨ev, hev, hpatched⟩ := List.any_eq_true.mp hsent
      refine ⟨target, by rw [h.targets]; simp, ?_⟩
      by_contra hne
      have hunpatched : patched sysId ev = false := by
        refine patched_of_about ?_
        rcases hmore ev hev with hnone | hsome
        · rw [hnone]
          exact nofun
        · rw [hsome]
          exact fun heq => hne (Option.some.inj heq)
      rw [hunpatched] at hpatched
      cases hpatched

/-- How a turn of the loop ends. -/
inductive Outcome (sha256 : Sha256) (receipt : BulkReceipt) (index : Nat)
    (target : BulkPlannedTarget) (past : List (Event DaemonIO)) : Progress → Prop where
  | applied {before : StringMap FieldValue} {observed : String}
      (sent : (see target past).sent = true) (acked : (see target past).acked = true)
      (seen : (see target past).lost = false) :
      Outcome sha256 receipt index target past
        (markApplied sha256 receipt index target before observed, none)
  | lost {before : StringMap FieldValue} {observed : String} {failure : Failure}
      (sent : (see target past).sent = true) (acked : (see target past).acked = true)
      (lost : (see target past).lost = true) :
      Outcome sha256 receipt index target past
        (markNotAttemptedAfter
          (markApplied sha256 { receipt with cacheCoherent := false } index target before observed)
          index, some failure)
  | failed {code observed : String} {failure : Failure}
      (unacked : (see target past).acked = false)
      (blamed : ((see target past).sent || (see target past).refused) = true) :
      Outcome sha256 receipt index target past
        (markFailedAndRemaining receipt index code observed, some failure)

/-- The loop has ended: it has a failure unless every target was applied and is in the cache. -/
def Ended (plan : BulkPlan) (past : List (Event DaemonIO)) (progress : Progress) : Prop :=
  ∃ done failed rest, Reached plan past progress.1 done failed rest ∧
    (progress.2 = none ↔ failed = none ∧ rest = [] ∧ progress.1.cacheCoherent = true)

variable {sha256 : Sha256} {before : StringMap FieldValue} {observed code : String}
  {failure : Failure}

section

variable (h : Reached plan past receipt done none (target :: rest))
  (hnear : Extends (Near target) past past')

include h hnear

/-- After a target that was applied. -/
theorem Reached.afterApplied (hsent : (see target past').sent = true)
    (hacked : (see target past').acked = true) (hseen : (see target past').lost = false) :
    Reached plan past' (markApplied sha256 receipt done.length target before observed)
      (done ++ [target]) none rest := by
  obtain ⟨front, result, back, hresults, hlength, hfront, -, hback⟩ := h.split
  obtain ⟨hdone, hrest, honly⟩ := h.others hnear
  refine ⟨by rw [h.targets]; simp, ?_, ?_, nofun, hrest, honly, ?_, h.success⟩
  · rw [← hlength, markApplied_targetResults sha256 target before observed hresults,
      List.map_append, List.map_cons, hfront, hback]
    simp [outline, marked]
  · intro t ht
    rcases List.mem_append.mp ht with ht | ht
    · rw [hdone t ht]
      exact h.applied t ht
    · rw [List.mem_singleton.mp ht]
      exact ⟨hsent, hacked⟩
  · have hcoherent := h.coherent
    constructor
    · intro hreceipt t ht
      rcases List.mem_append.mp ht with ht | ht
      · rw [hdone t ht]
        exact hcoherent.mp hreceipt t ht
      · rw [List.mem_singleton.mp ht]
        exact hseen
    · intro hall
      refine hcoherent.mpr fun t ht => ?_
      rw [← hdone t ht]
      exact hall t (List.mem_append_left _ ht)

/-- After a target that was applied and then lost. -/
theorem Reached.afterLost (hsent : (see target past').sent = true)
    (hacked : (see target past').acked = true) (hlost : (see target past').lost = true) :
    Reached plan past'
      (markNotAttemptedAfter (markApplied sha256 { receipt with cacheCoherent := false }
        done.length target before observed) done.length) (done ++ [target]) none rest := by
  obtain ⟨front, result, back, hresults, hlength, hfront, -, hback⟩ := h.split
  obtain ⟨hdone, hrest, honly⟩ := h.others hnear
  refine ⟨by rw [h.targets]; simp, ?_, ?_, nofun, hrest, honly, ?_, h.success⟩
  · have hlosing : ({ receipt with cacheCoherent := false } : BulkReceipt).targetResults =
        front ++ result :: back := hresults
    rw [← hlength, markNotAttemptedAfter_targetResults
      (markApplied_targetResults sha256 target before observed hlosing), List.map_append,
        List.map_cons, hfront, outlines_idle hback]
    simp [outline, marked]
  · intro t ht
    rcases List.mem_append.mp ht with ht | ht
    · rw [hdone t ht]
      exact h.applied t ht
    · rw [List.mem_singleton.mp ht]
      exact ⟨hsent, hacked⟩
  · refine ⟨nofun, fun hall => ?_⟩
    have hseen := hall target (by simp)
    rw [hlost] at hseen
    cases hseen

/-- After a target that has failed. -/
theorem Reached.afterFailed (hunacked : (see target past').acked = false)
    (hblamed : ((see target past').sent || (see target past').refused) = true) :
    Reached plan past' (markFailedAndRemaining receipt done.length code observed) done
      (some target) rest := by
  obtain ⟨front, result, back, hresults, hlength, hfront, hresult, hback⟩ := h.split
  obtain ⟨hdone, hrest, honly⟩ := h.others hnear
  refine ⟨h.targets, ?_, ?_, ?_, hrest, honly, ?_, h.success⟩
  · rw [← hlength, markFailedAndRemaining_targetResults code observed hresults,
      List.map_append, List.map_cons, hfront, outlines_idle hback]
    have hidentity : (outline result).1 = target.target := by rw [hresult]; rfl
    have hfailed : outline (failedResult code observed result) = marked .failed target :=
      Prod.ext hidentity rfl
    rw [hfailed]
    rfl
  · intro t ht
    rw [hdone t ht]
    exact h.applied t ht
  · rintro t ht
    cases ht
    exact ⟨hunacked, hblamed⟩
  · refine h.coherent.trans ⟨fun hall t ht => ?_, fun hall t ht => ?_⟩
    · rw [hdone t ht]
      exact hall t ht
    · rw [← hdone t ht]
      exact hall t ht

end

/-- A turn that ends with a failure ends the loop; after any other the loop goes on. -/
theorem Outcome.reached (h : Reached plan past receipt done none (target :: rest))
    (hcoherent : receipt.cacheCoherent = true) (hnear : Extends (Near target) past past')
    (houtcome : Outcome sha256 receipt done.length target past' progress) :
    (progress.2 ≠ none ∧ Ended plan past' progress) ∨
      (progress.2 = none ∧ Reached plan past' progress.1 (done ++ [target]) none rest ∧
        progress.1.cacheCoherent = true) := by
  cases houtcome with
  | applied hsent hacked hseen =>
    exact .inr ⟨rfl, h.afterApplied hnear hsent hacked hseen, hcoherent⟩
  | lost hsent hacked hlost =>
    refine .inl ⟨nofun, _, _, _, h.afterLost hnear hsent hacked hlost, nofun, ?_⟩
    rintro ⟨_, _, hfalse⟩
    cases hfalse
  | failed hunacked hblamed =>
    refine .inl ⟨nofun, _, _, _, h.afterFailed hnear hunacked hblamed, nofun, ?_⟩
    rintro ⟨hfalse, _⟩
    cases hfalse

end Turn

/-! ### What the receipt of an ended loop says -/

section Conclusion

variable {plan : BulkPlan} {past past' : List (Event DaemonIO)} {receipt : BulkReceipt}
  {done rest : List BulkPlannedTarget} {failed : Option BulkPlannedTarget}

/-- The status a target should have. -/
def Seen.status (s : Seen) : BulkTargetStatus :=
  if s.acked then .applied else if s.sent || s.refused then .failed else .notAttempted

variable {target : BulkPlannedTarget}

/-- A PATCH is sent before it is acknowledged. -/
theorem sent_of_acked (h : (see target past).acked = true) : (see target past).sent = true :=
  any_patched_of_acknowledged h

/-- The results of a receipt are those of the targets. -/
theorem Reached.outlines_eq (h : Reached plan past receipt done failed rest) :
    receipt.targetResults.map outline =
      plan.preview.targets.map fun target => marked (see target past).status target := by
  rw [h.outlines, h.targets, List.map_append, List.map_append]
  congr 1
  · refine List.map_congr_left fun target ht => ?_
    simp [Seen.status, h.applied target ht]
  · congr 1
    · refine List.map_congr_left fun target ht => ?_
      obtain ⟨hunacked, hblamed⟩ := h.blamed target (Option.mem_toList.mp ht)
      simp only [Seen.status, hunacked, hblamed, Bool.false_eq_true, if_false, if_true]
    · refine List.map_congr_left fun target ht => ?_
      rw [h.untouched target ht]
      rfl

theorem truthfulResult_of_outline {result : BulkTargetResult}
    (h : marked (see target past).status target = outline result) :
    TruthfulResult past target result := by
  obtain ⟨hidentity, hmarks⟩ := Prod.mk.inj h
  obtain ⟨hstatus, herror⟩ := Prod.mk.inj hmarks
  have hsent : (see target past).acked = true → (see target past).sent = true := sent_of_acked
  have hnone : result.errorCode = none ↔ result.errorCode.isSome = false := by simp
  refine ⟨hidentity.symm, ?_, ?_, ?_⟩
  · rw [← hstatus, Seen.status]
    split_ifs <;> simp_all
  · rw [hnone, ← hstatus, ← herror, Seen.status]
    split_ifs <;> simp_all
  · rw [← herror, Seen.status]
    split_ifs <;> simp_all

section

variable (h : Reached plan past receipt done failed rest)

include h

theorem Reached.truthfulResults :
    List.Forall₂ (TruthfulResult past) plan.preview.targets receipt.targetResults := by
  have hequal : List.Forall₂ (· = ·)
      (plan.preview.targets.map fun target => marked (see target past).status target)
      (receipt.targetResults.map outline) := by
    rw [h.outlines_eq, List.forall₂_eq_eq_eq]
  rw [List.forall₂_map_left_iff, List.forall₂_map_right_iff] at hequal
  exact hequal.imp fun _ _ => truthfulResult_of_outline

/-- The statuses of a receipt. -/
theorem Reached.statuses :
    receipt.targetResults.map BulkTargetResult.status = List.replicate done.length .applied ++
        (List.replicate failed.toList.length .failed ++
          List.replicate rest.length .notAttempted) := by
  have hstatuses := congrArg (List.map fun o => o.2.1) h.outlines
  rw [List.map_map, List.map_append, List.map_append, List.map_map, List.map_map, List.map_map]
    at hstatuses
  simpa [Function.comp_def, outline, marked] using hstatuses

theorem Reached.stepped :
    Stepped receipt.targetResults :=
  ⟨_, _, _, by cases failed <;> simp, h.statuses⟩

end

theorem countStatus_sum (results : List BulkTargetResult) :
    countStatus .applied results + countStatus .failed results +
      countStatus .notAttempted results = results.length := by
  induction results with
  | nil => rfl
  | cons result results ih =>
    simp only [countStatus, List.countP_cons, List.length_cons] at ih ⊢
    cases result.status <;> simp <;> omega

section

variable (h : Reached plan past receipt done failed rest)

include h

/-- Every result says applied exactly if no target failed and none is left. -/
theorem Reached.all_applied_iff :
    (∀ result ∈ receipt.targetResults, result.status = .applied) ↔ failed = none ∧ rest = [] := by
  have hall : (∀ result ∈ receipt.targetResults, result.status = .applied) ↔
      ∀ status ∈ receipt.targetResults.map BulkTargetResult.status, status = .applied := by
    simp
  rw [hall, h.statuses]
  constructor
  · intro hstatus
    constructor
    · cases failed with
      | none => rfl
      | some target => exact absurd (hstatus .failed (by simp)) nofun
    · cases rest with
      | nil => rfl
      | cons target rest => exact absurd (hstatus .notAttempted (by simp)) nofun
  · rintro ⟨rfl, rfl⟩ status hstatus
    simp only [Option.toList_none, List.length_nil, List.replicate_zero, List.append_nil] at hstatus
    exact List.eq_of_mem_replicate hstatus

/-- The receipt is in order about the cache. -/
theorem Reached.coherent_iff :
    receipt.cacheCoherent = true ↔ ∀ target ∈ plan.preview.targets,
      (see target past).acked = true → (see target past).lost = false := by
  refine h.coherent.trans ⟨fun hdone target ht hacked => ?_, fun hall target ht => ?_⟩
  · rw [h.targets] at ht
    rcases List.mem_append.mp ht with ht | ht
    · exact hdone target ht
    · exfalso
      rcases List.mem_append.mp ht with ht | ht
      · rw [(h.blamed target (Option.mem_toList.mp ht)).1] at hacked
        cases hacked
      · rw [h.untouched target ht] at hacked
        cases hacked
  · exact hall target (by rw [h.targets]; exact List.mem_append_left _ ht) (h.applied target ht).2

/-- Nothing was applied if no result says so. -/
theorem Reached.unapplied (hnone : countStatus .applied receipt.targetResults = 0) : Unapplied past := by
  have hdone : done = [] := by
    cases done with
    | nil => rfl
    | cons target done =>
      have hmem : BulkTargetStatus.applied ∈
          receipt.targetResults.map BulkTargetResult.status := by
        rw [h.statuses]
        simp
      obtain ⟨result, hresult, happlied⟩ := List.mem_map.mp hmem
      exact absurd (by simpa using happlied) (List.countP_eq_zero.mp hnone result hresult)
  intro sysId
  by_contra hack
  rw [Bool.not_eq_false] at hack
  obtain ⟨target, ht, rfl⟩ := h.only sysId (any_patched_of_acknowledged hack)
  have hacked : (see target past).acked = true := hack
  rw [h.targets, hdone, List.nil_append] at ht
  rcases List.mem_append.mp ht with ht | ht
  · rw [(h.blamed target (Option.mem_toList.mp ht)).1] at hacked
    cases hacked
  · rw [h.untouched target ht] at hacked
    cases hacked

/-- What is not about any target changes nothing. -/
theorem Reached.extend (hext : Extends (fun e => about e = none) past past') :
    Reached plan past' receipt done failed rest := by
  have hsee : ∀ target, see target past' = see target past := fun target =>
    see_of_extends (hext.mono fun e he => by rw [he]; exact nofun)
  refine ⟨h.targets, h.outlines, ?_, ?_, ?_, ?_, ?_, h.success⟩
  · intro target ht
    rw [hsee]
    exact h.applied target ht
  · intro target ht
    rw [hsee]
    exact h.blamed target ht
  · intro target ht
    rw [hsee]
    exact h.untouched target ht
  · intro sysId hsent
    obtain ⟨more, rfl, hmore⟩ := hext
    rw [List.any_append, Bool.or_eq_true] at hsent
    refine h.only sysId (hsent.resolve_right fun hsent => ?_)
    obtain ⟨ev, hev, hpatched⟩ := List.any_eq_true.mp hsent
    rw [patched_of_about (by rw [hmore ev hev]; exact nofun)] at hpatched
    cases hpatched
  · refine h.coherent.trans ⟨fun hall target ht => ?_, fun hall target ht => ?_⟩
    · rw [hsee]
      exact hall target ht
    · rw [← hsee]
      exact hall target ht

end

/-- The receipt that is saved when the loop has ended. -/
def finalReceipt (completedAt : DateTime) (progress : Progress) : BulkReceipt :=
  settledReceipt (recount { progress.1 with completedAt := completedAt }) progress.2

theorem Ended.extend (h : Ended plan past progress)
    (hext : Extends (fun e => about e = none) past past') : Ended plan past' progress := by
  obtain ⟨done, failed, rest, hreached, hfailure⟩ := h
  exact ⟨done, failed, rest, hreached.extend hext, hfailure⟩

/-- **The final receipt is truthful.** -/
theorem Ended.truthful (h : Ended plan past progress)
    (completedAt : DateTime) : Truthful plan past (finalReceipt completedAt progress) := by
  obtain ⟨done, failed, rest, hreached, hfailure⟩ := h
  have hresults : (finalReceipt completedAt progress).targetResults = progress.1.targetResults := by
    unfold finalReceipt settledReceipt
    split <;> rfl
  have hcoherent : (finalReceipt completedAt progress).cacheCoherent = progress.1.cacheCoherent := by
    unfold finalReceipt settledReceipt
    split <;> rfl
  have hcounts : recount (finalReceipt completedAt progress) = finalReceipt completedAt progress := by
    unfold finalReceipt settledReceipt
    split <;> rfl
  have hlength := hreached.truthfulResults.length_eq
  refine ⟨?_, ?_, ?_, ?_, ?_, ?_, ?_, ?_⟩
  · rw [hresults]
    exact hreached.truthfulResults
  · rw [hresults]
    exact hreached.stepped
  · exact (congrArg BulkReceipt.appliedCount hcounts).symm
  · exact (congrArg BulkReceipt.failedCount hcounts).symm
  · exact (congrArg BulkReceipt.notAttemptedCount hcounts).symm
  · rw [← hcounts, hlength, ← hresults]
    exact countStatus_sum _
  · rw [hcoherent]
    exact hreached.coherent_iff
  · rw [hresults, hcoherent, hreached.all_applied_iff, and_assoc, ← hfailure]
    unfold finalReceipt settledReceipt
    cases progress.2 with
    | none => exact iff_of_true hreached.success rfl
    | some failure => exact iff_of_false nofun nofun

end Conclusion

end BulkWrite

end SnowAgent
