import SnowAgent.BulkReceipts
import SnowAgent.TokenSpend

/-! # Bulk calls

A call sends a PATCH for a target only after it has marked its key and consumed its token, and
only once.  What it saves at the end is truthful of its own path, whatever ServiceNow and the
stores have answered; and as a token is consumed once, the calls of a run that present one token
send one PATCH at most for a target.
-/
namespace SnowAgent

open Json Interleaving Program

namespace BulkWrite

/-! ## What a call may do -/

variable {request : BulkApplyRequest}

/-- Whether an event has marked a key for the call. -/
def marksKey (key : String) : Event DaemonIO → Bool
  | ⟨.store (.markBulkStarted _ k tool), .ok true⟩ => k == key && tool == applyTool
  | _ => false

/-- A call has marked its key and consumed its token. -/
def Started (request : BulkApplyRequest) (past : List (Event DaemonIO)) : Prop :=
  past.any (marksKey request.idempotencyKey) = true ∧
    past.any (spends request.confirmationToken) = true

/-- What a call may do next: enter its loop once it has started; PATCH a target, then and only
once; save a receipt that is truthful; and save a terminal error when nothing was applied. -/
def Careful (params : Except String BulkApplyRequest) (past : List (Event DaemonIO)) :
    DaemonAct → Prop
  | .write _ (.patchIncident sysId _) =>
    (∃ request, params = .ok request ∧ Started request past) ∧ past.any (patched sysId) = false
  | .write _ (.refreshProjection _) => True
  | .write _ _ => False
  | .store (.saveBulkProgress ..) => ∃ request, params = .ok request ∧ Started request past
  | .store (.saveBulkReceipt _ _ receipt) => ∃ plan, Loaded plan past ∧ Truthful plan past receipt
  | .store (.saveBulkError ..) => Unapplied past
  | _ => True

/-- How a call ends: without a PATCH, to be resolved, with a truthful receipt, or with an error
when nothing was applied. -/
def Concluded (state : DaemonState) (past : List (Event DaemonIO)) (response : JsonRpcResponse) :
    Prop :=
  (∀ sysId, past.any (patched sysId) = false) ∨
    (∃ text, response = pendingAfterStoreFailure text) ∨
    (∃ plan receipt failure, Loaded plan past ∧ Truthful plan past receipt ∧
      response = answerReceipt state receipt failure) ∨
    (Unapplied past ∧ ∃ failure, response = .error (terminalError failure))

/-- The actions that neither read nor write, nor save what has become of the targets. -/
def aside : DaemonAct → Prop
  | .write _ _ | .read _ => False
  | .store (.saveBulkProgress ..) | .store (.saveBulkReceipt ..) | .store (.saveBulkError ..) =>
    False
  | _ => True

/-- The actions that are about no target. -/
abbrev Elsewhere (e : DaemonAct) : Prop := about e = none

theorem about_of_aside {e : DaemonAct} (h : aside e) : about e = none := by
  cases e with
  | write => exact absurd h id
  | read => exact absurd h id
  | _ => rfl

theorem aside_of_audits {e : DaemonAct} (h : audits e) : aside e := by
  cases e with
  | write => exact h
  | read => exact h
  | store call => cases call <;> trivial
  | _ => trivial

theorem careful_of_aside {params : Except String BulkApplyRequest} {past : List (Event DaemonIO)}
    {e : DaemonAct} (h : aside e) : Careful params past e := by
  cases e with
  | write => exact absurd h id
  | read => exact absurd h id
  | store call => cases call <;> trivial
  | _ => trivial

section Sound

variable {state : DaemonState} {params : Except String BulkApplyRequest} {A B : Type}
  {past past' : List (Event DaemonIO)}

/-- A part of a call that is careful, and whose refusals conclude the call. -/
abbrev Sound (state : DaemonState) (params : Except String BulkApplyRequest) (gate : Gate A)
    (past : List (Event DaemonIO)) (R : List (Event DaemonIO) → A → Prop) : Prop :=
  gate.Safe (trace DaemonIO) (Careful params) past (Concluded state) R

/-- No PATCH has been sent. -/
def Unpatched (past : List (Event DaemonIO)) : Prop := ∀ sysId, past.any (patched sysId) = false

theorem Unpatched.extend (h : Unpatched past) (hext : Extends aside past past') :
    Unpatched past' := by
  obtain ⟨more, rfl, hmore⟩ := hext
  intro sysId
  rw [List.any_append, h sysId, Bool.false_or]
  refine List.any_eq_false.mpr fun ev hev => ?_
  rw [patched_of_about (by rw [about_of_aside (hmore ev hev)]; exact nofun)]
  exact nofun

variable {gate : Gate A}

/-- A gate before the first PATCH. -/
theorem aside_sound {R : A → Prop}
    (hgate : gate.Uses aside (fun p => p.Uses aside fun _ => True) R) (h : Unpatched past) :
    Sound state params gate past fun past' a => Extends aside past past' ∧ R a :=
  hgate.extends (fun _ _ => careful_of_aside) fun past' p hext hp =>
    (uses_extends hp (fun _ _ => careful_of_aside) past').mono fun _ _ hext' =>
      .inl (h.extend (hext.trans hext'.1))

variable {p : Handler (Except String A)} {R : List (Event DaemonIO) → A → Prop}

/-- A part whose failure is left to be resolved. -/
theorem recorded_sound (h : Program.Safe (trace DaemonIO) (Careful params) p past fun past' r =>
      ∀ a, r = .ok a → R past' a) : Sound state params (recorded p) past R := by
  refine Gate.safe_bind (Gate.safe_doing (h.mono fun past' r hr => ?_))
  cases r with
  | error text => exact Gate.safe_answer (safe_pure (.inr (.inl ⟨text, rfl⟩)))
  | ok a => exact Gate.safe_pure (hr a rfl)

theorem recorded_aside (hp : p.Uses aside fun _ => True)
    (h : ∀ past' a, Extends aside past past' → R past' a) :
    Sound state params (recorded p) past R :=
  recorded_sound ((uses_extends hp (fun _ _ => careful_of_aside) past).mono
    fun past' _ hext a _ => h past' a hext.1)

theorem readTarget_sound {sysId : String}
    {R : List (Event DaemonIO) → Except BuildError ResolvedTarget → Prop}
    (h : ∀ answer, R (past ++ [⟨.read (.incidentGet none (some sysId)), answer⟩])
      (resolveTarget answer)) :
    Program.Safe (trace DaemonIO) (Careful params) (readTarget (.sysId sysId)) past R :=
  ⟨trivial, h⟩

theorem extends_act {P : DaemonAct → Prop} {e : DaemonAct}
    (h : Extends (S := DaemonIO) P past past') (he : P e) (r : e.Ans) :
    Extends (S := DaemonIO) P past (past' ++ [⟨e, r⟩]) := h.act he r

theorem perform_sound {e : DaemonAct} {R : List (Event DaemonIO) → e.Ans → Prop}
    (hok : Careful params past e) (h : ∀ answer : e.Ans, R (past ++ [⟨e, answer⟩]) answer) :
    Program.Safe (trace DaemonIO) (Careful params) (Program.perform (S := DaemonIO) e) past R :=
  ⟨hok, h⟩

/-- Nothing that was past is forgotten. -/
def Grows (past past' : List (Event DaemonIO)) : Prop := ∀ ev ∈ past, ev ∈ past'

theorem grows_of_extends {P : DaemonAct → Prop} (h : Extends (S := DaemonIO) P past past') :
    Grows past past' := fun _ => h.mem

theorem Started.grows (h : Started request past)
    (hgrows : Grows past past') : Started request past' := by
  have hany : ∀ f : Event DaemonIO → Bool, past.any f = true → past'.any f = true := by
    intro f hf
    obtain ⟨ev, hev, htrue⟩ := List.any_eq_true.mp hf
    exact List.any_eq_true.mpr ⟨ev, hgrows ev hev, htrue⟩
  exact ⟨hany _ h.1, hany _ h.2⟩

variable {plan : BulkPlan}

theorem Loaded.grows (h : Loaded plan past) (hgrows : Grows past past') : Loaded plan past' :=
  ⟨h.choose, hgrows _ h.choose_spec⟩

/-- Saving the receipt on the way. -/
theorem saveProgress_sound {call : BulkCall} {receipt : BulkReceipt}
    {R : List (Event DaemonIO) → Unit → Prop} (hparams : params = .ok call.request)
    (hstarted : Started call.request past)
    (h : ∀ past', Extends Elsewhere past past' → R past' ()) :
    Sound state params (saveProgress call receipt) past R :=
  recorded_sound (perform_sound ⟨call.request, hparams, hstarted⟩ fun answer _ _ =>
    h _ (extends_act (P := Elsewhere)
      (e := .store (.saveBulkProgress call.request.idempotencyKey applyTool receipt))
      (Extends.refl past) rfl answer))

/-! ### A turn of the loop -/

variable {progress : Progress}

section Turn

variable {call : BulkCall} {receipt : BulkReceipt} {index : Nat} {target : BulkPlannedTarget}

variable {past₀ : List (Event DaemonIO)}

/-- The progress of a turn is saved, and nothing else happens. -/
theorem settleTarget_sound (hparams : params = .ok call.request)
    (hstarted : Started call.request past₀)
    (hnear : Extends (Near target) past₀ past)
    (h : Outcome state.crates.sha256 receipt index target past progress) :
    Sound state params (settleTarget call progress) past fun past' progress =>
      Extends (Near target) past₀ past' ∧
        Outcome state.crates.sha256 receipt index target past' progress := by
  refine Gate.safe_bind (saveProgress_sound hparams (hstarted.grows (grows_of_extends hnear))
    fun past' hext => Gate.safe_pure ⟨hnear.trans (hext.mono fun _ => .inl), ?_⟩)
  have hsee : see target past' = see target past :=
    see_of_extends (hext.mono fun e he => by rw [he]; exact nofun)
  cases h with
  | applied hsent hacked hseen =>
    exact .applied (by rw [hsee]; exact hsent) (by rw [hsee]; exact hacked)
      (by rw [hsee]; exact hseen)
  | lost hsent hacked hlost =>
    exact .lost (by rw [hsee]; exact hsent) (by rw [hsee]; exact hacked)
      (by rw [hsee]; exact hlost)
  | failed hunacked hblamed =>
    exact .failed (by rw [hsee]; exact hunacked) (by rw [hsee]; exact hblamed)

/-- The place of a patched target in the cache. -/
theorem refreshTarget_sound {before : StringMap FieldValue} {observed : String}
    (hparams : params = .ok call.request)
    (hstarted : Started call.request past₀) (hnear : Extends (Near target) past₀ past)
    (hsent : (see target past).sent = true) (hacked : (see target past).acked = true)
    (hseen : (see target past).lost = false) :
    Sound state params (refreshTarget state call receipt index target before observed) past
      fun past' progress => Extends (Near target) past₀ past' ∧
        Outcome state.crates.sha256 receipt index target past' progress := by
  refine Gate.safe_bind (Gate.safe_doing (perform_sound trivial fun answer => ?_))
  have hnear' := extends_act (e := .write call.plan.planId (.refreshProjection target.target.sysId))
    hnear (.inr rfl) answer
  have hsee := see_refresh past target call.plan.planId answer
  cases answer with
  | error text =>
    refine settleTarget_sound hparams hstarted hnear' (.lost ?_ ?_ ?_)
    · rw [hsee]
      exact hsent
    · rw [hsee]
      exact hacked
    · rw [hsee]
      exact Bool.or_true _
  | ok _ =>
    refine settleTarget_sound hparams hstarted hnear' (.applied ?_ ?_ ?_)
    · rw [hsee]
      exact hsent
    · rw [hsee]
      exact hacked
    · rw [hsee, hseen]
      rfl

variable {current : ResolvedTarget}

/-- The version of a patched target. -/
theorem observeTarget_sound {written : Option String} (hparams : params = .ok call.request)
    (hstarted : Started call.request past₀) (hnear : Extends (Near target) past₀ past)
    (hsent : (see target past).sent = true) (hacked : (see target past).acked = true)
    (hseen : (see target past).lost = false) :
    Sound state params (observeTarget state call receipt index target current written) past
      fun past' progress => Extends (Near target) past₀ past' ∧
        Outcome state.crates.sha256 receipt index target past' progress := by
  cases written with
  | some observed => exact refreshTarget_sound hparams hstarted hnear hsent hacked hseen
  | none =>
    refine Gate.safe_bind (Gate.safe_doing (readTarget_sound fun answer => ?_))
    have hnear' := extends_act (e := .read (.incidentGet none (some target.target.sysId)))
      hnear (.inr rfl) answer
    have hsee := see_read past target answer
    cases hresolve : resolveTarget answer with
    | error err =>
      refine settleTarget_sound hparams hstarted hnear' (.lost ?_ ?_ ?_)
      · rw [hsee]
        exact hsent
      · rw [hsee]
        exact hacked
      · rw [hsee, hresolve]
        exact Bool.or_true _
    | ok postWrite =>
      refine refreshTarget_sound hparams hstarted hnear' ?_ ?_ ?_
      · rw [hsee]
        exact hsent
      · rw [hsee]
        exact hacked
      · rw [hsee, hseen, hresolve]
        rfl

/-- The PATCH of a target. -/
theorem patchTarget_sound (hparams : params = .ok call.request)
    (hstarted : Started call.request past₀)
    (hnear : Extends (Near target) past₀ past) (h : see target past = .untouched) :
    Sound state params (patchTarget state call receipt index target current) past
      fun past' progress => Extends (Near target) past₀ past' ∧
        Outcome state.crates.sha256 receipt index target past' progress := by
  have hunsent : past.any (patched target.target.sysId) = false := congrArg Seen.sent h
  refine Gate.safe_bind (Gate.safe_doing (perform_sound
    ⟨⟨call.request, hparams, hstarted.grows (grows_of_extends hnear)⟩, hunsent⟩ fun answer => ?_))
  have hnear' := extends_act
    (e := .write call.plan.planId (.patchIncident target.target.sysId target.patch)) hnear
    (.inr rfl) answer
  have hsee := see_patch past target call.plan.planId target.patch answer
  rw [h] at hsee
  cases answer with
  | error text =>
    refine settleTarget_sound hparams hstarted hnear' (.failed ?_ ?_)
    · rw [hsee]
      rfl
    · rw [hsee]
      rfl
  | ok written =>
    refine observeTarget_sound hparams hstarted hnear' ?_ ?_ ?_
    · rw [hsee]
    · rw [hsee]
      rfl
    · rw [hsee]
      rfl

/-- **One turn of the loop.**  It concerns its target only, and the receipt it leaves says how it
came out. -/
theorem executeTarget_sound (hparams : params = .ok call.request)
    (hstarted : Started call.request past) (h : see target past = .untouched) :
    Sound state params (executeTarget state call receipt index target) past
      fun past' progress => Extends (Near target) past past' ∧
        Outcome state.crates.sha256 receipt index target past' progress := by
  refine Gate.safe_bind (Gate.safe_doing (readTarget_sound fun answer => ?_))
  have hnear := extends_act (P := Near target)
    (e := .read (.incidentGet none (some target.target.sysId))) (Extends.refl past) (.inr rfl)
    answer
  have hsee := see_read past target answer
  rw [h] at hsee
  cases hresolve : resolveTarget answer with
  | error err =>
    refine Gate.safe_pure ⟨hnear, .failed ?_ ?_⟩
    · rw [hsee]
      rfl
    · rw [hsee]
      simp [asPlanned, hresolve]
  | ok current =>
    by_cases hversion : current.sysUpdatedOn = target.sysUpdatedOn
    · simp only [ne_eq, hversion, not_true_eq_false, if_false]
      refine patchTarget_sound hparams hstarted hnear ?_
      rw [hsee]
      simp [asPlanned, hresolve, hversion, Seen.untouched, Except.isOk, Except.toBool]
    · simp only [ne_eq, hversion, not_false_eq_true, if_true]
      refine Gate.safe_pure ⟨hnear, .failed ?_ ?_⟩
      · rw [hsee]
        rfl
      · rw [hsee]
        simp [asPlanned, hresolve, hversion]

end Turn

/-! ### The loop and what follows it -/

section Loop

variable {call : BulkCall}

/-- **The loop.**  It ends with a receipt that is right about the targets of the plan. -/
theorem executeTargets_sound (hparams : params = .ok call.request) :
    ∀ (rest done : List BulkPlannedTarget) (receipt : BulkReceipt) (past : List (Event DaemonIO)),
      Reached call.plan past receipt done none rest → receipt.cacheCoherent = true →
      Started call.request past →
      Sound state params (executeTargets state call receipt done.length rest) past
        fun past' progress => Grows past past' ∧ Ended call.plan past' progress := by
  intro rest
  induction rest with
  | nil =>
    intro done receipt past hreached hcoherent _
    exact Gate.safe_pure ⟨fun _ => id, done, none, [], hreached, iff_of_true rfl
      ⟨rfl, rfl, hcoherent⟩⟩
  | cons target rest ih =>
    intro done receipt past hreached hcoherent hstarted
    have huntouched := hreached.untouched target List.mem_cons_self
    refine Gate.safe_bind ((executeTarget_sound hparams hstarted huntouched).mono ?_)
    rintro past' ⟨receipt', failure⟩ ⟨hnear, houtcome⟩
    have hgrows := grows_of_extends hnear
    rcases houtcome.reached hreached hcoherent hnear with
      ⟨hfailure, hended⟩ | ⟨hnone, hreached', hcoherent'⟩
    · cases failure with
      | none => exact absurd rfl hfailure
      | some failure => exact Gate.safe_pure ⟨hgrows, hended⟩
    · cases hnone
      have hnext := ih (done ++ [target]) receipt' past' hreached' hcoherent'
        (hstarted.grows hgrows)
      rw [List.length_append, List.length_singleton] at hnext
      exact hnext.mono fun past'' progress h =>
        ⟨fun ev hev => h.1 ev (hgrows ev hev), h.2⟩

/-- The audits at the end of a call. -/
theorem recorded_audit {note : AuditNote} {R : List (Event DaemonIO) → AuditEvent → Prop}
    (h : ∀ past' a, Extends Elsewhere past past' → R past' a) :
    Sound state params (recorded ((ChangeWrite.trail state).append state note)) past R :=
  recorded_aside ((audits_append _ _ _).mono (fun _ => aside_of_audits) fun _ => id)
    fun past' a hext => h past' a (hext.mono fun _ => about_of_aside)

/-- A call that has applied something ends with its final receipt. -/
theorem settleReceipt_sound {completedAt : DateTime} (h : Ended call.plan past progress)
    (hloaded : Loaded call.plan past) :
    Sound state params (settleReceipt state call (finalReceipt completedAt progress) progress.2)
      past (Concluded state) := by
  refine Gate.safe_bind (recorded_audit fun past₁ _ hext₁ => ?_)
  have hended := h.extend hext₁
  have hloaded₁ := hloaded.grows (grows_of_extends hext₁)
  refine Gate.safe_bind (recorded_sound (perform_sound
    ⟨call.plan, hloaded₁, hended.truthful completedAt⟩ fun saved _ _ => ?_))
  refine Gate.safe_bind (Gate.safe_doing (perform_sound trivial fun consumed => ?_))
  have hext₂ := extends_act (P := Elsewhere) (e := .store (.markBulkPlanConsumed call.plan.planId))
    (extends_act (P := Elsewhere)
      (e := .store (.saveBulkReceipt call.request.idempotencyKey applyTool
        (finalReceipt completedAt progress))) (Extends.refl past₁) rfl saved) rfl consumed
  exact Gate.safe_pure (.inr (.inr (.inl ⟨call.plan, _, _,
    hloaded₁.grows (grows_of_extends hext₂), (hended.extend hext₂).truthful completedAt, rfl⟩)))

variable {receipt : BulkReceipt}

/-- A call that has applied nothing ends with an error. -/
theorem settleError_sound {failure : Failure} (h : Ended call.plan past progress)
    (hnone : countStatus .applied progress.1.targetResults = 0) :
    Sound state params (settleError state call receipt failure) past (Concluded state) := by
  have hunapplied : ∀ past', Extends Elsewhere past past' → Unapplied past' := by
    intro past' hext
    obtain ⟨done, failed, rest, hreached, -⟩ := h.extend hext
    exact hreached.unapplied hnone
  refine Gate.safe_bind (recorded_audit fun past₁ _ hext₁ => ?_)
  refine Gate.safe_bind (recorded_sound (perform_sound (hunapplied past₁ hext₁)
    fun saved _ _ => ?_))
  have hext₂ := extends_act
    (e := .store (.saveBulkError call.request.idempotencyKey applyTool (terminalError failure)))
    hext₁ rfl saved
  exact Gate.safe_pure (.inr (.inr (.inr ⟨hunapplied _ hext₂, failure, rfl⟩)))

/-- The end of a call whose loop has ended. -/
theorem settle_sound (h : Ended call.plan past progress) (hloaded : Loaded call.plan past) :
    Sound state params (settle state call progress) past (Concluded state) := by
  refine Gate.safe_bind (Gate.safe_doing (perform_sound trivial fun completedAt => ?_))
  have hext := extends_act (P := Elsewhere) (e := .now) (Extends.refl past) rfl completedAt
  have hended := h.extend hext
  have hloaded' := hloaded.grows (grows_of_extends hext)
  have hreceipt : Sound state params
      (settleReceipt state call (finalReceipt completedAt progress) progress.2)
      (past ++ [⟨.now, completedAt⟩]) (Concluded state) := settleReceipt_sound hended hloaded'
  obtain ⟨receipt, failure⟩ := progress
  cases failure with
  | none => exact hreceipt
  | some failure =>
    by_cases hzero : countStatus .applied receipt.targetResults = 0
    · show Sound state params (if countStatus .applied receipt.targetResults = 0 then _ else _)
        _ _
      rw [if_pos hzero]
      exact settleError_sound hended hzero
    · show Sound state params (if countStatus .applied receipt.targetResults = 0 then _ else _)
        _ _
      rw [if_neg hzero]
      exact hreceipt

/-- **The loop and what follows it.** -/
theorem execute_sound (hparams : params = .ok call.request)
    (hreached : Reached call.plan past receipt [] none call.plan.preview.targets)
    (hcoherent : receipt.cacheCoherent = true) (hstarted : Started call.request past)
    (hloaded : Loaded call.plan past) :
    Sound state params (execute state call receipt) past (Concluded state) := by
  refine Gate.safe_bind (saveProgress_sound hparams hstarted fun past₁ hext => ?_)
  have hgrows := grows_of_extends hext
  refine Gate.safe_bind ((executeTargets_sound hparams _ [] receipt past₁
    (hreached.extend hext) hcoherent (hstarted.grows hgrows)).mono ?_)
  rintro past₂ progress ⟨hgrows₂, hended⟩
  exact settle_sound hended ((hloaded.grows hgrows).grows hgrows₂)

end Loop

/-! ### Before the loop -/

section Admission

variable {call : BulkCall}

/-- A refusal that neither reads nor writes. -/
abbrev AsideRefusal (p : Handler JsonRpcResponse) : Prop := p.Uses aside fun _ => True

variable (response : JsonRpcResponse)

theorem aside_refuse {R : A → Prop} : (refuse response : Gate A).Uses aside AsideRefusal R :=
  Gate.uses_answer (uses_pure trivial)

theorem aside_require (holds : Bool) (response : JsonRpcResponse) :
    (Gate.require holds (Pure.pure response)).Uses aside AsideRefusal fun _ => True :=
  (Gate.uses_require (uses_pure trivial)).mono (fun _ => id) (fun _ => id) fun _ _ => trivial

theorem aside_requireOk (code : String) (result : Except String A) :
    (requireOk code result).Uses aside AsideRefusal fun _ => True := by
  cases result with
  | error reason => exact aside_refuse _
  | ok a => exact Gate.uses_pure trivial

theorem aside_trying (h : p.Uses aside fun _ => True) :
    (Gate.trying p).Uses aside AsideRefusal fun _ => True :=
  Gate.uses_trying h fun _ => uses_pure trivial

theorem aside_now : (Gate.doing Daemon.now).Uses aside AsideRefusal fun _ => True :=
  Gate.uses_doing (performs trivial)

theorem aside_uuid : (Gate.doing Daemon.uuid).Uses aside AsideRefusal fun _ => True :=
  Gate.uses_doing (performs trivial)

theorem aside_killSwitched : killSwitched.Uses aside fun _ => True := by
  have hall : ∀ names, (anyKillSwitch names).Uses aside fun _ => True := by
    intro names
    induction names with
    | nil => exact uses_pure trivial
    | cons name names ih =>
      refine uses_perform trivial fun value => ?_
      split
      · exact uses_pure trivial
      · exact ih
  exact hall _

theorem aside_checkPlan (request : BulkApplyRequest) (plan : BulkPlan) :
    (checkPlan state request plan).Uses aside AsideRefusal fun call =>
      call.request = request ∧ call.plan = plan := by
  refine Gate.uses_bind (aside_requireOk _ _) fun limit _ => ?_
  refine Gate.uses_bind (aside_require _ _) fun _ _ => ?_
  refine Gate.uses_bind (aside_requireOk _ _) fun _ _ => ?_
  dsimp only
  split
  · exact aside_refuse _
  · exact Gate.uses_pure ⟨rfl, rfl⟩

theorem aside_requireUnexpired (plan : BulkPlan) :
    (requireUnexpired plan).Uses aside AsideRefusal fun _ => True :=
  Gate.uses_bind aside_now fun _ _ => aside_require _ _

theorem aside_requireWritable (state : DaemonState) :
    (requireWritable state).Uses aside AsideRefusal fun _ => True := by
  refine Gate.uses_bind (Gate.uses_doing aside_killSwitched) fun off _ => ?_
  refine Gate.uses_bind (aside_require _ _) fun _ _ => ?_
  exact Gate.uses_bind (aside_require _ _) fun _ _ => aside_require _ _

/-- The plan that is found is one that was loaded. -/
theorem findPlan_sound (h : Unpatched past) :
    Sound state params (findPlan request) past fun past' plan =>
      Extends aside past past' ∧ Loaded plan past' := by
  refine Gate.safe_bind ((aside_sound (aside_trying (performs trivial)) h).mono ?_)
  rintro (past₁ : List (Event DaemonIO)) _ ⟨hext₁, _⟩
  have hext₂ := fun found => extends_act (e := .store (.getBulkPlan request.planId)) hext₁ trivial
    found
  refine Gate.safe_bind (Gate.safe_trying (perform_sound trivial fun found => ?_))
  cases found with
  | error text => exact .inl (h.extend (hext₂ _))
  | ok found =>
    have h₂ := h.extend (hext₂ (.ok found))
    refine Gate.safe_bind (Gate.safe_require? (safe_pure (.inl h₂)) fun plan hplan => ?_)
    cases hplan
    have hloaded : Loaded plan (past₁ ++ [(⟨.store (.getBulkPlan request.planId),
        .ok (some plan)⟩ : Event DaemonIO)]) := ⟨request.planId, by simp⟩
    refine Gate.safe_bind ((aside_sound (aside_requireUnexpired plan) h₂).mono ?_)
    rintro past₃ _ ⟨hext₃, _⟩
    exact Gate.safe_pure ⟨(hext₂ _).trans hext₃, hloaded.grows (grows_of_extends hext₃)⟩

/-- **A call that is admitted** has loaded its plan and done nothing else. -/
theorem admitCall_sound :
    Sound state params (admitCall state params) [] fun past call =>
      params = .ok call.request ∧ Loaded call.plan past ∧ Extends aside [] past := by
  have hnothing : Unpatched [] := fun _ => rfl
  refine Gate.safe_bind ((aside_sound (aside_requireWritable state) hnothing).mono ?_)
  rintro past₁ _ ⟨hext₁, _⟩
  have h₁ := hnothing.extend hext₁
  cases params with
  | error text => exact Gate.safe_answer (safe_pure (.inl h₁))
  | ok request =>
    refine Gate.safe_bind ((findPlan_sound h₁).mono ?_)
    rintro past₂ plan ⟨hext₂, hloaded⟩
    refine (aside_sound (aside_checkPlan request plan) (h₁.extend hext₂)).mono ?_
    rintro past₃ call ⟨hext₃, rfl, rfl⟩
    exact ⟨rfl, hloaded.grows (grows_of_extends hext₃), (hext₁.trans hext₂).trans hext₃⟩

variable (record : ConfirmationRecord) (binding : ConfirmationBinding)

theorem aside_validateConfirmationRecord :
    (validateConfirmationRecord record binding).Uses aside fun _ => True := by
  unfold validateConfirmationRecord
  split
  · exact uses_pure trivial
  · exact uses_perform trivial fun _ => uses_pure trivial

theorem aside_validateReplayRecord :
    (validateReplayRecord record binding).Uses aside fun _ => True := by
  unfold validateReplayRecord
  split
  · exact aside_validateConfirmationRecord _ _
  · refine uses_perform trivial fun t => ?_
    split
    · exact aside_validateConfirmationRecord _ _
    · exact uses_pure trivial

/-- A call that is answered with what an earlier one has left does nothing. -/
theorem aside_replay : AsideRefusal (replay call response) := by
  have hvalidated : (validateConfirmationReplay call.request.confirmationToken call.binding).Uses
      aside fun _ => True := by
    refine uses_perform trivial fun opened => ?_
    cases opened with
    | error text => exact uses_pure trivial
    | ok _ =>
      refine uses_perform trivial fun found => ?_
      rcases found with text | _ | record
      · exact uses_pure trivial
      · exact uses_pure trivial
      · exact aside_validateReplayRecord _ _
  refine uses_bind hvalidated fun validated _ => ?_
  cases validated <;> exact uses_pure trivial

theorem aside_checkKey : (checkKey call).Uses aside AsideRefusal fun _ => True := by
  refine Gate.uses_bind aside_now fun t _ => ?_
  refine Gate.uses_bind (aside_trying (performs trivial)) fun found _ => ?_
  cases found with
  | none => exact aside_refuse _
  | some record =>
    show (checkRecord call record).Uses aside AsideRefusal fun _ => True
    unfold checkRecord
    split
    · exact aside_refuse _
    · split
      · exact Gate.uses_answer (aside_replay _)
      · exact Gate.uses_answer (aside_replay _)
      · exact aside_require _ _

theorem aside_checkToken : (checkToken call).Uses aside AsideRefusal fun _ => True := by
  refine Gate.uses_bind (aside_trying (performs trivial)) fun _ _ => ?_
  refine Gate.uses_bind (aside_trying (performs trivial)) fun found _ => ?_
  cases found with
  | none => exact aside_refuse _
  | some record =>
    refine Gate.uses_bind (Gate.uses_doing (aside_validateConfirmationRecord _ _))
      fun validated _ => ?_
    cases validated with
    | error err => exact aside_refuse _
    | ok _ => exact Gate.uses_pure trivial

theorem aside_auditAttempt : (auditAttempt state call).Uses aside AsideRefusal fun _ => True := by
  refine Gate.uses_bind aside_uuid fun auditId _ => ?_
  refine Gate.uses_bind (aside_trying ((audits_append _ _ _).mono (fun _ => aside_of_audits)
    fun _ => id)) fun _ _ => ?_
  exact Gate.uses_pure trivial

/-- No target has been touched. -/
structure Fresh (plan : BulkPlan) (past : List (Event DaemonIO)) : Prop where
  unpatched : Unpatched past
  untouched : ∀ target ∈ plan.preview.targets, see target past = .untouched
  loaded : Loaded plan past

theorem Fresh.extend (h : Fresh plan past) (hext : Extends aside past past') :
    Fresh plan past' := by
  refine ⟨h.unpatched.extend hext, fun target ht => ?_, h.loaded.grows (grows_of_extends hext)⟩
  rw [see_of_extends (hext.mono fun e he => by rw [about_of_aside he]; exact nofun)]
  exact h.untouched target ht

/-- A gate that keeps the targets fresh. -/
theorem aside_fresh {R : A → Prop} (hgate : gate.Uses aside AsideRefusal R) (h : Fresh plan past) :
    Sound state params gate past fun past' a => Extends aside past past' ∧ Fresh plan past' ∧ R a :=
  (aside_sound hgate h.unpatched).mono fun _ _ hext => ⟨hext.1, h.extend hext.1, hext.2⟩

/-- A target that is as planned stays fresh when it is read. -/
theorem preflightTarget_sound {target : BulkPlannedTarget} (ht : target ∈ plan.preview.targets)
    (h : Fresh plan past) :
    Sound state params (preflightTarget target) past fun past' _ => Fresh plan past' := by
  refine Gate.safe_bind (Gate.safe_doing (readTarget_sound fun answer => ?_))
  have hunpatched : Unpatched
      (past ++ [⟨.read (.incidentGet none (some target.target.sysId)), answer⟩]) := by
    intro sysId
    rw [List.any_append, h.unpatched sysId]
    rfl
  cases hresolve : resolveTarget answer with
  | error err => exact Gate.safe_answer (safe_pure (.inl hunpatched))
  | ok current =>
    refine Gate.safe_require (safe_pure (.inl hunpatched)) fun hversion => ?_
    have hplanned : asPlanned target answer = true := by
      rw [asPlanned, hresolve]
      exact hversion
    refine ⟨hunpatched, fun other hother => ?_, h.loaded.grows fun ev hev =>
      List.mem_append_left _ hev⟩
    by_cases hsame : other.target.sysId = target.target.sysId
    · obtain rfl := List.inj_on_of_nodup_map plan.preview.distinct hother ht hsame
      rw [see_read, h.untouched other hother, hplanned, hresolve]
      rfl
    · refine (see_of_extends (extends_act (P := fun e => about e ≠ some other.target.sysId)
        (e := .read (.incidentGet none (some target.target.sysId))) (Extends.refl past) ?_
        answer)).trans (h.untouched other hother)
      exact fun heq => hsame (Option.some.inj heq).symm

theorem preflight_sound :
    ∀ (targets : List BulkPlannedTarget) (past : List (Event DaemonIO)),
      targets ⊆ plan.preview.targets → Fresh plan past →
      Sound state params (preflight targets) past fun past' _ => Fresh plan past' := by
  intro targets
  induction targets with
  | nil => exact fun past _ h => Gate.safe_pure h
  | cons target rest ih =>
    intro past hsub h
    refine Gate.safe_bind ((preflightTarget_sound (hsub List.mem_cons_self) h).mono ?_)
    intro past' _ h'
    exact ih past' (fun t ht => hsub (List.mem_cons_of_mem _ ht)) h'

/-- A call that goes on has marked its key. -/
theorem markStarted_sound (h : Fresh call.plan past) :
    Sound state params (markStarted call) past fun past' _ =>
      Fresh call.plan past' ∧ past'.any (marksKey call.request.idempotencyKey) = true := by
  refine Gate.safe_bind ((aside_fresh aside_now h).mono ?_)
  rintro (past₁ : List (Event DaemonIO)) t ⟨_, h₁, _⟩
  refine Gate.safe_bind (recorded_sound (perform_sound trivial fun answer marked hmarked => ?_))
  cases hmarked
  have h₂ := h₁.extend (extends_act (e := .store (.markBulkStarted t call.request.idempotencyKey
    applyTool)) (Extends.refl past₁) trivial (.ok marked))
  refine Gate.safe_require (safe_pure (.inl h₂.unpatched)) fun htrue => ⟨h₂, ?_⟩
  rw [htrue, List.any_append]
  simp [marksKey]

/-- A call that goes on has consumed its token. -/
theorem consumeToken_sound (h : Fresh call.plan past) :
    Sound state params (consumeToken call) past fun past' _ =>
      Fresh call.plan past' ∧ Grows past past' ∧
        past'.any (spends call.request.confirmationToken) = true := by
  refine Gate.safe_bind (Gate.safe_doing (safe_bind (perform_sound trivial fun t =>
    perform_sound trivial fun answer => ?_)))
  have hext := extends_act (P := aside) (e := .store (.consumeConfirmation t
    call.request.confirmationToken call.binding))
    (extends_act (P := aside) (e := .now) (Extends.refl past) trivial t) trivial answer
  have h₁ := h.extend hext
  cases answer with
  | ok record =>
    refine Gate.safe_pure ⟨h₁, grows_of_extends hext, ?_⟩
    rw [List.any_append]
    simp [spends]
  | error err =>
    refine Gate.safe_bind (recorded_aside (performs trivial) fun past₂ _ hext₂ => ?_)
    exact Gate.safe_answer (safe_pure (.inl (h₁.extend hext₂).unpatched))

/-- **Up to the loop.**  A call that enters it has marked its key, consumed its token and
touched no target. -/
theorem prepare_sound (h : Fresh call.plan past) :
    Sound state params (prepare state call) past fun past' receipt =>
      Fresh call.plan past' ∧ Started call.request past' ∧
        ∃ auditId started, receipt = initialReceipt call.plan auditId started := by
  refine Gate.safe_bind ((aside_fresh aside_checkKey h).mono ?_)
  rintro past₁ _ ⟨_, h₁, _⟩
  refine Gate.safe_bind ((aside_fresh aside_checkToken h₁).mono ?_)
  rintro past₂ _ ⟨_, h₂, _⟩
  refine Gate.safe_bind ((preflight_sound _ past₂ (fun _ => id) h₂).mono ?_)
  intro past₃ _ h₃
  refine Gate.safe_bind ((aside_fresh aside_auditAttempt h₃).mono ?_)
  rintro past₄ _ ⟨_, h₄, _⟩
  refine Gate.safe_bind ((aside_fresh aside_now h₄).mono ?_)
  rintro past₅ started ⟨_, h₅, _⟩
  refine Gate.safe_bind ((markStarted_sound h₅).mono ?_)
  rintro past₆ _ ⟨h₆, hmarked⟩
  refine Gate.safe_bind ((consumeToken_sound h₆).mono ?_)
  rintro past₇ _ ⟨h₇, hgrows, hspent⟩
  refine Gate.safe_bind ((aside_fresh aside_uuid h₇).mono ?_)
  rintro past₈ auditId ⟨hext, h₈, _⟩
  refine Gate.safe_pure ⟨h₈, ⟨?_, ?_⟩, auditId, started, rfl⟩
  · obtain ⟨ev, hev, hmarks⟩ := List.any_eq_true.mp hmarked
    exact List.any_eq_true.mpr ⟨ev, hext.mem (hgrows ev hev), hmarks⟩
  · obtain ⟨ev, hev, hspends⟩ := List.any_eq_true.mp hspent
    exact List.any_eq_true.mpr ⟨ev, hext.mem hev, hspends⟩

/-- The loop starts with a receipt on which nothing was attempted. -/
theorem reached_initialReceipt (h : Fresh plan past) (auditId : String) (started : DateTime) :
    Reached plan past (initialReceipt plan auditId started) [] none plan.preview.targets := by
  refine ⟨by simp, ?_, nofun, nofun, h.untouched, fun sysId hsent => ?_, ?_, rfl⟩
  · rw [initialReceipt, List.map_map]
    simp only [Option.toList_none, List.map_nil, List.nil_append]
    exact List.map_congr_left fun target _ => rfl
  · rw [h.unpatched sysId] at hsent
    cases hsent
  · exact iff_of_true rfl nofun

end Admission

end Sound

/-- Every call is careful, and concludes. -/
theorem handleApply_careful (state : DaemonState) (params : Except String BulkApplyRequest) :
    Program.Safe (trace DaemonIO) (Careful params) (handleApply state params) []
      (Concluded state) := by
  refine Gate.safe_enter (admitCall_sound.mono ?_)
  rintro past₁ call ⟨hparams, hloaded, hext⟩
  have hfresh : Fresh call.plan past₁ := by
    refine ⟨Unpatched.extend (fun _ => rfl) hext, fun target _ => ?_, hloaded⟩
    rw [see_of_extends (hext.mono fun e he => by rw [about_of_aside he]; exact nofun)]
    rfl
  refine Gate.safe_enter ((prepare_sound hfresh).mono ?_)
  rintro past₂ _ ⟨h, hstarted, auditId, started, rfl⟩
  refine Gate.safe_enter ((execute_sound hparams (reached_initialReceipt h auditId started) rfl
    hstarted h.loaded).mono ?_)
  exact fun past₃ response hconcluded => safe_pure hconcluded

/-! ## The receipts of a call -/

/-- The receipt or the error that an action saves is right about what has happened. -/
def SavesTruth (past : List (Event DaemonIO)) : DaemonAct → Prop
  | .store (.saveBulkReceipt _ _ receipt) => ∃ plan, Loaded plan past ∧ Truthful plan past receipt
  | .store (.saveBulkError ..) => Unapplied past
  | _ => True

variable {e : DaemonAct}

section Runs

variable {state : DaemonState} {tokenId sysId : String}

abbrev BulkTask := Task DaemonIO (Except String BulkApplyRequest) JsonRpcResponse

/-- Whether a call presents a token. -/
def presents (tokenId : String) : Except String BulkApplyRequest → Bool
  | .ok request => request.confirmationToken == tokenId
  | .error _ => false

/-- Whether an event has saved the receipt on the way, which the loop starts with. -/
def loops : Event DaemonIO → Bool
  | ⟨.store (.saveBulkProgress ..), _⟩ => true
  | _ => false

/-- Whether a task has started its loop, with a token. -/
def started (tokenId : String) (t : BulkTask) : Nat :=
  if presents tokenId t.call ∧ t.past.any loops then 1 else 0

/-- Whether an action is a PATCH of an incident. -/
def patches (sysId : String) : DaemonAct → Bool
  | .write _ (.patchIncident id _) => id == sysId
  | _ => false

/-- Whether the next action of a task is a PATCH of an incident, which is then sent or about to
be. -/
def patchesNext (sysId : String) : Handler JsonRpcResponse → Bool
  | .act e _ => patches sysId e
  | .pure _ => false

/-- How many PATCHes of an incident a task with the token has been answered, or is waiting for. -/
def sentFor (tokenId sysId : String) (t : BulkTask) : Nat :=
  if presents tokenId t.call then
    t.past.countP (patched sysId) + if patchesNext sysId t.rest then 1 else 0
  else 0

/-- The calls of a run patch a target once for a token, and only those that have marked their
key and consumed their token. -/
structure PatchedOnce (c : Config DaemonIO World (Except String BulkApplyRequest) JsonRpcResponse) :
    Prop where
  loop_once : ∀ tokenId, total (started tokenId) c ≤ 1
  patch_once : ∀ tokenId sysId, total (sentFor tokenId sysId) c ≤ 1
  answered : ∀ (i : Nat) (t : BulkTask), c.tasks[i]? = some t →
    ∀ before ev after sysId, t.past = before ++ ev :: after → patched sysId ev = true →
      ∃ request, t.call = .ok request ∧ Started request before
  sent : ∀ (i : Nat) (t : BulkTask), c.tasks[i]? = some t → ∀ sysId,
    patchesNext sysId t.rest = true → ∃ request, t.call = .ok request ∧ Started request t.past

theorem patched_eq (sysId : String) (ev : Event DaemonIO) : patched sysId ev = patches sysId ev.1 := by
  unfold patched patches
  split
  · rfl
  · rename_i hne
    split
    · rename_i planId id patch he
      obtain ⟨e, r⟩ := ev
      cases he
      exact absurd rfl (hne planId id patch r)
    · rfl

variable {params : Except String BulkApplyRequest} {past : List (Event DaemonIO)}

/-- A PATCH that a call may send is the first for its target, after its start. -/
theorem Careful.patch (h : Careful params past e) (hpatch : patches sysId e = true) :
    (∃ request, params = .ok request ∧ Started request past) ∧ past.countP (patched sysId) = 0 := by
  unfold patches at hpatch
  split at hpatch
  · obtain rfl := beq_iff_eq.mp hpatch
    refine ⟨h.1, List.countP_eq_zero.mpr fun ev hev => ?_⟩
    exact List.any_eq_false.mp h.2 ev hev
  · cases hpatch

theorem Careful.loop {r : e.Ans} (h : Careful params past e) (hloops : loops ⟨e, r⟩ = true) :
    ∃ request, params = .ok request ∧ Started request past := by
  unfold loops at hloops
  split at hloops
  · rename_i heq
    cases heq
    exact h
  · cases hloops

variable {world : World}
  {c : Config DaemonIO World (Except String BulkApplyRequest) JsonRpcResponse} {i : Nat}
  {t : BulkTask}

section

variable (hrun : Run (daemon state.crates (handleApply state)) (fun _ _ => True) world c)

include hrun

section

variable (ht : c.tasks[i]? = some t)

include ht

/-- What the tasks of a run have done, and do next, is careful. -/
theorem run_careful
    :
    (∀ before ev after, t.past = before ++ ev :: after → Careful t.call before ev.1) ∧
      ∀ e k, t.rest = .act e k → Careful t.call t.past e :=
  hrun.permitted (E := fun _ => Concluded state) ht (handleApply_careful state t.call)

/-- A task that sends a PATCH next has started. -/
theorem started_of_patchesNext
    (hnext : patchesNext sysId t.rest = true) :
    (∃ request, t.call = .ok request ∧ Started request t.past) ∧
      t.past.countP (patched sysId) = 0 := by
  cases hrest : t.rest with
  | pure response =>
    rw [hrest] at hnext
    cases hnext
  | act e k =>
    rw [hrest] at hnext
    exact ((run_careful hrun ht).2 e k hrest).patch hnext

/-- A task that has sent a PATCH had started. -/
theorem started_of_patched
    {before after : List (Event DaemonIO)} {ev : Event DaemonIO}
    (hsplit : t.past = before ++ ev :: after) (hpatched : patched sysId ev = true) :
    ∃ request, t.call = .ok request ∧ Started request before := by
  rw [patched_eq] at hpatched
  exact (((run_careful hrun ht).1 before ev after hsplit).patch hpatched).1

/-- A task that has started its loop has marked its key and consumed its token. -/
theorem started_of_loops
    (hloops : t.past.any loops = true) :
    ∃ request, t.call = .ok request ∧ Started request t.past := by
  obtain ⟨ev, hev, hloop⟩ := List.any_eq_true.mp hloops
  obtain ⟨before, after, hsplit⟩ := List.append_of_mem hev
  obtain ⟨request, hcall, hstarted⟩ := ((run_careful hrun ht).1 before ev after hsplit).loop hloop
  refine ⟨request, hcall, hstarted.grows fun ev hev => ?_⟩
  rw [hsplit]
  exact List.mem_append_left _ hev

/-- A task sends one PATCH at most for an incident. -/
theorem patches_le :
    t.past.countP (patched sysId) + (if patchesNext sysId t.rest then 1 else 0) ≤ 1 := by
  split_ifs with hnext
  · rw [(started_of_patchesNext hrun ht hnext).2]
  · refine hrun.past_invariant (E := fun _ => Concluded state) ht
      (I := fun past => past.countP (patched sysId) ≤ 1) (handleApply_careful state t.call)
      (by simp) fun past e r hpast hcareful => ?_
    rw [List.countP_append, List.countP_singleton]
    by_cases hpatch : patches sysId e = true
    · rw [(hcareful.patch hpatch).2]
      split <;> omega
    · rw [patched_eq, if_neg hpatch]
      exact hpast

/-- A task that has sent, or sends, a PATCH has started. -/
theorem started_of_sent
    (hsent : t.past.countP (patched sysId) + (if patchesNext sysId t.rest then 1 else 0) ≠ 0) :
    ∃ request, t.call = .ok request ∧ Started request t.past := by
  by_cases hnext : patchesNext sysId t.rest = true
  · exact (started_of_patchesNext hrun ht hnext).1
  · rw [if_neg hnext, Nat.add_zero] at hsent
    obtain ⟨ev, hev, hpatched⟩ := List.countP_pos_iff.mp (Nat.pos_of_ne_zero hsent)
    obtain ⟨before, after, hsplit⟩ := List.append_of_mem hev
    obtain ⟨request, hcall, hstarted⟩ := started_of_patched hrun ht hsplit hpatched
    refine ⟨request, hcall, hstarted.grows fun ev hev => ?_⟩
    rw [hsplit]
    exact List.mem_append_left _ hev

end

end

/-- A task that has started has consumed the token it presents. -/
theorem one_le_consumptions (hcall : t.call = .ok request)
    (hpresents : presents tokenId t.call = true) (hstarted : Started request t.past) :
    1 ≤ consumptions tokenId t := by
  rw [hcall] at hpresents
  obtain rfl : request.confirmationToken = tokenId := by simpa [presents] using hpresents
  obtain ⟨ev, hev, hspends⟩ := List.any_eq_true.mp hstarted.2
  exact List.one_le_countP_iff.mpr ⟨ev, hev, hspends⟩

end Runs

/-! ## Sample runs -/

/-- A target of the sample plan, as it is before and after its PATCH. -/
def plannedTarget (sysId : String) : BulkPlannedTarget where
  target := ⟨"INC-" ++ sysId, sysId⟩
  patch := [("state", "2")]
  sysUpdatedOn := "2026-01-01 00:00:00"

/-- A plan of three targets. -/
def threeTargets : BulkPlan where
  planId := "plan-1"
  opHash := "hash-1"
  actor := "snow"
  requester := "snow"
  environment := "test"
  preview := ⟨["a", "b", "c"].map plannedTarget, by decide⟩
  createdAt := newYear
  expiresAt := newYear + durationSeconds 600

/-- A daemon that may update incidents in bulk. -/
def bulkState : DaemonState :=
  { sampleState with
    policy :=
      { sampleState.policy with
        tools := [planTool, applyTool].map fun tool =>
          (tool, { (sampleTool tool).2 with maxTargets := some 25 }) } }

/-- A world in which the plan has been made and confirmed, under two keys. -/
def bulkWorld : World :=
  { emptyWorld with
    stores :=
      { Stores.empty with
        bulk :=
          { plans := Table.empty.put "plan-1" ⟨threeTargets, false⟩
            idempotency :=
              (Table.empty.put ("key-1", applyTool)
                ⟨"hash-1", none, none, none, none, newYear, newYear + durationSeconds 600⟩).put
                ("key-2", applyTool)
                ⟨"hash-1", none, none, none, none, newYear, newYear + durationSeconds 600⟩ }
        confirmations := Table.empty.put "token-1"
          (SqliteConfirmationStore.issuedRecord newYear "token-1" "plan-1"
            ⟨"snow", "snow", applyTool, "hash-1", "test"⟩ 600) } }

/-- A ServiceNow whose incidents are as planned, and that refuses some PATCHes. -/
def incidents (refuses : String → Bool) : ScriptedServiceNow where
  read
    | .incidentGet _ sysId =>
      .ok [("number", ⟨"INC", none⟩), ("sys_id", ⟨sysId.getD "", none⟩),
        ("sys_updated_on", ⟨"2026-01-01 00:00:00", none⟩)]
    | r => sampleServiceNow.read r
  write
    | .patchIncident sysId _ =>
      if refuses sysId then .error "ServiceNow API 403: denied"
      else .ok (some "2026-01-01 00:00:01")
    | w => sampleServiceNow.write w

/-- A call for the plan. -/
def applyBulk (key : String) : Move (Except String BulkApplyRequest) :=
  .call (.ok ⟨"plan-1", "token-1", key,
    ["a", "b", "c"].map fun sysId => ⟨sysId, "2026-01-01 00:00:00"⟩⟩)

/-- The statuses of the receipt that is saved for a key. -/
def savedStatuses (key : String)
    (c : Config DaemonIO World (Except String BulkApplyRequest) JsonRpcResponse) :
    Option (List BulkTargetStatus) :=
  ((c.world.stores.bulk.idempotency.row (key, applyTool)).bind BulkIdempotencyRecord.receipt).map
    fun receipt => receipt.targetResults.map BulkTargetResult.status

end BulkWrite

end SnowAgent
