import SnowAgent.PlannedApply
import SnowAgent.TokenUse

/-! # The token of a planned write

A call that writes only after it has found its token unspent since it last waited, and that
consumes its token only right after a write that succeeded, is **punctual**.  It keeps the
discipline of `TokenUse`, so a token of punctual calls is good for one write in every run in
which no two of them write at once; and when it consumes its token, the row is still bound
as the call needs it.
-/
namespace SnowAgent

open Json Interleaving Program

variable {excused : Ticket → Prop}

namespace Ticket

variable {tokenId : String} {s : Ticket} {e : DaemonAct}

/-- A call consumes the token only to settle a write, and writes only with a row it has just
found unspent. -/
def punctual (tokenId : String) (s : Ticket) : DaemonAct → Prop
  | .now => True
  | .store (.consumeConfirmation now id binding) =>
    s.owing = true ∧ id = tokenId ∧ s.clock = some now ∧ s.found.map (·.binding) = some binding
  | .write _ _ => s.owing = false ∧ s.validated = true
  | _ => s.owing = false

/-- A punctual call keeps the discipline. -/
theorem discipline_of_punctual (h : s.punctual tokenId e) : s.discipline tokenId excused e := by
  cases e with
  | store call => cases call <;> first | exact h | exact fun _ => h.2
  | write => exact ⟨h.1, .inl h.2⟩
  | now => trivial
  | _ => exact h

theorem punctual_of_calm (h : s.owing = false) (he : calm e) : s.punctual tokenId e := by
  cases e with
  | store call => cases call <;> first | exact h | exact absurd he id
  | write => exact absurd he id
  | now => trivial
  | _ => exact h

/-- A call that owes nothing owes nothing after a calm action. -/
theorem owing_of_calm (h : s.owing = false) (he : calm e) (r : e.Ans) :
    (s.next tokenId e r).owing = false := by
  cases e with
  | store call =>
    cases call
    case lookupConfirmation id =>
      simp only [Ticket.next]
      split
      · exact (looked_owing r).trans h
      · exact h
    case consumeConfirmation => exact absurd he id
    all_goals exact h
  | write => exact absurd he id
  | _ => exact h

/-- The row found last is bound to a caller, and was unspent. -/
def Cleared (binding : ConfirmationBinding) (s : Ticket) : Prop :=
  s.owing = false ∧ s.validated = true ∧ s.found.map (·.binding) = some binding

/-- The calm actions that neither wait nor look a token up, and save no receipt. -/
def stamps : DaemonAct → Prop
  | .write _ _ | .read _ => False
  | .store (.consumeConfirmation ..) | .store (.lookupConfirmation _) | .store (.putPlan _)
  | .store (.saveReceipt _ _) => False
  | _ => True

variable {binding : ConfirmationBinding}

theorem Cleared.next (h : Cleared binding s) (he : stamps e) (r : e.Ans) :
    Cleared binding (s.next tokenId e r) := by
  cases e with
  | store call =>
    cases call
    case lookupConfirmation => exact absurd he id
    case consumeConfirmation => exact absurd he id
    all_goals exact h
  | now => exact ⟨h.1, Bool.or_eq_true_iff.mpr (.inl h.2.1), h.2.2⟩
  | read => exact absurd he id
  | write => exact absurd he id
  | _ => exact h

theorem refuses_of_stamps (he : stamps e) : refuses e := by
  cases e with
  | store call => cases call <;> first | exact he | trivial
  | write => exact he
  | _ => trivial

theorem calm_of_stamps (he : stamps e) : calm e := calm_of_refuses (refuses_of_stamps he)

end Ticket

/-- A part of a handler is punctual and ends as promised. -/
abbrev Presents {A : Type} (tokenId : String) (p : Handler A) (s : Ticket)
    (Q : Ticket → A → Prop) : Prop :=
  Safe (ticket tokenId) (Ticket.punctual tokenId) p s Q

/-- What a call owes when it returns. -/
def Settled (s : Ticket) (_ : JsonRpcResponse) : Prop := s.owing = false

/-- A gate is punctual and comes to a value as promised. -/
abbrev Gate.Presents {A : Type} (tokenId : String) (gate : Gate A) (s : Ticket)
    (R : Ticket → A → Prop) : Prop :=
  gate.Safe (ticket tokenId) (Ticket.punctual tokenId) s Settled R

variable {p : Handler JsonRpcResponse}

section Parts

variable {A : Type} {tokenId : String} {s : Ticket} {R : A → Prop}

theorem calm_settles {p : Handler A} (hp : p.Uses calm R) (hs : s.owing = false) :
    Presents tokenId p s fun s' a => s'.owing = false ∧ R a :=
  hp.safe hs (fun _ _ hs he => Ticket.punctual_of_calm hs he)
    fun _ _ r hs he => Ticket.owing_of_calm hs he r

/-- A calm end of a call. -/
theorem calm_ends {R : JsonRpcResponse → Prop} (hp : p.Uses calm R)
    (hs : s.owing = false) : Presents tokenId p s Settled :=
  (calm_settles hp hs).mono fun _ _ h => h.1

variable {gate : Gate A}

/-- A gate that prepares a write. -/
theorem prepares_presents (hgate : gate.Uses prepares CalmRefusal R) (hs : s.owing = false) :
    gate.Presents tokenId s fun s' a => s'.owing = false ∧ R a :=
  Gate.Uses.safe hgate hs (fun _ _ hs he => Ticket.punctual_of_calm hs (calm_of_prepares he))
    (fun _ _ r hs he => Ticket.owing_of_calm hs (calm_of_prepares he) r)
    fun _ _ hs hp => calm_ends hp.calm hs

/-- A gate between the check of the token and the write. -/
theorem stamps_presents {binding : ConfirmationBinding}
    (hgate : gate.Uses Ticket.stamps CalmRefusal R) (hs : s.Cleared binding) :
    gate.Presents tokenId s fun s' a => s'.Cleared binding ∧ R a :=
  Gate.Uses.safe hgate hs
    (fun _ _ hs he => Ticket.punctual_of_calm hs.1 (Ticket.calm_of_stamps he))
    (fun _ _ r hs he => hs.next he r) fun _ _ hs hp => calm_ends hp.calm hs.1

end Parts

/-! ## The check of the token -/

/-- A family's check accepts only a row that is unspent and bound to the caller. -/
def Validates (validate : Validate) : Prop :=
  ∀ {tokenId : String} {record : ConfirmationRecord} {binding : ConfirmationBinding} {s : Ticket},
    s.owing = false → s.found = some record → s.current = true →
    Presents tokenId (validate record binding) s fun s' checked =>
      s'.owing = false ∧ (checked = .ok () → s'.Cleared binding)

/-- **Validating the token.**  A row that was just found and is accepted is unspent and bound
to the caller. -/
theorem validateConfirmation_safe {ok : Ticket → DaemonAct → Prop} (hnow : ∀ s, ok s .now)
    {tokenId : String} {record : ConfirmationRecord} {binding : ConfirmationBinding} {s : Ticket}
    (howing : s.owing = false) (hfound : s.found = some record) (hcurrent : s.current = true) :
    Safe (ticket tokenId) ok (validateConfirmation record binding) s fun s' checked =>
      s'.owing = false ∧ (checked = .ok () →
        s'.validated = true ∧ s'.found.map (·.binding) = some binding) := by
  refine safe_bind ?_
  unfold validateConfirmationBinding
  by_cases hrevoked : record.revoked = true
  · rw [if_pos hrevoked]
    exact ⟨howing, nofun⟩
  rw [if_neg hrevoked]
  refine safe_perform (hnow s) fun (t : DateTime) => ?_
  have hafter : (s.next tokenId .now t).owing = false := howing
  by_cases hexpired : record.expiresAt ≤ t
  · rw [if_pos hexpired]
    exact ⟨hafter, nofun⟩
  rw [if_neg hexpired]
  cases hmismatch : record.mismatch binding with
  | some field => exact ⟨hafter, nofun⟩
  | none =>
    refine ⟨hafter, fun hok => ?_⟩
    have hconsumed : record.consumed = false := by
      by_contra h
      simp [h] at hok
    have hunspent : ¬ record.Spent t := by
      rintro (h | h | h)
      · simp [hconsumed] at h
      · exact hrevoked h
      · exact hexpired h
    have hseen : s.unspentAt t = true := by
      simp [Ticket.unspentAt, howing, hcurrent, hfound, hunspent]
    refine ⟨Bool.or_eq_true_iff.mpr (.inr hseen), ?_⟩
    show s.found.map (·.binding) = some binding
    rw [hfound, Option.map_some, ConfirmationRecord.mismatch_eq_none.mp hmismatch]

theorem validateConfirmation_validates : Validates validateConfirmation :=
  fun howing hfound hcurrent =>
    (validateConfirmation_safe (fun _ => trivial) howing hfound hcurrent).mono
      fun _ _ h => ⟨h.1, fun hok => ⟨h.1, h.2 hok⟩⟩

section Call

variable {refuse : Refuse}
  (hrefuse : ∀ code message data status, CalmRefusal (refuse code message data status))
  {call : PlannedCall} {s : Ticket}

include hrefuse

/-- **Checking the token.**  A call goes on only with a row that it has just seen unspent, and
that is bound to it. -/
theorem checkToken_presents {validate : Validate} (hvalidate : Validates validate)
    {invalid : ConfirmationConsumeError → Handler JsonRpcResponse}
    (hinvalid : ∀ err, CalmRefusal (invalid err)) (hs : s.owing = false) :
    (checkToken refuse validate invalid call).Presents call.token s fun s' _ =>
      s'.Cleared call.binding := by
  refine Gate.safe_bind (Gate.safe_trying ⟨hs, fun found => ?_⟩)
  rcases found with text | (_ | record)
  · simp only [ticket, Ticket.next, if_true, Ticket.looked]
    exact hs
  · refine calm_ends (hrefuse _ _ _ _).calm ?_
    simp only [ticket, Ticket.next, if_true, Ticket.looked]
    exact hs
  · have hlooked : (ticket call.token).next s (.store (.lookupConfirmation call.token))
        (.ok (some record)) =
          { s with found := some record, current := true, validated := false } := by
      simp [ticket, Ticket.next, Ticket.looked]
    refine Gate.safe_bind (Gate.safe_doing ?_)
    rw [hlooked]
    have hchecked : Presents call.token (validate record call.binding)
        { s with found := some record, current := true, validated := false } _ :=
      hvalidate hs rfl rfl
    refine hchecked.mono ?_
    rintro s' checked ⟨howing, hok⟩
    cases checked with
    | error err => exact Gate.safe_answer (calm_ends (hinvalid err).calm howing)
    | ok _ => exact Gate.safe_pure (hok rfl)

/-- **Consuming the token.**  A call that has written consumes its token at once. -/
theorem consumeThen_presents {next : Handler JsonRpcResponse} (hnext : next.Uses calm fun _ => True)
    (howing : s.owing = true) (hfound : s.found.map (·.binding) = some call.binding) :
    Presents call.token (consumeThen refuse call next) s Settled := by
  refine safe_bind (safe_perform trivial fun now => ?_)
  refine ⟨⟨howing, rfl, rfl, hfound⟩, fun consumed => ?_⟩
  have hsettled : (((s.next call.token .now now).next call.token
      (.store (.consumeConfirmation now call.token call.binding)) consumed)).owing = false := by
    simp [Ticket.next]
  cases consumed with
  | error err => exact calm_ends (hrefuse _ _ _ _).calm hsettled
  | ok _ => exact calm_ends hnext hsettled

end Call

/-- Marking the key leaves what the call knows of its token. -/
theorem markStarted_presents {call : PlannedCall} {tokenId : String} {s : Ticket}
    {binding : ConfirmationBinding} (hs : s.Cleared binding) :
    (markStarted call).Presents tokenId s fun s' _ => s'.Cleared binding := by
  have hmark : (markStarted call).Uses Ticket.stamps CalmRefusal fun _ => True := by
    refine Gate.uses_bind (Gate.uses_doing (performs trivial)) fun startedAt _ => ?_
    have hmarked : (Daemon.markApplyStarted call.key call.tool).Uses Ticket.stamps fun _ => True :=
      uses_perform trivial fun _ =>
        performs trivial
    exact Gate.uses_bind (Gate.uses_trying hmarked fun _ => uses_pure trivial)
      fun _ _ => Gate.uses_pure trivial
  exact (stamps_presents hmark hs).mono fun _ _ h => h.1

/-- What a write leaves: the call owes its token if the write succeeded. -/
theorem write_presents {tokenId planId : String} {w : SnowWrite} {s : Ticket}
    {binding : ConfirmationBinding} (hs : s.Cleared binding) :
    Presents tokenId (Daemon.write planId w) s fun s' answer =>
      s'.found.map (·.binding) = some binding ∧ s'.owing = w.succeeded answer := by
  refine ⟨⟨hs.1, hs.2.1⟩, fun answer => ⟨hs.2.2, ?_⟩⟩
  show (s.owing || (s.validated && w.succeeded answer)) = w.succeeded answer
  rw [hs.1, hs.2.1, Bool.false_or, Bool.true_and]

/-- A punctual handler is disciplined, and nothing excuses it. -/
theorem Presents.disciplined {tokenId : String} {s : Ticket} (h : Presents tokenId p s Settled) :
    Disciplined tokenId excused p s :=
  h.weaken fun _ _ => Ticket.discipline_of_punctual

/-! ## Runs of punctual calls -/

/-- Every call is punctual for the token it presents. -/
def Punctual {Call : Type} (presents : Call → Option String)
    (handle : Call → Handler JsonRpcResponse) : Prop :=
  ∀ call tokenId, (∀ token ∈ presents call, token = tokenId) →
    Presents tokenId (handle call) Ticket.blank Settled

/-- A consumption, with its instant, its token, its binding and its answer. -/
def consumption : Event DaemonIO → Option (DateTime × String × ConfirmationBinding ×
    Except ConfirmationConsumeError ConfirmationRecord)
  | ⟨.store (.consumeConfirmation now id binding), answer⟩ => some (now, id, binding, answer)
  | _ => none

/-- Whether an event is a consumption that was refused. -/
def refusesToken : Event DaemonIO → Bool
  | ⟨.store (.consumeConfirmation ..), .error _⟩ => true
  | _ => false

section Runs

variable {Call : Type} {lib : Crates} {handle : Call → Handler JsonRpcResponse}
  {presents : Call → Option String}

/-- A token that is presented for consumption is there and unspent, and the database does not
fail the consumption. -/
def Unhindered (c : Config DaemonIO World Call JsonRpcResponse) (l : Label DaemonIO World Call) :
    Prop :=
  ∀ ev ∈ l.event?, ∀ x ∈ consumption ev,
    (∃ record ∈ c.world.stores.confirmations.row x.2.1, ¬ record.Spent x.1) ∧
    x.2.2.2 = (SqliteConfirmationStore.consume x.1 x.2.1 x.2.2.1 c.world.stores.confirmations).2

instance (c : Config DaemonIO World Call JsonRpcResponse) (l : Label DaemonIO World Call) :
    Decidable (Unhindered c l) := inferInstanceAs (Decidable (∀ ev ∈ l.event?, _))

/-- The clock does not go back from one reading to the next. -/
def Forward (c : Config DaemonIO World Call JsonRpcResponse) (l : Label DaemonIO World Call) :
    Prop :=
  ∀ t ∈ readsClock l, c.world.clock ≤ t

instance (c : Config DaemonIO World Call JsonRpcResponse) (l : Label DaemonIO World Call) :
    Decidable (Forward c l) := inferInstanceAs (Decidable (∀ t ∈ readsClock l, _))

variable {allowed : Config DaemonIO World Call JsonRpcResponse → Label DaemonIO World Call → Prop}
  {world : World} {c : Config DaemonIO World Call JsonRpcResponse} {tokenId : String}

/-- **A token of punctual calls is good for one write**, as long as the clock and the database
are steady for it and no two of the calls write at once. -/
theorem Punctual.writes_once (hpunctual : Punctual presents handle)
    (hallowed : ∀ {c l}, allowed c l → Steady tokenId c l ∧ OneWriter presents tokenId c l)
    (hrun : Run (daemon lib handle) allowed world c) :
    total (strikes presents tokenId) c ≤ 1 := by
  have hord : Orderly lib handle presents tokenId (fun _ => False) allowed world := by
    refine ⟨fun hl => (hallowed hl).1, ?_⟩
    rintro c i t planId w _ hl ⟨_, ht, hp⟩ _
    exact ⟨id, (hallowed hl).2 i rfl t ht hp⟩
  refine (single_use hord (fun call hp => ?_) hrun).once
  refine (hpunctual call tokenId fun token htoken => ?_).disciplined
  rw [hp] at htoken
  exact (Option.some.inj htoken).symm

/-- **An unhindered call consumes its token.**  In a run of punctual calls whose consumptions
are unhindered, no consumption is refused. -/
theorem Punctual.accepted (hpunctual : Punctual presents handle)
    (hallowed : ∀ {c l}, allowed c l → Unhindered c l)
    (hrun : Run (daemon lib handle) allowed world c) {i : Nat}
    {t : Task DaemonIO Call JsonRpcResponse} (ht : c.tasks[i]? = some t) :
    ∀ ev ∈ t.past, refusesToken ev = false := by
  refine hrun.past_all ht (P := fun ev => refusesToken ev = false) ?_
  intro c l c' hrun hl hs ev hev
  have hunhindered := hallowed hl ev hev
  obtain ⟨e, r⟩ := ev
  cases e with
  | store call =>
    cases call
    case consumeConfirmation now id binding =>
      obtain ⟨⟨record, hrow, hunspent⟩, hanswer⟩ := hunhindered _ rfl
      obtain ⟨_, t, _, _, htask, hrest, _⟩ := hs.performed hev
      -- the call is punctual, so the row is bound as the call needs it
      let token := (presents t.call).getD ""
      have hsafe : Presents token t.rest (seen token t) Settled := by
        let promise : Call → Ticket → JsonRpcResponse → Prop := fun _ => Settled
        have hkept : Presents token t.rest (seen token t) (promise t.call) := by
          refine hrun.safe htask (hpunctual t.call token fun token' htoken => ?_)
          show token' = (presents t.call).getD ""
          rw [htoken]
          rfl
        exact hkept
      rw [hrest] at hsafe
      obtain ⟨_, rfl, _, hfound⟩ := hsafe.1
      obtain ⟨found, hseen, hbound⟩ := Option.map_eq_some_iff.mp hfound
      obtain ⟨row, hrow', hbinding⟩ := seen_bound hrun htask found hseen
      rw [hrow] at hrow'
      cases hrow'
      have haccepted : (SqliteConfirmationStore.consume now token binding
          c.world.stores.confirmations).2 = .ok { record with consumed := true } := by
        rw [← hbound, ← hbinding]
        exact SqliteConfirmationStore.consume_unspent hrow hunspent
      obtain rfl := hanswer.trans haccepted
      rfl
    all_goals rfl
  | _ => rfl

end Runs

end SnowAgent
