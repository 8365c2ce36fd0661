import SnowAgent.Daemon
import SnowAgent.Provenance

/-! # What a call does with its confirmation token

A call that presents a token shows along its path what it knows of the token: the
row it found, whether it has found it since it last waited, the clock reading it
made last, and whether it saw the row unspent.  A call that writes after it saw the
row unspent **owes** the token: it has to present it for consumption before it does
anything else.

The call keeps the `discipline` if it owes nothing whenever it waits or returns,
and writes only after it saw the row unspent, or when it is excused.  A token whose
calls all keep the discipline is good for one successful write, in every run that is
`Orderly` for it: the clock never makes the spent row usable again, the database
does not fail its consumption, no excused call writes, and no two calls wait for
the answers of their writes at once.
-/
namespace SnowAgent

open Interleaving Program

instance (record : ConfirmationRecord) (now : DateTime) : Decidable (record.Spent now) :=
  inferInstanceAs (Decidable (_ ∨ _ ∨ _))

/-- What a call has shown of its token. -/
structure Ticket where
  /-- The row it found last. -/
  found : Option ConfirmationRecord
  /-- Whether it has found that row since it last waited. -/
  current : Bool
  /-- The clock reading it made last, if it made one since it last waited. -/
  clock : Option DateTime
  /-- Whether it saw that row unspent since it last waited. -/
  validated : Bool
  /-- Whether it has written and not presented the token since. -/
  owing : Bool
deriving DecidableEq

namespace Ticket

/-- Nothing has been shown. -/
def blank : Ticket := ⟨none, false, none, false, false⟩

/-- Whether a call that owes nothing has just found its row unspent at an instant. -/
def unspentAt (s : Ticket) (now : DateTime) : Bool :=
  !s.owing && s.current && s.found.any fun record => decide (¬ record.Spent now)

/-- Whether the row that the call found last was consumed. -/
def foundConsumed (s : Ticket) : Bool := s.found.any (·.consumed)

/-- After the answer of a lookup. -/
def looked (s : Ticket) : Except String (Option ConfirmationRecord) → Ticket
  | .ok (some record) => { s with found := some record, current := true, validated := false }
  | _ => s

/-- After a wait. -/
def rested (s : Ticket) : Ticket := { s with current := false, clock := none, validated := false }

/-- What an action and its answer add, for the token `tokenId`. -/
def next (tokenId : String) (s : Ticket) : (e : DaemonAct) → e.Ans → Ticket
  | .now, t => { s with clock := some t, validated := s.validated || s.unspentAt t }
  | .store (.lookupConfirmation id), answer => if id = tokenId then s.looked answer else s
  | .store (.consumeConfirmation _ id _), _ =>
    if id = tokenId then { s with owing := false, current := false } else s
  | .read _, _ => s.rested
  | .write _ w, answer =>
    { s.rested with owing := s.owing || (s.validated && w.succeeded answer) }
  | _, _ => s

/-- The actions a call may perform: it presents the token it owes first, and writes only when
it has seen the row unspent or is excused. -/
def discipline (tokenId : String) (excused : Ticket → Prop) (s : Ticket) : DaemonAct → Prop
  | .now => True
  | .store (.consumeConfirmation now id binding) =>
    s.owing = true → id = tokenId ∧ s.clock = some now ∧ s.found.map (·.binding) = some binding
  | .write _ _ => s.owing = false ∧ (s.validated = true ∨ excused s)
  | _ => s.owing = false

end Ticket

/-- The observer of one token. -/
def ticket (tokenId : String) : Observer DaemonIO := ⟨Ticket, Ticket.next tokenId⟩

/-- A part of a handler keeps the discipline and ends as promised. -/
abbrev Keeps {A : Type} (tokenId : String) (excused : Ticket → Prop) (p : Handler A) (s : Ticket)
    (Q : Ticket → A → Prop) : Prop :=
  Safe (ticket tokenId) (Ticket.discipline tokenId excused) p s Q

/-- A handler keeps the discipline, and owes nothing when it returns. -/
abbrev Disciplined (tokenId : String) (excused : Ticket → Prop) (p : Handler JsonRpcResponse)
    (s : Ticket) : Prop :=
  Keeps tokenId excused p s fun s _ => s.owing = false

/-! ## What the stores keep -/

variable {record : ConfirmationRecord}

/-- Only `issue` and `consume` touch the confirmations. -/
def StoreCall.confirms : StoreCall → Bool
  | .issueConfirmation .. | .consumeConfirmation .. => true
  | _ => false

theorem StoreCall.run_confirmations {call : StoreCall} (h : call.confirms = false) (lib : Crates)
    (s : Stores) : (call.run lib s).1.confirmations = s.confirmations := by
  cases call <;> simp only [StoreCall.confirms, Bool.true_eq_false] at h <;>
    simp only [StoreCall.run] <;> (try split) <;> rfl

/-- No call of a store removes or rebinds a confirmation. -/
theorem StoreCall.run_kept (call : StoreCall) (lib : Crates) (s : Stores) :
    SqliteConfirmationStore.Kept s.confirmations (call.run lib s).1.confirmations := by
  by_cases hconfirms : call.confirms = true
  · cases call <;> simp only [StoreCall.confirms, Bool.false_eq_true] at hconfirms
    case issueConfirmation now tokenId planId binding ttlSeconds =>
      cases hissue : SqliteConfirmationStore.issue now tokenId planId binding ttlSeconds
          s.confirmations with
      | none =>
        simp only [StoreCall.run, hissue]
        exact SqliteConfirmationStore.Kept.refl _
      | some issued =>
        simp only [StoreCall.run, hissue]
        exact fun _ _ hrow => .inl (SqliteConfirmationStore.issue_row hissue hrow)
    case consumeConfirmation now tokenId binding =>
      exact SqliteConfirmationStore.consume_kept now tokenId binding s.confirmations
  · rw [StoreCall.run_confirmations (by simpa using hconfirms) lib s]
    exact SqliteConfirmationStore.Kept.refl _

/-- A call of a store changes a row that is there only by consuming it. -/
theorem StoreCall.run_row {call : StoreCall} {tokenId : String}
    (hcall : ∀ now binding, call ≠ .consumeConfirmation now tokenId binding) (lib : Crates)
    {s : Stores} (hrow : s.confirmations.row tokenId = some record) :
    (call.run lib s).1.confirmations.row tokenId = some record := by
  by_cases hconfirms : call.confirms = true
  · cases call <;> simp only [StoreCall.confirms, Bool.false_eq_true] at hconfirms
    case issueConfirmation now id planId binding ttlSeconds =>
      cases hissue : SqliteConfirmationStore.issue now id planId binding ttlSeconds
          s.confirmations with
      | none => simpa only [StoreCall.run, hissue] using hrow
      | some issued =>
        simp only [StoreCall.run, hissue]
        exact SqliteConfirmationStore.issue_row hissue hrow
    case consumeConfirmation now id binding =>
      have hid : tokenId ≠ id := by
        rintro rfl
        exact hcall now binding rfl
      exact (SqliteConfirmationStore.consume_row_of_ne hid).trans hrow
  · rw [StoreCall.run_confirmations (by simpa using hconfirms) lib s, hrow]

namespace World

variable {lib : Crates} {w w' : World} {e : DaemonAct} {r : e.Ans}

/-- What an answer may change of the world, besides its clock: only a store call touches the
stores. -/
theorem Answers.stores (h : w.Answers lib e r w') :
    w'.stores = w.stores ∨ ∃ call, e = .store call ∧ w'.stores = (call.run lib w.stores).1 := by
  cases e with
  | store call =>
    rcases h with ⟨rfl, _⟩ | ⟨rfl, _⟩
    · exact .inr ⟨call, rfl, rfl⟩
    · exact .inl rfl
  | uuid => exact .inl (by rw [h.2])
  | rateLimit => exact .inl (by rw [(Prod.mk.inj h).1])
  | now => exact .inl (by rw [show w' = _ from h])
  | envVar => exact .inl (by rw [show w' = _ from h])
  | openStores => exact .inl (by rw [show w' = _ from h])
  | read => exact .inl (by rw [show w' = _ from h])
  | write => exact .inl (by rw [show w' = _ from h])

/-- No answer removes or rebinds a confirmation. -/
theorem Answers.kept (h : w.Answers lib e r w') :
    SqliteConfirmationStore.Kept w.stores.confirmations w'.stores.confirmations := by
  rcases h.stores with heq | ⟨call, _, heq⟩
  · rw [heq]
    exact SqliteConfirmationStore.Kept.refl _
  · rw [heq]
    exact call.run_kept lib w.stores

theorem Answers.row (h : w.Answers lib e r w') {tokenId : String}
    (he : ∀ now binding, e ≠ .store (.consumeConfirmation now tokenId binding))
    (hrow : w.stores.confirmations.row tokenId = some record) :
    w'.stores.confirmations.row tokenId = some record := by
  rcases h.stores with heq | ⟨call, rfl, heq⟩
  · rw [heq, hrow]
  · rw [heq]
    exact StoreCall.run_row (fun now binding hcall => he now binding (by rw [hcall])) lib hrow

/-- The clock moves only when it is read. -/
theorem Answers.clock (h : w.Answers lib e r w') : w'.clock = w.clock ∨ e = .now := by
  cases e with
  | store call => rcases h with ⟨rfl, _⟩ | ⟨rfl, _⟩ <;> exact .inl rfl
  | now => exact .inr rfl
  | uuid => exact .inl (by rw [h.2])
  | rateLimit => exact .inl (by rw [(Prod.mk.inj h).1])
  | envVar => exact .inl (by rw [show w' = _ from h])
  | openStores => exact .inl (by rw [show w' = _ from h])
  | read => exact .inl (by rw [show w' = _ from h])
  | write => exact .inl (by rw [show w' = _ from h])

end World

/-! ## What a call knows -/

namespace Ticket

variable {tokenId : String} {s : Ticket} {lib : Crates} {w w' : World} {e : DaemonAct} {r : e.Ans}

/-- The row that was found is still there, and bound as it was. -/
def Bound (tokenId : String) (s : Ticket) (w : World) : Prop :=
  ∀ record, s.found = some record →
    ∃ row, w.stores.confirmations.row tokenId = some row ∧ row.binding = record.binding

/-- What has been seen since the last wait is still so. -/
def Fresh (tokenId : String) (s : Ticket) (w : World) : Prop :=
  (s.current = true →
    ∃ record, s.found = some record ∧ w.stores.confirmations.row tokenId = some record) ∧
  ∀ t, s.clock = some t → w.clock = t

theorem bound_blank (tokenId : String) (w : World) : Bound tokenId blank w := by
  intro record h
  cases h

theorem fresh_blank (tokenId : String) (w : World) : Fresh tokenId blank w :=
  ⟨fun h => (by cases h), fun t h => (by cases h)⟩

theorem Bound.kept (h : Bound tokenId s w)
    (hkept : SqliteConfirmationStore.Kept w.stores.confirmations w'.stores.confirmations) :
    Bound tokenId s w' := by
  intro record hfound
  obtain ⟨row, hrow, hbinding⟩ := h record hfound
  rcases hkept tokenId row hrow with hrow' | hrow'
  · exact ⟨row, hrow', hbinding⟩
  · exact ⟨_, hrow', hbinding⟩

variable {answer : Except String (Option ConfirmationRecord)}

theorem looked_validated (h : (s.looked answer).validated = true) : s.validated = true := by
  unfold looked at h
  split at h
  · cases h
  · exact h

@[simp] theorem looked_owing (answer : Except String (Option ConfirmationRecord)) :
    (s.looked answer).owing = s.owing := by
  unfold looked
  split <;> rfl

/-- The answer of a lookup is the row. -/
theorem looked_row (h : World.Answers lib w (.store (.lookupConfirmation tokenId)) answer w') :
    s.looked answer = s ∨ ∃ record, w'.stores.confirmations.row tokenId = some record ∧
      s.looked answer = { s with found := some record, current := true, validated := false } := by
  rcases h with ⟨rfl, rfl⟩ | ⟨rfl, text, rfl⟩
  · cases hrow : w.stores.confirmations.row tokenId with
    | none =>
      refine .inl ?_
      simp [StoreCall.run, SqliteConfirmationStore.lookup, hrow, looked]
    | some record =>
      refine .inr ⟨record, ?_, ?_⟩
      · simp [StoreCall.run, hrow]
      · simp [StoreCall.run, SqliteConfirmationStore.lookup, hrow, looked]
  · exact .inl rfl

theorem Bound.next (h : Bound tokenId s w) (ha : w.Answers lib e r w') :
    Bound tokenId (s.next tokenId e r) w' := by
  have hkept := h.kept ha.kept
  cases e with
  | store call =>
    cases call
    case lookupConfirmation id =>
      by_cases hid : id = tokenId
      · subst hid
        simp only [Ticket.next, if_true]
        rcases looked_row (s := s) ha with hlooked | ⟨record, hrow, hlooked⟩
        · rw [hlooked]
          exact hkept
        · rw [hlooked]
          intro found hfound
          cases hfound
          exact ⟨record, hrow, rfl⟩
      · simpa only [Ticket.next, if_neg hid] using hkept
    case consumeConfirmation now id binding =>
      simp only [Ticket.next]
      split
      · exact hkept
      · exact hkept
    all_goals exact hkept
  | now => exact hkept
  | uuid => exact hkept
  | envVar => exact hkept
  | openStores => exact hkept
  | rateLimit => exact hkept
  | read => exact hkept
  | write => exact hkept

/-- Nothing is seen before a wait and kept after it. -/
theorem fresh_wait (h : e.yields = true) (w : World) : Fresh tokenId (s.next tokenId e r) w := by
  cases e with
  | read => exact ⟨fun hcurrent => (by cases hcurrent), fun t ht => (by cases ht)⟩
  | write => exact ⟨fun hcurrent => (by cases hcurrent), fun t ht => (by cases ht)⟩
  | _ => cases h

theorem Fresh.next (h : Fresh tokenId s w) (ha : w.Answers lib e r w') :
    Fresh tokenId (s.next tokenId e r) w' := by
  have hquiet : (∀ now binding, e ≠ .store (.consumeConfirmation now tokenId binding)) →
      e ≠ .now → Fresh tokenId s w' := by
    intro hconsume hnow
    refine ⟨fun hcurrent => ?_, fun t ht => ?_⟩
    · obtain ⟨record, hfound, hrow⟩ := h.1 hcurrent
      exact ⟨record, hfound, ha.row hconsume hrow⟩
    · rcases ha.clock with hclock | rfl
      · rw [hclock, h.2 t ht]
      · exact absurd rfl hnow
  cases e with
  | store call =>
    cases call
    case lookupConfirmation id =>
      have hsame := hquiet (by simp) (by simp)
      by_cases hid : id = tokenId
      · subst hid
        simp only [Ticket.next, if_true]
        rcases looked_row (s := s) ha with hlooked | ⟨record, hrow, hlooked⟩
        · rw [hlooked]
          exact hsame
        · rw [hlooked]
          exact ⟨fun _ => ⟨record, rfl, hrow⟩, hsame.2⟩
      · simpa only [Ticket.next, if_neg hid] using hsame
    case consumeConfirmation now id binding =>
      have hclock : ∀ t, s.clock = some t → w'.clock = t := by
        intro t ht
        rcases ha.clock with hclock | hnow
        · rw [hclock, h.2 t ht]
        · cases hnow
      by_cases hid : id = tokenId
      · simp only [Ticket.next, if_pos hid]
        exact ⟨fun hcurrent => (by cases hcurrent), hclock⟩
      · simp only [Ticket.next, if_neg hid]
        refine hquiet (fun now' binding' heq => ?_) (by simp)
        cases heq
        exact hid rfl
    all_goals exact hquiet (by simp) (by simp)
  | now =>
    obtain rfl : w' = { w with clock := r } := ha
    exact ⟨h.1, fun t ht => Option.some.inj ht⟩
  | uuid => exact hquiet (by simp) (by simp)
  | envVar => exact hquiet (by simp) (by simp)
  | openStores => exact hquiet (by simp) (by simp)
  | rateLimit => exact hquiet (by simp) (by simp)
  | read => exact fresh_wait rfl w'
  | write => exact fresh_wait rfl w'

/-- A call sees its row unspent only when it is, and not while it owes the token. -/
theorem validated_next (hfresh : Fresh tokenId s w) (ha : w.Answers lib e r w')
    (h : (s.next tokenId e r).validated = true) :
    s.validated = true ∨ s.owing = false ∧
      ∃ record, w'.stores.confirmations.row tokenId = some record ∧ ¬ record.Spent w'.clock := by
  cases e with
  | now =>
    obtain rfl : w' = { w with clock := r } := ha
    simp only [Ticket.next, unspentAt, Bool.or_eq_true, Bool.and_eq_true, Bool.not_eq_true'] at h
    rcases h with h | ⟨⟨howing, hcurrent⟩, hunspent⟩
    · exact .inl h
    · obtain ⟨record, hfound, hrow⟩ := hfresh.1 hcurrent
      rw [hfound] at hunspent
      exact .inr ⟨howing, record, hrow, by simpa using hunspent⟩
  | store call =>
    refine .inl ?_
    cases call
    case lookupConfirmation id =>
      simp only [Ticket.next] at h
      split at h
      · exact looked_validated h
      · exact h
    case consumeConfirmation now id binding =>
      simp only [Ticket.next] at h
      split at h <;> exact h
    all_goals exact h
  | read => cases h
  | write => cases h
  | _ => exact .inl h

/-- A call that waits owes nothing. -/
theorem owing_of_yields {excused : Ticket → Prop} (h : s.discipline tokenId excused e)
    (hy : e.yields = true) : s.owing = false := by
  cases e with
  | read => exact h
  | write => exact h.1
  | _ => cases hy

end Ticket

/-! ## Successful writes -/

/-- Whether an event is a write that succeeded. -/
def wrote : Event DaemonIO → Bool
  | ⟨.write _ w, answer⟩ => w.succeeded answer
  | _ => false

theorem wrote_of_not_yields {e : DaemonAct} (h : e.yields = false) (r : e.Ans) :
    wrote ⟨e, r⟩ = false := by
  cases e <;> first | rfl | cases h

section Token

variable {Call : Type} {lib : Crates} {handle : Call → Handler JsonRpcResponse}
  (presents : Call → Option String) (tokenId : String)

/-- What a task has shown of the token. -/
def seen (t : Task DaemonIO Call JsonRpcResponse) : Ticket :=
  t.observed (ticket tokenId) fun _ => Ticket.blank

/-- The writes of a task that succeeded, if it presents the token. -/
def strikes (t : Task DaemonIO Call JsonRpcResponse) : Nat :=
  if presents t.call = some tokenId then t.past.countP wrote else 0

/-- Task `i` presents the token and waits for the answer of a write. -/
def Writing (c : Config DaemonIO World Call JsonRpcResponse) (i : Nat)
    (t : Task DaemonIO Call JsonRpcResponse) : Prop :=
  c.tasks[i]? = some t ∧ presents t.call = some tokenId ∧ c.running ≠ some i ∧
    ∃ planId w k, t.rest = .act (.write planId w) k

/-- Task `i` presents the token and runs. -/
def Active (c : Config DaemonIO World Call JsonRpcResponse) (i : Nat)
    (t : Task DaemonIO Call JsonRpcResponse) : Prop :=
  c.running = some i ∧ c.tasks[i]? = some t ∧ presents t.call = some tokenId

variable {presents tokenId} {c : Config DaemonIO World Call JsonRpcResponse} {i j : Nat}
  {t u : Task DaemonIO Call JsonRpcResponse} {e : DaemonAct} {r : e.Ans}
  {k : e.Ans → Handler JsonRpcResponse} {w : World} {call : Call}

@[simp] theorem seen_act :
    seen tokenId ⟨t.call, t.past ++ [⟨e, r⟩], k r⟩ = (seen tokenId t).next tokenId e r :=
  observed_act (ticket tokenId) _ t e r (k r)

@[simp] theorem strikes_new (p : Handler JsonRpcResponse) :
    strikes presents tokenId ⟨call, [], p⟩ = 0 := by simp [strikes]

theorem strikes_act :
    strikes presents tokenId ⟨t.call, t.past ++ [⟨e, r⟩], k r⟩ = strikes presents tokenId t +
        if presents t.call = some tokenId ∧ wrote ⟨e, r⟩ then 1 else 0 := by
  unfold strikes
  by_cases hp : presents t.call = some tokenId
  · by_cases hw : wrote ⟨e, r⟩ = true
    · simp [hp, hw, List.countP_append]
    · simp [hp, hw, List.countP_append]
  · simp [hp]

variable {allowed : Config DaemonIO World Call JsonRpcResponse → Label DaemonIO World Call → Prop}
  {world : World}

/-- In every run, what a task has found is bound as it was. -/
theorem seen_bound (hrun : Run (daemon lib handle) allowed world c)
    (ht : c.tasks[i]? = some t) : (seen tokenId t).Bound tokenId c.world := by
  induction hrun generalizing i t with
  | start => simp at ht
  | next hrun hl hs ih =>
    rcases hs.task_cases ht with ⟨call, rfl⟩ | ⟨u, e, k, r, hu, _, hev, _, rfl⟩ | ht
    · exact Ticket.bound_blank tokenId _
    · rw [seen_act]
      exact (ih hu).next (hs.answered hev)
    · rcases step_stores hs with ⟨_, _, ha⟩ | ⟨_, hsame⟩
      · exact (ih ht).kept ha.kept
      · exact (ih ht).kept (hsame ▸ SqliteConfirmationStore.Kept.refl _)

/-- In every run, what the running task has seen since it last waited is still so. -/
theorem seen_fresh (hrun : Run (daemon lib handle) allowed world c)
    (hi : c.running = some i) (ht : c.tasks[i]? = some t) :
    (seen tokenId t).Fresh tokenId c.world := by
  induction hrun generalizing i t with
  | start => simp at ht
  | next hrun hl hs ih =>
    cases hs with
    | spawn hidle =>
      rcases afterSpawn_task ht with ⟨_, rfl⟩ | hold
      · exact Ticket.fresh_blank tokenId _
      · have hlt := (List.getElem?_eq_some_iff.mp hold).1
        have hlast := Option.some.inj hi
        omega
    | act hr htask hrest hy ha =>
      rcases afterAct_task ht with ⟨_, rfl⟩ | ⟨hne, _⟩
      · rw [seen_act]
        exact (ih hr htask).next ha
      · exact absurd (Option.some.inj hi).symm hne
    | receive hr htask hrest hy ha =>
      rcases afterAct_task ht with ⟨_, rfl⟩ | ⟨hne, _⟩
      · rw [seen_act]
        exact Ticket.fresh_wait hy _
      · exact absurd (Option.some.inj hi).symm hne
    | send => cases hi
    | finish => cases hi
    | environment hcreates =>
      obtain ⟨_, _, _, rfl⟩ := hcreates
      exact ih hi ht

/-! ## One write for each token -/

variable {excused : Ticket → Prop}

/-- The clock reading of a step. -/
def readsClock : Label DaemonIO World Call → Option DateTime
  | .act _ .now t => some t
  | _ => none

/-- The consumption of the token in a step, with its instant, its binding and its answer. -/
def consumes (tokenId : String) : Label DaemonIO World Call →
    Option (DateTime × ConfirmationBinding × Except ConfirmationConsumeError ConfirmationRecord)
  | .act _ (.store (.consumeConfirmation now id binding)) answer =>
    if id = tokenId then some (now, binding, answer) else none
  | _ => none

/-- The task that sends a write in a step. -/
def sendsWrite : Label DaemonIO World Call → Option Nat
  | .send i (.write _ _) => some i
  | _ => none

/-- The clock does not make the spent row of the token usable again, and the database does
not fail its consumption. -/
def Steady (tokenId : String) (c : Config DaemonIO World Call JsonRpcResponse)
    (l : Label DaemonIO World Call) : Prop :=
  (∀ t ∈ readsClock l, ∀ record ∈ c.world.stores.confirmations.row tokenId,
    record.Spent c.world.clock → record.Spent t) ∧
  ∀ consumed ∈ consumes tokenId l, consumed.2.2 =
    (SqliteConfirmationStore.consume consumed.1 tokenId consumed.2.1 c.world.stores.confirmations).2

/-- A call that presents the token sends its write only if it is not excused. -/
def Unexcused (presents : Call → Option String) (tokenId : String) (excused : Ticket → Prop)
    (c : Config DaemonIO World Call JsonRpcResponse) (l : Label DaemonIO World Call) : Prop :=
  ∀ i ∈ sendsWrite l, ∀ t ∈ c.tasks[i]?, presents t.call = some tokenId → ¬ excused (seen tokenId t)

/-- A call that presents the token sends its write only while no other such call waits for
the answer of its own. -/
def OneWriter (presents : Call → Option String) (tokenId : String)
    (c : Config DaemonIO World Call JsonRpcResponse) (l : Label DaemonIO World Call) : Prop :=
  ∀ i ∈ sendsWrite l, ∀ t ∈ c.tasks[i]?, presents t.call = some tokenId →
    ∀ j u, ¬ Writing presents tokenId c j u

instance {c : Config DaemonIO World Call JsonRpcResponse} {l : Label DaemonIO World Call} :
    Decidable (Steady tokenId c l) := inferInstanceAs (Decidable (_ ∧ _))

instance {excused : Ticket → Prop} [DecidablePred excused]
    {c : Config DaemonIO World Call JsonRpcResponse} {l : Label DaemonIO World Call} :
    Decidable (Unexcused presents tokenId excused c l) :=
  inferInstanceAs (Decidable (∀ i ∈ sendsWrite l, ∀ t ∈ c.tasks[i]?, _))

instance : (p : Handler JsonRpcResponse) → Decidable (∃ planId w k, p = .act (.write planId w) k)
  | .act (.write planId w) k => .isTrue ⟨planId, w, k, rfl⟩
  | .act .now _ | .act .uuid _ | .act (.envVar _) _ | .act .openStores _
  | .act (.rateLimit ..) _ | .act (.store _) _ | .act (.read _) _ | .pure _ => .isFalse nofun

instance {c : Config DaemonIO World Call JsonRpcResponse} :
    Decidable (∀ j u, ¬ Writing presents tokenId c j u) :=
  decidable_of_iff (∀ j < c.tasks.length, ∀ u ∈ c.tasks[j]?,
    ¬ (presents u.call = some tokenId ∧ c.running ≠ some j ∧
      ∃ planId w k, u.rest = .act (.write planId w) k)) (by
    refine ⟨fun h j u hu => ?_, fun h j _ u hu hrest => h j u ⟨hu, hrest⟩⟩
    exact h j (List.getElem?_eq_some_iff.mp hu.1).1 u hu.1 hu.2)

instance {c : Config DaemonIO World Call JsonRpcResponse} {l : Label DaemonIO World Call} :
    Decidable (OneWriter presents tokenId c l) :=
  inferInstanceAs (Decidable (∀ i ∈ sendsWrite l, ∀ t ∈ c.tasks[i]?, _))

/-- The runs in which the discipline is enough: their steps are steady, and a call that
presents the token writes neither excused nor while another one waits for its write. -/
structure Orderly (lib : Crates) (handle : Call → Handler JsonRpcResponse)
    (presents : Call → Option String) (tokenId : String) (excused : Ticket → Prop)
    (allowed : Config DaemonIO World Call JsonRpcResponse → Label DaemonIO World Call → Prop)
    (world : World) : Prop where
  steady : ∀ {c l}, allowed c l → Steady tokenId c l
  write : ∀ {c i t planId w}, Run (daemon lib handle) allowed world c →
    allowed c (.send i (.write planId w)) → Active presents tokenId c i t →
      ¬ t.rest.Returned → ¬ excused (seen tokenId t) ∧ ∀ j u, ¬ Writing presents tokenId c j u

/-- The token's writes, what its waiting and running calls may rely on, and who answers for
a write that succeeded: the row, or the running call. -/
structure SingleUse (presents : Call → Option String) (tokenId : String)
    (c : Config DaemonIO World Call JsonRpcResponse) : Prop where
  once : total (strikes presents tokenId) c ≤ 1
  alone : ∀ i j t u, Writing presents tokenId c i t → Writing presents tokenId c j u → i = j
  ready : ∀ i t, Writing presents tokenId c i t → (seen tokenId t).validated = true
  unused : ∀ i t, Writing presents tokenId c i t ∨ Active presents tokenId c i t →
    (seen tokenId t).validated = true → total (strikes presents tokenId) c = 0
  settled : total (strikes presents tokenId) c ≠ 0 →
    (∃ record, c.world.stores.confirmations.row tokenId = some record ∧
      record.Spent c.world.clock) ∨
    ∃ i t, Active presents tokenId c i t ∧ (seen tokenId t).owing = true

namespace SingleUse

theorem start (world : World) : SingleUse presents tokenId
    (⟨world, [], none⟩ : Config DaemonIO World Call JsonRpcResponse) where
  once := by simp [total]
  alone := by
    rintro i j t u ⟨ht, _⟩
    cases ht
  ready := by
    rintro i t ⟨ht, _⟩
    cases ht
  unused := by
    intro i t _ _
    simp [total]
  settled := by simp [total]

/-- While no task runs, the row answers for a write. -/
theorem settled_idle (h : SingleUse presents tokenId c) (hidle : c.running = none)
    (hwrote : total (strikes presents tokenId) c ≠ 0) :
    ∃ record, c.world.stores.confirmations.row tokenId = some record ∧
      record.Spent c.world.clock := by
  rcases h.settled hwrote with hrow | ⟨i, t, ⟨hi, _⟩, _⟩
  · exact hrow
  · rw [hidle] at hi
    cases hi

theorem spawn (h : SingleUse presents tokenId c) (hidle : c.running = none) (call : Call) :
    SingleUse presents tokenId (c.afterSpawn (daemon lib handle) call) := by
  have htotal : total (strikes presents tokenId) (c.afterSpawn (daemon lib handle) call) =
      total (strikes presents tokenId) c := by
    rw [total_afterSpawn, strikes_new, Nat.add_zero]
  have hwriting : ∀ i t, Writing presents tokenId (c.afterSpawn (daemon lib handle) call) i t →
      Writing presents tokenId c i t := by
    rintro i t ⟨ht, hp, hi, hrest⟩
    rcases afterSpawn_task ht with ⟨rfl, _⟩ | ht
    · exact absurd rfl hi
    · exact ⟨ht, hp, by rw [hidle]; exact nofun, hrest⟩
  refine ⟨by rw [htotal]; exact h.once, fun i j t u hi hj => ?_, fun i t hi => ?_, ?_, ?_⟩
  · exact h.alone i j t u (hwriting i t hi) (hwriting j u hj)
  · exact h.ready i t (hwriting i t hi)
  · rintro i t (hi | ⟨hi, ht, hp⟩) hvalidated
    · rw [htotal]
      exact h.unused i t (.inl (hwriting i t hi)) hvalidated
    · obtain rfl : c.tasks.length = i := Option.some.inj hi
      rcases afterSpawn_task ht with ⟨_, rfl⟩ | ht
      · cases hvalidated
      · have hlt := (List.getElem?_eq_some_iff.mp ht).1
        omega
  · intro hwrote
    rw [htotal] at hwrote
    exact .inl (h.settled_idle hidle hwrote)

section

variable (hord : Orderly lib handle presents tokenId excused allowed world)
  (hl : allowed c (.act i e r)) (ha : c.world.Answers lib e r w)

include hord hl ha

/-- A spent row stays spent. -/
theorem spent_act (hspent : ∃ record, c.world.stores.confirmations.row tokenId = some record ∧
      record.Spent c.world.clock) :
    ∃ record, w.stores.confirmations.row tokenId = some record ∧ record.Spent w.clock := by
  obtain ⟨record, hrow, hspent⟩ := hspent
  rcases ha.clock with hclock | rfl
  · rw [hclock]
    exact ha.kept.spent hrow hspent
  · obtain rfl : w = { c.world with clock := r } := ha
    exact ⟨record, hrow, (hord.steady hl).1 r rfl record hrow hspent⟩

/-- A call that owes the token reads the clock, or presents it and so leaves the row spent. -/
theorem owing_act {s : Ticket}
    (hbound : s.Bound tokenId c.world) (hfresh : s.Fresh tokenId c.world)
    (hok : s.discipline tokenId excused e) (howing : s.owing = true) :
    (s.next tokenId e r).owing = true ∨
      ∃ record, w.stores.confirmations.row tokenId = some record ∧ record.Spent w.clock := by
  have hbusy : s.owing ≠ false := by simp [howing]
  cases e with
  | now => exact .inl howing
  | store call =>
    cases call
    case consumeConfirmation now id binding =>
      obtain ⟨rfl, hclock, hfound⟩ := hok howing
      obtain ⟨record, hrecord, rfl⟩ := Option.map_eq_some_iff.mp hfound
      obtain ⟨row, hrow, hbinding⟩ := hbound record hrecord
      have hnow := hfresh.2 now hclock
      have hanswer := (hord.steady hl).2 (now, record.binding, r) (if_pos rfl)
      have hconsumed : w.stores.confirmations =
          (SqliteConfirmationStore.consume now id record.binding
            c.world.stores.confirmations).1 ∧ w.clock = c.world.clock := by
        rcases ha with ⟨rfl, _⟩ | ⟨rfl, text, hfailed⟩
        · exact ⟨rfl, rfl⟩
        · rcases SqliteConfirmationStore.consume_cases now id record.binding
            c.world.stores.confirmations with ⟨err, hc⟩ | ⟨_, _, _, _, hc⟩
          · exact ⟨by rw [hc], rfl⟩
          · rw [hc, hfailed] at hanswer
            cases hanswer
      rw [hconsumed.1, hconsumed.2, hnow, ← hbinding]
      exact .inr (SqliteConfirmationStore.consume_spends hrow)
    all_goals exact absurd hok hbusy
  | write => exact absurd hok.1 hbusy
  | _ => exact absurd hok hbusy

end

section

variable (h : SingleUse presents tokenId c)

include h

theorem act (hord : Orderly lib handle presents tokenId excused allowed world)
    (hl : allowed c (.act i e r)) (ha : c.world.Answers lib e r w) (hi : c.running = some i)
    (ht : c.tasks[i]? = some t) (hy : e.yields = false)
    (hbound : (seen tokenId t).Bound tokenId c.world)
    (hfresh : (seen tokenId t).Fresh tokenId c.world)
    (hok : presents t.call = some tokenId → (seen tokenId t).discipline tokenId excused e) :
    SingleUse presents tokenId (c.afterAct i t e r k w) := by
  have htotal : total (strikes presents tokenId) (c.afterAct i t e r k w) =
      total (strikes presents tokenId) c := by
    have hsum := total_afterAct (f := strikes presents tokenId) (e := e) (k := k) (r := r)
      (w := w) ht
    rw [strikes_act, wrote_of_not_yields hy r] at hsum
    simp only [Bool.false_eq_true, and_false, if_false] at hsum
    omega
  have hwriting : ∀ j u, Writing presents tokenId (c.afterAct i t e r k w) j u →
      Writing presents tokenId c j u := by
    rintro j u ⟨hu, hp, hj, hrest⟩
    rcases afterAct_task hu with ⟨rfl, _⟩ | ⟨hne, hu⟩
    · exact absurd rfl hj
    · refine ⟨hu, hp, ?_, hrest⟩
      rw [hi]
      exact fun heq => hne (Option.some.inj heq).symm
  refine ⟨by rw [htotal]; exact h.once, fun j j' u u' hu hu' => ?_, fun j u hu => ?_, ?_, ?_⟩
  · exact h.alone j j' u u' (hwriting j u hu) (hwriting j' u' hu')
  · exact h.ready j u (hwriting j u hu)
  · rintro j u (hu | ⟨hj, hu, hp⟩) hvalidated
    · rw [htotal]
      exact h.unused j u (.inl (hwriting j u hu)) hvalidated
    · rcases afterAct_task hu with ⟨rfl, rfl⟩ | ⟨hne, _⟩
      · rw [seen_act] at hvalidated
        rw [htotal]
        rcases Ticket.validated_next hfresh ha hvalidated with hbefore |
            ⟨howing, record, hrow, hunspent⟩
        · exact h.unused j t (.inr ⟨hi, ht, hp⟩) hbefore
        · -- the row is unspent, so it does not answer for a write; nor does the call
          by_contra hwrote
          rcases h.settled hwrote with hspent | ⟨j', t', ⟨hj', ht', _⟩, howing'⟩
          · obtain ⟨record', hrow', hspent'⟩ := spent_act hord hl ha hspent
            rw [hrow] at hrow'
            cases hrow'
            exact hunspent hspent'
          · rw [hi] at hj'
            cases hj'
            rw [ht] at ht'
            cases ht'
            rw [howing] at howing'
            cases howing'
      · exact absurd (Option.some.inj hj).symm hne
  · intro hwrote
    rw [htotal] at hwrote
    rcases h.settled hwrote with hspent | ⟨j, u, ⟨hj, hu, hp⟩, howing⟩
    · exact .inl (spent_act hord hl ha hspent)
    · rw [hi] at hj
      cases hj
      rw [ht] at hu
      cases hu
      rcases owing_act hord hl ha hbound hfresh (hok hp) howing with howing' | hspent
      · refine .inr ⟨i, _, ⟨rfl, afterAct_self ht, hp⟩, ?_⟩
        rw [seen_act]
        exact howing'
      · exact .inl hspent

theorem send (hord : Orderly lib handle presents tokenId excused allowed world)
    (hrun : Run (daemon lib handle) allowed world c) (hl : allowed c (.send i e))
    (hi : c.running = some i) (ht : c.tasks[i]? = some t) (hrest : t.rest = .act e k)
    (hy : e.yields = true)
    (hok : presents t.call = some tokenId → (seen tokenId t).discipline tokenId excused e) :
    SingleUse presents tokenId c.parked := by
  have hwriting : ∀ j u, Writing presents tokenId c.parked j u → Writing presents tokenId c j u ∨
        j = i ∧ u = t ∧ presents t.call = some tokenId ∧ ∃ planId w, e = .write planId w := by
    rintro j u ⟨hu, hp, hj, planId, w, k', hk'⟩
    change c.tasks[j]? = some u at hu
    by_cases hij : j = i
    · subst hij
      rw [ht] at hu
      cases hu
      rw [hrest] at hk'
      cases hk'
      exact .inr ⟨rfl, rfl, hp, planId, w, rfl⟩
    · refine .inl ⟨hu, hp, ?_, planId, w, k', hk'⟩
      rw [hi]
      exact fun heq => hij (Option.some.inj heq).symm
  -- a call that sends its write has seen the row unspent, and no other call writes
  have hsent : presents t.call = some tokenId → (∃ planId w, e = .write planId w) →
      (seen tokenId t).validated = true ∧ ∀ j u, ¬ Writing presents tokenId c j u := by
    rintro hp ⟨planId, w, rfl⟩
    have hbusy : ¬ t.rest.Returned := by
      rw [hrest]
      exact id
    obtain ⟨hexcused, hnone⟩ := hord.write hrun hl ⟨hi, ht, hp⟩ hbusy
    rcases (hok hp).2 with hvalidated | hexcused'
    · exact ⟨hvalidated, hnone⟩
    · exact absurd hexcused' hexcused
  refine ⟨h.once, fun j j' u u' hu hu' => ?_, fun j u hu => ?_, ?_, fun hwrote => ?_⟩
  · rcases hwriting j u hu with hu | ⟨rfl, rfl, hp, he⟩
    · rcases hwriting j' u' hu' with hu' | ⟨_, _, hp', he'⟩
      · exact h.alone j j' u u' hu hu'
      · exact absurd hu ((hsent hp' he').2 j u)
    · rcases hwriting j' u' hu' with hu' | ⟨rfl, _⟩
      · exact absurd hu' ((hsent hp he).2 j' u')
      · rfl
  · rcases hwriting j u hu with hu | ⟨_, rfl, hp, he⟩
    · exact h.ready j u hu
    · exact (hsent hp he).1
  · rintro j u (hu | ⟨hj, _⟩) hvalidated
    · rcases hwriting j u hu with hu | ⟨_, rfl, hp, _⟩
      · exact h.unused j u (.inl hu) hvalidated
      · exact h.unused i _ (.inr ⟨hi, ht, hp⟩) hvalidated
    · cases hj
  · rcases h.settled hwrote with hspent | ⟨j, u, ⟨hj, hu, hp⟩, howing⟩
    · exact .inl hspent
    · rw [hi] at hj
      cases hj
      rw [ht] at hu
      cases hu
      rw [Ticket.owing_of_yields (hok hp) hy] at howing
      cases howing

theorem receive (hidle : c.running = none)
    (ht : c.tasks[i]? = some t) (hrest : t.rest = .act e k) (hy : e.yields = true)
    (ha : c.world.Answers lib e r w) :
    SingleUse presents tokenId (c.afterAct i t e r k w) := by
  obtain rfl : w = c.world := by
    cases e with
    | read => exact ha
    | write => exact ha
    | _ => cases hy
  have hsum := total_afterAct (f := strikes presents tokenId) (e := e) (k := k) (r := r)
    (w := c.world) ht
  rw [strikes_act] at hsum
  have hwriting : ∀ j u, Writing presents tokenId (c.afterAct i t e r k c.world) j u →
      j ≠ i ∧ Writing presents tokenId c j u := by
    rintro j u ⟨hu, hp, hj, hrest⟩
    rcases afterAct_task hu with ⟨rfl, _⟩ | ⟨hne, hu⟩
    · exact absurd rfl hj
    · exact ⟨hne, hu, hp, by rw [hidle]; exact nofun, hrest⟩
  have hrested : (seen tokenId ⟨t.call, t.past ++ [⟨e, r⟩], k r⟩).validated = false := by
    rw [seen_act]
    cases e with
    | read => rfl
    | write => rfl
    | _ => cases hy
  by_cases hstrike : presents t.call = some tokenId ∧ wrote ⟨e, r⟩ = true
  · obtain ⟨hp, hwrote⟩ := hstrike
    have he : ∃ planId w, e = .write planId w := by
      cases e with
      | write planId w => exact ⟨planId, w, rfl⟩
      | _ => cases hwrote
    obtain ⟨planId, write, rfl⟩ := he
    have hwas : Writing presents tokenId c i t :=
      ⟨ht, hp, by rw [hidle]; exact nofun, planId, write, k, hrest⟩
    have hready := h.ready i t hwas
    have hunused := h.unused i t (.inl hwas) hready
    have hnone : ∀ j u, ¬ Writing presents tokenId
        (c.afterAct i t (.write planId write) r k c.world) j u := by
      intro j u hu
      obtain ⟨hne, hu⟩ := hwriting j u hu
      exact hne (h.alone j i u t hu hwas)
    refine ⟨?_, fun j _ u _ hu => absurd hu (hnone j u), fun j u hu => absurd hu (hnone j u),
      ?_, fun _ => .inr ⟨i, _, ⟨rfl, afterAct_self ht, hp⟩, ?_⟩⟩
    · rw [if_pos ⟨hp, hwrote⟩] at hsum
      omega
    · rintro j u (hu | ⟨hj, hu, _⟩) hvalidated
      · exact absurd hu (hnone j u)
      · rcases afterAct_task hu with ⟨rfl, rfl⟩ | ⟨hne, _⟩
        · rw [hrested] at hvalidated
          cases hvalidated
        · exact absurd (Option.some.inj hj).symm hne
    · rw [seen_act]
      have hsucceeded : write.succeeded r = true := hwrote
      simp [Ticket.next, hready, hsucceeded]
  · rw [if_neg hstrike] at hsum
    have htotal : total (strikes presents tokenId) (c.afterAct i t e r k c.world) =
        total (strikes presents tokenId) c := by omega
    refine ⟨by rw [htotal]; exact h.once, fun j j' u u' hu hu' => ?_, fun j u hu => ?_, ?_,
      fun hwrote => ?_⟩
    · exact h.alone j j' u u' (hwriting j u hu).2 (hwriting j' u' hu').2
    · exact h.ready j u (hwriting j u hu).2
    · rintro j u (hu | ⟨hj, hu, _⟩) hvalidated
      · rw [htotal]
        exact h.unused j u (.inl (hwriting j u hu).2) hvalidated
      · rcases afterAct_task hu with ⟨rfl, rfl⟩ | ⟨hne, _⟩
        · rw [hrested] at hvalidated
          cases hvalidated
        · exact absurd (Option.some.inj hj).symm hne
    · rw [htotal] at hwrote
      exact .inl (h.settled_idle hidle hwrote)

theorem finish {a : JsonRpcResponse} (hi : c.running = some i) (ht : c.tasks[i]? = some t) (hrest : t.rest = .pure a)
    (howing : presents t.call = some tokenId → (seen tokenId t).owing = false) :
    SingleUse presents tokenId c.parked := by
  have hwriting : ∀ j u, Writing presents tokenId c.parked j u →
      Writing presents tokenId c j u := by
    rintro j u ⟨hu, hp, _, planId, w, k, hk⟩
    change c.tasks[j]? = some u at hu
    refine ⟨hu, hp, ?_, planId, w, k, hk⟩
    rintro hj
    rw [hi] at hj
    cases hj
    rw [ht] at hu
    cases hu
    rw [hrest] at hk
    cases hk
  refine ⟨h.once, fun j j' u u' hu hu' => ?_, fun j u hu => ?_, ?_, fun hwrote => ?_⟩
  · exact h.alone j j' u u' (hwriting j u hu) (hwriting j' u' hu')
  · exact h.ready j u (hwriting j u hu)
  · rintro j u (hu | ⟨hj, _⟩) hvalidated
    · exact h.unused j u (.inl (hwriting j u hu)) hvalidated
    · cases hj
  · rcases h.settled hwrote with hspent | ⟨j, u, ⟨hj, hu, hp⟩, howing'⟩
    · exact .inl hspent
    · rw [hi] at hj
      cases hj
      rw [ht] at hu
      cases hu
      rw [howing hp] at howing'
      cases howing'

theorem environment (hcreates : c.world.Creates w) :
    SingleUse presents tokenId { c with world := w } := by
  obtain ⟨_, _, _, rfl⟩ := hcreates
  exact ⟨h.once, h.alone, h.ready, h.unused, h.settled⟩

end

end SingleUse

/-- **A token is good for one successful write.**  In every run that is orderly for a token
and whose calls with that token keep the discipline, the calls that present it succeed with
at most one write between them. -/
theorem single_use (hord : Orderly lib handle presents tokenId excused allowed world)
    (hsafe : ∀ call, presents call = some tokenId →
      Disciplined tokenId excused (handle call) Ticket.blank)
    (hrun : Run (daemon lib handle) allowed world c) :
    SingleUse presents tokenId c := by
  have htask : ∀ {c : Config DaemonIO World Call JsonRpcResponse} {i : Nat} {t},
      Run (daemon lib handle) allowed world c → c.tasks[i]? = some t →
      presents t.call = some tokenId → Disciplined tokenId excused t.rest (seen tokenId t) := by
    intro c i t hrun ht hp
    let promise : Call → Ticket → JsonRpcResponse → Prop := fun _ s _ => s.owing = false
    have hkept : Keeps tokenId excused t.rest (seen tokenId t) (promise t.call) :=
      hrun.safe ht (hsafe t.call hp)
    exact hkept
  induction hrun with
  | start => exact SingleUse.start world
  | next hrun hl hs ih =>
    cases hs with
    | spawn hidle => exact ih.spawn hidle _
    | act hi ht hrest hy ha =>
      refine ih.act hord hl ha hi ht hy (seen_bound hrun ht) (seen_fresh hrun hi ht) ?_
      intro hp
      have hsafe' := htask hrun ht hp
      rw [hrest] at hsafe'
      exact hsafe'.1
    | send hi ht hrest hy =>
      refine ih.send hord hrun hl hi ht hrest hy fun hp => ?_
      have hsafe' := htask hrun ht hp
      rw [hrest] at hsafe'
      exact hsafe'.1
    | receive hidle ht hrest hy ha => exact ih.receive hidle ht hrest hy ha
    | finish hi ht hrest =>
      refine ih.finish hi ht hrest fun hp => ?_
      have hsafe' := htask hrun ht hp
      rw [hrest] at hsafe'
      exact hsafe'
    | environment hcreates => exact ih.environment hcreates

end Token

end SnowAgent
