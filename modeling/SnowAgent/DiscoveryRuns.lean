import SnowAgent.RecordDiscovery
import Mathlib.Algebra.Order.BigOperators.Group.List

/-! # Discovery over many calls

A chain of calls starts with an identifier alone and goes on with the cursor it is
given.  Between its calls there may be any others, and a call of the chain may fail and
be made again: what a search has come to is kept under its cursor, and only a call that
succeeds moves it on.
-/
namespace SnowAgent.Resolve

open Core Json Text Program

/-! ## Calls that do not search -/

/-- An action that neither probes a table nor writes the sessions of the searches. -/
def aside : ResolveAct → Prop
  | .writeSessions _ | .probe _ _ => False
  | _ => True

/-- An answer that is not that of a search without its record. -/
def plain : Except RecordResolveError RecordResolution → Prop
  | .ok (.searching _ _ _ _) | .ok (.notFoundOrInaccessible _ _ _) => False
  | _ => True

/-- A part of a call that does not search. -/
abbrev Aside {A : Type} (x : ResolveM A) : Prop := Uses (S := ResolveIO) aside (fun _ => True) x.run

/-- A part of a call that does not search, and gives its answer. -/
abbrev Answers {A : Type} (R : Except RecordResolveError A → Prop) (x : ResolveM A) : Prop :=
  Uses (S := ResolveIO) aside R x.run

/-- What follows a part that does not search. -/
theorem Aside.answers {A B : Type} {x : ResolveM A} {f : A → ResolveM B}
    {R : Except RecordResolveError B → Prop} (hx : Aside x) (hf : ∀ a, Answers R (f a))
    (hfail : ∀ err, R (.error err)) : Answers R (x >>= f) :=
  uses_run_bind_ends hx (fun a _ => hf a) fun err _ => hfail err

section Parts

variable (lib : ResolverLib) (state : DocumentState)

theorem cursorFor_aside (offset : Nat) : Aside (cursorFor state offset) := by
  unfold cursorFor
  split
  · trivial
  · exact uses_run_bind ⟨trivial, fun _ => trivial⟩ fun _ => trivial

theorem documentChunk_aside (start : Nat) : Aside (documentChunk state start) := by
  unfold documentChunk
  refine uses_run_bind ⟨trivial, fun _ => trivial⟩ fun now => ?_
  show Aside (ite _ _ _)
  split
  · exact uses_run_bind (cursorFor_aside _ _) fun _ => trivial
  · trivial

theorem boundedRecord_answers (record : ResolvedRecord) (cursor : Option String) :
    Answers plain (boundedRecord lib record cursor) := by
  unfold boundedRecord
  show Answers plain (ite _ _ _)
  split
  · trivial
  · split
    · trivial
    · refine Aside.answers ⟨trivial, fun _ => trivial⟩ (fun now => ?_) fun _ => trivial
      refine Aside.answers ⟨trivial, fun _ => trivial⟩ (fun documents => ?_) fun _ => trivial
      refine Aside.answers ⟨trivial, fun _ => trivial⟩ (fun _ => ?_) fun _ => trivial
      show Answers plain (ite _ _ _)
      split
      · trivial
      · refine Aside.answers ⟨trivial, fun _ => trivial⟩ (fun key => ?_) fun _ => trivial
        refine Aside.answers ⟨trivial, fun _ => trivial⟩ (fun opened => ?_) fun _ => trivial
        refine Aside.answers (documentChunk_aside _ _) (fun made => ?_) fun _ => trivial
        exact Aside.answers ⟨trivial, fun _ => trivial⟩ (fun _ => trivial) fun _ => trivial

theorem finishRecord_answers (record : Record) (cursor : Option String) :
    Answers plain (finishRecord lib record cursor) := by
  unfold finishRecord
  refine Aside.answers trivial (fun _ => ?_) fun _ => trivial
  refine Aside.answers trivial (fun table => ?_) fun _ => trivial
  refine Aside.answers ⟨trivial, fun _ => trivial⟩ (fun model => ?_) fun _ => trivial
  refine Aside.answers ⟨trivial, fun _ => trivial⟩ (fun type => ?_) fun _ => trivial
  exact boundedRecord_answers lib _ cursor

theorem readScoped_answers (table sysId : String) (cursor : Option String) :
    Answers plain (readScoped lib table sysId cursor) := by
  unfold readScoped
  split
  · trivial
  · refine Aside.answers ⟨trivial, fun _ => trivial⟩ (fun answer => ?_) fun _ => trivial
    cases answer with
    | error _ => trivial
    | ok record =>
      refine Aside.answers trivial (fun _ => ?_) fun _ => trivial
      refine Aside.answers trivial (fun found => ?_) fun _ => trivial
      show Answers plain (ite _ _ _)
      split
      · trivial
      · exact finishRecord_answers lib record cursor

theorem resolveNumber_answers (number : String) (scope cursor : Option String) :
    Answers plain (resolveNumber lib number scope cursor) := by
  unfold resolveNumber
  split
  · trivial
  · refine Aside.answers ⟨trivial, fun _ => trivial⟩ (fun answer => ?_) fun _ => trivial
    rcases answer with err | record | record
    · trivial
    · trivial
    · show Answers plain (ite _ _ _)
      split
      · trivial
      · exact finishRecord_answers lib record none

theorem resolveNamed_answers (name : String) (scope cursor : Option String) :
    Answers plain (resolveNamed name scope cursor) := by
  refine Aside.answers ⟨trivial, fun _ => trivial⟩ (fun answer => ?_) fun _ => trivial
  cases answer with
  | error err => trivial
  | ok found => trivial

variable (input : RecordResolveInput)

theorem resolveSelector_answers : Answers plain (resolveSelector input) := by
  unfold resolveSelector
  split
  · trivial
  · split
    · trivial
    · refine Aside.answers ⟨trivial, fun _ => trivial⟩ (fun types => ?_) fun _ => trivial
      cases types with
      | error err => trivial
      | ok types => trivial

/-- A call without a scope names neither a table nor a type. -/
theorem resolveScope_answers :
    Answers (fun out => out = .ok none →
        input.table = none ∧ input.resourceType.filter (· ≠ "record") = none)
      (resolveScope input) := by
  unfold resolveScope
  split
  · rename_i hhint
    intro h
    injection h with htable
    exact ⟨htable, hhint⟩
  · refine Aside.answers ⟨trivial, fun _ => trivial⟩ (fun resolved => ?_) fun _ h => by cases h
    cases resolved with
    | error err => exact fun h => by cases h
    | ok table =>
      show Answers _ (ite _ _ _)
      split
      · exact fun h => by cases h
      · exact fun h => by cases h

/-- What a document that has the cursor is answered with is a chunk of it. -/
theorem continueDocument_answers (sysId : String) (cursor : Option String) :
    Answers (fun out => ∀ answer, out = .ok (some answer) → plain (.ok answer))
      (continueDocument sysId cursor) := by
  unfold continueDocument
  refine Aside.answers ⟨trivial, fun _ => trivial⟩ (fun now => ?_) fun _ _ h => by cases h
  refine Aside.answers ⟨trivial, fun _ => trivial⟩ (fun documents => ?_) fun _ _ h => by cases h
  refine Aside.answers ⟨trivial, fun _ => trivial⟩ (fun _ => ?_) fun _ _ h => by cases h
  obtain ⟨found, hfound⟩ : ∃ found, cursor.bind (findDocument
      (documents.filter fun entry => live now entry.2.touched)) = found := ⟨_, rfl⟩
  rw [hfound]
  rcases found with _ | ⟨key, state, offset⟩
  · exact fun _ h => by cases h
  · show Answers _ (ite _ _ _)
    split
    · exact fun _ h => by cases h
    · refine Aside.answers (documentChunk_aside _ _) (fun made => ?_) fun _ _ h => by cases h
      refine Aside.answers ⟨trivial, fun _ => trivial⟩ (fun _ => ?_) fun _ _ h => by cases h
      intro answer h
      cases h
      trivial

end Parts

/-! ## Calls that search -/

variable {out : Except RecordResolveError RecordResolution}

section Searches

variable {lib : ResolverLib} {catalog : List String} {w w' : ResolverWorld} {past : Trace ResolveIO}

/-- What a part of a call leaves alone that does not search. -/
structure LeftAlone (w : ResolverWorld) (past : Trace ResolveIO) (w' : ResolverWorld) : Prop where
  sessions : w'.sessions = w.sessions
  probed : probed past = []
  probes : probes past = 0
  seen : w.seen ⊆ w'.seen

theorem LeftAlone.refl (w : ResolverWorld) : LeftAlone w [] w := ⟨rfl, rfl, rfl, List.Subset.refl _⟩

variable {w₁ : ResolverWorld}

theorem LeftAlone.trans {past₁ : Trace ResolveIO} (h : LeftAlone w past w₁)
    (h' : LeftAlone w₁ past₁ w') : LeftAlone w (past ++ past₁) w' := by
  refine ⟨h'.sessions.trans h.sessions, ?_, ?_, List.Subset.trans h.seen h'.seen⟩
  · rw [probed_append, h.probed, h'.probed]
    rfl
  · rw [probes_append, h.probes, h'.probes]

/-- One action that does not search. -/
theorem leftAlone_act {e : ResolveAct} {r : ResolveAct.Ans e} (he : aside e)
    (ha : resolveAnswers catalog w e r w') : LeftAlone w [⟨e, r⟩] w' := by
  cases e with
  | writeSessions | probe => exact he.elim
  | newUuid =>
    obtain ⟨-, rfl⟩ := ha
    exact ⟨rfl, rfl, rfl, List.subset_cons_self _ _⟩
  | readDocuments | readSessions =>
    obtain ⟨-, rfl⟩ := ha
    exact ⟨rfl, rfl, rfl, List.Subset.refl _⟩
  | catalogPage after =>
    rcases r with _ | _ | ⟨names, _ | _⟩
    · obtain rfl : w' = w := ha
      exact ⟨rfl, rfl, rfl, List.Subset.refl _⟩
    · obtain rfl : w' = w := ha
      exact ⟨rfl, rfl, rfl, List.Subset.refl _⟩
    · obtain ⟨-, rfl⟩ := ha
      exact ⟨rfl, rfl, rfl, List.Subset.refl _⟩
    · obtain rfl : w' = w := ha
      exact ⟨rfl, rfl, rfl, List.Subset.refl _⟩
  | writeDocuments documents =>
    obtain rfl : w' = { w with documents := documents } := ha
    exact ⟨rfl, rfl, rfl, List.Subset.refl _⟩
  | _ =>
    obtain rfl : w' = w := ha
    exact ⟨rfl, rfl, rfl, List.Subset.refl _⟩

/-- A part of a call that does not search leaves the searches alone. -/
theorem Answers.executes {A : Type} {R : Except RecordResolveError A → Prop} {x : ResolveM A}
    {out : Except RecordResolveError A} (hx : Answers R x)
    (hexec : Executes (resolveAnswers catalog) x.run w past out w') :
    LeftAlone w past w' ∧ R out := by
  obtain ⟨p, hp⟩ : ∃ p, x.run = p := ⟨_, rfl⟩
  have hp' : Uses (S := ResolveIO) aside R p := hp ▸ hx
  rw [hp] at hexec
  clear hp hx
  induction hexec with
  | pure a w => exact ⟨.refl w, hp'⟩
  | act ha hk ih =>
    obtain ⟨hrest, hend⟩ := ih (hp'.2 _)
    exact ⟨(leftAlone_act hp'.1 ha).trans hrest, hend⟩

/-- A call that is left to the search: one with an identifier, and no table or type. -/
def unscoped (input : RecordResolveInput) : Bool :=
  input.sysId.isSome && input.table.isNone && (input.resourceType.filter (· ≠ "record")).isNone

/-- A call does not search, or it is left to the search in the end. -/
theorem resolve_executes {input : RecordResolveInput}
    (hexec : Executes (resolveAnswers catalog) (resolve lib input).run w past out w') :
    LeftAlone w past w' ∧ plain out ∨
      ∃ sysId w₁ past₁ past₂, unscoped input = true ∧ past = past₁ ++ past₂ ∧
        LeftAlone w past₁ w₁ ∧
        Executes (resolveAnswers catalog) (discover lib sysId input.cursor).run w₁ past₂ out w' := by
  unfold resolve at hexec
  by_cases hmany : (input.sysId.toList ++ input.name.toList ++ input.number.toList).length > 1
  · rw [if_pos hmany] at hexec
    obtain ⟨rfl, rfl, rfl⟩ := executes_refuse hexec
    exact .inl ⟨.refl w', trivial⟩
  rw [if_neg hmany] at hexec
  by_cases hnone : (input.sysId.toList ++ input.name.toList ++ input.number.toList).length = 0
  · rw [if_pos hnone] at hexec
    exact .inl ((resolveSelector_answers input).executes hexec)
  rw [if_neg hnone] at hexec
  rcases executes_run_bind.mp hexec with
    ⟨err, rfl, hscope⟩ | ⟨scope, w₁, past₁, past₂, rfl, hscope, hrest⟩
  · exact .inl ⟨((resolveScope_answers input).executes hscope).1, trivial⟩
  obtain ⟨hleft, hunscoped⟩ := (resolveScope_answers input).executes hscope
  -- What is left does not search, unless there is an identifier and no scope.
  have haside : ∀ {x : ResolveM RecordResolution}, Answers plain x →
      Executes (resolveAnswers catalog) x.run w₁ past₂ out w' →
      LeftAlone w (past₁ ++ past₂) w' ∧ plain out := by
    intro x hx hexec
    obtain ⟨hmore, hplain⟩ := hx.executes hexec
    exact ⟨hleft.trans hmore, hplain⟩
  cases hname : input.name with
  | some name =>
    rw [hname] at hrest
    exact .inl (haside (resolveNamed_answers name scope input.cursor) hrest)
  | none =>
    rw [hname] at hrest
    cases hnumber : input.number with
    | some number =>
      rw [hnumber] at hrest
      exact .inl (haside (resolveNumber_answers lib number scope input.cursor) hrest)
    | none =>
      rw [hnumber] at hrest
      cases hid : input.sysId with
      | none =>
        rw [hid] at hrest
        exact .inl (haside (x := refuse _) trivial hrest)
      | some sysId =>
        rw [hid] at hrest
        rcases executes_run_bind.mp hrest with
          ⟨err, rfl, hbad⟩ | ⟨sysId', w₂, past₃, past₄, rfl, hnormal, hcontinue⟩
        · obtain ⟨rfl, -, rfl⟩ := executes_given hbad
          rw [List.append_nil]
          exact .inl ⟨hleft, trivial⟩
        obtain ⟨rfl, -, rfl⟩ := executes_given hnormal
        rcases executes_run_bind.mp hcontinue with
          ⟨err, rfl, hbad⟩ | ⟨continued, w₃, past₅, past₆, rfl, hfound, hgoOn⟩
        · exact .inl ⟨hleft.trans ((continueDocument_answers _ _).executes hbad).1, trivial⟩
        obtain ⟨hmore, hplain⟩ := (continueDocument_answers _ _).executes hfound
        have hleft' := hleft.trans hmore
        rw [List.nil_append, ← List.append_assoc]
        cases continued with
        | some answer =>
          obtain ⟨rfl, rfl, rfl⟩ := executes_run_pure.mp hgoOn
          rw [List.append_nil]
          exact .inl ⟨hleft', hplain answer rfl⟩
        | none =>
          cases scope with
          | some table =>
            obtain ⟨hlast, hend⟩ := (readScoped_answers lib table sysId'
              input.cursor).executes hgoOn
            exact .inl ⟨hleft'.trans hlast, hend⟩
          | none =>
            obtain ⟨htable, htype⟩ := hunscoped rfl
            refine .inr ⟨sysId', w₃, _, past₆, ?_, rfl, hleft', hgoOn⟩
            rw [unscoped, hid, htable, htype]
            rfl

/-- The search that a call may go on with. -/
def Opened (w : ResolverWorld) (cursor : Option String) (search : SearchState) : Prop :=
  match cursor with
  | some cursor => (cursor, search) ∈ w.sessions
  | none => ∃ sysId now, search = .start sysId now

theorem mem_of_lookup {A : Type} {key : String} {a : A} {map : List (String × A)}
    (h : map.lookup key = some a) : (key, a) ∈ map := by
  obtain ⟨before, after, rfl, -⟩ := List.lookup_eq_some_iff.mp h
  simp

variable {cursor : Option String} {sysId : String}

theorem openSearch_executes {out : Except RecordResolveError SearchState}
    (hexec : Executes (resolveAnswers catalog) (openSearch sysId cursor).run w past out w') :
    probed past = [] ∧ probes past = 0 ∧ w'.seen = w.seen ∧ w'.sessions ⊆ w.sessions ∧
      ∀ search, out = .ok search → Opened w cursor search := by
  unfold openSearch at hexec
  obtain ⟨now, w₁, past₁, rfl, rfl, hnow⟩ := executes_ask hexec
  obtain ⟨sessions, w₂, past₂, ⟨rfl, rfl⟩, rfl, hread⟩ := executes_ask hnow
  obtain ⟨-, w₃, past₃, rfl, rfl, hwritten⟩ := executes_ask hread
  have halive : w₂.sessions.filter (fun entry => live now entry.2.touched) ⊆ w₂.sessions :=
    List.filter_subset_self _
  cases cursor with
  | none =>
    dsimp only at hwritten
    split at hwritten
    · obtain ⟨rfl, rfl, rfl⟩ := executes_refuse hwritten
      exact ⟨rfl, rfl, rfl, halive, fun search hout => by cases hout⟩
    · obtain ⟨started, w₄, past₄, rfl, rfl, hstarted⟩ := executes_ask hwritten
      obtain ⟨rfl, rfl, rfl⟩ := executes_run_pure.mp hstarted
      refine ⟨rfl, rfl, rfl, halive, fun search hout => ?_⟩
      cases hout
      exact ⟨sysId, started, rfl⟩
  | some cursor =>
    dsimp only at hwritten
    split at hwritten
    · rename_i search hsearch
      obtain ⟨rfl, rfl, rfl⟩ := executes_run_pure.mp hwritten
      refine ⟨rfl, rfl, rfl, halive, fun search' hout => ?_⟩
      cases hout
      exact halive (mem_of_lookup (Option.filter_eq_some_iff.mp hsearch).1)
    · obtain ⟨rfl, rfl, rfl⟩ := executes_refuse hwritten
      exact ⟨rfl, rfl, rfl, halive, fun search hout => by cases hout⟩

/-- The search of a cursor is forgotten. -/
def Forgotten (w : ResolverWorld) (cursor : Option String) (w' : ResolverWorld) : Prop :=
  w'.sessions ⊆ w.sessions ∧ ∀ key ∈ cursor, ∀ entry ∈ w'.sessions, entry.1 ≠ key

theorem forgetSearch_executes {out : Except RecordResolveError Unit}
    (hexec : Executes (resolveAnswers catalog) (forgetSearch cursor).run w past out w') :
    out = .ok () ∧ probed past = [] ∧ probes past = 0 ∧ w'.seen = w.seen ∧
      Forgotten w cursor w' := by
  cases cursor with
  | none =>
    obtain ⟨rfl, rfl, rfl⟩ := executes_run_pure.mp hexec
    exact ⟨rfl, rfl, rfl, rfl, List.Subset.refl _, fun key hkey => by cases hkey⟩
  | some cursor =>
    obtain ⟨sessions, w₁, past₁, ⟨rfl, rfl⟩, rfl, hread⟩ := executes_ask hexec
    obtain ⟨-, w₂, past₂, rfl, rfl, hwritten⟩ := executes_ask (f := fun _ => Pure.pure ()) hread
    obtain ⟨rfl, rfl, rfl⟩ := executes_run_pure.mp hwritten
    refine ⟨rfl, rfl, rfl, rfl, List.filter_subset_self _, fun key hkey entry hentry => ?_⟩
    cases hkey
    simpa using (List.mem_filter.mp hentry).2

theorem readClass_aside (sysId table : String) (record : Record) :
    Aside (readClass sysId table record) := by
  unfold readClass
  split
  · trivial
  · refine uses_run_bind ⟨trivial, fun _ => trivial⟩ fun answer => ?_
    cases answer with
    | error failure => cases failure <;> trivial
    | ok record =>
      refine uses_run_bind trivial fun _ => uses_run_bind trivial fun found => ?_
      show Aside (ite _ _ _)
      split <;> trivial

/-- A search that has found its record is forgotten, if the call succeeds. -/
theorem finishSearch_executes {record : Record} {records : List Record}
    (hexec : Executes (resolveAnswers catalog)
      (finishSearch lib sysId cursor record records).run w past out w') :
    probed past = [] ∧ probes past = 0 ∧ w.seen ⊆ w'.seen ∧ w'.sessions ⊆ w.sessions ∧ plain out ∧
      ∀ answer, out = .ok answer → Forgotten w cursor w' := by
  -- Up to where the search is forgotten, a failure leaves it alone.
  have hfailed : ∀ {past w' err}, LeftAlone w past w' →
      out = .error err → probed past = [] ∧ probes past = 0 ∧ w.seen ⊆ w'.seen ∧
        w'.sessions ⊆ w.sessions ∧ plain out ∧
        ∀ answer, out = .ok answer → Forgotten w cursor w' := by
    rintro past w' err hleft rfl
    exact ⟨hleft.probed, hleft.probes, hleft.seen, fun _ h => hleft.sessions ▸ h, trivial,
      fun answer h => by cases h⟩
  unfold finishSearch at hexec
  rcases executes_given_bind hexec with ⟨err, -, hout, rfl, rfl⟩ | ⟨found, -, hclasses⟩
  · exact hfailed (.refl _) hout
  split at hclasses
  · obtain ⟨rfl, hout, rfl⟩ := executes_refuse hclasses
    exact hfailed (.refl _) hout
  rcases executes_given_bind hclasses with ⟨err, -, hout, rfl, rfl⟩ | ⟨table, -, htable⟩
  · exact hfailed (.refl _) hout
  rcases executes_run_bind.mp htable with
    ⟨err, hout, hread⟩ | ⟨read, w₁, past₁, past₂, rfl, hread, hrest⟩
  · exact hfailed (Answers.executes (readClass_aside _ _ _) hread).1 hout
  obtain ⟨model, w₂, past₃, ha, rfl, hmodel⟩ := executes_ask hrest
  have hleft := (Answers.executes (readClass_aside _ _ _) hread).1.trans
    (leftAlone_act (e := .dataModel table) trivial ha)
  rcases executes_run_bind.mp hmodel with
    ⟨err, hout, hforget⟩ | ⟨gone, w₃, past₄, past₅, rfl, hforget, hlast⟩
  · cases (forgetSearch_executes hforget).1
  obtain ⟨-, hprobed, hprobes, hseen, hsubset, hgone⟩ := forgetSearch_executes hforget
  have hlast' : Answers plain (ask (.describeTable read.table) >>= fun dataType =>
      boundedRecord lib
        { sysId := sysId
          table := table
          resourceType := lib.resourceType table
          fields := lib.fieldsJson read
          dataModel := model
          dataType := dataType } cursor) :=
    Aside.answers ⟨trivial, fun _ => trivial⟩ (fun type => boundedRecord_answers lib _ cursor)
      fun _ => trivial
  obtain ⟨hlater, hplain⟩ := hlast'.executes hlast
  have hsplit : past₁ ++ ⟨.dataModel table, model⟩ :: (past₄ ++ past₅) =
      (past₁ ++ [⟨.dataModel table, model⟩]) ++ (past₄ ++ past₅) := List.append_cons _ _ _
  rw [hsplit, probed_append, probes_append, probed_append past₄, probes_append past₄, hleft.probed,
    hleft.probes, hprobed, hprobes, hlater.probed, hlater.probes]
  have hsessions : w'.sessions = w₃.sessions := hlater.sessions
  refine ⟨rfl, rfl, ?_, ?_, hplain, fun answer _ => ⟨?_, ?_⟩⟩
  · exact List.Subset.trans hleft.seen (hseen ▸ hlater.seen)
  · rw [hsessions, ← hleft.sessions]
    exact hsubset
  · rw [hsessions, ← hleft.sessions]
    exact hsubset
  · rw [hsessions]
    exact hgone

/-- What a call that searches answers, where `w` is the world the search starts in, and what has
become of the searches.  `answered` is what the tables of the search have said before. -/
def SearchOutcome (catalog : List String) (bound : Nat) (answered : List (String × ProbeAnswer))
    (cursor : Option String) (w : ResolverWorld) (past : Trace ResolveIO) (w' : ResolverWorld) :
    Except RecordResolveError RecordResolution → Prop
  | .ok (.searching _ key scanned unreadable) =>
    ∃ n search, Progress catalog n search (answered ++ probed past) ∧
      workLeft catalog n search + 1 ≤ bound ∧ scanned = search.scanned ∧
      unreadable = search.unreadable ∧ (cursor = some key ∨ cursor = none ∧ key ∉ w.seen) ∧
      key ∈ w'.seen ++ cursor.toList ∧
      ∀ entry ∈ w'.sessions, entry ∈ w.sessions ∧ entry.1 ≠ key ∨ entry = (key, search)
  | .ok (.notFoundOrInaccessible _ scanned unreadable) =>
    ∃ n search, Progress catalog n search (answered ++ probed past) ∧
      workLeft catalog n search ≤ bound ∧ scanned = search.scanned ∧
      unreadable = search.unreadable ∧ search.pending = [] ∧ search.catalogComplete = true ∧
      Forgotten w cursor w'
  | .ok _ =>
    foundRecords answered = [] ∧
      (∃ n search, Covers catalog n search ((answered ++ probed past).map Prod.fst)) ∧
      Forgotten w cursor w'
  | .error _ => w'.sessions ⊆ w.sessions

variable {search : SearchState}

theorem keepSearch_executes
    (hexec : Executes (resolveAnswers catalog) (keepSearch cursor search).run w past out w') :
    probed past = [] ∧ probes past = 0 ∧ w.seen ⊆ w'.seen ∧
      ((∃ err, out = .error err) ∧ w'.sessions = w.sessions ∨
        ∃ key now, out = .ok (.searching search.sysId key search.scanned search.unreadable) ∧
          (cursor = some key ∨ cursor = none ∧ key ∉ w.seen ∧ key ∈ w'.seen) ∧
          w'.sessions = insertSession key { search with touched := now } w.sessions) := by
  unfold keepSearch at hexec
  have hcursor : ∀ {past out w'}, Executes (resolveAnswers catalog) (cursorOrNew cursor).run w past
      out w' → LeftAlone w past w' ∧ ∃ key, out = .ok key ∧
        (cursor = some key ∨ cursor = none ∧ key ∉ w.seen ∧ key ∈ w'.seen) := by
    intro past out w' h
    cases cursor with
    | some key =>
      obtain ⟨rfl, rfl, rfl⟩ := executes_run_pure.mp h
      exact ⟨.refl _, key, rfl, .inl rfl⟩
    | none =>
      obtain ⟨key, w₁, past₁, ha, rfl, hend⟩ := executes_ask (f := Pure.pure) h
      obtain ⟨rfl, rfl, rfl⟩ := executes_run_pure.mp hend
      have hleft := leftAlone_act (e := .newUuid) trivial ha
      obtain ⟨hfresh, rfl⟩ := ha
      exact ⟨hleft, key, rfl, .inr ⟨rfl, hfresh, List.mem_cons_self⟩⟩
  rcases executes_run_bind.mp hexec with
    ⟨err, rfl, hfail⟩ | ⟨key, w₁, past₁, past₂, rfl, hkey, hrest⟩
  · obtain ⟨-, key, hout, -⟩ := hcursor hfail
    cases hout
  obtain ⟨hleft, key', hout, hwhich⟩ := hcursor hkey
  cases hout
  obtain ⟨now, w₂, past₃, rfl, rfl, hnow⟩ := executes_ask hrest
  obtain ⟨sessions, w₃, past₄, ⟨rfl, rfl⟩, rfl, hread⟩ := executes_ask hnow
  rw [probed_append, probes_append, hleft.probed, hleft.probes]
  split at hread
  · obtain ⟨rfl, rfl, rfl⟩ := executes_refuse hread
    exact ⟨rfl, rfl, hleft.seen, .inl ⟨⟨_, rfl⟩, hleft.sessions⟩⟩
  · obtain ⟨-, w₄, past₅, rfl, rfl, hwritten⟩ := executes_ask hread
    obtain ⟨rfl, rfl, rfl⟩ := executes_run_pure.mp hwritten
    refine ⟨rfl, rfl, hleft.seen, .inr ⟨key, now, rfl, hwhich, ?_⟩⟩
    rw [← hleft.sessions]

variable {answered : List (String × ProbeAnswer)} {n : Nat}

/-- When a search was touched does not matter to its account. -/
theorem Progress.touch (h : Progress catalog n search answered) (now : Instant) :
    Progress catalog n { search with touched := now } answered :=
  ⟨⟨h.covers.perm, h.covers.after, h.covers.within, h.covers.named, h.covers.complete⟩,
    h.scanned, h.unreadable, h.missed⟩

/-- A search without work left is at its end. -/
theorem ended_of_workLeft (h : workLeft catalog n search = 0) :
    search.pending = [] ∧ search.catalogComplete = true := by
  unfold workLeft at h
  constructor
  · exact List.length_eq_zero_iff.mp (by omega)
  · by_contra hincomplete
    rw [if_neg hincomplete] at h
    omega

theorem Covers.workLeft_ended {tables : List String} (h : Covers catalog n search tables)
    (hpending : search.pending = [])
    (hcomplete : search.catalogComplete = true) : workLeft catalog n search = 0 := by
  rw [workLeft, hpending, hcomplete, h.complete hcomplete]
  simp

theorem discover_executes (hsorted : catalog.Pairwise (· < ·)) {bound : Nat}
    (hopen : ∀ search, Opened w cursor search →
      ∃ n, Progress catalog n search answered ∧ workLeft catalog n search ≤ bound)
    (hexec : Executes (resolveAnswers catalog) (discover lib sysId cursor).run w past out w') :
    probes past ≤ probeBudget ∧ w.seen ⊆ w'.seen ∧
      SearchOutcome catalog bound answered cursor w past w' out := by
  unfold discover at hexec
  rcases executes_run_bind.mp hexec with
    ⟨err, rfl, hstart⟩ | ⟨search, w₁, past₁, past₂, rfl, hstart, hrest⟩
  · obtain ⟨-, hprobes, hseen, hsubset, -⟩ := openSearch_executes hstart
    exact ⟨by omega, fun _ h => hseen ▸ h, hsubset⟩
  obtain ⟨hprobed₁, hprobes₁, hseen₁, hsubset₁, hopened⟩ := openSearch_executes hstart
  obtain ⟨n, hprogress, hbound⟩ := hopen search (hopened search rfl)
  rcases executes_run_bind.mp hrest with
    ⟨err, rfl, hloop⟩ | ⟨outcome, w₂, past₃, past₄, rfl, hloop, hend⟩
  · obtain ⟨rfl, hprobes, -⟩ := searchLoop_executes hsorted hprogress hloop
    rw [probes_append, hprobes₁]
    exact ⟨by omega, fun _ h => hseen₁ ▸ h, hsubset₁⟩
  obtain ⟨rfl, hprobes₂, hfound, hpaused⟩ := searchLoop_executes hsorted hprogress hloop
  rw [probes_append, probes_append, hprobes₁]
  have hsame : probed (past₁ ++ (past₃ ++ past₄)) = probed past₃ ++ probed past₄ := by
    rw [probed_append, probed_append, hprobed₁]
    rfl
  cases outcome with
  | found record records =>
    obtain ⟨hprobed₄, hprobes₄, hseen₄, hsubset₄, hplain, hgone⟩ := finishSearch_executes hend
    refine ⟨by omega, fun _ h => hseen₄ (hseen₁ ▸ h), ?_⟩
    obtain ⟨n', search', hcovers⟩ := hfound record records rfl
    have hanswered : ∀ answer, out = .ok answer → foundRecords answered = [] ∧
        (∃ n search, Covers catalog n search ((answered ++ probed (past₁ ++ (past₃ ++
          past₄))).map Prod.fst)) ∧ Forgotten w cursor w' := by
      intro answer hanswer
      rw [hsame, hprobed₄, List.append_nil]
      obtain ⟨hsubset, hnone⟩ := hgone answer hanswer
      exact ⟨hprogress.missed, ⟨n', search', hcovers⟩, List.Subset.trans hsubset hsubset₁, hnone⟩
    cases out with
    | error err => exact List.Subset.trans hsubset₄ hsubset₁
    | ok answer =>
      cases answer with
      | searching => exact hplain.elim
      | notFoundOrInaccessible => exact hplain.elim
      | _ => exact hanswered _ rfl
  | paused search' =>
    obtain ⟨n', hprogress', -, hle, hlt⟩ := hpaused search' rfl
    dsimp only at hend
    split at hend
    · rename_i hended
      rcases executes_run_bind.mp hend with
        ⟨err, rfl, hforget⟩ | ⟨gone, w₃, past₅, past₆, rfl, hforget, hlast⟩
      · cases (forgetSearch_executes hforget).1
      obtain ⟨-, hprobed₅, hprobes₅, hseen₅, hsubset₅, hgone⟩ := forgetSearch_executes hforget
      obtain ⟨rfl, rfl, rfl⟩ := executes_run_pure.mp hlast
      rw [List.append_nil] at hsame
      rw [List.append_nil, hprobes₅]
      refine ⟨by omega, fun _ h => ?_, n', search', ?_, by omega, rfl, rfl, hended.1, hended.2,
        List.Subset.trans hsubset₅ hsubset₁, hgone⟩
      · rw [hseen₅, hseen₁]
        exact h
      · rw [hsame, hprobed₅, List.append_nil]
        exact hprogress'
    · rename_i hgo
      obtain ⟨hprobed₄, hprobes₄, hseen₄, hkept⟩ := keepSearch_executes hend
      refine ⟨by omega, fun _ h => hseen₄ (hseen₁ ▸ h), ?_⟩
      rcases hkept with ⟨⟨err, rfl⟩, hsessions⟩ | ⟨key, now, rfl, hwhich, hsessions⟩
      · show w'.sessions ⊆ w.sessions
        rw [hsessions]
        exact hsubset₁
      -- The search was not at its end when the call began, so the call got on with it.
      have hbegan : ¬ (search.pending = [] ∧ search.catalogComplete = true) := by
        rintro ⟨hpending, hcomplete⟩
        have hzero := hprogress.covers.workLeft_ended hpending hcomplete
        have hzero' : workLeft catalog n' search' = 0 := by omega
        exact hgo (ended_of_workLeft hzero')
      have hstep := hlt (by decide) (by decide) hbegan
      refine ⟨n', { search' with touched := now }, ?_, ?_, rfl, rfl, ?_, ?_, ?_⟩
      · rw [hsame, hprobed₄, List.append_nil]
        exact hprogress'.touch now
      · show workLeft catalog n' search' + 1 ≤ bound
        omega
      · rcases hwhich with hold | ⟨hnone, hfresh, -⟩
        · exact .inl hold
        · exact .inr ⟨hnone, hseen₁ ▸ hfresh⟩
      · rcases hwhich with rfl | ⟨-, -, hnew⟩
        · simp
        · exact List.mem_append_left _ hnew
      · intro entry hentry
        rw [hsessions] at hentry
        rcases List.mem_append.mp hentry with hentry | hentry
        · obtain ⟨hmem, hne⟩ := List.mem_filter.mp hentry
          exact .inl ⟨hsubset₁ hmem, by simpa using hne⟩
        · exact .inr (List.mem_singleton.mp hentry)

/-! ## Sequences of calls -/

/-- The cursor that a call gives out for its search. -/
def issued : Except RecordResolveError RecordResolution → Option String
  | .ok (.searching _ key _ _) => some key
  | _ => none

/-- A call succeeds that goes on with the search of a key, or begins it. -/
def inSearch (key : String) (c : ResolveCall) : Bool :=
  unscoped c.call && c.out.isOk && (c.call.cursor <|> issued c.out) == some key

/-- What the tables have said in the search of a key. -/
def said (key : String) (calls : List ResolveCall) : List (String × ProbeAnswer) :=
  (calls.filter (inSearch key)).flatMap fun c => probed c.past

/-- How often the search of a key has been left unfinished. -/
def pauses (key : String) (calls : List ResolveCall) : Nat :=
  (calls.filter (inSearch key)).countP fun c => (issued c.out).isSome

/-- What the tables have said before a call in its search. -/
def saidBefore (calls : List ResolveCall) : Option String → List (String × ProbeAnswer)
  | none => []
  | some key => said key calls

/-- How often the search of a call has been left unfinished before. -/
def pausesBefore (calls : List ResolveCall) : Option String → Nat
  | none => 0
  | some key => pauses key calls

/-- The account of all searches. -/
structure Account (catalog : List String) (calls : List ResolveCall) (w : ResolverWorld) :
    Prop where
  seen : ∀ key, key ∉ w.seen → calls.filter (inSearch key) = []
  known : ∀ entry ∈ w.sessions, entry.1 ∈ w.seen
  covers : ∀ key, ∃ n search, Covers catalog n search ((said key calls).map Prod.fst)
  bounded : ∀ key, pauses key calls ≤ catalog.length + 9
  kept : ∀ entry ∈ w.sessions, ∃ n, Progress catalog n entry.2 (said entry.1 calls) ∧
    workLeft catalog n entry.2 + pauses entry.1 calls ≤ catalog.length + 9

section Next

variable {calls : List ResolveCall} {c : ResolveCall} {key : String}

theorem said_next (h : inSearch key c = true) :
    said key (calls ++ [c]) = said key calls ++ probed c.past := by
  simp [said, List.filter_append, h]

theorem pauses_next (h : inSearch key c = true) :
    pauses key (calls ++ [c]) = pauses key calls + (if (issued c.out).isSome then 1 else 0) := by
  simp [pauses, List.filter_append, List.countP_append, List.countP_singleton, h]

theorem filter_aside (h : inSearch key c = false) :
    (calls ++ [c]).filter (inSearch key) = calls.filter (inSearch key) := by
  simp [List.filter_append, h]

/-- A call in the search of a key names the key, or it is given it. -/
theorem inSearch_iff : inSearch key c = true ↔ unscoped c.call = true ∧ c.out.isOk = true ∧
      (c.call.cursor = some key ∨ c.call.cursor = none ∧ issued c.out = some key) := by
  unfold inSearch
  cases c.call.cursor with
  | none => simp [and_assoc]
  | some cursor => simp [and_assoc]

/-- A call that begins a search is the first of it. -/
theorem Account.before (h : Account catalog calls w) (hkey : inSearch key c = true)
    (hfresh : c.call.cursor = none → key ∉ w.seen) :
    saidBefore calls c.call.cursor = said key calls ∧
      pausesBefore calls c.call.cursor = pauses key calls := by
  obtain ⟨-, -, hcursor | ⟨hcursor, -⟩⟩ := inSearch_iff.mp hkey
  · rw [hcursor]
    exact ⟨rfl, rfl⟩
  · rw [hcursor, said, pauses, h.seen key (hfresh hcursor)]
    exact ⟨rfl, rfl⟩

/-- What has gone on before a search starts does not matter to its outcome. -/
theorem SearchOutcome.after {bound : Nat} {past₁ past₂ : Trace ResolveIO}
    (hleft : LeftAlone w past₁ w₁)
    (h : SearchOutcome catalog bound answered cursor w₁ past₂ w' out) :
    SearchOutcome catalog bound answered cursor w (past₁ ++ past₂) w' out := by
  have hprobed : probed (past₁ ++ past₂) = probed past₂ := by
    rw [probed_append, hleft.probed]
    rfl
  have hgone : Forgotten w₁ cursor w' → Forgotten w cursor w' := by
    rintro ⟨hsubset, hnone⟩
    exact ⟨hleft.sessions ▸ hsubset, hnone⟩
  cases out with
  | error err =>
    show w'.sessions ⊆ w.sessions
    rw [← hleft.sessions]
    exact h
  | ok answer =>
    cases answer with
    | searching sysId key scanned unreadable =>
      obtain ⟨n, search, hprogress, hwork, hscanned, hunreadable, hwhich, hkey, hsessions⟩ := h
      refine ⟨n, search, hprobed ▸ hprogress, hwork, hscanned, hunreadable, ?_, hkey, ?_⟩
      · exact hwhich.imp id fun hnew => ⟨hnew.1, fun hold => hnew.2 (hleft.seen hold)⟩
      · rw [← hleft.sessions]
        exact hsessions
    | notFoundOrInaccessible sysId scanned unreadable =>
      obtain ⟨n, search, hprogress, hwork, hscanned, hunreadable, hend, hall, hforgot⟩ := h
      exact ⟨n, search, hprobed ▸ hprogress, hwork, hscanned, hunreadable, hend, hall,
        hgone hforgot⟩
    | _ =>
      obtain ⟨hmissed, ⟨n, search, hcovers⟩, hforgot⟩ := h
      exact ⟨hmissed, ⟨n, search, hprobed ▸ hcovers⟩, hgone hforgot⟩

/-- **What a call does for its search.** -/
theorem call_executes (hsorted : catalog.Pairwise (· < ·)) (h : Account catalog calls w)
    (hexec : Executes (resolveAnswers catalog) (resolve lib c.call).run (w.enter c.call) c.past
      c.out w') :
    probes c.past ≤ probeBudget ∧ (w.enter c.call).seen ⊆ w'.seen ∧
      (w'.sessions = w.sessions ∧ probed c.past = [] ∧ plain c.out ∨ unscoped c.call = true ∧
          SearchOutcome catalog (catalog.length + 9 - pausesBefore calls c.call.cursor)
            (saidBefore calls c.call.cursor) c.call.cursor (w.enter c.call) c.past w' c.out) := by
  rcases resolve_executes hexec with
    ⟨hleft, hplain⟩ | ⟨sysId, w₁, past₁, past₂, hunscoped, hpast, hleft, hdiscover⟩
  · have hnone := hleft.probes
    exact ⟨by omega, hleft.seen, .inl ⟨hleft.sessions, hleft.probed, hplain⟩⟩
  have hopen : ∀ search, Opened w₁ c.call.cursor search →
      ∃ n, Progress catalog n search (saidBefore calls c.call.cursor) ∧
        workLeft catalog n search ≤ catalog.length + 9 - pausesBefore calls c.call.cursor := by
    intro search hsearch
    cases hcursor : c.call.cursor with
    | none =>
      rw [hcursor] at hsearch
      obtain ⟨sysId, now, rfl⟩ := hsearch
      exact ⟨0, progress_start sysId now, le_of_eq (workLeft_start sysId now)⟩
    | some key =>
      rw [hcursor] at hsearch
      have hmem : (key, search) ∈ w.sessions := by
        have hsame : w₁.sessions = w.sessions := hleft.sessions
        rw [← hsame]
        exact hsearch
      obtain ⟨n, hprogress, hwork⟩ := h.kept _ hmem
      exact ⟨n, hprogress, Nat.le_sub_of_add_le hwork⟩
  obtain ⟨hprobes, hseen, houtcome⟩ := discover_executes hsorted hopen hdiscover
  rw [hpast]
  refine ⟨?_, List.Subset.trans hleft.seen hseen, .inr ⟨hunscoped, houtcome.after hleft⟩⟩
  rw [probes_append, hleft.probes]
  omega

/-- A call that is not in a search, or says nothing of it, leaves its account as it is. -/
theorem said_quiet (hquiet : probed c.past = []) : said key (calls ++ [c]) = said key calls := by
  by_cases hkey : inSearch key c = true
  · rw [said_next hkey, hquiet, List.append_nil]
  · rw [said, filter_aside (by simpa using hkey)]
    rfl

theorem pauses_quiet (hquiet : issued c.out = none) :
    pauses key (calls ++ [c]) = pauses key calls := by
  by_cases hkey : inSearch key c = true
  · rw [pauses_next hkey, hquiet]
    rfl
  · rw [pauses, filter_aside (by simpa using hkey)]
    rfl

theorem plain.issued (h : plain out) : issued out = none := by
  rcases out with err | answer
  · rfl
  · cases answer with
    | searching => exact h.elim
    | _ => rfl

/-- The account of a search that the call is not in. -/
theorem Account.elsewhere (h : Account catalog calls w) (hkept : (key, search) ∈ w.sessions)
    (hkey : inSearch key c = false) :
    ∃ n, Progress catalog n search (said key (calls ++ [c])) ∧
      workLeft catalog n search + pauses key (calls ++ [c]) ≤ catalog.length + 9 := by
  obtain ⟨n, hprogress, hwork⟩ := h.kept _ hkept
  refine ⟨n, ?_, ?_⟩
  · rw [said, filter_aside hkey]
    exact hprogress
  · rw [pauses, filter_aside hkey]
    exact hwork

/-- A call that is over with its search, or fails, keeps the account. -/
theorem Account.settled (h : Account catalog calls w) (hseen : w.seen ⊆ w'.seen)
    (hnamed : ∀ key, c.call.cursor = some key → key ∈ w'.seen) (hissued : issued c.out = none)
    (hcovers : ∀ key, c.call.cursor = some key → c.out.isOk = true →
      ∃ n search, Covers catalog n search ((said key calls ++ probed c.past).map Prod.fst))
    (hsubset : w'.sessions ⊆ w.sessions)
    (hgone : c.out.isOk = true → Forgotten w c.call.cursor w' ∨ probed c.past = []) :
    Account catalog (calls ++ [c]) w' := by
  have hown : ∀ {key}, inSearch key c = true → c.call.cursor = some key ∧ c.out.isOk = true := by
    intro key hkey
    obtain ⟨-, hok, hcursor | ⟨-, hnew⟩⟩ := inSearch_iff.mp hkey
    · exact ⟨hcursor, hok⟩
    · rw [hissued] at hnew
      cases hnew
  refine ⟨fun key hkey => ?_, fun entry hentry => hseen (h.known entry (hsubset hentry)),
    fun key => ?_, fun key => ?_, fun entry hentry => ?_⟩
  · have hout : inSearch key c = false := by
      by_contra hin
      exact hkey (hnamed key (hown (by simpa using hin)).1)
    rw [filter_aside hout]
    exact h.seen key fun hold => hkey (hseen hold)
  · by_cases hin : inSearch key c = true
    · obtain ⟨hcursor, hok⟩ := hown hin
      rw [said_next hin]
      exact hcovers key hcursor hok
    · rw [said, filter_aside (by simpa using hin)]
      exact h.covers key
  · rw [pauses_quiet hissued]
    exact h.bounded key
  · by_cases hin : inSearch entry.1 c = true
    · obtain ⟨hcursor, hok⟩ := hown hin
      rcases hgone hok with hforgot | hquiet
      · exact absurd rfl (hforgot.2 entry.1 hcursor entry hentry)
      · rw [said_quiet hquiet, pauses_quiet hissued]
        exact h.kept entry (hsubset hentry)
    · exact h.elsewhere (hsubset hentry) (by simpa using hin)

/-- A call that leaves its search unfinished keeps the account. -/
theorem Account.paused (h : Account catalog calls w) (hseen : w.seen ⊆ w'.seen) {own : String}
    (hown : issued c.out = some own)
    (hprogress : Progress catalog n search (saidBefore calls c.call.cursor ++ probed c.past))
    (hwork : workLeft catalog n search + 1 ≤ catalog.length + 9 - pausesBefore calls c.call.cursor)
    (hwhich : c.call.cursor = some own ∨ c.call.cursor = none ∧ own ∉ w.seen)
    (hknown : own ∈ w'.seen) (hunscoped : unscoped c.call = true) (hok : c.out.isOk = true)
    (hsessions : ∀ entry ∈ w'.sessions,
      entry ∈ w.sessions ∧ entry.1 ≠ own ∨ entry = (own, search)) :
    Account catalog (calls ++ [c]) w' := by
  have hin : inSearch own c = true :=
    inSearch_iff.mpr ⟨hunscoped, hok, hwhich.imp id fun hnew => ⟨hnew.1, hown⟩⟩
  have hother : ∀ {key}, key ≠ own → inSearch key c = false := by
    intro key hne
    by_contra hkey
    obtain ⟨-, -, hcursor | ⟨hcursor, hnew⟩⟩ := inSearch_iff.mp (by simpa using hkey)
    · rcases hwhich with hwhich | ⟨hwhich, -⟩
      · exact hne (Option.some.inj (hcursor.symm.trans hwhich))
      · rw [hwhich] at hcursor
        cases hcursor
    · exact hne (Option.some.inj (hnew.symm.trans hown))
  obtain ⟨hsaid, hpauses⟩ := h.before hin fun hcursor => by
    rcases hwhich with hwhich | ⟨-, hfresh⟩
    · rw [hwhich] at hcursor
      cases hcursor
    · exact hfresh
  rw [hsaid] at hprogress
  rw [hpauses] at hwork
  have hmore : pauses own (calls ++ [c]) = pauses own calls + 1 := by
    rw [pauses_next hin, hown]
    rfl
  refine ⟨fun key hkey => ?_, fun entry hentry => ?_, fun key => ?_, fun key => ?_,
    fun entry hentry => ?_⟩
  · have hne : key ≠ own := by
      rintro rfl
      exact hkey hknown
    rw [filter_aside (hother hne)]
    exact h.seen key fun hold => hkey (hseen hold)
  · rcases hsessions entry hentry with ⟨hold, -⟩ | rfl
    · exact hseen (h.known entry hold)
    · exact hknown
  · by_cases hne : key = own
    · subst hne
      rw [said_next hin]
      exact ⟨n, search, hprogress.covers⟩
    · rw [said, filter_aside (hother hne)]
      exact h.covers key
  · by_cases hne : key = own
    · subst hne
      omega
    · rw [pauses, filter_aside (hother hne)]
      exact h.bounded key
  · rcases hsessions entry hentry with ⟨hold, hne⟩ | rfl
    · exact h.elsewhere hold (hother hne)
    · refine ⟨n, ?_, ?_⟩
      · rw [said_next hin]
        exact hprogress
      · show workLeft catalog n search + pauses own (calls ++ [c]) ≤ _
        omega

/-- **A call keeps the account of all searches.** -/
theorem Account.next (hsorted : catalog.Pairwise (· < ·)) (h : Account catalog calls w)
    (hexec : Executes (resolveAnswers catalog) (resolve lib c.call).run (w.enter c.call) c.past
      c.out w') : Account catalog (calls ++ [c]) w' := by
  obtain ⟨-, hseen, hcall⟩ := call_executes hsorted h hexec
  have hold : w.seen ⊆ w'.seen := fun key hkey => hseen (List.mem_append_right _ hkey)
  have hnamed : ∀ key, c.call.cursor = some key → key ∈ w'.seen := by
    intro key hkey
    exact hseen (List.mem_append_left _ (by simp [hkey]))
  rcases hcall with ⟨hsame, hquiet, hplain⟩ | ⟨hunscoped, houtcome⟩
  · refine h.settled hold hnamed hplain.issued (fun key _ _ => ?_) (hsame ▸ List.Subset.refl _)
      fun _ => .inr hquiet
    rw [hquiet, List.append_nil]
    exact h.covers key
  obtain ⟨out, hout⟩ : ∃ out, c.out = out := ⟨_, rfl⟩
  rw [hout] at houtcome
  cases out with
  | error err =>
    refine h.settled hold hnamed (by rw [hout]; rfl) (fun key _ hok => ?_) houtcome fun hok => ?_
    · rw [hout] at hok
      cases hok
    · rw [hout] at hok
      cases hok
  | ok answer =>
    have hok : c.out.isOk = true := by rw [hout]; rfl
    -- An answer that ends the search.
    have hends : issued c.out = none → (∃ n search, Covers catalog n search
        ((saidBefore calls c.call.cursor ++ probed c.past).map Prod.fst)) →
        Forgotten (w.enter c.call) c.call.cursor w' → Account catalog (calls ++ [c]) w' := by
      intro hissued hcovers hforgot
      refine h.settled hold hnamed hissued (fun key hkey _ => ?_) hforgot.1 fun _ => .inl hforgot
      rw [hkey] at hcovers
      exact hcovers
    cases answer with
    | searching sysId key scanned unreadable =>
      obtain ⟨n, search, hprogress, hwork, -, -, hwhich, hkey, hsessions⟩ := houtcome
      have hown : issued c.out = some key := by rw [hout]; rfl
      refine h.paused hold hown hprogress hwork ?_ ?_ hunscoped hok hsessions
      · refine hwhich.imp id fun hnew => ⟨hnew.1, fun hmem => hnew.2 ?_⟩
        exact List.mem_append_right _ hmem
      · rcases List.mem_append.mp hkey with hkey | hkey
        · exact hkey
        · exact hnamed key (by simpa using hkey)
    | notFoundOrInaccessible sysId scanned unreadable =>
      obtain ⟨n, search, hprogress, -, -, -, -, -, hforgot⟩ := houtcome
      exact hends (by rw [hout]; rfl) ⟨n, search, hprogress.covers⟩ hforgot
    | _ =>
      obtain ⟨-, hcovers, hforgot⟩ := houtcome
      exact hends (by rw [hout]; rfl) hcovers hforgot

/-- The account before the first call. -/
theorem account_start : Account catalog [] .empty := by
  refine ⟨fun _ _ => rfl, fun entry hentry => ?_, fun key => ?_, fun key => Nat.zero_le _,
    fun entry hentry => ?_⟩
  · cases hentry
  · exact ⟨0, .start "" 0, (progress_start "" 0).covers⟩
  · cases hentry

/-- **The account of all searches is kept** by every sequence of calls. -/
theorem account_calls (hsorted : catalog.Pairwise (· < ·)) {w : ResolverWorld}
    (h : ResolveCalls lib catalog calls w) : Account catalog calls w := by
  refine h.invariant account_start fun calls w c w' _ hbefore _ hexec => ?_
  exact hbefore.next hsorted hexec

/-- The search that a call is in, up to this call: the calls before that succeeded with its cursor,
and the call. -/
def searchUpTo (calls : List ResolveCall) (c : ResolveCall) : List ResolveCall :=
  (match c.call.cursor with
    | none => []
    | some key => calls.filter (inSearch key)) ++ [c]

theorem searchUpTo_said : (searchUpTo calls c).flatMap (fun c => probed c.past) =
    saidBefore calls c.call.cursor ++ probed c.past := by
  rw [searchUpTo, List.flatMap_append, List.flatMap_singleton]
  cases c.call.cursor <;> rfl

theorem searchUpTo_pauses : (searchUpTo calls c).countP (fun c => (issued c.out).isSome) =
    pausesBefore calls c.call.cursor + if (issued c.out).isSome then 1 else 0 := by
  rw [searchUpTo, List.countP_append, List.countP_singleton]
  cases c.call.cursor <;> rfl

end Next

end Searches

/-! ### A search that finds nothing -/

/-- An identifier that there has not been. -/
def freshToken (w : ResolverWorld) : String :=
  String.ofList (List.replicate ((w.seen.map String.length).sum + 1) 'c')

theorem freshToken_fresh (w : ResolverWorld) : freshToken w ∉ w.seen := by
  intro h
  have hle : (freshToken w).length ≤ (w.seen.map String.length).sum :=
    List.le_sum_of_mem (List.mem_map_of_mem h)
  have hlength : (freshToken w).length = (w.seen.map String.length).sum + 1 := by
    simp [freshToken]
  omega

/-- A world without the record that is looked for. -/
def withoutRecord (catalog : List String) (w : ResolverWorld) :
    (e : ResolveAct) → ResolveAct.Ans e × ResolverWorld
  | .now => ((0 : Nat), w)
  | .newUuid => (freshToken w, { w with seen := freshToken w :: w.seen })
  | .readDocuments => (w.documents, w)
  | .writeDocuments documents => ((), { w with documents := documents })
  | .readSessions => (w.sessions, w)
  | .writeSessions sessions => ((), { w with sessions := sessions })
  | .resolveType _ => (.ok .null, w)
  | .uniqueType _ => (.error (.unavailable ""), w)
  | .resolveName _ _ _ => (.ok .null, w)
  | .lookupNumberScoped _ _ => (.ok none, w)
  | .getRecord _ _ => (.error .failed, w)
  | .catalogPage after => (.page ((pageAfter catalog after).map some) false, w)
  | .probe tables _ => (some (tables.map fun table => (table, .notFound)), w)
  | .dataModel _ => (Value.null, w)
  | .describeTable _ => (none, w)

theorem withoutRecord_answers (catalog : List String) (w : ResolverWorld) (e : ResolveAct) :
    resolveAnswers catalog w e (withoutRecord catalog w e).1 (withoutRecord catalog w e).2 := by
  cases e with
  | newUuid => exact ⟨freshToken_fresh w, rfl⟩
  | readDocuments => exact ⟨List.Perm.refl _, rfl⟩
  | readSessions | catalogPage => exact ⟨rfl, rfl⟩
  | probe tables sysId =>
    refine ⟨?_, rfl⟩
    rw [List.map_map]
    exact List.Perm.of_eq (List.map_id tables)
  | _ => rfl


/-- No shapes and no hash. -/
def plainLib : ResolverLib := ⟨fun _ => .null, fun _ => "", id, fun _ => []⟩

/-- Twenty-six tables. -/
def someTables : List String := (List.range 26).map fun n => String.ofList ['a', Char.ofNat (97 + n)]

/-- Two calls with an identifier that no table has a record for. -/
def twoCalls : List ResolveCall × ResolverWorld :=
  let first : RecordResolveInput :=
    ⟨some "0123456789abcdef0123456789abcdef", none, none, none, none, none⟩
  callAll (fun input => (resolve plainLib input).run) ResolverWorld.enter
    (withoutRecord someTables) [first, { first with cursor := some "c" }] .empty

/-- What a call answers that has not found its record. -/
def counts : Except RecordResolveError RecordResolution → Option (Nat × Nat)
  | .ok (.notFoundOrInaccessible _ scanned unreadable) => some (scanned, unreadable)
  | _ => none

theorem counts_eq_some {scanned unreadable : Nat} (h : counts out = some (scanned, unreadable)) :
    ∃ sysId, out = .ok (.notFoundOrInaccessible sysId scanned unreadable) := by
  rcases out with err | answer
  · cases h
  · cases answer with
    | notFoundOrInaccessible sysId scanned' unreadable' =>
      cases h
      exact ⟨sysId, rfl⟩
    | _ => cases h

/-! ## Every table, once -/

/-- **Discovery is exhaustive.**  In every sequence of calls, a call probes at most 32 tables; and
along the successful calls of a search, each table is probed at most once and only until a record
is found, the counts are those of the tables that were probed, and no record is reported only when
every table was. -/
theorem discovery_exhaustive {lib : ResolverLib} {catalog : List String}
    {calls : List ResolveCall} {c : ResolveCall} (hsorted : catalog.Pairwise (· < ·))
    {w : ResolverWorld}
    (h : ResolveCalls lib catalog (calls ++ [c]) w) :
    probes c.past ≤ 32 ∧ (unscoped c.call = true → c.out.isOk = true → ∀ answers,
        (searchUpTo calls c).flatMap (fun c => probed c.past) = answers →
        (answers.map Prod.fst).Nodup ∧ answers.map Prod.fst ⊆ allTables catalog ∧
        (probed c.past ≠ [] → foundRecords (saidBefore calls c.call.cursor) = []) ∧
        (searchUpTo calls c).countP (fun c => (issued c.out).isSome) ≤ catalog.length + 9 ∧
        (∀ sysId key scanned unreadable, c.out = .ok (.searching sysId key scanned unreadable) →
          foundRecords answers = [] ∧ scanned = answers.length ∧
            unreadable = unreadableCount answers) ∧
        ∀ sysId scanned unreadable,
          c.out = .ok (.notFoundOrInaccessible sysId scanned unreadable) →
          foundRecords answers = [] ∧ (answers.map Prod.fst).Perm (allTables catalog) ∧
            scanned = answers.length ∧ unreadable = unreadableCount answers) := by
  obtain ⟨w₀, hcalls, -, hexec⟩ := h.last
  have hbefore := account_calls hsorted hcalls
  obtain ⟨hprobes, -, hcall⟩ := call_executes hsorted hbefore hexec
  refine ⟨hprobes, fun hunscoped hok answers hanswers => ?_⟩
  rw [searchUpTo_said] at hanswers
  subst hanswers
  rw [searchUpTo_pauses]
  have hpaused : pausesBefore calls c.call.cursor ≤ catalog.length + 9 := by
    cases c.call.cursor with
    | none => exact Nat.zero_le _
    | some key => exact hbefore.bounded key
  have hcoversBefore : ∃ n search,
      Covers catalog n search ((saidBefore calls c.call.cursor).map Prod.fst) := by
    cases c.call.cursor with
    | none => exact ⟨0, .start "" 0, (progress_start "" 0).covers⟩
    | some key => exact hbefore.covers key
  rcases hcall with ⟨-, hquiet, hplain⟩ | ⟨-, houtcome⟩
  · obtain ⟨n, search, hcovers⟩ := hcoversBefore
    rw [hquiet, List.append_nil, hplain.issued]
    refine ⟨hcovers.nodup hsorted, hcovers.subset, fun h => absurd rfl h, hpaused,
      fun sysId key scanned unreadable hout => ?_, fun sysId scanned unreadable hout => ?_⟩
    · rw [hout] at hplain
      exact hplain.elim
    · rw [hout] at hplain
      exact hplain.elim
  obtain ⟨out, hout⟩ : ∃ out, c.out = out := ⟨_, rfl⟩
  rw [hout] at houtcome hok ⊢
  cases out with
  | error err => cases hok
  | ok answer =>
    cases answer with
    | searching sysId key scanned unreadable =>
      obtain ⟨n, search, hprogress, hwork, rfl, rfl, -⟩ := houtcome
      have hmissed := hprogress.missed
      rw [foundRecords_append, List.append_eq_nil_iff] at hmissed
      refine ⟨hprogress.covers.nodup hsorted, hprogress.covers.subset, fun _ => hmissed.1, ?_,
        fun sysId' key' scanned unreadable heq => ?_, fun _ _ _ heq => ?_⟩
      · show pausesBefore calls c.call.cursor + 1 ≤ catalog.length + 9
        omega
      · cases heq
        exact ⟨hprogress.missed, hprogress.scanned, hprogress.unreadable⟩
      · cases heq
    | notFoundOrInaccessible sysId scanned unreadable =>
      obtain ⟨n, search, hprogress, hwork, rfl, rfl, hpending, hcomplete, -⟩ := houtcome
      have hmissed := hprogress.missed
      rw [foundRecords_append, List.append_eq_nil_iff] at hmissed
      refine ⟨hprogress.covers.nodup hsorted, hprogress.covers.subset, fun _ => hmissed.1,
        hpaused, fun _ _ _ _ heq => ?_, fun sysId' scanned unreadable heq => ?_⟩
      · cases heq
      · cases heq
        exact ⟨hprogress.missed, hprogress.covers.exhausted hpending hcomplete,
          hprogress.scanned, hprogress.unreadable⟩
    | _ =>
      obtain ⟨hmissed, ⟨n, search, hcovers⟩, -⟩ := houtcome
      refine ⟨hcovers.nodup hsorted, hcovers.subset, fun _ => hmissed, hpaused,
        fun _ _ _ _ heq => ?_, fun _ _ _ heq => ?_⟩
      · cases heq
      · cases heq

theorem discovery_exhaustive_twoCalls : ∃ first second, twoCalls.1 = [first] ++ [second] ∧
    counts second.out = some (34, 0) ∧
    (((searchUpTo [first] second).flatMap fun c => probed c.past).map Prod.fst).Perm
      (allTables someTables) := by
  obtain ⟨first, hfirst⟩ : ∃ first, twoCalls.1[0]? = some first :=
    Option.isSome_iff_exists.mp (by decide +kernel)
  obtain ⟨second, hsecond⟩ : ∃ second, twoCalls.1[1]? = some second :=
    Option.isSome_iff_exists.mp (by decide +kernel)
  have hlength : twoCalls.1.length = 2 := by decide +kernel
  have hboth : twoCalls.1 = [first] ++ [second] := by
    refine List.ext_getElem? fun n => ?_
    rcases n with _ | _ | n
    · exact hfirst
    · exact hsecond
    · rw [List.getElem?_eq_none (by omega), List.getElem?_eq_none (by simp)]
  have hcalls : ResolveCalls plainLib someTables ([] ++ twoCalls.1) twoCalls.2 :=
    callAll_calls (withoutRecord_answers someTables) _ .start
  rw [List.nil_append] at hcalls
  rw [hboth] at hcalls
  have hcounts : (twoCalls.1[1]?).map (fun c => counts c.out) = some (some (34, 0)) := by
    decide +kernel
  have hcall : (twoCalls.1[1]?).map (fun c => (unscoped c.call, c.out.isOk)) =
      some (true, true) := by
    decide +kernel
  rw [hsecond] at hcounts hcall
  obtain ⟨hunscoped, hok⟩ := Prod.mk.inj (Option.some.inj hcall)
  have hcounts' : counts second.out = some (34, 0) := Option.some.inj hcounts
  obtain ⟨sysId, hout⟩ := counts_eq_some hcounts'
  have hsorted : someTables.Pairwise (· < ·) := by decide +kernel
  have hsearch := (discovery_exhaustive hsorted hcalls).2 hunscoped hok _ rfl
  obtain ⟨-, hall, -⟩ := hsearch.2.2.2.2.2 sysId 34 0 hout
  exact ⟨first, second, hboth, hcounts', hall⟩

end SnowAgent.Resolve
