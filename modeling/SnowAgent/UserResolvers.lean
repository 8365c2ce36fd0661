import SnowAgent.UserAnswers

/-! # The two user resolvers

A user is looked up by a text in one place and resolved from it in another.  Both try one field
after the other; the lookup asks for active users and refuses a field with several, the other takes
the first user of any kind and knows nothing of employee numbers.
-/
namespace SnowAgent.Core

open Json Text

/-- `UserRef`. -/
structure UserRef where
  sysId : String
  userName : Option String
  email : Option String
  display : String
deriving DecidableEq

section

variable (lib : CoreLib) (directory : UserDirectory)

/-- The candidates of `resolve_user_ref`. -/
def userRefCandidates (user : String) : List UserLookupCandidate :=
  if user.toList.contains '@' then [⟨"email", user⟩, ⟨"user_name", user⟩]
  else [⟨"user_name", user⟩, ⟨"email", user⟩]

/-- The user a candidate of `resolve_user_ref` finds: the first of them, active or not. -/
def resolveRow (candidate : UserLookupCandidate) : Option Record :=
  (directory.select [.equals candidate.field candidate.value] none 1).head?

/-- `resolve_user_ref`, from the candidate that makes the next request. -/
def resolveCandidates (fault : Nat → Option String) :
    List UserLookupCandidate → Nat → Except String (Option Record)
  | [], _ => .ok none
  | candidate :: candidates, i =>
    match fault i with
    | some err => .error err
    | none =>
      match resolveRow directory candidate with
      | none => resolveCandidates fault candidates (i + 1)
      | some record => .ok (some record)

/-- `resolve_user_ref`. -/
def resolveUserRef (fault : Nat → Option String) (user : String) : Except String UserRef :=
  match resolveCandidates directory fault (userRefCandidates (trim user)) 0 with
  | .error err => .error err
  | .ok none => .error ("user not found: " ++ trim user)
  | .ok (some record) => .ok {
      sysId := record.sysId
      userName := nonBlank (record.getStr lib "user_name")
      email := nonBlank (record.getStr lib "email")
      display := (firstNonEmptyStr [record.getStr lib "name", record.getStr lib "user_name",
        record.getStr lib "email"]).getD (trim user) }

/-! ## What the two have to agree on -/

/-- A lookup by a text, of active users. -/
def queryLookup (text : String) : UserLookup := ⟨some text, none, none, none, none, none⟩

/-- What a lookup by a text answers on an empty cache, with no request failing. -/
def lookupByText (ttl : Int) (ctx : CallContext) (text : String) :
    Except String (Option UserLookupResult) :=
  (lookupUser lib directory ttl { ctx with fault := fun _ => none } UserCache.empty
    (queryLookup text)).2

/-- What a text is resolved to with no request failing. -/
def resolveByText (text : String) : Except String UserRef :=
  resolveUserRef lib directory (fun _ => none) text

/-- The refusal of a candidate that several users match. -/
def severalMatched (candidate : UserLookupCandidate) : String :=
  "multiple sys_user records matched " ++ candidate.field ++ "=" ++ candidate.value

/-- **The resolvers agree on a text**: the user that is looked up is the one it is resolved to, and
a text that is refused because several users match is not resolved. -/
structure ResolversAgree (ttl : Int) (ctx : CallContext) (text : String) : Prop where
  found : ∀ result, lookupByText lib directory ttl ctx text = .ok (some result) →
    ∃ ref, resolveByText lib directory text = .ok ref ∧ ref.sysId = result.user.sysId
  refused : ∀ candidate, lookupByText lib directory ttl ctx text = .error (severalMatched candidate) →
    ∃ err, resolveByText lib directory text = .error err

/-! ## When they do -/

/-- The users that have a value in a field. -/
def usersWith (candidate : UserLookupCandidate) : List Record :=
  (directory.rows none).filter fun r =>
    directory.holds (.equals candidate.field candidate.value) r

/-- Those of them that are active. -/
def activeUsersWith (candidate : UserLookupCandidate) : List Record :=
  (usersWith directory candidate).filter fun r => directory.holds (.equals "active" "true") r

/-- The candidates for a text that is not shaped like a `sys_id`. -/
def textCandidates (text : String) : List UserLookupCandidate :=
  userRefCandidates text ++ if text.toList.contains '@' then [] else [⟨"employee_number", text⟩]

/-- A candidate decides a lookup: it is the first with an active user. -/
def Decides (candidates before : List UserLookupCandidate) (candidate : UserLookupCandidate) : Prop :=
  (∃ after, candidates = before ++ candidate :: after) ∧
    (∀ b ∈ before, activeUsersWith directory b = []) ∧ activeUsersWith directory candidate ≠ []

/-- **One user goes by a text**: no user at all has the text in a field before the one that decides,
and in that field one active user, who comes before all others; or it is the employee number, and
several active users have it. -/
def OneUserGoesBy (text : String) : Prop :=
  trim text ≠ "" → ∀ before candidate,
    Decides directory (textCandidates (trim text)) before candidate →
      (∀ b ∈ before, usersWith directory b = []) ∧
        if candidate.field = "employee_number" then
          2 ≤ (activeUsersWith directory candidate).length
        else ∃ u, activeUsersWith directory candidate = [u] ∧
          (usersWith directory candidate).head? = some u

end

/-! ## Rows -/

section

variable {directory : UserDirectory} {candidate : UserLookupCandidate} {u : Record}

theorem lookupRows_active :
    lookupRows directory true candidate = (activeUsersWith directory candidate).take 2 := by
  rw [lookupRows, UserDirectory.select, activeUsersWith, usersWith, List.filter_filter]
  congr 2
  funext r
  rw [List.all_cons, List.all_cons, List.all_nil, Bool.and_true, Bool.and_comm]
  rfl

theorem resolveRow_eq : resolveRow directory candidate = (usersWith directory candidate).head? := by
  have hfilter : ((directory.rows none).filter fun r =>
      [Atom.equals candidate.field candidate.value].all fun atom => directory.holds atom r) =
        usersWith directory candidate := by
    rw [usersWith]
    congr 1
    funext r
    rw [List.all_cons, List.all_nil, Bool.and_true]
  rw [resolveRow, UserDirectory.select, hfilter, List.head?_take, if_neg (by decide)]

theorem mem_usersWith (h : u ∈ usersWith directory candidate) : u ∈ directory.rows none :=
  (List.mem_filter.mp h).1

theorem active_subset (h : u ∈ activeUsersWith directory candidate) :
    u ∈ usersWith directory candidate :=
  (List.mem_filter.mp h).1

theorem holds_active (h : u ∈ activeUsersWith directory candidate) :
    directory.holds (.equals "active" "true") u = true :=
  (List.mem_filter.mp h).2

/-! ## The candidate that decides -/

variable {lib : CoreLib} {candidates before : List UserLookupCandidate} {d : UserLookupCandidate}

theorem not_decides_nil : ¬ Decides directory [] before candidate := by
  rintro ⟨⟨after, h⟩, -⟩
  exact absurd h (by simp)

theorem decides_cons_active (h : activeUsersWith directory d ≠ []) :
    Decides directory (d :: candidates) before candidate ↔ before = [] ∧ candidate = d := by
  constructor
  · rintro ⟨⟨after, heq⟩, hbefore, -⟩
    rcases before with _ | ⟨b, before⟩
    · exact ⟨rfl, (List.cons.inj heq).1.symm⟩
    · rw [List.cons_append] at heq
      obtain ⟨rfl, -⟩ := List.cons.inj heq
      exact absurd (hbefore d List.mem_cons_self) h
  · rintro ⟨rfl, rfl⟩
    exact ⟨⟨candidates, rfl⟩, fun _ hmem => (List.not_mem_nil hmem).elim, h⟩

theorem decides_cons_idle (h : activeUsersWith directory d = []) :
    Decides directory (d :: candidates) before candidate ↔
      ∃ rest, before = d :: rest ∧ Decides directory candidates rest candidate := by
  constructor
  · rintro ⟨⟨after, heq⟩, hbefore, hactive⟩
    rcases before with _ | ⟨b, before⟩
    · obtain ⟨rfl, -⟩ := List.cons.inj heq
      exact absurd h hactive
    · rw [List.cons_append] at heq
      obtain ⟨rfl, hrest⟩ := List.cons.inj heq
      exact ⟨before, rfl, ⟨after, hrest⟩,
        fun b hb => hbefore b (List.mem_cons_of_mem _ hb), hactive⟩
  · rintro ⟨rest, rfl, ⟨after, rfl⟩, hbefore, hactive⟩
    refine ⟨⟨after, rfl⟩, fun b hb => ?_, hactive⟩
    rcases List.mem_cons.mp hb with rfl | hb
    · exact h
    · exact hbefore b hb

theorem Decides.unique {before' : List UserLookupCandidate} {candidate' : UserLookupCandidate}
    (h : Decides directory candidates before candidate)
    (h' : Decides directory candidates before' candidate') :
    before' = before ∧ candidate' = candidate := by
  induction candidates generalizing before before' with
  | nil => exact absurd h not_decides_nil
  | cons d candidates ih =>
    by_cases hactive : activeUsersWith directory d = []
    · obtain ⟨rest, rfl, hrest⟩ := (decides_cons_idle hactive).mp h
      obtain ⟨rest', rfl, hrest'⟩ := (decides_cons_idle hactive).mp h'
      obtain ⟨rfl, hsame⟩ := ih hrest hrest'
      exact ⟨rfl, hsame⟩
    · obtain ⟨rfl, rfl⟩ := (decides_cons_active hactive).mp h
      exact (decides_cons_active hactive).mp h'

/-! ## What a lookup answers -/

theorem liveLookup_idle (h : activeUsersWith directory d = []) :
    liveLookup lib directory true (d :: candidates) = liveLookup lib directory true candidates := by
  rw [liveLookup, lookupRows_active, h, List.take_nil]

theorem liveLookup_one (h : activeUsersWith directory d = [u]) :
    liveLookup lib directory true (d :: candidates) =
      .ok (some ⟨d.field, userRecordFromRecord lib u⟩) := by
  rw [liveLookup, lookupRows_active, h]
  rfl

theorem liveLookup_several (h : 2 ≤ (activeUsersWith directory d).length) :
    liveLookup lib directory true (d :: candidates) = .error (severalMatched d) := by
  rw [liveLookup, lookupRows_active]
  rcases hrows : activeUsersWith directory d with _ | ⟨first, _ | ⟨second, rest⟩⟩
  · rw [hrows] at h
    exact absurd h (by decide)
  · rw [hrows] at h
    exact absurd h (by simp)
  · rfl

/-- Nobody is found if no candidate decides. -/
theorem liveLookup_none (h : ∀ before c, ¬ Decides directory candidates before c) :
    liveLookup lib directory true candidates = .ok none := by
  induction candidates with
  | nil => rfl
  | cons d candidates ih =>
    have hidle : activeUsersWith directory d = [] := by
      by_contra hactive
      exact h [] d ((decides_cons_active hactive).mpr ⟨rfl, rfl⟩)
    rw [liveLookup_idle hidle]
    exact ih fun before c hdecides =>
      h (d :: before) c ((decides_cons_idle hidle).mpr ⟨before, rfl, hdecides⟩)

variable (lib) in
/-- The candidate that decides is answered with, or refused. -/
theorem Decides.answer (h : Decides directory candidates before candidate) :
    (∃ u, activeUsersWith directory candidate = [u] ∧ liveLookup lib directory true candidates =
        .ok (some ⟨candidate.field, userRecordFromRecord lib u⟩)) ∨
      2 ≤ (activeUsersWith directory candidate).length ∧
        liveLookup lib directory true candidates = .error (severalMatched candidate) := by
  induction candidates generalizing before with
  | nil => exact absurd h not_decides_nil
  | cons d candidates ih =>
    by_cases hidle : activeUsersWith directory d = []
    · obtain ⟨rest, -, hrest⟩ := (decides_cons_idle hidle).mp h
      rw [liveLookup_idle hidle]
      exact ih hrest
    · obtain ⟨-, rfl⟩ := (decides_cons_active hidle).mp h
      rcases hrows : activeUsersWith directory candidate with _ | ⟨first, _ | ⟨second, rest⟩⟩
      · exact absurd hrows hidle
      · exact .inl ⟨first, rfl, liveLookup_one hrows⟩
      · refine .inr ⟨by simp, liveLookup_several ?_⟩
        rw [hrows]
        simp

/-! ## What a text is resolved to -/

theorem resolveCandidates_eq (i : Nat) :
    resolveCandidates directory (fun _ => none) candidates i =
      .ok (candidates.findSome? (resolveRow directory)) := by
  induction candidates generalizing i with
  | nil => rfl
  | cons d candidates ih =>
    rw [resolveCandidates, List.findSome?_cons]
    rcases hrow : resolveRow directory d with _ | record
    · exact ih (i + 1)
    · rfl

theorem findSome_none (h : ∀ b ∈ before, usersWith directory b = []) :
    before.findSome? (resolveRow directory) = none := by
  rw [List.findSome?_eq_none_iff]
  intro b hb
  rw [resolveRow_eq, h b hb]
  rfl

/-- Users before the candidate that decides are found first, and none of them is active. -/
theorem findSome_inactive (hidle : ∀ b ∈ before, activeUsersWith directory b = [])
    (h : ¬ ∀ b ∈ before, usersWith directory b = []) :
    ∃ r, before.findSome? (resolveRow directory) = some r ∧ r ∈ directory.rows none ∧
      directory.holds (.equals "active" "true") r = false := by
  rcases hfound : before.findSome? (resolveRow directory) with _ | r
  · refine absurd (fun b hb => ?_) h
    have hnone := List.findSome?_eq_none_iff.mp hfound b hb
    rwa [resolveRow_eq, List.head?_eq_none_iff] at hnone
  · obtain ⟨b, hb, hrow⟩ := List.exists_of_findSome?_eq_some hfound
    rw [resolveRow_eq] at hrow
    have hmem := List.mem_of_head? hrow
    refine ⟨r, rfl, mem_usersWith hmem, ?_⟩
    by_contra hactive
    have hin : r ∈ activeUsersWith directory b := List.mem_filter.mpr ⟨hmem, by simpa using hactive⟩
    rw [hidle b hb] at hin
    exact List.not_mem_nil hin

/-! ## Agreement -/

variable {ttl : Int} {ctx : CallContext} {text : String}

theorem resolveByText_eq : resolveByText lib directory text =
    match (userRefCandidates (trim text)).findSome? (resolveRow directory) with
    | none => .error ("user not found: " ++ trim text)
    | some record => .ok {
        sysId := record.sysId
        userName := nonBlank (record.getStr lib "user_name")
        email := nonBlank (record.getStr lib "email")
        display := (firstNonEmptyStr [record.getStr lib "name", record.getStr lib "user_name",
          record.getStr lib "email"]).getD (trim text) } := by
  rw [resolveByText, resolveUserRef, resolveCandidates_eq]
  rcases (userRefCandidates (trim text)).findSome? (resolveRow directory) with _ | record <;> rfl

theorem severalMatched_start :
    (severalMatched candidate).toList.take 2 = "multiple".toList.take 2 := by
  unfold severalMatched
  simp only [String.toList_append, List.append_assoc]
  rw [List.take_append_of_le_length (by decide)]
  decide

theorem queryLookup_blank (h : trim text = "") : ∃ err,
    (queryLookup text).validateSelector = .error err ∧
      err.toList.take 2 = "missing".toList.take 2 := by
  have hblank : nonBlank (some text) = none := by
    rw [nonBlank, Option.map_some, h]
    rfl
  have hcount : countNonBlank [some text, none, none, none, none] = 0 := by
    rw [countNonBlank, List.filter_cons, hblank]
    rfl
  refine ⟨"missing required user lookup: provide exactly one of query, user_name, " ++
      "email, employee_number, or sys_id", ?_, ?_⟩
  · simp only [UserLookup.validateSelector, queryLookup, hcount]
  · rw [String.toList_append, List.take_append_of_le_length (by decide)]
    decide

theorem lookupByText_blank (lib : CoreLib) (directory : UserDirectory) (ttl : Int)
    (ctx : CallContext) (h : trim text = "") : ∃ err,
      lookupByText lib directory ttl ctx text = .error err ∧ ∀ c, err ≠ severalMatched c := by
  obtain ⟨err, hvalid, hstart⟩ := queryLookup_blank h
  refine ⟨err, ?_, fun c heq => ?_⟩
  · simp only [lookupByText, lookupUser, hvalid]
  · rw [heq, severalMatched_start] at hstart
    exact absurd hstart (by decide)

theorem queryLookup_valid (h : trim text ≠ "") :
    (queryLookup text).validateSelector = .ok () := by
  have hquery : nonBlank (some text) = some (trim text) := by
    rw [nonBlank, Option.map_some, Option.filter_some, if_pos (by simpa using h)]
  have hcount : countNonBlank [some text, none, none, none, none] = 1 := by
    rw [countNonBlank, List.filter_cons, hquery]
    rfl
  simp only [UserLookup.validateSelector, queryLookup, hcount]

theorem queryLookup_candidates (h : trim text ≠ "")
    (hshape : ∀ id, normalizeRecordLookupSysId text ≠ .ok id) :
    userLookupCandidates (queryLookup text) = .ok (textCandidates (trim text)) := by
  have hquery : nonBlank (some text) = some (trim text) := by
    rw [nonBlank, Option.map_some, Option.filter_some, if_pos (by simpa using h)]
  have hnormal : normalizeRecordLookupSysId (trim text) = normalizeRecordLookupSysId text := by
    rw [normalizeRecordLookupSysId, trim_trim, normalizeRecordLookupSysId]
  have hnone : nonBlank none = none := rfl
  simp only [userLookupCandidates, queryLookup, hquery, hnone, textCandidates, userRefCandidates]
  by_cases hmail : (trim text).toList.contains '@' = true
  · simp only [if_pos hmail, List.append_nil]
  · rcases hid : normalizeRecordLookupSysId (trim text) with err | id
    · simp only [if_neg hmail]
      rfl
    · exact absurd (hnormal ▸ hid) (hshape id)

theorem lookupByText_eq (lib : CoreLib) (directory : UserDirectory) (ttl : Int)
    (ctx : CallContext) (h : trim text ≠ "")
    (hshape : ∀ id, normalizeRecordLookupSysId text ≠ .ok id) :
    lookupByText lib directory ttl ctx text =
      liveLookup lib directory true (textCandidates (trim text)) := by
  have hcandidates := queryLookup_candidates h hshape
  have hanswers : AnswersAs { ctx with fault := fun _ => none }
      (lookupCandidates lib directory ttl true { ctx with fault := fun _ => none }
        (textCandidates (trim text)) 0 UserCache.empty).2
      (liveLookup lib directory true (textCandidates (trim text))) :=
    (lookupCandidates_spec cacheTrue_empty (userLookupCandidates_fields hcandidates)).2
  have hlookup : lookupByText lib directory ttl ctx text =
      (lookupCandidates lib directory ttl true { ctx with fault := fun _ => none }
        (textCandidates (trim text)) 0 UserCache.empty).2 := by
    simp only [lookupByText, lookupUser, queryLookup_valid h, hcandidates]
    rfl
  rw [hlookup]
  rcases hanswers with hlive | ⟨_, _, hfault, _⟩
  · exact hlive
  · cases hfault

/-- The candidates that resolve are those of the lookup, less the employee number. -/
theorem textCandidates_split (h : Decides directory (textCandidates text) before candidate) :
    if candidate.field = "employee_number" then userRefCandidates text = before
    else ∃ after, userRefCandidates text = before ++ candidate :: after := by
  obtain ⟨⟨after, heq⟩, -, -⟩ := h
  have hfields : ∀ c ∈ userRefCandidates text, c.field ≠ "employee_number" := by
    intro c hc hfield
    have hplain : c.field = "email" ∨ c.field = "user_name" := by
      rw [userRefCandidates] at hc
      split_ifs at hc <;> simp only [List.mem_cons, List.not_mem_nil, or_false] at hc <;>
        rcases hc with rfl | rfl <;> simp
    rw [hfield] at hplain
    exact absurd hplain (by decide)
  rw [textCandidates, List.append_eq_append_iff] at heq
  rcases heq with ⟨middle, rfl, hmiddle⟩ | ⟨middle, hmiddle, hafter⟩
  · rcases middle with _ | ⟨m, middle⟩
    · rw [List.nil_append] at hmiddle
      split_ifs at hmiddle
      obtain ⟨rfl, -⟩ := List.cons.inj hmiddle
      rw [if_pos rfl, List.append_nil]
    · exfalso
      have hlength := congrArg List.length hmiddle
      split_ifs at hlength <;>
        simp only [List.length_append, List.length_cons, List.length_nil] at hlength <;> omega
  · rcases middle with _ | ⟨m, middle⟩
    · rw [List.nil_append] at hafter
      split_ifs at hafter
      obtain ⟨rfl, -⟩ := List.cons.inj hafter
      rw [if_pos rfl, hmiddle, List.append_nil]
    · obtain ⟨rfl, -⟩ := List.cons.inj hafter
      have hmem : candidate ∈ userRefCandidates text := by
        rw [hmiddle]
        simp
      rw [if_neg (hfields candidate hmem)]
      exact ⟨middle, hmiddle⟩

/-- What a text is resolved to, by the candidate that decides its lookup. -/
theorem Decides.resolve (h : Decides directory (textCandidates text) before candidate) :
    (userRefCandidates text).findSome? (resolveRow directory) =
      (before.findSome? (resolveRow directory)).or
        (if candidate.field = "employee_number" then none
        else (usersWith directory candidate).head?) := by
  have hsplit := textCandidates_split h
  by_cases hnumber : candidate.field = "employee_number"
  · rw [if_pos hnumber] at hsplit
    rw [if_pos hnumber, Option.or_none, hsplit]
  · rw [if_neg hnumber] at hsplit
    obtain ⟨after, hafter⟩ := hsplit
    obtain ⟨u, hu⟩ := List.exists_mem_of_ne_nil _ h.2.2
    obtain ⟨first, rest, hfirst⟩ := List.exists_cons_of_ne_nil
      (List.ne_nil_of_mem (active_subset hu))
    rw [if_neg hnumber, hafter, List.findSome?_append, List.findSome?_cons, resolveRow_eq, hfirst,
      List.head?_cons]

theorem resolves_to_iff {id : String} :
    (∃ ref, resolveByText lib directory text = .ok ref ∧ ref.sysId = id) ↔
      ∃ r, (userRefCandidates (trim text)).findSome? (resolveRow directory) = some r ∧
        r.sysId = id := by
  rw [resolveByText_eq]
  rcases (userRefCandidates (trim text)).findSome? (resolveRow directory) with _ | r <;> simp

theorem resolves_not_iff : (∃ err, resolveByText lib directory text = .error err) ↔
    (userRefCandidates (trim text)).findSome? (resolveRow directory) = none := by
  rw [resolveByText_eq]
  rcases (userRefCandidates (trim text)).findSome? (resolveRow directory) with _ | r <;> simp

/-- An active user who is looked up is the one a text is resolved to if nobody comes before. -/
theorem Decides.resolve_one (h : Decides directory (textCandidates text) before candidate)
    (hone : activeUsersWith directory candidate = [u]) :
    (∃ r, (userRefCandidates text).findSome? (resolveRow directory) = some r ∧ r.sysId = u.sysId) ↔
      (∀ b ∈ before, usersWith directory b = []) ∧ candidate.field ≠ "employee_number" ∧
        (usersWith directory candidate).head? = some u := by
  have hmem : u ∈ activeUsersWith directory candidate := by
    rw [hone]
    exact List.mem_singleton_self u
  have hu := mem_usersWith (active_subset hmem)
  rw [h.resolve]
  by_cases hbefore : ∀ b ∈ before, usersWith directory b = []
  · rw [findSome_none hbefore, Option.none_or]
    constructor
    · rintro ⟨r, hr, hid⟩
      split_ifs at hr with hnumber
      obtain rfl := directory_unique (mem_usersWith (List.mem_of_head? hr)) hu hid
      exact ⟨hbefore, hnumber, hr⟩
    · rintro ⟨-, hnumber, hhead⟩
      rw [if_neg hnumber]
      exact ⟨u, hhead, rfl⟩
  · obtain ⟨r, hfound, hr, hinactive⟩ := findSome_inactive h.2.1 hbefore
    rw [hfound, Option.some_or]
    refine ⟨fun hsome => ?_, fun hnone => absurd hnone.1 hbefore⟩
    obtain ⟨r', hsame, hid⟩ := hsome
    obtain rfl := Option.some.inj hsame
    obtain rfl := directory_unique hr hu hid
    rw [holds_active hmem] at hinactive
    cases hinactive

/-- A text with several active users is not resolved if only the employee number knows them. -/
theorem Decides.resolve_several (h : Decides directory (textCandidates text) before candidate) :
    (userRefCandidates text).findSome? (resolveRow directory) = none ↔
      (∀ b ∈ before, usersWith directory b = []) ∧ candidate.field = "employee_number" := by
  rw [h.resolve]
  by_cases hbefore : ∀ b ∈ before, usersWith directory b = []
  · rw [findSome_none hbefore, Option.none_or]
    by_cases hnumber : candidate.field = "employee_number"
    · rw [if_pos hnumber]
      exact ⟨fun _ => ⟨hbefore, hnumber⟩, fun _ => rfl⟩
    · rw [if_neg hnumber, List.head?_eq_none_iff]
      refine ⟨fun hempty => absurd ?_ h.2.2, fun hnone => absurd hnone.2 hnumber⟩
      rw [activeUsersWith, hempty, List.filter_nil]
  · obtain ⟨r, hfound, -, -⟩ := findSome_inactive h.2.1 hbefore
    rw [hfound, Option.some_or]
    exact ⟨fun hnone => (Option.some_ne_none r hnone).elim, fun hnone => absurd hnone.1 hbefore⟩

/-- The condition, for the candidate that decides. -/
theorem Decides.goesBy_iff (hne : trim text ≠ "")
    (h : Decides directory (textCandidates (trim text)) before candidate) :
    OneUserGoesBy directory text ↔ (∀ b ∈ before, usersWith directory b = []) ∧
      if candidate.field = "employee_number" then 2 ≤ (activeUsersWith directory candidate).length
      else ∃ u, activeUsersWith directory candidate = [u] ∧
        (usersWith directory candidate).head? = some u := by
  refine ⟨fun hall => hall hne before candidate h, fun hcond _ before' c h' => ?_⟩
  obtain ⟨rfl, rfl⟩ := h.unique h'
  exact hcond

/-- **The resolvers agree on a text if and only if one user goes by it.** -/
theorem resolvers_agree_iff (lib : CoreLib) (directory : UserDirectory) (ttl : Int)
    (ctx : CallContext) (text : String) (hshape : ∀ id, normalizeRecordLookupSysId text ≠ .ok id) :
    ResolversAgree lib directory ttl ctx text ↔ OneUserGoesBy directory text := by
  by_cases hblank : trim text = ""
  · obtain ⟨err, herr, hother⟩ := lookupByText_blank lib directory ttl ctx hblank
    refine ⟨fun _ hne => absurd hblank hne, fun _ => ⟨fun result h => ?_, fun c h => ?_⟩⟩
    · rw [herr] at h
      cases h
    · rw [herr] at h
      exact absurd (Except.error.inj h) (hother c)
  have hlookup := lookupByText_eq lib directory ttl ctx hblank hshape
  by_cases hdecides : ∃ before candidate,
      Decides directory (textCandidates (trim text)) before candidate
  · obtain ⟨before, c, hc⟩ := hdecides
    rw [hc.goesBy_iff hblank]
    rcases hc.answer lib with ⟨u, hone, hlive⟩ | ⟨hseveral, hlive⟩
    · have hagree : ResolversAgree lib directory ttl ctx text ↔
          ∃ ref, resolveByText lib directory text = .ok ref ∧ ref.sysId = u.sysId := by
        rw [hlive] at hlookup
        refine ⟨fun h => h.found _ hlookup, fun h => ⟨fun result hresult => ?_, fun d hd => ?_⟩⟩
        · rw [hlookup] at hresult
          cases hresult
          exact h
        · rw [hlookup] at hd
          cases hd
      rw [hagree, resolves_to_iff, hc.resolve_one hone, hone]
      by_cases hnumber : c.field = "employee_number" <;> simp [hnumber]
    · have hagree : ResolversAgree lib directory ttl ctx text ↔
          ∃ err, resolveByText lib directory text = .error err := by
        rw [hlive] at hlookup
        refine ⟨fun h => h.refused _ hlookup, fun h => ⟨fun result hresult => ?_, fun _ _ => h⟩⟩
        rw [hlookup] at hresult
        cases hresult
      rw [hagree, resolves_not_iff, hc.resolve_several]
      by_cases hnumber : c.field = "employee_number"
      · simp [hnumber, hseveral]
      · refine ⟨fun h => absurd h.2 hnumber, fun h => ?_⟩
        obtain ⟨-, h⟩ := h
        rw [if_neg hnumber] at h
        obtain ⟨u, hone, -⟩ := h
        rw [hone] at hseveral
        exact absurd hseveral (by simp)
  · have hidle : ∀ before c, ¬ Decides directory (textCandidates (trim text)) before c :=
      fun before c h => hdecides ⟨before, c, h⟩
    rw [liveLookup_none hidle] at hlookup
    refine ⟨fun _ _ before c h => absurd h (hidle before c), fun _ =>
        ⟨fun result h => ?_, fun c h => ?_⟩⟩
    · rw [hlookup] at h
      cases h
    · rw [hlookup] at h
      cases h

end

/-! ## Users of one name -/

/-- A user with a name to sign in with. -/
def signedUp (sysId userName active : String) : Record where
  sysId := sysId
  table := "sys_user"
  fields := [("user_name", ⟨some (.string userName), none⟩),
    ("active", ⟨some (.string active), none⟩)]

/-- Somebody who left and somebody new of one name, two of another, and one by herself. -/
def sharedNames : List Record :=
  [signedUp "u1" "ann" "false", signedUp "u2" "ann" "true", signedUp "u3" "pat" "true",
    signedUp "u4" "pat" "true", signedUp "u5" "eve" "true"]

/-- The directory of these. -/
def sharedDirectory : UserDirectory where
  rows _ := sharedNames
  keys := by decide
  ordered _ := List.Perm.refl _
  holds := plainHolds
  equalsIgnores := plainHolds_equals
  containsIgnores := plainHolds_contains

/-- A call on a calm day. -/
def calmContext : CallContext := ⟨0, fun _ => 0, fun _ => none⟩

theorem decides_eve : activeUsersWith sharedDirectory ⟨"user_name", "eve"⟩ =
    [signedUp "u5" "eve" "true"] := by
  rfl

/-- The one user of a name. -/
theorem resolvers_agree_eve :
    ResolversAgree incidentLib sharedDirectory weekTtl calmContext " eve " := by
  refine (resolvers_agree_iff incidentLib sharedDirectory weekTtl calmContext " eve "
    (fun id h => ?_)).mpr fun _ before c hdecides => ?_
  · have herror : normalizeRecordLookupSysId " eve " =
        .error "sys_id must be exactly 32 ASCII hex characters" := by decide +kernel
    rw [herror] at h
    cases h
  · have hcandidates : textCandidates (trim " eve ") =
        ⟨"user_name", "eve"⟩ :: [⟨"email", "eve"⟩, ⟨"employee_number", "eve"⟩] := by
      decide +kernel
    have hactive : activeUsersWith sharedDirectory ⟨"user_name", "eve"⟩ ≠ [] := by
      rw [decides_eve]
      simp
    rw [hcandidates] at hdecides
    obtain ⟨rfl, rfl⟩ := (decides_cons_active hactive).mp hdecides
    refine ⟨fun _ hmem => (List.not_mem_nil hmem).elim, ?_⟩
    rw [if_neg (by decide)]
    exact ⟨_, decides_eve, rfl⟩

/-- **Users of one name.**  The name `ann` is looked up as the active user and resolved to the one
who left; the name `pat` is refused by the lookup and resolved to one of the two. -/
theorem resolvers_disagree :
    ¬ ResolversAgree incidentLib sharedDirectory weekTtl calmContext "ann" ∧
      ¬ ResolversAgree incidentLib sharedDirectory weekTtl calmContext "pat" := by
  constructor
  · intro h
    have hlookup : lookupByText incidentLib sharedDirectory weekTtl calmContext "ann" = .ok
        (some ⟨"user_name", userRecordFromRecord incidentLib (signedUp "u2" "ann" "true")⟩) := by
      decide +kernel
    have hresolve : (resolveByText incidentLib sharedDirectory "ann").toOption.map (·.sysId) =
        some "u1" := by
      decide +kernel
    obtain ⟨ref, href, hid⟩ := h.found _ hlookup
    rw [href] at hresolve
    rw [Except.toOption, Option.map_some, hid] at hresolve
    exact absurd hresolve (by decide)
  · intro h
    have hlookup : lookupByText incidentLib sharedDirectory weekTtl calmContext "pat" =
        .error (severalMatched ⟨"user_name", "pat"⟩) := by
      decide +kernel
    have hresolve : (resolveByText incidentLib sharedDirectory "pat").toOption.isSome = true := by
      decide +kernel
    obtain ⟨err, herr⟩ := h.refused _ hlookup
    rw [herr] at hresolve
    cases hresolve

end SnowAgent.Core
