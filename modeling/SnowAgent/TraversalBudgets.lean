import SnowAgent.FirstSeen
import SnowAgent.TraversalSteps

/-! # The budgets of a traversal

Every level either has all the rows that ServiceNow offers or tells of the limit, and a CI that is
refused in the graph is never visited later.  The members of services are let in at their first row
only: a refused member that is named again is looked at all the same, and its server returned.  So
the budget for CIs is kept if and only if no member beyond it is named twice.
-/
namespace SnowAgent.Traversal

open Json Text Core

/-! ## Levels -/

section Levels

variable (lib : CoreLib) (remote : Remote) (options : ServersOptions) (allowed : List String)

/-- The levels that are gone through, each with its depth and the state it starts from. -/
def levelStarts : Nat → Nat → TraversalState → List (Nat × TraversalState)
  | 0, _, _ => []
  | left + 1, depth, t =>
    if t.finished then []
    else (depth, t) ::
      match traverseLevel lib remote options allowed depth t with
      | .error _ => []
      | .ok next =>
        if depth = options.maxDepth ∧ next.frontier ≠ [] then []
        else levelStarts left (depth + 1) next

/-- The CIs that a level refuses. -/
def refusedInLevel (depth : Nat) (t : TraversalState) : List String :=
  match relationshipLevel lib remote options depth t.frontier t.report with
  | .error _ => []
  | .ok (edges, report) =>
    refusedAlong options depth allowed t.frontier edges { t with report, newlySeen := [] }

/-- What is told later of the rows, CIs and frontier that a level leaves out. -/
structure LevelTold (depth : Nat) (t t' : TraversalState) : Prop where
  rows : ∀ records report,
    relationshipRecords remote options depth t.frontier t.report = .ok (records, report) →
    records ≠ offeredRelationships remote options depth t.frontier t.report →
    t'.report.summary.edgeLimitReached
  cis : ∀ ci ∈ refusedInLevel lib remote options allowed depth t, t'.Refused options ci

variable {lib remote options allowed} {depth left : Nat} {t t' t'' : TraversalState}

theorem levelTold_later (h : LevelTold lib remote options allowed depth t t')
    (hlater : t'.Later options t'') : LevelTold lib remote options allowed depth t t'' where
  rows records report hrecords hleft := hlater.grown.edge (h.rows records report hrecords hleft)
  cis ci hci := refused_later (h.cis ci hci) hlater

/-- The relationships of a level, with what they tell. -/
theorem examineLevel_spec (h : examineLevel lib remote options allowed depth t = .ok t')
    (hfrontier : t.frontier ≠ []) :
    t.Later options t' ∧ (t.Within options → t'.Within options) ∧
      LevelTold lib remote options allowed depth t t' := by
  unfold examineLevel at h
  obtain ⟨⟨edges, report⟩, hlevel, h⟩ := bind_eq_ok h
  cases h
  have hrelationships := hlevel
  unfold relationshipLevel at hlevel
  obtain ⟨⟨records, between⟩, hrecords, hlevel⟩ := bind_eq_ok hlevel
  simp only [Pure.pure, Except.pure, Except.ok.injEq] at hlevel
  have hsummary : report.summary = between.summary := by
    have := summary_readEdges lib records between []
    rwa [hlevel] at this
  obtain ⟨hexamined, hgrown, hrows⟩ := relationshipRecords_spec hrecords hfrontier
  rw [← hsummary] at hexamined hgrown hrows
  obtain ⟨hlater, hwithin, -, hrefused⟩ := examine_spec options depth allowed t.frontier edges
    { t with report, newlySeen := [] }
  have hread : t.Later options { t with report, newlySeen := [] } := ⟨hgrown, fun _ => rfl⟩
  refine ⟨later_trans hread hlater, fun h => hwithin ⟨hexamined h.edges, h.cis,
    hgrown.flagged h.flagged, fun ci hci => absurd hci List.not_mem_nil, h.servers, h.rooted⟩, ?_, ?_⟩
  · intro records' report' hrecords' hleft
    rw [hrecords, Except.ok.injEq, Prod.mk.injEq] at hrecords'
    obtain ⟨rfl, rfl⟩ := hrecords'
    refine hlater.grown.edge ?_
    by_contra hflag
    exact hleft (hrows (Bool.eq_false_of_not_eq_true hflag))
  · intro ci hci
    unfold refusedInLevel at hci
    rw [hrelationships] at hci
    exact hrefused ci hci

theorem traverseLevel_spec (h : traverseLevel lib remote options allowed depth t = .ok t')
    (hfrontier : t.frontier ≠ []) :
    t.Later options t' ∧ (t.Within options → t'.Within options) ∧
      LevelTold lib remote options allowed depth t t' := by
  unfold traverseLevel at h
  obtain ⟨examined, hexamined, h⟩ := bind_eq_ok h
  obtain ⟨hlater, hwithin, htold⟩ := examineLevel_spec hexamined hfrontier
  obtain ⟨hlater', hwithin'⟩ := collectLevel_spec h
  exact ⟨later_trans hlater hlater', hwithin' ∘ hwithin, levelTold_later htold hlater'⟩

variable (options) in
theorem markDepthLimit_spec (t : TraversalState) :
    t.Later options (markDepthLimit t) ∧ (t.Within options → (markDepthLimit t).Within options) ∧
      (markDepthLimit t).report.summary.depthLimitReached := by
  have hgrown : t.report.summary.Grown (markDepthLimit t).report.summary :=
    ⟨fun _ => rfl, id, id, id, id, fun _ => rfl, le_rfl, le_rfl, le_rfl,
      fun _ => ServersSummary.flagged_of_truncated rfl⟩
  exact ⟨⟨hgrown, fun _ => rfl⟩,
    fun h => ⟨h.edges, h.cis, hgrown.flagged h.flagged, h.newlySeen, h.servers, h.rooted⟩,
    rfl⟩

/-- **The loop over the levels** keeps the budgets, and in its end tells of all that a level left
out. -/
theorem traverseLevels_spec (h : traverseLevels lib remote options allowed left depth t = .ok t') :
    t.Later options t' ∧ (t.Within options → t'.Within options) ∧
      ∀ start ∈ levelStarts lib remote options allowed left depth t,
        LevelTold lib remote options allowed start.1 start.2 t' ∧
        ∀ next, traverseLevel lib remote options allowed start.1 start.2 = .ok next →
          start.1 = options.maxDepth → next.frontier ≠ [] →
            t'.report.summary.depthLimitReached := by
  induction left generalizing depth t with
  | zero =>
    simp only [traverseLevels, Except.ok.injEq] at h
    subst h
    exact ⟨later_refl, id, fun start hstart => absurd hstart List.not_mem_nil⟩
  | succ left step =>
    unfold traverseLevels at h
    unfold levelStarts
    by_cases hfinished : t.finished
    · rw [if_pos hfinished, Except.ok.injEq] at h
      subst h
      rw [if_pos hfinished]
      exact ⟨later_refl, id, fun start hstart => absurd hstart List.not_mem_nil⟩
    rw [if_neg hfinished] at h
    rw [if_neg hfinished]
    obtain ⟨next, hnext, h⟩ := bind_eq_ok h
    obtain ⟨hlater, hwithin, htold⟩ := traverseLevel_spec hnext fun hnil => hfinished (.inl hnil)
    simp only [hnext]
    by_cases hlast : depth = options.maxDepth ∧ next.frontier ≠ []
    · rw [if_pos hlast] at h
      cases h
      rw [if_pos hlast]
      obtain ⟨hmarked, hmarkedWithin, hdepth⟩ := markDepthLimit_spec options next
      refine ⟨later_trans hlater hmarked, hmarkedWithin ∘ hwithin, fun start hstart => ?_⟩
      rw [List.mem_singleton] at hstart
      subst hstart
      exact ⟨levelTold_later htold hmarked, fun _ _ _ _ => hdepth⟩
    · rw [if_neg hlast] at h
      rw [if_neg hlast]
      obtain ⟨hrest, hrestWithin, hrestTold⟩ := step h
      refine ⟨later_trans hlater hrest, hrestWithin ∘ hwithin, fun start hstart => ?_⟩
      rcases List.mem_cons.mp hstart with rfl | hlevel
      · refine ⟨levelTold_later htold hrest, fun other hother hdepth hfrontier => ?_⟩
        rw [hnext, Except.ok.injEq] at hother
        subst hother
        exact absurd ⟨hdepth, hfrontier⟩ hlast
      · exact hrestTold start hlevel

end Levels

/-! ## The rows of members -/

/-- The member CI that a row names, if both its references can be read. -/
def memberCi (lib : CoreLib) (record : Record) : Option String :=
  (referenceSysId lib record "service_id").bind fun _ => referenceSysId lib record "ci_id"

section Members

variable (lib : CoreLib) (remote : Remote) (options : ServersOptions) (servicePaths : Chains)

/-- Whether there is no budget for another member CI. -/
def MemberState.Full (m : MemberState) : Prop := options.maxCis ≤ m.report.summary.cisExamined - 1

instance (m : MemberState) : Decidable (m.Full options) :=
  inferInstanceAs (Decidable (_ ≤ _))

/-- The member CIs that are looked at, row by row. -/
def lookedAt : List Record → MemberState → List String
  | [], _ => []
  | record :: rest, m =>
    ((memberCi lib record).filter fun ci => ci ∈ m.examinedMemberCis ∨ ¬ m.Full options).toList ++
      lookedAt rest (examineMember lib remote options servicePaths m record)

/-- The member CIs that are refused, row by row. -/
def refusedMembers : List Record → MemberState → List String
  | [], _ => []
  | record :: rest, m =>
    ((memberCi lib record).filter fun ci => ci ∉ m.examinedMemberCis ∧ m.Full options).toList ++
      refusedMembers rest (examineMember lib remote options servicePaths m record)

/-- What a row may do to the state of the members. -/
structure RowExamined (m : MemberState) (record : Record) (m' : MemberState) : Prop where
  grown : m.report.summary.Grown m'.report.summary
  edges : m'.report.summary.relationshipsExamined = m.report.summary.relationshipsExamined
  unread : memberCi lib record = none → m'.examinedMemberCis = m.examinedMemberCis ∧
    m'.report.summary.cisExamined = m.report.summary.cisExamined ∧ m'.serverIds = m.serverIds
  again : ∀ ci, memberCi lib record = some ci → ci ∈ m.examinedMemberCis →
    m'.examinedMemberCis = m.examinedMemberCis ∧
      m'.report.summary.cisExamined = m.report.summary.cisExamined ∧
      ∀ id ∈ m'.serverIds, id ∈ m.serverIds ∨ id = ci
  refused : ∀ ci, memberCi lib record = some ci → ci ∉ m.examinedMemberCis → m.Full options →
    m'.examinedMemberCis = ci :: m.examinedMemberCis ∧
      m'.report.summary.cisExamined = m.report.summary.cisExamined ∧
      m'.serverIds = m.serverIds ∧ m'.report.summary.ciLimitReached
  counted : ∀ ci, memberCi lib record = some ci → ci ∉ m.examinedMemberCis → ¬ m.Full options →
    m'.examinedMemberCis = ci :: m.examinedMemberCis ∧
      m'.report.summary.cisExamined = m.report.summary.cisExamined + 1 ∧
      ∀ id ∈ m'.serverIds, id ∈ m.serverIds ∨ id = ci

variable {lib remote options servicePaths}

variable (lib remote servicePaths) in
/-- A member CI that is looked at may be a server. -/
theorem processMember_spec (m : MemberState) (record : Record) (serviceSysId ciSysId : String) :
    let m' := processMember lib remote servicePaths m record serviceSysId ciSysId
    m.report.summary.Grown m'.report.summary ∧
      m'.report.summary.relationshipsExamined = m.report.summary.relationshipsExamined ∧
      m'.examinedMemberCis = m.examinedMemberCis ∧
      m'.report.summary.cisExamined = m.report.summary.cisExamined ∧
      ∀ id ∈ m'.serverIds, id ∈ m.serverIds ∨ id = ciSysId := by
  unfold processMember
  split
  · exact ⟨⟨id, id, id, id, id, id, le_rfl, le_rfl, Nat.le_succ _,
      fun h => ⟨h.1, h.2, h.3, h.4, h.5⟩⟩,
      rfl, rfl, rfl, fun id hid => .inl hid⟩
  · rename_i className _
    obtain ⟨⟨isServer, cache, report⟩, hresult⟩ :
      ∃ result, classIsServer remote className m.serverClassCache m.report = result := ⟨_, rfl⟩
    have hsummary : report.summary = m.report.summary := by
      have := summary_classIsServer remote className m.serverClassCache m.report
      rwa [hresult] at this
    simp only [hresult]
    split
    · refine ⟨hsummary ▸ .refl, by rw [hsummary], rfl, by rw [hsummary], fun id hid => ?_⟩
      dsimp only at hid
      split at hid
      · exact .inl hid
      · rcases List.mem_append.mp hid with hold | hnew
        · exact .inl hold
        · exact .inr (List.mem_singleton.mp hnew)
    · exact ⟨hsummary ▸ .refl, by rw [hsummary], rfl, by rw [hsummary], fun id hid => .inl hid⟩

/-- **One row of the associations**, as the state of the members changes with it. -/
theorem examineMember_examined (m : MemberState) (record : Record) :
    RowExamined lib options m record (examineMember lib remote options servicePaths m record) := by
  unfold examineMember
  rcases hservice : referenceSysId lib record "service_id" with _ | serviceSysId
  · have hnone : memberCi lib record = none := by rw [memberCi, hservice]; rfl
    exact ⟨.refl, rfl, fun _ => ⟨rfl, rfl, rfl⟩, fun ci hci => by simp [hnone] at hci,
      fun ci hci => by simp [hnone] at hci, fun ci hci => by simp [hnone] at hci⟩
  rcases hmember : referenceSysId lib record "ci_id" with _ | ciSysId
  · have hnone : memberCi lib record = none := by
      rw [memberCi, hservice, Option.bind_some, hmember]
    exact ⟨.refl, rfl, fun _ => ⟨rfl, rfl, rfl⟩, fun ci hci => by simp [hnone] at hci,
      fun ci hci => by simp [hnone] at hci, fun ci hci => by simp [hnone] at hci⟩
  have hci : memberCi lib record = some ciSysId := by
    rw [memberCi, hservice, Option.bind_some, hmember]
  dsimp only
  by_cases hexamined : ciSysId ∈ m.examinedMemberCis
  · rw [if_pos hexamined]
    obtain ⟨hgrown, hedges, hsame, hcount, hids⟩ := processMember_spec lib remote
      servicePaths m record serviceSysId ciSysId
    refine ⟨hgrown, hedges, fun hnone => ?_, fun ci hother _ => ?_, fun ci hother hnew => ?_,
      fun ci hother hnew => ?_⟩
    · rw [hci] at hnone
      cases hnone
    · rw [hci, Option.some.injEq] at hother
      exact hother ▸ ⟨hsame, hcount, hids⟩
    · rw [hci, Option.some.injEq] at hother
      exact absurd (hother ▸ hexamined) hnew
    · rw [hci, Option.some.injEq] at hother
      exact absurd (hother ▸ hexamined) hnew
  rw [if_neg hexamined]
  by_cases hfull : m.Full options
  · rw [if_pos (show options.maxCis ≤ _ from hfull)]
    refine ⟨Report.grown_markCiLimit _ _ _ _ _, rfl, fun hnone => ?_, fun ci hother hmem => ?_,
      fun ci hother _ _ => ?_, fun ci _ _ hroom => absurd hfull hroom⟩
    · rw [hci] at hnone
      cases hnone
    · rw [hci, Option.some.injEq] at hother
      exact absurd (hother ▸ hmem) hexamined
    · rw [hci, Option.some.injEq] at hother
      exact hother ▸ ⟨rfl, rfl, rfl, rfl⟩
  · rw [if_neg (show ¬ options.maxCis ≤ _ from hfull)]
    obtain ⟨hgrown, hedges, hsame, hcount, hids⟩ := processMember_spec lib remote servicePaths
      { m with
        examinedMemberCis := ciSysId :: m.examinedMemberCis
        report := m.report.update fun summary =>
          { summary with cisExamined := summary.cisExamined + 1 } }
      record serviceSysId ciSysId
    refine ⟨?_, hedges, fun hnone => ?_, fun ci hother hmem => ?_,
      fun ci _ _ hno => absurd hno hfull, fun ci hother _ _ => ?_⟩
    · refine .trans ?_ hgrown
      exact ⟨id, id, id, id, id, id, le_rfl, le_rfl, le_rfl, fun h => ⟨h.1, h.2, h.3, h.4, h.5⟩⟩
    · rw [hci] at hnone
      cases hnone
    · rw [hci, Option.some.injEq] at hother
      exact absurd (hother ▸ hmem) hexamined
    · rw [hci, Option.some.injEq] at hother
      exact hother ▸ ⟨hsame, hcount, hids⟩

variable (lib remote options servicePaths) in
/-- **The loop over the members is a gate at first sight**: it looks at the CIs that get through it,
and refuses those that the gate refuses. -/
theorem lookedAt_eq (rows : List Record) (m : MemberState)
    (hroot : 1 ≤ m.report.summary.cisExamined) :
    lookedAt lib remote options servicePaths rows m =
        FirstSeen.through (options.maxCis - (m.report.summary.cisExamined - 1))
          m.examinedMemberCis (rows.filterMap (memberCi lib)) ∧
      refusedMembers lib remote options servicePaths rows m =
        FirstSeen.refused (options.maxCis - (m.report.summary.cisExamined - 1))
          m.examinedMemberCis (rows.filterMap (memberCi lib)) := by
  induction rows generalizing m with
  | nil => exact ⟨rfl, rfl⟩
  | cons record rest step =>
    have hrow : RowExamined lib options m record
        (examineMember lib remote options servicePaths m record) := examineMember_examined m record
    unfold lookedAt refusedMembers
    rcases hci : memberCi lib record with _ | ci
    · obtain ⟨hsame, hcount, -⟩ := hrow.unread hci
      rw [List.filterMap_cons_none hci]
      have := step _ (hcount.symm ▸ hroot)
      rw [hsame, hcount] at this
      simpa using this
    rw [List.filterMap_cons_some hci]
    unfold FirstSeen.through FirstSeen.refused
    by_cases hseen : ci ∈ m.examinedMemberCis
    · obtain ⟨hsame, hcount, -⟩ := hrow.again ci hci hseen
      have := step _ (hcount.symm ▸ hroot)
      rw [hsame, hcount] at this
      simpa [hseen, Option.filter_some] using this
    by_cases hfull : m.Full options
    · obtain ⟨hsame, hcount, -⟩ := hrow.refused ci hci hseen hfull
      have := step _ (hcount.symm ▸ hroot)
      rw [hsame, hcount] at this
      have hzero : options.maxCis - (m.report.summary.cisExamined - 1) = 0 :=
        Nat.sub_eq_zero_of_le hfull
      rw [hzero] at this ⊢
      simpa [hseen, hfull, Option.filter_some] using this
    · obtain ⟨hsame, hcount, -⟩ := hrow.counted ci hci hseen hfull
      have := step (examineMember lib remote options servicePaths m record)
        (hcount ▸ Nat.le_add_left _ _)
      rw [hsame, hcount] at this
      have hroom : options.maxCis - (m.report.summary.cisExamined - 1) =
          options.maxCis - (m.report.summary.cisExamined + 1 - 1) + 1 := by
        unfold MemberState.Full at hfull
        omega
      rw [hroom]
      simpa [hseen, hfull, Option.filter_some] using this

variable (lib remote options servicePaths) in
/-- **The rows of the associations**, as the state of the members changes with them all. -/
theorem examineRows_spec (rows : List Record) (m : MemberState) :
    let m' := rows.foldl (examineMember lib remote options servicePaths) m
    m.report.summary.Grown m'.report.summary ∧
      m'.report.summary.relationshipsExamined = m.report.summary.relationshipsExamined ∧
      (m.report.summary.cisExamined - 1 ≤ options.maxCis →
        m'.report.summary.cisExamined - 1 ≤ options.maxCis) ∧
      (refusedMembers lib remote options servicePaths rows m ≠ [] →
        m'.report.summary.ciLimitReached) ∧
      ∀ id ∈ m'.serverIds, id ∈ m.serverIds ∨
        id ∈ lookedAt lib remote options servicePaths rows m := by
  induction rows generalizing m with
  | nil => exact ⟨.refl, rfl, id, fun h => absurd rfl h, fun id hid => .inl hid⟩
  | cons record rest step =>
    have hrow : RowExamined lib options m record
        (examineMember lib remote options servicePaths m record) := examineMember_examined m record
    obtain ⟨hgrown, hedges, hcount, hflag, hids⟩ :=
      step (examineMember lib remote options servicePaths m record)
    refine ⟨hrow.grown.trans hgrown, hedges.trans hrow.edges, fun hle => hcount ?_, fun hne => ?_,
      fun id hid => ?_⟩
    · rcases hci : memberCi lib record with _ | ci
      · rw [(hrow.unread hci).2.1]
        exact hle
      by_cases hseen : ci ∈ m.examinedMemberCis
      · rw [(hrow.again ci hci hseen).2.1]
        exact hle
      by_cases hfull : m.Full options
      · rw [(hrow.refused ci hci hseen hfull).2.1]
        exact hle
      · rw [(hrow.counted ci hci hseen hfull).2.1]
        unfold MemberState.Full at hfull
        omega
    · unfold refusedMembers at hne
      rcases hhere : (memberCi lib record).filter
          fun ci => ci ∉ m.examinedMemberCis ∧ m.Full options with _ | ci
      · rw [hhere] at hne
        exact hflag hne
      · rw [Option.filter_eq_some_iff, decide_eq_true_iff] at hhere
        obtain ⟨hci, hnew, hfull⟩ := hhere
        exact hgrown.ci (hrow.refused ci hci hnew hfull).2.2.2
    · unfold lookedAt
      rw [List.mem_append]
      rcases hids id hid with hrowId | hlater
      · rcases hci : memberCi lib record with _ | ci
        · exact .inl ((hrow.unread hci).2.2 ▸ hrowId)
        by_cases hseen : ci ∈ m.examinedMemberCis
        · refine ((hrow.again ci hci hseen).2.2 id hrowId).imp_right fun heq => .inl ?_
          simp [hseen, heq, Option.filter_some]
        by_cases hfull : m.Full options
        · exact .inl ((hrow.refused ci hci hseen hfull).2.2.1 ▸ hrowId)
        · refine ((hrow.counted ci hci hseen hfull).2.2 id hrowId).imp_right fun heq => .inl ?_
          simp [hfull, heq, Option.filter_some]
      · exact .inr (.inr hlater)

/-! ## The stage of the members -/

/-- The rows of associations that are left out are told of, by the limit that was met. -/
theorem readMembership_told {answers : List PageAnswer} {read read' : ServiceMembershipRead}
    (h : readMembership options answers read = .ok read') (hacl : read'.aclRestricted = false)
    (hleft : read'.records ≠ read.records ++ offeredRows answers) :
    if options.maxAssociations ≤ read'.records.length then read'.associationLimitReached
    else read'.pageLimitReached := by
  induction answers generalizing read with
  | nil =>
    simp only [readMembership, Except.ok.injEq] at h
    subst h
    simp [offeredRows] at hleft
  | cons answer rest step =>
    unfold readMembership at h
    by_cases hfull : options.maxAssociations ≤ read.records.length
    · rw [if_pos hfull, Except.ok.injEq] at h
      subst h
      rw [if_pos hfull]
    rw [if_neg hfull] at h
    by_cases hpages : options.maxPages ≤ read.pagesExamined
    · rw [if_pos hpages, Except.ok.injEq] at h
      subst h
      rw [if_neg hfull]
    rw [if_neg hpages] at h
    rcases answer with rows | _ | reason
    · by_cases hroom : options.maxAssociations - read.records.length < rows.length
      · simp only [if_pos hroom, Except.ok.injEq] at h
        subst h
        rw [if_pos]
        simp only [List.length_append, List.length_take]
        omega
      · simp only [if_neg hroom] at h
        refine step h ?_
        rwa [List.append_assoc]
    · simp only [Except.ok.injEq] at h
      subst h
      cases hacl
    · cases h

/-- What is told of the limits of a read of associations. -/
theorem markMembershipLimits_spec (report : Report) (read : ServiceMembershipRead) :
    let summary := (report.markMembershipLimits read).summary
    report.summary.Grown summary ∧
      summary.relationshipsExamined = report.summary.relationshipsExamined ∧
      summary.cisExamined = report.summary.cisExamined ∧
      (read.associationLimitReached → summary.associationLimitReached) ∧
      (read.pageLimitReached → summary.pageLimitReached) := by
  unfold Report.markMembershipLimits
  rcases read.associationLimitReached with _ | _ <;> rcases read.pageLimitReached with _ | _
  · refine ⟨⟨id, id, id, id, id, id, le_rfl, le_rfl, le_rfl, fun h => ⟨h.1, h.2, h.3, h.4, h.5⟩⟩,
      rfl, rfl, ?_, ?_⟩ <;> exact nofun
  · refine ⟨⟨id, id, id, id, fun _ => rfl, fun _ => rfl, le_rfl, le_rfl, le_rfl,
      fun _ => ServersSummary.flagged_of_truncated rfl⟩, rfl, rfl, ?_, fun _ => rfl⟩
    exact nofun
  · refine ⟨⟨id, id, id, fun _ => rfl, id, fun _ => rfl, le_rfl, le_rfl, le_rfl,
      fun _ => ServersSummary.flagged_of_truncated rfl⟩, rfl, rfl, fun _ => rfl, ?_⟩
    exact nofun
  · exact ⟨⟨id, id, id, fun _ => rfl, fun _ => rfl, fun _ => rfl, le_rfl, le_rfl, le_rfl,
      fun _ => ServersSummary.flagged_of_truncated rfl⟩, rfl, rfl, fun _ => rfl, fun _ => rfl⟩

/-- The servers are those that are read, with or without routes. -/
theorem attachPaths_fst (servers : List Record) (paths : Chains) :
    (attachPaths servers paths).map Prod.fst = servers := by
  induction servers generalizing paths with
  | nil => rfl
  | cons server rest step => rw [attachPaths, List.map_cons, step]

/-- The rows of associations that are gone through, if the stage comes to them. -/
def membersRead (remote : Remote) (options : ServersOptions) (t : TraversalState) :
    Option ServiceMembershipRead :=
  if t.membershipSeeds = [] then none
  else (serviceMembershipRead remote options t).toOption.filter fun read => !read.aclRestricted

variable {t : TraversalState} {members : List (Record × List Chain)} {report : Report}

/-- **The stage of the members** keeps the count of CIs; its servers are members that are looked at,
and it tells of the rows and CIs that it leaves out. -/
theorem serviceMembershipServers_spec
    (h : serviceMembershipServers lib remote options t = .ok (members, report)) :
    t.report.summary.Grown report.summary ∧
      report.summary.relationshipsExamined = t.report.summary.relationshipsExamined ∧
      (t.report.summary.cisExamined - 1 ≤ options.maxCis →
        report.summary.cisExamined - 1 ≤ options.maxCis) ∧
      (membersRead remote options t = none → members = []) ∧
      ∀ read, membersRead remote options t = some read →
        (refusedMembers lib remote options t.servicePathsByCi read.records (memberStart t read) ≠ [] →
          report.summary.ciLimitReached) ∧
        (∀ member ∈ members, member.1.sysId ∈
          lookedAt lib remote options t.servicePathsByCi read.records (memberStart t read)) ∧
        (read.associationLimitReached → report.summary.associationLimitReached) ∧
        (read.pageLimitReached → report.summary.pageLimitReached) := by
  have hcounts : ∀ {s s' : ServersSummary}, s' = { s with
      pagesExamined := s'.pagesExamined
      serviceMembershipStatus := s'.serviceMembershipStatus } → s.Grown s' := by
    intro s s' heq
    rw [heq]
    exact ⟨id, id, id, id, id, id, le_rfl, le_rfl, le_rfl, fun h => ⟨h.1, h.2, h.3, h.4, h.5⟩⟩
  unfold serviceMembershipServers at h
  unfold membersRead
  by_cases hseeds : t.membershipSeeds = []
  · rw [if_pos hseeds, Except.ok.injEq, Prod.mk.injEq] at h
    obtain ⟨rfl, rfl⟩ := h
    rw [if_pos hseeds]
    exact ⟨hcounts rfl, rfl, id, fun _ => rfl, nofun⟩
  rw [if_neg hseeds] at h
  rw [if_neg hseeds]
  obtain ⟨read, hread, h⟩ := bind_eq_ok h
  rw [hread]
  by_cases hacl : read.aclRestricted = true
  · rw [if_pos hacl] at h
    cases h
    have hnone : (Except.ok read : Except String ServiceMembershipRead).toOption.filter
        (fun read => !read.aclRestricted) = none := by
      simp [Except.toOption, Option.filter_some, hacl]
    rw [hnone]
    refine ⟨?_, rfl, id, fun _ => rfl, nofun⟩
    exact ⟨id, id, id, id, id, id, Nat.le_succ _, le_rfl, le_rfl,
      fun h => ⟨h.1, h.2, h.3, h.4, h.5⟩⟩
  · rw [if_neg hacl] at h
    obtain ⟨⟨servers, hydrated⟩, hservers, h⟩ := bind_eq_ok h
    cases h
    have hsome : (Except.ok read : Except String ServiceMembershipRead).toOption.filter
        (fun read => !read.aclRestricted) = some read := by
      simp [Except.toOption, Option.filter_some, hacl]
    rw [hsome]
    obtain ⟨hmarked, hmarkedEdges, hmarkedCis, hassociation, hpage⟩ :=
      markMembershipLimits_spec (t.report.update fun summary =>
        { summary with pagesExamined := summary.pagesExamined + read.pagesExamined }) read
    obtain ⟨hrows, hrowEdges, hrowCis, hflag, hids⟩ := examineRows_spec lib remote
      options t.servicePathsByCi read.records
      (memberStart t read)
    obtain ⟨hgrown, hedges, hcis, hasked⟩ := hydrateServers_spec remote.memberServers_asked hservers
    have hstart : t.report.summary.Grown (memberStart t read).report.summary :=
      .trans (hcounts rfl) hmarked
    have hlast : hydrated.summary.Grown hydrated.membershipStatus.summary := hcounts rfl
    refine ⟨hstart.trans (hrows.trans (hgrown.trans hlast)), ?_, fun hle => ?_, nofun,
      fun other hother => ?_⟩
    · exact hedges.trans (hrowEdges.trans hmarkedEdges)
    · have := hrowCis (hmarkedCis.symm ▸ hle)
      exact hcis.symm ▸ this
    · obtain rfl : read = other := Option.some.inj hother
      refine ⟨fun hne => hlast.ci (hgrown.ci (hflag hne)), fun member hmember => ?_,
        fun hreached => ?_, fun hreached => ?_⟩
      · have hserver : member.1 ∈ servers := by
          rw [← attachPaths_fst servers]
          exact List.mem_map_of_mem hmember
        rcases hids _ (hasked member.1 hserver) with hnone | hlooked
        · exact absurd hnone List.not_mem_nil
        · exact hlooked
      · exact hlast.association (hgrown.association (hrows.association (hassociation hreached)))
      · exact hlast.page (hgrown.page (hrows.page (hpage hreached)))

end Members

/-! ## Runs -/

variable {discoveries : List ServerDiscovery} {provenance : ServerProvenance}
  {entry : ServerDiscovery}

/-- The servers of a merge are the one that is merged and those that were there. -/
theorem mem_mergeServerDiscovery {server : Record} {paths : List Chain}
    (h : entry ∈ mergeServerDiscovery server provenance paths discoveries) :
    entry.server = server ∨ ∃ other ∈ discoveries, other.server = entry.server := by
  have hadded : ∀ discovery : ServerDiscovery,
      (discovery.addPaths provenance paths).server = discovery.server := by
    intro discovery
    unfold ServerDiscovery.addPaths
    cases provenance <;> rfl
  induction discoveries with
  | nil =>
    rw [mergeServerDiscovery, List.mem_singleton] at h
    exact .inl (h ▸ hadded _)
  | cons first rest step =>
    unfold mergeServerDiscovery at h
    split at h
    · rcases List.mem_cons.mp h with rfl | hrest
      · exact .inr ⟨first, List.mem_cons_self, (hadded first).symm⟩
      · exact .inr ⟨entry, .tail _ hrest, rfl⟩
    · split at h
      · rcases List.mem_cons.mp h with rfl | hold
        · exact .inl (hadded _)
        · exact .inr ⟨entry, hold, rfl⟩
      · rcases List.mem_cons.mp h with rfl | hrest
        · exact .inr ⟨entry, List.mem_cons_self, rfl⟩
        · exact (step hrest).imp_right fun ⟨other, hother, heq⟩ => ⟨other, .tail _ hother, heq⟩

/-- The servers of the discoveries, after a list of them is merged. -/
theorem mem_foldl_mergeServerDiscovery {α : Type} (server : α → Record) {paths : α → List Chain}
    {found : List α}
    (h : entry ∈ found.foldl (fun discoveries a =>
      mergeServerDiscovery (server a) provenance (paths a) discoveries) discoveries) :
    (∃ a ∈ found, entry.server = server a) ∨ ∃ other ∈ discoveries, other.server = entry.server := by
  induction found generalizing discoveries with
  | nil => exact .inr ⟨entry, h, rfl⟩
  | cons first rest step =>
    rcases step h with ⟨a, ha, heq⟩ | ⟨other, hother, heq⟩
    · exact .inl ⟨a, .tail _ ha, heq⟩
    · rcases mem_mergeServerDiscovery hother with hfirst | ⟨earlier, hearlier, hsame⟩
      · exact .inl ⟨first, List.mem_cons_self, heq.symm.trans hfirst⟩
      · exact .inr ⟨earlier, hearlier, hsame.trans heq⟩

/-- Rows of associations that are left out are told of in the read. -/
theorem membersRead_told {remote : Remote} {options : ServersOptions} {t : TraversalState}
    {read : ServiceMembershipRead} (h : membersRead remote options t = some read)
    (hleft : read.records ≠
      offeredRows (remote.associations (t.membershipSeeds.mergeSort (· ≤ ·)))) :
    if options.maxAssociations ≤ read.records.length then read.associationLimitReached
    else read.pageLimitReached := by
  unfold membersRead at h
  split at h
  · cases h
  · obtain ⟨hread, hacl⟩ := Option.filter_eq_some_iff.mp h
    rcases hok : serviceMembershipRead remote options t with reason | answered
    · rw [hok] at hread
      cases hread
    · rw [hok] at hread
      cases hread
      rw [Bool.not_eq_true'] at hacl
      exact readMembership_told hok hacl (by simpa using hleft)

section Runs

variable (lib : CoreLib) (remote : Remote) (options : ServersOptions) (allowed : List String)
  (root : String)

/-- The CIs of the graph beyond the Business Application. -/
def ServersRun.graphCis (run : ServersRun) : List String := run.graph.visited.tail

/-- The levels of a run. -/
def runLevels : List (Nat × TraversalState) :=
  levelStarts lib remote options allowed options.maxDepth 1 (TraversalState.start root)

/-- The member CIs that a run looks at. -/
def lookedAtMembers (t : TraversalState) : List String :=
  (membersRead remote options t).elim [] fun read =>
    lookedAt lib remote options t.servicePathsByCi read.records (memberStart t read)

/-- The member CIs that a run refuses. -/
def refusedMemberCis (t : TraversalState) : List String :=
  (membersRead remote options t).elim [] fun read =>
    refusedMembers lib remote options t.servicePathsByCi read.records (memberStart t read)

/-- The member CIs that the rows of associations name, in their order. -/
def memberCis (t : TraversalState) : List String :=
  (membersRead remote options t).elim [] fun read => read.records.filterMap (memberCi lib)

/-- Whether a run keeps its budgets, and tells of what they leave out. -/
structure BudgetsKept (run : ServersRun) : Prop where
  edges : run.report.summary.relationshipsExamined ≤ options.maxEdges
  counted : run.report.summary.cisExamined - 1 ≤ options.maxCis
  cis : run.graphCis.length + (lookedAtMembers lib remote options run.graph).toFinset.card ≤
    options.maxCis
  refused : ∀ level ∈ runLevels lib remote options allowed root,
    ∀ ci ∈ refusedInLevel lib remote options allowed level.1 level.2,
      ∀ server ∈ run.servers, server.sysId ≠ ci
  refusedMembers : ∀ ci ∈ refusedMemberCis lib remote options run.graph,
    ∀ member ∈ run.members, member.1.sysId ≠ ci
  edgesTold : ∀ level ∈ runLevels lib remote options allowed root, ∀ records report,
    relationshipRecords remote options level.1 level.2.frontier level.2.report =
      .ok (records, report) →
    records ≠ offeredRelationships remote options level.1 level.2.frontier level.2.report →
    run.report.summary.edgeLimitReached ∧ run.report.summary.truncated
  cisTold : (∃ level ∈ runLevels lib remote options allowed root,
      refusedInLevel lib remote options allowed level.1 level.2 ≠ []) ∨
      refusedMemberCis lib remote options run.graph ≠ [] →
    run.report.summary.ciLimitReached ∧ run.report.summary.truncated
  depthTold : ∀ level ∈ runLevels lib remote options allowed root, ∀ next,
    traverseLevel lib remote options allowed level.1 level.2 = .ok next →
    level.1 = options.maxDepth → next.frontier ≠ [] →
    run.report.summary.depthLimitReached ∧ run.report.summary.truncated
  associationsTold : ∀ read, membersRead remote options run.graph = some read →
    read.records ≠ offeredRows (remote.associations (run.graph.membershipSeeds.mergeSort (· ≤ ·))) →
    (if options.maxAssociations ≤ read.records.length then
      run.report.summary.associationLimitReached
    else run.report.summary.pageLimitReached) ∧ run.report.summary.truncated

variable {lib remote options allowed root} {run : ServersRun}

/-- The state after the relationships. -/
theorem traverseGraph_spec {t : TraversalState}
    (h : traverseGraph lib remote options allowed root = .ok t) :
    t.Within options ∧ t.report.summary.cisExamined = t.visited.length ∧
      ∀ level ∈ runLevels lib remote options allowed root,
        LevelTold lib remote options allowed level.1 level.2 t ∧
        ∀ next, traverseLevel lib remote options allowed level.1 level.2 = .ok next →
          level.1 = options.maxDepth → next.frontier ≠ [] → t.report.summary.depthLimitReached := by
  unfold traverseGraph at h
  obtain ⟨last, hlast, h⟩ := bind_eq_ok h
  cases h
  obtain ⟨-, hwithin, htold⟩ := traverseLevels_spec hlast
  have hstart : (TraversalState.start root).Within options :=
    ⟨Nat.zero_le _, Nat.zero_le _, ⟨nofun, nofun, nofun, nofun, nofun⟩, nofun, nofun, by
      simp [TraversalState.start]⟩
  have hkept := hwithin hstart
  exact ⟨⟨hkept.edges, hkept.cis, ⟨hkept.flagged.1, hkept.flagged.2, hkept.flagged.3,
      hkept.flagged.4, hkept.flagged.5⟩, hkept.newlySeen, hkept.servers, hkept.rooted⟩, rfl,
    fun level hlevel => ⟨⟨(htold level hlevel).1.rows, fun ci hci =>
      have hrefused := (htold level hlevel).1.cis ci hci
      ⟨hrefused.flag, hrefused.full, hrefused.unvisited⟩⟩, (htold level hlevel).2⟩⟩

variable (lib remote) in
/-- The members are gone through as by a gate with what the graph leaves of the budget. -/
theorem lookedAtMembers_eq {t : TraversalState} (hwithin : t.Within options)
    (hcount : t.report.summary.cisExamined = t.visited.length) :
    lookedAtMembers lib remote options t =
        FirstSeen.through (options.maxCis - t.visited.tail.length) []
          (memberCis lib remote options t) ∧
      refusedMemberCis lib remote options t =
        (FirstSeen.fresh [] (memberCis lib remote options t)).drop
          (options.maxCis - t.visited.tail.length) := by
  rw [← FirstSeen.refused_eq]
  unfold lookedAtMembers refusedMemberCis memberCis
  rcases hread : membersRead remote options t with _ | read
  · exact ⟨rfl, rfl⟩
  have hstart : (memberStart t read).report.summary.cisExamined = t.visited.length := by
    have := (markMembershipLimits_spec (t.report.update fun summary =>
      { summary with pagesExamined := summary.pagesExamined + read.pagesExamined }) read).2.2.1
    exact this.trans hcount
  have hroot : 1 ≤ (memberStart t read).report.summary.cisExamined := by
    rw [hstart]
    exact List.length_pos_of_ne_nil hwithin.rooted
  have hgate := lookedAt_eq lib remote options t.servicePathsByCi read.records
      (memberStart t read) hroot
  rw [hstart] at hgate
  rw [List.length_tail]
  exact hgate

end Runs

/-! ## A shop with one service -/

/-- A Business Application. -/
def shopId : String := "aaaaaaaaaaaaaaaaaaaaaaaaaaaaaaaa"

/-- A service next to it. -/
def checkoutId : String := "bbbbbbbbbbbbbbbbbbbbbbbbbbbbbbbb"

/-- A server that is a member of the service. -/
def hostId : String := "cccccccccccccccccccccccccccccccc"

/-- A field without a display value. -/
def rawField (value : String) : LiveField := ⟨some (.string value), none⟩

/-- The service is used by the Business Application. -/
def usesRow : Record where
  sysId := "1"
  table := "cmdb_rel_ci"
  fields := [("parent", rawField shopId), ("child", rawField checkoutId),
    ("type", rawField "Uses::Used by"), ("child.sys_class_name", rawField "cmdb_ci_service")]

/-- The server is a member of the service. -/
def memberRow : Record where
  sysId := "2"
  table := "svc_ci_assoc"
  fields := [("service_id", rawField checkoutId), ("ci_id", rawField hostId),
    ("ci_id.sys_class_name", rawField "cmdb_ci_linux_server")]

/-- An instance in which the membership is told by some rows. -/
def shopRemote (rows : Nat) : Remote where
  relationships depth field _ _ :=
    match depth, field with
    | 1, .parent => [.page [usesRow]]
    | _, _ => []
  classes _ _ := .found []
  servers _ _ := .found []
  associations _ := [.page (List.replicate rows memberRow)]
  memberServers sysIds :=
    .found ([⟨hostId, "cmdb_ci_linux_server", []⟩].filter fun record => record.sysId ∈ sysIds)
  tableAncestors _ := some []
  servers_asked := by
    intro _ _ _ h
    cases h
    nofun
  memberServers_asked := by
    intro _ _ h record hrecord
    cases h
    exact of_decide_eq_true (List.mem_filter.mp hrecord).2

/-- A budget of one CI, which the service uses up. -/
def oneCi : ServersOptions where
  maxDepth := 2
  maxCis := 1
  maxEdges := 10
  maxAssociations := 10
  maxPages := 10
  includePaths := false
  persist := false
  pruneStale := false

/-- The run on the shop. -/
def shopRun (rows : Nat) : Except String ServersRun :=
  businessApplicationServers incidentLib (shopRemote rows) oneCi [] shopId

/-- A run that looks at the members keeps what is told of it. -/
theorem shopRun_looks (rows : Nat) {α : Type} (f : ServersRun → α) (a : α)
    (h : (shopRun rows).map f = .ok a) : ∃ run, shopRun rows = .ok run ∧ f run = a := by
  rcases hrun : shopRun rows with reason | run
  · rw [hrun] at h
    cases h
  · rw [hrun] at h
    exact ⟨run, rfl, Except.ok.inj h⟩

end SnowAgent.Traversal
