import SnowAgent.ServiceMembers
import SnowAgent.Primitives

/-! # The steps of a traversal

What is told in a summary stays told, and every limit that is told of marks the run as truncated.  A
level only adds CIs that were not visited, while there is budget for them, and takes servers only
from these.
-/
namespace SnowAgent.Traversal

open Json Text Core

/-! ## Summaries -/

/-- Whether every limit that was reached marks the run as truncated. -/
structure ServersSummary.Flagged (summary : ServersSummary) : Prop where
  depth : summary.depthLimitReached → summary.truncated
  ci : summary.ciLimitReached → summary.truncated
  edge : summary.edgeLimitReached → summary.truncated
  association : summary.associationLimitReached → summary.truncated
  page : summary.pageLimitReached → summary.truncated

theorem ServersSummary.flagged_of_truncated {summary : ServersSummary}
    (h : summary.truncated = true) : summary.Flagged :=
  ⟨fun _ => h, fun _ => h, fun _ => h, fun _ => h, fun _ => h⟩

/-- What a later summary of a run has in common with an earlier one: what was told stays told, and
its limits are flagged. -/
structure ServersSummary.Grown (before after : ServersSummary) : Prop where
  depth : before.depthLimitReached → after.depthLimitReached
  ci : before.ciLimitReached → after.ciLimitReached
  edge : before.edgeLimitReached → after.edgeLimitReached
  association : before.associationLimitReached → after.associationLimitReached
  page : before.pageLimitReached → after.pageLimitReached
  truncated : before.truncated → after.truncated
  restricted : before.aclRestrictedCount ≤ after.aclRestrictedCount
  relationshipRestricted :
    before.relationshipAclRestrictedCount ≤ after.relationshipAclRestrictedCount
  missing : before.missingCiCount ≤ after.missingCiCount
  flagged : before.Flagged → after.Flagged

namespace ServersSummary.Grown

variable {s s' s'' : ServersSummary}

theorem refl : Grown s s := ⟨id, id, id, id, id, id, le_rfl, le_rfl, le_rfl, id⟩

theorem trans (h : Grown s s') (h' : Grown s' s'') : Grown s s'' where
  depth := h'.depth ∘ h.depth
  ci := h'.ci ∘ h.ci
  edge := h'.edge ∘ h.edge
  association := h'.association ∘ h.association
  page := h'.page ∘ h.page
  truncated := h'.truncated ∘ h.truncated
  restricted := h.restricted.trans h'.restricted
  relationshipRestricted := h.relationshipRestricted.trans h'.relationshipRestricted
  missing := h.missing.trans h'.missing
  flagged := h'.flagged ∘ h.flagged

end ServersSummary.Grown

/-! ## Reports -/

namespace Report

variable (report : Report) (field table sysId message : String) (reason : Reason)

@[simp] theorem summary_push :
    (report.push field table sysId reason message).summary = report.summary := rfl

@[simp] theorem summary_update (f : ServersSummary → ServersSummary) :
    (report.update f).summary = f report.summary := rfl

theorem grown_countCycle : report.summary.Grown report.countCycle.summary :=
  ⟨id, id, id, id, id, id, le_rfl, le_rfl, le_rfl, fun h => ⟨h.1, h.2, h.3, h.4, h.5⟩⟩

theorem grown_markCiLimit :
    report.summary.Grown (report.markCiLimit field table sysId message).summary :=
  ⟨id, fun _ => rfl, id, id, id, fun _ => rfl, le_rfl, le_rfl, le_rfl,
    fun _ => ServersSummary.flagged_of_truncated rfl⟩

theorem markEdgeLimit_reached : report.markEdgeLimit.summary.edgeLimitReached = true := by
  unfold markEdgeLimit
  by_cases h : report.summary.edgeLimitReached = true
  · rw [if_pos h]
    exact h
  · rw [if_neg h]
    rfl

theorem grown_markEdgeLimit : report.summary.Grown report.markEdgeLimit.summary := by
  unfold markEdgeLimit
  by_cases h : report.summary.edgeLimitReached = true
  · rw [if_pos h]
    exact .refl
  · rw [if_neg h]
    exact ⟨id, id, fun _ => rfl, id, id, fun _ => rfl, le_rfl, le_rfl, le_rfl,
      fun _ => ServersSummary.flagged_of_truncated rfl⟩

@[simp] theorem examined_markEdgeLimit :
    report.markEdgeLimit.summary.relationshipsExamined = report.summary.relationshipsExamined := by
  unfold markEdgeLimit
  split <;> rfl

/-- Diagnostics about a list of CIs do not change the summary. -/
theorem summary_foldl_push (sysIds : List String) :
    (sysIds.foldl (fun report sysId => report.push field table sysId reason message)
      report).summary = report.summary := by
  induction sysIds generalizing report with
  | nil => rfl
  | cons sysId rest step => rw [List.foldl_cons, step, summary_push]

variable (sysIds : List String)

theorem summary_restrictedCis :
    (report.restrictedCis field table message sysIds).summary =
      { report.summary with
        aclRestrictedCount := report.summary.aclRestrictedCount + sysIds.length } :=
  summary_foldl_push _ _ _ _ _ _

theorem grown_restrictedCis :
    report.summary.Grown (report.restrictedCis field table message sysIds).summary := by
  rw [summary_restrictedCis]
  exact ⟨id, id, id, id, id, id, Nat.le_add_right _ _, le_rfl, le_rfl,
    fun h => ⟨h.1, h.2, h.3, h.4, h.5⟩⟩

/-- A list of CIs for which there is no readable row. -/
theorem summary_foldl_missingCi :
    (sysIds.foldl (fun report sysId => report.missingCi field table sysId message)
      report).summary =
      { report.summary with
        missingCiCount := report.summary.missingCiCount + sysIds.length } := by
  induction sysIds generalizing report with
  | nil => rfl
  | cons sysId rest step =>
    rw [List.foldl_cons, step, List.length_cons, ← Nat.add_assoc, Nat.add_right_comm]
    rfl

theorem grown_foldl_missingCi :
    report.summary.Grown (sysIds.foldl (fun report sysId =>
      report.missingCi field table sysId message) report).summary := by
  rw [summary_foldl_missingCi]
  exact ⟨id, id, id, id, id, id, le_rfl, le_rfl, Nat.le_add_right _ _,
    fun h => ⟨h.1, h.2, h.3, h.4, h.5⟩⟩

end Report

/-! ## Reading relationships -/

/-- The rows that pages offer, up to an answer that is not a page. -/
def offeredRows : List PageAnswer → List Record
  | .page rows :: rest => rows ++ offeredRows rest
  | _ => []

section Reading

variable {remaining : Nat} {answers : List PageAnswer} {read read' : DirectionRead}

/-- A read of a direction that reaches no limit has all the rows that are offered. -/
theorem readDirection_complete (h : readDirection remaining answers read = .ok read')
    (hlimit : read'.edgeLimitReached = false) :
    read'.records = read.records ++ offeredRows answers := by
  induction answers generalizing read with
  | nil =>
    simp only [readDirection, Except.ok.injEq] at h
    subst h
    simp [offeredRows]
  | cons answer rest step =>
    unfold readDirection at h
    by_cases hfull : remaining ≤ read.records.length
    · rw [if_pos hfull, Except.ok.injEq] at h
      subst h
      cases hlimit
    · rw [if_neg hfull] at h
      rcases answer with rows | _ | reason
      · by_cases hroom : remaining - read.records.length < rows.length
        · simp only [if_pos hroom, Except.ok.injEq] at h
          subst h
          cases hlimit
        · simp only [if_neg hroom] at h
          rw [step h, offeredRows, List.append_assoc]
      · simp only [Except.ok.injEq] at h
        subst h
        simp [offeredRows]
      · cases h

variable {budget budget' : Nat} {report report' : Report} {records records' : List Record}

/-- What is merged takes from the budget what it counts. -/
theorem mergeDirectionRead_spec
    (h : mergeDirectionRead read budget report records = (budget', report', records')) :
    budget' + report'.summary.relationshipsExamined =
        budget + report.summary.relationshipsExamined ∧
      report.summary.Grown report'.summary ∧
      (report'.summary.edgeLimitReached = false →
        read.edgeLimitReached = false ∧ records' = records ++ read.records) := by
  unfold mergeDirectionRead at h
  simp only [Prod.mk.injEq] at h
  obtain ⟨rfl, hreport, rfl⟩ := h
  -- the report with the access rule that was met
  obtain ⟨restricted, hrestricted⟩ : ∃ restricted, restricted = if read.aclRestricted = true then
        (report.update fun summary => { summary with
          aclRestrictedCount := summary.aclRestrictedCount + 1
          relationshipAclRestrictedCount := summary.relationshipAclRestrictedCount + 1 }).push
          (fieldName read.field) "cmdb_rel_ci" "" .referenceAclRestricted
          "ACL restricted cmdb_rel_ci traversal"
      else report := ⟨_, rfl⟩
  have hgrown : report.summary.Grown restricted.summary ∧
      restricted.summary.relationshipsExamined = report.summary.relationshipsExamined := by
    rw [hrestricted]
    split
    · exact ⟨⟨id, id, id, id, id, id, Nat.le_succ _, Nat.le_succ _, le_rfl,
        fun h => ⟨h.1, h.2, h.3, h.4, h.5⟩⟩, rfl⟩
    · exact ⟨.refl, rfl⟩
  rw [← hrestricted] at hreport
  subst hreport
  simp only [Report.summary_update]
  by_cases hlimit : (decide (budget < read.records.length) || read.edgeLimitReached) = true
  · simp only [if_pos hlimit, Report.examined_markEdgeLimit, hgrown.2, List.length_take]
    refine ⟨by omega, hgrown.1.trans ?_, fun hflag => ?_⟩
    · have := restricted.grown_markEdgeLimit
      exact ⟨this.1, this.2, this.3, this.4, this.5, this.6, this.7, this.8, this.9,
        fun h => ⟨(this.10 h).1, (this.10 h).2, (this.10 h).3, (this.10 h).4, (this.10 h).5⟩⟩
    · rw [Report.markEdgeLimit_reached] at hflag
      cases hflag
  · simp only [if_neg hlimit, hgrown.2, List.length_take]
    rw [Bool.not_eq_true, Bool.or_eq_false_iff, decide_eq_false_iff_not, not_lt] at hlimit
    refine ⟨by omega, hgrown.1.trans ?_, fun _ => ⟨hlimit.2, ?_⟩⟩
    · exact ⟨id, id, id, id, id, id, le_rfl, le_rfl, le_rfl, fun h => ⟨h.1, h.2, h.3, h.4, h.5⟩⟩
    · rw [List.take_of_length_le hlimit.1]

variable {remote : Remote} {options : ServersOptions} {depth : Nat} {frontier : List String}

/-- The rows that ServiceNow offers for a level. -/
def offeredRelationships (remote : Remote) (options : ServersOptions) (depth : Nat)
    (frontier : List String) (report : Report) : List Record :=
  let remaining := options.maxEdges - report.summary.relationshipsExamined
  offeredRows (remote.relationships depth .parent frontier remaining) ++
    offeredRows (remote.relationships depth .child frontier remaining)

/-- **The read of a level** keeps the budget for edges, and either has all the rows that are offered
or tells of the limit. -/
theorem relationshipRecords_spec
    (h : relationshipRecords remote options depth frontier report = .ok (records, report'))
    (hfrontier : frontier ≠ []) :
    (report.summary.relationshipsExamined ≤ options.maxEdges →
        report'.summary.relationshipsExamined ≤ options.maxEdges) ∧
      report.summary.Grown report'.summary ∧
      (report'.summary.edgeLimitReached = false →
        records = offeredRelationships remote options depth frontier report) := by
  unfold relationshipRecords at h
  by_cases hstop : frontier = [] ∨ report.summary.edgeLimitReached = true
  · rw [if_pos hstop, Except.ok.injEq, Prod.mk.injEq] at h
    obtain ⟨rfl, rfl⟩ := h
    refine ⟨id, .refl, fun hflag => ?_⟩
    rcases hstop with rfl | hedge
    · exact absurd rfl hfrontier
    · rw [hedge] at hflag
      cases hflag
  rw [if_neg hstop] at h
  by_cases hremaining : options.maxEdges - report.summary.relationshipsExamined = 0
  · simp only [if_pos hremaining, Except.ok.injEq, Prod.mk.injEq] at h
    obtain ⟨rfl, rfl⟩ := h
    refine ⟨fun hle => by rwa [Report.examined_markEdgeLimit], report.grown_markEdgeLimit,
      fun hflag => ?_⟩
    rw [Report.markEdgeLimit_reached] at hflag
    cases hflag
  · simp only [if_neg hremaining] at h
    obtain ⟨parent, hparent, h⟩ := bind_eq_ok h
    obtain ⟨child, hchild, h⟩ := bind_eq_ok h
    obtain ⟨⟨budget, middle, between⟩, hfirst⟩ : ∃ merged, mergeDirectionRead parent
      (options.maxEdges - report.summary.relationshipsExamined) report [] = merged := ⟨_, rfl⟩
    rw [hfirst] at h
    obtain ⟨⟨left, last, rows⟩, hsecond⟩ : ∃ merged,
      mergeDirectionRead child budget middle between = merged := ⟨_, rfl⟩
    simp only [hsecond] at h
    cases h
    obtain ⟨hcount, hgrown, hrows⟩ := mergeDirectionRead_spec hfirst
    obtain ⟨hcount', hgrown', hrows'⟩ := mergeDirectionRead_spec hsecond
    refine ⟨fun hle => by omega, hgrown.trans hgrown', fun hflag => ?_⟩
    obtain ⟨hchildLimit, rfl⟩ := hrows' hflag
    have hmiddle : middle.summary.edgeLimitReached = false := by
      by_contra hreached
      rw [hgrown'.edge (Bool.eq_true_of_not_eq_false hreached)] at hflag
      cases hflag
    obtain ⟨hparentLimit, rfl⟩ := hrows hmiddle
    rw [readDirection_complete hparent hparentLimit, readDirection_complete hchild hchildLimit]
    rfl

end Reading

/-- The rows that cannot be read are only told in diagnostics. -/
theorem summary_readEdges (lib : CoreLib) (records : List Record) (report : Report)
    (edges : List RelationshipEdge) :
    (readEdges lib records report edges).2.summary = report.summary := by
  induction records generalizing report edges with
  | nil => rfl
  | cons record rest step =>
    unfold readEdges
    split
    · rw [step, Report.summary_push]
    · split <;> exact step _ _

/-! ## Examining relationships -/

/-- A step that neither visits a CI nor takes a server. -/
structure TraversalState.Aside (t t' : TraversalState) : Prop where
  grown : t.report.summary.Grown t'.report.summary
  examined : t'.report.summary.relationshipsExamined = t.report.summary.relationshipsExamined
  visited : t'.visited = t.visited
  newlySeen : t'.newlySeen = t.newlySeen
  servers : t'.servers = t.servers
  level : t'.frontier = t.frontier

namespace TraversalState.Aside

variable {t t' t'' : TraversalState}

theorem refl : Aside t t := ⟨.refl, rfl, rfl, rfl, rfl, rfl⟩

theorem trans (h : Aside t t') (h' : Aside t' t'') : Aside t t'' where
  grown := h.grown.trans h'.grown
  examined := h'.examined.trans h.examined
  visited := h'.visited.trans h.visited
  newlySeen := h'.newlySeen.trans h.newlySeen
  servers := h'.servers.trans h.servers
  level := h'.level.trans h.level

end TraversalState.Aside

/-- The CI that a relationship leads to, if its type is allowed and the CI was not visited. -/
def newCi (allowed frontier : List String) (t : TraversalState) (edge : RelationshipEdge) :
    Option String :=
  if edge.relationshipType.matchesAny allowed then
    (edge.traversalEndpoint frontier).bind fun endpoint =>
      if endpoint.2.1 ∈ t.visited then none else some endpoint.2.1
  else none

section Examining

variable (options : ServersOptions) (depth : Nat) (allowed frontier : List String)

/-- What one relationship may do: leave the visited CIs as they are, or visit a new CI while there
is budget. -/
structure Examined (t : TraversalState) (edge : RelationshipEdge) (t' : TraversalState) :
    Prop where
  grown : t.report.summary.Grown t'.report.summary
  examined : t'.report.summary.relationshipsExamined = t.report.summary.relationshipsExamined
  servers : t'.servers = t.servers
  level : t'.frontier = t.frontier
  visited : t'.visited = t.visited ∧ t'.newlySeen = t.newlySeen ∨
    ∃ ci, newCi allowed frontier t edge = some ci ∧ t.visited.length - 1 < options.maxCis ∧
      t'.visited = t.visited ++ [ci] ∧ t'.newlySeen = t.newlySeen ++ [ci]
  refused : ∀ ci, newCi allowed frontier t edge = some ci →
    options.maxCis ≤ t.visited.length - 1 → t'.report.summary.ciLimitReached

variable {options depth allowed frontier}
variable (t : TraversalState) (edge : RelationshipEdge)

theorem aside_cycle (field adjacent message : String) :
    t.Aside (t.cycle field adjacent message) :=
  ⟨t.report.grown_countCycle, rfl, rfl, rfl, rfl, rfl⟩

theorem aside_discoverService : t.Aside (discoverService depth frontier t edge) := by
  unfold discoverService
  split
  · rcases edge.traversalEndpoint frontier with _ | ⟨current, adjacent, direction⟩
    · exact .refl
    · dsimp only
      generalize (if adjacent = edge.parentSysId then edge.parentClass else edge.childClass) =
        adjacentClass
      split
      · split
        · exact ⟨.refl, rfl, rfl, rfl, rfl, rfl⟩
        · exact aside_cycle _ _ _ _
      · exact .refl
  · exact .refl

theorem aside_noteRelationship : t.Aside (noteRelationship depth frontier t edge) := by
  have hclasses : ∀ classes, t.Aside { t with ciClasses := classes } :=
    fun _ => ⟨.refl, rfl, rfl, rfl, rfl, rfl⟩
  simp only [noteRelationship]
  exact (hclasses _).trans (aside_discoverService _ _)

theorem aside_revisit (current adjacent : String) (direction : RelationshipDirection) :
    t.Aside (revisit options depth t edge current adjacent direction) := by
  unfold revisit
  split
  · exact aside_cycle _ _ _ _
  · split
    · split
      · exact ⟨.refl, rfl, rfl, rfl, rfl, rfl⟩
      · exact aside_cycle _ _ _ _
    · exact ⟨t.report.grown_countCycle, rfl, rfl, rfl, rfl, rfl⟩

/-- A relationship that leads to no new CI. -/
theorem examined_of_aside {t t' : TraversalState} (h : t.Aside t')
    (hnew : newCi allowed frontier t edge = none) : Examined options allowed frontier t edge t' where
  grown := h.grown
  examined := h.examined
  servers := h.servers
  level := h.level
  visited := .inl ⟨h.visited, h.newlySeen⟩
  refused := by
    intro ci hci
    rw [hnew] at hci
    cases hci

/-- **One relationship of a level**, as the state changes with it. -/
theorem examineRelationship_examined :
    Examined options allowed frontier t edge
      (examineRelationship options depth allowed frontier t edge) := by
  have haside : t.Aside (noteRelationship depth frontier t edge) := aside_noteRelationship t edge
  unfold examineRelationship
  obtain ⟨noted, hnoted⟩ : ∃ noted, noted = noteRelationship depth frontier t edge := ⟨_, rfl⟩
  rw [← hnoted] at haside ⊢
  by_cases hallowed : edge.relationshipType.matchesAny allowed = true
  swap
  · simp only [if_neg hallowed]
    exact examined_of_aside edge haside (by rw [newCi, if_neg hallowed])
  simp only [if_pos hallowed]
  unfold followRelationship
  rcases hendpoint : edge.traversalEndpoint frontier with _ | ⟨current, adjacent, direction⟩
  · refine examined_of_aside edge (haside.trans ⟨.refl, rfl, rfl, rfl, rfl, rfl⟩) ?_
    rw [newCi, if_pos hallowed, hendpoint]
    rfl
  dsimp only
  by_cases hvisited : adjacent ∈ noted.visited
  · rw [if_pos hvisited]
    refine examined_of_aside edge (haside.trans (aside_revisit _ _ _ _ _)) ?_
    rw [newCi, if_pos hallowed, hendpoint, Option.bind_some, if_pos (haside.visited ▸ hvisited)]
  have hnew : newCi allowed frontier t edge = some adjacent := by
    rw [newCi, if_pos hallowed, hendpoint, Option.bind_some, if_neg (haside.visited ▸ hvisited)]
  rw [if_neg hvisited]
  by_cases hfull : options.maxCis ≤ noted.visited.length - 1
  · rw [if_pos hfull]
    exact ⟨haside.grown.trans (Report.grown_markCiLimit _ _ _ _ _), haside.examined, haside.servers,
      haside.level, .inl ⟨haside.visited, haside.newlySeen⟩, fun _ _ _ => rfl⟩
  · rw [if_neg hfull]
    rw [haside.visited] at hfull
    unfold discoverCi
    split
    · exact ⟨haside.grown, haside.examined, haside.servers, haside.level,
        .inr ⟨adjacent, hnew, Nat.lt_of_not_le hfull, by rw [haside.visited],
          by rw [haside.newlySeen]⟩,
        fun _ _ hle => absurd hle hfull⟩
    · have hcycle := haside.trans (aside_cycle noted "cmdb_rel_ci" adjacent
        "relationship traversal skipped a mixed-direction route")
      exact ⟨hcycle.grown, hcycle.examined, hcycle.servers, hcycle.level,
        .inl ⟨hcycle.visited, hcycle.newlySeen⟩, fun _ _ hle => absurd hle hfull⟩

end Examining

/-! ## The budget for CIs -/

section Budget

variable (options : ServersOptions)

/-- Whether a state keeps the budgets, with servers and new CIs that were visited. -/
structure TraversalState.Within (t : TraversalState) : Prop where
  edges : t.report.summary.relationshipsExamined ≤ options.maxEdges
  cis : t.visited.length - 1 ≤ options.maxCis
  flagged : t.report.summary.Flagged
  newlySeen : ∀ ci ∈ t.newlySeen, ci ∈ t.visited
  servers : ∀ server ∈ t.servers, server.sysId ∈ t.visited
  rooted : t.visited ≠ []

/-- What a later state of a run has in common with an earlier one.  No CI is visited any more when
the budget is used up. -/
structure TraversalState.Later (t t' : TraversalState) : Prop where
  grown : t.report.summary.Grown t'.report.summary
  full : options.maxCis ≤ t.visited.length - 1 → t'.visited = t.visited

/-- Whether a CI was refused for good. -/
structure TraversalState.Refused (t : TraversalState) (ci : String) : Prop where
  flag : t.report.summary.ciLimitReached
  full : options.maxCis ≤ t.visited.length - 1
  unvisited : ci ∉ t.visited

variable {options} {t t' t'' : TraversalState}

theorem later_refl : t.Later options t := ⟨.refl, fun _ => rfl⟩

theorem later_trans (h : t.Later options t') (h' : t'.Later options t'') :
    t.Later options t'' where
  grown := h.grown.trans h'.grown
  full hfull := by
    have heq := h.full hfull
    rw [h'.full (heq ▸ hfull), heq]

theorem later_of_aside (h : t.Aside t') : t.Later options t' := ⟨h.grown, fun _ => h.visited⟩

/-- A CI that was refused stays so. -/
theorem refused_later {ci : String} (hrefused : t.Refused options ci) (h : t.Later options t') :
    t'.Refused options ci where
  flag := h.grown.ci hrefused.flag
  full := by
    rw [h.full hrefused.full]
    exact hrefused.full
  unvisited := by
    rw [h.full hrefused.full]
    exact hrefused.unvisited

theorem within_aside (hwithin : t.Within options) (h : t.Aside t') : t'.Within options where
  edges := h.examined ▸ hwithin.edges
  cis := h.visited ▸ hwithin.cis
  flagged := h.grown.flagged hwithin.flagged
  newlySeen := h.newlySeen ▸ h.visited ▸ hwithin.newlySeen
  servers := h.servers ▸ h.visited ▸ hwithin.servers
  rooted := h.visited ▸ hwithin.rooted

/-! ### The relationships of a level -/

variable (options) (depth : Nat) (allowed frontier : List String)

/-- The CIs that are refused along relationships. -/
def refusedAlong : List RelationshipEdge → TraversalState → List String
  | [], _ => []
  | edge :: rest, t =>
    ((newCi allowed frontier t edge).filter fun _ =>
        options.maxCis ≤ t.visited.length - 1).toList ++
      refusedAlong rest (examineRelationship options depth allowed frontier t edge)

variable {options depth allowed frontier}

theorem later_examined {edge : RelationshipEdge} (h : Examined options allowed frontier t edge t') :
    t.Later options t' where
  grown := h.grown
  full hfull := by
    rcases h.visited with ⟨hsame, -⟩ | ⟨ci, -, hroom, -⟩
    · exact hsame
    · omega

theorem within_examined {edge : RelationshipEdge} (hwithin : t.Within options)
    (h : Examined options allowed frontier t edge t') : t'.Within options := by
  have hflagged := h.grown.flagged hwithin.flagged
  rcases h.visited with ⟨hvisited, hnew⟩ | ⟨ci, -, hroom, hvisited, hnew⟩
  · refine ⟨h.examined ▸ hwithin.edges, hvisited ▸ hwithin.cis, hflagged, ?_, ?_,
      hvisited ▸ hwithin.rooted⟩
    · rw [hnew, hvisited]
      exact hwithin.newlySeen
    · rw [h.servers, hvisited]
      exact hwithin.servers
  · refine ⟨h.examined ▸ hwithin.edges, ?_, hflagged, ?_, ?_, by simp [hvisited]⟩
    · rw [hvisited, List.length_append, List.length_singleton]
      omega
    · intro seen hseen
      rw [hnew, List.mem_append] at hseen
      rw [hvisited, List.mem_append]
      exact hseen.imp_left (hwithin.newlySeen seen)
    · intro server hserver
      rw [hvisited, List.mem_append]
      exact .inl (hwithin.servers server (h.servers ▸ hserver))

variable (options depth allowed frontier) in
/-- **The relationships of a level** keep the budgets; what is refused among them stays so. -/
theorem examine_spec (edges : List RelationshipEdge) (t : TraversalState) :
    let t' := edges.foldl (examineRelationship options depth allowed frontier) t
    t.Later options t' ∧ (t.Within options → t'.Within options) ∧ t'.frontier = t.frontier ∧
      ∀ ci ∈ refusedAlong options depth allowed frontier edges t, t'.Refused options ci := by
  induction edges generalizing t with
  | nil => exact ⟨later_refl, id, rfl, fun ci hci => absurd hci List.not_mem_nil⟩
  | cons edge rest step =>
    have hedge : Examined options allowed frontier t edge
        (examineRelationship options depth allowed frontier t edge) :=
      examineRelationship_examined t edge
    obtain ⟨hlater, hwithin, hlevel, hrefused⟩ :=
      step (examineRelationship options depth allowed frontier t edge)
    refine ⟨later_trans (later_examined hedge) hlater,
      fun h => hwithin (within_examined h hedge), hlevel.trans hedge.level, fun ci hci => ?_⟩
    rw [refusedAlong, List.mem_append] at hci
    rcases hci with hhere | hthere
    · -- the CI is refused here, and nothing is visited from here on
      rw [Option.mem_toList, Option.filter_eq_some_iff] at hhere
      obtain ⟨hnew, hfull⟩ := hhere
      rw [decide_eq_true_iff] at hfull
      have hunvisited : ci ∉ t.visited := by
        unfold newCi at hnew
        split at hnew
        · obtain ⟨endpoint, -, hif⟩ := Option.bind_eq_some_iff.mp hnew
          split at hif
          · cases hif
          · cases hif
            assumption
        · cases hnew
      have hsame := (later_examined hedge).full hfull
      exact refused_later ⟨hedge.refused ci hnew hfull, hsame.symm ▸ hfull,
        hsame.symm ▸ hunvisited⟩ hlater
    · exact hrefused ci hthere

end Budget

/-! ## The CIs of a level -/

section Collecting

variable {lib : CoreLib} {remote : Remote} {depth : Nat} {t t' : TraversalState}

variable (remote) in
/-- The decision on a class only tells of metadata that cannot be read. -/
theorem summary_classIsServer (className : String) (cache : Table String Bool) (report : Report) :
    (classIsServer remote className cache report).2.2.summary = report.summary := by
  unfold classIsServer
  split
  · rfl
  · split
    · rfl
    · split <;> rfl

theorem aside_hydrateCiClasses (h : hydrateCiClasses lib remote depth t = .ok t') :
    t.Aside t' := by
  unfold hydrateCiClasses at h
  dsimp only at h
  split at h
  · cases h
    exact .refl
  · split at h
    · cases h
    · cases h
      exact ⟨Report.grown_restrictedCis _ _ _ _ _, by rw [Report.summary_restrictedCis], rfl, rfl,
        rfl, rfl⟩
    · cases h
      exact ⟨Report.grown_foldl_missingCi _ _ _ _ _, by rw [Report.summary_foldl_missingCi], rfl,
        rfl, rfl, rfl⟩

/-- Servers and the next frontier are some of the new CIs. -/
theorem classifyCis_spec {sysIds serverIds nextFrontier serverIds' nextFrontier' : List String}
    (h : classifyCis remote sysIds serverIds nextFrontier t = (serverIds', nextFrontier', t')) :
    t.Aside t' ∧ (∀ ci ∈ serverIds', ci ∈ serverIds ∨ ci ∈ sysIds) ∧
      ∀ ci ∈ nextFrontier', ci ∈ nextFrontier ∨ ci ∈ sysIds := by
  induction sysIds generalizing serverIds nextFrontier t with
  | nil =>
    simp only [classifyCis, Prod.mk.injEq] at h
    obtain ⟨rfl, rfl, rfl⟩ := h
    exact ⟨.refl, fun ci hci => .inl hci, fun ci hci => .inl hci⟩
  | cons sysId rest step =>
    unfold classifyCis at h
    rcases hclass : t.ciClasses.row sysId with _ | className
    · simp only [hclass] at h
      obtain ⟨haside, hservers, hnext⟩ := step h
      exact ⟨haside, fun ci hci => (hservers ci hci).imp_right (.tail _),
        fun ci hci => (hnext ci hci).imp_right (.tail _)⟩
    · obtain ⟨⟨isServer, cache, report⟩, hresult⟩ :
        ∃ result, classIsServer remote className t.serverClassCache t.report = result := ⟨_, rfl⟩
      have hsummary : report.summary = t.report.summary := by
        have := summary_classIsServer remote className t.serverClassCache t.report
        rwa [hresult] at this
      have hclassified : t.Aside { t with serverClassCache := cache, report } :=
        ⟨hsummary ▸ .refl, by rw [hsummary], rfl, rfl, rfl, rfl⟩
      -- a new CI at the end of a list is one of the CIs that are classified
      have hlast : ∀ {found : List String} {ci : String}, ci ∈ found ++ [sysId] ∨ ci ∈ rest →
          ci ∈ found ∨ ci ∈ sysId :: rest := by
        intro found ci hci
        simp only [List.mem_append, List.mem_singleton] at hci
        rcases hci with (hold | rfl) | hrest
        · exact .inl hold
        · exact .inr List.mem_cons_self
        · exact .inr (.tail _ hrest)
      simp only [hclass, hresult] at h
      by_cases hserver : isServer = true
      · rw [if_pos hserver] at h
        obtain ⟨haside, hservers, hnext⟩ := step h
        exact ⟨hclassified.trans haside, fun ci hci => hlast (hservers ci hci),
          fun ci hci => (hnext ci hci).imp_right (.tail _)⟩
      · rw [if_neg hserver] at h
        obtain ⟨haside, hservers, hnext⟩ := step h
        exact ⟨hclassified.trans haside, fun ci hci => (hservers ci hci).imp_right (.tail _),
          fun ci hci => hlast (hnext ci hci)⟩

/-- The servers that are read are some of those asked for. -/
theorem hydrateServers_spec {answer : List String → ListAnswer} {sysIds : List String}
    {report report' : Report} {servers : List Record}
    (hanswer : ∀ sysIds records, answer sysIds = .found records →
      ∀ record ∈ records, record.sysId ∈ sysIds)
    (h : hydrateServers answer sysIds report = .ok (servers, report')) :
    report.summary.Grown report'.summary ∧
      report'.summary.relationshipsExamined = report.summary.relationshipsExamined ∧
      report'.summary.cisExamined = report.summary.cisExamined ∧
      ∀ server ∈ servers, server.sysId ∈ sysIds := by
  unfold hydrateServers at h
  dsimp only at h
  split at h
  · simp only [Except.ok.injEq, Prod.mk.injEq] at h
    obtain ⟨rfl, rfl⟩ := h
    exact ⟨.refl, rfl, rfl, fun server hserver => absurd hserver List.not_mem_nil⟩
  · split at h
    · cases h
    · simp only [Except.ok.injEq, Prod.mk.injEq] at h
      obtain ⟨rfl, rfl⟩ := h
      exact ⟨Report.grown_restrictedCis _ _ _ _ _, by rw [Report.summary_restrictedCis],
        by rw [Report.summary_restrictedCis], fun server hserver => absurd hserver List.not_mem_nil⟩
    · rename_i records hfound
      simp only [Except.ok.injEq, Prod.mk.injEq] at h
      obtain ⟨rfl, rfl⟩ := h
      exact ⟨Report.grown_foldl_missingCi _ _ _ _ _, by rw [Report.summary_foldl_missingCi],
        by rw [Report.summary_foldl_missingCi],
        fun server hserver => List.mem_eraseDups.mp (hanswer _ _ hfound server hserver)⟩

/-- Servers are kept by their CI. -/
theorem mem_foldl_noteServer {found servers : List Record} {server : Record}
    (h : server ∈ found.foldl noteServer servers) : server ∈ servers ∨ server ∈ found := by
  induction found generalizing servers with
  | nil => exact .inl h
  | cons first rest step =>
    rcases step h with hold | hrest
    · unfold noteServer at hold
      split at hold
      · exact .inl hold
      · rcases List.mem_append.mp hold with hold | hnew
        · exact .inl hold
        · exact .inr (List.mem_singleton.mp hnew ▸ List.mem_cons_self)
    · exact .inr (.tail _ hrest)

variable {options : ServersOptions}

/-- **The CIs of a level** keep the budgets: none is visited, and the servers are among them. -/
theorem collectLevel_spec (h : collectLevel lib remote depth t = .ok t') :
    t.Later options t' ∧ (t.Within options → t'.Within options) := by
  unfold collectLevel at h
  obtain ⟨hydrated, hhydrated, h⟩ := bind_eq_ok h
  obtain ⟨⟨serverIds, nextFrontier, classified⟩, hclassified⟩ :
    ∃ result, classifyCis remote hydrated.newlySeen [] [] hydrated = result := ⟨_, rfl⟩
  simp only [hclassified] at h
  obtain ⟨⟨servers, report⟩, hservers, h⟩ := bind_eq_ok h
  cases h
  obtain ⟨haside, hids, -⟩ := classifyCis_spec hclassified
  have hbefore := (aside_hydrateCiClasses hhydrated).trans haside
  obtain ⟨hgrown, hexamined, -, hasked⟩ := hydrateServers_spec (remote.servers_asked depth) hservers
  refine ⟨later_trans (later_of_aside hbefore) ⟨hgrown, fun _ => rfl⟩, fun hwithin => ?_⟩
  have hclassifiedWithin := within_aside hwithin hbefore
  refine ⟨hexamined ▸ hclassifiedWithin.edges, hclassifiedWithin.cis,
    hgrown.flagged hclassifiedWithin.flagged, hclassifiedWithin.newlySeen, fun server hserver => ?_,
    hclassifiedWithin.rooted⟩
  rcases mem_foldl_noteServer hserver with hold | hnew
  · exact hclassifiedWithin.servers server hold
  · rcases hids _ (hasked server hnew) with hnone | hci
    · exact absurd hnone List.not_mem_nil
    · exact hclassifiedWithin.newlySeen _ (haside.newlySeen ▸ hci)

end Collecting

end SnowAgent.Traversal
