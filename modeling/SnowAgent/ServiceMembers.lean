import SnowAgent.ServerTraversal

/-! # The members of application services

After the relationships, the application services that were met next to the Business Application are
asked for their members, row by row of an association table.  A member CI takes from what is left of
the budget for CIs.  The servers of both stages, each with its routes, are the outcome of a run.
-/
namespace SnowAgent.Traversal

open Json Text Core

/-! ## Reading the associations -/

/-- `BusinessApplicationServiceMembershipRead`. -/
structure ServiceMembershipRead where
  records : List Record := []
  pagesExamined : Nat := 0
  associationLimitReached : Bool := false
  pageLimitReached : Bool := false
  aclRestricted : Bool := false

/-- The loop of `business_application_service_membership_read`. -/
def readMembership (options : ServersOptions) : List PageAnswer → ServiceMembershipRead →
    Except String ServiceMembershipRead
  | [], read => .ok read
  | answer :: rest, read =>
    if options.maxAssociations ≤ read.records.length then
      .ok { read with associationLimitReached := true }
    else if options.maxPages ≤ read.pagesExamined then .ok { read with pageLimitReached := true }
    else
      match answer with
      | .aclRestricted => .ok { read with aclRestricted := true }
      | .failed reason => .error reason
      | .page rows =>
        let room := options.maxAssociations - read.records.length
        if room < rows.length then
          .ok { read with
            pagesExamined := read.pagesExamined + 1
            records := read.records ++ rows.take room
            associationLimitReached := true }
        else readMembership options rest { read with
          pagesExamined := read.pagesExamined + 1
          records := read.records ++ rows }

/-- What a read of associations leaves out, in the report. -/
def Report.markMembershipLimits (report : Report) (read : ServiceMembershipRead) : Report :=
  let report := if read.associationLimitReached then
      (report.update fun summary =>
        { summary with associationLimitReached := true }.markTruncated 1).push
        "svc_ci_assoc" "svc_ci_assoc" "" .fanoutLimitExceeded
        "max_service_membership_associations prevented reading more associations"
    else report
  let report := if read.pageLimitReached then
      (report.update fun summary =>
        { summary with pageLimitReached := true }.markTruncated 1).push
        "svc_ci_assoc" "svc_ci_assoc" "" .fanoutLimitExceeded
        "max_service_membership_pages prevented reading more association pages"
    else report
  report.update fun summary =>
    { summary with associationsExamined := summary.associationsExamined + read.records.length }

/-- A service membership read that is not allowed. -/
def Report.restrictedMembership (report : Report) : Report :=
  (report.update fun summary => { summary with
    aclRestrictedCount := summary.aclRestrictedCount + 1
    serviceMembershipStatus := some "acl_restricted" }).push
    "svc_ci_assoc" "svc_ci_assoc" "" .referenceAclRestricted
    "ACL restricted svc_ci_assoc service membership read"

/-! ## Members -/

/-- The edge from a service to a member. -/
def serviceMemberEdge (depth : Nat) (serviceSysId serverSysId : String) : PathEdge where
  depth
  parentSysId := serviceSysId
  childSysId := serverSysId
  direction := .parentToChild
  relationshipType := ⟨"service_member_of", some "service_member_of"⟩
  edgeSource := .serviceMembership

/-- `business_application_service_membership_paths_for`. -/
def serviceMembershipPathsFor (servicePaths : Chains) (serviceSysId serverSysId : String) :
    List Chain :=
  let chains := (servicePaths.row serviceSysId).getD []
  if chains = [] then [[serviceMemberEdge 1 serviceSysId serverSysId]]
  else chains.map fun chain =>
    chain ++ [serviceMemberEdge (chain.length + 1) serviceSysId serverSysId]

/-- What the loop over the associations has so far. -/
structure MemberState where
  report : Report
  serverIds : List String
  serverPaths : Chains
  examinedMemberCis : List String
  serverClassCache : Table String Bool

section Members

variable (lib : CoreLib) (remote : Remote) (options : ServersOptions) (servicePaths : Chains)

/-- A member CI that was let in. -/
def processMember (m : MemberState) (record : Record) (serviceSysId ciSysId : String) :
    MemberState :=
  match recordText lib record "ci_id.sys_class_name" with
  | none =>
    let report := m.report.update fun summary =>
      { summary with missingCiCount := summary.missingCiCount + 1 }
    { m with
      report := report.push "ci_id.sys_class_name" "svc_ci_assoc" ciSysId
        .referenceResolutionFailed "svc_ci_assoc member CI class could not be read" }
  | some className =>
    let (isServer, cache, report) := classIsServer remote className m.serverClassCache m.report
    let m := { m with serverClassCache := cache, report }
    if isServer then
      { m with
        serverIds := if ciSysId ∈ m.serverIds then m.serverIds else m.serverIds ++ [ciSysId]
        serverPaths := m.serverPaths.put ciSysId ((m.serverPaths.row ciSysId).getD [] ++
          serviceMembershipPathsFor servicePaths serviceSysId ciSysId) }
    else m

/-- The loop over the associations.  A CI is counted, or refused, at its first row. -/
def examineMember (m : MemberState) (record : Record) : MemberState :=
  match referenceSysId lib record "service_id" with
  | none => { m with
      report := m.report.push "service_id" "svc_ci_assoc" "" .referenceResolutionFailed
        "svc_ci_assoc row was missing a readable service_id reference" }
  | some serviceSysId =>
    match referenceSysId lib record "ci_id" with
    | none => { m with
        report := m.report.push "ci_id" "svc_ci_assoc" "" .referenceResolutionFailed
          "svc_ci_assoc row was missing a readable ci_id reference" }
    | some ciSysId =>
      if ciSysId ∈ m.examinedMemberCis then
        processMember lib remote servicePaths m record serviceSysId ciSysId
      else
        let m := { m with examinedMemberCis := ciSysId :: m.examinedMemberCis }
        if options.maxCis ≤ m.report.summary.cisExamined - 1 then
          { m with
            report := m.report.markCiLimit "ci_id" "svc_ci_assoc" ciSysId
              "max_cis prevented examining another service member CI" }
        else
          let report := m.report.update fun summary =>
            { summary with cisExamined := summary.cisExamined + 1 }
          processMember lib remote servicePaths { m with report } record serviceSysId ciSysId

/-- The routes of servers, each with the first row of its server. -/
def attachPaths : List Record → Chains → List (Record × List Chain)
  | [], _ => []
  | server :: rest, paths =>
    (server, (paths.row server.sysId).getD []) :: attachPaths rest (paths.delete server.sysId)

/-- The status of a membership stage that came to its end. -/
def Report.membershipStatus (report : Report) : Report :=
  report.update fun summary => { summary with
    serviceMembershipStatus :=
      if summary.serviceMembershipStatus.isNone then
        if summary.associationLimitReached then some "association_budget_exhausted"
        else if summary.pageLimitReached then some "page_budget_exhausted"
        else some "ok"
      else summary.serviceMembershipStatus }

/-- The read of the members of the services that were met. -/
def serviceMembershipRead (t : TraversalState) : Except String ServiceMembershipRead :=
  readMembership options (remote.associations (t.membershipSeeds.mergeSort (· ≤ ·))) {}

/-- What there is before the first row of the associations. -/
def memberStart (t : TraversalState) (read : ServiceMembershipRead) : MemberState where
  report := (t.report.update fun summary =>
    { summary with
      pagesExamined := summary.pagesExamined + read.pagesExamined }).markMembershipLimits read
  serverIds := []
  serverPaths := Table.empty
  examinedMemberCis := []
  serverClassCache := t.serverClassCache

/-- `business_application_service_membership_servers`. -/
def serviceMembershipServers (t : TraversalState) :
    Except String (List (Record × List Chain) × Report) :=
  if t.membershipSeeds = [] then
    .ok ([], t.report.update fun summary =>
      { summary with serviceMembershipStatus := some "not_attempted" })
  else do
    let read ← serviceMembershipRead remote options t
    if read.aclRestricted then
      let report := t.report.update fun summary =>
        { summary with pagesExamined := summary.pagesExamined + read.pagesExamined }
      return ([], report.restrictedMembership)
    else
      let m := read.records.foldl (examineMember lib remote options t.servicePathsByCi)
        (memberStart t read)
      let (servers, report) ← hydrateServers remote.memberServers m.serverIds m.report
      return (attachPaths servers m.serverPaths, report.membershipStatus)

end Members

/-! ## The outcome of a run -/

/-- `BusinessApplicationServerProvenance`. -/
inductive ServerProvenance where
  | relationship
  | serviceMembership
  | both
deriving DecidableEq

/-- `merge`. -/
def ServerProvenance.merge (a b : ServerProvenance) : ServerProvenance :=
  if a = b then a else .both

/-- `BusinessApplicationServerDiscovery`. -/
structure ServerDiscovery where
  server : Record
  provenance : ServerProvenance
  relationshipPaths : List Chain
  serviceMembershipPaths : List Chain

namespace ServerDiscovery

/-- `add_paths`. -/
def addPaths (discovery : ServerDiscovery) (provenance : ServerProvenance) (paths : List Chain) :
    ServerDiscovery :=
  let discovery := { discovery with provenance := discovery.provenance.merge provenance }
  match provenance with
  | .relationship =>
    { discovery with relationshipPaths := discovery.relationshipPaths ++ paths }
  | .serviceMembership =>
    { discovery with serviceMembershipPaths := discovery.serviceMembershipPaths ++ paths }
  | .both =>
    { discovery with
      relationshipPaths := discovery.relationshipPaths ++ paths
      serviceMembershipPaths := discovery.serviceMembershipPaths ++ paths }

/-- `paths`. -/
def paths (discovery : ServerDiscovery) : List Chain :=
  discovery.relationshipPaths ++ discovery.serviceMembershipPaths

end ServerDiscovery

/-- `merge_business_application_server_discovery`, of discoveries in the order of their ids. -/
def mergeServerDiscovery (server : Record) (provenance : ServerProvenance) (paths : List Chain) :
    List ServerDiscovery → List ServerDiscovery
  | [] => [(ServerDiscovery.mk server provenance [] []).addPaths provenance paths]
  | entry :: rest =>
    if server.sysId = entry.server.sysId then entry.addPaths provenance paths :: rest
    else if server.sysId < entry.server.sysId then
      (ServerDiscovery.mk server provenance [] []).addPaths provenance paths :: entry :: rest
    else entry :: mergeServerDiscovery server provenance paths rest

/-- What a run has: the state after the relationships, the servers among the members, and all the
servers with what is told. -/
structure ServersRun where
  graph : TraversalState
  members : List (Record × List Chain)
  discoveries : List ServerDiscovery
  report : Report

/-- `business_application_servers_with_options`, from the Business Application and the types that
are allowed on. -/
def businessApplicationServers (lib : CoreLib) (remote : Remote) (options : ServersOptions)
    (allowed : List String) (root : String) : Except String ServersRun := do
  let graph ← traverseGraph lib remote options allowed root
  let discoveries := graph.servers.foldl (fun discoveries server =>
    mergeServerDiscovery server .relationship ((graph.pathsByCi.row server.sysId).getD [])
      discoveries) []
  let (members, report) ← serviceMembershipServers lib remote options graph
  let discoveries := members.foldl (fun discoveries member =>
    mergeServerDiscovery member.1 .serviceMembership member.2 discoveries) discoveries
  return { graph, members, discoveries, report }

/-- `servers` of the result. -/
def ServersRun.servers (run : ServersRun) : List Record :=
  run.discoveries.map ServerDiscovery.server

end SnowAgent.Traversal
