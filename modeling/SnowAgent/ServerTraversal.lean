import SnowAgent.RecordCache
import SnowAgent.TableApi

/-! # The servers of a Business Application

From a Business Application the traversal follows the relationships of the CMDB, level by level, in
either direction, and keeps the routes it takes to each CI.  CIs that are servers are collected,
the others are the next frontier.  Application services next to the Business Application are asked
for their members, and the members that are servers are collected as well.

Edges, CIs, levels, associations and pages all have budgets.  What a budget or an access rule cuts
off is counted and flagged in a summary, and told in diagnostics.
-/
namespace SnowAgent.Traversal

open Json Text Core

/-! ## Relationships and routes -/

/-- `BusinessApplicationRelationshipDirection`. -/
inductive RelationshipDirection where
  | parentToChild
  | childToParent
deriving DecidableEq

/-- `BusinessApplicationRelationshipType`. -/
structure RelationshipType where
  value : String
  displayValue : Option String
deriving DecidableEq

/-- `matches_any`. -/
def RelationshipType.matchesAny (type : RelationshipType) (allowed : List String) : Bool :=
  let normalize := fun value => toAsciiLowercase (trim value)
  allowed.isEmpty || allowed.any fun allowed =>
    normalize type.value = normalize allowed ||
      type.displayValue.any fun display => normalize display = normalize allowed

/-- `BusinessApplicationServerPathEdgeSource`. -/
inductive EdgeSource where
  | relationship
  | serviceMembership
deriving DecidableEq

/-- `BusinessApplicationServerPathEdge`. -/
structure PathEdge where
  depth : Nat
  parentSysId : String
  childSysId : String
  direction : RelationshipDirection
  relationshipType : RelationshipType
  edgeSource : EdgeSource
deriving DecidableEq

namespace PathEdge

/-- `from_sys_id`. -/
def fromSysId (edge : PathEdge) : String :=
  match edge.direction with
  | .parentToChild => edge.parentSysId
  | .childToParent => edge.childSysId

/-- `to_sys_id`. -/
def toSysId (edge : PathEdge) : String :=
  match edge.direction with
  | .parentToChild => edge.childSysId
  | .childToParent => edge.parentSysId

end PathEdge

/-- A route: the edges from the Business Application on. -/
abbrev Chain := List PathEdge

/-- `BusinessApplicationRelationshipEdge`. -/
structure RelationshipEdge where
  parentSysId : String
  childSysId : String
  parentClass : Option String
  childClass : Option String
  relationshipType : RelationshipType
deriving DecidableEq

namespace RelationshipEdge

/-- `key`. -/
def key (edge : RelationshipEdge) : String × String × RelationshipType :=
  (edge.parentSysId, edge.childSysId, edge.relationshipType)

/-- `traversal_endpoint`. -/
def traversalEndpoint (edge : RelationshipEdge) (frontier : List String) :
    Option (String × String × RelationshipDirection) :=
  if edge.parentSysId ∈ frontier then some (edge.parentSysId, edge.childSysId, .parentToChild)
  else if edge.childSysId ∈ frontier then some (edge.childSysId, edge.parentSysId, .childToParent)
  else none

/-- `path_edge`. -/
def pathEdge (edge : RelationshipEdge) (depth : Nat) (direction : RelationshipDirection) :
    PathEdge where
  depth
  parentSysId := edge.parentSysId
  childSysId := edge.childSysId
  direction
  relationshipType := edge.relationshipType
  edgeSource := .relationship

end RelationshipEdge

/-! ## The report -/

/-- `ReferenceResolutionReason`, with what the traversal tells. -/
inductive Reason where
  | dictionaryUnavailable
  | referenceNotFound
  | referenceAclRestricted
  | referenceResolutionFailed
  | cycleDetected
  | fanoutLimitExceeded
deriving DecidableEq

/-- `ReferenceResolutionDiagnostic`. -/
structure Diagnostic where
  field : String
  referenceTable : String
  referenceSysId : String
  reason : Reason
  message : String
deriving DecidableEq

/-- `BusinessApplicationServersSummary`, with what a traversal counts. -/
structure ServersSummary where
  relationshipsExamined : Nat := 0
  associationsExamined : Nat := 0
  pagesExamined : Nat := 0
  cisExamined : Nat := 0
  depthLimitReached : Bool := false
  ciLimitReached : Bool := false
  edgeLimitReached : Bool := false
  associationLimitReached : Bool := false
  pageLimitReached : Bool := false
  truncated : Bool := false
  truncatedCount : Nat := 0
  aclRestrictedCount : Nat := 0
  relationshipAclRestrictedCount : Nat := 0
  missingCiCount : Nat := 0
  cycleCount : Nat := 0
  serviceMembershipStatus : Option String := none
deriving DecidableEq

/-- `mark_truncated`. -/
def ServersSummary.markTruncated (summary : ServersSummary) (skipped : Nat) : ServersSummary :=
  { summary with truncated := true, truncatedCount := summary.truncatedCount + skipped }

/-- The summary and the diagnostics. -/
structure Report where
  summary : ServersSummary
  diagnostics : List Diagnostic

namespace Report

/-- `push_business_application_server_diagnostic`. -/
def push (report : Report) (field referenceTable referenceSysId : String) (reason : Reason)
    (message : String) : Report :=
  { report with
    diagnostics := report.diagnostics ++ [⟨field, referenceTable, referenceSysId, reason, message⟩] }

/-- A change of the summary. -/
def update (report : Report) (f : ServersSummary → ServersSummary) : Report :=
  { report with summary := f report.summary }

/-- `mark_business_application_edge_limit`. -/
def markEdgeLimit (report : Report) : Report :=
  if report.summary.edgeLimitReached then report
  else (report.update fun summary => { summary with edgeLimitReached := true }.markTruncated 1).push
    "cmdb_rel_ci" "cmdb_rel_ci" "" .fanoutLimitExceeded
    "max_edges prevented reading more relationships"

/-- A CI that `max_cis` leaves out. -/
def markCiLimit (report : Report) (field table sysId message : String) : Report :=
  (report.update fun summary => { summary with ciLimitReached := true }.markTruncated 1).push
    field table sysId .fanoutLimitExceeded message

/-- A cycle. -/
def countCycle (report : Report) : Report :=
  report.update fun summary => { summary with cycleCount := summary.cycleCount + 1 }

end Report

/-! ## What is read -/

/-- `BusinessApplicationServersOptions`, with what a traversal reads. -/
structure ServersOptions where
  maxDepth : Nat
  maxCis : Nat
  maxEdges : Nat
  maxAssociations : Nat
  maxPages : Nat
  includePaths : Bool
  persist : Bool
  pruneStale : Bool

/-- The answer to the read of a page. -/
inductive PageAnswer where
  | page (records : List Record)
  | aclRestricted
  | failed (reason : String)

/-- The answer to the read of the CIs of a list. -/
inductive ListAnswer where
  | found (records : List Record)
  | aclRestricted
  | failed (reason : String)

/-- A read of one direction. -/
inductive RelationshipField where
  | parent
  | child

/-- What ServiceNow answers in a traversal, by the level where it is asked: the pages that a
paginator has until it is done, classes and servers of CIs, and the ancestors of tables.  Of the
servers it answers those that are asked for. -/
structure Remote where
  relationships : Nat → RelationshipField → List String → Nat → List PageAnswer
  classes : Nat → List String → ListAnswer
  servers : Nat → List String → ListAnswer
  associations : List String → List PageAnswer
  memberServers : List String → ListAnswer
  tableAncestors : String → Option (List String)
  servers_asked : ∀ depth sysIds records, servers depth sysIds = .found records →
    ∀ record ∈ records, record.sysId ∈ sysIds
  memberServers_asked : ∀ sysIds records, memberServers sysIds = .found records →
    ∀ record ∈ records, record.sysId ∈ sysIds

section Records

variable (lib : CoreLib)

/-- `servicenow_reference_sys_id`. -/
def referenceSysId (record : Record) (field : String) : Option String :=
  ((record.getRaw field).orElse fun _ => record.getStr lib field).bind fun value =>
    (normalizeRecordLookupSysId value).toOption

/-- `servicenow_record_text`. -/
def recordText (record : Record) (field : String) : Option String :=
  nonBlank (((record.getDisplay field).orElse fun _ => record.getRaw field).orElse
    fun _ => record.getStr lib field)

/-- `servicenow_record_raw_text`. -/
def recordRawText (record : Record) (field : String) : Option String :=
  nonBlank ((record.getRaw field).orElse fun _ => record.getStr lib field)

/-- `servicenow_record_display_text`. -/
def recordDisplayText (record : Record) (field : String) : Option String :=
  nonBlank (record.getDisplay field)

/-- The relationship of a row, if both its ends can be read. -/
def readRelationshipEdge (record : Record) : Option RelationshipEdge := do
  let parentSysId ← referenceSysId lib record "parent"
  let childSysId ← referenceSysId lib record "child"
  return {
    parentSysId
    childSysId
    parentClass := recordText lib record "parent.sys_class_name"
    childClass := recordText lib record "child.sys_class_name"
    relationshipType := ⟨(recordRawText lib record "type").getD "", recordDisplayText record "type"⟩ }

end Records

/-! ## Reading the relationships of a level -/

/-- `BusinessApplicationDirectionRead`. -/
structure DirectionRead where
  field : RelationshipField
  records : List Record
  edgeLimitReached : Bool
  aclRestricted : Bool

/-- The loop of `business_application_relationship_direction_read`. -/
def readDirection (remaining : Nat) : List PageAnswer → DirectionRead →
    Except String DirectionRead
  | [], read => .ok read
  | answer :: rest, read =>
    if remaining ≤ read.records.length then .ok { read with edgeLimitReached := true }
    else
      match answer with
      | .aclRestricted => .ok { read with aclRestricted := true }
      | .failed reason => .error reason
      | .page rows =>
        let room := remaining - read.records.length
        if room < rows.length then
          .ok { read with
            records := read.records ++ rows.take room
            edgeLimitReached := true }
        else readDirection remaining rest { read with records := read.records ++ rows }

/-- What the read of a direction tells. -/
def fieldName : RelationshipField → String
  | .parent => "parent"
  | .child => "child"

/-- `merge_business_application_direction_read`: the budget that is left, the report and the rows. -/
def mergeDirectionRead (read : DirectionRead) (budget : Nat) (report : Report)
    (records : List Record) : Nat × Report × List Record :=
  let report := if read.aclRestricted then
      (report.update fun summary => { summary with
        aclRestrictedCount := summary.aclRestrictedCount + 1
        relationshipAclRestrictedCount := summary.relationshipAclRestrictedCount + 1 }).push
        (fieldName read.field) "cmdb_rel_ci" "" .referenceAclRestricted
        "ACL restricted cmdb_rel_ci traversal"
    else report
  let overBudget : Bool := budget < read.records.length
  let rows := read.records.take budget
  let report := if overBudget || read.edgeLimitReached then report.markEdgeLimit else report
  (budget - rows.length,
    report.update fun summary => { summary with
      relationshipsExamined := summary.relationshipsExamined + rows.length },
    records ++ rows)

/-- The relationships of rows, each once. -/
def readEdges (lib : CoreLib) : List Record → Report → List RelationshipEdge →
    List RelationshipEdge × Report
  | [], report, edges => (edges, report)
  | record :: rest, report, edges =>
    match readRelationshipEdge lib record with
    | none => readEdges lib rest (report.push "cmdb_rel_ci" "cmdb_rel_ci" ""
        .referenceResolutionFailed
        "relationship row was missing a readable parent or child reference") edges
    | some edge =>
      if edges.any (·.key = edge.key) then readEdges lib rest report edges
      else readEdges lib rest report (edges ++ [edge])

/-- The rows of the relationships of a level, in both directions. -/
def relationshipRecords (remote : Remote) (options : ServersOptions) (depth : Nat)
    (frontier : List String) (report : Report) : Except String (List Record × Report) :=
  if frontier = [] ∨ report.summary.edgeLimitReached then .ok ([], report)
  else
    let remaining := options.maxEdges - report.summary.relationshipsExamined
    if remaining = 0 then .ok ([], report.markEdgeLimit)
    else do
      let parent ← readDirection remaining (remote.relationships depth .parent frontier remaining)
        ⟨.parent, [], false, false⟩
      let child ← readDirection remaining (remote.relationships depth .child frontier remaining)
        ⟨.child, [], false, false⟩
      let (budget, report, records) := mergeDirectionRead parent remaining report []
      let (_, report, records) := mergeDirectionRead child budget report records
      return (records, report)

/-- `business_application_relationship_level`. -/
def relationshipLevel (lib : CoreLib) (remote : Remote) (options : ServersOptions) (depth : Nat)
    (frontier : List String) (report : Report) : Except String (List RelationshipEdge × Report) := do
  let (records, report) ← relationshipRecords remote options depth frontier report
  return readEdges lib records report []

/-! ## Routes -/

/-- Every recorded route to a CI. -/
abbrev Chains := Table String (List Chain)

/-- `extended_path_chains`. -/
def extendedPathChains (paths : Chains) (parentSysId : String) (edge : PathEdge) : List Chain :=
  let chains := (paths.row parentSysId).getD []
  if chains = [] then [[edge]]
  else (chains.filter fun chain => chain.head?.all (·.direction = edge.direction)).map (· ++ [edge])

/-- `extend_path_chains`, if there is a route. -/
def extendPathChains (paths : Chains) (parentSysId childSysId : String) (edge : PathEdge) :
    Option Chains :=
  let chains := extendedPathChains paths parentSysId edge
  if chains = [] then none
  else some (paths.put childSysId ((paths.row childSysId).getD [] ++ chains))

/-- `chain_node_sys_ids`. -/
def chainNodes (chain : Chain) : List String :=
  (chain.head?.map PathEdge.fromSysId).toList ++ chain.map PathEdge.toSysId

/-- `path_chains_contain_ancestor`. -/
def containAncestor (chains : Option (List Chain)) (adjacent current : String) : Bool :=
  match chains with
  | none => true
  | some chains =>
    chains.isEmpty || adjacent = current || chains.any fun chain => adjacent ∈ chainNodes chain

/-! ## Classes -/

/-- `canonical_server_table_alias`. -/
def canonicalServerTableAlias (value : String) : String :=
  let name := String.ofList ((toAsciiLowercase (trim value)).toList.map fun c =>
    if c = ' ' ∨ c = '-' then '_' else c)
  if name ∈ ["server", "servers"] then "server"
  else if name ∈ ["linux", "linux_server", "linux_servers"] then "cmdb_ci_linux_server"
  else if name ∈ ["windows", "window", "windows_server", "windows_servers", "win_server",
      "win_servers"] then "cmdb_ci_win_server"
  else name

/-- `is_server_class`. -/
def isServerClass (value : String) : Bool :=
  let name := canonicalServerTableAlias value
  decide (name ∈ ["cmdb_ci_server", "cmdb_ci_linux_server", "cmdb_ci_win_server",
    "cmdb_ci_unix_server", "cmdb_ci_aix_server", "cmdb_ci_solaris_server", "cmdb_ci_hpux_server",
    "cmdb_ci_osx_server", "cmdb_ci_esx_server", "cmdb_ci_ucs_blade", "cmdb_ci_mainframe_hardware",
    "cmdb_ci_mainframe_lpar"]) ||
    (startsWithChars name.toList "cmdb_ci_".toList && endsWith name "_server")

/-- `is_application_service_class`. -/
def isApplicationServiceClass (className : Option String) : Bool :=
  (nonBlank className).any fun name =>
    let name := toAsciiLowercase name
    name = "cmdb_ci_service" || startsWithChars name.toList "cmdb_ci_service_".toList ||
      Text.contains name "_application_service"

/-- `business_application_class_is_server`, with the memo of the traversal. -/
def classIsServer (remote : Remote) (className : String) (memo : Table String Bool)
    (report : Report) : Bool × Table String Bool × Report :=
  if isServerClass className then (true, memo, report)
  else
    match memo.row className with
    | some isServer => (isServer, memo, report)
    | none =>
      match remote.tableAncestors className with
      | some ancestors =>
        let isServer := decide ("cmdb_ci_server" ∈ ancestors)
        (isServer, memo.put className isServer, report)
      | none => (false, memo.put className false,
          report.push "sys_class_name" "sys_db_object" "" .dictionaryUnavailable
            "sys_db_object super_class lookup failed; class not classified as server")


/-! ## The state of a traversal -/

/-- What a traversal has so far.  The CIs that are new in a level are collected while its
relationships are examined. -/
structure TraversalState where
  report : Report
  visited : List String
  ciClasses : Table String String
  pathsByCi : Chains
  servicePathsByCi : Chains
  membershipSeeds : List String
  servers : List Record
  serverClassCache : Table String Bool
  frontier : List String
  newlySeen : List String

/-- A traversal that starts at a Business Application. -/
def TraversalState.start (root : String) : TraversalState where
  report := ⟨{}, []⟩
  visited := [root]
  ciClasses := Table.empty.put root "cmdb_ci_business_app"
  pathsByCi := Table.empty.put root [[]]
  servicePathsByCi := Table.empty.put root [[]]
  membershipSeeds := []
  servers := []
  serverClassCache := Table.empty
  frontier := [root]
  newlySeen := []

/-- A cycle, and what is told of it. -/
def TraversalState.cycle (t : TraversalState) (field adjacent message : String) : TraversalState :=
  { t with report := t.report.countCycle.push field field adjacent .cycleDetected message }

/-! ## Examining the relationships of a level -/

/-- `entry(sys_id).or_insert` of the class that a relationship tells. -/
def noteClass (classes : Table String String) (sysId : String) (className : Option String) :
    Table String String :=
  match className, classes.row sysId with
  | some className, none => classes.put sysId className
  | _, _ => classes

/-- `BUSINESS_APPLICATION_SERVICE_DISCOVERY_RELATIONSHIP_TYPES`. -/
def serviceDiscoveryRelationshipTypes : List String := ["Consumes::Consumed by", "Uses::Used by"]

/-- An application service next to the Business Application, which is to be asked for its
members. -/
def discoverService (depth : Nat) (frontier : List String) (t : TraversalState)
    (edge : RelationshipEdge) : TraversalState :=
  if depth = 1 ∧ edge.relationshipType.matchesAny serviceDiscoveryRelationshipTypes then
    match edge.traversalEndpoint frontier with
    | none => t
    | some (current, adjacent, direction) =>
      let adjacentClass := if adjacent = edge.parentSysId then edge.parentClass
        else edge.childClass
      if isApplicationServiceClass adjacentClass then
        match extendPathChains t.servicePathsByCi current adjacent
            (edge.pathEdge depth direction) with
        | some paths => { t with
            servicePathsByCi := paths
            membershipSeeds := if adjacent ∈ t.membershipSeeds then t.membershipSeeds
              else t.membershipSeeds ++ [adjacent] }
        | none => t.cycle "cmdb_rel_ci" adjacent
            "service discovery skipped a mixed-direction route"
      else t
  else t

section Examining

variable (options : ServersOptions) (depth : Nat)

/-- A relationship with a CI that was visited already: a way back, or another route to it. -/
def revisit (t : TraversalState) (edge : RelationshipEdge) (current adjacent : String)
    (direction : RelationshipDirection) : TraversalState :=
  if containAncestor (t.pathsByCi.row current) adjacent current then
    t.cycle "cmdb_ci" adjacent "relationship traversal skipped a CI that was already visited"
  else if options.includePaths || options.persist then
    match extendPathChains t.pathsByCi current adjacent (edge.pathEdge depth direction) with
    | some paths => { t with pathsByCi := paths }
    | none => t.cycle "cmdb_rel_ci" adjacent
        "relationship traversal skipped a mixed-direction alternate route"
  else { t with report := t.report.countCycle }

/-- A CI for which there is no budget. -/
def refuseCi (t : TraversalState) (adjacent : String) : TraversalState :=
  { t with report := t.report.markCiLimit "cmdb_ci" "cmdb_ci" adjacent
             "max_cis prevented expanding another CI" }

/-- A CI that is met for the first time. -/
def discoverCi (t : TraversalState) (edge : RelationshipEdge) (current adjacent : String)
    (direction : RelationshipDirection) : TraversalState :=
  match extendPathChains t.pathsByCi current adjacent (edge.pathEdge depth direction) with
  | some paths => { t with
      pathsByCi := paths
      visited := t.visited ++ [adjacent]
      newlySeen := t.newlySeen ++ [adjacent] }
  | none => t.cycle "cmdb_rel_ci" adjacent "relationship traversal skipped a mixed-direction route"

/-- A relationship of an allowed type. -/
def followRelationship (frontier : List String) (t : TraversalState) (edge : RelationshipEdge) :
    TraversalState :=
  match edge.traversalEndpoint frontier with
  | none => { t with
      report := t.report.push "cmdb_rel_ci" "cmdb_rel_ci" "" .referenceResolutionFailed
        "relationship did not include a current frontier endpoint" }
  | some (current, adjacent, direction) =>
    if adjacent ∈ t.visited then revisit options depth t edge current adjacent direction
    else if options.maxCis ≤ t.visited.length - 1 then refuseCi t adjacent
    else discoverCi depth t edge current adjacent direction

/-- What is noted of a relationship of any type. -/
def noteRelationship (frontier : List String) (t : TraversalState) (edge : RelationshipEdge) :
    TraversalState :=
  let classes := noteClass t.ciClasses edge.parentSysId edge.parentClass
  discoverService depth frontier
    { t with ciClasses := noteClass classes edge.childSysId edge.childClass } edge

/-- The loop over the relationships of a level. -/
def examineRelationship (allowed : List String) (frontier : List String) (t : TraversalState)
    (edge : RelationshipEdge) : TraversalState :=
  let t := noteRelationship depth frontier t edge
  if edge.relationshipType.matchesAny allowed then
    followRelationship options depth frontier t edge
  else t

end Examining

/-! ## Classes and servers of the CIs of a level -/

/-- Rows of CIs: their classes, and the CIs they are of. -/
def noteCiClasses (lib : CoreLib) : List Record → Table String String → List String →
    Table String String × List String
  | [], classes, found => (classes, found)
  | record :: rest, classes, found =>
    match referenceSysId lib record "sys_id", recordText lib record "sys_class_name" with
    | some sysId, some className =>
      noteCiClasses lib rest (classes.put sysId className) (sysId :: found)
    | _, _ => noteCiClasses lib rest classes found

/-- A CI for which there is no readable row. -/
def Report.missingCi (report : Report) (field table sysId message : String) : Report :=
  (report.update fun summary => { summary with missingCiCount := summary.missingCiCount + 1 }).push
    field table sysId .referenceNotFound message

/-- CIs that may not be read. -/
def Report.restrictedCis (report : Report) (field table message : String)
    (sysIds : List String) : Report :=
  sysIds.foldl (fun report sysId => report.push field table sysId .referenceAclRestricted message)
    (report.update fun summary => { summary with
      aclRestrictedCount := summary.aclRestrictedCount + sysIds.length })

/-- `business_application_hydrate_ci_classes`. -/
def hydrateCiClasses (lib : CoreLib) (remote : Remote) (depth : Nat) (t : TraversalState) :
    Except String TraversalState :=
  let pending := t.newlySeen.filter fun sysId => (t.ciClasses.row sysId).isNone
  if pending = [] then .ok t
  else
    match remote.classes depth pending with
    | .failed reason => .error reason
    | .aclRestricted => .ok { t with
        report := t.report.restrictedCis "sys_class_name" "cmdb_ci"
          "ACL restricted cmdb_ci class read" pending }
    | .found records =>
      let (classes, found) := noteCiClasses lib records t.ciClasses []
      .ok { t with
        ciClasses := classes
        report := (pending.filter (· ∉ found)).foldl (fun report sysId =>
          report.missingCi "sys_class_name" "cmdb_ci" sysId "CI class could not be read")
          t.report }

/-- The new CIs that are servers, and the other ones that have a class. -/
def classifyCis (remote : Remote) : List String → List String → List String → TraversalState →
    List String × List String × TraversalState
  | [], serverIds, nextFrontier, t => (serverIds, nextFrontier, t)
  | sysId :: rest, serverIds, nextFrontier, t =>
    match t.ciClasses.row sysId with
    | none => classifyCis remote rest serverIds nextFrontier t
    | some className =>
      let (isServer, cache, report) := classIsServer remote className t.serverClassCache t.report
      let t := { t with serverClassCache := cache, report }
      if isServer then classifyCis remote rest (serverIds ++ [sysId]) nextFrontier t
      else classifyCis remote rest serverIds (nextFrontier ++ [sysId]) t

/-- `business_application_hydrate_servers`, of what is answered for CIs. -/
def hydrateServers (answer : List String → ListAnswer) (sysIds : List String) (report : Report) :
    Except String (List Record × Report) :=
  let unique := sysIds.eraseDups
  if unique = [] then .ok ([], report)
  else
    match answer unique with
    | .failed reason => .error reason
    | .aclRestricted => .ok ([], report.restrictedCis "sys_id" "cmdb_ci_server"
        "ACL restricted server CI read" unique)
    | .found records =>
      .ok (records, (unique.filter (· ∉ records.map Record.sysId)).foldl (fun report sysId =>
        report.missingCi "sys_id" "cmdb_ci_server" sysId "server CI could not be read") report)

/-- `entry(sys_id).or_insert` of a server. -/
def noteServer (servers : List Record) (server : Record) : List Record :=
  if servers.any (·.sysId = server.sysId) then servers else servers ++ [server]

/-! ## The levels -/

section Levels

variable (lib : CoreLib) (remote : Remote) (options : ServersOptions) (allowed : List String)

/-- The relationships of a level and what they lead to, before any CI of it is read. -/
def examineLevel (depth : Nat) (t : TraversalState) : Except String TraversalState := do
  let (relationships, report) ← relationshipLevel lib remote options depth t.frontier t.report
  return relationships.foldl (examineRelationship options depth allowed t.frontier)
    { t with report, newlySeen := [] }

/-- The new CIs of a level: servers, and the next frontier. -/
def collectLevel (depth : Nat) (t : TraversalState) : Except String TraversalState := do
  let t ← hydrateCiClasses lib remote depth t
  let (serverIds, nextFrontier, t) := classifyCis remote t.newlySeen [] [] t
  let (servers, report) ← hydrateServers (remote.servers depth) serverIds t.report
  return { t with report, servers := servers.foldl noteServer t.servers, frontier := nextFrontier }

/-- One level of the traversal. -/
def traverseLevel (depth : Nat) (t : TraversalState) : Except String TraversalState := do
  let t ← examineLevel lib remote options allowed depth t
  collectLevel lib remote depth t

/-- The frontier that `max_depth` leaves. -/
def markDepthLimit (t : TraversalState) : TraversalState :=
  let report := t.report.update fun summary =>
    { summary with depthLimitReached := true }.markTruncated t.frontier.length
  { t with
    report := report.push "cmdb_rel_ci" "cmdb_rel_ci" "" .fanoutLimitExceeded
      "max_depth prevented expanding the next BFS frontier" }

/-- Whether there is no further level. -/
def TraversalState.finished (t : TraversalState) : Prop :=
  t.frontier = [] ∨ t.report.summary.edgeLimitReached ∨ t.report.summary.ciLimitReached

instance (t : TraversalState) : Decidable t.finished :=
  inferInstanceAs (Decidable (_ ∨ _ ∨ _))

/-- The loop over the levels, by how many there may still be. -/
def traverseLevels : Nat → Nat → TraversalState → Except String TraversalState
  | 0, _, t => .ok t
  | left + 1, depth, t =>
    if t.finished then .ok t
    else do
      let next ← traverseLevel lib remote options allowed depth t
      if depth = options.maxDepth ∧ next.frontier ≠ [] then return markDepthLimit next
      else traverseLevels left (depth + 1) next

/-- The traversal of the relationships, with the CIs it has counted. -/
def traverseGraph (root : String) : Except String TraversalState := do
  let t ← traverseLevels lib remote options allowed options.maxDepth 1 (TraversalState.start root)
  return { t with report := t.report.update fun summary =>
    { summary with cisExamined := t.visited.length } }

end Levels

end SnowAgent.Traversal
