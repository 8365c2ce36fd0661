import Mathlib.Data.Prod.Lex
import Mathlib.Data.String.Basic
import SnowAgent.KnowledgeSync
import SnowAgent.ServerMemberships
import SnowAgent.TableApi

/-! # The two views of the memberships

The servers of a Business Application and the Business Applications of a server are listed from one
table of memberships.  Each view resolves its own end first and looks up the other end of every
membership; a membership is shown if both ends are and it is not tombstoned itself, unless what is
tombstoned is asked for.
-/
namespace SnowAgent.Core

open Json Text
open Knowledge (RecordLifecycle)

/-! ## The store -/

/-- `RecordRow`, with the columns its lifecycle is made of. -/
structure ViewedRow extends RecordRow where
  tombstonedAt : Option DateTime
  prunedAt : Option DateTime

/-- `lifecycle`. -/
def ViewedRow.lifecycle (row : ViewedRow) : RecordLifecycle :=
  if row.prunedAt.isSome then .pruned
  else if row.tombstonedAt.isSome || !row.inScope then .tombstoned
  else .active

/-- `record_visible_for_cached_relationship_lookup`. -/
def recordVisibleForCachedRelationshipLookup (row : ViewedRow) (includeTombstoned : Bool) : Bool :=
  if row.lifecycle = .pruned then false
  else includeTombstoned || decide (row.lifecycle = .active)

/-- The rows of records and of memberships, and the files of the vault. -/
structure MembershipStore where
  records : List ViewedRow
  memberships : List StoredMembership
  files : Table String String
  keys : (records.map (·.sysId)).Nodup
  memberKeys : (memberships.map StoredMembership.key).Nodup

/-- What the reads of the database answer: the row of a `sys_id`, the children of a record, the
memberships, and the status of the inventory of a Business Application. -/
structure ViewIO where
  record : String → Except String Unit
  children : String → Except String Unit
  memberships : Except String Unit
  health : String → Except String (Option String)

/-- How the paths of a membership are read. -/
structure PathsLib where
  Paths : Type
  parse : String → Except String Paths

section

variable (lib : CoreLib) (paths : PathsLib) (store : MembershipStore) (io : ViewIO)

/-- `materialize_record`. -/
def MembershipStore.materialize (row : ViewedRow) : Except String CachedRecord :=
  match loadRecordFromVault lib store.files row.toRecordRow with
  | some record => .ok record
  | none => (io.children row.sysId).map fun _ => materializeRecordFromJson row.toRecordRow

/-- `get_record_by_sys_id`. -/
def MembershipStore.getRecordBySysId (sysId : String) : Option ViewedRow :=
  store.records.find? fun row => row.sysId = sysId

/-- `cached_record_by_sys_id`. -/
def MembershipStore.cachedRecordBySysId (sysId : String) (resourceType : ResourceType)
    (includeTombstoned : Bool) : Except String (Option CachedRecord) :=
  match io.record sysId with
  | .error err => .error err
  | .ok () =>
    match store.getRecordBySysId sysId with
    | none => .ok none
    | some row =>
      if row.resourceType ≠ resourceType ∨
          recordVisibleForCachedRelationshipLookup row includeTombstoned = false then .ok none
      else (store.materialize lib io row).map some

/-- `list_business_application_server_memberships_for_ba`. -/
def MembershipStore.membershipsForBa (baSysId : String) (includeTombstoned : Bool) :
    List StoredMembership :=
  (store.memberships.filter fun m =>
    decide (m.baSysId = baSysId) && (includeTombstoned || m.live)).mergeSort fun a b =>
      toLex (a.minDepth, toLex (a.serverTable, toLex (a.serverSysId, a.provenance))) ≤
        toLex (b.minDepth, toLex (b.serverTable, toLex (b.serverSysId, b.provenance)))

/-- `list_business_application_server_memberships_for_server`. -/
def MembershipStore.membershipsForServer (serverSysId : String) (includeTombstoned : Bool) :
    List StoredMembership :=
  (store.memberships.filter fun m =>
    decide (m.serverSysId = serverSysId) && (includeTombstoned || m.live)).mergeSort fun a b =>
      toLex (a.minDepth, toLex (a.baSysId, a.provenance)) ≤
        toLex (b.minDepth, toLex (b.baSysId, b.provenance))

/-! ## Names -/

/-- `server_field_text`. -/
def serverFieldText (record : CachedRecord) (field : String) : Option String :=
  (record.fields.get field).bind fun value => nonBlank (some (value.displayValue.getD value.value))

/-- A short description that is not blank, or else the `sys_id`. -/
def describedName (record : CachedRecord) : String :=
  if trim record.shortDescription ≠ "" then record.shortDescription else record.sysId

/-- `server_name`. -/
def serverName (record : CachedRecord) : String :=
  (serverFieldText record "name").getD (describedName record)

/-- `business_application_name`. -/
def businessApplicationName (record : CachedRecord) : String :=
  (((record.fields.get "name").map fun value => value.displayValue.getD value.value).filter
    fun name => trim name ≠ "").getD (describedName record)

/-! ## The views -/

/-- What a view tells of a membership. -/
structure MembershipFacts where
  provenance : String
  minDepth : Nat
  paths : paths.Paths
  tombstonedAt : Option Int

/-- `CachedBusinessApplicationServer`. -/
structure CachedBusinessApplicationServer extends MembershipFacts paths where
  server : CachedRecord
  serverTable : String

/-- `CachedBusinessApplicationForServer`. -/
structure CachedBusinessApplicationForServer extends MembershipFacts paths where
  businessApplication : CachedRecord
  inventoryHealth : Option String

/-- What is told of a row; its paths may not be readable. -/
def membershipFacts (m : StoredMembership) : Except String (MembershipFacts paths) :=
  (paths.parse m.pathsJson).map fun read => ⟨m.provenance, m.minDepth.toNat, read, m.tombstonedAt⟩

/-- The entries of some memberships, less those that are passed over, up to the first failure. -/
def collectEntries {Entry : Type} (entry : StoredMembership → Except String (Option Entry)) :
    List StoredMembership → Except String (List Entry)
  | [] => .ok []
  | m :: rest =>
    match entry m with
    | .error err => .error err
    | .ok none => collectEntries entry rest
    | .ok (some found) => (collectEntries entry rest).map (found :: ·)

/-- One membership of `business_application_servers_cached`. -/
def serverEntry (includeTombstoned : Bool) (m : StoredMembership) :
    Except String (Option (CachedBusinessApplicationServer paths)) :=
  match store.cachedRecordBySysId lib io m.serverSysId .server includeTombstoned with
  | .error err => .error err
  | .ok none => .ok none
  | .ok (some server) => (membershipFacts paths m).map fun facts =>
    some { facts with server := server, serverTable := m.serverTable }

/-- One membership of `business_applications_for_server`. -/
def applicationEntry (includeTombstoned : Bool) (m : StoredMembership) :
    Except String (Option (CachedBusinessApplicationForServer paths)) :=
  match store.cachedRecordBySysId lib io m.baSysId .businessApplication includeTombstoned with
  | .error err => .error err
  | .ok none => .ok none
  | .ok (some businessApplication) =>
    match io.health m.baSysId with
    | .error err => .error err
    | .ok health => (membershipFacts paths m).map fun facts =>
      some { facts with businessApplication := businessApplication, inventoryHealth := health }

/-- The order of the servers of a Business Application. -/
def serverOrder (a b : CachedBusinessApplicationServer paths) : Bool :=
  toLex (a.minDepth, toLex (serverName a.server, toLex (a.server.sysId, a.provenance))) ≤
    toLex (b.minDepth, toLex (serverName b.server, toLex (b.server.sysId, b.provenance)))

/-- The order of the Business Applications of a server. -/
def applicationOrder (a b : CachedBusinessApplicationForServer paths) : Bool :=
  toLex (a.minDepth, toLex (businessApplicationName a.businessApplication,
      toLex (a.businessApplication.sysId, a.provenance))) ≤
    toLex (b.minDepth, toLex (businessApplicationName b.businessApplication,
      toLex (b.businessApplication.sysId, b.provenance)))

/-- `validate`, of parameters that give the `sys_id` alone. -/
def sysIdSelector (missing sysId : String) : Except String String :=
  match nonBlank (some sysId) with
  | none => .error missing
  | some text => normalizeRecordLookupSysId text

/-- The servers that are listed for a Business Application. -/
def serversOf (ba : CachedRecord) (includeTombstoned : Bool) :
    Except String (List (CachedBusinessApplicationServer paths)) := do
  io.memberships
  let _ ← io.health ba.sysId
  let servers ← collectEntries (serverEntry lib paths store io includeTombstoned)
    (store.membershipsForBa ba.sysId includeTombstoned)
  return servers.mergeSort (serverOrder paths)

/-- The Business Applications that are listed for a server. -/
def applicationsOf (server : CachedRecord) (includeTombstoned : Bool) :
    Except String (List (CachedBusinessApplicationForServer paths)) := do
  io.memberships
  let applications ← collectEntries (applicationEntry lib paths store io includeTombstoned)
    (store.membershipsForServer server.sysId includeTombstoned)
  return applications.mergeSort (applicationOrder paths)

/-- `business_application_servers_cached` by `sys_id`: the servers that are listed, if the Business
Application is found. -/
def businessApplicationServersCached (sysId : String) (includeTombstoned : Bool) :
    Except String (Option (List (CachedBusinessApplicationServer paths))) := do
  let selected ← sysIdSelector "provide exactly one of `number`, `sys_id`, or `name`" sysId
  let found ← store.cachedRecordBySysId lib io selected .businessApplication includeTombstoned
  match found with
  | none => return none
  | some ba => (serversOf lib paths store io ba includeTombstoned).map some

/-- `business_applications_for_server` by `sys_id`: the Business Applications that are listed, if the
server is found. -/
def businessApplicationsForServer (sysId : String) (includeTombstoned : Bool) :
    Except String (Option (List (CachedBusinessApplicationForServer paths))) := do
  let selected ← sysIdSelector "provide exactly one of `sys_id`, `name`, or `ip_address`" sysId
  let found ← store.cachedRecordBySysId lib io selected .server includeTombstoned
  match found with
  | none => return none
  | some server => (applicationsOf lib paths store io server includeTombstoned).map some

/-! ## What the views have to tell -/

/-- A record of some type is there and visible. -/
def MembershipStore.visible (includeTombstoned : Bool) (resourceType : ResourceType)
    (sysId : String) : Bool :=
  (store.getRecordBySysId sysId).any fun row => decide (row.resourceType = resourceType) &&
    recordVisibleForCachedRelationshipLookup row includeTombstoned

/-- A membership is shown: both its ends are visible, and so is the row itself. -/
def MembershipStore.shown (includeTombstoned : Bool) (m : StoredMembership) : Bool :=
  (includeTombstoned || m.live) &&
    (store.visible includeTombstoned .businessApplication m.baSysId &&
      store.visible includeTombstoned .server m.serverSysId)

/-- The file of a row, if it can be read, is that of its record. -/
def MembershipStore.OwnFiles : Prop :=
  ∀ row ∈ store.records, ∀ record,
    loadRecordFromVault lib store.files row.toRecordRow = some record → record.sysId = row.sysId

/-- The two views tell the same of one Business Application and one server. -/
def SameFacts (b s : String) (servers : List (CachedBusinessApplicationServer paths))
    (applications : List (CachedBusinessApplicationForServer paths)) : Prop :=
  ∀ facts : MembershipFacts paths,
    (∃ e ∈ servers, e.server.sysId = s ∧ e.toMembershipFacts = facts) ↔
      ∃ e ∈ applications, e.businessApplication.sysId = b ∧ e.toMembershipFacts = facts

/-- **The views are inverse**: each lists the memberships that are shown, each of them once, and the
two tell the same of the pair. -/
structure InverseViews (includeTombstoned : Bool) (b s : String)
    (servers : List (CachedBusinessApplicationServer paths))
    (applications : List (CachedBusinessApplicationForServer paths)) : Prop where
  servers_once : (servers.map fun e => (e.server.sysId, Except.ok e.toMembershipFacts)).Perm
    ((store.memberships.filter fun m =>
      decide (m.baSysId = b) && store.shown includeTombstoned m).map fun m =>
        (m.serverSysId, membershipFacts paths m))
  applications_once :
    (applications.map fun e => (e.businessApplication.sysId, Except.ok e.toMembershipFacts)).Perm
      ((store.memberships.filter fun m =>
        decide (m.serverSysId = s) && store.shown includeTombstoned m).map fun m =>
          (m.baSysId, membershipFacts paths m))
  same : SameFacts paths b s servers applications

end

/-! ## One entry -/

section

variable {lib : CoreLib} {paths : PathsLib} {store : MembershipStore} {io : ViewIO}
variable {includeTombstoned : Bool} {row : ViewedRow}

theorem getRecordBySysId_some {sysId : String}
    (h : store.getRecordBySysId sysId = some row) : row ∈ store.records ∧ row.sysId = sysId :=
  ⟨List.mem_of_find?_eq_some h, by simpa using List.find?_some h⟩

theorem materialize_sysId (hown : store.OwnFiles lib) {record : CachedRecord}
    (hrow : row ∈ store.records) (h : store.materialize lib io row = .ok record) :
    record.sysId = row.sysId := by
  unfold MembershipStore.materialize at h
  rcases hload : loadRecordFromVault lib store.files row.toRecordRow with _ | read
  · rw [hload] at h
    obtain ⟨-, -, rfl⟩ := map_eq_ok_iff.mp h
    rfl
  · rw [hload] at h
    cases h
    exact hown row hrow record hload

/-- **The record of a `sys_id`**: it is found if and only if it is visible. -/
theorem cachedRecord_ok (hown : store.OwnFiles lib) {sysId : String} {resourceType : ResourceType}
    {found : Option CachedRecord}
    (h : store.cachedRecordBySysId lib io sysId resourceType includeTombstoned = .ok found) :
    found.isSome = store.visible includeTombstoned resourceType sysId ∧
      ∀ record ∈ found, record.sysId = sysId := by
  unfold MembershipStore.cachedRecordBySysId at h
  split at h
  · cases h
  · rw [MembershipStore.visible]
    rcases hrow : store.getRecordBySysId sysId with _ | row
    · rw [hrow] at h
      cases h
      exact ⟨rfl, fun _ hmem => by cases hmem⟩
    · obtain ⟨hmem, hid⟩ := getRecordBySysId_some hrow
      rw [hrow] at h
      rw [Option.any_some]
      dsimp only at h
      split_ifs at h with hhidden
      · cases h
        refine ⟨?_, fun _ hnone => by cases hnone⟩
        rcases hhidden with htype | hvisible
        · rw [decide_eq_false htype]
          rfl
        · rw [hvisible, Bool.and_false]
          rfl
      · obtain ⟨htype, hvisible⟩ := not_or.mp hhidden
        obtain ⟨record, hrecord, rfl⟩ := map_eq_ok_iff.mp h
        refine ⟨?_, fun _ hsome => ?_⟩
        · rw [decide_eq_true (not_not.mp htype), Bool.not_eq_false _ |>.mp hvisible]
          rfl
        · cases hsome
          rw [materialize_sysId hown hmem hrecord, hid]

/-- **The entries of some memberships**, if each is there for a membership that is shown and tells
what is to be told of it. -/
theorem collectEntries_map {Entry Key : Type} {shows : StoredMembership → Bool}
    {entry : StoredMembership → Except String (Option Entry)} {key : Entry → Key}
    {told : StoredMembership → Key}
    (hentry : ∀ m found, entry m = .ok found → found.isSome = shows m ∧ ∀ e ∈ found, key e = told m)
    {members : List StoredMembership} {entries : List Entry}
    (h : collectEntries entry members = .ok entries) :
    entries.map key = (members.filter shows).map told := by
  induction members generalizing entries with
  | nil =>
    cases h
    rfl
  | cons m rest ih =>
    unfold collectEntries at h
    rcases hm : entry m with err | _ | found
    · rw [hm] at h
      cases h
    · rw [hm] at h
      obtain ⟨hshows, -⟩ := hentry m none hm
      rw [List.filter_cons, if_neg (by simp [← hshows])]
      exact ih h
    · rw [hm] at h
      obtain ⟨hshows, hkey⟩ := hentry m (some found) hm
      obtain ⟨others, hothers, rfl⟩ := map_eq_ok_iff.mp h
      rw [List.filter_cons, if_pos (by simp [← hshows]), List.map_cons, List.map_cons,
        hkey found rfl, ih hothers]

theorem serverEntry_ok (hown : store.OwnFiles lib) (m : StoredMembership)
    (found : Option (CachedBusinessApplicationServer paths))
    (h : serverEntry lib paths store io includeTombstoned m = .ok found) :
    found.isSome = store.visible includeTombstoned .server m.serverSysId ∧
      ∀ e ∈ found, (e.server.sysId, Except.ok e.toMembershipFacts) =
        (m.serverSysId, membershipFacts paths m) := by
  unfold serverEntry at h
  rcases hfar : store.cachedRecordBySysId lib io m.serverSysId .server includeTombstoned with
    err | _ | server
  · rw [hfar] at h
    cases h
  · rw [hfar] at h
    cases h
    exact ⟨(cachedRecord_ok hown hfar).1, fun _ hmem => by cases hmem⟩
  · rw [hfar] at h
    obtain ⟨hvisible, hid⟩ := cachedRecord_ok hown hfar
    obtain ⟨facts, hfacts, rfl⟩ := map_eq_ok_iff.mp h
    refine ⟨hvisible, fun e hmem => ?_⟩
    cases hmem
    rw [hid server rfl, hfacts]

theorem applicationEntry_ok (hown : store.OwnFiles lib) (m : StoredMembership)
    (found : Option (CachedBusinessApplicationForServer paths))
    (h : applicationEntry lib paths store io includeTombstoned m = .ok found) :
    found.isSome = store.visible includeTombstoned .businessApplication m.baSysId ∧
      ∀ e ∈ found, (e.businessApplication.sysId, Except.ok e.toMembershipFacts) =
        (m.baSysId, membershipFacts paths m) := by
  unfold applicationEntry at h
  rcases hfar : store.cachedRecordBySysId lib io m.baSysId .businessApplication
    includeTombstoned with err | _ | application
  · rw [hfar] at h
    cases h
  · rw [hfar] at h
    cases h
    exact ⟨(cachedRecord_ok hown hfar).1, fun _ hmem => by cases hmem⟩
  · rw [hfar] at h
    obtain ⟨hvisible, hid⟩ := cachedRecord_ok hown hfar
    dsimp only at h
    rcases hhealth : io.health m.baSysId with err | health
    · rw [hhealth] at h
      cases h
    · rw [hhealth] at h
      obtain ⟨facts, hfacts, rfl⟩ := map_eq_ok_iff.mp h
      refine ⟨hvisible, fun e hmem => ?_⟩
      cases hmem
      rw [hid application rfl, hfacts]

/-! ## The views -/

variable {sysId b s missing : String}

/-- A text that is shaped like a `sys_id` selects it. -/
theorem sysIdSelector_ok (h : normalizeRecordLookupSysId sysId = .ok b) :
    sysIdSelector missing sysId = .ok b := by
  have hne : trim sysId ≠ "" := by
    intro hblank
    unfold normalizeRecordLookupSysId at h
    rw [hblank] at h
    have hlength : (toAsciiLowercase "").toList.length ≠ 32 := by decide
    dsimp only at h
    rw [if_pos (.inl hlength)] at h
    cases h
  have hsome : nonBlank (some sysId) = some (trim sysId) := by
    rw [nonBlank, Option.map_some, Option.filter_some, if_pos (by simpa using hne)]
  have htrim : normalizeRecordLookupSysId (trim sysId) = normalizeRecordLookupSysId sysId := by
    rw [normalizeRecordLookupSysId, trim_trim, normalizeRecordLookupSysId]
  rw [sysIdSelector, hsome]
  exact htrim.trans h

/-- A membership of an end is shown if the end is visible, and so are the row and its other end. -/
theorem shown_end {near far : StoredMembership → String} {nearType farType : ResourceType}
    (hshown : ∀ m, store.shown includeTombstoned m = ((includeTombstoned || m.live) &&
      (store.visible includeTombstoned nearType (near m) &&
        store.visible includeTombstoned farType (far m)))) (m : StoredMembership) :
    (decide (near m = b) && store.shown includeTombstoned m) =
      (store.visible includeTombstoned nearType b &&
        (store.visible includeTombstoned farType (far m) &&
          (decide (near m = b) && (includeTombstoned || m.live)))) := by
  by_cases hnear : near m = b
  · rw [hshown, hnear]
    ac_rfl
  · simp [hnear]

/-- The entries of the memberships of one end, in the order of a view, are those of the memberships
that are shown. -/
theorem entries_listed {Entry Key : Type} {key : Entry → Key} {told : StoredMembership → Key}
    {entries : List Entry} {order : Entry → Entry → Bool}
    {listed : StoredMembership → StoredMembership → Bool} {ofEnd shows : StoredMembership → Bool}
    (h : entries.map key =
      (((store.memberships.filter ofEnd).mergeSort listed).filter shows).map told) :
    ((entries.mergeSort order).map key).Perm
      ((store.memberships.filter fun m => shows m && ofEnd m).map told) := by
  have hrows := (((store.memberships.filter ofEnd).mergeSort_perm listed).filter shows).map told
  rw [List.filter_filter] at hrows
  exact (((entries.mergeSort_perm order).map key).trans (List.Perm.of_eq h)).trans hrows

/-- The servers of a Business Application are those of its memberships that are shown. -/
theorem servers_listed (hown : store.OwnFiles lib) (hb : normalizeRecordLookupSysId sysId = .ok b)
    {result : Option (List (CachedBusinessApplicationServer paths))}
    (h : businessApplicationServersCached lib paths store io sysId includeTombstoned = .ok result) :
    ((result.getD []).map fun e => (e.server.sysId, Except.ok e.toMembershipFacts)).Perm
      ((store.memberships.filter fun m =>
        decide (m.baSysId = b) && store.shown includeTombstoned m).map fun m =>
          (m.serverSysId, membershipFacts paths m)) := by
  unfold businessApplicationServersCached at h
  rw [sysIdSelector_ok hb] at h
  obtain ⟨_, hselected, h⟩ := bind_eq_ok_iff.mp h
  cases hselected
  obtain ⟨found, hfound, h⟩ := bind_eq_ok_iff.mp h
  obtain ⟨hvisible, hid⟩ := cachedRecord_ok hown hfound
  rw [List.filter_congr fun m _ => shown_end (fun _ => rfl) m, ← hvisible]
  rcases found with _ | ba
  · cases h
    simp
  · obtain ⟨servers, hservers, rfl⟩ := map_eq_ok_iff.mp h
    obtain ⟨_, _, hservers⟩ := bind_eq_ok_iff.mp hservers
    obtain ⟨_, _, hservers⟩ := bind_eq_ok_iff.mp hservers
    obtain ⟨entries, hentries, hsorted⟩ := bind_eq_ok_iff.mp hservers
    cases hsorted
    have hkeys := collectEntries_map (serverEntry_ok hown) hentries
    rw [hid ba rfl] at hkeys
    simp only [Option.isSome_some, Bool.true_and]
    exact entries_listed hkeys

/-- The Business Applications of a server are those of its memberships that are shown. -/
theorem applications_listed (hown : store.OwnFiles lib)
    (hs : normalizeRecordLookupSysId sysId = .ok s)
    {result : Option (List (CachedBusinessApplicationForServer paths))}
    (h : businessApplicationsForServer lib paths store io sysId includeTombstoned = .ok result) :
    ((result.getD []).map fun e =>
      (e.businessApplication.sysId, Except.ok e.toMembershipFacts)).Perm
      ((store.memberships.filter fun m =>
        decide (m.serverSysId = s) && store.shown includeTombstoned m).map fun m =>
          (m.baSysId, membershipFacts paths m)) := by
  unfold businessApplicationsForServer at h
  rw [sysIdSelector_ok hs] at h
  obtain ⟨_, hselected, h⟩ := bind_eq_ok_iff.mp h
  cases hselected
  obtain ⟨found, hfound, h⟩ := bind_eq_ok_iff.mp h
  obtain ⟨hvisible, hid⟩ := cachedRecord_ok hown hfound
  have hshown : ∀ m, store.shown includeTombstoned m = ((includeTombstoned || m.live) &&
      (store.visible includeTombstoned .server m.serverSysId &&
        store.visible includeTombstoned .businessApplication m.baSysId)) :=
    fun _ => congrArg _ (Bool.and_comm ..)
  rw [List.filter_congr fun m _ => shown_end hshown m, ← hvisible]
  rcases found with _ | server
  · cases h
    simp
  · obtain ⟨applications, happlications, rfl⟩ := map_eq_ok_iff.mp h
    obtain ⟨_, _, happlications⟩ := bind_eq_ok_iff.mp happlications
    obtain ⟨entries, hentries, hsorted⟩ := bind_eq_ok_iff.mp happlications
    cases hsorted
    have hkeys := collectEntries_map (applicationEntry_ok hown) hentries
    rw [hid server rfl] at hkeys
    simp only [Option.isSome_some, Bool.true_and]
    exact entries_listed hkeys

/-- An entry of a list whose entries are told of rows is told of one of them. -/
theorem exists_entry_iff {Entry : Type} {id : Entry → String} {told : Entry → MembershipFacts paths}
    {entries : List Entry} {keep : StoredMembership → Bool} {far : StoredMembership → String}
    (h : (entries.map fun e => (id e, Except.ok (told e))).Perm
      ((store.memberships.filter keep).map fun m => (far m, membershipFacts paths m)))
    (other : String) (facts : MembershipFacts paths) :
    (∃ e ∈ entries, id e = other ∧ told e = facts) ↔
      ∃ m ∈ store.memberships, keep m = true ∧ far m = other ∧
        membershipFacts paths m = .ok facts := by
  have hmem := h.mem_iff (a := (other, Except.ok facts))
  simp only [List.mem_map, List.mem_filter, Prod.mk.injEq, Except.ok.injEq] at hmem
  rw [hmem]
  constructor
  · rintro ⟨m, ⟨hm, hkeep⟩, hfar, hfacts⟩
    exact ⟨m, hm, hkeep, hfar, hfacts⟩
  · rintro ⟨m, hm, hkeep, hfar, hfacts⟩
    exact ⟨m, ⟨hm, hkeep⟩, hfar, hfacts⟩

end

/-- **The two views of the memberships are inverse**, for every store and whatever is asked of
tombstones: each lists the memberships that are shown once, and they tell the same of each pair. -/
theorem membership_views_inverse (lib : CoreLib) (paths : PathsLib) (store : MembershipStore)
    (io io' : ViewIO) (includeTombstoned : Bool) {application server b s : String}
    (hown : store.OwnFiles lib) (hb : normalizeRecordLookupSysId application = .ok b)
    (hs : normalizeRecordLookupSysId server = .ok s)
    {servers : Option (List (CachedBusinessApplicationServer paths))}
    {applications : Option (List (CachedBusinessApplicationForServer paths))}
    (hservers : businessApplicationServersCached lib paths store io application includeTombstoned =
      .ok servers)
    (happlications : businessApplicationsForServer lib paths store io' server includeTombstoned =
      .ok applications) :
    InverseViews paths store includeTombstoned b s (servers.getD []) (applications.getD []) := by
  have hleft := servers_listed hown hb hservers
  have hright := applications_listed hown hs happlications
  refine ⟨hleft, hright, fun facts => ?_⟩
  rw [exists_entry_iff hleft, exists_entry_iff hright]
  constructor
  · rintro ⟨m, hm, hkeep, hfar, hfacts⟩
    rw [Bool.and_eq_true, decide_eq_true_eq] at hkeep
    exact ⟨m, hm, by rw [hfar, decide_eq_true rfl, hkeep.2]; rfl, hkeep.1, hfacts⟩
  · rintro ⟨m, hm, hkeep, hfar, hfacts⟩
    rw [Bool.and_eq_true, decide_eq_true_eq] at hkeep
    exact ⟨m, hm, by rw [hfar, decide_eq_true rfl, hkeep.2]; rfl, hkeep.1, hfacts⟩

/-! ## Two stores -/

/-- The `sys_id` of a server. -/
def linuxServerId : String := "bbbbbbbbbbbbbbbbbbbbbbbbbbbbbbbb"

/-- A row of a record that is in scope. -/
def viewedRow (sysId : String) (resourceType : ResourceType) (filePath : Option String) :
    ViewedRow where
  sysId := sysId
  number := ""
  tableName := ""
  resourceType := resourceType
  state := none
  shortDesc := none
  description := none
  filePath := filePath
  syncedAt := 0
  inScope := true
  rawJson := .null
  tombstonedAt := none
  prunedAt := none

/-- The membership of that server. -/
def linuxMembership (baSysId : String) : StoredMembership :=
  ⟨baSysId, linuxServerId, "cmdb_ci_linux_server", "service", 1, "[]", 0, 0, none⟩

/-- Paths of which nothing is told. -/
def plainPaths : PathsLib := ⟨Unit, fun _ => .ok ()⟩

/-- Reads that all answer. -/
def steadyViews : ViewIO := ⟨fun _ => .ok (), fun _ => .ok (), .ok (), fun _ => .ok none⟩

/-- A Business Application and its server. -/
def pairStore (baSysId : String) (h : baSysId ≠ linuxServerId) : MembershipStore where
  records := [viewedRow baSysId .businessApplication none, viewedRow linuxServerId .server none]
  memberships := [linuxMembership baSysId]
  files := Table.empty
  keys := by simpa [viewedRow] using h
  memberKeys := List.nodup_singleton _

section

variable {lib : CoreLib} {paths : PathsLib} {store : MembershipStore} {m : StoredMembership}

theorem serversOf_single {ba : CachedRecord} {e : CachedBusinessApplicationServer paths}
    (hrows : (store.memberships.filter fun m =>
      decide (m.baSysId = ba.sysId) && (false || m.live)) = [m])
    (hentry : serverEntry lib paths store steadyViews false m = .ok (some e)) :
    serversOf lib paths store steadyViews ba false = .ok [e] := by
  have hlisted : store.membershipsForBa ba.sysId false = [m] := by
    rw [MembershipStore.membershipsForBa, hrows]
    exact List.mergeSort_singleton _
  have hentries : collectEntries (serverEntry lib paths store steadyViews false) [m] = .ok [e] := by
    rw [collectEntries, hentry]
    rfl
  rw [serversOf, hlisted, hentries]
  exact congrArg Except.ok (List.mergeSort_singleton _)

theorem applicationsOf_single {server : CachedRecord}
    {e : CachedBusinessApplicationForServer paths}
    (hrows : (store.memberships.filter fun m =>
      decide (m.serverSysId = server.sysId) && (false || m.live)) = [m])
    (hentry : applicationEntry lib paths store steadyViews false m = .ok (some e)) :
    applicationsOf lib paths store steadyViews server false = .ok [e] := by
  have hlisted : store.membershipsForServer server.sysId false = [m] := by
    rw [MembershipStore.membershipsForServer, hrows]
    exact List.mergeSort_singleton _
  have hentries : collectEntries (applicationEntry lib paths store steadyViews false) [m] =
      .ok [e] := by
    rw [collectEntries, hentry]
    rfl
  rw [applicationsOf, hlisted, hentries]
  exact congrArg Except.ok (List.mergeSort_singleton _)

end

theorem linuxServerId_normal : normalizeRecordLookupSysId linuxServerId = .ok linuxServerId := by
  decide +kernel

/-- What a row without a file is materialized to. -/
def plainRecord (sysId : String) (resourceType : ResourceType) : CachedRecord :=
  materializeRecordFromJson (viewedRow sysId resourceType none).toRecordRow

section

variable {baSysId : String} (h : baSysId ≠ linuxServerId)

theorem pairStore_server :
    (pairStore baSysId h).cachedRecordBySysId incidentLib steadyViews linuxServerId .server false =
      .ok (some (plainRecord linuxServerId .server)) := by
  have hfind : (pairStore baSysId h).getRecordBySysId linuxServerId =
      some (viewedRow linuxServerId .server none) := by
    simp [MembershipStore.getRecordBySysId, pairStore, viewedRow, h]
  rw [MembershipStore.cachedRecordBySysId, hfind]
  rfl

theorem pairStore_application :
    (pairStore baSysId h).cachedRecordBySysId incidentLib steadyViews baSysId .businessApplication
        false = .ok (some (plainRecord baSysId .businessApplication)) := by
  have hfind : (pairStore baSysId h).getRecordBySysId baSysId =
      some (viewedRow baSysId .businessApplication none) := by
    simp [MembershipStore.getRecordBySysId, pairStore, viewedRow]
  rw [MembershipStore.cachedRecordBySysId, hfind]
  rfl

theorem pairStore_ownFiles : (pairStore baSysId h).OwnFiles incidentLib := by
  intro row hrow record hload
  rcases List.mem_cons.mp hrow with rfl | hrow
  · cases hload
  · obtain rfl := List.mem_singleton.mp hrow
    cases hload

/-- The server of the Business Application. -/
def pairServer : CachedBusinessApplicationServer plainPaths :=
  ⟨⟨"service", 1, (), none⟩, plainRecord linuxServerId .server, "cmdb_ci_linux_server"⟩

/-- The Business Application of the server. -/
def pairApplication (baSysId : String) : CachedBusinessApplicationForServer plainPaths :=
  ⟨⟨"service", 1, (), none⟩, plainRecord baSysId .businessApplication, none⟩

theorem pairStore_servers (hnormal : normalizeRecordLookupSysId baSysId = .ok baSysId) :
    businessApplicationServersCached incidentLib plainPaths (pairStore baSysId h) steadyViews
      baSysId false = .ok (some [pairServer]) := by
  have hrows : ((pairStore baSysId h).memberships.filter fun m =>
      decide (m.baSysId = (plainRecord baSysId .businessApplication).sysId) && (false || m.live)) =
        [linuxMembership baSysId] := by
    simp [pairStore, linuxMembership, plainRecord, viewedRow, materializeRecordFromJson,
      StoredMembership.live]
  have hentry : serverEntry incidentLib plainPaths (pairStore baSysId h) steadyViews false
      (linuxMembership baSysId) = .ok (some pairServer) := by
    rw [serverEntry, show (linuxMembership baSysId).serverSysId = linuxServerId from rfl,
      pairStore_server]
    rfl
  simp only [businessApplicationServersCached, sysIdSelector_ok hnormal, pairStore_application,
    bind, Except.bind, serversOf_single hrows hentry]
  rfl

theorem pairStore_applications :
    businessApplicationsForServer incidentLib plainPaths (pairStore baSysId h) steadyViews
      linuxServerId false = .ok (some [pairApplication baSysId]) := by
  have hrows : ((pairStore baSysId h).memberships.filter fun m =>
      decide (m.serverSysId = (plainRecord linuxServerId .server).sysId) && (false || m.live)) =
        [linuxMembership baSysId] := by
    simp [pairStore, linuxMembership, plainRecord, viewedRow, materializeRecordFromJson,
      StoredMembership.live]
  have hentry : applicationEntry incidentLib plainPaths (pairStore baSysId h) steadyViews false
      (linuxMembership baSysId) = .ok (some (pairApplication baSysId)) := by
    rw [applicationEntry, show (linuxMembership baSysId).baSysId = baSysId from rfl,
      pairStore_application]
    rfl
  simp only [businessApplicationsForServer, sysIdSelector_ok linuxServerId_normal,
    pairStore_server, bind, Except.bind, applicationsOf_single hrows hentry]
  rfl

end

/-- A Business Application with capitals in its `sys_id`. -/
def capitalId : String := "AAAAAAAAAAAAAAAAAAAAAAAAAAAAAAAA"

/-- The same in lower case. -/
def lowerId : String := "aaaaaaaaaaaaaaaaaaaaaaaaaaaaaaaa"

/-- The server of a Business Application, in both views. -/
theorem membership_views_of_pair :
    InverseViews plainPaths (pairStore lowerId (by decide)) false lowerId linuxServerId
      [pairServer] [pairApplication lowerId] := by
  have hnormal : normalizeRecordLookupSysId lowerId = .ok lowerId := by decide +kernel
  exact membership_views_inverse incidentLib plainPaths (pairStore lowerId (by decide))
    steadyViews steadyViews false (pairStore_ownFiles (by decide)) hnormal linuxServerId_normal
    (pairStore_servers (by decide) hnormal) (pairStore_applications (by decide))

/-- The two views by the `sys_id`s of two records tell the same of them when both succeed. -/
def InverseAt (lib : CoreLib) (paths : PathsLib) (store : MembershipStore) (io : ViewIO)
    (includeTombstoned : Bool) (b s : String) : Prop :=
  ∀ servers applications,
    businessApplicationServersCached lib paths store io b includeTombstoned = .ok servers →
      businessApplicationsForServer lib paths store io s includeTombstoned = .ok applications →
        SameFacts paths b s (servers.getD []) (applications.getD [])

/-- The `sys_id` of another server. -/
def otherServerId : String := "cccccccccccccccccccccccccccccccc"

/-- Markdown that reads as the other server. -/
def sharedLib : CoreLib :=
  { incidentLib with parseMarkdown := fun _ _ => some (plainRecord otherServerId .server) }

/-- Two servers that share one file, which is that of the second. -/
def sharedStore : MembershipStore where
  records := [viewedRow lowerId .businessApplication none,
    viewedRow linuxServerId .server (some "servers/web.md"),
    viewedRow otherServerId .server (some "servers/web.md")]
  memberships := [linuxMembership lowerId]
  files := Table.empty.put "servers/web.md" "web"
  keys := by decide
  memberKeys := List.nodup_singleton _

/-- The entry of the first server, under the `sys_id` of the second. -/
def sharedServer : CachedBusinessApplicationServer plainPaths :=
  ⟨⟨"service", 1, (), none⟩, plainRecord otherServerId .server, "cmdb_ci_linux_server"⟩

theorem sharedStore_servers : businessApplicationServersCached sharedLib plainPaths sharedStore
    steadyViews lowerId false = .ok (some [sharedServer]) := by
  have hnormal : normalizeRecordLookupSysId lowerId = .ok lowerId := by decide +kernel
  have hstart : sharedStore.cachedRecordBySysId sharedLib steadyViews lowerId .businessApplication
      false = .ok (some (plainRecord lowerId .businessApplication)) := by
    rfl
  have hrows : (sharedStore.memberships.filter fun m =>
      decide (m.baSysId = (plainRecord lowerId .businessApplication).sysId) && (false || m.live)) =
        [linuxMembership lowerId] := by
    simp [sharedStore, linuxMembership, plainRecord, viewedRow, materializeRecordFromJson,
      StoredMembership.live]
  have hentry : serverEntry sharedLib plainPaths sharedStore steadyViews false
      (linuxMembership lowerId) = .ok (some sharedServer) := by
    rfl
  simp only [businessApplicationServersCached, sysIdSelector_ok hnormal, hstart, bind, Except.bind,
    serversOf_single hrows hentry]
  rfl

theorem sharedStore_applications : businessApplicationsForServer sharedLib plainPaths sharedStore
    steadyViews otherServerId false = .ok (some []) := by
  have hnormal : normalizeRecordLookupSysId otherServerId = .ok otherServerId := by decide +kernel
  have hstart : sharedStore.cachedRecordBySysId sharedLib steadyViews otherServerId .server false =
      .ok (some (plainRecord otherServerId .server)) := by
    rfl
  have hrows : sharedStore.membershipsForServer otherServerId false = [] := by
    rw [MembershipStore.membershipsForServer]
    exact List.mergeSort_nil
  have hview : applicationsOf sharedLib plainPaths sharedStore steadyViews
      (plainRecord otherServerId .server) false = .ok [] := by
    rw [applicationsOf, show (plainRecord otherServerId .server).sysId = otherServerId from rfl,
      hrows]
    exact congrArg Except.ok List.mergeSort_nil
  simp only [businessApplicationsForServer, sysIdSelector_ok hnormal, hstart, bind, Except.bind,
    hview]
  rfl

/-- **Two pairs of which the views tell different things.**  A `sys_id` with capitals is asked for
in lower case and not found, though the server lists it; and a server whose file is that of another
is listed as the other, which lists nothing. -/
theorem membership_views_differ :
    ¬ InverseAt incidentLib plainPaths (pairStore capitalId (by decide)) steadyViews false capitalId
        linuxServerId ∧
      ¬ InverseAt sharedLib plainPaths sharedStore steadyViews false lowerId otherServerId := by
  constructor
  · intro h
    have hnone : businessApplicationServersCached incidentLib plainPaths
        (pairStore capitalId (by decide)) steadyViews capitalId false = .ok none := by
      rfl
    have hsame := h none (some [pairApplication capitalId]) hnone
      (pairStore_applications (by decide))
    obtain ⟨e, hmem, -⟩ := (hsame ⟨"service", 1, (), none⟩).mpr
      ⟨pairApplication capitalId, List.mem_singleton_self _, rfl, rfl⟩
    exact List.not_mem_nil hmem
  · intro h
    have hsame := h (some [sharedServer]) (some []) sharedStore_servers sharedStore_applications
    obtain ⟨e, hmem, -⟩ := (hsame ⟨"service", 1, (), none⟩).mp
      ⟨sharedServer, List.mem_singleton_self _, rfl, rfl⟩
    exact List.not_mem_nil hmem

end SnowAgent.Core
