import Mathlib.Data.List.Infix
import SnowAgent.Letters
import SnowAgent.MembershipViews
import SnowAgent.TableApi

/-! # Queries for servers

The same query for servers is answered from the cache and from ServiceNow.  The filters are written
twice: the cache compares what its records show, ServiceNow the columns of its rows.
-/
namespace SnowAgent.Core

open Json Text Trimming

/-! ## The query -/

/-- `ServerQuery`. -/
structure ServerQuery where
  text : Option String
  name : Option String
  ipAddress : Option String
  ciOwnerGroup : Option String
  serverClass : Option String
  limit : Option Nat
  offset : Option Nat

/-- `canonical_server_class`. -/
def canonicalServerClass (value : String) : Except String String :=
  let canonical := canonicalServerTableAlias value
  if canonical = "cmdb_ci_linux_server" then .ok "cmdb_ci_linux_server"
  else if canonical = "cmdb_ci_win_server" then .ok "cmdb_ci_win_server"
  else if canonical = "cmdb_ci_server" ∨ canonical = "server" then .ok "cmdb_ci_server"
  else .error ("unsupported server class `" ++ canonical ++ "`")

/-- `validate`. -/
def ServerQuery.validate (query : ServerQuery) : Except String Unit :=
  let limit := query.limit.getD 20
  if limit = 0 then .error "`limit` must be at least 1"
  else if 500 < limit then .error "`limit` must be at most 500"
  else
    match query.serverClass with
    | some value => (canonicalServerClass value).map fun _ => ()
    | none => .ok ()

/-! ## On the cache -/

/-- `optional_contains`. -/
def optionalContains (haystack needle : Option String) : Bool :=
  match nonBlank needle with
  | none => true
  | some needle => haystack.any fun haystack =>
    contains (toAsciiLowercase haystack) (toAsciiLowercase needle)

/-- `optional_eq`. -/
def optionalEq (value expected : Option String) : Bool :=
  match nonBlank expected with
  | none => true
  | some expected => value.any fun value => eqIgnoreAsciiCase (trim value) expected

/-- `server_reference_text`. -/
def serverReferenceText (record : CachedRecord) (field : String) : Option String :=
  ((record.references.get field).map fun reference =>
    reference.sysId ++ " " ++ reference.displayName).orElse fun _ => serverFieldText record field

/-- `server_search_text`. -/
def serverSearchText (record : CachedRecord) : String :=
  String.intercalate " " ([some (serverName record), serverFieldText record "ip_address",
    serverFieldText record "fqdn", serverFieldText record "sys_class_name",
    serverReferenceText record "managed_by_group",
    serverReferenceText record "support_group"].filterMap id)

/-- `server_class_matches`. -/
def serverClassMatches (record : CachedRecord) (serverClass : Option String) : Bool :=
  match nonBlank serverClass with
  | none => true
  | some value =>
    match canonicalServerClass value with
    | .error _ => false
    | .ok canonical => canonical == "cmdb_ci_server" || record.table == canonical ||
        serverFieldText record "sys_class_name" == some canonical

/-- `server_matches_query`. -/
def serverMatchesQuery (record : CachedRecord) (query : ServerQuery) : Bool :=
  serverClassMatches record query.serverClass &&
    optionalContains (some (serverName record)) query.name &&
    optionalEq (serverFieldText record "ip_address") query.ipAddress &&
    optionalContains (serverReferenceText record "managed_by_group") query.ciOwnerGroup &&
    optionalContains (some (serverSearchText record)) query.text

/-- The records that `query_servers` sorts and pages. -/
def matchingServers (records : List CachedRecord) (query : ServerQuery) : List CachedRecord :=
  records.filter fun record => serverMatchesQuery record query

/-- `query_servers`, of the records of the active server rows. -/
def queryServers (records : List CachedRecord) (query : ServerQuery) :
    Except String (List CachedRecord) := do
  query.validate
  let matching := (matchingServers records query).mergeSort fun a b => serverName a ≤ serverName b
  return (matching.drop (min (query.offset.getD 0) matching.length)).take (query.limit.getD 20)

/-! ## On ServiceNow -/

/-- `SERVER_LEAF_TABLES`. -/
def serverLeafTables : List String := ["cmdb_ci_linux_server", "cmdb_ci_win_server"]

/-- `apply_reference_name_or_sys_id_filter`. -/
def applyReferenceNameOrSysIdFilter (query : TableApi) (field : String) (value : Option String) :
    TableApi :=
  match nonBlank value with
  | none => query
  | some value =>
    match normalizeRecordLookupSysId value with
    | .ok sysId => query.filter (.equals field sysId)
    | .error _ => query.filter (.contains (field ++ ".name") value)

/-- The filter by class of `server_query_base_query`. -/
def serverClassFilter (table : TableApi) (serverClass : Option String) : Except String TableApi :=
  match nonBlank serverClass with
  | none => .ok (table.filter (.inList "sys_class_name" serverLeafTables))
  | some value => (canonicalServerClass value).map fun canonical =>
    if canonical ≠ "cmdb_ci_server" then table.filter (.equals "sys_class_name" canonical)
    else table.filter (.inList "sys_class_name" serverLeafTables)

/-- `server_query_base_query`. -/
def serverQueryBaseQuery (query : ServerQuery) : Except String TableApi := do
  let table ← serverClassFilter (TableApi.new "cmdb_ci_server" (query.limit.getD 20))
    query.serverClass
  return applyReferenceNameOrSysIdFilter
    ((table.filterSome (.contains "name") (nonBlank query.name)).filterSome (.equals "ip_address")
      (nonBlank query.ipAddress)) "managed_by_group" query.ciOwnerGroup

/-- The filter by text of `query_servers_policy_live`. -/
def serverTextFilter (table : TableApi) (text : Option String) : TableApi :=
  match nonBlank text with
  | none => table
  | some text => ((table.filter (.contains "name" text)).orFilter
      (.contains "short_description" text)).orFilter (.contains "ip_address" text)

/-- The request of `query_servers_policy_live`. -/
def queryServersPolicyLive (query : ServerQuery) : Except String TableApi := do
  query.validate
  let table ← serverQueryBaseQuery query
  return serverTextFilter table query.text

/-! ## Servers -/

/-- A group. -/
structure CiGroup where
  sysId : String
  name : String
  legal : IsSysId sysId

/-- A configuration item below `cmdb_ci_server`, with the columns that the filters read. -/
structure ServerCi where
  sysId : String
  name : String
  shortDescription : String
  ipAddress : String
  fqdn : String
  dnsDomain : String
  className : String
  classLabel : String
  managedByGroup : Option CiGroup
  supportGroup : Option CiGroup
  legal : IsSysId sysId

/-- What is left open: the core, and how a name is chosen for a reference. -/
structure ServerLib where
  core : CoreLib
  chooseReferenceDisplayName : List (Option String) → String

/-- `looks_like_sys_id`. -/
def looksLikeSysId (value : String) : Bool :=
  (trim value).toList.length == 32 && (trim value).toList.all fun c =>
    "0123456789abcdefABCDEF".toList.contains c

section

variable (lib : ServerLib)

/-- `reference_from_server_field`. -/
def referenceFromServerField (record : Record) (field : String) : Option Reference :=
  (record.fields.get field).bind fun _ =>
    ((record.getRaw field).filter looksLikeSysId).map fun sysId =>
      ⟨sysId, lib.chooseReferenceDisplayName [record.getDisplay field,
        record.getStr lib.core (field ++ ".name"), record.getStr lib.core (field ++ ".number"),
        record.getStr lib.core (field ++ ".user_name"), some sysId]⟩

/-- `collect_server_references`. -/
def collectServerReferences (record : Record) : StringMap Reference :=
  ["managed_by_group", "support_group", "assigned_to", "owned_by", "location"].filterMap
    fun field => (referenceFromServerField lib record field).map fun reference => (field, reference)

/-- A column of text, which is shown as it is. -/
def textField (value : String) : LiveField := ⟨some (.string value), some value⟩

/-- A column that refers to a group. -/
def groupField : Option CiGroup → LiveField
  | none => textField ""
  | some group => ⟨some (.string group.sysId), some group.name⟩

/-- The row of a server. -/
def ServerCi.record (ci : ServerCi) : Record where
  sysId := ci.sysId
  table := "cmdb_ci_server"
  fields := [("name", textField ci.name), ("short_description", textField ci.shortDescription),
    ("ip_address", textField ci.ipAddress), ("fqdn", textField ci.fqdn),
    ("dns_domain", textField ci.dnsDomain),
    ("sys_class_name", ⟨some (.string ci.className), some ci.classLabel⟩),
    ("managed_by_group", groupField ci.managedByGroup),
    ("support_group", groupField ci.supportGroup)]

/-- The record that mirrors a server in the cache. -/
def ServerCi.mirrored (now : DateTime) (ci : ServerCi) : CachedRecord :=
  { fromServicenow lib.core now ci.record with
    references := collectServerReferences lib ci.record }

end

/-! ## What ServiceNow selects -/

variable {value : String} {text : Option String}

namespace ServerCi

variable (ci : ServerCi)

/-- A column of a server, and the name of its group. -/
def column (field : String) : String :=
  if field = "managed_by_group.name" then (ci.managedByGroup.map CiGroup.name).getD ""
  else (ci.record.getRaw field).getD ""

/-- Whether a text is part of another one, in any case of ASCII letters. -/
def partOf (needle text : String) : Bool :=
  contains (toAsciiLowercase text) (toAsciiLowercase needle)

/-- **A condition on a server.**  Texts are compared in any case of ASCII letters, and a group is
equal to its `sys_id` and to its name. -/
def holds : Atom → Bool
  | .equals field value =>
    eqIgnoreAsciiCase (ci.column field) value ||
      (field == "managed_by_group" && ci.managedByGroup.any fun group =>
        eqIgnoreAsciiCase group.name value)
  | .inList field values => values.any fun value => eqIgnoreAsciiCase (ci.column field) value
  | .contains field text => partOf text (ci.column field)
  | .greaterThan _ _ | .lessThan _ _ => false

/-- Whether a server meets all conditions of a request, one alternative of each. -/
def selected (table : TableApi) : Bool :=
  table.conditions.all fun alternatives => alternatives.any ci.holds

/-! ## What a mirrored server shows -/

section

variable (lib : ServerLib) (now : DateTime)

/-- A name for a server that has none. -/
def otherName : String :=
  ((nonBlank (some ci.fqdn)).orElse fun _ => nonBlank (some ci.dnsDomain)).getD ci.sysId

/-- The name a server is shown with. -/
def shownName : String := (nonBlank (some ci.name)).getD ci.otherName

/-- What is shown of a group. -/
def shownGroup (group : CiGroup) : String :=
  group.sysId ++ " " ++
    lib.chooseReferenceDisplayName [some group.name, none, none, none, some group.sysId]

/-- The text that a search looks through. -/
def shownText : String :=
  String.intercalate " " ([some ci.shownName, nonBlank (some ci.ipAddress),
    nonBlank (some ci.fqdn), nonBlank (some ci.classLabel), ci.managedByGroup.map (shownGroup lib),
    ci.supportGroup.map (shownGroup lib)].filterMap id)

theorem nonBlank_eq_some (h : nonBlank text = some value) :
    ∃ s, text = some s ∧ value = trim s ∧ trim s ≠ "" := by
  cases text with
  | none => cases h
  | some s =>
    unfold nonBlank at h
    obtain ⟨hvalue, hne⟩ := Option.filter_eq_some_iff.mp h
    obtain rfl := Option.some.inj hvalue
    exact ⟨s, rfl, rfl, of_decide_eq_true hne⟩

theorem looksLikeSysId_legal {sysId : String} (h : IsSysId sysId) :
    looksLikeSysId sysId = true := by
  have hhex : ∀ c ∈ "0123456789abcdef".toList,
      ("0123456789abcdefABCDEF".toList.contains c) = true := forall_mem_of_all (by decide)
  have hall : (sysId.toList.all fun c => "0123456789abcdefABCDEF".toList.contains c) = true :=
    List.all_eq_true.mpr fun c hc => hhex c (h.2 c hc)
  rw [looksLikeSysId, h.trim, hall, h.1]
  rfl

variable {lib now ci}

theorem name_text : serverFieldText (ci.mirrored lib now) "name" = nonBlank (some ci.name) := rfl

theorem ipAddress_text :
    serverFieldText (ci.mirrored lib now) "ip_address" = nonBlank (some ci.ipAddress) := rfl

theorem fqdn_text : serverFieldText (ci.mirrored lib now) "fqdn" = nonBlank (some ci.fqdn) := rfl

theorem class_text :
    serverFieldText (ci.mirrored lib now) "sys_class_name" = nonBlank (some ci.classLabel) := rfl

theorem mirrored_sysId : (ci.mirrored lib now).sysId = ci.sysId := rfl

/-- The first of three names. -/
theorem first_name (core : CoreLib) :
    (firstRecordValue core ci.record ["name", "fqdn", "dns_domain"]).getD ci.sysId =
      ci.shownName := by
  have hname : ci.record.getDisplay "name" = some ci.name := rfl
  have hfqdn : ci.record.getDisplay "fqdn" = some ci.fqdn := rfl
  have hdns : ci.record.getDisplay "dns_domain" = some ci.dnsDomain := rfl
  unfold firstRecordValue shownName otherName
  simp only [List.findSome?_cons, List.findSome?_nil, hname, hfqdn, hdns, Option.orElse_some]
  cases nonBlank (some ci.name) with
  | some value => rfl
  | none =>
    cases nonBlank (some ci.fqdn) with
    | some value => rfl
    | none => cases nonBlank (some ci.dnsDomain) <;> rfl

theorem record_server :
    isServerTable ci.record.table = true ∧ isBusinessApplicationAlias ci.record.table = false := by
  rw [show ci.record.table = "cmdb_ci_server" from rfl]
  exact ⟨by decide +kernel, by decide +kernel⟩

theorem shown_shortDescription : (ci.mirrored lib now).shortDescription = ci.shownName := by
  obtain ⟨hserver, happlication⟩ := ci.record_server
  unfold mirrored fromServicenow
  dsimp only
  rw [happlication, if_neg Bool.false_ne_true, hserver, if_pos rfl]
  exact first_name lib.core

theorem trim_shownName : trim ci.shownName ≠ "" := by
  have hsome : ∀ {text : Option String} {value : String}, nonBlank text = some value →
      trim value ≠ "" := by
    intro text value h
    obtain ⟨s, -, rfl, hne⟩ := nonBlank_eq_some h
    rw [trim_trim]
    exact hne
  unfold shownName otherName
  cases hname : nonBlank (some ci.name) with
  | some value => exact hsome hname
  | none =>
    cases hfqdn : nonBlank (some ci.fqdn) with
    | some value => exact hsome hfqdn
    | none =>
      cases hdns : nonBlank (some ci.dnsDomain) with
      | some value => exact hsome hdns
      | none =>
        show trim ci.sysId ≠ ""
        rw [ci.legal.trim]
        exact ci.legal.ne_empty

theorem serverName_mirrored : serverName (ci.mirrored lib now) = ci.shownName := by
  rw [serverName, name_text, describedName, shown_shortDescription, if_pos trim_shownName]
  unfold shownName
  cases nonBlank (some ci.name) <;> rfl

theorem table_mirrored : (ci.mirrored lib now).table = "cmdb_ci_server" := by
  obtain ⟨hserver, happlication⟩ := ci.record_server
  have hnumber : serverNumber lib.core ci.record = "SERVER:" ++ ci.sysId := rfl
  have hletters : ∀ c ∈ "SERVER:".toList, isWhitespace c = false := forall_mem_of_all (by decide)
  have hplain : trim ("SERVER:" ++ ci.sysId) = "SERVER:" ++ ci.sysId := by
    have hall : ∀ c ∈ ("SERVER:" ++ ci.sysId).toList, isWhitespace c = false := by
      intro c hc
      rw [String.toList_append] at hc
      rcases List.mem_append.mp hc with hc | hc
      · exact hletters c hc
      · exact (hexDigits_plain c (ci.legal.2 c hc)).1
    show String.ofList (trimmed isWhitespace _) = _
    rw [trimmed_of_forall hall, String.ofList_toList]
  have hchange : isChangeRequestNumber ("SERVER:" ++ ci.sysId) = false := by
    rw [isChangeRequestNumber, hplain, toAsciiLowercase, String.toList_ofList, String.toList_append,
      List.map_append]
    rfl
  unfold mirrored fromServicenow
  dsimp only
  rw [happlication, if_neg Bool.false_ne_true, hserver, if_pos rfl, hnumber,
    show ci.record.table = "cmdb_ci_server" from rfl, canonicalRecordTableForNumber, hchange]
  decide +kernel

variable (lib ci) in
/-- The reference to a group. -/
theorem reference_group {field : String} {group : Option CiGroup}
    (hfield : ci.record.fields.get field = some (groupField group))
    (hname : ci.record.fields.get (field ++ ".name") = none)
    (hnumber : ci.record.fields.get (field ++ ".number") = none)
    (huser : ci.record.fields.get (field ++ ".user_name") = none) :
    referenceFromServerField lib ci.record field = group.map fun group => ⟨group.sysId,
      lib.chooseReferenceDisplayName [some group.name, none, none, none, some group.sysId]⟩ := by
  unfold referenceFromServerField
  cases group with
  | none =>
    simp only [Record.getRaw, hfield, groupField, textField, Option.bind_some, Value.asStr]
    rw [Option.filter_some_neg (by decide +kernel)]
    rfl
  | some group =>
    simp only [Record.getRaw, Record.getDisplay, Record.getStr, hfield, hname, hnumber, huser,
      groupField, Option.bind_some, Option.bind_none, Value.asStr]
    rw [Option.filter_some_pos (looksLikeSysId_legal group.legal)]
    rfl

theorem managed_reference : referenceFromServerField lib ci.record "managed_by_group" =
    ci.managedByGroup.map fun group => ⟨group.sysId,
      lib.chooseReferenceDisplayName [some group.name, none, none, none, some group.sysId]⟩ :=
  reference_group ci lib rfl rfl rfl rfl

theorem support_reference : referenceFromServerField lib ci.record "support_group" =
    ci.supportGroup.map fun group => ⟨group.sysId,
      lib.chooseReferenceDisplayName [some group.name, none, none, none, some group.sysId]⟩ :=
  reference_group ci lib rfl rfl rfl rfl

theorem references_mirrored : (ci.mirrored lib now).references =
    ((referenceFromServerField lib ci.record "managed_by_group").map
      fun reference => ("managed_by_group", reference)).toList ++
    ((referenceFromServerField lib ci.record "support_group").map
      fun reference => ("support_group", reference)).toList := by
  show collectServerReferences lib ci.record = _
  have hnone : ∀ field ∈ ["assigned_to", "owned_by", "location"],
      referenceFromServerField lib ci.record field = none := by
    intro field hfield
    simp only [List.mem_cons, List.not_mem_nil, or_false] at hfield
    rcases hfield with rfl | rfl | rfl <;> rfl
  unfold collectServerReferences
  simp only [List.filterMap_cons, List.filterMap_nil, hnone "assigned_to" (by simp),
    hnone "owned_by" (by simp), hnone "location" (by simp), Option.map_none]
  cases referenceFromServerField lib ci.record "managed_by_group" <;>
    cases referenceFromServerField lib ci.record "support_group" <;> rfl

/-- A column that refers to no group shows nothing. -/
theorem unset_group_text {field : String} {group : Option CiGroup} {record : CachedRecord}
    (hfield : record.fields.get field =
      some ⟨((groupField group).value.map fieldText).getD "", (groupField group).displayValue⟩)
    (hgroup : group = none) : serverFieldText record field = none := by
  rw [serverFieldText, hfield, hgroup]
  decide +kernel

theorem group_text : serverReferenceText (ci.mirrored lib now) "managed_by_group" =
    ci.managedByGroup.map (shownGroup lib) := by
  rw [serverReferenceText, references_mirrored, managed_reference, support_reference]
  cases hgroup : ci.managedByGroup with
  | some group => rfl
  | none =>
    have htext : serverFieldText (ci.mirrored lib now) "managed_by_group" = none :=
      unset_group_text rfl hgroup
    rw [htext]
    cases ci.supportGroup <;> rfl

theorem support_text : serverReferenceText (ci.mirrored lib now) "support_group" =
    ci.supportGroup.map (shownGroup lib) := by
  rw [serverReferenceText, references_mirrored, managed_reference, support_reference]
  cases hgroup : ci.supportGroup with
  | some group => cases ci.managedByGroup <;> rfl
  | none =>
    have htext : serverFieldText (ci.mirrored lib now) "support_group" = none :=
      unset_group_text rfl hgroup
    rw [htext]
    cases ci.managedByGroup <;> rfl

theorem searchText_mirrored : serverSearchText (ci.mirrored lib now) = ci.shownText lib := by
  rw [serverSearchText, serverName_mirrored, ipAddress_text, fqdn_text, class_text, group_text,
    support_text]
  rfl

end

end ServerCi

/-! ## The filters, each on its own -/

/-- The class that a query asks for, if it is not that of all servers. -/
def ServerQuery.askedLeaf (query : ServerQuery) : Option String :=
  (nonBlank query.serverClass).bind fun value =>
    (canonicalServerClass value).toOption.filter (· ≠ "cmdb_ci_server")

theorem canonicalServerClass_ne_empty {value canonical : String}
    (h : canonicalServerClass value = .ok canonical) : canonical ≠ "" := by
  unfold canonicalServerClass at h
  dsimp only at h
  split_ifs at h with hlinux hwindows hserver
  · rw [← Except.ok.inj h]
    decide
  · rw [← Except.ok.inj h]
    decide
  · rw [← Except.ok.inj h]
    decide

theorem canonicalServerClass_trim (value : String) :
    canonicalServerClass (trim value) = canonicalServerClass value := by
  have hnormal : normalizeTableName (trim value) = normalizeTableName value := by
    rw [normalizeTableName, normalizeTableName, trim_trim]
  unfold canonicalServerClass canonicalServerTableAlias
  rw [hnormal]

/-- The class of a valid query is one of the three. -/
theorem ServerQuery.class_of_valid {query : ServerQuery} (h : query.validate = .ok ())
    (hvalue : nonBlank query.serverClass = some value) :
    ∃ canonical, canonicalServerClass value = .ok canonical := by
  obtain ⟨s, hs, rfl, -⟩ := ServerCi.nonBlank_eq_some hvalue
  rw [canonicalServerClass_trim]
  unfold ServerQuery.validate at h
  rw [hs] at h
  dsimp only at h
  split_ifs at h with hzero hmany
  cases hclass : canonicalServerClass s with
  | ok canonical => exact ⟨canonical, rfl⟩
  | error err =>
    rw [hclass] at h
    cases h

namespace ServerCi

variable (ci : ServerCi) (lib : ServerLib) (query : ServerQuery)

/-- The class of a server is one that ServiceNow is asked for. -/
def ClassListed : Prop :=
  match query.askedLeaf with
  | none => ∃ leaf ∈ serverLeafTables, eqIgnoreAsciiCase ci.className leaf = true
  | some leaf => eqIgnoreAsciiCase ci.className leaf = true

/-- The label of the class of a server is the class that is asked for. -/
def ClassShown : Prop := ∀ leaf ∈ query.askedLeaf, trim ci.classLabel = leaf

/-- A group is the one that is asked for, or its name has what is asked for. -/
structure GroupMeant (asked : String) (group : CiGroup) : Prop where
  sysId : ∀ sysId, normalizeRecordLookupSysId asked = .ok sysId →
    eqIgnoreAsciiCase group.sysId sysId = true ∨ eqIgnoreAsciiCase group.name sysId = true
  name : ∀ err, normalizeRecordLookupSysId asked = .error err → partOf asked group.name = true

variable {group : CiGroup}

theorem groupMeant_ok {asked sysId : String}
    (h : normalizeRecordLookupSysId asked = .ok sysId) : GroupMeant asked group ↔
      eqIgnoreAsciiCase group.sysId sysId = true ∨ eqIgnoreAsciiCase group.name sysId = true := by
  constructor
  · exact fun hmeant => hmeant.sysId sysId h
  · refine fun hsame => ⟨fun other hother => ?_, fun err herr => ?_⟩
    · rwa [← Except.ok.inj (h.symm.trans hother)]
    · cases h.symm.trans herr

theorem groupMeant_error {asked err : String} (h : normalizeRecordLookupSysId asked = .error err) :
    GroupMeant asked group ↔ partOf asked group.name = true := by
  constructor
  · exact fun hmeant => hmeant.name err h
  · refine fun hpart => ⟨fun sysId hid => ?_, fun _ _ => hpart⟩
    cases h.symm.trans hid

/-- **What ServiceNow selects**, filter by filter. -/
structure LiveSelected : Prop where
  className : ci.ClassListed query
  name : ∀ asked ∈ nonBlank query.name, partOf asked ci.name = true
  ipAddress : ∀ asked ∈ nonBlank query.ipAddress, eqIgnoreAsciiCase ci.ipAddress asked = true
  group : ∀ asked ∈ nonBlank query.ciOwnerGroup, ∃ group ∈ ci.managedByGroup, GroupMeant asked group
  text : ∀ asked ∈ nonBlank query.text, partOf asked ci.name = true ∨
    partOf asked ci.shortDescription = true ∨ partOf asked ci.ipAddress = true

/-- **What the cache selects**, filter by filter. -/
structure CachedSelected : Prop where
  className : ci.ClassShown query
  name : ∀ asked ∈ nonBlank query.name, partOf asked ci.shownName = true
  ipAddress : ∀ asked ∈ nonBlank query.ipAddress, eqIgnoreAsciiCase (trim ci.ipAddress) asked = true
  group : ∀ asked ∈ nonBlank query.ciOwnerGroup,
    ∃ group ∈ ci.managedByGroup, partOf asked (shownGroup lib group) = true
  text : ∀ asked ∈ nonBlank query.text, partOf asked (ci.shownText lib) = true

variable {ci lib query} {now : DateTime} {needle : Option String}

theorem optionalContains_some {haystack : String} :
    optionalContains (some haystack) needle = true ↔
      ∀ asked ∈ nonBlank needle, partOf asked haystack = true := by
  unfold optionalContains
  cases nonBlank needle with
  | none => simp
  | some asked => simp [partOf]

theorem optionalContains_map {groups : Option CiGroup}
    {show_ : CiGroup → String} : optionalContains (groups.map show_) needle = true ↔
      ∀ asked ∈ nonBlank needle, ∃ group ∈ groups, partOf asked (show_ group) = true := by
  unfold optionalContains
  cases nonBlank needle with
  | none => simp
  | some asked => cases groups <;> simp [partOf]

theorem eqIgnoreAsciiCase_iff {a b : String} :
    eqIgnoreAsciiCase a b = true ↔ a.toList.map lowerChar = b.toList.map lowerChar := by
  rw [eqIgnoreAsciiCase, beq_iff_eq]

theorem optionalEq_ipAddress {expected : Option String} :
    optionalEq (nonBlank (some ci.ipAddress)) expected = true ↔
      ∀ asked ∈ nonBlank expected, eqIgnoreAsciiCase (trim ci.ipAddress) asked = true := by
  unfold optionalEq
  cases hasked : nonBlank expected with
  | none => simp
  | some asked =>
    obtain ⟨s, -, rfl, hne⟩ := nonBlank_eq_some hasked
    by_cases hblank : trim ci.ipAddress = ""
    · have hnone : nonBlank (some ci.ipAddress) = none := by
        simp [nonBlank, Option.filter, hblank]
      rw [hnone, hblank]
      simp only [Option.any_none, Bool.false_eq_true, Option.mem_some_iff, forall_eq', false_iff]
      intro heq
      rw [eqIgnoreAsciiCase_iff] at heq
      refine hne (String.toList_inj.mp ?_)
      simpa using (List.map_eq_nil_iff.mp heq.symm)
    · have hsome : nonBlank (some ci.ipAddress) = some (trim ci.ipAddress) := by
        simp [nonBlank, Option.filter, hblank]
      rw [hsome]
      simp [trim_trim]

theorem classMatches_iff (hvalid : query.validate = .ok ()) :
    serverClassMatches (ci.mirrored lib now) query.serverClass = true ↔ ci.ClassShown query := by
  unfold serverClassMatches ClassShown ServerQuery.askedLeaf
  cases hclass : nonBlank query.serverClass with
  | none => simp
  | some value =>
    obtain ⟨canonical, hcanonical⟩ := ServerQuery.class_of_valid hvalid hclass
    rw [table_mirrored, class_text]
    simp only [hcanonical, Option.bind_some, Except.toOption]
    by_cases hbase : canonical = "cmdb_ci_server"
    · subst hbase
      simp
    · have hfilter : (some canonical).filter (fun c => decide (c ≠ "cmdb_ci_server")) =
          some canonical := Option.filter_some_pos (decide_eq_true hbase)
      have hne : ("cmdb_ci_server" == canonical) = false := by simpa using Ne.symm hbase
      have hne' : (canonical == "cmdb_ci_server") = false := by simpa using hbase
      rw [hfilter, hne, hne']
      simp only [Bool.false_or, beq_iff_eq, Option.mem_some_iff, forall_eq']
      constructor
      · intro h
        obtain ⟨s, hs, hvalue, -⟩ := nonBlank_eq_some h
        rw [← Option.some.inj hs] at hvalue
        exact hvalue.symm
      · intro h
        have hcanonicalNe := canonicalServerClass_ne_empty hcanonical
        simp [nonBlank, Option.filter, h, hcanonicalNe]

/-- **What the cache selects.** -/
theorem serverMatchesQuery_iff (hvalid : query.validate = .ok ()) :
    serverMatchesQuery (ci.mirrored lib now) query = true ↔ ci.CachedSelected lib query := by
  rw [serverMatchesQuery, Bool.and_eq_true, Bool.and_eq_true, Bool.and_eq_true, Bool.and_eq_true,
    classMatches_iff hvalid, serverName_mirrored, optionalContains_some, ipAddress_text,
    optionalEq_ipAddress, group_text, optionalContains_map, searchText_mirrored,
    optionalContains_some]
  constructor
  · rintro ⟨⟨⟨⟨hclass, hname⟩, hip⟩, hgroup⟩, htext⟩
    exact ⟨hclass, hname, hip, hgroup, htext⟩
  · rintro ⟨hclass, hname, hip, hgroup, htext⟩
    exact ⟨⟨⟨⟨hclass, hname⟩, hip⟩, hgroup⟩, htext⟩

/-! ## The request -/

variable {asked : String}

section

variable {table : TableApi}

theorem selected_filter {atom : Atom} :
    ci.selected (table.filter atom) = true ↔ ci.selected table = true ∧ ci.holds atom = true := by
  simp [selected, TableApi.filter, List.all_append]

theorem selected_filterSome {atom : String → Atom} :
    ci.selected (table.filterSome atom needle) = true ↔
      ci.selected table = true ∧ ∀ asked ∈ needle, ci.holds (atom asked) = true := by
  cases needle with
  | none => simp [TableApi.filterSome]
  | some asked => simp [TableApi.filterSome, selected_filter]

theorem selected_textFilter :
    ci.selected (serverTextFilter table text) = true ↔ ci.selected table = true ∧
      ∀ asked ∈ nonBlank text, partOf asked ci.name = true ∨
        partOf asked ci.shortDescription = true ∨ partOf asked ci.ipAddress = true := by
  unfold serverTextFilter
  cases nonBlank text with
  | none => simp
  | some asked =>
    have hname : ci.column "name" = ci.name := rfl
    have hdescription : ci.column "short_description" = ci.shortDescription := rfl
    have hip : ci.column "ip_address" = ci.ipAddress := rfl
    simp [selected, TableApi.filter, TableApi.orFilter, List.all_append, holds, hname, hdescription,
      hip]

theorem column_group : ci.column "managed_by_group" =
    (ci.managedByGroup.map CiGroup.sysId).getD "" := by
  show (ci.record.getRaw "managed_by_group").getD "" = _
  have hraw : ci.record.getRaw "managed_by_group" =
      (groupField ci.managedByGroup).value.bind Value.asStr := rfl
  rw [hraw]
  cases ci.managedByGroup <;> rfl

theorem partOf_empty (h : asked ≠ "") : partOf asked "" = false := by
  by_contra hpart
  rw [Bool.not_eq_false, partOf, contains, containsChars_iff, toAsciiLowercase, toAsciiLowercase,
    String.toList_ofList, String.toList_ofList] at hpart
  have hnil : asked.toList.map lowerChar = [] := by simpa using hpart
  exact h (String.toList_inj.mp (by simpa using hnil))

theorem normalized_ne_empty {value sysId : String}
    (h : normalizeRecordLookupSysId value = .ok sysId) : sysId ≠ "" := by
  unfold normalizeRecordLookupSysId at h
  dsimp only at h
  split_ifs at h with hbad
  obtain rfl := Except.ok.inj h
  intro hempty
  rw [hempty] at hbad
  simp at hbad

theorem selected_groupFilter {owner : Option String} :
    ci.selected (applyReferenceNameOrSysIdFilter table "managed_by_group" owner) = true ↔
      ci.selected table = true ∧
        ∀ asked ∈ nonBlank owner, ∃ group ∈ ci.managedByGroup, GroupMeant asked group := by
  unfold applyReferenceNameOrSysIdFilter
  cases howner : nonBlank owner with
  | none => simp
  | some value =>
    have hne : value ≠ "" := by
      obtain ⟨s, -, rfl, hne⟩ := nonBlank_eq_some howner
      exact hne
    simp only [Option.mem_some_iff, forall_eq']
    cases hid : normalizeRecordLookupSysId value with
    | ok sysId =>
      dsimp only
      rw [selected_filter]
      refine and_congr_right fun _ => ?_
      simp only [groupMeant_ok hid]
      rw [holds, column_group]
      cases ci.managedByGroup with
      | none =>
        have hempty : eqIgnoreAsciiCase "" sysId ≠ true := by
          intro heq
          rw [eqIgnoreAsciiCase_iff] at heq
          refine normalized_ne_empty hid (String.toList_inj.mp ?_)
          simpa using List.map_eq_nil_iff.mp heq.symm
        simp [hempty]
      | some group => simp
    | error err =>
      dsimp only
      rw [selected_filter]
      refine and_congr_right fun _ => ?_
      simp only [groupMeant_error hid]
      have hcolumn : ci.column ("managed_by_group" ++ ".name") =
          (ci.managedByGroup.map CiGroup.name).getD "" := rfl
      rw [holds, hcolumn]
      cases ci.managedByGroup with
      | none => simp [partOf_empty hne]
      | some group => simp

variable (table) in
theorem selected_classFilter (hvalid : query.validate = .ok ()) :
    ∃ filtered, serverClassFilter table query.serverClass = .ok filtered ∧
      ∀ ci : ServerCi, ci.selected filtered = true ↔
        ci.selected table = true ∧ ci.ClassListed query := by
  have hall : ∀ ci : ServerCi, ci.holds (.inList "sys_class_name" serverLeafTables) = true ↔
      ∃ leaf ∈ serverLeafTables, eqIgnoreAsciiCase ci.className leaf = true :=
    fun ci => List.any_eq_true
  unfold serverClassFilter ClassListed ServerQuery.askedLeaf
  cases hclass : nonBlank query.serverClass with
  | none =>
    refine ⟨_, rfl, fun ci => ?_⟩
    rw [selected_filter, hall]
    rfl
  | some value =>
    obtain ⟨canonical, hcanonical⟩ := ServerQuery.class_of_valid hvalid hclass
    simp only [hcanonical, Option.bind_some, Except.toOption, Except.map]
    by_cases hbase : canonical = "cmdb_ci_server"
    · subst hbase
      refine ⟨_, rfl, fun ci => ?_⟩
      rw [if_neg (by simp), selected_filter, hall]
      rfl
    · have hfilter : (some canonical).filter (fun c => decide (c ≠ "cmdb_ci_server")) =
          some canonical := Option.filter_some_pos (decide_eq_true hbase)
      refine ⟨_, rfl, fun ci => ?_⟩
      rw [if_pos hbase, selected_filter, hfilter]
      have hcolumn : ci.holds (.equals "sys_class_name" canonical) =
          eqIgnoreAsciiCase ci.className canonical := Bool.or_false _
      rw [hcolumn]

/-- **What ServiceNow selects.** -/
theorem selected_live (hvalid : query.validate = .ok ()) :
    ∃ table, queryServersPolicyLive query = .ok table ∧
      ∀ ci : ServerCi, ci.selected table = true ↔ ci.LiveSelected query := by
  obtain ⟨filtered, hfiltered, hclass⟩ := selected_classFilter
    (TableApi.new "cmdb_ci_server" (query.limit.getD 20)) hvalid
  refine ⟨serverTextFilter (applyReferenceNameOrSysIdFilter
    ((filtered.filterSome (.contains "name") (nonBlank query.name)).filterSome
      (.equals "ip_address") (nonBlank query.ipAddress)) "managed_by_group" query.ciOwnerGroup)
    query.text, ?_, ?_⟩
  · unfold queryServersPolicyLive serverQueryBaseQuery
    rw [hvalid, hfiltered]
    rfl
  · intro ci
    have hnew : ci.selected (TableApi.new "cmdb_ci_server" (query.limit.getD 20)) = true := rfl
    have hname : ∀ asked, ci.holds (.contains "name" asked) = partOf asked ci.name := fun _ => rfl
    have hip : ∀ asked, ci.holds (.equals "ip_address" asked) =
        eqIgnoreAsciiCase ci.ipAddress asked := fun _ => Bool.or_false _
    rw [selected_textFilter, selected_groupFilter, selected_filterSome, selected_filterSome, hclass]
    simp only [hnew, hname, hip, true_and]
    constructor
    · rintro ⟨⟨⟨⟨hclass, hname⟩, hip⟩, hgroup⟩, htext⟩
      exact ⟨hclass, hname, hip, hgroup, htext⟩
    · rintro ⟨hclass, hname, hip, hgroup, htext⟩
      exact ⟨⟨⟨⟨hclass, hname⟩, hip⟩, hgroup⟩, htext⟩

end

/-! ## Where the two differ -/

variable (ci lib query)

/-- **What lets only the cache select a server**: a class that ServiceNow is not asked for, no name
of its own, an address with blanks, a group of which only a part is asked for, or a text in a
column that ServiceNow does not look through. -/
inductive OnlyCached : Prop
  | otherClass (h : ¬ ci.ClassListed query)
  | unnamed (hasked : (nonBlank query.name).isSome = true) (h : trim ci.name = "")
  | padded (hasked : (nonBlank query.ipAddress).isSome = true)
      (h : trim ci.ipAddress ≠ ci.ipAddress)
  | partOfGroup (asked : String) (hasked : asked ∈ nonBlank query.ciOwnerGroup)
      (h : ∀ group ∈ ci.managedByGroup, ¬ GroupMeant asked group)
  | otherText (asked : String) (hasked : asked ∈ nonBlank query.text)
      (h : ∀ text ∈ [ci.name, ci.shortDescription, ci.ipAddress], partOf asked text = false)

/-- **What lets only ServiceNow select a server**: a label of its class that is not the class, a
group whose shown text lacks what is asked for, or a text that the cache does not look through. -/
inductive OnlyLive : Prop
  | otherLabel (h : ¬ ci.ClassShown query)
  | groupUnsaid (asked : String) (hasked : asked ∈ nonBlank query.ciOwnerGroup)
      (h : ∀ group ∈ ci.managedByGroup, partOf asked (shownGroup lib group) = false)
  | textUnsaid (asked : String) (hasked : asked ∈ nonBlank query.text)
      (h : partOf asked (ci.shownText lib) = false)

variable {ci lib query}

/-- A needle without blanks at its ends is part of a text if it is part of the trimmed text. -/
theorem partOf_trim (h : asked ∈ nonBlank needle)
    (text : String) : partOf asked (trim text) = partOf asked text := by
  obtain ⟨s, -, rfl, -⟩ := nonBlank_eq_some h
  have hstart : Stops isWhitespace (trim s).toList := by
    rw [trim, String.toList_ofList]
    exact stops_trimmed _
  have hend : Ends isWhitespace (trim s).toList := by
    rw [trim, String.toList_ofList]
    exact ends_trimmed _
  refine contains_lower_trim_of_ends ?_ ?_ text
  · intro c hc
    rw [toAsciiLowercase, String.toList_ofList, List.head?_map] at hc
    obtain ⟨d, hd, rfl⟩ := Option.map_eq_some_iff.mp hc
    rw [isWhitespace_lowerChar]
    exact hstart d hd
  · intro c hc
    rw [toAsciiLowercase, String.toList_ofList, List.getLast?_map] at hc
    obtain ⟨d, hd, rfl⟩ := Option.map_eq_some_iff.mp hc
    rw [isWhitespace_lowerChar]
    exact hend d hd

theorem shownName_of_named (h : trim ci.name ≠ "") : ci.shownName = trim ci.name := by
  simp [shownName, nonBlank, Option.filter, h]

/-- A name that is asked for is part of the shown name, unless the server has none. -/
theorem name_shown (hasked : asked ∈ nonBlank query.name)
    (hname : trim ci.name ≠ "") : partOf asked ci.shownName = partOf asked ci.name := by
  rw [shownName_of_named hname, partOf_trim hasked]

theorem named_of_part (hasked : asked ∈ nonBlank query.name)
    (hpart : partOf asked ci.name = true) : trim ci.name ≠ "" := by
  intro hempty
  obtain ⟨s, -, rfl, hne⟩ := nonBlank_eq_some hasked
  rw [← partOf_trim hasked, hempty, partOf_empty hne] at hpart
  cases hpart

/-- An address that is equal to one without blanks at its ends has none either. -/
theorem unpadded_of_equal (hasked : asked ∈ nonBlank query.ipAddress)
    (heq : eqIgnoreAsciiCase ci.ipAddress asked = true) : trim ci.ipAddress = ci.ipAddress := by
  obtain ⟨s, -, rfl, hne⟩ := nonBlank_eq_some hasked
  rw [eqIgnoreAsciiCase_iff] at heq
  have hblank : ∀ c d : Char, lowerChar c = lowerChar d → isWhitespace c = isWhitespace d := by
    intro c d h
    rw [← isWhitespace_lowerChar c, ← isWhitespace_lowerChar d, h]
  have htrimmed : (trim s).toList = trimmed isWhitespace s.toList := by
    rw [trim, String.toList_ofList]
    rfl
  rw [htrimmed] at heq
  show String.ofList (trimmed isWhitespace ci.ipAddress.toList) = ci.ipAddress
  rw [trimmed_of, String.ofList_toList]
  · intro c hc
    have hhead : (ci.ipAddress.toList.map lowerChar).head? = some (lowerChar c) := by
      rw [List.head?_map, Option.mem_def.mp hc]
      rfl
    rw [heq, List.head?_map] at hhead
    obtain ⟨d, hd, hlower⟩ := Option.map_eq_some_iff.mp hhead
    rw [← hblank d c hlower]
    exact stops_trimmed _ d hd
  · intro c hc
    have hlast : (ci.ipAddress.toList.map lowerChar).getLast? = some (lowerChar c) := by
      rw [List.getLast?_map, Option.mem_def.mp hc]
      rfl
    rw [heq, List.getLast?_map] at hlast
    obtain ⟨d, hd, hlower⟩ := Option.map_eq_some_iff.mp hlast
    rw [← hblank d c hlower]
    exact ends_trimmed _ d hd

/-- What the cache selects, ServiceNow selects exactly if nothing lets only the cache select it. -/
theorem live_iff_of_cached (h : ci.CachedSelected lib query) :
    ci.LiveSelected query ↔ ¬ ci.OnlyCached query := by
  constructor
  · rintro hlive (hclass | ⟨hasked, hname⟩ | ⟨hasked, hip⟩ | ⟨asked, hasked, hgroup⟩ |
      ⟨asked, hasked, htext⟩)
    · exact hclass hlive.className
    · obtain ⟨asked, hasked⟩ := Option.isSome_iff_exists.mp hasked
      exact named_of_part hasked (hlive.name asked hasked) hname
    · obtain ⟨asked, hasked⟩ := Option.isSome_iff_exists.mp hasked
      exact hip (unpadded_of_equal hasked (hlive.ipAddress asked hasked))
    · obtain ⟨group, hmem, hmeant⟩ := hlive.group asked hasked
      exact hgroup group hmem hmeant
    · have hnone : ∀ text ∈ [ci.name, ci.shortDescription, ci.ipAddress],
          partOf asked text = true → False :=
        fun text hmem hpart => Bool.false_ne_true ((htext text hmem).symm.trans hpart)
      rcases hlive.text asked hasked with hpart | hpart | hpart
      · exact hnone ci.name List.mem_cons_self hpart
      · exact hnone ci.shortDescription (.tail _ List.mem_cons_self) hpart
      · exact hnone ci.ipAddress (.tail _ (.tail _ List.mem_cons_self)) hpart
  · intro hnot
    refine ⟨?_, ?_, ?_, ?_, ?_⟩
    · by_contra hclass
      exact hnot (.otherClass hclass)
    · intro asked hasked
      have hname : trim ci.name ≠ "" := fun hempty =>
        hnot (.unnamed (Option.isSome_iff_exists.mpr ⟨asked, hasked⟩) hempty)
      rw [← name_shown hasked hname]
      exact h.name asked hasked
    · intro asked hasked
      have hip : trim ci.ipAddress = ci.ipAddress := by
        by_contra hpadded
        exact hnot (.padded (Option.isSome_iff_exists.mpr ⟨asked, hasked⟩) hpadded)
      rw [← hip]
      exact h.ipAddress asked hasked
    · intro asked hasked
      by_contra hgroup
      exact hnot (.partOfGroup asked hasked fun group hmem hmeant => hgroup ⟨group, hmem, hmeant⟩)
    · intro asked hasked
      by_contra htext
      refine hnot (.otherText asked hasked fun text hmem => ?_)
      by_contra hpart
      rw [Bool.not_eq_false] at hpart
      simp only [List.mem_cons, List.not_mem_nil, or_false] at hmem
      rcases hmem with rfl | rfl | rfl
      · exact htext (.inl hpart)
      · exact htext (.inr (.inl hpart))
      · exact htext (.inr (.inr hpart))

/-- What ServiceNow selects, the cache selects exactly if nothing lets only ServiceNow select it. -/
theorem cached_iff_of_live (h : ci.LiveSelected query) :
    ci.CachedSelected lib query ↔ ¬ ci.OnlyLive lib query := by
  constructor
  · rintro hcached (hclass | ⟨asked, hasked, hgroup⟩ | ⟨asked, hasked, htext⟩)
    · exact hclass hcached.className
    · obtain ⟨group, hmem, hpart⟩ := hcached.group asked hasked
      exact Bool.false_ne_true ((hgroup group hmem).symm.trans hpart)
    · exact Bool.false_ne_true (htext.symm.trans (hcached.text asked hasked))
  · intro hnot
    refine ⟨?_, ?_, ?_, ?_, ?_⟩
    · by_contra hclass
      exact hnot (.otherLabel hclass)
    · intro asked hasked
      have hpart := h.name asked hasked
      rw [name_shown hasked (named_of_part hasked hpart)]
      exact hpart
    · intro asked hasked
      have heq := h.ipAddress asked hasked
      rw [unpadded_of_equal hasked heq]
      exact heq
    · intro asked hasked
      by_contra hgroup
      refine hnot (.groupUnsaid asked hasked fun group hmem => ?_)
      by_contra hpart
      exact hgroup ⟨group, hmem, Bool.not_eq_false _ ▸ hpart⟩
    · intro asked hasked
      by_contra htext
      exact hnot (.textUnsaid asked hasked (Bool.eq_false_iff.mpr htext))

variable (ci lib query) in
/-- **A server on which the two agree.**  What the cache selects has nothing that lets only the
cache select it, and what ServiceNow selects nothing that lets only ServiceNow select it. -/
structure Agrees : Prop where
  cached : ci.CachedSelected lib query → ¬ ci.OnlyCached query
  live : ci.LiveSelected query → ¬ ci.OnlyLive lib query

theorem agrees_iff :
    ci.Agrees lib query ↔ (ci.CachedSelected lib query ↔ ci.LiveSelected query) := by
  constructor
  · rintro ⟨hcached, hlive⟩
    exact ⟨fun h => (live_iff_of_cached h).mpr (hcached h),
      fun h => (cached_iff_of_live h).mpr (hlive h)⟩
  · intro hiff
    exact ⟨fun h => (live_iff_of_cached h).mp (hiff.mp h),
      fun h => (cached_iff_of_live h).mp (hiff.mpr h)⟩

end ServerCi

/-! ## The two selections -/

section

variable (lib : ServerLib) (now : DateTime) (cis : List ServerCi) (query : ServerQuery)

/-- The `sys_id`s that the cache selects, of the mirrors of all servers. -/
def cachedSelection : List String :=
  (matchingServers (cis.map (ServerCi.mirrored lib now)) query).map CachedRecord.sysId

/-- The `sys_id`s that ServiceNow selects for a request. -/
def liveSelection (table : TableApi) : List String :=
  (cis.filter fun ci => ci.selected table).map ServerCi.sysId

/-- **The same servers.**  ServiceNow is asked, and selects what the cache selects. -/
def SelectSame : Prop :=
  ∃ table, queryServersPolicyLive query = .ok table ∧
    ∀ sysId, sysId ∈ cachedSelection lib now cis query ↔ sysId ∈ liveSelection cis table

end

section

variable {lib : ServerLib} {now : DateTime} {cis : List ServerCi} {query : ServerQuery}

/-- A server is found by its `sys_id`. -/
theorem ServerCi.eq_of_sysId (hids : (cis.map ServerCi.sysId).Nodup) {a b : ServerCi} (ha : a ∈ cis)
    (hb : b ∈ cis) (h : a.sysId = b.sysId) : a = b :=
  List.inj_on_of_nodup_map hids ha hb h

variable {ci : ServerCi}

theorem mem_cachedSelection (hvalid : query.validate = .ok ())
    (hids : (cis.map ServerCi.sysId).Nodup) (hci : ci ∈ cis) :
    ci.sysId ∈ cachedSelection lib now cis query ↔ ci.CachedSelected lib query := by
  rw [cachedSelection, matchingServers, List.mem_map]
  constructor
  · rintro ⟨record, hrecord, hsame⟩
    obtain ⟨hmem, hmatch⟩ := List.mem_filter.mp hrecord
    obtain ⟨other, hother, rfl⟩ := List.mem_map.mp hmem
    obtain rfl := ServerCi.eq_of_sysId hids hother hci hsame
    exact (ServerCi.serverMatchesQuery_iff hvalid).mp hmatch
  · intro hselected
    exact ⟨ci.mirrored lib now, List.mem_filter.mpr ⟨List.mem_map_of_mem hci,
      (ServerCi.serverMatchesQuery_iff hvalid).mpr hselected⟩, ServerCi.mirrored_sysId⟩

theorem mem_liveSelection (hids : (cis.map ServerCi.sysId).Nodup) (hci : ci ∈ cis)
    {table : TableApi} : ci.sysId ∈ liveSelection cis table ↔ ci.selected table = true := by
  rw [liveSelection, List.mem_map]
  constructor
  · rintro ⟨other, hother, hsame⟩
    obtain ⟨hmem, hselected⟩ := List.mem_filter.mp hother
    rwa [← ServerCi.eq_of_sysId hids hmem hci hsame]
  · exact fun hselected => ⟨ci, List.mem_filter.mpr ⟨hci, hselected⟩, rfl⟩

/-- **The cache and ServiceNow select the same servers exactly if they agree on each of them.** -/
theorem select_same_iff (hvalid : query.validate = .ok ())
    (hids : (cis.map ServerCi.sysId).Nodup) :
    SelectSame lib now cis query ↔ ∀ ci ∈ cis, ci.Agrees lib query := by
  obtain ⟨table, htable, hlive⟩ := ServerCi.selected_live hvalid
  constructor
  · rintro ⟨asked, hasked, hsame⟩ ci hci
    obtain rfl := Except.ok.inj (hasked.symm.trans htable)
    rw [ServerCi.agrees_iff, ← hlive ci, ← mem_liveSelection hids hci, ← hsame,
      mem_cachedSelection hvalid hids hci]
  · intro hagrees
    refine ⟨table, htable, fun sysId => ?_⟩
    have hboth : ∀ ci ∈ cis, (ci.sysId ∈ cachedSelection lib now cis query ↔
        ci.sysId ∈ liveSelection cis table) := by
      intro ci hci
      rw [mem_cachedSelection hvalid hids hci, mem_liveSelection hids hci, hlive ci]
      exact ServerCi.agrees_iff.mp (hagrees ci hci)
    constructor
    · intro hmem
      obtain ⟨record, hrecord, rfl⟩ := List.mem_map.mp hmem
      obtain ⟨ci, hci, rfl⟩ := List.mem_map.mp (List.mem_filter.mp hrecord).1
      exact (hboth ci hci).mp hmem
    · intro hmem
      obtain ⟨ci, hfound, rfl⟩ := List.mem_map.mp hmem
      exact (hboth ci (List.mem_filter.mp hfound).1).mpr hmem

end

/-- Names as they are found. -/
def namedLib : ServerLib :=
  ⟨incidentLib, fun names => ((names.filterMap id).find? (· ≠ "")).getD ""⟩

/-- A server that runs Linux, with the label of its class. -/
def linuxCi : ServerCi where
  sysId := "cccccccccccccccccccccccccccccccc"
  name := "app01"
  shortDescription := ""
  ipAddress := "192.0.2.10"
  fqdn := "app01.example.com"
  dnsDomain := ""
  className := "cmdb_ci_linux_server"
  classLabel := "Linux Server"
  managedByGroup := none
  supportGroup := none
  legal := by decide +kernel

/-- A query for a part of the name of a server. -/
def queryByName : ServerQuery := ⟨none, some "APP", none, none, none, none, none⟩

/-- A query for the servers that run Linux. -/
def queryByClass : ServerQuery := ⟨none, none, none, none, some "linux", none, none⟩

theorem named_server_found : SelectSame namedLib 0 [linuxCi] queryByName := by
  have hids : ([linuxCi].map ServerCi.sysId).Nodup := List.nodup_singleton _
  refine (select_same_iff (by decide +kernel) hids).mpr ?_
  intro ci hci
  obtain rfl := List.mem_singleton.mp hci
  constructor
  · rintro - (hclass | ⟨-, hname⟩ | ⟨hasked, -⟩ | ⟨asked, hasked, -⟩ | ⟨asked, hasked, -⟩)
    · exact hclass ⟨"cmdb_ci_linux_server", by decide +kernel⟩
    · revert hname
      decide +kernel
    · cases hasked
    · cases hasked
    · cases hasked
  · rintro - (hclass | ⟨asked, hasked, -⟩ | ⟨asked, hasked, -⟩)
    · refine hclass fun leaf hleaf => ?_
      cases hleaf
    · cases hasked
    · cases hasked

/-- The cache shows the label of a class, which is not the class that is asked for. -/
theorem labelled_server_missed : queryByClass.validate = .ok () ∧
    ([linuxCi].map ServerCi.sysId).Nodup ∧ ¬ SelectSame namedLib 0 [linuxCi] queryByClass := by
  have hvalid : queryByClass.validate = .ok () := by decide +kernel
  have hids : ([linuxCi].map ServerCi.sysId).Nodup := List.nodup_singleton _
  refine ⟨hvalid, hids, ?_⟩
  rintro ⟨table, htable, hsame⟩
  obtain ⟨asked, hasked, hlive⟩ := ServerCi.selected_live hvalid
  obtain rfl := Except.ok.inj (hasked.symm.trans htable)
  have hselected : linuxCi.LiveSelected queryByClass := by
    refine ⟨?_, ?_, ?_, ?_, ?_⟩
    · show eqIgnoreAsciiCase linuxCi.className "cmdb_ci_linux_server" = true
      decide +kernel
    · exact fun asked hasked => by cases hasked
    · exact fun asked hasked => by cases hasked
    · exact fun asked hasked => by cases hasked
    · exact fun asked hasked => by cases hasked
  have hmem := (mem_liveSelection hids List.mem_cons_self).mpr ((hlive linuxCi).mpr hselected)
  have hcached := (mem_cachedSelection hvalid hids List.mem_cons_self).mp ((hsame _).mpr hmem)
  have hlabel := hcached.className "cmdb_ci_linux_server" (by decide +kernel)
  revert hlabel
  decide +kernel

end SnowAgent.Core
