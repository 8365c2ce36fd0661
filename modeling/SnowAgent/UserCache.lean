import Mathlib.Data.List.Perm.Basic
import SnowAgent.Runs
import SnowAgent.Table
import SnowAgent.TableApi

/-! # The user cache

Users are looked up by one field or searched by several.  The answer to a query is kept under
a text made of the query, as a list of `sys_id`s with an expiry of its own; the users
themselves are kept in a table that every query refreshes.
-/
namespace SnowAgent.Core

open Json Text

/-! ## Users -/

/-- The fields of a user that are kept and answered with. -/
structure UserFields where
  userName : Option String
  name : Option String
  firstName : Option String
  lastName : Option String
  email : Option String
  employeeNumber : Option String
  active : Option Bool
  department : Option String
  location : Option String
  title : Option String
deriving DecidableEq

/-- `UserRecord`. -/
structure UserRecord where
  sysId : String
  table : String
  fields : UserFields
  display : String
deriving DecidableEq

/-- `CachedUserRow`, as far as it is read. -/
structure CachedUserRow where
  sysId : String
  fields : UserFields
  syncedAt : DateTime

/-- `CachedUserQueryRow`. -/
structure CachedUserQueryRow where
  resultSysIds : List String
  syncedAt : DateTime
  expiresAt : DateTime

/-- The two tables of the cache. -/
structure UserCache where
  users : Table String CachedUserRow
  queries : Table String CachedUserQueryRow

namespace UserCache

/-- The cache without rows. -/
def empty : UserCache := ⟨Table.empty, Table.empty⟩

end UserCache

/-- `first_non_empty_str`. -/
def firstNonEmptyStr (values : List (Option String)) : Option String :=
  ((values.filterMap id).map trim).find? (· ≠ "")

/-- `parse_bool`. -/
def parseBool (value : String) : Option Bool :=
  let text := toAsciiLowercase (trim value)
  if ["true", "1", "yes"].contains text then some true
  else if ["false", "0", "no"].contains text then some false
  else none

/-- `bool_field`. -/
def boolField (record : Record) (field : String) : Option Bool :=
  (record.fields.get field).bind fun f =>
    ((f.value.bind Value.asBool).orElse fun _ => (f.value.bind Value.asStr).bind parseBool).orElse
      fun _ => f.displayValue.bind parseBool

variable (lib : CoreLib)

/-- The fields of a row of `sys_user`. -/
def userFieldsOf (record : Record) : UserFields where
  userName := nonBlank (record.getStr lib "user_name")
  name := nonBlank (record.getStr lib "name")
  firstName := nonBlank (record.getStr lib "first_name")
  lastName := nonBlank (record.getStr lib "last_name")
  email := nonBlank (record.getStr lib "email")
  employeeNumber := nonBlank (record.getStr lib "employee_number")
  active := boolField record "active"
  department := nonBlank (record.getStr lib "department")
  location := nonBlank (record.getStr lib "location")
  title := nonBlank (record.getStr lib "title")

/-- `user_record_from_record`. -/
def userRecordFromRecord (record : Record) : UserRecord where
  sysId := record.sysId
  table := "sys_user"
  fields := userFieldsOf lib record
  display := (firstNonEmptyStr [record.getStr lib "name", record.getStr lib "user_name",
    record.getStr lib "email"]).getD record.sysId

/-- `user_record_from_cached_row`. -/
def userRecordFromCachedRow (row : CachedUserRow) : UserRecord where
  sysId := row.sysId
  table := "sys_user"
  fields := row.fields
  display := (firstNonEmptyStr [row.fields.name, row.fields.userName, row.fields.email]).getD
    row.sysId

/-- A time as the database keeps it: in whole seconds. -/
def storedTime (t : DateTime) : DateTime := durationSeconds (timestampSeconds t)

/-- `cached_user_row_from_record`, as it is read back. -/
def cachedUserRowFromRecord (record : Record) (syncedAt : DateTime) : CachedUserRow where
  sysId := record.sysId
  fields := userFieldsOf lib record
  syncedAt := storedTime syncedAt

/-! ## Requests -/

/-- `UserLookup`. -/
structure UserLookup where
  query : Option String
  userName : Option String
  email : Option String
  employeeNumber : Option String
  sysId : Option String
  active : Option Bool

/-- `UserSearch`. -/
structure UserSearch where
  firstName : Option String
  lastName : Option String
  nameContains : Option String
  emailContains : Option String
  limit : Option Nat
  active : Option Bool

/-- How many of some texts are there and not blank. -/
def countNonBlank (values : List (Option String)) : Nat :=
  (values.filter fun value => (nonBlank value).isSome).length

/-- `validate_selector`. -/
def UserLookup.validateSelector (lookup : UserLookup) : Except String Unit :=
  match countNonBlank [lookup.query, lookup.userName, lookup.email, lookup.employeeNumber,
      lookup.sysId] with
  | 1 => .ok ()
  | 0 => .error ("missing required user lookup: provide exactly one of query, user_name, " ++
      "email, employee_number, or sys_id")
  | _ => .error ("ambiguous user lookup: provide exactly one of query, user_name, email, " ++
      "employee_number, or sys_id")

namespace UserSearch

/-- `validated_limit`. -/
def validatedLimit (params : UserSearch) : Except String Nat :=
  let limit := params.limit.getD 20
  if limit = 0 then .error "`limit` must be at least 1"
  else if 100 < limit then .error "`limit` must be at most 100"
  else .ok limit

/-- `validate`. -/
def validate (params : UserSearch) : Except String Unit := do
  let _ ← params.validatedLimit
  if countNonBlank [params.firstName, params.lastName, params.nameContains,
      params.emailContains] = 0 then
    throw ("missing required user search: provide at least one of first_name, last_name, " ++
      "name_contains, or email_contains")
  else return ()

end UserSearch

/-- `UserLookupCandidate`. -/
structure UserLookupCandidate where
  field : String
  value : String
deriving DecidableEq

/-- `user_lookup_candidates`. -/
def userLookupCandidates (lookup : UserLookup) : Except String (List UserLookupCandidate) :=
  match nonBlank lookup.sysId with
  | some sysId => (normalizeRecordLookupSysId sysId).map fun sysId => [⟨"sys_id", sysId⟩]
  | none =>
  match nonBlank lookup.userName with
  | some userName => .ok [⟨"user_name", userName⟩]
  | none =>
  match nonBlank lookup.email with
  | some email => .ok [⟨"email", email⟩]
  | none =>
  match nonBlank lookup.employeeNumber with
  | some employeeNumber => .ok [⟨"employee_number", employeeNumber⟩]
  | none =>
  match nonBlank lookup.query with
  | none => .error ("missing required user lookup: provide exactly one of query, user_name, " ++
      "email, employee_number, or sys_id")
  | some query =>
    if query.toList.contains '@' then .ok [⟨"email", query⟩, ⟨"user_name", query⟩]
    else
      match normalizeRecordLookupSysId query with
      | .ok sysId => .ok [⟨"sys_id", sysId⟩]
      | .error _ => .ok [⟨"user_name", query⟩, ⟨"email", query⟩, ⟨"employee_number", query⟩]

/-! ## Keys -/

/-- `cache_key_value`. -/
def cacheKeyValue (value : String) : String := toAsciiLowercase (trim value)

/-- A truth value as text. -/
def activeText (active : Bool) : String := if active then "true" else "false"

/-- `user_lookup_cache_key`. -/
def userLookupCacheKey (field value : String) (active : Bool) : String :=
  "lookup|active=" ++ activeText active ++ "|" ++ field ++ "=" ++ cacheKeyValue value

/-- One part of the key of a search. -/
def keyPart (name : String) (value : Option String) : List String :=
  ((nonBlank value).map fun value => name ++ "=" ++ cacheKeyValue value).toList

/-- `user_search_cache_key`: the parts are joined as they are. -/
def userSearchCacheKey (params : UserSearch) : Except String String := do
  params.validate
  let limit ← params.validatedLimit
  let parts := ["active=" ++ activeText (params.active.getD true)] ++
    keyPart "first_name" params.firstName ++ keyPart "last_name" params.lastName ++
    keyPart "name_contains" params.nameContains ++ keyPart "email_contains" params.emailContains ++
    ["limit=" ++ limit.repr]
  return "search|" ++ "|".intercalate parts

/-! ## ServiceNow -/

/-- `sys_user`, which does not change: its rows, as they come and in the order of a field.
Equality and containment ignore the case of ASCII letters and outer blanks. -/
structure UserDirectory where
  rows : Option String → List Record
  keys : ((rows none).map Record.sysId).Nodup
  ordered : ∀ order, (rows order).Perm (rows none)
  holds : Atom → Record → Bool
  equalsIgnores : ∀ field a b r, cacheKeyValue a = cacheKeyValue b →
    holds (.equals field a) r = holds (.equals field b) r
  containsIgnores : ∀ field a b r, cacheKeyValue a = cacheKeyValue b →
    holds (.contains field a) r = holds (.contains field b) r

variable (directory : UserDirectory)

/-- The first users that meet some conditions. -/
def UserDirectory.select (conditions : List Atom) (order : Option String) (limit : Nat) :
    List Record :=
  ((directory.rows order).filter fun r => conditions.all fun atom => directory.holds atom r).take
    limit

/-- The users a candidate of a lookup finds: two of them at most. -/
def lookupRows (active : Bool) (candidate : UserLookupCandidate) : List Record :=
  directory.select [.equals candidate.field candidate.value, .equals "active" (activeText active)]
    none 2

/-- The conditions of a search. -/
def searchConditions (params : UserSearch) : List Atom :=
  [.equals "active" (activeText (params.active.getD true))] ++
    ((nonBlank params.firstName).map (.equals "first_name")).toList ++
    ((nonBlank params.lastName).map (.equals "last_name")).toList ++
    ((nonBlank params.nameContains).map (.contains "name")).toList ++
    ((nonBlank params.emailContains).map (.contains "email")).toList

/-- The users a search finds. -/
def searchRows (params : UserSearch) : List Record :=
  directory.select (searchConditions params) (some "name") (params.limit.getD 20)

/-! ## Calls -/

variable (ttl : Int)

/-- `stable_reference_cache_is_fresh`. -/
def stableReferenceCacheIsFresh (syncedAt now : DateTime) : Bool := decide (now - syncedAt ≤ ttl)

/-- `cached_users_for_query_key`. -/
def cachedUsersForQueryKey (cache : UserCache) (queryKey : String) (now : DateTime) :
    Option (List UserRecord) :=
  match (cache.queries.row queryKey).filter fun row => decide (now < row.expiresAt) with
  | none => none
  | some row =>
    if row.resultSysIds.isEmpty then some []
    else
      let rows := row.resultSysIds.filterMap cache.users.row
      if rows.length ≠ row.resultSysIds.length ∨
          (rows.any fun row => !stableReferenceCacheIsFresh ttl row.syncedAt now) = true then none
      else some (rows.map userRecordFromCachedRow)

/-- The users of a query, one after the other. -/
def upsertCachedUsers (cache : UserCache) (records : List Record) (syncedAt : DateTime) :
    UserCache :=
  { cache with users := records.foldl (fun users record =>
      users.put record.sysId (cachedUserRowFromRecord lib record syncedAt)) cache.users }

/-- `persist_user_query_cache`. -/
def persistUserQueryCache (cache : UserCache) (queryKey : String) (records : List Record)
    (syncedAt : DateTime) : UserCache × List UserRecord :=
  let kept := upsertCachedUsers lib cache records syncedAt
  let row : CachedUserQueryRow :=
    ⟨records.map Record.sysId, storedTime syncedAt, storedTime (syncedAt + ttl)⟩
  ({ kept with queries := kept.queries.put queryKey row }, records.map (userRecordFromRecord lib))

/-- `UserLookupResult`. -/
structure UserLookupResult where
  matchedBy : String
  user : UserRecord
deriving DecidableEq

/-- What surrounds a call: the time it starts at, the times its answers are kept at, and the
requests that fail. -/
structure CallContext where
  now : DateTime
  clock : Nat → DateTime
  fault : Nat → Option String

/-- The candidates of a lookup, from the one that makes the next request. -/
def lookupCandidates (active : Bool) (ctx : CallContext) :
    List UserLookupCandidate → Nat → UserCache → UserCache × Except String (Option UserLookupResult)
  | [], _, cache => (cache, .ok none)
  | candidate :: candidates, i, cache =>
    let queryKey := userLookupCacheKey candidate.field candidate.value active
    match cachedUsersForQueryKey ttl cache queryKey ctx.now with
    | some [] => lookupCandidates active ctx candidates (i + 1) cache
    | some [user] => (cache, .ok (some ⟨candidate.field, user⟩))
    | some _ => (cache, .error ("multiple cached sys_user records matched " ++
        candidate.field ++ "=" ++ candidate.value))
    | none =>
      match ctx.fault i with
      | some err => (cache, .error err)
      | none =>
        match lookupRows directory active candidate with
        | [] =>
          let (cache, _) := persistUserQueryCache lib ttl cache queryKey [] (ctx.clock i)
          lookupCandidates active ctx candidates (i + 1) cache
        | [record] =>
          let (cache, users) :=
            persistUserQueryCache lib ttl cache queryKey [record] (ctx.clock i)
          (cache, .ok (users.getLast?.map fun user => ⟨candidate.field, user⟩))
        | _ => (cache, .error ("multiple sys_user records matched " ++
            candidate.field ++ "=" ++ candidate.value))

/-- `lookup_user`. -/
def lookupUser (ctx : CallContext) (cache : UserCache) (lookup : UserLookup) :
    UserCache × Except String (Option UserLookupResult) :=
  match lookup.validateSelector with
  | .error err => (cache, .error err)
  | .ok _ =>
    match userLookupCandidates lookup with
    | .error err => (cache, .error err)
    | .ok candidates =>
      lookupCandidates lib directory ttl (lookup.active.getD true) ctx candidates 0 cache

/-- `search_users`. -/
def searchUsers (ctx : CallContext) (cache : UserCache) (params : UserSearch) :
    UserCache × Except String (List UserRecord) :=
  match userSearchCacheKey params with
  | .error err => (cache, .error err)
  | .ok queryKey =>
    match cachedUsersForQueryKey ttl cache queryKey ctx.now with
    | some users => (cache, .ok users)
    | none =>
      match ctx.fault 0 with
      | some err => (cache, .error err)
      | none =>
        let (cache, users) := persistUserQueryCache lib ttl cache queryKey
          (searchRows directory params) (ctx.clock 0)
        (cache, .ok users)

/-- The two calls. -/
inductive UserCall where
  | lookup (lookup : UserLookup)
  | search (params : UserSearch)

/-- Their answers. -/
inductive UserAnswer where
  | found (result : Option UserLookupResult)
  | users (users : List UserRecord)
deriving DecidableEq

/-- A call with what surrounds it. -/
structure TimedCall where
  call : UserCall
  ctx : CallContext

/-- A call on a cache. -/
def performUserCall (cache : UserCache) (op : TimedCall) : UserCache × Except String UserAnswer :=
  match op.call with
  | .lookup lookup =>
    let (cache, answer) := lookupUser lib directory ttl op.ctx cache lookup
    (cache, answer.map .found)
  | .search params =>
    let (cache, answer) := searchUsers lib directory ttl op.ctx cache params
    (cache, answer.map .users)

/-- What a call answers on an empty cache, with no request failing. -/
def freshAnswer (op : TimedCall) : Except String UserAnswer :=
  (performUserCall lib directory ttl UserCache.empty
    ⟨op.call, { op.ctx with fault := fun _ => none }⟩).2

end SnowAgent.Core
