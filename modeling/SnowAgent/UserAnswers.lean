import SnowAgent.UserCache

/-! # What the user cache answers

Against a directory that does not change, the cache is to be invisible: a call that answers
should answer as it would on an empty cache.  The key of a lookup tells its field, its value and
whether the user is to be active.  The key of a search joins free texts by a character they may
contain, so two searches may share a key; while no two searches of a run that ask for different
things do, the cache is invisible.
-/
namespace SnowAgent.Core

open Json Text

/-! ## Texts -/

/-- Texts that were trimmed are told blank as before. -/
theorem firstNonEmptyStr_nonBlank (values : List (Option String)) :
    firstNonEmptyStr (values.map nonBlank) = firstNonEmptyStr values := by
  unfold firstNonEmptyStr
  induction values with
  | nil => rfl
  | cons value values ih =>
    cases value with
    | none => simpa [nonBlank] using ih
    | some text =>
      by_cases hblank : trim text = ""
      · have hnone : nonBlank (some text) = none := by simp [nonBlank, hblank, Option.filter]
        rw [List.map_cons, hnone]
        simpa [hblank] using ih
      · have hsome : nonBlank (some text) = some (trim text) := by
          simp [nonBlank, hblank, Option.filter]
        rw [List.map_cons, hsome]
        simp [trim_trim, hblank]

/-- A user is answered with from its row as from its record. -/
theorem userRecordFromCachedRow_eq {lib : CoreLib} {row : CachedUserRow} {record : Record}
    (hid : row.sysId = record.sysId) (hfields : row.fields = userFieldsOf lib record) :
    userRecordFromCachedRow row = userRecordFromRecord lib record := by
  have hdisplay := firstNonEmptyStr_nonBlank
    [record.getStr lib "name", record.getStr lib "user_name", record.getStr lib "email"]
  simp only [List.map_cons, List.map_nil] at hdisplay
  simp only [userRecordFromCachedRow, userRecordFromRecord, hid, hfields, userFieldsOf, hdisplay]

/-! ## What a query depends on -/

variable {lib : CoreLib} {directory : UserDirectory} {ttl : Int} {active : Bool}

/-- What a search asks for: its texts as they are compared. -/
structure SearchTerms where
  active : Bool
  firstName : Option String
  lastName : Option String
  nameContains : Option String
  emailContains : Option String
  limit : Nat
deriving DecidableEq

/-- The terms of a search. -/
def UserSearch.terms (params : UserSearch) : SearchTerms where
  active := params.active.getD true
  firstName := (nonBlank params.firstName).map cacheKeyValue
  lastName := (nonBlank params.lastName).map cacheKeyValue
  nameContains := (nonBlank params.nameContains).map cacheKeyValue
  emailContains := (nonBlank params.emailContains).map cacheKeyValue
  limit := params.limit.getD 20

/-- Conditions that differ in what ServiceNow ignores hold of the same rows. -/
theorem all_holds_congr {a b : Option String} {atom : String → Atom} {r : Record}
    (hatom : ∀ x y, cacheKeyValue x = cacheKeyValue y →
      directory.holds (atom x) r = directory.holds (atom y) r)
    (h : a.map cacheKeyValue = b.map cacheKeyValue) :
    (a.map atom).toList.all (fun atom => directory.holds atom r) =
      (b.map atom).toList.all fun atom => directory.holds atom r := by
  rcases a with _ | x <;> rcases b with _ | y
  · rfl
  · simp at h
  · simp at h
  · simpa using hatom x y (by simpa using h)

/-- Searches of the same terms find the same users. -/
theorem searchRows_congr {p q : UserSearch} (h : p.terms = q.terms) :
    searchRows directory p = searchRows directory q := by
  simp only [UserSearch.terms, SearchTerms.mk.injEq] at h
  obtain ⟨hactive, hfirst, hlast, hname, hemail, hlimit⟩ := h
  have hconditions : ∀ r, (searchConditions p).all (fun atom => directory.holds atom r) =
      (searchConditions q).all fun atom => directory.holds atom r := by
    intro r
    simp only [searchConditions, List.all_append, hactive]
    rw [all_holds_congr (fun x y hxy => directory.equalsIgnores _ x y r hxy) hfirst,
      all_holds_congr (fun x y hxy => directory.equalsIgnores _ x y r hxy) hlast,
      all_holds_congr (fun x y hxy => directory.containsIgnores _ x y r hxy) hname,
      all_holds_congr (fun x y hxy => directory.containsIgnores _ x y r hxy) hemail]
  simp only [searchRows, UserDirectory.select, hlimit, hconditions]

/-- Lookups of values that differ in what ServiceNow ignores find the same users. -/
theorem lookupRows_congr {field a b : String} (h : cacheKeyValue a = cacheKeyValue b) :
    lookupRows directory active ⟨field, a⟩ = lookupRows directory active ⟨field, b⟩ := by
  simp only [lookupRows, UserDirectory.select, List.all_cons, List.all_nil,
    directory.equalsIgnores field a b _ h]

theorem select_subset {conditions : List Atom} {order : Option String} {limit : Nat} :
    ∀ r ∈ directory.select conditions order limit, r ∈ directory.rows none := by
  intro r hr
  have hin := List.mem_of_mem_filter (List.mem_of_mem_take hr)
  exact (directory.ordered order).mem_iff.mp hin

/-! ## Keys -/

variable {key : String} {params : UserSearch}

/-- The fields a lookup may ask for. -/
def lookupFields : List String := ["sys_id", "user_name", "email", "employee_number"]

theorem activeText_plain (active : Bool) : '|' ∉ (activeText active).toList := by
  cases active <;> decide

theorem activeText_injective {a b : Bool} (h : (activeText a).toList = (activeText b).toList) :
    a = b := by
  cases a <;> cases b
  · rfl
  · exact absurd h (by decide)
  · exact absurd h (by decide)
  · rfl

theorem lookupFields_plain : ∀ field ∈ lookupFields, '=' ∉ field.toList := by
  decide

/-- Two texts with one separator that their first parts do not contain have the same parts. -/
theorem append_cons_inj {c : Char} : ∀ {xs xs' ys ys' : List Char}, c ∉ xs → c ∉ xs' →
    xs ++ c :: ys = xs' ++ c :: ys' → xs = xs' ∧ ys = ys'
  | [], [], ys, ys', _, _, h => ⟨rfl, (List.cons.inj h).2⟩
  | [], x :: xs', ys, ys', _, hxs', h => by
    obtain ⟨rfl, _⟩ := List.cons.inj h
    exact absurd List.mem_cons_self hxs'
  | x :: xs, [], ys, ys', hxs, _, h => by
    obtain ⟨rfl, _⟩ := List.cons.inj h
    exact absurd List.mem_cons_self hxs
  | x :: xs, x' :: xs', ys, ys', hxs, hxs', h => by
    obtain ⟨rfl, hrest⟩ := List.cons.inj h
    obtain ⟨rfl, hys⟩ := append_cons_inj (fun hc => hxs (List.mem_cons_of_mem _ hc))
      (fun hc => hxs' (List.mem_cons_of_mem _ hc)) hrest
    exact ⟨rfl, hys⟩

theorem lookupKey_toList (field value : String) (active : Bool) :
    (userLookupCacheKey field value active).toList = "lookup|active=".toList ++
      ((activeText active).toList ++ '|' :: (field.toList ++ '=' :: (cacheKeyValue
        value).toList)) := by
  unfold userLookupCacheKey
  simp only [String.toList_append, List.append_assoc]
  rfl

/-- The key of a lookup tells what it asks for. -/
theorem lookupKey_injective {field field' value value' : String} {active active' : Bool}
    (hfield : field ∈ lookupFields) (hfield' : field' ∈ lookupFields)
    (h : userLookupCacheKey field value active = userLookupCacheKey field' value' active') :
    field = field' ∧ active = active' ∧ cacheKeyValue value = cacheKeyValue value' := by
  have hchars := congrArg String.toList h
  rw [lookupKey_toList, lookupKey_toList, List.append_cancel_left_eq] at hchars
  obtain ⟨hactive, hrest⟩ := append_cons_inj (activeText_plain _) (activeText_plain _) hchars
  obtain ⟨hname, hvalue⟩ := append_cons_inj (lookupFields_plain _ hfield)
    (lookupFields_plain _ hfield') hrest
  exact ⟨String.toList_inj.mp hname, activeText_injective hactive, String.toList_inj.mp hvalue⟩

/-- The key of a search, with its parts. -/
theorem searchKey_eq (h : userSearchCacheKey params = .ok key) :
    key = "search|" ++ "|".intercalate (["active=" ++ activeText (params.active.getD true)] ++
      keyPart "first_name" params.firstName ++ keyPart "last_name" params.lastName ++
      keyPart "name_contains" params.nameContains ++
      keyPart "email_contains" params.emailContains ++
      ["limit=" ++ (params.limit.getD 20).repr]) := by
  obtain ⟨_, _, hrest⟩ := bind_eq_ok_iff.mp h
  obtain ⟨limit, hlimit, hkey⟩ := bind_eq_ok_iff.mp hrest
  have hsame : limit = params.limit.getD 20 := by
    unfold UserSearch.validatedLimit at hlimit
    dsimp only at hlimit
    split_ifs at hlimit
    exact (Except.ok.inj hlimit).symm
  rw [hsame] at hkey
  exact (Except.ok.inj hkey).symm

/-- No lookup shares its key with a search. -/
theorem lookupKey_ne_searchKey {field value key : String}
    (h : userSearchCacheKey params = .ok key) : userLookupCacheKey field value active ≠ key := by
  rw [searchKey_eq h]
  intro heq
  have hchars := congrArg (fun text => text.toList.take 1) heq
  simp only [lookupKey_toList, String.toList_append] at hchars
  rw [List.take_append_of_le_length (by decide), List.take_append_of_le_length (by decide)]
    at hchars
  exact absurd hchars (by decide)

/-! ## What the cache keeps -/

variable {asked : List UserSearch} {cache : UserCache} {users : List UserRecord} {now : DateTime}

variable {syncedAt : DateTime} {ids : List String}

/-- Every user that is kept is one of the directory. -/
def UsersTrue (lib : CoreLib) (directory : UserDirectory) (cache : UserCache) : Prop :=
  ∀ id row, cache.users.row id = some row → ∃ record ∈ directory.rows none,
    record.sysId = id ∧ row.sysId = id ∧ row.fields = userFieldsOf lib record

/-- What the `sys_id`s under a key are those of: the users of a lookup, one at most, or of a
search that was asked. -/
inductive Explains (directory : UserDirectory) (asked : List UserSearch) :
    String → List String → Prop where
  | lookup {active : Bool} {candidate : UserLookupCandidate} :
      candidate.field ∈ lookupFields → (lookupRows directory active candidate).length ≤ 1 →
        Explains directory asked (userLookupCacheKey candidate.field candidate.value active)
          ((lookupRows directory active candidate).map Record.sysId)
  | search {params : UserSearch} {key : String} :
      params ∈ asked → userSearchCacheKey params = .ok key →
        Explains directory asked key ((searchRows directory params).map Record.sysId)

/-- What a cache keeps is true of a directory, and was asked for. -/
structure CacheTrue (lib : CoreLib) (directory : UserDirectory) (asked : List UserSearch)
    (cache : UserCache) : Prop where
  users : UsersTrue lib directory cache
  queries : ∀ key row, cache.queries.row key = some row →
    Explains directory asked key row.resultSysIds

/-- No two searches that ask for different things share a key. -/
def Unshared (asked : List UserSearch) : Prop :=
  ∀ p ∈ asked, ∀ q ∈ asked, ∀ key, userSearchCacheKey p = .ok key →
    userSearchCacheKey q = .ok key → p.terms = q.terms

theorem Explains.mono {asked asked' : List UserSearch} (h : Explains directory asked key ids)
    (hsub : ∀ p ∈ asked, p ∈ asked') :
    Explains directory asked' key ids := by
  cases h with
  | lookup hfield hfew => exact .lookup hfield hfew
  | search hasked hkey => exact .search (hsub _ hasked) hkey

theorem CacheTrue.mono {asked asked' : List UserSearch} (h : CacheTrue lib directory asked cache)
    (hsub : ∀ p ∈ asked, p ∈ asked') :
    CacheTrue lib directory asked' cache :=
  ⟨h.users, fun key row hrow => (h.queries key row hrow).mono hsub⟩

theorem cacheTrue_empty : CacheTrue lib directory [] UserCache.empty :=
  ⟨fun _ _ h => by simp [UserCache.empty] at h, fun _ _ h => by simp [UserCache.empty] at h⟩

/-- Two users of the directory with one `sys_id` are the same. -/
theorem directory_unique {a b : Record} (ha : a ∈ directory.rows none)
    (hb : b ∈ directory.rows none) (h : a.sysId = b.sysId) : a = b :=
  List.inj_on_of_nodup_map directory.keys ha hb h

/-- Keeping users of the directory keeps the table true. -/
theorem UsersTrue.upsert : ∀ {records : List Record} {cache : UserCache},
    UsersTrue lib directory cache → (∀ r ∈ records, r ∈ directory.rows none) →
      UsersTrue lib directory (upsertCachedUsers lib cache records syncedAt)
  | [], _, h, _ => h
  | record :: records, cache, h, hrecords => by
    let next : UserCache := { cache with
      users := cache.users.put record.sysId (cachedUserRowFromRecord lib record syncedAt) }
    have hnext : UsersTrue lib directory next := by
      intro id row hrow
      rcases Table.row_put_eq_some hrow with ⟨_, hrow⟩ | ⟨rfl, rfl⟩
      · exact h id row hrow
      · exact ⟨record, hrecords record List.mem_cons_self, rfl, rfl, rfl⟩
    have hrest : UsersTrue lib directory (upsertCachedUsers lib next records syncedAt) :=
      hnext.upsert fun r hr => hrecords r (List.mem_cons_of_mem _ hr)
    exact hrest

/-- Keeping a query that is explained keeps the cache true. -/
theorem CacheTrue.persist {records : List Record} (h : CacheTrue lib directory asked cache)
    (hrecords : ∀ r ∈ records, r ∈ directory.rows none)
    (hexplains : Explains directory asked key (records.map Record.sysId)) :
    CacheTrue lib directory asked (persistUserQueryCache lib ttl cache key records syncedAt).1 := by
  refine ⟨h.users.upsert hrecords, fun key' row hrow => ?_⟩
  rcases Table.row_put_eq_some hrow with ⟨_, hrow⟩ | ⟨rfl, rfl⟩
  · exact h.queries key' row (by simpa [upsertCachedUsers] using hrow)
  · exact hexplains

/-- Users that are all found in the cache are answered with as they are in the directory. -/
theorem cached_users_eq (h : UsersTrue lib directory cache) :
    ∀ {records : List Record}, (∀ r ∈ records, r ∈ directory.rows none) →
      ((records.map Record.sysId).filterMap cache.users.row).length =
        (records.map Record.sysId).length →
      ((records.map Record.sysId).filterMap cache.users.row).map userRecordFromCachedRow =
        records.map (userRecordFromRecord lib)
  | [], _, _ => rfl
  | record :: records, hrecords, hlength => by
    cases hrow : cache.users.row record.sysId with
    | none =>
      have hle := List.length_filterMap_le cache.users.row (records.map Record.sysId)
      simp only [List.map_cons, List.filterMap_cons, hrow, List.length_cons] at hlength
      omega
    | some row =>
      simp only [List.map_cons, List.filterMap_cons, hrow, List.length_cons,
        Nat.add_right_cancel_iff] at hlength
      have hrest := cached_users_eq h (fun r hr => hrecords r (List.mem_cons_of_mem _ hr)) hlength
      obtain ⟨found, hfound, hid, hrowId, hfields⟩ := h _ row hrow
      obtain rfl := directory_unique hfound (hrecords record List.mem_cons_self) hid
      simp only [List.map_cons, List.filterMap_cons, hrow, hrest]
      rw [userRecordFromCachedRow_eq hrowId hfields]

/-- **What a hit answers.**  A key that is found answers with the users it is explained by. -/
theorem hit_eq (h : CacheTrue lib directory asked cache)
    (hhit : cachedUsersForQueryKey ttl cache key now = some users) :
    ∃ ids, Explains directory asked key ids ∧
      ∀ records : List Record, (∀ r ∈ records, r ∈ directory.rows none) →
        ids = records.map Record.sysId → users = records.map (userRecordFromRecord lib) := by
  unfold cachedUsersForQueryKey at hhit
  cases hrow : (cache.queries.row key).filter fun row => decide (now < row.expiresAt) with
  | none => simp [hrow] at hhit
  | some row =>
    have hkept := (Option.filter_eq_some_iff.mp hrow).1
    refine ⟨row.resultSysIds, h.queries key row hkept, fun records hrecords hids => ?_⟩
    simp only [hrow] at hhit
    by_cases hempty : row.resultSysIds.isEmpty = true
    · rw [if_pos hempty] at hhit
      rw [hids, List.isEmpty_iff, List.map_eq_nil_iff] at hempty
      cases hhit
      rw [hempty]
      rfl
    · rw [if_neg hempty] at hhit
      split_ifs at hhit with hbad
      obtain ⟨hlength, _⟩ := not_or.mp hbad
      rw [hids] at hlength hhit
      cases hhit
      exact cached_users_eq h.users hrecords (not_not.mp hlength)

/-! ## Calls -/

variable {candidate : UserLookupCandidate} {op : TimedCall} {ctx : CallContext}

/-- The answer of the directory to a lookup. -/
def liveLookup (lib : CoreLib) (directory : UserDirectory) (active : Bool) :
    List UserLookupCandidate → Except String (Option UserLookupResult)
  | [] => .ok none
  | candidate :: candidates =>
    match lookupRows directory active candidate with
    | [] => liveLookup lib directory active candidates
    | [record] => .ok (some ⟨candidate.field, userRecordFromRecord lib record⟩)
    | _ => .error ("multiple sys_user records matched " ++ candidate.field ++ "=" ++
        candidate.value)

/-- The answer of the directory to a call. -/
def liveAnswer (lib : CoreLib) (directory : UserDirectory) : UserCall → Except String UserAnswer
  | .lookup lookup => do
    lookup.validateSelector
    let candidates ← userLookupCandidates lookup
    let result ← liveLookup lib directory (lookup.active.getD true) candidates
    return .found result
  | .search params => do
    let _ ← userSearchCacheKey params
    return .users ((searchRows directory params).map (userRecordFromRecord lib))

/-- A call answers as the directory does, or fails with a request. -/
def AnswersAs {α : Type} (ctx : CallContext) (answer live : Except String α) : Prop :=
  answer = live ∨ ∃ i err, ctx.fault i = some err ∧ answer = .error err

theorem explains_lookup (hkey : key = userLookupCacheKey candidate.field candidate.value active)
    (hfield : candidate.field ∈ lookupFields) (h : Explains directory asked key ids) :
    (lookupRows directory active candidate).length ≤ 1 ∧
      ids = (lookupRows directory active candidate).map Record.sysId := by
  cases h with
  | @lookup active' candidate' hfield' hfew =>
    obtain ⟨hname, rfl, hvalue⟩ := lookupKey_injective hfield' hfield hkey
    have hrows : lookupRows directory active' candidate' = lookupRows directory active' candidate := by
      obtain ⟨field', value'⟩ := candidate'
      obtain ⟨field, value⟩ := candidate
      obtain rfl : field' = field := hname
      exact lookupRows_congr hvalue
    exact ⟨hrows ▸ hfew, by rw [hrows]⟩
  | search _ hsearch => exact absurd hkey.symm (lookupKey_ne_searchKey hsearch)

/-- A lookup that hits answers with what the directory has: one user at most. -/
theorem lookup_hit (h : CacheTrue lib directory asked cache)
    (hfield : candidate.field ∈ lookupFields)
    (hhit : cachedUsersForQueryKey ttl cache
      (userLookupCacheKey candidate.field candidate.value active) now = some users) :
    (lookupRows directory active candidate).length ≤ 1 ∧
      users = (lookupRows directory active candidate).map (userRecordFromRecord lib) := by
  obtain ⟨ids, hexplains, husers⟩ := hit_eq h hhit
  obtain ⟨hfew, hids⟩ := explains_lookup rfl hfield hexplains
  exact ⟨hfew, husers _ select_subset hids⟩

/-- A search that hits answers with what the directory has, if it shares its key with no other
search. -/
theorem search_hit (h : CacheTrue lib directory asked cache) (hunshared : Unshared asked)
    (hasked : params ∈ asked)
    (hkey : userSearchCacheKey params = .ok key)
    (hhit : cachedUsersForQueryKey ttl cache key now = some users) :
    users = (searchRows directory params).map (userRecordFromRecord lib) := by
  obtain ⟨ids, hexplains, husers⟩ := hit_eq h hhit
  refine husers _ select_subset ?_
  cases hexplains with
  | lookup _ _ => exact absurd rfl (lookupKey_ne_searchKey hkey)
  | search hasked' hkey' => rw [searchRows_congr (hunshared _ hasked' _ hasked _ hkey' hkey)]

/-- **Lookups.**  Over a true cache the candidates of a lookup are answered as the directory
answers them, and the cache stays true. -/
theorem lookupCandidates_spec :
    ∀ {candidates : List UserLookupCandidate} {i : Nat} {cache : UserCache},
      CacheTrue lib directory asked cache → (∀ c ∈ candidates, c.field ∈ lookupFields) →
        CacheTrue lib directory asked
          (lookupCandidates lib directory ttl active ctx candidates i cache).1 ∧
        AnswersAs ctx (lookupCandidates lib directory ttl active ctx candidates i cache).2
          (liveLookup lib directory active candidates)
  | [], _, _, h, _ => ⟨h, .inl rfl⟩
  | candidate :: candidates, i, cache, h, hfields => by
    have hfield := hfields candidate List.mem_cons_self
    have hrest := fun c hc => hfields c (List.mem_cons_of_mem _ hc)
    unfold lookupCandidates liveLookup
    dsimp only
    cases hhit : cachedUsersForQueryKey ttl cache
        (userLookupCacheKey candidate.field candidate.value active) ctx.now with
    | some users =>
      obtain ⟨hfew, rfl⟩ := lookup_hit h hfield hhit
      rcases hrows : lookupRows directory active candidate with _ | ⟨record, _ | ⟨second, rows⟩⟩
      · simp only [List.map_nil]
        exact lookupCandidates_spec h hrest
      · exact ⟨h, .inl rfl⟩
      · simp [hrows] at hfew
    | none =>
      cases hfault : ctx.fault i with
      | some err => exact ⟨h, .inr ⟨i, err, hfault, rfl⟩⟩
      | none =>
        have hexplains : (lookupRows directory active candidate).length ≤ 1 →
            Explains directory asked (userLookupCacheKey candidate.field candidate.value active)
              ((lookupRows directory active candidate).map Record.sysId) := .lookup hfield
        have hin : ∀ r ∈ lookupRows directory active candidate, r ∈ directory.rows none :=
          select_subset
        rcases hrows : lookupRows directory active candidate with _ | ⟨record, _ | ⟨second, rows⟩⟩
        · rw [hrows] at hexplains hin
          exact lookupCandidates_spec (h.persist hin (hexplains (by simp))) hrest
        · rw [hrows] at hexplains hin
          exact ⟨h.persist hin (hexplains (by simp)), .inl rfl⟩
        · exact ⟨h, .inl rfl⟩

theorem userLookupCandidates_fields {lookup : UserLookup} {candidates : List UserLookupCandidate}
    (h : userLookupCandidates lookup = .ok candidates) :
    ∀ c ∈ candidates, c.field ∈ lookupFields := by
  unfold userLookupCandidates at h
  split at h
  · obtain ⟨_, _, rfl⟩ := map_eq_ok_iff.mp h
    simp [lookupFields]
  · split at h
    · cases h
      simp [lookupFields]
    · split at h
      · cases h
        simp [lookupFields]
      · split at h
        · cases h
          simp [lookupFields]
        · split at h
          · cases h
          · split_ifs at h
            · cases h
              simp [lookupFields]
            · split at h <;> cases h <;> simp [lookupFields]

/-- The searches that some calls ask. -/
def searchesOf (ops : List TimedCall) : List UserSearch :=
  ops.filterMap fun op => match op.call with
    | .search params => some params
    | .lookup _ => none

theorem AnswersAs.map {α β : Type} {answer live : Except String α} (f : α → β)
    (h : AnswersAs ctx answer live) : AnswersAs ctx (answer.map f) (live.map f) := by
  rcases h with rfl | ⟨i, err, hfault, rfl⟩
  · exact .inl rfl
  · exact .inr ⟨i, err, hfault, rfl⟩

/-- A call keeps a true cache true, if its search counts as asked; and it answers as the directory
does, if no other search shares its key. -/
theorem performUserCall_spec (h : CacheTrue lib directory asked cache)
    (hasked : ∀ p ∈ searchesOf [op], p ∈ asked) :
    CacheTrue lib directory asked (performUserCall lib directory ttl cache op).1 ∧
      (Unshared asked → AnswersAs op.ctx (performUserCall lib directory ttl cache op).2
        (liveAnswer lib directory op.call)) := by
  unfold performUserCall liveAnswer
  rcases hcall : op.call with lookup | params
  · simp only [lookupUser]
    cases lookup.validateSelector with
    | error err => exact ⟨h, fun _ => .inl rfl⟩
    | ok _ =>
      cases hcandidates : userLookupCandidates lookup with
      | error err => exact ⟨h, fun _ => .inl rfl⟩
      | ok candidates =>
        have hfields := userLookupCandidates_fields hcandidates
        exact ⟨(lookupCandidates_spec h hfields).1, fun _ =>
          (lookupCandidates_spec h hfields).2.map UserAnswer.found⟩
  · have hin := hasked params (by simp [searchesOf, hcall])
    cases hkey : userSearchCacheKey params with
    | error err =>
      simp only [searchUsers, hkey]
      exact ⟨h, fun _ => .inl rfl⟩
    | ok key =>
      simp only [searchUsers, hkey]
      cases hhit : cachedUsersForQueryKey ttl cache key op.ctx.now with
      | some users =>
        refine ⟨h, fun hunshared => ?_⟩
        rw [search_hit h hunshared hin hkey hhit]
        exact .inl rfl
      | none =>
        cases hfault : op.ctx.fault 0 with
        | some err => exact ⟨h, fun _ => .inr ⟨0, err, hfault, rfl⟩⟩
        | none => exact ⟨h.persist select_subset (.search hin hkey), fun _ => .inl rfl⟩

/-- Over a true cache a call answers as the directory does, if no other search shares its key. -/
theorem performUserCall_answers (h : CacheTrue lib directory asked cache)
    (hunshared : Unshared asked) (hasked : ∀ p ∈ searchesOf [op], p ∈ asked) :
    AnswersAs op.ctx (performUserCall lib directory ttl cache op).2
      (liveAnswer lib directory op.call) :=
  (performUserCall_spec h hasked).2 hunshared

/-- On an empty cache, with no request failing, a call answers as the directory does. -/
theorem freshAnswer_eq : freshAnswer lib directory ttl op = liveAnswer lib directory op.call := by
  have hempty : CacheTrue lib directory (searchesOf [op]) UserCache.empty :=
    cacheTrue_empty.mono (by simp)
  have hunshared : Unshared (searchesOf [op]) := by
    intro p hp q hq key _ _
    cases hcall : op.call with
    | lookup lookup => simp [searchesOf, hcall] at hp
    | search params =>
      simp only [searchesOf, List.filterMap_cons, hcall, List.filterMap_nil,
        List.mem_singleton] at hp hq
      rw [hp, hq]
  let calm : TimedCall := ⟨op.call, { op.ctx with fault := fun _ => none }⟩
  have hanswers : AnswersAs calm.ctx
      (performUserCall lib directory ttl UserCache.empty calm).2 (liveAnswer lib directory op.call) :=
    performUserCall_answers hempty hunshared fun _ hp => hp
  rcases hanswers with hlive | ⟨_, _, hfault, _⟩
  · exact hlive
  · cases hfault

/-- The runs of calls, from an empty cache. -/
abbrev UserRun (lib : CoreLib) (directory : UserDirectory) (ttl : Int) :
    List TimedCall → UserCache → Prop :=
  Runs.Run (fun op cache => (performUserCall lib directory ttl cache op).1) (fun _ _ => True)
    UserCache.empty

/-- What the cache keeps along a run is true of the directory. -/
theorem run_cacheTrue {ops : List TimedCall} (hrun : UserRun lib directory ttl ops cache) :
    CacheTrue lib directory (searchesOf ops) cache := by
  induction hrun with
  | start => exact cacheTrue_empty
  | @next ops cache op _ _ ih =>
    refine (performUserCall_spec (ih.mono fun p hp => ?_) fun p hp => ?_).1
    · rw [searchesOf, List.filterMap_append]
      exact List.mem_append_left _ hp
    · rw [searchesOf, List.filterMap_append]
      exact List.mem_append_right _ hp

/-- Conditions that ignore case and outer blanks. -/
def plainHolds (atom : Atom) (r : Record) : Bool :=
  match atom with
  | .equals field value => (r.getRaw field).map cacheKeyValue == some (cacheKeyValue value)
  | .contains field text =>
    (r.getRaw field).any fun value => Text.contains (cacheKeyValue value) (cacheKeyValue text)
  | _ => false

theorem plainHolds_equals (field a b : String) (r : Record) (h : cacheKeyValue a = cacheKeyValue b) :
    plainHolds (.equals field a) r = plainHolds (.equals field b) r := by
  simp [plainHolds, h]

theorem plainHolds_contains (field a b : String) (r : Record)
    (h : cacheKeyValue a = cacheKeyValue b) :
    plainHolds (.contains field a) r = plainHolds (.contains field b) r := by
  simp [plainHolds, h]

/-- A user. -/
def ann : Record where
  sysId := "u1"
  table := "sys_user"
  fields := [("name", ⟨some (.string "Ann Lee"), none⟩),
    ("first_name", ⟨some (.string "Ann"), none⟩), ("last_name", ⟨some (.string "Lee"), none⟩),
    ("active", ⟨some (.string "true"), none⟩)]

/-- A directory with that user. -/
def annDirectory : UserDirectory where
  rows _ := [ann]
  keys := List.nodup_singleton _
  ordered _ := List.Perm.refl _
  holds := plainHolds
  equalsIgnores := plainHolds_equals
  containsIgnores := plainHolds_contains

/-- A search by two names, an hour after the epoch. -/
def searchByNames (firstName lastName : Option String) : TimedCall where
  call := .search ⟨firstName, lastName, none, none, none, none⟩
  ctx := ⟨durationSeconds 3600, fun _ => durationSeconds 3600, fun _ => none⟩

/-- A week. -/
def weekTtl : Int := durationSeconds 604800

end SnowAgent.Core
