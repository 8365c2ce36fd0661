import SnowAgent.Primitives
import SnowAgent.Savepoints

/-! # The servers of Business Applications

A server belongs to a Business Application for one of several reasons, and the table keeps a
row for each reason it was ever found for.  Only the last one found is live: a live row
takes over from the others of its pair, which are tombstoned, and from their discovery.
-/
namespace SnowAgent.Core

open Savepoints

/-! ## Rows -/

/-- `BusinessApplicationServerMembershipRow`. -/
structure BusinessApplicationServerMembershipRow where
  baSysId : String
  serverSysId : String
  serverTable : String
  provenance : String
  minDepth : Nat
  pathsJson : String
  discoveredAt : DateTime
  lastSeenAt : DateTime
  tombstonedAt : Option DateTime

/-- A row of `business_application_servers`; its instants are whole seconds. -/
structure StoredMembership where
  baSysId : String
  serverSysId : String
  serverTable : String
  provenance : String
  minDepth : Int
  pathsJson : String
  discoveredAt : Int
  lastSeenAt : Int
  tombstonedAt : Option Int
deriving DecidableEq

namespace StoredMembership

/-- `PRIMARY KEY(ba_sys_id, server_sys_id, provenance)`. -/
def key (r : StoredMembership) : String × String × String :=
  (r.baSysId, r.serverSysId, r.provenance)

/-- The row is one of a pair of Business Application and server. -/
def ofPair (ba server : String) (r : StoredMembership) : Bool :=
  r.baSysId == ba && r.serverSysId == server

/-- The row is not tombstoned. -/
def live (r : StoredMembership) : Bool := r.tombstonedAt.isNone

end StoredMembership

/-- The live rows of a pair. -/
def livePair (ba server : String) (rows : List StoredMembership) : List StoredMembership :=
  rows.filter fun r => r.ofPair ba server && r.live

inductive StoreError where
  | sqlite (message : String)
  | invalidQuery (message : String)
deriving DecidableEq

/-! ## Statements -/

/-- `UPDATE business_application_servers SET tombstoned_at = …` where a row is as told. -/
def setTombstoned (which : StoredMembership → Bool) (mark : Int) (rows : List StoredMembership) :
    List StoredMembership :=
  rows.map fun r => if which r then { r with tombstonedAt := some mark } else r

section Upsert

variable (m : BusinessApplicationServerMembershipRow)

/-- The key of the row that is written. -/
def BusinessApplicationServerMembershipRow.key : String × String × String :=
  (m.baSysId, m.serverSysId, m.provenance)

/-- Tombstones the live rows of the pair that have another provenance. -/
def tombstoneOthers (rows : List StoredMembership) : List StoredMembership :=
  setTombstoned (fun r => r.ofPair m.baSysId m.serverSysId && r.provenance != m.provenance && r.live)
    (timestampSeconds m.lastSeenAt) rows

/-- The first discovery of the pair, or the one that is given when there is none. -/
def firstDiscovered (rows : List StoredMembership) : Int :=
  ((rows.filter (·.ofPair m.baSysId m.serverSysId)).map
    StoredMembership.discoveredAt).min?.getD (timestampSeconds m.discoveredAt)

/-- The row the statement inserts. -/
def excluded (rows : List StoredMembership) : StoredMembership where
  baSysId := m.baSysId
  serverSysId := m.serverSysId
  serverTable := m.serverTable
  provenance := m.provenance
  minDepth := i64OfUsize m.minDepth
  pathsJson := m.pathsJson
  discoveredAt := firstDiscovered m rows
  lastSeenAt := timestampSeconds m.lastSeenAt
  tombstonedAt := m.tombstonedAt.map timestampSeconds

/-- `DO UPDATE SET` of the row of the same key. -/
def updated (rows : List StoredMembership) (r : StoredMembership) : StoredMembership :=
  { r with
    serverTable := (excluded m rows).serverTable
    minDepth := (excluded m rows).minDepth
    pathsJson := (excluded m rows).pathsJson
    discoveredAt := min r.discoveredAt (excluded m rows).discoveredAt
    lastSeenAt := (excluded m rows).lastSeenAt
    tombstonedAt := (excluded m rows).tombstonedAt }

/-- `INSERT … ON CONFLICT(ba_sys_id, server_sys_id, provenance) DO UPDATE`. -/
def insertOrUpdate (rows : List StoredMembership) : List StoredMembership :=
  if rows.any fun r => r.key = m.key then
    rows.map fun r => if r.key = m.key then updated m rows r else r
  else rows ++ [excluded m rows]

/-- The insert with the constraints of the table: the depth is not negative, and the index
`idx_ba_servers_one_live_pair` is unique. -/
def insertStatement (rows : List StoredMembership) :
    Except StoreError (List StoredMembership) :=
  if i64OfUsize m.minDepth < 0 then .error (.sqlite "CHECK constraint failed: min_depth >= 0")
  else if 1 < (livePair m.baSysId m.serverSysId (insertOrUpdate m rows)).length then
    .error (.sqlite "UNIQUE constraint failed: index 'idx_ba_servers_one_live_pair'")
  else .ok (insertOrUpdate m rows)

/-- The count of the live rows of the pair. -/
def countStatement (rows : List StoredMembership) :
    Except StoreError (List StoredMembership) :=
  if 1 < (livePair m.baSysId m.serverSysId rows).length then
    .error (.invalidQuery ("duplicate live BA/server membership rows for ba_sys_id=" ++
      m.baSysId ++ " server_sys_id=" ++ m.serverSysId))
  else .ok rows

/-- How the statements of one upsert end.  A foreign key that is missing fails the insert.
The journal of the store is a write-ahead log, in which a commit that fails undoes the
transaction. -/
structure UpsertIO where
  savepoint : Outcome StoreError
  tombstone : Outcome StoreError
  insert : Outcome StoreError
  count : Outcome StoreError
  release : Outcome StoreError

/-- The statements between the savepoint and its release. -/
def upsertBody (io : UpsertIO) :
    List (Outcome StoreError × (List StoredMembership → Except StoreError (List StoredMembership))) :=
  (if m.tombstonedAt.isNone then
    [(io.tombstone, fun rows => .ok (tombstoneOthers m rows))] else []) ++
    [(io.insert, insertStatement m), (io.count, countStatement m)]

/-- `upsert_business_application_server_membership`. -/
def upsertMembership (io : UpsertIO) (store : Session (List StoredMembership)) :
    Except StoreError Unit × Session (List StoredMembership) :=
  store.scope io.savepoint io.release (upsertBody m io)

end Upsert

/-- `tombstone_stale_business_application_server_memberships`. -/
def tombstoneStale (baSysId : String) (lastSeenBefore tombstonedAt : DateTime)
    (rows : List StoredMembership) : List StoredMembership :=
  setTombstoned
    (fun r => r.baSysId == baSysId && r.live &&
      decide (r.lastSeenAt < timestampSeconds lastSeenBefore))
    (timestampSeconds tombstonedAt) rows

/-! ## Calls -/

/-- A call of the store. -/
inductive MembershipOp where
  | upsert (io : UpsertIO) (m : BusinessApplicationServerMembershipRow)
  | tombstoneStale (outcome : Outcome StoreError) (baSysId : String)
      (lastSeenBefore tombstonedAt : DateTime)

/-- The store after a call. -/
def MembershipOp.step (store : Session (List StoredMembership)) :
    MembershipOp → Session (List StoredMembership)
  | .upsert io m => (upsertMembership m io store).2
  | .tombstoneStale outcome baSysId lastSeenBefore tombstonedAt =>
    (store.statement outcome fun rows =>
      .ok (Core.tombstoneStale baSysId lastSeenBefore tombstonedAt rows)).2

/-- The store after calls on an empty table. -/
def membershipsAfter (ops : List MembershipOp) : Session (List StoredMembership) :=
  ops.foldl MembershipOp.step ⟨[], []⟩

/-! ## What an insert writes -/

variable {r : StoredMembership}

section Insert

variable {m : BusinessApplicationServerMembershipRow} {rows : List StoredMembership}

/-- The row of the key has the data that was written, and is discovered no later than any row
of the pair. -/
structure Written (m : BusinessApplicationServerMembershipRow) (rows : List StoredMembership)
    (r : StoredMembership) : Prop where
  key : r.key = m.key
  serverTable : r.serverTable = m.serverTable
  minDepth : r.minDepth = i64OfUsize m.minDepth
  pathsJson : r.pathsJson = m.pathsJson
  lastSeenAt : r.lastSeenAt = timestampSeconds m.lastSeenAt
  tombstonedAt : r.tombstonedAt = m.tombstonedAt.map timestampSeconds
  discoveredAt : ∀ old ∈ rows, old.ofPair m.baSysId m.serverSysId = true →
    r.discoveredAt ≤ old.discoveredAt

theorem firstDiscovered_le {old : StoredMembership} (hold : old ∈ rows)
    (hpair : old.ofPair m.baSysId m.serverSysId = true) :
    firstDiscovered m rows ≤ old.discoveredAt := by
  have hmem : old.discoveredAt ∈ (rows.filter (·.ofPair m.baSysId m.serverSysId)).map
      StoredMembership.discoveredAt :=
    List.mem_map_of_mem (List.mem_filter.mpr ⟨hold, hpair⟩)
  rw [firstDiscovered]
  cases hmin : ((rows.filter (·.ofPair m.baSysId m.serverSysId)).map
      StoredMembership.discoveredAt).min? with
  | none =>
    rw [List.min?_eq_none_iff] at hmin
    rw [hmin] at hmem
    cases hmem
  | some first => exact (List.min?_eq_some_iff.mp hmin).2 _ hmem

theorem excluded_written (m : BusinessApplicationServerMembershipRow)
    (rows : List StoredMembership) : Written m rows (excluded m rows) where
  key := rfl
  serverTable := rfl
  minDepth := rfl
  pathsJson := rfl
  lastSeenAt := rfl
  tombstonedAt := rfl
  discoveredAt _ hold hpair := firstDiscovered_le hold hpair

theorem updated_written (hkey : r.key = m.key) :
    Written m rows (updated m rows r) where
  key := hkey
  serverTable := rfl
  minDepth := rfl
  pathsJson := rfl
  lastSeenAt := rfl
  tombstonedAt := rfl
  discoveredAt _ hold hpair := le_trans (min_le_right _ _) (firstDiscovered_le hold hpair)

/-- A row after the insert is the one that was written, or an old one of another key. -/
theorem mem_insertOrUpdate (h : r ∈ insertOrUpdate m rows) :
    Written m rows r ∨ r ∈ rows ∧ r.key ≠ m.key := by
  rw [insertOrUpdate] at h
  split at h
  · obtain ⟨old, hold, rfl⟩ := List.mem_map.mp h
    by_cases hkey : old.key = m.key
    · rw [if_pos hkey]
      exact .inl (updated_written hkey)
    · rw [if_neg hkey]
      exact .inr ⟨hold, hkey⟩
  · rename_i hnone
    rcases List.mem_append.mp h with hold | hnew
    · refine .inr ⟨hold, fun hkey => hnone ?_⟩
      exact List.any_eq_true.mpr ⟨r, hold, decide_eq_true hkey⟩
    · rw [List.mem_singleton.mp hnew]
      exact .inl (excluded_written m rows)

theorem exists_written (m : BusinessApplicationServerMembershipRow)
    (rows : List StoredMembership) : ∃ r ∈ insertOrUpdate m rows, Written m rows r := by
  rw [insertOrUpdate]
  split
  · rename_i hany
    obtain ⟨old, hold, hkey⟩ := List.any_eq_true.mp hany
    have hkey' := of_decide_eq_true hkey
    refine ⟨updated m rows old, ?_, updated_written hkey'⟩
    exact List.mem_map.mpr ⟨old, hold, if_pos hkey'⟩
  · exact ⟨excluded m rows, by simp, excluded_written m rows⟩

theorem insertOrUpdate_kept (h : r ∈ rows) (hkey : r.key ≠ m.key) : r ∈ insertOrUpdate m rows := by
  rw [insertOrUpdate]
  split
  · exact List.mem_map.mpr ⟨r, h, if_neg hkey⟩
  · exact List.mem_append_left _ h

theorem insertOrUpdate_keys (h : (rows.map StoredMembership.key).Nodup) :
    ((insertOrUpdate m rows).map StoredMembership.key).Nodup := by
  rw [insertOrUpdate]
  split
  · have hkeys : (rows.map fun r => if r.key = m.key then updated m rows r else r).map
        StoredMembership.key = rows.map StoredMembership.key := by
      rw [List.map_map]
      refine List.map_congr_left fun r _ => ?_
      by_cases hkey : r.key = m.key
      · rw [Function.comp_apply, if_pos hkey]
        rfl
      · rw [Function.comp_apply, if_neg hkey]
    rw [hkeys]
    exact h
  · rename_i hnone
    rw [List.map_append, List.nodup_append]
    refine ⟨h, by simp, ?_⟩
    rintro k hk k' hk' rfl
    obtain ⟨r, hr, rfl⟩ := List.mem_map.mp hk
    have hkey : r.key = (excluded m rows).key := by simpa using hk'
    exact hnone (List.any_eq_true.mpr ⟨r, hr, decide_eq_true hkey⟩)

end Insert

/-! ## What holds of the table -/

/-- **The invariant of the table.** -/
structure Sound (rows : List StoredMembership) : Prop where
  keys : (rows.map StoredMembership.key).Nodup
  live : ∀ r ∈ rows, ∀ r' ∈ rows, r.live = true → r'.live = true → r.baSysId = r'.baSysId →
    r.serverSysId = r'.serverSysId → r.provenance = r'.provenance

/-- Every row is still there under its key, with the same discovery or an earlier one. -/
def Kept (rows rows' : List StoredMembership) : Prop :=
  ∀ r ∈ rows, ∃ r' ∈ rows', r'.key = r.key ∧ r'.discoveredAt ≤ r.discoveredAt

section Invariant

variable {m : BusinessApplicationServerMembershipRow} {rows rows' : List StoredMembership}

theorem Kept.refl (rows : List StoredMembership) : Kept rows rows :=
  fun r hr => ⟨r, hr, rfl, le_rfl⟩

theorem Kept.trans {rows'' : List StoredMembership} (h : Kept rows rows')
    (h' : Kept rows' rows'') : Kept rows rows'' := by
  intro r hr
  obtain ⟨r₁, hr₁, hkey₁, hle₁⟩ := h r hr
  obtain ⟨r₂, hr₂, hkey₂, hle₂⟩ := h' r₁ hr₁
  exact ⟨r₂, hr₂, hkey₂.trans hkey₁, hle₂.trans hle₁⟩

theorem key_eq_iff : r.key = m.key ↔
    r.ofPair m.baSysId m.serverSysId = true ∧ r.provenance = m.provenance := by
  simp [StoredMembership.key, BusinessApplicationServerMembershipRow.key,
    StoredMembership.ofPair, and_assoc]

theorem ofPair_of_key {ba server : String} {r r' : StoredMembership} (h : r.key = r'.key) :
    r.ofPair ba server = r'.ofPair ba server := by
  simp only [StoredMembership.key, Prod.mk.injEq] at h
  rw [StoredMembership.ofPair, StoredMembership.ofPair, h.1, h.2.1]

theorem mem_setTombstoned {which : StoredMembership → Bool} {mark : Int} {r' : StoredMembership}
    (h : r' ∈ setTombstoned which mark rows) :
    (r' ∈ rows ∧ which r' = false) ∨
      ∃ r ∈ rows, which r = true ∧ r' = { r with tombstonedAt := some mark } := by
  obtain ⟨r, hr, rfl⟩ := List.mem_map.mp h
  by_cases hwhich : which r = true
  · rw [if_pos hwhich]
    exact .inr ⟨r, hr, hwhich, rfl⟩
  · rw [if_neg hwhich]
    exact .inl ⟨hr, by simpa using hwhich⟩

/-- A row that is live after a tombstone was live before it, and was not told. -/
theorem live_setTombstoned {which : StoredMembership → Bool} {mark : Int}
    (h : r ∈ setTombstoned which mark rows) (hlive : r.live = true) :
    r ∈ rows ∧ which r = false := by
  rcases mem_setTombstoned h with hold | ⟨r', _, _, rfl⟩
  · exact hold
  · cases hlive

variable (which : StoredMembership → Bool)

theorem setTombstoned_sound (mark : Int) (h : Sound rows) :
    Sound (setTombstoned which mark rows) where
  keys := by
    have hkeys : (setTombstoned which mark rows).map StoredMembership.key =
        rows.map StoredMembership.key := by
      rw [setTombstoned, List.map_map]
      refine List.map_congr_left fun r _ => ?_
      rw [Function.comp_apply]
      split
      · rfl
      · rfl
    rw [hkeys]
    exact h.keys
  live r hr r' hr' hlive hlive' :=
    h.live r (live_setTombstoned hr hlive).1 r' (live_setTombstoned hr' hlive').1 hlive hlive'

theorem setTombstoned_kept (mark : Int)
    (rows : List StoredMembership) : Kept rows (setTombstoned which mark rows) := by
  intro r hr
  refine ⟨_, List.mem_map_of_mem hr, ?_⟩
  split
  · exact ⟨rfl, le_rfl⟩
  · exact ⟨rfl, le_rfl⟩

theorem insertOrUpdate_keeps (m : BusinessApplicationServerMembershipRow)
    (rows : List StoredMembership) : Kept rows (insertOrUpdate m rows) := by
  intro r hr
  by_cases hkey : r.key = m.key
  · have hany : (rows.any fun r => r.key = m.key) = true :=
      List.any_eq_true.mpr ⟨r, hr, decide_eq_true hkey⟩
    refine ⟨updated m rows r, ?_, rfl, min_le_left _ _⟩
    rw [insertOrUpdate, if_pos hany]
    exact List.mem_map.mpr ⟨r, hr, if_pos hkey⟩
  · exact ⟨r, insertOrUpdate_kept hr hkey, rfl, le_rfl⟩

/-- What must hold before a live row is inserted: no row of its pair that is live has
another provenance. -/
def Cleared (m : BusinessApplicationServerMembershipRow) (rows : List StoredMembership) : Prop :=
  m.tombstonedAt = none → ∀ r ∈ rows, r.ofPair m.baSysId m.serverSysId = true →
    r.live = true → r.provenance = m.provenance

theorem Written.dead (h : Written m rows r) : r.live = m.tombstonedAt.isNone := by
  rw [StoredMembership.live, h.tombstonedAt, Option.isNone_map]

theorem Written.ofPair (h : Written m rows r) :
    r.ofPair m.baSysId m.serverSysId = true := (key_eq_iff.mp h.key).1

theorem Written.provenance (h : Written m rows r) :
    r.provenance = m.provenance := (key_eq_iff.mp h.key).2

theorem insertOrUpdate_sound (h : Sound rows) (hcleared : Cleared m rows) :
    Sound (insertOrUpdate m rows) where
  keys := insertOrUpdate_keys h.keys
  live r hr r' hr' hlive hlive' hba hserver := by
    -- A live row that was written beside an old live row of its pair.
    have hmixed : ∀ w o, Written m rows w → o ∈ rows → w.live = true → o.live = true →
        w.baSysId = o.baSysId → w.serverSysId = o.serverSysId → o.provenance = m.provenance := by
      intro w o hw ho hwlive holive hb hs
      have hnone : m.tombstonedAt = none := by
        rw [hw.dead] at hwlive
        exact Option.isNone_iff_eq_none.mp hwlive
      refine hcleared hnone o ho ?_ holive
      have hpair := hw.ofPair
      rw [StoredMembership.ofPair] at hpair ⊢
      rw [← hb, ← hs]
      exact hpair
    rcases mem_insertOrUpdate hr with hw | ⟨ho, _⟩
    · rcases mem_insertOrUpdate hr' with hw' | ⟨ho', _⟩
      · rw [hw.provenance, hw'.provenance]
      · rw [hw.provenance, hmixed r r' hw ho' hlive hlive' hba hserver]
    · rcases mem_insertOrUpdate hr' with hw' | ⟨ho', _⟩
      · rw [hw'.provenance, hmixed r' r hw' ho hlive' hlive hba.symm hserver.symm]
      · exact h.live r ho r' ho' hlive hlive' hba hserver

/-- In a sound table a pair has one live row at most. -/
theorem Sound.livePair_length (h : Sound rows) (ba server : String) :
    (livePair ba server rows).length ≤ 1 := by
  have hkeys : ((livePair ba server rows).map StoredMembership.key).Nodup :=
    h.keys.sublist (List.filter_sublist.map _)
  have hmem : ∀ r ∈ livePair ba server rows, r ∈ rows ∧ r.baSysId = ba ∧
      r.serverSysId = server ∧ r.live = true := by
    intro r hr
    obtain ⟨hmem, htest⟩ := List.mem_filter.mp hr
    simp only [StoredMembership.ofPair, Bool.and_eq_true, beq_iff_eq] at htest
    exact ⟨hmem, htest.1.1, htest.1.2, htest.2⟩
  match hlist : livePair ba server rows with
  | [] => simp
  | [_] => simp
  | a :: b :: rest =>
    exfalso
    rw [hlist] at hkeys hmem
    obtain ⟨ha, haba, haserver, halive⟩ := hmem a (by simp)
    obtain ⟨hb, hbba, hbserver, hblive⟩ := hmem b (by simp)
    have hba : a.baSysId = b.baSysId := haba.trans hbba.symm
    have hserver : a.serverSysId = b.serverSysId := haserver.trans hbserver.symm
    have hprov := h.live a ha b hb halive hblive hba hserver
    have hkey : a.key = b.key := by
      rw [StoredMembership.key, StoredMembership.key, hba, hserver, hprov]
    rw [List.map_cons, List.map_cons, List.nodup_cons] at hkeys
    exact hkeys.1 (hkey ▸ List.mem_cons_self)

end Invariant

/-! ## Calls one after another -/

section Calls

variable {m : BusinessApplicationServerMembershipRow} {rows rows' : List StoredMembership}

/-- The table as the insert finds it. -/
def prepared (m : BusinessApplicationServerMembershipRow) (rows : List StoredMembership) :
    List StoredMembership :=
  if m.tombstonedAt.isNone then tombstoneOthers m rows else rows

theorem prepared_cleared (m : BusinessApplicationServerMembershipRow)
    (rows : List StoredMembership) : Cleared m (prepared m rows) := by
  intro hnone r hr hpair hlive
  rw [prepared, hnone, Option.isNone_none, if_pos rfl, tombstoneOthers] at hr
  obtain ⟨_, htold⟩ := live_setTombstoned hr hlive
  rw [hpair, hlive] at htold
  simpa using htold

theorem prepared_sound (m : BusinessApplicationServerMembershipRow) (h : Sound rows) :
    Sound (prepared m rows) := by
  rw [prepared]
  split
  · exact setTombstoned_sound _ _ h
  · exact h

theorem prepared_kept (m : BusinessApplicationServerMembershipRow)
    (rows : List StoredMembership) : Kept rows (prepared m rows) := by
  rw [prepared]
  split
  · exact setTombstoned_kept _ _ rows
  · exact Kept.refl rows

/-- What the statements of an upsert make of the table. -/
theorem runAll_upsertBody {io : UpsertIO}
    (h : runAll ((upsertBody m io).map Prod.snd) rows = .ok rows') :
    rows' = insertOrUpdate m (prepared m rows) := by
  have hbody : runAll ((upsertBody m io).map Prod.snd) rows =
      (insertStatement m (prepared m rows)).bind fun written =>
        (countStatement m written).bind .ok := by
    rw [upsertBody, prepared]
    split
    · rfl
    · rfl
  rw [hbody] at h
  obtain ⟨written, hinsert, hcount⟩ := bind_eq_ok h
  obtain ⟨counted, hcounted, hlast⟩ := bind_eq_ok hcount
  cases hlast
  have hwritten : written = insertOrUpdate m (prepared m rows) := by
    rw [insertStatement] at hinsert
    split at hinsert
    · cases hinsert
    · split at hinsert
      · cases hinsert
      · cases hinsert
        rfl
  have hsame : rows' = written := by
    rw [countStatement] at hcounted
    split at hcounted
    · cases hcounted
    · cases hcounted
      rfl
  rw [hsame, hwritten]

/-- **One upsert** outside a transaction: the row is written after the others have made room
for it, or the table is as it was. -/
theorem upsertMembership_cases (m : BusinessApplicationServerMembershipRow) (io : UpsertIO)
    (rows : List StoredMembership) :
    upsertMembership m io ⟨rows, []⟩ = (.ok (), ⟨insertOrUpdate m (prepared m rows), []⟩) ∨
      ∃ err, upsertMembership m io ⟨rows, []⟩ = (.error err, ⟨rows, []⟩) := by
  rcases scope_cases (upsertBody m io) rows io.savepoint io.release with
    ⟨rows', hscope, hrun⟩ | hfailed
  · rw [runAll_upsertBody hrun] at hscope
    exact .inl hscope
  · exact .inr hfailed

theorem statement_cases (outcome : Outcome StoreError) (f : List StoredMembership →
    List StoredMembership) (rows : List StoredMembership) :
    ((⟨rows, []⟩ : Session _).statement outcome fun rows => .ok (f rows)).2 = ⟨f rows, []⟩ ∨
      ((⟨rows, []⟩ : Session _).statement outcome fun rows => .ok (f rows)).2 = ⟨rows, []⟩ := by
  cases outcome with
  | ran => exact .inl rfl
  | failed err => exact .inr rfl
  | undone err => exact .inr rfl

/-- **One call**: it ends outside a transaction, and the table stays sound and keeps its
rows. -/
theorem step_sound (op : MembershipOp) (h : Sound rows) :
    ∃ rows', op.step ⟨rows, []⟩ = ⟨rows', []⟩ ∧ Sound rows' ∧ Kept rows rows' := by
  cases op with
  | upsert io m =>
    rw [MembershipOp.step]
    rcases upsertMembership_cases m io rows with hdone | ⟨err, hfailed⟩
    · refine ⟨_, congrArg Prod.snd hdone, ?_, ?_⟩
      · exact insertOrUpdate_sound (prepared_sound m h) (prepared_cleared m rows)
      · exact (prepared_kept m rows).trans (insertOrUpdate_keeps m _)
    · exact ⟨rows, congrArg Prod.snd hfailed, h, Kept.refl rows⟩
  | tombstoneStale outcome baSysId lastSeenBefore tombstonedAt =>
    rw [MembershipOp.step]
    rcases statement_cases outcome
      (Core.tombstoneStale baSysId lastSeenBefore tombstonedAt) rows with hdone | hfailed
    · exact ⟨_, hdone, setTombstoned_sound _ _ h, setTombstoned_kept _ _ rows⟩
    · exact ⟨rows, hfailed, h, Kept.refl rows⟩

variable (ops : List MembershipOp)

/-- **Calls one after another.** -/
theorem steps_sound (h : Sound rows) :
    ∃ rows', ops.foldl MembershipOp.step ⟨rows, []⟩ = ⟨rows', []⟩ ∧ Sound rows' ∧
      Kept rows rows' := by
  induction ops generalizing rows with
  | nil => exact ⟨rows, rfl, h, Kept.refl rows⟩
  | cons op ops ih =>
    obtain ⟨rows₁, hstep, hsound, hkept⟩ := step_sound op h
    obtain ⟨rows₂, hrest, hsound₂, hkept₂⟩ := ih hsound
    exact ⟨rows₂, by rw [List.foldl_cons, hstep, hrest], hsound₂, hkept.trans hkept₂⟩

theorem membershipsAfter_sound : ∃ rows, membershipsAfter ops = ⟨rows, []⟩ ∧ Sound rows := by
  obtain ⟨rows, hrows, hsound, _⟩ := @steps_sound [] ops
    ⟨List.nodup_nil, fun _ hr => absurd hr (List.not_mem_nil)⟩
  exact ⟨rows, hrows, hsound⟩

/-- Rows of an earlier state are kept. -/
theorem membershipsAfter_kept (earlier later : List MembershipOp) :
    Kept (membershipsAfter earlier).tables (membershipsAfter (earlier ++ later)).tables := by
  obtain ⟨rows, hrows, hsound⟩ := membershipsAfter_sound earlier
  obtain ⟨rows', hrows', _, hkept⟩ := steps_sound later hsound
  have hall : membershipsAfter (earlier ++ later) = ⟨rows', []⟩ := by
    rw [membershipsAfter, List.foldl_append, ← membershipsAfter, hrows, hrows']
  rw [hrows, hall]
  exact hkept

end Calls

/-- **The table of servers after any calls.**  A pair has one live row at most.  An upsert that
fails leaves the table as it is.  After one that does not, the table has the row that was
written, with its data and a discovery no later than that of any row the pair has ever had;
and a live upsert leaves exactly its provenance live. -/
theorem server_memberships (ops : List MembershipOp) :
    (∀ ba server, (livePair ba server (membershipsAfter ops).tables).length ≤ 1) ∧
      ∀ io m result store', upsertMembership m io (membershipsAfter ops) = (result, store') →
        (∀ err, result = .error err → store'.tables = (membershipsAfter ops).tables) ∧
        (result = .ok () → (∃ row ∈ store'.tables, row.key = m.key) ∧
          (∀ row ∈ store'.tables, row.key = m.key →
            row.serverTable = m.serverTable ∧ row.minDepth = i64OfUsize m.minDepth ∧
            row.pathsJson = m.pathsJson ∧ row.lastSeenAt = timestampSeconds m.lastSeenAt ∧
            row.tombstonedAt = m.tombstonedAt.map timestampSeconds ∧
            ∀ earlier later, ops = earlier ++ later → ∀ old ∈ (membershipsAfter earlier).tables,
                old.ofPair m.baSysId m.serverSysId = true →
                row.discoveredAt ≤ old.discoveredAt) ∧
          (m.tombstonedAt = none → ∀ row ∈ store'.tables,
            row.ofPair m.baSysId m.serverSysId = true →
            (row.live = true ↔ row.provenance = m.provenance))) := by
  obtain ⟨rows, hrows, hsound⟩ := membershipsAfter_sound ops
  refine ⟨fun ba server => by rw [hrows]; exact hsound.livePair_length ba server, ?_⟩
  intro io m result store' hupsert
  rw [hrows] at hupsert ⊢
  rcases upsertMembership_cases m io rows with hdone | ⟨err, hfailed⟩
  · rw [hdone] at hupsert
    cases hupsert
    refine ⟨fun err h => (by cases h), fun _ => ⟨?_, ?_, ?_⟩⟩
    · obtain ⟨row, hrow, hwritten⟩ := exists_written m (prepared m rows)
      exact ⟨row, hrow, hwritten.key⟩
    · intro row hrow hkey
      rcases mem_insertOrUpdate hrow with hw | ⟨_, hother⟩
      · refine ⟨hw.serverTable, hw.minDepth, hw.pathsJson, hw.lastSeenAt, hw.tombstonedAt, ?_⟩
        intro earlier later hops old hold hpair
        have hkept := membershipsAfter_kept earlier later
        rw [← hops, hrows] at hkept
        obtain ⟨old', hold', hkey', hle⟩ := (hkept.trans (prepared_kept m rows)) old hold
        have hpair' : old'.ofPair m.baSysId m.serverSysId = true := by
          rw [ofPair_of_key hkey', hpair]
        exact (hw.discoveredAt old' hold' hpair').trans hle
      · exact absurd hkey hother
    · intro hnone row hrow hpair
      rcases mem_insertOrUpdate hrow with hw | ⟨hold, hother⟩
      · rw [hw.dead, hnone]
        exact ⟨fun _ => hw.provenance, fun _ => rfl⟩
      · refine ⟨fun hlive => prepared_cleared m rows hnone row hold hpair hlive, fun hprov => ?_⟩
        exact absurd (key_eq_iff.mpr ⟨hpair, hprov⟩) hother
  · rw [hfailed] at hupsert
    cases hupsert
    exact ⟨fun _ _ => rfl, fun h => (by cases h)⟩

/-- A server of a Business Application, found for the reason that is given. -/
def foundServer (provenance : String) (foundAt : DateTime) :
    BusinessApplicationServerMembershipRow where
  baSysId := "a"
  serverSysId := "b"
  serverTable := "cmdb_ci_server"
  provenance := provenance
  minDepth := 1
  pathsJson := "[]"
  discoveredAt := foundAt
  lastSeenAt := foundAt
  tombstonedAt := none

/-- Statements that all run. -/
def allRun : UpsertIO := ⟨.ran, .ran, .ran, .ran, .ran⟩

theorem server_memberships_taken_over :
    ∃ row ∈ (upsertMembership (foundServer "both" 9000) allRun
        (membershipsAfter [.upsert allRun (foundServer "service" 5000)])).2.tables,
      row.key = ("a", "b", "both") := by
  have h := (server_memberships [.upsert allRun (foundServer "service" 5000)]).2 allRun
    (foundServer "both" 9000) (.ok ()) _ rfl
  exact (h.2 rfl).1

end SnowAgent.Core
