import SnowAgent.AuditSink

/-! # Verifying a range

`verify_chain` starts every walk from the hash of an empty chain, also when the
range begins in the middle.  For a sink that was only appended to,
`verifyChain_range_iff` says which ranges pass: those that begin at the first
append and contain no row that was appended out of order.
-/
namespace SnowAgent

open HashChain SqliteAuditSink

/-- Whether a row sorts after every row inserted before it. -/
def AppendedInOrder (rows : List AuditRow) (r : AuditRow) : Prop :=
  ∀ pre post, rows = pre ++ r :: post → ∀ s ∈ pre, s.key < r.key

variable (lib : Crates)

/-- What appends keep: each row is linked to the row that sorted last when it came. -/
structure Grown (sink : SqliteAuditSink) : Prop where
  sound : ∀ row ∈ sink.rows, Sound row
  linked : ∀ pre r post, sink.rows = pre ++ r :: post → r.rowHash = rowLink lib (lastHashOf pre) r

/-- The operations of a sink that is only appended to. -/
def IsAppend (_ : SqliteAuditSink) : SinkOp → Prop
  | .append _ _ => True
  | .enforceRetention _ _ => False

variable {lib}

theorem grown_empty : Grown lib empty where
  sound := by simp [empty]
  linked := by simp [empty]

theorem Grown.append {now : DateTime} {event written : AuditEvent} {sink sink' : SqliteAuditSink}
    (hgrown : Grown lib sink) (h : sink.append lib now event = some (sink', written)) :
    Grown lib sink' := by
  obtain ⟨rfl, hrows⟩ := append_cases h
  refine ⟨?_, ?_⟩
  · intro row hrow
    rw [hrows] at hrow
    rcases List.mem_append.mp hrow with hrow | hrow
    · exact hgrown.sound row hrow
    · rw [List.mem_singleton.mp hrow]
      exact ⟨rfl, rfl⟩
  · intro pre r post hsplit
    rw [hrows] at hsplit
    rcases List.eq_nil_or_concat post with rfl | ⟨post', last, rfl⟩
    · obtain ⟨rfl, hr⟩ := List.append_inj' hsplit rfl
      cases hr
      exact rowLink_appended now event sink
    · have hsplit' : sink.rows ++ [AuditRow.ofEvent lib (appendedEvent lib now event sink)] =
          (pre ++ r :: post') ++ [last] := by simpa using hsplit
      exact hgrown.linked pre r post' (List.append_inj' hsplit' rfl).1

theorem grown_run {ops : List SinkOp} {sink : SqliteAuditSink}
    (hrun : Runs.Run (SinkOp.apply lib) IsAppend empty ops sink) : Grown lib sink := by
  refine hrun.invariant (I := fun _ s => Grown lib s) grown_empty fun ops sink op _ hgrown hop => ?_
  cases op with
  | enforceRetention now retentionDays => exact hop.elim
  | append now event =>
    rw [SinkOp.apply]
    cases happend : sink.append lib now event with
    | none => exact hgrown
    | some written => exact hgrown.append happend

/-! ## The rows of a range -/

variable {rows : List AuditRow} {a b : AuditRow}

/-- The rows from `a` to `b` in reading order. -/
def between (a b : AuditRow) (rows : List AuditRow) : List AuditRow :=
  rows.filter fun r => a.key ≤ r.key ∧ r.key ≤ b.key

theorem between_cons_of_mem {a b r : AuditRow} (ha : a.key ≤ r.key)
    (hb : r.key ≤ b.key) : between a b (r :: rows) = r :: between a b rows :=
  List.filter_cons_of_pos (by simp [ha, hb])

theorem between_cons_of_lt {a b r : AuditRow} (h : r.key < a.key) :
    between a b (r :: rows) = between a b rows :=
  List.filter_cons_of_neg (by simp [not_le.mpr h])

theorem between_eq_nil (h : ∀ r ∈ rows, b.key < r.key) : between a b rows = [] :=
  List.filter_eq_nil_iff.mpr fun r hr => by simp [not_le.mpr (h r hr)]

/-- Collecting up to `b` takes the rows that do not sort after it. -/
theorem collectRange_included : ∀ {rows : List AuditRow},
    rows.Pairwise (fun x y => x.key < y.key) → (∀ r ∈ rows, Sound r) →
    (rows.map AuditRow.auditId).Nodup → b ∈ rows → (∀ r ∈ rows, a.key ≤ r.key) →
    collectRange ⟨some a.auditId, some b.auditId⟩ true (rows.map AuditRow.event) =
      (between a b rows).map AuditRow.event
  | [], _, _, _, hb, _ => by cases hb
  | r :: rows, hsorted, hsound, hkey, hb, ha => by
    obtain ⟨hfirst, hrest⟩ := List.pairwise_cons.mp hsorted
    obtain ⟨hid, hids⟩ := List.nodup_cons.mp hkey
    have hevent : r.event.auditId = r.auditId := (hsound r (List.mem_cons_self ..)).auditId.symm
    have har := ha r (List.mem_cons_self ..)
    rcases List.mem_cons.mp hb with rfl | hb
    · rw [between_cons_of_mem har le_rfl, between_eq_nil hfirst]
      simp [collectRange, hevent]
    · have hne : b.auditId ≠ r.auditId := fun h => hid (h ▸ List.mem_map_of_mem hb)
      rw [between_cons_of_mem har (hfirst b hb).le, List.map_cons, List.map_cons,
        ← collectRange_included hrest (fun x hx => hsound x (List.mem_cons_of_mem _ hx)) hids hb
          (fun x hx => ha x (List.mem_cons_of_mem _ hx))]
      simp [collectRange, hevent, hne]

/-- A range from `a` to `b` lists the rows between them. -/
theorem collectRange_eq (hab : a.key ≤ b.key) : ∀ {rows : List AuditRow},
    rows.Pairwise (fun x y => x.key < y.key) → (∀ r ∈ rows, Sound r) →
    (rows.map AuditRow.auditId).Nodup → a ∈ rows → b ∈ rows →
    collectRange ⟨some a.auditId, some b.auditId⟩ false (rows.map AuditRow.event) =
      (between a b rows).map AuditRow.event
  | [], _, _, _, ha, _ => by cases ha
  | r :: rows, hsorted, hsound, hkey, ha, hb => by
    obtain ⟨hfirst, hrest⟩ := List.pairwise_cons.mp hsorted
    obtain ⟨hid, hids⟩ := List.nodup_cons.mp hkey
    have hevent : r.event.auditId = r.auditId := (hsound r (List.mem_cons_self ..)).auditId.symm
    rcases List.mem_cons.mp ha with rfl | ha
    · rw [← collectRange_included hsorted hsound hkey hb
        (fun x hx => (List.mem_cons.mp hx).elim (fun h => h ▸ le_rfl) (fun h => (hfirst x h).le))]
      simp [collectRange, hevent]
    · have hra := hfirst a ha
      have hne : a.auditId ≠ r.auditId := fun h => hid (h ▸ List.mem_map_of_mem ha)
      have hb' : b ∈ rows := (List.mem_cons.mp hb).resolve_left
        fun h => absurd hab (not_le.mpr (h ▸ hra))
      rw [between_cons_of_lt hra, List.map_cons,
        ← collectRange_eq hab hrest (fun x hx => hsound x (List.mem_cons_of_mem _ hx)) hids ha hb']
      simp [collectRange, hevent, hne]

/-! ## Which ranges pass -/

/-- The last hash of some rows is that of their maximum. -/
theorem lastHashOf_cases (rows : List AuditRow) :
    rows = [] ∨ ∃ m ∈ rows, lastHashOf rows = m.rowHash ∧ ∀ r ∈ rows, r.key ≤ m.key := by
  rcases List.eq_nil_or_concat (ordered rows) with h | ⟨init, last, h⟩
  · exact .inl (List.length_eq_zero_iff.mp
      ((List.length_insertionSort _ rows).symm.trans (congrArg List.length h)))
  · rw [List.concat_eq_append] at h
    refine .inr ⟨last, mem_ordered.mp (by rw [h]; simp), by simp [lastHashOf, h], fun r hr => ?_⟩
    have hsorted : (ordered rows).Pairwise (fun a b => a.key ≤ b.key) :=
      List.pairwise_insertionSort _ _
    have hr' := mem_ordered.mpr hr
    rw [h] at hsorted hr'
    rcases List.mem_append.mp hr' with hr' | hr'
    · exact (List.pairwise_append.mp hsorted).2.2 r hr' last (List.mem_singleton.mpr rfl)
    · rw [List.mem_singleton.mp hr']

theorem eq_of_key (hkey : (rows.map AuditRow.auditId).Nodup) {r s : AuditRow} (hr : r ∈ rows)
    (hs : s ∈ rows) (h : r.key = s.key) : r = s :=
  List.inj_on_of_nodup_map hkey hr hs (congrArg (fun k => (ofLex k).2) h)

theorem lastHashOf_max {m : AuditRow} (hkey : (rows.map AuditRow.auditId).Nodup) (hm : m ∈ rows)
    (hmax : ∀ r ∈ rows, r.key ≤ m.key) :
    lastHashOf rows = m.rowHash := by
  rcases lastHashOf_cases rows with rfl | ⟨last, hlast, hhash, hlastmax⟩
  · cases hm
  · rw [hhash, eq_of_key hkey hlast hm (le_antisymm (hmax last hlast) (hlastmax m hm))]

/-- A range of sorted rows is a segment that starts with its first row. -/
theorem between_segment (hab : a.key ≤ b.key) : ∀ {rows : List AuditRow},
    rows.Pairwise (fun x y => x.key < y.key) → a ∈ rows →
    ∃ before tail after, rows = before ++ a :: (tail ++ after) ∧ between a b rows = a :: tail
  | [], _, ha => by cases ha
  | r :: rows, hsorted, ha => by
    obtain ⟨hfirst, hrest⟩ := List.pairwise_cons.mp hsorted
    rcases List.mem_cons.mp ha with rfl | ha
    · refine ⟨[], between a b rows, rows.filter fun r => b.key < r.key, ?_,
        between_cons_of_mem le_rfl hab⟩
      rw [List.nil_append]
      refine congrArg (a :: ·) ?_
      clear ha hsorted
      induction rows with
      | nil => rfl
      | cons x rows ih =>
        obtain ⟨hx, hrest⟩ := List.pairwise_cons.mp hrest
        have hax := hfirst x (List.mem_cons_self ..)
        rcases le_or_gt x.key b.key with hxb | hxb
        · rw [between_cons_of_mem hax.le hxb, List.filter_cons_of_neg (by simp [hxb]),
            List.cons_append, ← ih hrest (fun r hr => hfirst r (List.mem_cons_of_mem _ hr))]
        · have hafter : ∀ r ∈ x :: rows, b.key < r.key := fun r hr =>
            (List.mem_cons.mp hr).elim (fun h => h ▸ hxb) (fun h => hxb.trans (hx r h))
          rw [between_eq_nil hafter, List.nil_append,
            List.filter_eq_self.mpr (fun r hr => by simpa using hafter r hr)]
    · obtain ⟨before, tail, after, hrows, hbetween⟩ := between_segment hab hrest ha
      refine ⟨r :: before, tail, after, by rw [hrows, List.cons_append], ?_⟩
      rw [between_cons_of_lt (hfirst a ha), hbetween]

/-- The rows of a range after its first one. -/
theorem mem_tail_iff {rows before tail after : List AuditRow}
    (hstrict : (ordered rows).Pairwise (fun x y => x.key < y.key))
    (hread : ordered rows = before ++ a :: (tail ++ after))
    (hbetween : between a b (ordered rows) = a :: tail) (r : AuditRow) :
    r ∈ tail ↔ r ∈ rows ∧ a.key < r.key ∧ r.key ≤ b.key := by
  have hmem : r ∈ a :: tail ↔ r ∈ rows ∧ a.key ≤ r.key ∧ r.key ≤ b.key := by
    rw [← hbetween, between, List.mem_filter, mem_ordered]
    simp
  constructor
  · intro hr
    obtain ⟨hrows, _, hrb⟩ := hmem.mp (List.mem_cons_of_mem _ hr)
    rw [hread] at hstrict
    have hfirst := (List.pairwise_cons.mp (List.pairwise_append.mp hstrict).2.1).1
    exact ⟨hrows, hfirst r (List.mem_append_left _ hr), hrb⟩
  · rintro ⟨hrows, har, hrb⟩
    refine (List.mem_cons.mp (hmem.mpr ⟨hrows, har.le, hrb⟩)).resolve_left fun h => ?_
    exact absurd har (h ▸ lt_irrefl _)

section Passing

variable {sink : SqliteAuditSink} (hsha : Function.Injective lib.sha256)
variable (htime : Function.Injective lib.serializeTime) (hgrown : Grown lib sink)

theorem rowLink_inj (hsha : Function.Injective lib.sha256)
    (htime : Function.Injective lib.serializeTime) {p q : String} {r s : AuditRow}
    (h : rowLink lib p r = rowLink lib q s) : p = q ∧ r.event.auditId = s.event.auditId := by
  obtain ⟨hprev, hhashed⟩ := eventHash_inj hsha htime h
  have hid : r.event.hashed.auditId = s.event.hashed.auditId := by rw [hhashed]
  exact ⟨hprev, hid⟩

include hsha htime hgrown in
/-- Row hashes tell the rows of a sink apart. -/
theorem Grown.eq_of_rowHash {r s : AuditRow} (hr : r ∈ sink.rows) (hs : s ∈ sink.rows)
    (h : r.rowHash = s.rowHash) : r = s := by
  obtain ⟨pre, post, hsplit⟩ := List.append_of_mem hr
  obtain ⟨pre', post', hsplit'⟩ := List.append_of_mem hs
  rw [hgrown.linked _ _ _ hsplit, hgrown.linked _ _ _ hsplit'] at h
  have hid := (rowLink_inj hsha htime h).2
  rw [← (hgrown.sound r hr).auditId, ← (hgrown.sound s hs).auditId] at hid
  exact List.inj_on_of_nodup_map sink.primaryKey hr hs hid

include hsha htime hgrown in
/-- Only the first append is linked to the starting hash. -/
theorem Grown.genesis_iff (ha : a ∈ sink.rows) :
    a.rowHash = rowLink lib genesis a ↔ sink.rows.head? = some a := by
  obtain ⟨pre, post, hsplit⟩ := List.append_of_mem ha
  constructor
  · intro h
    rw [hgrown.linked _ _ _ hsplit] at h
    have hprev := (rowLink_inj hsha htime h).1
    rcases lastHashOf_cases pre with rfl | ⟨m, hm, hhash, _⟩
    · rw [hsplit]
      rfl
    · obtain ⟨pre', post', hsplit'⟩ := List.append_of_mem hm
      have hm' : m.rowHash = rowLink lib (lastHashOf pre') m :=
        hgrown.linked pre' m (post' ++ a :: post) (by rw [hsplit, hsplit']; simp)
      exact absurd (hm'.symm.trans (hhash.symm.trans hprev)) (eventHash_ne_genesis _ _)
  · intro h
    cases hrows : sink.rows with
    | nil => simp [hrows] at h
    | cons x rows =>
      rw [hrows] at h
      cases h
      exact hgrown.linked [] a rows hrows

theorem AppendedInOrder.of_head (h : sink.rows.head? = some a) : AppendedInOrder sink.rows a := by
  intro pre post hsplit s hs
  cases pre with
  | nil => cases hs
  | cons x pre =>
    rw [hsplit] at h
    cases h
    have hkey := sink.primaryKey
    rw [hsplit] at hkey
    simp at hkey

include hsha htime hgrown in
/-- Of two rows that are read one after the other, the second is linked to the first
exactly when it was appended in order. -/
theorem Grown.link_iff {before after : List AuditRow} {s t : AuditRow}
    (hread : ordered sink.rows = before ++ s :: t :: after) (hs : AppendedInOrder sink.rows s) :
    t.rowHash = rowLink lib s.rowHash t ↔ AppendedInOrder sink.rows t := by
  have hstrict := ordered_strict sink.primaryKey
  rw [hread] at hstrict
  obtain ⟨_, htail, hbefore⟩ := List.pairwise_append.mp hstrict
  obtain ⟨hsfirst, htail⟩ := List.pairwise_cons.mp htail
  have hst : s.key < t.key := hsfirst t (List.mem_cons_self ..)
  have hsmem : s ∈ sink.rows := mem_ordered.mp (by rw [hread]; simp)
  have htmem : t ∈ sink.rows := mem_ordered.mp (by rw [hread]; simp)
  have hnext : ∀ x ∈ sink.rows, x.key < t.key → x.key ≤ s.key := by
    intro x hx hxt
    have hx' := mem_ordered.mpr hx
    rw [hread] at hx'
    rcases List.mem_append.mp hx' with hx' | hx'
    · exact (hbefore x hx' s (List.mem_cons_self ..)).le
    · rcases List.mem_cons.mp hx' with rfl | hx'
      · exact le_rfl
      · rcases List.mem_cons.mp hx' with rfl | hx'
        · exact absurd hxt (lt_irrefl _)
        · exact absurd hxt (lt_asymm ((List.pairwise_cons.mp htail).1 x hx'))
  constructor
  · intro hlink pre post hsplit x hx
    rw [hgrown.linked pre t post hsplit] at hlink
    have hprev := (rowLink_inj hsha htime hlink).1
    rcases lastHashOf_cases pre with rfl | ⟨m, hm, hhash, hmax⟩
    · cases hx
    · have hmrows : m ∈ sink.rows := by rw [hsplit]; exact List.mem_append_left _ hm
      have hms : m = s := hgrown.eq_of_rowHash hsha htime hmrows hsmem (hhash.symm.trans hprev)
      exact lt_of_le_of_lt (hms ▸ hmax x hx) hst
  · intro ht
    obtain ⟨pre, post, hsplit⟩ := List.append_of_mem htmem
    have hpre : s ∈ pre := by
      rw [hsplit] at hsmem
      rcases List.mem_append.mp hsmem with h | h
      · exact h
      · rcases List.mem_cons.mp h with rfl | h
        · exact absurd hst (lt_irrefl _)
        · obtain ⟨mid, rest, hpost⟩ := List.append_of_mem h
          have hts := hs (pre ++ t :: mid) rest (by rw [hsplit, hpost]; simp) t (by simp)
          exact absurd hst (lt_asymm hts)
    have hkey : (pre.map AuditRow.auditId).Nodup := by
      have h := sink.primaryKey
      rw [hsplit, List.map_append] at h
      exact h.of_append_left
    have hmax : ∀ x ∈ pre, x.key ≤ s.key := fun x hx =>
      hnext x (by rw [hsplit]; exact List.mem_append_left _ hx) (ht pre post hsplit x hx)
    rw [hgrown.linked pre t post hsplit, lastHashOf_max hkey hpre hmax]

include hsha htime hgrown in
/-- A segment is linked exactly when its rows were appended in order. -/
theorem Grown.segment_iff : ∀ {tail before after : List AuditRow} {s : AuditRow},
    ordered sink.rows = before ++ s :: (tail ++ after) → AppendedInOrder sink.rows s →
    (Linked (rowLink lib) AuditRow.rowHash s.rowHash tail ↔ ∀ t ∈ tail, AppendedInOrder sink.rows t)
  | [], _, _, _, _, _ => by simp
  | t :: tail, before, after, s, hread, hs => by
    have hlink := hgrown.link_iff hsha htime hread hs
    have hread' : ordered sink.rows = (before ++ [s]) ++ t :: (tail ++ after) := by
      rw [hread]
      simp
    rw [linked_cons, hlink, List.forall_mem_cons]
    exact and_congr_right fun ht => Grown.segment_iff hread' ht

include hsha htime hgrown in
/-- A range passes exactly when it begins at the first append and the rows in it were all
appended in order. -/
theorem Grown.passes_iff (ha : a ∈ sink.rows) (hb : b ∈ sink.rows) (hab : a.key ≤ b.key) :
    sink.verifyChain lib ⟨some a.auditId, some b.auditId⟩ = [] ↔ sink.rows.head? = some a ∧
        ∀ r ∈ sink.rows, a.key < r.key → r.key ≤ b.key → AppendedInOrder sink.rows r := by
  have hstrict := ordered_strict sink.primaryKey
  have hsound : ∀ r ∈ ordered sink.rows, Sound r := fun r hr => hgrown.sound r (mem_ordered.mp hr)
  have hids : ((ordered sink.rows).map AuditRow.auditId).Nodup :=
    ((List.perm_insertionSort _ sink.rows).map _).nodup_iff.mpr sink.primaryKey
  obtain ⟨before, tail, after, hread, hbetween⟩ := between_segment hab hstrict (mem_ordered.mpr ha)
  have hlist : sink.listInRange ⟨some a.auditId, some b.auditId⟩ =
      (a :: tail).map AuditRow.event := by
    rw [← hbetween]
    exact collectRange_eq hab hstrict hsound hids (mem_ordered.mpr ha) (mem_ordered.mpr hb)
  have hmem := mem_tail_iff hstrict hread hbetween
  have hkept : ∀ r ∈ a :: tail, r.rowHash = r.event.rowHash := fun r hr =>
    (hsound r (by rw [hread]; simp at hr ⊢; tauto)).rowHash
  rw [verifyChain_eq_nil_iff, hlist, linked_map (eventHash lib) _ AuditRow.event _ genesis hkept,
    linked_cons]
  refine (and_congr (hgrown.genesis_iff hsha htime ha) Iff.rfl).trans
    (and_congr_right fun hhead => ?_)
  refine (hgrown.segment_iff hsha htime hread (.of_head hhead)).trans ?_
  exact ⟨fun h r hr har hrb => h r ((hmem r).mpr ⟨hr, har, hrb⟩),
    fun h r hr => h r ((hmem r).mp hr).1 ((hmem r).mp hr).2.1 ((hmem r).mp hr).2.2⟩

end Passing

/-- **Which ranges of appended rows pass.**  After any appends, a range between two stored
rows passes exactly when it begins at the first append and every row in it was appended in
order, as all are when the timestamps increase. -/
theorem verifyChain_range_iff (hsha : Function.Injective lib.sha256)
    (htime : Function.Injective lib.serializeTime) {ops : List SinkOp} {sink : SqliteAuditSink}
    (hrun : Runs.Run (SinkOp.apply lib) IsAppend empty ops sink) {a b : AuditRow}
    (ha : a ∈ sink.rows) (hb : b ∈ sink.rows) (hab : a.key ≤ b.key) :
    sink.verifyChain lib ⟨some a.auditId, some b.auditId⟩ = [] ↔ sink.rows.head? = some a ∧
        ∀ r ∈ sink.rows, a.key < r.key → r.key ≤ b.key → AppendedInOrder sink.rows r :=
  (grown_run hrun).passes_iff hsha htime ha hb hab

/-! ## Two events -/

/-- The sink after two appends a second apart. -/
def twoEvents : SqliteAuditSink := logEvent 2 "audit-2" (logEvent 1 "audit-1" empty)

/-- The two appends. -/
def twoAppends : List SinkOp :=
  [.append newYear (loggedEvent 1 "audit-1"), .append newYear (loggedEvent 2 "audit-2")]

theorem twoEvents_run :
    Runs.Run (SinkOp.apply plainCrates) IsAppend empty twoAppends twoEvents := by
  rw [twoEvents, logEvent, logEvent]
  exact .next (.next .start trivial) trivial

/-- The two rows of it. -/
def twoEventsFirst : AuditRow := loggedRow 1 "audit-1" empty

def twoEventsSecond : AuditRow := loggedRow 2 "audit-2" (logEvent 1 "audit-1" empty)

theorem twoEvents_rows : twoEvents.rows = [twoEventsFirst, twoEventsSecond] := logEvent_second 1 2

theorem twoEvents_key : twoEventsFirst.key < twoEventsSecond.key := by
  rw [twoEventsFirst, twoEventsSecond, loggedRow_key _ _ _ (by decide),
    loggedRow_key _ _ _ (by decide)]
  decide

/-- Over the range of both events. -/
theorem verifyChain_range_two :
    twoEvents.verifyChain plainCrates
        ⟨some twoEventsFirst.auditId, some twoEventsSecond.auditId⟩ = [] ↔
      twoEvents.rows.head? = some twoEventsFirst ∧
        ∀ r ∈ twoEvents.rows, twoEventsFirst.key < r.key → r.key ≤ twoEventsSecond.key →
          AppendedInOrder twoEvents.rows r :=
  verifyChain_range_iff plainDigest_injective plainCrates_serializeTime twoEvents_run
    (by simp [twoEvents_rows]) (by simp [twoEvents_rows]) twoEvents_key.le

/-- The range of the second event alone does not pass, though it was appended a second
after the first and nothing was changed since. -/
theorem verifyChain_range_second :
    ¬ ∀ lib : Crates, Function.Injective lib.sha256 → Function.Injective lib.serializeTime →
      ∀ (ops : List SinkOp) (sink : SqliteAuditSink),
        Runs.Run (SinkOp.apply lib) IsAppend empty ops sink →
        sink.rows.Pairwise (fun r s => r.timestamp < s.timestamp ∧
          r.event.timestamp < s.event.timestamp) →
        ∀ a ∈ sink.rows, ∀ b ∈ sink.rows, a.key ≤ b.key →
          sink.verifyChain lib ⟨some a.auditId, some b.auditId⟩ = [] := by
  intro hpasses
  have hincreasing : twoEvents.rows.Pairwise (fun r s => r.timestamp < s.timestamp ∧
      r.event.timestamp < s.event.timestamp) := by
    rw [twoEvents_rows, List.pairwise_pair]
    decide
  have hsecond : twoEventsSecond ∈ twoEvents.rows := by simp [twoEvents_rows]
  have hpass := hpasses plainCrates plainDigest_injective plainCrates_serializeTime twoAppends
    twoEvents twoEvents_run hincreasing twoEventsSecond hsecond twoEventsSecond hsecond le_rfl
  have hhead := (((grown_run twoEvents_run).passes_iff plainDigest_injective plainCrates_serializeTime
    hsecond hsecond le_rfl).mp hpass).1
  rw [twoEvents_rows, List.head?_cons] at hhead
  exact absurd twoEvents_key (Option.some.inj hhead ▸ lt_irrefl _)

end SnowAgent
