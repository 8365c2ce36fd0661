import SnowAgent.RecordResolver

/-! # Discovery of an identifier

A search for an identifier goes through the priority tables and then through the
catalog, page by page.  How far it has come is a number of entries of the catalog that
are taken in: the tables that have been probed, and those that are pending, are the
priority tables and these entries, each once.
-/
namespace SnowAgent.Resolve

open Core Json Text Program

/-! ## The world of the calls -/

/-- What the calls share, and every identifier and cursor that there has been. -/
structure ResolverWorld where
  documents : Documents
  sessions : Sessions
  seen : List String

/-- A resolver without sessions. -/
def ResolverWorld.empty : ResolverWorld := ⟨[], [], []⟩

/-- A call comes in, and its cursor is seen. -/
def ResolverWorld.enter (w : ResolverWorld) (input : RecordResolveInput) : ResolverWorld :=
  { w with seen := input.cursor.toList ++ w.seen }

/-- The page of the catalog after a name. -/
def pageAfter (catalog : List String) (after : String) : List String :=
  (if after = "" then catalog else catalog.filter fun name => after < name).take pageSize

/-- What the world may answer: a map is listed in some order, a fresh identifier has not been
seen, a page of the catalog is as it should be or is not answered, and a probe is answered by
every table, in any order and with anything, unless a worker fails. -/
def resolveAnswers (catalog : List String) (w : ResolverWorld) :
    (e : ResolveAct) → ResolveAct.Ans e → ResolverWorld → Prop
  | .newUuid, token, w' => token ∉ w.seen ∧ w' = { w with seen := token :: w.seen }
  | .readDocuments, documents, w' => documents.Perm w.documents ∧ w' = w
  | .writeDocuments documents, _, w' => w' = { w with documents := documents }
  | .readSessions, sessions, w' => sessions = w.sessions ∧ w' = w
  | .writeSessions sessions, _, w' => w' = { w with sessions := sessions }
  | .catalogPage after, .page names false, w' =>
    names = (pageAfter catalog after).map some ∧ w' = w
  | .probe tables _, some answers, w' => (answers.map Prod.fst).Perm tables ∧ w' = w
  | _, _, w' => w' = w

/-- Sequences of calls. -/
abbrev ResolveCalls (lib : ResolverLib) (catalog : List String) :
    List ResolveCall → ResolverWorld → Prop :=
  Calls (resolveAnswers catalog) (fun input => (resolve lib input).run) ResolverWorld.enter
    (fun _ _ _ => True) .empty

/-! ## What a call probes -/

/-- What the tables say that are probed in an action. -/
def probedIn : (Σ e : ResolveAct, ResolveAct.Ans e) → List (String × ProbeAnswer)
  | ⟨.probe _ _, some answers⟩ => answers
  | _ => []

/-- How many tables an action probes. -/
def probeCount : ResolveAct → Nat
  | .probe tables _ => tables.length
  | _ => 0

/-- What the tables say that a call probes. -/
def probed (past : Trace ResolveIO) : List (String × ProbeAnswer) := past.flatMap probedIn

/-- How many tables a call probes, answered or not. -/
def probes (past : Trace ResolveIO) : Nat := (past.map fun ev => probeCount ev.1).sum

@[simp] theorem probed_nil : probed [] = [] := rfl

@[simp] theorem probed_append (past past' : Trace ResolveIO) :
    probed (past ++ past') = probed past ++ probed past' := List.flatMap_append

@[simp] theorem probes_nil : probes [] = 0 := rfl

@[simp] theorem probes_append (past past' : Trace ResolveIO) :
    probes (past ++ past') = probes past + probes past' := by
  simp [probes]

/-! ## Where a search stands -/

section Progress

variable (catalog : List String)

/-- All the tables there are to probe. -/
def allTables : List String := priorityTables ++ catalog.filter fun name => name ∉ priorityTables

/-- The tables that are probed before the rest of the catalog, from entry `n` on. -/
def tablesBefore (n : Nat) : List String :=
  priorityTables ++ (catalog.take n).filter fun name => name ∉ priorityTables

/-- The tables that are probed or pending are those before entry `n`, which is where the next
page of the catalog starts. -/
structure Covers (n : Nat) (search : SearchState) (tables : List String) : Prop where
  perm : (tables ++ search.pending).Perm (tablesBefore catalog n)
  after : search.after = ((catalog.take n).getLast?).getD ""
  within : n ≤ catalog.length
  named : ∀ name ∈ catalog.take n, name ≠ ""
  complete : search.catalogComplete = true → n = catalog.length

/-- Where a search stands whose tables have answered so far, all without a record. -/
structure Progress (n : Nat) (search : SearchState) (answers : List (String × ProbeAnswer)) :
    Prop where
  covers : Covers catalog n search (answers.map Prod.fst)
  scanned : search.scanned = answers.length
  unreadable : search.unreadable = unreadableCount answers
  missed : foundRecords answers = []

/-- What is left to do: entries of the catalog, pending tables, and to see its end. -/
def workLeft (n : Nat) (search : SearchState) : Nat :=
  (catalog.length - n) + search.pending.length + (if search.catalogComplete then 0 else 1)

variable {catalog}

theorem tablesBefore_nodup (hsorted : catalog.Pairwise (· < ·)) (n : Nat) :
    (tablesBefore catalog n).Nodup := by
  have hcatalog : catalog.Nodup := hsorted.imp fun h => ne_of_lt h
  refine List.nodup_append.mpr ⟨by decide, ?_, ?_⟩
  · exact (hcatalog.sublist (List.take_sublist n catalog)).filter _
  · intro a ha b hb hab
    subst hab
    have hnot := (List.mem_filter.mp hb).2
    exact absurd ha (by simpa using hnot)

theorem tablesBefore_subset (n : Nat) : tablesBefore catalog n ⊆ allTables catalog := by
  intro name hname
  rcases List.mem_append.mp hname with hname | hname
  · exact List.mem_append_left _ hname
  · obtain ⟨hmem, hnot⟩ := List.mem_filter.mp hname
    exact List.mem_append_right _ (List.mem_filter.mpr ⟨List.mem_of_mem_take hmem, hnot⟩)

variable {search : SearchState} {tables : List String} {n : Nat}

/-- The tables probed so far are tables there are, each once. -/
theorem Covers.nodup (h : Covers catalog n search tables)
    (hsorted : catalog.Pairwise (· < ·)) : tables.Nodup := by
  have hall := (h.perm.nodup_iff).mpr (tablesBefore_nodup hsorted n)
  exact (List.nodup_append.mp hall).1

theorem Covers.subset (h : Covers catalog n search tables) : tables ⊆ allTables catalog := by
  intro name hname
  exact tablesBefore_subset n (h.perm.subset (List.mem_append_left _ hname))

/-- At the end of a search all tables have been probed. -/
theorem Covers.exhausted (h : Covers catalog n search tables) (hpending : search.pending = [])
    (hcomplete : search.catalogComplete = true) : tables.Perm (allTables catalog) := by
  have hperm := h.perm
  rw [hpending, List.append_nil, h.complete hcomplete, tablesBefore, List.take_length] at hperm
  exact hperm

variable (sysId : String)

/-- A search at its start. -/
theorem progress_start (now : Instant) : Progress catalog 0 (.start sysId now) [] := by
  refine ⟨⟨?_, rfl, Nat.zero_le _, fun name hname => by simp at hname, fun h => by cases h⟩,
    rfl, rfl, rfl⟩
  show ([] ++ priorityTables).Perm (tablesBefore catalog 0)
  simp [tablesBefore]

theorem workLeft_start (now : Instant) :
    workLeft catalog 0 (.start sysId now) = catalog.length + 9 := by
  show (catalog.length - 0) + priorityTables.length + 1 = catalog.length + 9
  have hlength : priorityTables.length = 8 := by decide
  omega

/-! ### Pages of the catalog -/

/-- The next page starts at entry `n`. -/
theorem pageAfter_drop (hsorted : catalog.Pairwise (· < ·)) {after : String}
    (hafter : after = ((catalog.take n).getLast?).getD "")
    (hnamed : ∀ name ∈ catalog.take n, name ≠ "") :
    pageAfter catalog after = (catalog.drop n).take pageSize := by
  unfold pageAfter
  congr 1
  rcases List.eq_nil_or_concat (catalog.take n) with hnil | ⟨before, last, hlast⟩
  · rw [hnil] at hafter
    rw [if_pos (by simpa using hafter)]
    have hsplit := List.take_append_drop n catalog
    rw [hnil, List.nil_append] at hsplit
    exact hsplit.symm
  · have hlast' : catalog.take n = before ++ [last] := by simpa using hlast
    rw [hlast', List.getLast?_append] at hafter
    have hsame : after = last := by simpa using hafter
    subst hsame
    have hne : after ≠ "" := hnamed after (by rw [hlast']; simp)
    rw [if_neg hne]
    have hsplit : catalog = before ++ [after] ++ catalog.drop n := by
      rw [← hlast', List.take_append_drop]
    rw [hsplit, List.pairwise_append, List.pairwise_append] at hsorted
    obtain ⟨⟨-, -, hbefore⟩, -, hrest⟩ := hsorted
    have hdrop : (before ++ [after] ++ catalog.drop n).filter (fun name => after < name) =
        catalog.drop n := by
      have hnone : (before ++ [after]).filter (fun name => decide (after < name)) = [] := by
        refine List.filter_eq_nil_iff.mpr fun name hname hlt => ?_
        have hafter' : after < name := of_decide_eq_true hlt
        rcases List.mem_append.mp hname with hname | hname
        · exact lt_asymm hafter' (hbefore name hname after (by simp))
        · rw [List.mem_singleton.mp hname] at hafter'
          exact lt_irrefl _ hafter'
      have hall : (catalog.drop n).filter (fun name => decide (after < name)) = catalog.drop n :=
        List.filter_eq_self.mpr fun name hname => decide_eq_true (hrest after (by simp) name hname)
      rw [List.filter_append, hnone, hall, List.nil_append]
    conv_lhs => rw [hsplit]
    exact hdrop

theorem takeEntry_ok {name : String} {search next : SearchState}
    (h : takeEntry search (some name) = .ok next) :
    next = { search with
      after := name
      pending := if name ∈ priorityTables then search.pending else search.pending ++ [name] } ∧
      name ≠ "" := by
  simp only [takeEntry] at h
  by_cases hvalid : (!identifier name || decide (name ≤ search.after)) = true
  · rw [if_pos hvalid] at h
    cases h
  · rw [if_neg hvalid] at h
    cases h
    refine ⟨rfl, ?_⟩
    rintro rfl
    have hempty : identifier "" = false := by decide
    rw [hempty] at hvalid
    exact hvalid rfl

/-- What taking in the entries of a page makes of a search. -/
theorem takeEntries_ok {names : List String} {search search' : SearchState}
    (h : (names.map some).foldlM takeEntry search = .ok search') :
    search' = { search with
      after := (names.getLast?).getD search.after
      pending := search.pending ++ names.filter fun name => name ∉ priorityTables } ∧
      ∀ name ∈ names, name ≠ "" := by
  induction names generalizing search with
  | nil =>
    cases h
    simp
  | cons name names ih =>
    rw [List.map_cons, List.foldlM_cons] at h
    obtain ⟨next, hnext, hrest⟩ := bind_eq_ok h
    obtain ⟨hsearch', hnamed⟩ := ih hrest
    obtain ⟨rfl, hne⟩ := takeEntry_ok hnext
    refine ⟨?_, fun other hother => ?_⟩
    · rw [hsearch']
      by_cases hpriority : name ∈ priorityTables
      · cases names with
        | nil => simp [hpriority]
        | cons => simp [hpriority, List.getLast?_cons]
      · cases names with
        | nil => simp [hpriority]
        | cons => simp [hpriority, List.getLast?_cons]
    · rcases List.mem_cons.mp hother with rfl | hother
      · exact hne
      · exact hnamed other hother

/-- A page that is taken in moves the search on by its entries. -/
theorem Covers.takePage (hsorted : catalog.Pairwise (· < ·)) {search search' : SearchState}
    (h : Covers catalog n search tables)
    (hpending : search.pending = []) (hincomplete : search.catalogComplete = false)
    (htake : takePage search ((pageAfter catalog search.after).map some) = .ok search') :
    ∃ n', Covers catalog n' search' tables ∧ search'.sysId = search.sysId ∧
      search'.scanned = search.scanned ∧ search'.unreadable = search.unreadable ∧
      workLeft catalog n' search' ≤ workLeft catalog n search ∧
      (search'.pending = [] → workLeft catalog n' search' + 1 ≤ workLeft catalog n search) := by
  rw [pageAfter_drop hsorted h.after h.named] at htake
  obtain ⟨page, hpage⟩ : ∃ page, (catalog.drop n).take pageSize = page := ⟨_, rfl⟩
  rw [hpage] at htake
  obtain ⟨rfl, hnamed⟩ := takeEntries_ok htake
  have hwithin := h.within
  have hlength : page.length = min pageSize (catalog.length - n) := by
    rw [← hpage, List.length_take, List.length_drop]
  have hsize : pageSize = 32 := rfl
  -- The entries before the next page are those before this one, and this one's.
  have htaken : catalog.take (n + page.length) = catalog.take n ++ page := by
    rw [List.take_add, ← hpage]
    congr 1
    rw [hpage, hlength, ← hpage]
    by_cases hshort : catalog.length - n ≤ pageSize
    · rw [Nat.min_eq_right hshort, List.take_of_length_le (by rw [List.length_drop]),
        List.take_of_length_le (by rw [List.length_drop]; omega)]
    · rw [Nat.min_eq_left (by omega)]
  refine ⟨n + page.length, ⟨?_, ?_, by omega, ?_, fun hcomplete => ?_⟩, rfl, rfl, rfl, ?_, ?_⟩
  · show (tables ++ (search.pending ++ page.filter _)).Perm (tablesBefore catalog _)
    rw [tablesBefore, htaken, List.filter_append, ← List.append_assoc, ← List.append_assoc]
    exact h.perm.append_right _
  · show (page.getLast?).getD search.after = _
    rw [htaken, List.getLast?_append, h.after]
    cases page.getLast? <;> rfl
  · intro name hname
    rw [htaken] at hname
    rcases List.mem_append.mp hname with hname | hname
    · exact h.named name hname
    · exact hnamed name hname
  · have hlt : page.length < pageSize := by simpa using hcomplete
    omega
  · have hfilter := List.length_filter_le (fun name => decide (name ∉ priorityTables)) page
    simp only [workLeft, hpending, hincomplete, List.nil_append, List.length_nil,
      Bool.false_eq_true, if_false]
    split <;> omega
  · intro hnone
    have hempty : page.filter (fun name => decide (name ∉ priorityTables)) = [] := by
      simpa [hpending] using hnone
    simp only [workLeft, hpending, hincomplete, List.nil_append, hempty, List.length_nil,
      List.length_map]
    by_cases hlast : page.length < pageSize
    · simp only [hlast, decide_true, if_true]
      simp
      omega
    · simp only [hlast, decide_false]
      simp
      omega

/-! ### The loop -/

variable {w w' : ResolverWorld} {past : Trace ResolveIO} {answers : List (String × ProbeAnswer)}

theorem unreadableCount_append (as bs : List (String × ProbeAnswer)) :
    unreadableCount (as ++ bs) = unreadableCount as + unreadableCount bs := List.countP_append

theorem foundRecords_append (as bs : List (String × ProbeAnswer)) :
    foundRecords (as ++ bs) = foundRecords as ++ foundRecords bs := List.filterMap_append

/-- Filling up the pending tables. -/
theorem fillPending_executes (hsorted : catalog.Pairwise (· < ·))
    {out : Except RecordResolveError SearchState} (h : Progress catalog n search answers)
    (hgo : ¬ (search.pending = [] ∧ search.catalogComplete = true))
    (hexec : Executes (resolveAnswers catalog) (fillPending search).run w past out w') :
    w' = w ∧ probed past = [] ∧ probes past = 0 ∧ ∀ search', out = .ok search' →
      ∃ n', Progress catalog n' search' answers ∧ search'.sysId = search.sysId ∧
        workLeft catalog n' search' ≤ workLeft catalog n search ∧
        (search'.pending = [] → workLeft catalog n' search' + 1 ≤ workLeft catalog n search) := by
  unfold fillPending at hexec
  split at hexec
  · rename_i hpending
    obtain ⟨rfl, rfl, rfl⟩ := executes_run_pure.mp hexec
    refine ⟨rfl, rfl, rfl, fun search' hout => ?_⟩
    cases hout
    exact ⟨n, h, rfl, le_rfl, fun hnone => absurd hnone hpending⟩
  · rename_i hpending
    rw [not_not] at hpending
    have hincomplete : search.catalogComplete = false := by
      by_contra hcomplete
      exact hgo ⟨hpending, by simpa using hcomplete⟩
    obtain ⟨answer, w₁, rest, ha, rfl, hrest⟩ := executes_ask hexec
    cases answer with
    | timedOut =>
      obtain ⟨rfl, rfl, rfl⟩ := executes_refuse hrest
      exact ⟨ha, rfl, rfl, fun search' hout => by cases hout⟩
    | failed =>
      obtain ⟨rfl, rfl, rfl⟩ := executes_refuse hrest
      exact ⟨ha, rfl, rfl, fun search' hout => by cases hout⟩
    | page names errors =>
      cases errors with
      | true =>
        obtain ⟨rfl, rfl, rfl⟩ := executes_refuse hrest
        exact ⟨ha, rfl, rfl, fun search' hout => by cases hout⟩
      | false =>
        obtain ⟨rfl, rfl⟩ := ha
        obtain ⟨rfl, rfl, rfl⟩ := executes_given hrest
        refine ⟨rfl, rfl, rfl, fun search' hout => ?_⟩
        obtain ⟨n', hcovers, hid, hscanned, hunreadable, hle, hlt⟩ :=
          h.covers.takePage hsorted hpending hincomplete hout
        exact ⟨n', ⟨hcovers, hscanned.trans h.scanned, hunreadable.trans h.unreadable, h.missed⟩,
          hid, hle, hlt⟩

/-- Probing some of the pending tables. -/
theorem probeBatch_executes {n count : Nat}
    {out : Except RecordResolveError (List Record × SearchState)}
    (h : Progress catalog n search answers) (hcount : count ≤ search.pending.length)
    (hexec : Executes (resolveAnswers catalog) (probeBatch count search).run w past out w') :
    w' = w ∧ probes past = count ∧ ∀ records search', out = .ok (records, search') →
      records = foundRecords (probed past) ∧
      Covers catalog n search' ((answers ++ probed past).map Prod.fst) ∧
      (records = [] → Progress catalog n search' (answers ++ probed past)) ∧
      search'.sysId = search.sysId ∧
      workLeft catalog n search' + count ≤ workLeft catalog n search := by
  obtain ⟨answer, w₁, rest, ha, rfl, hrest⟩ := executes_ask hexec
  have htaken : (search.pending.take count).length = count := by
    rw [List.length_take, Nat.min_eq_left hcount]
  cases answer with
  | none =>
    obtain ⟨rfl, rfl, rfl⟩ := executes_refuse hrest
    refine ⟨ha, by simp [probes, probeCount, htaken], fun records search' hout => by cases hout⟩
  | some replies =>
    obtain ⟨hperm, rfl⟩ := ha
    obtain ⟨rfl, rfl, rfl⟩ := executes_run_pure.mp hrest
    refine ⟨rfl, by simp [probes, probeCount, htaken], fun records search' hout => ?_⟩
    cases hout
    have hprobed : probed [⟨.probe (search.pending.take count) search.sysId, some replies⟩] =
        replies := by simp [probed, probedIn]
    rw [hprobed]
    have hcovers : Covers catalog n
        { search with
          pending := search.pending.drop count
          scanned := search.scanned + count
          unreadable := search.unreadable + unreadableCount replies }
        ((answers ++ replies).map Prod.fst) := by
      refine ⟨?_, h.covers.after, h.covers.within, h.covers.named, h.covers.complete⟩
      rw [List.map_append, List.append_assoc]
      refine List.Perm.trans ?_ h.covers.perm
      refine List.Perm.append_left _ ?_
      have hsplit := List.take_append_drop count search.pending
      exact (hperm.append_right _).trans (by rw [hsplit])
    refine ⟨rfl, hcovers, fun hnone => ⟨hcovers, ?_, ?_, ?_⟩, rfl, ?_⟩
    · have hlength := hperm.length_eq
      rw [List.length_map, htaken] at hlength
      rw [List.length_append, hlength]
      exact congrArg (· + count) h.scanned
    · rw [unreadableCount_append]
      exact congrArg (· + unreadableCount replies) h.unreadable
    · rw [foundRecords_append, h.missed, hnone]
      rfl
    · simp only [workLeft, List.length_drop]
      omega

/-- **The loop keeps the account of a search**, and gets on with it unless it is at its end. -/
theorem searchLoop_executes (hsorted : catalog.Pairwise (· < ·)) {fuel remaining n : Nat}
    {out : Except RecordResolveError SearchEnd} (h : Progress catalog n search answers)
    (hexec : Executes (resolveAnswers catalog) (searchLoop fuel remaining search).run w past out
      w') :
    w' = w ∧ probes past ≤ remaining ∧
      (∀ record records, out = .ok (.found record records) → ∃ n' search',
        Covers catalog n' search' ((answers ++ probed past).map Prod.fst)) ∧
      ∀ search', out = .ok (.paused search') → ∃ n',
        Progress catalog n' search' (answers ++ probed past) ∧ search'.sysId = search.sysId ∧
        workLeft catalog n' search' ≤ workLeft catalog n search ∧
        (0 < fuel → 0 < remaining → ¬ (search.pending = [] ∧ search.catalogComplete = true) →
          workLeft catalog n' search' + 1 ≤ workLeft catalog n search) := by
  induction fuel generalizing remaining n search answers w past with
  | zero =>
    obtain ⟨rfl, rfl, rfl⟩ := executes_run_pure.mp hexec
    refine ⟨rfl, Nat.zero_le _, fun _ _ hout => (by cases hout), fun search' hout => ?_⟩
    cases hout
    refine ⟨n, by rwa [probed_nil, List.append_nil], rfl, le_rfl, fun hfuel => by omega⟩
  | succ fuel ih =>
    rw [searchLoop] at hexec
    by_cases hend : remaining = 0 ∨ search.pending = [] ∧ search.catalogComplete = true
    · rw [if_pos hend] at hexec
      obtain ⟨rfl, rfl, rfl⟩ := executes_run_pure.mp hexec
      refine ⟨rfl, Nat.zero_le _, fun _ _ hout => (by cases hout), fun search' hout => ?_⟩
      cases hout
      refine ⟨n, by rwa [probed_nil, List.append_nil], rfl, le_rfl, fun _ hremaining hgo => ?_⟩
      rcases hend with hzero | hend
      · omega
      · exact absurd hend hgo
    · rw [if_neg hend] at hexec
      obtain ⟨hremaining, hgo⟩ := not_or.mp hend
      rcases executes_run_bind.mp hexec with
        ⟨err, rfl, hfill⟩ | ⟨filled, w₁, past₁, past₂, rfl, hfill, hrest⟩
      · obtain ⟨hw, -, hprobes, -⟩ := fillPending_executes hsorted h hgo hfill
        exact ⟨hw, by omega, fun _ _ hout => (by cases hout), fun _ hout => by cases hout⟩
      · obtain ⟨rfl, hprobed₁, hprobes₁, hfilled⟩ := fillPending_executes hsorted h hgo hfill
        obtain ⟨n₁, h₁, hid₁, hle₁, hlt₁⟩ := hfilled filled rfl
        rw [probed_append, probes_append, hprobed₁, hprobes₁, List.nil_append, Nat.zero_add]
        by_cases hpending : filled.pending = []
        · -- A page without a table to probe: it costs one probe.
          rw [if_pos hpending] at hrest
          obtain ⟨hw, hprobes, hfound, hpaused⟩ := ih h₁ hrest
          refine ⟨hw, by omega, hfound, fun search' hout => ?_⟩
          obtain ⟨n', h', hid', hle', -⟩ := hpaused search' hout
          have hstep := hlt₁ hpending
          exact ⟨n', h', hid'.trans hid₁, by omega, fun _ _ _ => by omega⟩
        · rw [if_neg hpending] at hrest
          obtain ⟨count, hcount⟩ :
              ∃ count, min (min concurrency remaining) filled.pending.length = count := ⟨_, rfl⟩
          rw [hcount] at hrest
          have hpos : 0 < filled.pending.length := List.length_pos_of_ne_nil hpending
          have height : concurrency = 8 := rfl
          rcases executes_run_bind.mp hrest with
            ⟨err, rfl, hbatch⟩ | ⟨⟨records, probed₂⟩, w₂, past₃, past₄, rfl, hbatch, hgoOn⟩
          · obtain ⟨hw, hprobes, -⟩ := probeBatch_executes h₁ (by omega) hbatch
            exact ⟨hw, by omega, fun _ _ hout => (by cases hout), fun _ hout => by cases hout⟩
          · obtain ⟨rfl, hprobes₃, hbatch'⟩ := probeBatch_executes h₁ (by omega) hbatch
            obtain ⟨-, hcovers, hmissed, hid₂, hle₂⟩ := hbatch' records probed₂ rfl
            cases records with
            | cons record records =>
              obtain ⟨rfl, rfl, rfl⟩ := executes_run_pure.mp hgoOn
              rw [List.append_nil]
              refine ⟨rfl, by omega, fun _ _ _ => ⟨n₁, probed₂, hcovers⟩, fun _ hout => ?_⟩
              cases hout
            | nil =>
              obtain ⟨hw, hprobes, hfound, hpaused⟩ := ih (hmissed rfl) hgoOn
              rw [probed_append, probes_append, ← List.append_assoc]
              refine ⟨hw, by omega, hfound, fun search' hout => ?_⟩
              obtain ⟨n', h', hid', hle', -⟩ := hpaused search' hout
              exact ⟨n', h', (hid'.trans hid₂).trans hid₁, by omega, fun _ _ _ => by omega⟩

end Progress

end SnowAgent.Resolve
