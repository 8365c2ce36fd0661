import Mathlib.Data.List.Sort
import Mathlib.Data.List.Nodup
import Mathlib.Order.Basic

/-! # Pages by key

A table is read page by page: each page is the first rows that match, in ascending order of
their keys, after the last key that the page before it has inspected.  The table may change
from one page to the next.  No key is read twice all the same, and a row that matches while
every page is read is on one of them.
-/
namespace Keyset

variable {R K : Type} [LinearOrder K] (key : R → K)

/-- The first rows that match, in ascending order of their keys. -/
def firstRows (wanted : R → Bool) (limit : Nat) (rows : List R) : List R :=
  ((rows.filter wanted).mergeSort fun a b => decide (key a ≤ key b)).take limit

/-- Whether a row comes after a key. -/
def isAfter (cursor : Option K) (r : R) : Bool :=
  match cursor with
  | none => true
  | some k => decide (k < key r)

/-- Some rows are the first that are wanted, in ascending order of their keys. -/
structure First (wanted : R → Bool) (limit : Nat) (rows page : List R) : Prop where
  sorted : page.Pairwise fun a b => key a < key b
  found : ∀ r ∈ page, r ∈ rows ∧ wanted r = true
  rest : ∀ r ∈ rows, wanted r = true → r ∉ page → page.length = limit ∧ ∀ r' ∈ page, key r' < key r
  short : page.length ≤ limit

variable {key}

/-- The first rows of a table without two rows of one key. -/
theorem firstRows_first {wanted : R → Bool} {limit : Nat} {rows : List R}
    (hnodup : (rows.map key).Nodup) :
    First key wanted limit rows (firstRows key wanted limit rows) := by
  set sorted := (rows.filter wanted).mergeSort fun a b => decide (key a ≤ key b) with hsorted
  have hperm : sorted.Perm (rows.filter wanted) := List.mergeSort_perm _ _
  have hle : sorted.Pairwise fun a b => key a ≤ key b := by
    have hpairwise := @List.pairwise_mergeSort _ (fun a b => decide (key a ≤ key b))
      (fun a b c hab hbc => by simpa using le_trans (by simpa using hab) (by simpa using hbc))
      (fun a b => by simpa using le_total (key a) (key b)) (rows.filter wanted)
    exact hpairwise.imp fun h => by simpa using h
  have hne : sorted.Pairwise fun a b => key a ≠ key b := by
    have hkeys : ((rows.filter wanted).map key).Nodup :=
      hnodup.sublist (List.filter_sublist.map key)
    exact List.pairwise_map.mp ((hperm.map key).nodup_iff.mpr hkeys)
  have hlt : sorted.Pairwise fun a b => key a < key b :=
    (hle.and hne).imp fun h => lt_of_le_of_ne h.1 h.2
  have hmem : ∀ r, r ∈ sorted ↔ r ∈ rows ∧ wanted r = true := fun r => by
    rw [hperm.mem_iff, List.mem_filter]
  have hsplit : sorted.take limit ++ sorted.drop limit = sorted := List.take_append_drop ..
  refine ⟨hlt.sublist (List.take_sublist ..), fun r hr => (hmem r).mp (List.mem_of_mem_take hr),
    fun r hr hwanted hrest => ?_, List.length_take_le ..⟩
  have hdrop : r ∈ sorted.drop limit := by
    have hin := (hmem r).mpr ⟨hr, hwanted⟩
    rw [← hsplit] at hin
    exact (List.mem_append.mp hin).resolve_left hrest
  rw [← hsplit] at hlt
  refine ⟨?_, fun r' hr' => (List.pairwise_append.mp hlt).2.2 r' hr' r hdrop⟩
  have hlong : limit < sorted.length := by
    by_contra hshort
    rw [List.drop_eq_nil_of_le (not_lt.mp hshort)] at hdrop
    cases hdrop
  exact List.length_take_of_le hlong.le

/-! ## Pages -/

/-- A page: the rows it keeps, how many it has inspected, the key to go on from, and whether
it is the last. -/
structure Page (R K : Type) where
  rows : List R
  inspected : Nat
  next : Option K
  complete : Bool

variable (key) in
/-- The page of the rows that were read. -/
def pageOf (keeps : R → Bool) (limit : Nat) (rows : List R) : Page R K where
  rows := rows.filter keeps
  inspected := rows.length
  next := if rows.length < limit then none else rows.getLast?.map key
  complete := decide (rows.length < limit)

/-- How a chain of pages ends. -/
inductive Outcome (E : Type) where
  /-- The last page was complete. -/
  | complete
  | failed (err : E)
  /-- The caller stops. -/
  | stopped
deriving DecidableEq

variable {T E : Type}

/-- A chain of pages over tables that change: each page is read after the key that the one
before it has given. -/
inductive Chain (read : Option K → T → Except E (Page R K)) (data : Nat → T) :
    Nat → Option K → List (Page R K) → Outcome E → Prop where
  | stopped {i : Nat} {cursor : Option K} : Chain read data i cursor [] .stopped
  | failed {i : Nat} {cursor : Option K} {err : E} :
      read cursor (data i) = .error err → Chain read data i cursor [] (.failed err)
  | last {i : Nat} {cursor : Option K} {page : Page R K} :
      read cursor (data i) = .ok page → page.complete = true →
        Chain read data i cursor [page] .complete
  | next {i : Nat} {cursor : Option K} {page : Page R K} {k : K} {pages : List (Page R K)}
      {outcome : Outcome E} :
      read cursor (data i) = .ok page → page.next = some k →
        Chain read data (i + 1) (some k) pages outcome →
          Chain read data i cursor (page :: pages) outcome

/-- A read answers, for the cursors of a kind, with the page of the first rows after its cursor. -/
structure Pages (key : R → K) (legal : K → Prop) (read : Option K → T → Except E (Page R K))
    (rows : T → List R) (wanted : T → R → Bool) (keeps : R → Bool) (limit : Nat) : Prop where
  legalKeys : ∀ t, ∀ r ∈ rows t, legal (key r)
  page : ∀ {cursor t page}, (∀ k ∈ cursor, legal k) → read cursor t = .ok page →
    0 < limit ∧ ∃ inspected, First key (fun r => wanted t r && isAfter key cursor r) limit
      (rows t) inspected ∧
      page = pageOf key keeps limit inspected

section Chains

variable {legal : K → Prop} {read : Option K → T → Except E (Page R K)} {rows : T → List R}
  {wanted : T → R → Bool} {keeps : R → Bool} {limit : Nat} {data : Nat → T} {i : Nat}
  {cursor : Option K} {pages : List (Page R K)} {outcome : Outcome E} {page : Page R K} {t : T}

theorem isAfter_iff {r : R} : isAfter key cursor r = true ↔ ∀ k ∈ cursor, k < key r := by
  cases cursor <;> simp [isAfter]

omit [LinearOrder K] in
/-- The key to go on from is that of the last row inspected. -/
theorem next_eq_some {inspected : List R} {k : K}
    (h : (pageOf key keeps limit inspected).next = some k) :
    limit ≤ inspected.length ∧ ∃ r, inspected.getLast? = some r ∧ key r = k := by
  simp only [pageOf] at h
  split_ifs at h with hshort
  obtain ⟨r, hr, hk⟩ := Option.map_eq_some_iff.mp h
  exact ⟨not_lt.mp hshort, r, hr, hk⟩

omit [LinearOrder K] in
/-- A page that is not complete gives a key to go on from. -/
theorem next_of_incomplete {inspected : List R} (hpositive : 0 < limit)
    (h : (pageOf key keeps limit inspected).complete = false) :
    ∃ k, (pageOf key keeps limit inspected).next = some k := by
  have hlong : ¬ inspected.length < limit := by simpa [pageOf] using h
  have hne : inspected ≠ [] := by
    rintro rfl
    exact hlong hpositive
  exact ⟨key (inspected.getLast hne), by simp [pageOf, hlong, List.getLast?_eq_some_getLast hne]⟩

/-- No row inspected comes after the last one. -/
theorem le_last {inspected : List R} (hsorted : inspected.Pairwise fun a b => key a < key b)
    {last : R} (hlast : inspected.getLast? = some last) : ∀ r ∈ inspected, key r ≤ key last := by
  obtain ⟨front, rfl⟩ := List.getLast?_eq_some_iff.mp hlast
  intro r hr
  rcases List.mem_append.mp hr with hr | hr
  · exact ((List.pairwise_append.mp hsorted).2.2 r hr last (List.mem_singleton_self _)).le
  · rw [List.mem_singleton.mp hr]

/-- What a page of a read has to do with the table it was read from. -/
structure Reads (key : R → K) (rows : List R) (wanted keeps : R → Bool) (cursor : Option K)
    (page : Page R K) : Prop where
  sorted : page.rows.Pairwise fun a b => key a < key b
  found : ∀ r ∈ page.rows, r ∈ rows ∧ wanted r = true ∧ keeps r = true ∧ ∀ k ∈ cursor, k < key r
  /-- The page goes on from a later key, and no row comes after it. -/
  onward : ∀ k ∈ page.next, (∃ r ∈ rows, key r = k ∧ wanted r = true) ∧ (∀ k' ∈ cursor, k' < k) ∧
    ∀ r ∈ page.rows, key r ≤ k
  /-- No row is passed over. -/
  covers : ∀ r ∈ rows, wanted r = true → keeps r = true → (∀ k ∈ cursor, k < key r) →
    r ∈ page.rows ∨ ∃ k ∈ page.next, k < key r
  /-- After a complete page there is no row. -/
  ends : page.complete = true → page.next = none

theorem reads_of_first {wanted : R → Bool} {table inspected : List R} (hpositive : 0 < limit)
    (hfirst : First key (fun r => wanted r && isAfter key cursor r) limit table inspected) :
    Reads key table wanted keeps cursor (pageOf key keeps limit inspected) := by
  have hfound : ∀ r ∈ inspected, r ∈ table ∧ wanted r = true ∧ ∀ k ∈ cursor, k < key r := by
    intro r hr
    obtain ⟨htable, hboth⟩ := hfirst.found r hr
    obtain ⟨hwanted, hafter⟩ := Bool.and_eq_true_iff.mp hboth
    exact ⟨htable, hwanted, isAfter_iff.mp hafter⟩
  refine ⟨hfirst.sorted.sublist List.filter_sublist, ?_, ?_, ?_, ?_⟩
  · intro r hr
    obtain ⟨hr, hkeeps⟩ := List.mem_filter.mp hr
    obtain ⟨htable, hwanted, hafter⟩ := hfound r hr
    exact ⟨htable, hwanted, hkeeps, hafter⟩
  · intro k hk
    obtain ⟨_, last, hlast, rfl⟩ := next_eq_some hk
    obtain ⟨htable, hwanted, hafter⟩ := hfound last (List.mem_of_getLast? hlast)
    exact ⟨⟨last, htable, rfl, hwanted⟩, hafter,
      fun r hr => le_last hfirst.sorted hlast r (List.mem_of_mem_filter hr)⟩
  · intro r hr hwanted hkeeps hafter
    by_cases hin : r ∈ inspected
    · exact .inl (List.mem_filter.mpr ⟨hin, hkeeps⟩)
    · obtain ⟨hlength, hbelow⟩ := hfirst.rest r hr
        (Bool.and_eq_true_iff.mpr ⟨hwanted, isAfter_iff.mpr hafter⟩) hin
      have hincomplete : (pageOf key keeps limit inspected).complete = false := by
        simp [pageOf, hlength]
      obtain ⟨k, hk⟩ := next_of_incomplete hpositive hincomplete
      obtain ⟨_, last, hlast, rfl⟩ := next_eq_some hk
      exact .inr ⟨key last, hk, hbelow last (List.mem_of_getLast? hlast)⟩
  · intro hcomplete
    have hshort : inspected.length < limit := by simpa [pageOf] using hcomplete
    simp [pageOf, hshort]

section

variable (h : Pages key legal read rows wanted keeps limit)

include h

section

variable (hlegal : ∀ k ∈ cursor, legal k) (hread : read cursor t = .ok page)

include hlegal hread

theorem Pages.reads :
    Reads key (rows t) (wanted t) keeps cursor page := by
  obtain ⟨hpositive, inspected, hfirst, rfl⟩ := h.page hlegal hread
  exact reads_of_first hpositive hfirst

/-- The key to go on from is a legal cursor. -/
theorem Pages.legal_next :
    ∀ k ∈ page.next, legal k := by
  intro k hk
  obtain ⟨⟨r, hr, rfl, _⟩, _⟩ := (h.reads hlegal hread).onward k hk
  exact h.legalKeys t r hr

/-- A complete page has inspected every row that is wanted after its cursor. -/
theorem Pages.inspected_of_complete (hcomplete : page.complete = true) :
    ∃ inspected : List R, page.rows = inspected.filter keeps ∧ page.inspected = inspected.length ∧
      ∀ r ∈ rows t, wanted t r = true → (∀ k ∈ cursor, k < key r) → r ∈ inspected := by
  obtain ⟨_, inspected, hfirst, rfl⟩ := h.page hlegal hread
  refine ⟨inspected, rfl, rfl, fun r hr hwanted hafter => ?_⟩
  by_contra hout
  have hfull := (hfirst.rest r hr
    (Bool.and_eq_true_iff.mpr ⟨hwanted, isAfter_iff.mpr hafter⟩) hout).1
  simp [pageOf, hfull] at hcomplete

end

/-- **No key is read twice.**  The keys of a chain ascend, over every change of the table. -/
theorem Chain.sorted (hchain : Chain read data i cursor pages outcome) (hlegal : ∀ k ∈ cursor, legal k) :
    ((pages.flatMap Page.rows).Pairwise fun a b => key a < key b) ∧
      ∀ r ∈ pages.flatMap Page.rows, ∀ k ∈ cursor, k < key r := by
  induction hchain with
  | stopped => simp
  | failed _ => simp
  | last hread _ =>
    have hreads := h.reads hlegal hread
    simpa using And.intro hreads.sorted fun r hr => (hreads.found r hr).2.2.2
  | @next i cursor page k pages outcome hread hnext _ ih =>
    have hreads := h.reads hlegal hread
    obtain ⟨_, honward, hbelow⟩ := hreads.onward k hnext
    obtain ⟨hsorted, hafter⟩ := ih fun k' hk' => by
      cases hk'
      exact h.legal_next hlegal hread k hnext
    have hbeyond : ∀ r ∈ pages.flatMap Page.rows, k < key r := fun r hr => hafter r hr k rfl
    refine ⟨?_, ?_⟩
    · rw [List.flatMap_cons, List.pairwise_append]
      exact ⟨hreads.sorted, hsorted, fun a ha b hb => (hbelow a ha).trans_lt (hbeyond b hb)⟩
    · intro r hr k' hk'
      rw [List.flatMap_cons, List.mem_append] at hr
      rcases hr with hr | hr
      · exact (hreads.found r hr).2.2.2 k' hk'
      · exact (honward k' hk').trans (hbeyond r hr)

/-- **No row is missed.**  A row that is wanted while every page of a chain is read is on one of
them, if the chain has ended with a complete page. -/
theorem Chain.covers (hchain : Chain read data i cursor pages outcome) (hlegal : ∀ k ∈ cursor, legal k)
    (houtcome : outcome = .complete) {k : K} (hafter : ∀ k' ∈ cursor, k' < k)
    (hstays : ∀ j, i ≤ j → j < i + pages.length →
      ∃ r ∈ rows (data j), key r = k ∧ wanted (data j) r = true ∧ keeps r = true) :
    ∃ r ∈ pages.flatMap Page.rows, key r = k := by
  induction hchain with
  | stopped => cases houtcome
  | failed _ => cases houtcome
  | @last i cursor page hread hcomplete =>
    obtain ⟨r, hr, rfl, hwanted, hkeeps⟩ := hstays i (le_refl i) (by simp)
    have hreads := h.reads hlegal hread
    rcases hreads.covers r hr hwanted hkeeps hafter with hin | ⟨k', hk', _⟩
    · exact ⟨r, by simpa using hin, rfl⟩
    · rw [hreads.ends hcomplete] at hk'
      cases hk'
  | @next i cursor page k₁ pages outcome hread hnext _ ih =>
    have hreads := h.reads hlegal hread
    obtain ⟨r, hr, hrk, hwanted, hkeeps⟩ := hstays i (le_refl i) (by simp)
    rcases hreads.covers r hr hwanted hkeeps (hrk ▸ hafter) with hin | ⟨k', hk', hbelow⟩
    · exact ⟨r, by simp [hin], hrk⟩
    · have hk₁ : k₁ = k' := Option.some_inj.mp (hnext.symm.trans hk')
      obtain ⟨r', hr', hrk'⟩ := ih (fun k'' hk'' => by
          cases hk''
          exact h.legal_next hlegal hread k₁ hnext)
        houtcome
        (fun k'' hk'' => by
          cases hk''
          rw [hk₁, ← hrk]
          exact hbelow)
        (fun j hj hlt => hstays j (by omega) (by simp only [List.length_cons]; omega))
      exact ⟨r', by simp [hr'], hrk'⟩

end

/-! ## Unchanging data -/

/-- How many rows are wanted after a cursor. -/
def remaining (key : R → K) (wanted : R → Bool) (rows : List R) (cursor : Option K) : Nat :=
  (rows.filter fun r => wanted r && isAfter key cursor r).length

/-- Each page leaves fewer rows. -/
theorem remaining_lt {wanted keeps : R → Bool} {table : List R} {k : K}
    (hreads : Reads key table wanted keeps cursor page) (hnext : page.next = some k) :
    remaining key wanted table (some k) < remaining key wanted table cursor := by
  obtain ⟨⟨r, hr, rfl, hwanted⟩, hcursor, _⟩ := hreads.onward k hnext
  have hsub : (table.filter fun r' => wanted r' && isAfter key (some (key r)) r').Sublist
      (table.filter fun r' => wanted r' && isAfter key cursor r') := by
    refine List.monotone_filter_right table fun r' hr' => ?_
    obtain ⟨hwanted', hlt⟩ := Bool.and_eq_true_iff.mp hr'
    refine Bool.and_eq_true_iff.mpr ⟨hwanted', isAfter_iff.mpr fun k' hk' => ?_⟩
    exact (hcursor k' hk').trans (isAfter_iff.mp hlt _ rfl)
  refine lt_of_le_of_ne hsub.length_le fun heq => ?_
  have hsame := hsub.eq_of_length heq
  have hin : r ∈ table.filter fun r' => wanted r' && isAfter key cursor r' :=
    List.mem_filter.mpr ⟨hr, Bool.and_eq_true_iff.mpr ⟨hwanted, isAfter_iff.mpr hcursor⟩⟩
  rw [← hsame] at hin
  simp [isAfter] at hin

section

variable (h : Pages key legal read rows wanted keeps limit)

include h

/-- **A chain is finite.**  Over data that does not change, it has at most one page more than
there are rows. -/
theorem Chain.length_le (hchain : Chain read (fun _ => t) i cursor pages outcome) (hlegal : ∀ k ∈ cursor, legal k) :
    pages.length ≤ remaining key (wanted t) (rows t) cursor + 1 := by
  induction hchain with
  | stopped => simp
  | failed _ => simp
  | last _ _ => simp
  | @next i cursor page k pages outcome hread hnext _ ih =>
    have hreads := h.reads hlegal hread
    have hless := remaining_lt hreads hnext
    have hle := ih fun k' hk' => by
      cases hk'
      exact h.legal_next hlegal hread k hnext
    rw [List.length_cons]
    omega

/-- A page that is not the last gives a key to go on from. -/
theorem Pages.next_of_incomplete (hlegal : ∀ k ∈ cursor, legal k) (hread : read cursor t = .ok page)
    (hcomplete : page.complete = false) : ∃ k, page.next = some k := by
  obtain ⟨hpositive, inspected, _, rfl⟩ := h.page hlegal hread
  exact Keyset.next_of_incomplete hpositive hcomplete

/-- **A chain ends.**  Over data that does not change, a caller who follows the keys comes to a
complete page or to a failure. -/
theorem Pages.ends (t : T) :
    ∀ (n : Nat) (i : Nat) (cursor : Option K), (∀ k ∈ cursor, legal k) →
      remaining key (wanted t) (rows t) cursor ≤ n →
        ∃ pages outcome, Chain read (fun _ => t) i cursor pages outcome ∧ outcome ≠ .stopped := by
  intro n
  induction n with
  | zero =>
    intro i cursor hlegal hle
    rcases hread : read cursor t with err | page
    · exact ⟨[], .failed err, .failed hread, by simp⟩
    · rcases hcomplete : page.complete
      · obtain ⟨k, hnext⟩ := h.next_of_incomplete hlegal hread hcomplete
        have := remaining_lt (h.reads hlegal hread) hnext
        omega
      · exact ⟨[page], .complete, .last hread hcomplete, by simp⟩
  | succ n ih =>
    intro i cursor hlegal hle
    rcases hread : read cursor t with err | page
    · exact ⟨[], .failed err, .failed hread, by simp⟩
    · rcases hcomplete : page.complete
      · obtain ⟨k, hnext⟩ := h.next_of_incomplete hlegal hread hcomplete
        have hless := remaining_lt (h.reads hlegal hread) hnext
        obtain ⟨pages, outcome, hchain, hended⟩ := ih (i + 1) (some k) (fun k' hk' => by
            cases hk'
            exact h.legal_next hlegal hread k hnext)
          (by omega)
        exact ⟨page :: pages, outcome, .next hread hnext hchain, hended⟩
      · exact ⟨[page], .complete, .last hread hcomplete, by simp⟩

/-- A chain that fails has a read that fails. -/
theorem Chain.failed_read {err : E}
    (hchain : Chain read data i cursor pages outcome) (hlegal : ∀ k ∈ cursor, legal k)
    (houtcome : outcome = .failed err) :
    ∃ j cursor', (∀ k ∈ cursor', legal k) ∧ read cursor' (data j) = .error err := by
  induction hchain with
  | stopped => cases houtcome
  | @failed i cursor err' hread =>
    cases houtcome
    exact ⟨i, cursor, hlegal, hread⟩
  | last _ _ => cases houtcome
  | next hread hnext _ ih =>
    exact ih (fun k' hk' => by
      cases hk'
      exact h.legal_next hlegal hread _ hnext) houtcome

end

/-! ## The law of a paged read -/

/-- **Pages cover each row once.**  What a caller may rely on who follows the keys of a read from
its first page on, whatever happens to the table between two pages. -/
structure CoversOnce (key : R → K) (legal : K → Prop) (read : Option K → T → Except E (Page R K))
    (rows : T → List R) (wanted : T → R → Bool) (keeps : R → Bool) : Prop where
  /-- No row twice. -/
  once : ∀ {data : Nat → T} {pages : List (Page R K)} {outcome : Outcome E},
    Chain read data 0 none pages outcome → ((pages.flatMap Page.rows).map key).Nodup
  /-- Every row that is wanted throughout. -/
  covers : ∀ {data : Nat → T} {pages : List (Page R K)}, Chain read data 0 none pages .complete →
    ∀ k, (∀ j < pages.length, ∃ r ∈ rows (data j), key r = k ∧ wanted (data j) r = true ∧
      keeps r = true) → ∃ r ∈ pages.flatMap Page.rows, key r = k
  /-- Every key that a chain goes on from is legal. -/
  onward : ∀ {cursor : Option K} {t : T} {page : Page R K}, (∀ k ∈ cursor, legal k) →
    read cursor t = .ok page → ∀ k ∈ page.next, legal k
  /-- A complete page has inspected every row that is wanted after its cursor. -/
  complete : ∀ {cursor : Option K} {t : T} {page : Page R K}, (∀ k ∈ cursor, legal k) →
    read cursor t = .ok page → page.complete = true →
      ∃ inspected : List R, page.rows = inspected.filter keeps ∧
        page.inspected = inspected.length ∧
        ∀ r ∈ rows t, wanted t r = true → (∀ k ∈ cursor, k < key r) → r ∈ inspected
  /-- Over data that does not change, a chain is as long as the table at most. -/
  finite : ∀ {t : T} {pages : List (Page R K)} {outcome : Outcome E},
    Chain read (fun _ => t) 0 none pages outcome → pages.length ≤ (rows t).length + 1
  /-- Over data that does not change, a chain whose first page is answered ends. -/
  ends : ∀ {t : T} {page : Page R K}, read none t = .ok page →
    ∃ pages, Chain read (fun _ => t) 0 none pages .complete

/-- A read of pages by key covers each row once, if no later page fails where the first does
not. -/
theorem Pages.coversOnce (h : Pages key legal read rows wanted keeps limit)
    (hsteady : ∀ {t page}, read none t = .ok page → ∀ cursor, (∀ k ∈ cursor, legal k) →
      ∃ page', read cursor t = .ok page') :
    CoversOnce key legal read rows wanted keeps where
  once hchain := by
    have hsorted := (hchain.sorted h (by simp)).1
    exact List.pairwise_map.mpr (hsorted.imp fun hlt => hlt.ne)
  covers hchain k hstays :=
    hchain.covers h (by simp) rfl (by simp) fun j _ hj => hstays j (by omega)
  onward hlegal hread := h.legal_next hlegal hread
  complete hlegal hread hcomplete := h.inspected_of_complete hlegal hread hcomplete
  finite hchain :=
    (hchain.length_le h (by simp)).trans (Nat.succ_le_succ (List.length_filter_le ..))
  ends {t page} hread := by
    obtain ⟨pages, outcome, hchain, hended⟩ := h.ends t _ 0 none (by simp) (le_refl _)
    cases outcome with
    | complete => exact ⟨pages, hchain⟩
    | stopped => exact absurd rfl hended
    | failed err =>
      obtain ⟨_, cursor, hlegal, hfails⟩ := hchain.failed_read h (by simp) rfl
      obtain ⟨page', hok⟩ := hsteady hread cursor hlegal
      rw [hok] at hfails
      cases hfails

end Chains

end Keyset
