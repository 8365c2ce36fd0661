import SnowAgent.RecordResolver

/-! # Chunks of a document

A document is cut at offsets in bytes that lie between two characters.  A border is an
offset that is the length of some first characters; what is cut between two borders are
the characters between them, and a border is never more than four bytes from the next.
-/
namespace SnowAgent.Resolve

open Program

/-! ## Borders -/

variable {content : String}

section Borders

variable {cs before mid after : List Char} {n : Nat}

@[simp] theorem byteLength_nil : byteLength [] = 0 := rfl

@[simp] theorem byteLength_cons (c : Char) (cs : List Char) :
    byteLength (c :: cs) = c.utf8Size + byteLength cs := rfl

@[simp] theorem byteLength_append (cs cs' : List Char) :
    byteLength (cs ++ cs') = byteLength cs + byteLength cs' := by
  simp [byteLength]

theorem byteLength_eq_zero : byteLength cs = 0 ↔ cs = [] := by
  cases cs with
  | nil => simp
  | cons c cs =>
    have hpos := c.utf8Size_pos
    simp only [byteLength_cons, List.cons_ne_nil, iff_false]
    omega

/-- A border is the length of some first characters. -/
theorem isCharBoundary_iff : isCharBoundary cs n = true ↔
    ∃ before after, cs = before ++ after ∧ byteLength before = n := by
  induction cs generalizing n with
  | nil =>
    cases n with
    | zero => exact ⟨fun _ => ⟨[], [], rfl, rfl⟩, fun _ => rfl⟩
    | succ n =>
      refine ⟨fun h => ?_, ?_⟩
      · cases h
      rintro ⟨before, after, hsplit, hlength⟩
      obtain ⟨rfl, rfl⟩ := List.append_eq_nil_iff.mp hsplit.symm
      cases hlength
  | cons c cs ih =>
    have hpos := c.utf8Size_pos
    cases n with
    | zero => exact ⟨fun _ => ⟨[], c :: cs, rfl, rfl⟩, fun _ => by simp [isCharBoundary]⟩
    | succ n =>
      have hnext : isCharBoundary (c :: cs) (n + 1) =
          (c.utf8Size ≤ n + 1 && isCharBoundary cs (n + 1 - c.utf8Size)) := by
        simp [isCharBoundary]
      rw [hnext, Bool.and_eq_true, ih]
      constructor
      · rintro ⟨hle, before, after, rfl, hlength⟩
        have hle' : c.utf8Size ≤ n + 1 := by simpa using hle
        exact ⟨c :: before, after, rfl, by rw [byteLength_cons]; omega⟩
      · rintro ⟨before, after, hsplit, hlength⟩
        cases before with
        | nil => cases hlength
        | cons d before =>
          obtain ⟨rfl, rfl⟩ := List.cons.inj hsplit
          rw [byteLength_cons] at hlength
          exact ⟨by simp; omega, before, after, rfl, by omega⟩

/-- The last border before an offset is one, and none is after it. -/
theorem floorBoundary_spec (cs : List Char) (n : Nat) :
    isCharBoundary cs (floorBoundary cs n) = true ∧ floorBoundary cs n ≤ n ∧
      ∀ m ≤ n, isCharBoundary cs m = true → m ≤ floorBoundary cs n := by
  induction n with
  | zero =>
    have hzero : isCharBoundary cs 0 = true := isCharBoundary_iff.mpr ⟨[], cs, rfl, rfl⟩
    exact ⟨hzero, le_rfl, fun m hm _ => hm⟩
  | succ n ih =>
    rw [floorBoundary]
    by_cases hborder : isCharBoundary cs (n + 1) = true
    · rw [if_pos hborder]
      exact ⟨hborder, le_rfl, fun m hm _ => hm⟩
    · rw [if_neg hborder]
      obtain ⟨hfloor, hle, hlast⟩ := ih
      refine ⟨hfloor, by omega, fun m hm hbound => ?_⟩
      rcases Nat.lt_or_eq_of_le hm with hlt | rfl
      · exact hlast m (by omega) hbound
      · exact absurd hbound hborder

/-- At a border of a text, the bytes are those of the characters before it and after it. -/
theorem bytes_append (before after : List Char) :
    dropBytes (byteLength before) (before ++ after) = after ∧
      takeBytes (byteLength before) (before ++ after) = before := by
  induction before with
  | nil => exact ⟨by rw [byteLength_nil, List.nil_append, dropBytes],
      by rw [byteLength_nil, takeBytes]⟩
  | cons c before ih =>
    have hpos := c.utf8Size_pos
    obtain ⟨m, hm⟩ : ∃ m, byteLength (c :: before) = m + 1 :=
      ⟨c.utf8Size + byteLength before - 1, by rw [byteLength_cons]; omega⟩
    have hrest : m + 1 - c.utf8Size = byteLength before := by
      rw [byteLength_cons] at hm
      omega
    rw [hm, List.cons_append, dropBytes, takeBytes, hrest, ih.1, ih.2]
    · exact ⟨rfl, rfl⟩
    · omega
    · omega

/-- What is cut between two borders are the characters between them. -/
theorem slice_eq (h : content.toList = before ++ (mid ++ after)) :
    slice content (byteLength before) (byteLength before + byteLength mid) = String.ofList mid := by
  rw [slice, h, (bytes_append ..).1, Nat.add_sub_cancel_left, (bytes_append ..).2]

/-- **From a border on there is a chunk**: not empty, and at most so many bytes, if a character
fits into these. -/
theorem exists_chunk {size : Nat} (hsize : 4 ≤ size) (hlt : n < byteLength cs)
    (hborder : isCharBoundary cs n = true) :
    ∃ before mid after, cs = before ++ (mid ++ after) ∧ byteLength before = n ∧
      byteLength before + byteLength mid = floorBoundary cs (min (n + size) (byteLength cs)) ∧
      mid ≠ [] ∧ byteLength mid ≤ size := by
  obtain ⟨before, rest, rfl, rfl⟩ := isCharBoundary_iff.mp hborder
  rw [byteLength_append] at hlt ⊢
  obtain ⟨hstop, hle, hlast⟩ := floorBoundary_spec (before ++ rest)
    (min (byteLength before + size) (byteLength before + byteLength rest))
  obtain ⟨stop, hstop_eq⟩ : ∃ stop, floorBoundary (before ++ rest)
    (min (byteLength before + size) (byteLength before + byteLength rest)) = stop := ⟨_, rfl⟩
  rw [hstop_eq] at hstop hle hlast ⊢
  cases rest with
  | nil =>
    rw [byteLength_nil] at hlt
    omega
  | cons c rest =>
    have hfour := c.utf8Size_le_four
    have hpos := c.utf8Size_pos
    -- The first character of the rest fits, so the border after it is before the last one.
    have hone : isCharBoundary (before ++ c :: rest) (byteLength before + c.utf8Size) = true :=
      isCharBoundary_iff.mpr ⟨before ++ [c], rest, by simp, by simp⟩
    rw [byteLength_cons] at hle hlast
    have hnext := hlast _ (by omega) hone
    obtain ⟨upTo, after, hsplit, hlength⟩ := isCharBoundary_iff.mp hstop
    rcases List.append_eq_append_iff.mp hsplit with ⟨mid, rfl, hrest⟩ | ⟨mid, rfl, hrest⟩
    · rw [byteLength_append] at hlength
      refine ⟨before, mid, after, by rw [hrest], rfl, hlength, ?_, by omega⟩
      rintro rfl
      rw [byteLength_nil] at hlength
      omega
    · rw [byteLength_append] at hnext
      omega

end Borders

/-! ## What a chunk is of -/

/-- The offset after a chunk. -/
def DocumentChunk.stop (chunk : DocumentChunk) : Nat :=
  chunk.offsetBytes + Resolve.byteLength chunk.content.toList

/-- A chunk is cut from a content, at borders of characters, and it is the last one if it has no
cursor. -/
structure ChunkOf (lib : ResolverLib) (content : String) (chunk : DocumentChunk) : Prop where
  hash : chunk.contentHash = contentHash lib content
  length : chunk.byteLength = byteLength content.toList
  cut : ∃ before after, content.toList = before ++ (chunk.content.toList ++ after) ∧
    byteLength before = chunk.offsetBytes ∧ (chunk.cursor = none ↔ after = [])
  nonempty : chunk.content ≠ ""
  bounded : byteLength chunk.content.toList ≤ 8192

/-- A chunk that is cut with the next one after it. -/
theorem chunkOf_cut (lib : ResolverLib) (chunk : DocumentChunk) {start : Nat}
    (hborder : isCharBoundary content.toList start = true)
    (hlt : start < byteLength content.toList) (hhash : chunk.contentHash = contentHash lib content)
    (hlength : chunk.byteLength = byteLength content.toList) (hoffset : chunk.offsetBytes = start)
    (hcontent : chunk.content = slice content start
      (floorBoundary content.toList (min (start + 8192) (byteLength content.toList))))
    (hcursor : chunk.cursor = none ↔ byteLength content.toList ≤
      floorBoundary content.toList (min (start + 8192) (byteLength content.toList))) :
    ChunkOf lib content chunk ∧ chunk.stop =
      floorBoundary content.toList (min (start + 8192) (byteLength content.toList)) := by
  obtain ⟨before, mid, after, hsplit, rfl, hstop, hne, hle⟩ :=
    exists_chunk (by decide : 4 ≤ 8192) hlt hborder
  have hmid : chunk.content.toList = mid := by
    rw [hcontent, ← hstop, slice_eq hsplit, String.toList_ofList]
  have hafter : chunk.cursor = none ↔ after = [] := by
    rw [hcursor, ← hstop, hsplit, byteLength_append, byteLength_append, ← byteLength_eq_zero]
    omega
  refine ⟨⟨hhash, hlength, ⟨before, after, ?_, hoffset.symm, hafter⟩, ?_, ?_⟩, ?_⟩
  · rw [hmid, hsplit]
  · intro hempty
    rw [hempty] at hmid
    exact hne (by simpa using hmid.symm)
  · rw [hmid]
    exact hle
  · rw [DocumentChunk.stop, hoffset, hmid, hstop]

end SnowAgent.Resolve
