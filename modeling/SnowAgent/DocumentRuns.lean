import SnowAgent.DocumentChunks
import Mathlib.Algebra.Order.BigOperators.Group.List

/-! # Documents over many calls

A chunk that is not the last of its document is answered with the cursor of the next.  What
a cursor was given out for does not change: `source` says of each cursor the content and the
offset, and the documents that are kept, and the calls that are made, agree with it.
-/
namespace SnowAgent.Resolve

open Core Json Program

/-! ## The world of the calls -/

variable {chunk : DocumentChunk} {token : String}

/-- What the calls share, what the next reading of the clock is, which cursors the resolver of
names has given out, and every identifier and cursor that there has been. -/
structure DocumentWorld where
  clock : Instant
  documents : Documents
  sessions : Sessions
  names : List String
  seen : List String

/-- A resolver without sessions. -/
def DocumentWorld.empty : DocumentWorld := ⟨0, [], [], [], []⟩

/-- A call comes in, and its cursor is seen. -/
def DocumentWorld.enter (w : DocumentWorld) (input : RecordResolveInput) : DocumentWorld :=
  { w with seen := input.cursor.toList ++ w.seen }

/-- What the world may answer: the clock goes on, a map is listed in some order, a fresh identifier
has not been seen, and the resolver of names gives out fresh cursors and knows no others. -/
def documentAnswers (w : DocumentWorld) :
    (e : ResolveAct) → ResolveAct.Ans e → DocumentWorld → Prop
  | .now, time, w' => time = w.clock ∧ ∃ later, w.clock ≤ later ∧ w' = { w with clock := later }
  | .newUuid, token, w' => token ∉ w.seen ∧ w' = { w with seen := token :: w.seen }
  | .readDocuments, documents, w' => documents.Perm w.documents ∧ w' = w
  | .writeDocuments documents, _, w' => w' = { w with documents := documents }
  | .readSessions, sessions, w' => sessions = w.sessions ∧ w' = w
  | .writeSessions sessions, _, w' => w' = { w with sessions := sessions }
  | .resolveName _ _ cursor, answer, w' =>
    (answer.isOk = true → ∀ key ∈ cursor, key ∈ w.names) ∧
      ∃ given, (∀ key ∈ given, key ∉ w.seen) ∧
        w' = { w with names := given ++ w.names, seen := given ++ w.seen }
  | _, _, w' => w' = w

section Chunks

variable {lib : ResolverLib} {w w' : DocumentWorld} {past : Trace ResolveIO}

/-- What cutting a chunk at an offset gives. -/
structure Chunked (lib : ResolverLib) (state : DocumentState) (start : Nat) (w : DocumentWorld)
    (state' : DocumentState) (chunk : DocumentChunk) (w' : DocumentWorld) : Prop where
  chunkOf : ChunkOf lib state.content chunk
  offset : chunk.offsetBytes = start
  content : state'.content = state.content
  hash : state'.contentHash = state.contentHash
  documents : w'.documents = w.documents
  sessions : w'.sessions = w.sessions
  names : w'.names = w.names
  /-- The cursor of the next chunk is one there was, or a fresh one. -/
  next : (state'.pageOffsets = state.pageOffsets ∧ w'.seen = w.seen ∧
      ∀ token ∈ chunk.cursor, (token, chunk.stop) ∈ state.pageOffsets) ∨
    ∃ token, chunk.cursor = some token ∧ token ∉ w.seen ∧ w'.seen = token :: w.seen ∧
      state'.pageOffsets = state.pageOffsets ++ [(token, chunk.stop)] ∧
      isCharBoundary state.content.toList chunk.stop = true ∧
      chunk.stop < byteLength state.content.toList

variable {state : DocumentState} {offset : Nat}

theorem cursorFor_executes {out : Except RecordResolveError (String × DocumentState)}
    (hexec : Executes documentAnswers (cursorFor state offset).run w past out w') :
    (∃ token, out = .ok (token, state) ∧ (token, offset) ∈ state.pageOffsets ∧ w' = w) ∨
      ∃ token, out = .ok (token, { state with
          pageOffsets := state.pageOffsets ++ [(token, offset)] }) ∧
        token ∉ w.seen ∧ w' = { w with seen := token :: w.seen } := by
  unfold cursorFor at hexec
  split at hexec
  · rename_i entry hfound
    obtain ⟨rfl, rfl, rfl⟩ := executes_run_pure.mp hexec
    have hoffset : entry.2 = offset := by simpa using List.find?_some hfound
    refine .inl ⟨entry.1, rfl, ?_, rfl⟩
    rw [← hoffset]
    exact List.mem_of_find?_eq_some hfound
  · obtain ⟨token, w₁, rest, ⟨hfresh, rfl⟩, rfl, hrest⟩ := executes_ask hexec
    obtain ⟨rfl, rfl, rfl⟩ := executes_run_pure.mp hrest
    exact .inr ⟨token, rfl, hfresh, rfl⟩

variable {start : Nat}

theorem documentChunk_executes {out : Except RecordResolveError (DocumentState × DocumentChunk)}
    (hhash : state.contentHash = contentHash lib state.content)
    (hborder : isCharBoundary state.content.toList start = true)
    (hlt : start < byteLength state.content.toList)
    (hexec : Executes documentAnswers (documentChunk state start).run w past out w') :
    ∃ state' chunk, out = .ok (state', chunk) ∧ Chunked lib state start w state' chunk w' := by
  unfold documentChunk at hexec
  obtain ⟨now, w₁, rest, ⟨rfl, later, hlater, rfl⟩, rfl, hcut⟩ := executes_ask hexec
  obtain ⟨stop, hstop⟩ : ∃ stop, floorBoundary state.content.toList
    (min (start + 8192) (byteLength state.content.toList)) = stop := ⟨_, rfl⟩
  obtain ⟨hstopBorder, hstopLe, -⟩ := floorBoundary_spec state.content.toList
    (min (start + 8192) (byteLength state.content.toList))
  rw [hstop] at hstopBorder hstopLe hcut
  by_cases hmore : stop < byteLength state.content.toList
  · rw [if_pos hmore] at hcut
    rcases executes_run_bind.mp hcut with
      ⟨err, rfl, hbad⟩ | ⟨⟨token, kept⟩, w₂, past₁, past₂, rfl, hcursor, hend⟩
    · rcases cursorFor_executes hbad with ⟨_, hout, _⟩ | ⟨_, hout, _⟩ <;> cases hout
    obtain ⟨rfl, rfl, rfl⟩ := executes_run_pure.mp hend
    obtain ⟨hchunk, hchunkStop⟩ := chunkOf_cut lib
      ⟨state.sysId, state.table, state.resourceType, slice state.content start stop,
        state.contentHash, start, byteLength state.content.toList, some token⟩
      hborder hlt hhash rfl rfl (by rw [hstop]) (by rw [hstop]; simp [hmore])
    rw [hstop] at hchunkStop
    rcases cursorFor_executes hcursor with
      ⟨token', hout, hmem, rfl⟩ | ⟨token', hout, hfresh, rfl⟩
    · obtain ⟨rfl, rfl⟩ := Prod.mk.inj (Except.ok.inj hout)
      refine ⟨_, _, rfl, hchunk, rfl, rfl, rfl, rfl, rfl, rfl, .inl ⟨rfl, rfl, ?_⟩⟩
      intro t ht
      cases ht
      rw [hchunkStop]
      exact hmem
    · obtain ⟨rfl, rfl⟩ := Prod.mk.inj (Except.ok.inj hout)
      refine ⟨_, _, rfl, hchunk, rfl, rfl, rfl, rfl, rfl, rfl,
        .inr ⟨token, rfl, hfresh, rfl, ?_, ?_, ?_⟩⟩
      · rw [hchunkStop]
      · rw [hchunkStop]
        exact hstopBorder
      · rw [hchunkStop]
        exact hmore
  · rw [if_neg hmore] at hcut
    obtain ⟨rfl, rfl, rfl⟩ := executes_run_pure.mp hcut
    obtain ⟨hchunk, -⟩ := chunkOf_cut lib
      ⟨state.sysId, state.table, state.resourceType, slice state.content start stop,
        state.contentHash, start, byteLength state.content.toList, none⟩
      hborder hlt hhash rfl rfl (by rw [hstop]) (by rw [hstop]; simpa using hmore)
    refine ⟨_, _, rfl, hchunk, rfl, rfl, rfl, rfl, rfl, rfl, .inl ⟨rfl, rfl, ?_⟩⟩
    intro t ht
    cases ht

theorem Chunked.seen {state state' : DocumentState}
    (h : Chunked lib state start w state' chunk w') : w.seen ⊆ w'.seen := by
  rcases h.next with ⟨-, hseen, -⟩ | ⟨token, -, -, hseen, -⟩
  · exact hseen ▸ List.Subset.refl _
  · rw [hseen]
    exact List.subset_cons_self _ _

/-! ## What cursors are given out for -/

variable {documents : Documents}

/-- The cursor of the next chunk that a call gives out. -/
def nextCursor : Except RecordResolveError RecordResolution → Option String
  | .ok (.document chunk) => chunk.cursor
  | _ => none

/-- The cursors that calls have given out with chunks. -/
def handedOut (calls : List ResolveCall) : List String := calls.filterMap fun c => nextCursor c.out

/-- A document that is kept agrees with what its cursors were given out for.  A cursor it has for
its start was not given out with a chunk. -/
structure Sound (lib : ResolverLib) (source : String → String × Nat) (handed seen : List String)
    (state : DocumentState) : Prop where
  hash : state.contentHash = contentHash lib state.content
  offsets : ∀ entry ∈ state.pageOffsets, entry.1 ∈ seen ∧
    isCharBoundary state.content.toList entry.2 = true ∧
    entry.2 < byteLength state.content.toList ∧
    (entry.2 = 0 ∧ entry.1 ∉ handed ∨ entry.1 ∈ handed ∧ source entry.1 = (state.content, entry.2))

/-- What is kept agrees with what cursors were given out for. -/
structure Agrees (lib : ResolverLib) (source : String → String × Nat) (handed : List String)
    (w : DocumentWorld) : Prop where
  documents : ∀ entry ∈ w.documents, Sound lib source handed w.seen entry.2
  sessions : ∀ entry ∈ w.sessions, entry.1 ∈ w.seen ∧ entry.1 ∉ handed
  names : ∀ key ∈ w.names, key ∈ w.seen ∧ key ∉ handed
  handed : ∀ key ∈ handed, key ∈ w.seen

section Agreement

variable {source source' : String → String × Nat} {handed handed' seen seen' : List String}

/-- What has been seen before keeps its meaning. -/
structure SameFor (seen : List String) (source source' : String → String × Nat)
    (handed handed' : List String) : Prop where
  source : ∀ token ∈ seen, source' token = source token
  handed : ∀ token ∈ seen, token ∈ handed' ↔ token ∈ handed

theorem SameFor.refl : SameFor seen source source handed handed :=
  ⟨fun _ _ => rfl, fun _ _ => Iff.rfl⟩

theorem Sound.mono (h : Sound lib source handed seen state) (hseen : seen ⊆ seen')
    (hsame : SameFor seen source source' handed handed') :
    Sound lib source' handed' seen' state := by
  refine ⟨h.hash, fun entry hentry => ?_⟩
  obtain ⟨hmem, hborder, hlt, hmeans⟩ := h.offsets entry hentry
  refine ⟨hseen hmem, hborder, hlt, ?_⟩
  rw [hsame.source _ hmem, hsame.handed _ hmem]
  exact hmeans

/-- What is kept agrees still when nothing is lost that was seen, and the maps do not grow. -/
theorem Agrees.mono (h : Agrees lib source handed w)
    (hsame : SameFor w.seen source source' handed handed') (hseen : w.seen ⊆ w'.seen)
    (hdocuments : w'.documents ⊆ w.documents) (hsessions : w'.sessions ⊆ w.sessions)
    (hnames : w'.names ⊆ w.names) (hhanded : ∀ key ∈ handed', key ∈ w'.seen) :
    Agrees lib source' handed' w' := by
  refine ⟨fun entry hentry => ?_, fun entry hentry => ?_, fun key hkey => ?_, hhanded⟩
  · exact (h.documents entry (hdocuments hentry)).mono hseen hsame
  · obtain ⟨hmem, hnot⟩ := h.sessions entry (hsessions hentry)
    exact ⟨hseen hmem, fun hin => hnot ((hsame.handed _ hmem).mp hin)⟩
  · obtain ⟨hmem, hnot⟩ := h.names key (hnames hkey)
    exact ⟨hseen hmem, fun hin => hnot ((hsame.handed _ hmem).mp hin)⟩

/-- **A document whose chunk has been cut is kept**, and so is what its cursor is given out for. -/
theorem Agrees.insert (h : Agrees lib source handed w) {state state' : DocumentState}
    (hstate : Sound lib source handed w.seen state)
    (hchunked : Chunked lib state start w state' chunk w') {key : String}
    (hdocuments : documents ⊆ w.documents) :
    ∃ source', SameFor w.seen source source' handed (handed ++ chunk.cursor.toList) ∧
      (∀ token ∈ chunk.cursor, source' token = (state.content, chunk.stop)) ∧
      Agrees lib source' (handed ++ chunk.cursor.toList)
        { w' with documents := insertSession key state' documents } := by
  have hpos : chunk.stop ≠ 0 := by
    have hlength : byteLength chunk.content.toList ≠ 0 := by
      rw [Ne, byteLength_eq_zero]
      exact fun hnil => hchunked.chunkOf.nonempty (by simpa using hnil)
    rw [DocumentChunk.stop]
    omega
  -- It is enough to agree with the document, and with what there was.
  have hall : ∀ source', SameFor w.seen source source' handed (handed ++ chunk.cursor.toList) →
      w.seen ⊆ w'.seen → (∀ token ∈ chunk.cursor, token ∈ w'.seen) →
      Sound lib source' (handed ++ chunk.cursor.toList) w'.seen state' →
      Agrees lib source' (handed ++ chunk.cursor.toList)
        { w' with documents := insertSession key state' documents } := by
    intro source' hsame hseen hcursor hsound
    have hrest : Agrees lib source' (handed ++ chunk.cursor.toList)
        { w' with documents := documents } := by
      refine h.mono hsame hseen hdocuments ?_ ?_ fun token htoken => ?_
      · exact hchunked.sessions ▸ List.Subset.refl _
      · exact hchunked.names ▸ List.Subset.refl _
      · rcases List.mem_append.mp htoken with hold | hnew
        · exact hseen (h.handed _ hold)
        · exact hcursor token (by simpa using hnew)
    refine ⟨fun entry hentry => ?_, hrest.sessions, hrest.names, hrest.handed⟩
    rcases List.mem_append.mp hentry with hentry | hentry
    · exact hrest.documents entry (List.mem_filter.mp hentry).1
    · rw [List.mem_singleton.mp hentry]
      exact hsound
  rcases hchunked.next with ⟨hoffsets, hseen, hold⟩ | ⟨token, hcursor, hfresh, hseen, hoffsets,
    hborder, hlt⟩
  · have hmeans : ∀ token ∈ chunk.cursor, token ∈ w.seen ∧ token ∈ handed ∧
        source token = (state.content, chunk.stop) := by
      intro token htoken
      obtain ⟨hmem, -, -, ⟨hzero, -⟩ | ⟨hhanded, hsource⟩⟩ := hstate.offsets _ (hold token htoken)
      · exact absurd hzero hpos
      · exact ⟨hmem, hhanded, hsource⟩
    have hsame : SameFor w.seen source source handed (handed ++ chunk.cursor.toList) := by
      refine ⟨fun _ _ => rfl, fun token _ => ?_⟩
      rw [List.mem_append]
      constructor
      · rintro (hin | hin)
        · exact hin
        · exact (hmeans token (by simpa using hin)).2.1
      · exact .inl
    refine ⟨source, hsame, fun token htoken => (hmeans token htoken).2.2,
      hall source hsame (hseen ▸ List.Subset.refl _) ?_ ?_⟩
    · intro token htoken
      rw [hseen]
      exact (hmeans token htoken).1
    · have hgrown : w.seen ⊆ w'.seen := hseen ▸ List.Subset.refl _
      have hsound := hstate.mono hgrown hsame
      refine ⟨?_, ?_⟩
      · rw [hchunked.hash, hchunked.content]
        exact hsound.hash
      · rw [hoffsets, hchunked.content]
        exact hsound.offsets
  · have hne : ∀ other ∈ w.seen, other ≠ token := by
      rintro other hother rfl
      exact hfresh hother
    have hsame : SameFor w.seen source
        (fun other => if other = token then (state.content, chunk.stop) else source other) handed
        (handed ++ chunk.cursor.toList) := by
      refine ⟨fun other hother => if_neg (hne other hother), fun other hother => ?_⟩
      rw [hcursor]
      simp [hne other hother]
    have hgrown : w.seen ⊆ w'.seen := by
      rw [hseen]
      exact List.subset_cons_self _ _
    refine ⟨_, hsame, fun other hother => ?_, hall _ hsame hgrown (fun other hother => ?_) ?_⟩
    · rw [hcursor] at hother
      cases hother
      exact if_pos rfl
    · rw [hcursor] at hother
      cases hother
      rw [hseen]
      exact List.mem_cons_self
    · have hsound := hstate.mono hgrown hsame
      refine ⟨?_, ?_⟩
      · rw [hchunked.hash, hchunked.content]
        exact hsound.hash
      · rw [hoffsets, hchunked.content]
        intro entry hentry
        rcases List.mem_append.mp hentry with hentry | hentry
        · exact hsound.offsets entry hentry
        · obtain rfl := List.mem_singleton.mp hentry
          refine ⟨?_, hborder, hlt, .inr ⟨?_, if_pos rfl⟩⟩
          · rw [hseen]
            exact List.mem_cons_self
          · rw [hcursor]
            simp

end Agreement

/-! ## Parts of a call that keep no document -/

variable {w₁ : DocumentWorld}

/-- What a part of a call does to the world that keeps nothing new. -/
structure Quiet (w w' : DocumentWorld) : Prop where
  documents : w'.documents ⊆ w.documents
  sessions : w'.sessions ⊆ w.sessions
  seen : w.seen ⊆ w'.seen
  names : ∀ key ∈ w'.names, key ∈ w.names ∨ key ∉ w.seen ∧ key ∈ w'.seen

theorem Quiet.refl (w : DocumentWorld) : Quiet w w :=
  ⟨List.Subset.refl _, List.Subset.refl _, List.Subset.refl _, fun _ h => .inl h⟩

theorem Quiet.trans (h : Quiet w w₁) (h' : Quiet w₁ w') : Quiet w w' := by
  refine ⟨List.Subset.trans h'.documents h.documents, List.Subset.trans h'.sessions h.sessions,
    List.Subset.trans h.seen h'.seen, fun key hkey => ?_⟩
  rcases h'.names key hkey with hold | ⟨hfresh, hnew⟩
  · exact (h.names key hold).imp id fun hkey => ⟨hkey.1, h'.seen hkey.2⟩
  · exact .inr ⟨fun hmem => hfresh (h.seen hmem), hnew⟩

theorem Quiet.agrees {source : String → String × Nat} {handed : List String} (h : Quiet w w')
    (hagrees : Agrees lib source handed w) : Agrees lib source handed w' := by
  refine ⟨fun entry hentry => ?_, fun entry hentry => ?_, fun key hkey => ?_,
    fun key hkey => h.seen (hagrees.handed key hkey)⟩
  · exact (hagrees.documents entry (h.documents hentry)).mono h.seen .refl
  · obtain ⟨hmem, hnot⟩ := hagrees.sessions entry (h.sessions hentry)
    exact ⟨h.seen hmem, hnot⟩
  · rcases h.names key hkey with hold | ⟨hfresh, hnew⟩
    · obtain ⟨hmem, hnot⟩ := hagrees.names key hold
      exact ⟨h.seen hmem, hnot⟩
    · exact ⟨hnew, fun hin => hfresh (hagrees.handed key hin)⟩

/-- An action that writes neither map. -/
def calm : ResolveAct → Prop
  | .writeDocuments _ | .writeSessions _ => False
  | _ => True

theorem calm_act {e : ResolveAct} {r : ResolveAct.Ans e} (he : calm e)
    (ha : documentAnswers w e r w') : Quiet w w' := by
  cases e with
  | writeDocuments | writeSessions => exact he.elim
  | now =>
    obtain ⟨-, later, -, rfl⟩ := ha
    exact ⟨List.Subset.refl _, List.Subset.refl _, List.Subset.refl _, fun _ h => .inl h⟩
  | newUuid =>
    obtain ⟨-, rfl⟩ := ha
    exact ⟨List.Subset.refl _, List.Subset.refl _, List.subset_cons_self _ _, fun _ h => .inl h⟩
  | readDocuments | readSessions =>
    obtain ⟨-, rfl⟩ := ha
    exact .refl _
  | resolveName name scope cursor =>
    obtain ⟨-, given, hfresh, rfl⟩ := ha
    refine ⟨List.Subset.refl _, List.Subset.refl _, List.subset_append_right _ _,
      fun key hkey => ?_⟩
    rcases List.mem_append.mp hkey with hkey | hkey
    · exact .inr ⟨hfresh key hkey, List.mem_append_left _ hkey⟩
    · exact .inl hkey
  | _ =>
    obtain rfl : w' = w := ha
    exact .refl _

/-- A part of a call that writes neither map, and what it gives. -/
abbrev Calm {A : Type} (R : Except RecordResolveError A → Prop) (x : ResolveM A) : Prop :=
  Uses (S := ResolveIO) calm R x.run

theorem Calm.bind {A B : Type} {x : ResolveM A} {f : A → ResolveM B}
    {R : Except RecordResolveError B → Prop} (hx : Calm (fun _ => True) x)
    (hf : ∀ a, Calm R (f a)) (hfail : ∀ err, R (.error err)) : Calm R (x >>= f) :=
  uses_run_bind_ends hx (fun a _ => hf a) fun err _ => hfail err

theorem Calm.executes {A : Type} {R : Except RecordResolveError A → Prop} {x : ResolveM A}
    {out : Except RecordResolveError A} (hx : Calm R x)
    (hexec : Executes documentAnswers x.run w past out w') : Quiet w w' ∧ R out := by
  refine ⟨?_, (hexec.uses hx).2⟩
  exact hexec.keeps (I := Quiet w) hx (fun he hw ha => hw.trans (calm_act he ha)) (.refl w)

/-! ## What a call tells of a document -/

/-- What a call comes to: a chunk is one of some content, at the offset its cursor was given out
for, and the cursor of the next one is given out for what comes after it.  A cursor that was given
out with a chunk is answered with a chunk or an error. -/
structure Tells (lib : ResolverLib) (source source' : String → String × Nat)
    (handed : List String) (cursor : Option String)
    (out : Except RecordResolveError RecordResolution) : Prop where
  chunk : ∀ chunk, out = .ok (.document chunk) → ∃ content, ChunkOf lib content chunk ∧
    (∀ token ∈ chunk.cursor, source' token = (content, chunk.stop)) ∧
    ∀ token ∈ cursor, token ∈ handed → source token = (content, chunk.offsetBytes)
  answer : ∀ token ∈ cursor, token ∈ handed →
    (∃ err, out = .error err) ∨ ∃ chunk, out = .ok (.document chunk)

/-- The outcome of a call, and what is kept after it. -/
def Outcome (lib : ResolverLib) (source : String → String × Nat) (handed : List String)
    (cursor : Option String) (w : DocumentWorld)
    (out : Except RecordResolveError RecordResolution) (w' : DocumentWorld) : Prop :=
  ∃ source', SameFor w.seen source source' handed (handed ++ (nextCursor out).toList) ∧
    w.seen ⊆ w'.seen ∧ Agrees lib source' (handed ++ (nextCursor out).toList) w' ∧
    Tells lib source source' handed cursor out

section Outcomes

variable {source : String → String × Nat} {handed : List String} {cursor : Option String}
  {out : Except RecordResolveError RecordResolution}

/-- An answer without a chunk. -/
def noChunk : Except RecordResolveError RecordResolution → Prop
  | .ok (.document _) => False
  | _ => True

theorem noChunk.nextCursor (h : noChunk out) : nextCursor out = none := by
  rcases out with err | answer
  · rfl
  · cases answer with
    | document => exact h.elim
    | _ => rfl

/-- An answer without a chunk, when what is kept still agrees. -/
theorem Outcome.of_agrees (hagrees : Agrees lib source handed w') (hseen : w.seen ⊆ w'.seen)
    (hchunk : noChunk out) (hcursor : ∀ token ∈ cursor, token ∈ handed → ∃ err, out = .error err) :
    Outcome lib source handed cursor w out w' := by
  refine ⟨source, ?_, hseen, ?_, fun chunk hout => ?_, fun token htoken hin => ?_⟩
  · rw [hchunk.nextCursor, Option.toList_none, List.append_nil]
    exact .refl
  · rw [hchunk.nextCursor, Option.toList_none, List.append_nil]
    exact hagrees
  · rw [hout] at hchunk
    exact hchunk.elim
  · exact .inl (hcursor token htoken hin)

/-- A part that keeps nothing new is not seen in the outcome. -/
theorem Outcome.after (hquiet : Quiet w w₁) (h : Outcome lib source handed cursor w₁ out w') :
    Outcome lib source handed cursor w out w' := by
  obtain ⟨source', hsame, hseen, hagrees, htells⟩ := h
  refine ⟨source', ⟨fun token hmem => ?_, fun token hmem => ?_⟩,
    List.Subset.trans hquiet.seen hseen, hagrees, htells⟩
  · exact hsame.source token (hquiet.seen hmem)
  · exact hsame.handed token (hquiet.seen hmem)

theorem Outcome.error (hagrees : Agrees lib source handed w) (hquiet : Quiet w w')
    (err : RecordResolveError) : Outcome lib source handed cursor w (.error err) w' :=
  .of_agrees (hquiet.agrees hagrees) hquiet.seen trivial fun _ _ _ => ⟨err, rfl⟩

variable (lib source handed cursor)

/-- A call may open what it likes under its cursor: what is kept agrees, and the cursor is one
there was, which was not given out with a chunk. -/
structure Ready (w : DocumentWorld) : Prop where
  agrees : Agrees lib source handed w
  cursor : ∀ token ∈ cursor, token ∈ w.seen ∧ token ∉ handed

/-- Whatever is answered to a part of a call, it comes to an outcome. -/
def Settles (w : DocumentWorld) (x : ResolveM RecordResolution) : Prop :=
  ∀ past out w', Executes documentAnswers x.run w past out w' →
    Outcome lib source handed cursor w out w'

variable {lib source handed cursor}

theorem Ready.none (hagrees : Agrees lib source handed w) : Ready lib source handed none w :=
  ⟨hagrees, nofun⟩

theorem Ready.quiet (h : Ready lib source handed cursor w) (hquiet : Quiet w w') :
    Ready lib source handed cursor w' :=
  ⟨hquiet.agrees h.agrees, fun token htoken => (h.cursor token htoken).imp_left (hquiet.seen ·)⟩

/-- A call that is refused. -/
theorem settles_refuse (hagrees : Agrees lib source handed w) (err : RecordResolveError) :
    Settles lib source handed cursor w (refuse err) := by
  intro past out w' hexec
  obtain ⟨rfl, rfl, rfl⟩ := executes_refuse hexec
  exact .error hagrees (.refl _) err

/-- A call that is answered without a chunk. -/
theorem Ready.settles_pure (h : Ready lib source handed cursor w) {answer : RecordResolution}
    (hchunk : noChunk (.ok answer)) :
    Settles lib source handed cursor w (Pure.pure answer) := by
  intro past out w' hexec
  obtain ⟨rfl, rfl, rfl⟩ := executes_run_pure.mp hexec
  exact .of_agrees h.agrees (List.Subset.refl _) hchunk fun token htoken hin =>
    absurd hin (h.cursor token htoken).2

section

variable {A : Type} {x : ResolveM A} {f : A → ResolveM RecordResolution}
  (h : Ready lib source handed cursor w)

include h

/-- What follows a part that keeps nothing new. -/
theorem Ready.settles_after (hx : ∀ {past out w'}, Executes documentAnswers x.run w past out w' → Quiet w w')
    (hf : ∀ a w₁, Ready lib source handed cursor w₁ → Settles lib source handed cursor w₁ (f a)) :
    Settles lib source handed cursor w (x >>= f) := by
  intro past out w' hexec
  rcases executes_run_bind.mp hexec with
    ⟨err, rfl, hfail⟩ | ⟨a, w₁, past₁, past₂, rfl, hfirst, hrest⟩
  · exact .error h.agrees (hx hfail) err
  · exact (hf a w₁ (h.quiet (hx hfirst)) past₂ out w' hrest).after (hx hfirst)

theorem Ready.settles_bind (hx : Calm (fun _ => True) x)
    (hf : ∀ a w₁, Ready lib source handed cursor w₁ → Settles lib source handed cursor w₁ (f a)) :
    Settles lib source handed cursor w (x >>= f) :=
  h.settles_after (fun hexec => (hx.executes hexec).1) hf

end

theorem quiet_writeDocuments {r : Unit} (hsubset : documents ⊆ w.documents)
    (ha : documentAnswers w (.writeDocuments documents) r w') : Quiet w w' := by
  obtain rfl : w' = { w with documents := documents } := ha
  exact ⟨hsubset, List.Subset.refl _, List.Subset.refl _, fun _ h => .inl h⟩

theorem quiet_writeSessions {sessions : Sessions} {r : Unit} (hsubset : sessions ⊆ w.sessions)
    (ha : documentAnswers w (.writeSessions sessions) r w') : Quiet w w' := by
  obtain rfl : w' = { w with sessions := sessions } := ha
  exact ⟨List.Subset.refl _, hsubset, List.Subset.refl _, fun _ h => .inl h⟩

theorem makeRoom_subset (now : Instant) (documents : Documents) :
    makeRoom now documents ⊆ documents := by
  unfold makeRoom
  have halive : documents.filter (fun entry => live now entry.2.touched) ⊆ documents :=
    List.filter_subset_self _
  dsimp only
  split
  · split
    · exact List.Subset.trans (List.filter_subset_self _) halive
    · exact halive
  · exact halive

/-- **A document is opened** under no cursor that was given out with a chunk. -/
theorem boundedRecord_settles {record : ResolvedRecord} (h : Ready lib source handed cursor w) :
    Settles lib source handed cursor w (boundedRecord lib record cursor) := by
  intro past out w' hexec
  obtain ⟨hagrees, hnew⟩ := id h
  unfold boundedRecord at hexec
  by_cases hsmall : byteLength (lib.recordJson record).toList ≤ 32 * 1024
  · rw [if_pos hsmall] at hexec
    exact h.settles_pure (show noChunk (.ok (.resolved record)) from trivial) _ _ _ hexec
  rw [if_neg hsmall] at hexec
  split at hexec
  · exact settles_refuse hagrees _ _ _ _ hexec
  obtain ⟨now, w₁, past₁, hnow, rfl, hread⟩ := executes_ask hexec
  obtain ⟨documents, w₂, past₂, ⟨hperm, rfl⟩, rfl, hwrite⟩ := executes_ask hread
  obtain ⟨done, w₃, past₃, hwritten, rfl, hopen⟩ := executes_ask hwrite
  have hkept : makeRoom now documents ⊆ w₂.documents :=
    List.Subset.trans (makeRoom_subset now documents) hperm.subset
  have hquiet₃ : Quiet w w₃ :=
    (calm_act (e := .now) trivial hnow).trans (quiet_writeDocuments hkept hwritten)
  have hdocuments₃ : w₃.documents = makeRoom now documents := by
    obtain rfl : w₃ = { w₂ with documents := makeRoom now documents } := hwritten
    rfl
  split at hopen
  · obtain ⟨rfl, rfl, rfl⟩ := executes_refuse hopen
    exact .error hagrees hquiet₃ _
  obtain ⟨key, w₄, past₄, hkey, rfl, hopened⟩ := executes_ask hopen
  obtain ⟨opened, w₅, past₅, htime, rfl, hchunk⟩ := executes_ask hopened
  have hdocuments₅ : w₅.documents = makeRoom now documents := by
    obtain ⟨-, rfl⟩ := hkey
    obtain ⟨-, later, -, rfl⟩ := htime
    exact hdocuments₃
  have hquiet₅ : Quiet w w₅ := (hquiet₃.trans (calm_act (e := .newUuid) trivial hkey)).trans
    (calm_act (e := .now) trivial htime)
  have hagrees₅ := hquiet₅.agrees hagrees
  obtain ⟨state, hstate⟩ : ∃ state : DocumentState,
    { sysId := record.sysId
      table := record.table
      resourceType := record.resourceType
      content := lib.recordJson record
      contentHash := contentHash lib (lib.recordJson record)
      pageOffsets := (cursor.map fun cursor => (cursor, 0)).toList
      complete := false
      touched := opened } = state := ⟨_, rfl⟩
  rw [hstate] at hchunk
  have hpos : 0 < byteLength state.content.toList := by
    rw [← hstate]
    dsimp only
    omega
  have hborder : isCharBoundary state.content.toList 0 = true :=
    isCharBoundary_iff.mpr ⟨[], _, rfl, rfl⟩
  have hsound : Sound lib source handed w₅.seen state := by
    refine ⟨by rw [← hstate], fun entry hentry => ?_⟩
    rw [← hstate] at hentry
    cases hcursor : cursor with
    | none =>
      rw [hcursor] at hentry
      cases hentry
    | some token =>
      rw [hcursor] at hentry hnew
      obtain rfl : entry = (token, 0) := by simpa using hentry
      obtain ⟨hmem, hnot⟩ := hnew token rfl
      exact ⟨hquiet₅.seen hmem, hborder, hpos, .inl ⟨rfl, hnot⟩⟩
  rcases executes_run_bind.mp hchunk with
    ⟨err, hout, hbad⟩ | ⟨⟨state', chunk⟩, w₆, past₆, past₇, rfl, hcut, hrest⟩
  · obtain ⟨_, _, hok, -⟩ := documentChunk_executes hsound.hash hborder hpos hbad
    cases hok
  obtain ⟨state'', chunk', hok, hchunked⟩ := documentChunk_executes hsound.hash hborder hpos hcut
  obtain ⟨rfl, rfl⟩ := Prod.mk.inj (Except.ok.inj hok)
  obtain ⟨-, w₇, past₈, rfl, rfl, hend⟩ := executes_ask hrest
  obtain ⟨rfl, rfl, rfl⟩ := executes_run_pure.mp hend
  obtain ⟨source', hsame, hmeans, hagrees'⟩ :=
    hagrees₅.insert hsound hchunked (by rw [hdocuments₅]; exact List.Subset.refl _)
  refine Outcome.after hquiet₅ ⟨source', hsame, hchunked.seen, hagrees', ?_⟩
  refine ⟨fun chunk' hout => ?_, fun token htoken hin => absurd hin (hnew token htoken).2⟩
  cases hout
  exact ⟨state.content, hchunked.chunkOf, hmeans, fun token htoken hin =>
    absurd hin (hnew token htoken).2⟩

variable {record : Record}

theorem finishRecord_settles (h : Ready lib source handed cursor w) :
    Settles lib source handed cursor w (finishRecord lib record cursor) := by
  refine h.settles_bind trivial fun _ w₁ h₁ => ?_
  refine h₁.settles_bind trivial fun table w₂ h₂ => ?_
  refine h₂.settles_bind ⟨trivial, fun _ => trivial⟩ fun model w₃ h₃ => ?_
  exact h₃.settles_bind ⟨trivial, fun _ => trivial⟩ fun type w₄ h₄ => boundedRecord_settles h₄

theorem readScoped_settles {table sysId : String} (h : Ready lib source handed cursor w) :
    Settles lib source handed cursor w (readScoped lib table sysId cursor) := by
  unfold readScoped
  split
  · exact settles_refuse h.agrees _
  refine h.settles_bind ⟨trivial, fun _ => trivial⟩ fun answer w₁ h₁ => ?_
  cases answer with
  | error failure => exact settles_refuse h₁.agrees _
  | ok record =>
    refine h₁.settles_bind trivial fun _ w₂ h₂ => ?_
    refine h₂.settles_bind trivial fun found w₃ h₃ => ?_
    split
    · exact settles_refuse h₃.agrees _
    · exact finishRecord_settles h₃

/-! ### The search -/

variable {sysId : String}

/-- A search that is opened goes on under a cursor that was not given out with a chunk. -/
theorem openSearch_quiet {out : Except RecordResolveError SearchState}
    (hexec : Executes documentAnswers (openSearch sysId cursor).run w past out w') :
    Quiet w w' ∧ ((∃ err, out = .error err) ∨ ∀ token ∈ cursor, ∃ search, (token, search) ∈
      w.sessions) := by
  unfold openSearch at hexec
  obtain ⟨now, w₁, past₁, hnow, rfl, hread⟩ := executes_ask hexec
  have hquiet₁ : Quiet w w₁ := calm_act (e := .now) trivial hnow
  obtain ⟨sessions, w₂, past₂, ⟨rfl, rfl⟩, rfl, hwrite⟩ := executes_ask hread
  obtain ⟨done, w₃, past₃, hwritten, rfl, hrest⟩ := executes_ask hwrite
  have hquiet₃ : Quiet w w₃ :=
    hquiet₁.trans (quiet_writeSessions (List.filter_subset_self _) hwritten)
  cases cursor with
  | none =>
    have hnone : ∀ {A : Prop}, A ∨ ∀ token ∈ (none : Option String), ∃ search, (token, search) ∈
        w.sessions := .inr fun token htoken => by cases htoken
    dsimp only at hrest
    split at hrest
    · obtain ⟨rfl, rfl, rfl⟩ := executes_refuse hrest
      exact ⟨hquiet₃, hnone⟩
    · obtain ⟨started, w₄, past₄, hstarted, rfl, hend⟩ := executes_ask hrest
      obtain ⟨rfl, rfl, rfl⟩ := executes_run_pure.mp hend
      exact ⟨hquiet₃.trans (calm_act (e := .now) trivial hstarted), hnone⟩
  | some cursor =>
    dsimp only at hrest
    split at hrest
    · rename_i search hsearch
      obtain ⟨rfl, rfl, rfl⟩ := executes_run_pure.mp hrest
      refine ⟨hquiet₃, .inr fun token htoken => ⟨search, ?_⟩⟩
      cases htoken
      obtain ⟨before, after, hsplit, -⟩ :=
        List.lookup_eq_some_iff.mp (Option.filter_eq_some_iff.mp hsearch).1
      have hmem : (cursor, search) ∈
          w₂.sessions.filter fun entry => live now entry.2.touched := by
        rw [hsplit]
        simp
      exact hquiet₁.sessions (List.mem_filter.mp hmem).1
    · obtain ⟨rfl, rfl, rfl⟩ := executes_refuse hrest
      exact ⟨hquiet₃, .inl ⟨_, rfl⟩⟩

theorem fillPending_calm (search : SearchState) : Calm (fun _ => True) (fillPending search) := by
  unfold fillPending
  split
  · trivial
  · refine Calm.bind ⟨trivial, fun _ => trivial⟩ (fun answer => ?_) fun _ => trivial
    rcases answer with _ | _ | ⟨names, _ | _⟩
    · trivial
    · trivial
    · trivial
    · trivial

theorem probeBatch_calm (count : Nat) (search : SearchState) :
    Calm (fun _ => True) (probeBatch count search) := by
  refine Calm.bind ⟨trivial, fun _ => trivial⟩ (fun answer => ?_) fun _ => trivial
  cases answer with
  | none => trivial
  | some answers => trivial

theorem searchLoop_calm (fuel remaining : Nat) (search : SearchState) :
    Calm (fun _ => True) (searchLoop fuel remaining search) := by
  induction fuel generalizing remaining search with
  | zero => trivial
  | succ fuel ih =>
    rw [searchLoop]
    split
    · trivial
    · refine Calm.bind (fillPending_calm search) (fun filled => ?_) fun _ => trivial
      split
      · exact ih _ _
      · refine Calm.bind (probeBatch_calm _ _) (fun probed => ?_) fun _ => trivial
        obtain ⟨records, search'⟩ := probed
        cases records with
        | nil => exact ih _ _
        | cons record records => trivial

theorem readClass_calm (sysId table : String) (record : Record) :
    Calm (fun _ => True) (readClass sysId table record) := by
  unfold readClass
  split
  · trivial
  · refine Calm.bind ⟨trivial, fun _ => trivial⟩ (fun answer => ?_) fun _ => trivial
    cases answer with
    | error failure => cases failure <;> trivial
    | ok record =>
      refine Calm.bind trivial (fun _ => ?_) fun _ => trivial
      refine Calm.bind trivial (fun found => ?_) fun _ => trivial
      show Calm _ (ite _ _ _)
      split <;> trivial

theorem forgetSearch_quiet {out : Except RecordResolveError Unit}
    (hexec : Executes documentAnswers (forgetSearch cursor).run w past out w') :
    Quiet w w' := by
  cases cursor with
  | none =>
    obtain ⟨rfl, rfl, rfl⟩ := executes_run_pure.mp hexec
    exact .refl _
  | some cursor =>
    obtain ⟨sessions, w₁, past₁, ⟨rfl, rfl⟩, rfl, hread⟩ := executes_ask hexec
    obtain ⟨done, w₂, past₂, hwritten, rfl, hend⟩ :=
      executes_ask (f := fun _ => Pure.pure ()) hread
    obtain ⟨rfl, rfl, rfl⟩ := executes_run_pure.mp hend
    exact quiet_writeSessions (List.filter_subset_self _) hwritten

theorem finishSearch_settles {records : List Record} (h : Ready lib source handed cursor w) :
    Settles lib source handed cursor w (finishSearch lib sysId cursor record records) := by
  refine h.settles_bind trivial fun found w₁ h₁ => ?_
  split
  · exact settles_refuse h₁.agrees _
  refine h₁.settles_bind trivial fun table w₂ h₂ => ?_
  refine h₂.settles_bind (readClass_calm _ _ _) fun read w₃ h₃ => ?_
  refine h₃.settles_bind ⟨trivial, fun _ => trivial⟩ fun model w₄ h₄ => ?_
  refine h₄.settles_after forgetSearch_quiet fun _ w₅ h₅ => ?_
  exact h₅.settles_bind ⟨trivial, fun _ => trivial⟩ fun type w₆ h₆ => boundedRecord_settles h₆

/-- A search is kept under no cursor that was given out with a chunk. -/
theorem keepSearch_settles {search : SearchState} (h : Ready lib source handed cursor w) :
    Settles lib source handed cursor w (keepSearch cursor search) := by
  intro past out w' hexec
  obtain ⟨hagrees, hnew⟩ := h
  unfold keepSearch at hexec
  have hcursor : Calm (fun _ => True) (cursorOrNew cursor) := by
    cases cursor with
    | none => exact ⟨trivial, fun _ => trivial⟩
    | some token => trivial
  have hkey : ∀ {past w₁ key}, Executes documentAnswers (cursorOrNew cursor).run w past (.ok key)
      w₁ → key ∈ w₁.seen ∧ key ∉ handed := by
    intro past w₁ key h
    cases cursor with
    | some token =>
      obtain ⟨-, hout, rfl⟩ := executes_run_pure.mp h
      obtain rfl := Except.ok.inj hout
      exact hnew _ rfl
    | none =>
      obtain ⟨token, w₂, past₂, ⟨hfresh, rfl⟩, -, hend⟩ := executes_ask (f := Pure.pure) h
      obtain ⟨-, hout, rfl⟩ := executes_run_pure.mp hend
      cases hout
      exact ⟨List.mem_cons_self, fun hin => hfresh (hagrees.handed _ hin)⟩
  rcases executes_run_bind.mp hexec with
    ⟨err, rfl, hfail⟩ | ⟨key, w₁, past₁, past₂, rfl, hfound, hrest⟩
  · exact .error hagrees (hcursor.executes hfail).1 err
  obtain ⟨hmem, hnot⟩ := hkey hfound
  obtain ⟨now, w₂, past₃, hnow, rfl, hread⟩ := executes_ask hrest
  have hquiet₂ : Quiet w w₂ := (hcursor.executes hfound).1.trans (calm_act (e := .now) trivial hnow)
  have hseen₂ : w₁.seen ⊆ w₂.seen := (calm_act (e := .now) trivial hnow).seen
  obtain ⟨sessions, w₃, past₄, ⟨rfl, rfl⟩, rfl, hwrite⟩ := executes_ask hread
  split at hwrite
  · obtain ⟨rfl, rfl, rfl⟩ := executes_refuse hwrite
    exact .error hagrees hquiet₂ _
  · obtain ⟨done, w₄, past₅, rfl, rfl, hend⟩ := executes_ask hwrite
    obtain ⟨rfl, rfl, rfl⟩ := executes_run_pure.mp hend
    have hagrees₂ := hquiet₂.agrees hagrees
    refine Outcome.of_agrees ⟨hagrees₂.documents, fun entry hentry => ?_, hagrees₂.names,
      hagrees₂.handed⟩ hquiet₂.seen trivial fun token htoken hin => absurd hin (hnew token htoken).2
    rcases List.mem_append.mp hentry with hentry | hentry
    · exact hagrees₂.sessions entry (List.mem_filter.mp hentry).1
    · rw [List.mem_singleton.mp hentry]
      exact ⟨hseen₂ hmem, hnot⟩

/-- **A search neither goes on under a cursor that was given out with a chunk, nor opens a document
under one.** -/
theorem discover_settles (hagrees : Agrees lib source handed w) :
    Settles lib source handed cursor w (discover lib sysId cursor) := by
  intro past out w' hexec
  unfold discover at hexec
  rcases executes_run_bind.mp hexec with
    ⟨err, rfl, hfail⟩ | ⟨search, w₁, past₁, past₂, rfl, hopen, hrest⟩
  · exact .error hagrees (openSearch_quiet hfail).1 err
  obtain ⟨hquiet₁, hopened⟩ := openSearch_quiet hopen
  have h : Ready lib source handed cursor w := by
    refine ⟨hagrees, fun token htoken => ?_⟩
    rcases hopened with ⟨err, hout⟩ | hopened
    · cases hout
    · obtain ⟨search, hmem⟩ := hopened token htoken
      exact hagrees.sessions _ hmem
  refine Outcome.after hquiet₁ ?_
  refine (h.quiet hquiet₁).settles_bind (searchLoop_calm _ _ _) (fun outcome w₂ h₂ => ?_) _ _ _ hrest
  cases outcome with
  | found record records => exact finishSearch_settles h₂
  | paused search' =>
    dsimp only
    split
    · exact h₂.settles_after forgetSearch_quiet fun _ w₃ h₃ => h₃.settles_pure trivial
    · exact keepSearch_settles h₂

/-! ### Whole calls -/

variable {input : RecordResolveInput} {scope : Option String}

theorem findDocument_eq_some {token key : String}
    (h : findDocument documents token = some (key, state, offset)) :
    (key, state) ∈ documents ∧ (token, offset) ∈ state.pageOffsets := by
  obtain ⟨before, entry, after, rfl, hentry, -⟩ := List.findSome?_eq_some_iff.mp h
  obtain ⟨offset', hlookup, heq⟩ := Option.map_eq_some_iff.mp hentry
  obtain ⟨rfl, rfl, rfl⟩ : entry.1 = key ∧ entry.2 = state ∧ offset' = offset := by
    simpa using heq
  obtain ⟨before', after', hsplit, -⟩ := List.lookup_eq_some_iff.mp hlookup
  refine ⟨by simp, ?_⟩
  rw [hsplit]
  simp

theorem findDocument_eq_none (h : findDocument documents token = none) :
    ∀ entry ∈ documents, entry.2.pageOffsets.lookup token = none := by
  intro entry hentry
  have hnone := List.findSome?_eq_none_iff.mp h entry hentry
  simpa using hnone

/-- A document that is alive has a cursor. -/
def HasCursor (w : DocumentWorld) (token : String) : Prop :=
  ∃ entry ∈ w.documents, live w.clock entry.2.touched = true ∧
    (entry.2.pageOffsets.lookup token).isSome = true

section

variable (hagrees : Agrees lib source handed w)

include hagrees

/-- **A document that has the cursor of a call answers it** with the chunk it was given out for. -/
theorem continueDocument_outcome {out : Except RecordResolveError (Option RecordResolution)}
    (hexec : Executes documentAnswers (continueDocument sysId cursor).run w past out w') :
    (Quiet w w' ∧ ((∃ err, out = .error err) ∨
      out = .ok none ∧ ∀ token ∈ cursor, ¬ HasCursor w token)) ∨
      ∃ answer, out = .ok (some answer) ∧ Outcome lib source handed cursor w (.ok answer) w' := by
  unfold continueDocument at hexec
  obtain ⟨now, w₁, past₁, hnow, rfl, hread⟩ := executes_ask hexec
  have hquiet₁ : Quiet w w₁ := calm_act (e := .now) trivial hnow
  have hdocuments₁ : w₁.documents = w.documents := by
    obtain ⟨-, later, -, rfl⟩ := hnow
    rfl
  have hclock : now = w.clock := hnow.1
  obtain ⟨documents, w₂, past₂, ⟨hperm, rfl⟩, rfl, hwrite⟩ := executes_ask hread
  obtain ⟨done, w₃, past₃, hwritten, rfl, hrest⟩ := executes_ask hwrite
  obtain ⟨alive, halive⟩ : ∃ alive, documents.filter (fun entry => live now entry.2.touched) =
    alive := ⟨_, rfl⟩
  rw [halive] at hwritten hrest
  have hsubset : alive ⊆ w₂.documents := by
    rw [← halive]
    exact List.Subset.trans (List.filter_subset_self _) hperm.subset
  have hquiet₃ : Quiet w w₃ := hquiet₁.trans (quiet_writeDocuments hsubset hwritten)
  have hdocuments₃ : w₃.documents = alive := by
    obtain rfl : w₃ = { w₂ with documents := alive } := hwritten
    rfl
  split at hrest
  · rename_i hnone
    obtain ⟨rfl, rfl, rfl⟩ := executes_run_pure.mp hrest
    refine .inl ⟨hquiet₃, .inr ⟨rfl, fun token htoken => ?_⟩⟩
    rintro ⟨entry, hentry, hlive, hsome⟩
    cases htoken
    have hmem : entry ∈ alive := by
      rw [← halive]
      refine List.mem_filter.mpr ⟨hperm.mem_iff.mpr ?_, hclock ▸ hlive⟩
      rw [hdocuments₁]
      exact hentry
    rw [findDocument_eq_none hnone entry hmem] at hsome
    cases hsome
  · rename_i key state offset hfound
    split at hrest
    · obtain ⟨rfl, rfl, rfl⟩ := executes_refuse hrest
      exact .inl ⟨hquiet₃, .inl ⟨_, rfl⟩⟩
    obtain ⟨token, rfl, hfind⟩ := Option.bind_eq_some_iff.mp hfound
    obtain ⟨hmem, hoffset⟩ := findDocument_eq_some hfind
    have hagrees₃ := hquiet₃.agrees hagrees
    have hsound : Sound lib source handed w₃.seen state := by
      refine hagrees₃.documents (key, state) ?_
      rw [hdocuments₃]
      exact hmem
    obtain ⟨-, hborder, hlt, hmeans⟩ := hsound.offsets _ hoffset
    rcases executes_run_bind.mp hrest with
      ⟨err, hout, hbad⟩ | ⟨⟨state', chunk⟩, w₄, past₄, past₅, rfl, hcut, hlast⟩
    · obtain ⟨_, _, hok, -⟩ := documentChunk_executes hsound.hash hborder hlt hbad
      cases hok
    obtain ⟨state'', chunk', hok, hchunked⟩ := documentChunk_executes hsound.hash hborder hlt hcut
    obtain ⟨rfl, rfl⟩ := Prod.mk.inj (Except.ok.inj hok)
    obtain ⟨-, w₅, past₆, rfl, rfl, hend⟩ := executes_ask hlast
    obtain ⟨rfl, rfl, rfl⟩ := executes_run_pure.mp hend
    have hkept : alive ⊆ w₃.documents := by
      rw [hdocuments₃]
      exact List.Subset.refl _
    obtain ⟨source', hsame, hnext, hagrees'⟩ := hagrees₃.insert hsound hchunked hkept
    refine .inr ⟨.document chunk, rfl, Outcome.after hquiet₃
      ⟨source', hsame, hchunked.seen, hagrees', ?_⟩⟩
    refine ⟨fun chunk' hout => ?_, fun token htoken hin => .inr ⟨chunk, rfl⟩⟩
    cases hout
    refine ⟨state.content, hchunked.chunkOf, hnext, fun other hother hin => ?_⟩
    cases hother
    rcases hmeans with ⟨-, hnot⟩ | ⟨-, hsource⟩
    · exact absurd hin hnot
    · rw [hsource, hchunked.offset]

theorem resolveSysId_settles (hseen : ∀ token ∈ cursor, token ∈ w.seen)
    (hallowed : ∀ token ∈ cursor, token ∈ handed → HasCursor w token ∨ scope = none) :
    Settles lib source handed cursor w (resolveSysId lib sysId scope cursor) := by
  intro past out w' hexec
  unfold resolveSysId at hexec
  rcases executes_given_bind hexec with ⟨err, -, rfl, rfl, rfl⟩ | ⟨sysId', -, hexec⟩
  · exact .error hagrees (.refl _) err
  rcases executes_run_bind.mp hexec with
    ⟨err, rfl, hfail⟩ | ⟨continued, w₁, past₁, past₂, rfl, hfirst, hrest⟩
  · rcases continueDocument_outcome hagrees hfail with ⟨hquiet, -⟩ | ⟨answer, hout, -⟩
    · exact .error hagrees hquiet err
    · cases hout
  rcases continueDocument_outcome hagrees hfirst with
    ⟨hquiet, ⟨err, hout⟩ | ⟨hout, hnone⟩⟩ | ⟨answer, hout, houtcome⟩
  · cases hout
  · cases hout
    refine Outcome.after hquiet ?_
    cases scope with
    | none => exact discover_settles (hquiet.agrees hagrees) _ _ _ hrest
    | some table =>
      refine readScoped_settles ⟨hquiet.agrees hagrees, fun token htoken => ?_⟩ _ _ _ hrest
      refine ⟨hquiet.seen (hseen token htoken), fun hin => ?_⟩
      rcases hallowed token htoken hin with hhas | hscope
      · exact hnone token htoken hhas
      · cases hscope
  · cases hout
    obtain ⟨rfl, rfl, rfl⟩ := executes_run_pure.mp hrest
    exact houtcome

theorem resolveNumber_settles {number : String} :
    Settles lib source handed cursor w (resolveNumber lib number scope cursor) := by
  unfold resolveNumber
  split
  · exact settles_refuse hagrees _
  · rename_i hcursor
    obtain rfl : cursor = none := by simpa using hcursor
    refine (Ready.none hagrees).settles_bind ⟨trivial, fun _ => trivial⟩ fun answer w₁ h₁ => ?_
    rcases answer with err | record | record
    · exact settles_refuse h₁.agrees _
    · exact h₁.settles_pure trivial
    · dsimp only
      split
      · exact settles_refuse h₁.agrees _
      · exact finishRecord_settles h₁

/-- The resolver of names answers no cursor that was given out with a chunk. -/
theorem resolveNamed_settles {name : String} :
    Settles lib source handed cursor w (resolveNamed name scope cursor) := by
  intro past out w' hexec
  obtain ⟨answer, w₁, past₁, ha, rfl, hrest⟩ := executes_ask hexec
  have hquiet : Quiet w w₁ := calm_act (e := .resolveName name scope cursor) trivial ha
  cases answer with
  | error err =>
    obtain ⟨rfl, rfl, rfl⟩ := executes_refuse hrest
    exact .error hagrees hquiet _
  | ok found =>
    obtain ⟨rfl, rfl, rfl⟩ := executes_run_pure.mp hrest
    refine .of_agrees (hquiet.agrees hagrees) hquiet.seen trivial fun token htoken hin => ?_
    exact absurd hin (hagrees.names token (ha.1 rfl token htoken)).2

theorem resolveSelector_settles :
    Settles lib source handed input.cursor w (resolveSelector input) := by
  unfold resolveSelector
  split
  · exact settles_refuse hagrees _
  · rename_i hshape
    have hnone : input.cursor = none := by
      by_contra hsome
      exact hshape (.inl (Option.isSome_iff_ne_none.mpr hsome))
    rw [hnone]
    split
    · exact settles_refuse hagrees _
    · refine (Ready.none hagrees).settles_bind ⟨trivial, fun _ => trivial⟩ fun types w₁ h₁ => ?_
      cases types with
      | error err => exact settles_refuse h₁.agrees _
      | ok types => exact h₁.settles_pure trivial

end

/-- A call names neither a table nor a type. -/
def withoutHint (input : RecordResolveInput) : Prop :=
  input.table = none ∧ input.resourceType.filter (· ≠ "record") = none

theorem resolveScope_executes {out : Except RecordResolveError (Option String)}
    (hexec : Executes documentAnswers (resolveScope input).run w past out w') :
    w' = w ∧ (withoutHint input → out = .ok none) := by
  unfold resolveScope at hexec
  split at hexec
  · obtain ⟨rfl, rfl, rfl⟩ := executes_run_pure.mp hexec
    refine ⟨rfl, fun hhint => ?_⟩
    rw [hhint.1]
  · rename_i hint hsome
    obtain ⟨resolved, w₁, past₁, ha, rfl, hrest⟩ := executes_ask hexec
    obtain rfl : w₁ = w := ha
    have hnever : withoutHint input → out = .ok none := by
      rintro ⟨-, hnone⟩
      rw [hnone] at hsome
      cases hsome
    cases resolved with
    | error err =>
      obtain ⟨rfl, -, rfl⟩ := executes_refuse hrest
      exact ⟨rfl, hnever⟩
    | ok table =>
      dsimp only at hrest
      split at hrest
      · obtain ⟨rfl, -, rfl⟩ := executes_refuse hrest
        exact ⟨rfl, hnever⟩
      · obtain ⟨rfl, -, rfl⟩ := executes_run_pure.mp hrest
        exact ⟨rfl, hnever⟩

/-- A call with the cursor of a chunk is made while a document that is alive has the cursor, or
names no table or type. -/
def KeepsCursor (handed : List String) (w : DocumentWorld) (input : RecordResolveInput) : Prop :=
  input.sysId.isSome = true → input.name = none → input.number = none →
    ∀ token ∈ input.cursor, token ∈ handed → HasCursor w token ∨ withoutHint input

theorem resolve_outcome (hagrees : Agrees lib source handed w)
    (hseen : ∀ token ∈ input.cursor, token ∈ w.seen) (hallowed : KeepsCursor handed w input)
    (hexec : Executes documentAnswers (resolve lib input).run w past out w') :
    Outcome lib source handed input.cursor w out w' := by
  unfold resolve at hexec
  by_cases hmany : (input.sysId.toList ++ input.name.toList ++ input.number.toList).length > 1
  · rw [if_pos hmany] at hexec
    exact settles_refuse hagrees _ _ _ _ hexec
  rw [if_neg hmany] at hexec
  by_cases hnone : (input.sysId.toList ++ input.name.toList ++ input.number.toList).length = 0
  · rw [if_pos hnone] at hexec
    exact resolveSelector_settles hagrees _ _ _ hexec
  rw [if_neg hnone] at hexec
  rcases executes_run_bind.mp hexec with
    ⟨err, rfl, hfail⟩ | ⟨scope, w₁, past₁, past₂, rfl, hscope, hrest⟩
  · obtain ⟨rfl, -⟩ := resolveScope_executes hfail
    exact .error hagrees (.refl _) err
  obtain ⟨rfl, hunhinted⟩ := resolveScope_executes hscope
  cases hname : input.name with
  | some name =>
    rw [hname] at hrest
    exact resolveNamed_settles hagrees _ _ _ hrest
  | none =>
    rw [hname] at hrest
    cases hnumber : input.number with
    | some number =>
      rw [hnumber] at hrest
      exact resolveNumber_settles hagrees _ _ _ hrest
    | none =>
      rw [hnumber] at hrest
      cases hid : input.sysId with
      | none =>
        rw [hid] at hrest
        exact settles_refuse hagrees _ _ _ _ hrest
      | some sysId =>
        rw [hid] at hrest
        refine resolveSysId_settles hagrees hseen (fun token htoken hin => ?_) _ _ _ hrest
        refine (hallowed (by rw [hid]; rfl) hname hnumber token htoken hin).imp id fun h => ?_
        exact Except.ok.inj (hunhinted h)

end Outcomes

end Chunks

/-! ## Sequences of calls -/

/-- Sequences of calls in which the cursor of a chunk comes with a table or a type only while its
document is alive. -/
abbrev DocumentCalls (lib : ResolverLib) : List ResolveCall → DocumentWorld → Prop :=
  Calls documentAnswers (fun input => (resolve lib input).run) DocumentWorld.enter
    (fun calls w input => KeepsCursor (handedOut calls) w input) .empty

section Runs

variable {lib : ResolverLib} {source : String → String × Nat} {calls : List ResolveCall}

theorem handedOut_append (calls : List ResolveCall) (c : ResolveCall) :
    handedOut (calls ++ [c]) = handedOut calls ++ (nextCursor c.out).toList := by
  rw [handedOut, handedOut, List.filterMap_append]
  cases h : nextCursor c.out <;> simp [h]

variable {c : ResolveCall}

theorem mem_handedOut (hc : c ∈ calls) (hout : c.out = .ok (.document chunk))
    (hcursor : chunk.cursor = some token) :
    token ∈ handedOut calls := by
  refine List.mem_filterMap.mpr ⟨c, hc, ?_⟩
  rw [hout]
  exact hcursor

/-- What each call told when it was made. -/
def Told (lib : ResolverLib) (source : String → String × Nat) (calls : List ResolveCall) : Prop :=
  ∀ before c after, calls = before ++ c :: after →
    Tells lib source source (handedOut before) c.call.cursor c.out

/-- What was told stays true when no cursor that was given out changes its meaning. -/
theorem Told.mono (h : Told lib source calls) {source' : String → String × Nat}
    (hsame : ∀ token ∈ handedOut calls, source' token = source token) :
    Told lib source' calls := by
  rintro before c after rfl
  obtain ⟨hchunk, hanswer⟩ := h before c after rfl
  refine ⟨fun chunk hout => ?_, hanswer⟩
  obtain ⟨content, hchunkOf, hnext, hpresented⟩ := hchunk chunk hout
  refine ⟨content, hchunkOf, fun token htoken => ?_, fun token htoken hin => ?_⟩
  · rw [hsame token (mem_handedOut (by simp) hout htoken)]
    exact hnext token htoken
  · rw [hsame token]
    · exact hpresented token htoken hin
    · rw [handedOut, List.filterMap_append]
      exact List.mem_append_left _ hin

/-- **The calls and what is kept agree** on what every cursor was given out for. -/
theorem calls_agree {w : DocumentWorld} (h : DocumentCalls lib calls w) :
    ∃ source, Agrees lib source (handedOut calls) w ∧ Told lib source calls := by
  refine h.invariant (I := fun calls w => ∃ source, Agrees lib source (handedOut calls) w ∧
    Told lib source calls) ?_ fun calls w c w' _ hbefore hallowed hexec => ?_
  · refine ⟨fun _ => ("", 0), ⟨?_, ?_, ?_, ?_⟩, fun before c after hsplit => ?_⟩
    · exact fun entry hentry => by cases hentry
    · exact fun entry hentry => by cases hentry
    · exact fun key hkey => by cases hkey
    · exact fun key hkey => by cases hkey
    · simp at hsplit
  · obtain ⟨source, hagrees, htold⟩ := hbefore
    have hquiet : Quiet w (w.enter c.call) :=
      ⟨List.Subset.refl _, List.Subset.refl _, List.subset_append_right _ _, fun _ h => .inl h⟩
    have hseen : ∀ token ∈ c.call.cursor, token ∈ (w.enter c.call).seen := by
      intro token htoken
      refine List.mem_append_left _ ?_
      rw [htoken]
      simp
    obtain ⟨source', hsame, -, hagrees', htells⟩ :=
      resolve_outcome (hquiet.agrees hagrees) hseen hallowed hexec
    have hkept : ∀ token ∈ handedOut calls, source' token = source token := fun token htoken =>
      hsame.source token (hquiet.seen (hagrees.handed token htoken))
    refine ⟨source', handedOut_append calls c ▸ hagrees', fun before d after hsplit => ?_⟩
    rcases List.eq_nil_or_concat after with rfl | ⟨rest, last, rfl⟩
    · obtain ⟨rfl, hlast⟩ := List.append_inj' hsplit rfl
      obtain rfl : c = d := by simpa using hlast
      refine ⟨fun chunk hout => ?_, htells.answer⟩
      obtain ⟨content, hchunkOf, hnext, hpresented⟩ := htells.chunk chunk hout
      refine ⟨content, hchunkOf, hnext, fun token htoken hin => ?_⟩
      rw [hkept token hin]
      exact hpresented token htoken hin
    · have hcut : calls ++ [c] = (before ++ d :: rest) ++ [last] := by simpa using hsplit
      obtain ⟨rfl, -⟩ := List.append_inj' hcut rfl
      exact htold.mono hkept before d rest rfl

/-- A call that goes on with the chunk of an earlier one. -/
theorem Told.next (h : Told lib source calls) {first second : ResolveCall}
    {chunk next : DocumentChunk} {token content : String} {rest : List ResolveCall}
    (horder : (first :: second :: rest).Sublist calls)
    (hfirst : first.out = .ok (.document chunk)) (hsecond : second.out = .ok (.document next))
    (hgiven : chunk.cursor = some token) (hpresented : second.call.cursor = some token)
    (hmeans : ∀ token ∈ chunk.cursor, source token = (content, chunk.stop)) :
    ChunkOf lib content next ∧ next.offsetBytes = chunk.stop ∧
      ∀ token ∈ next.cursor, source token = (content, next.stop) := by
  obtain ⟨before, after, rfl, hmem, hrest⟩ := List.cons_sublist_iff.mp horder
  obtain ⟨between, later, rfl⟩ := List.append_of_mem (hrest.subset List.mem_cons_self)
  have hin : token ∈ handedOut (before ++ between) :=
    mem_handedOut (List.mem_append_left _ hmem) hfirst hgiven
  obtain ⟨content', hchunkOf, hnext, hsource⟩ :=
    (h (before ++ between) second later (by simp)).chunk next hsecond
  have hsame := (hsource token hpresented hin).symm.trans (hmeans token hgiven)
  obtain ⟨rfl, hoffset⟩ := Prod.mk.inj hsame
  exact ⟨hchunkOf, hoffset, hnext⟩

/-- What a call has answered with a chunk is followed by a call with the cursor of the chunk. -/
def Follow (step step' : ResolveCall × DocumentChunk) : Prop :=
  ∃ token, step.2.cursor = some token ∧ step'.1.call.cursor = some token

/-- **Chunks that follow one another are one piece of a content.** -/
theorem Told.joined (h : Told lib source calls) {content : String}
    {path : List (ResolveCall × DocumentChunk)}
    (horder : (((c, chunk) :: path).map Prod.fst).Sublist calls)
    (hout : ∀ step ∈ (c, chunk) :: path, step.1.out = .ok (.document step.2))
    (hchain : ((c, chunk) :: path).IsChain Follow) (hchunk : ChunkOf lib content chunk)
    (hmeans : ∀ token ∈ chunk.cursor, source token = (content, chunk.stop)) :
    (∀ step ∈ (c, chunk) :: path, ChunkOf lib content step.2) ∧ ∃ before after, content.toList =
        before ++ (((c, chunk) :: path).flatMap (fun step => step.2.content.toList) ++ after) ∧
      byteLength before = chunk.offsetBytes ∧
      path.length + 1 ≤
        byteLength (((c, chunk) :: path).flatMap fun step => step.2.content.toList) ∧
      ∀ last ∈ ((c, chunk) :: path).getLast?, last.2.cursor = none → after = [] := by
  have hpos : 0 < byteLength chunk.content.toList := by
    refine Nat.pos_of_ne_zero fun hzero => hchunk.nonempty ?_
    simpa using byteLength_eq_zero.mp hzero
  induction path generalizing c chunk with
  | nil =>
    obtain ⟨before, after, hsplit, hoffset, hcursor⟩ := hchunk.cut
    refine ⟨fun step hstep => ?_, before, after, ?_, hoffset, ?_, fun last hlast hnone => ?_⟩
    · rw [List.mem_singleton.mp hstep]
      exact hchunk
    · simpa using hsplit
    · simpa using Nat.succ_le_of_lt hpos
    · obtain rfl : (c, chunk) = last := by simpa using hlast
      exact hcursor.mp hnone
  | cons step path ih =>
    obtain ⟨d, next⟩ := step
    rw [List.isChain_cons_cons] at hchain
    obtain ⟨⟨token, hgiven, hpresented⟩, hrest⟩ := hchain
    obtain ⟨hnext, hoffset, hnextMeans⟩ := h.next horder (hout _ List.mem_cons_self)
      (hout (d, next) (by simp)) hgiven hpresented hmeans
    have hnextPos : 0 < byteLength next.content.toList := by
      refine Nat.pos_of_ne_zero fun hzero => hnext.nonempty ?_
      simpa using byteLength_eq_zero.mp hzero
    have horder' : (((d, next) :: path).map Prod.fst).Sublist calls :=
      (List.sublist_cons_self _ _).trans horder
    obtain ⟨hall, before', after, hjoined, hlength, hcount, hlast⟩ := ih horder'
      (fun step hstep => hout step (List.mem_cons_of_mem _ hstep)) hrest hnext hnextMeans hnextPos
    obtain ⟨before, rest, hsplit, hstart, -⟩ := hchunk.cut
    -- What is before the next chunk is what is before this one, and this one.
    have hbefore : before' = before ++ chunk.content.toList := by
      have hboth := hjoined.symm.trans hsplit
      rw [← List.append_assoc before] at hboth
      have hdrop := congrArg (takeBytes (byteLength before')) hboth
      rw [(bytes_append ..).2] at hdrop
      have hsame : byteLength before' = byteLength (before ++ chunk.content.toList) := by
        rw [hlength, hoffset, DocumentChunk.stop, ← hstart, byteLength_append]
      rw [hdrop, hsame, (bytes_append ..).2]
    refine ⟨fun step hstep => ?_, before, after, ?_, hstart, ?_, fun last hmem => ?_⟩
    · rcases List.mem_cons.mp hstep with rfl | hstep
      · exact hchunk
      · exact hall step hstep
    · rw [hjoined, hbefore]
      simp
    · rw [List.flatMap_cons, byteLength_append, List.length_cons]
      dsimp only
      omega
    · refine hlast last ?_
      rwa [List.getLast?_cons_cons] at hmem

end Runs

/-! ### A cursor without its document -/

theorem byteLength_replicate (n : Nat) : byteLength (List.replicate n 'a') = n := by
  induction n with
  | zero => rfl
  | succ n ih =>
    have hone : 'a'.utf8Size = 1 := by decide
    rw [List.replicate_succ, byteLength_cons, ih, hone]
    omega

/-- A content that is not answered inline. -/
theorem exists_long : ∃ content : String, 32 * 1024 < byteLength content.toList ∧
    byteLength content.toList ≤ 16 * 1024 * 1024 := by
  refine ⟨String.ofList (List.replicate 40000 'a'), ?_⟩
  rw [String.toList_ofList, byteLength_replicate]
  omega

/-- A call for an incident. -/
def incidentCall (cursor : Option String) : RecordResolveInput :=
  ⟨some "0123456789abcdef0123456789abcdef", none, none, none, some "incident", cursor⟩

/-- An incident. -/
def incident : Record := ⟨"0123456789abcdef0123456789abcdef", "incident", []⟩

/-- An identifier that there has not been. -/
def unseen (seen : List String) : String :=
  String.ofList (List.replicate ((seen.map String.length).sum + 1) 'c')

theorem unseen_fresh (seen : List String) : unseen seen ∉ seen := by
  intro h
  have hle : (unseen seen).length ≤ (seen.map String.length).sum :=
    List.le_sum_of_mem (List.mem_map_of_mem h)
  have hlength : (unseen seen).length = (seen.map String.length).sum + 1 := by simp [unseen]
  omega

section Incident

variable {content : String}

/-- A shape in which every record is of one content. -/
def shapeOf (content : String) : ResolverLib := ⟨fun _ => .null, fun _ => content, id, fun _ => []⟩

theorem answers_now (w : DocumentWorld) :
    documentAnswers w .now w.clock { w with clock := w.clock + cursorTtl } :=
  ⟨rfl, _, Nat.le_add_right _ _, rfl⟩

section

variable (hlong : 32 * 1024 < byteLength content.toList)

include hlong

/-- A first chunk is cut, and the clock goes on past the life of its document. -/
theorem mayEnd_firstChunk (w : DocumentWorld)
    (state : DocumentState) (hcontent : state.content = content)
    (hfirst : ∀ entry ∈ state.pageOffsets, entry.2 = 0) :
    ∃ state' chunk, MayEnd documentAnswers (documentChunk state 0).run w (.ok (state', chunk))
      { w with clock := w.clock + cursorTtl, seen := unseen w.seen :: w.seen } ∧
      state'.touched = w.clock ∧ chunk.offsetBytes = 0 ∧ chunk.cursor = some (unseen w.seen) ∧
      chunk.stop ≠ 0 := by
  subst hcontent
  obtain ⟨stop, hstop⟩ : ∃ stop, floorBoundary state.content.toList
    (min (0 + 8192) (byteLength state.content.toList)) = stop := ⟨_, rfl⟩
  obtain ⟨-, hle, -⟩ := floorBoundary_spec state.content.toList
    (min (0 + 8192) (byteLength state.content.toList))
  rw [hstop] at hle
  have hstopLt : stop < byteLength state.content.toList := by omega
  have hborder : isCharBoundary state.content.toList 0 = true :=
    isCharBoundary_iff.mpr ⟨[], _, rfl, rfl⟩
  obtain ⟨hchunkOf, hchunkStop⟩ := chunkOf_cut (shapeOf state.content)
    ⟨state.sysId, state.table, state.resourceType, slice state.content 0 stop,
      contentHash (shapeOf state.content) state.content, 0, byteLength state.content.toList,
      some (unseen w.seen)⟩
    hborder (by omega) rfl rfl rfl (by rw [hstop]) (by rw [hstop]; simpa using hstopLt)
  rw [hstop] at hchunkStop
  have hpos : stop ≠ 0 := by
    intro hzero
    refine hchunkOf.nonempty ?_
    rw [hzero]
    simp [slice, takeBytes]
  have hnone : state.pageOffsets.find? (fun entry => entry.2 = stop) = none := by
    rw [List.find?_eq_none]
    intro entry hentry
    rw [hfirst entry hentry]
    simpa using hpos.symm
  refine ⟨{ state with
      touched := w.clock
      pageOffsets := state.pageOffsets ++ [(unseen w.seen, stop)] },
    ⟨state.sysId, state.table, state.resourceType, slice state.content 0 stop,
      state.contentHash, 0, byteLength state.content.toList, some (unseen w.seen)⟩, ?_, rfl, rfl,
    rfl, fun hzero => hpos (hchunkStop.symm.trans hzero)⟩
  refine mayEnd_ask (answers_now w) ?_
  rw [hstop, if_pos hstopLt]
  refine MayEnd.run_bind (a := (unseen w.seen, _)) ?_ (mayEnd_pure _ _)
  unfold cursorFor
  rw [hnone]
  exact mayEnd_ask ⟨unseen_fresh w.seen, rfl⟩ (mayEnd_pure _ _)

theorem mayEnd_boundedRecord (hfits : byteLength content.toList ≤ 16 * 1024 * 1024) {w : DocumentWorld}
    (hempty : w.documents = []) (record : ResolvedRecord) (cursor : Option String) :
    ∃ chunk token w', MayEnd documentAnswers (boundedRecord (shapeOf content) record cursor).run w
        (.ok (.document chunk)) w' ∧
      chunk.offsetBytes = 0 ∧ chunk.cursor = some token ∧ chunk.stop ≠ 0 ∧
      ∀ entry ∈ w'.documents, live w'.clock entry.2.touched = false := by
  have hsmall : ¬ byteLength content.toList ≤ 32 * 1024 := by omega
  have hlarge : ¬ byteLength content.toList > 16 * 1024 * 1024 := by omega
  have hroom : ∀ now, makeRoom now [] = [] := fun _ => rfl
  obtain ⟨w₁, hnow₁, hempty₁⟩ : ∃ w₁, documentAnswers w .now w.clock w₁ ∧ w₁.documents = [] :=
    ⟨_, answers_now w, hempty⟩
  obtain ⟨w₂, hw₂⟩ : ∃ w₂ : DocumentWorld,
    { w₁ with documents := [], seen := unseen w₁.seen :: w₁.seen } = w₂ := ⟨_, rfl⟩
  obtain ⟨w₃, hnow₃⟩ : ∃ w₃, documentAnswers w₂ .now w₂.clock w₃ := ⟨_, answers_now w₂⟩
  obtain ⟨state, chunk, hchunk, htouched, hoffset, hcursor, hstop⟩ :=
    mayEnd_firstChunk hlong w₃ ⟨record.sysId, record.table, record.resourceType, content,
        contentHash (shapeOf content) content, (cursor.map fun cursor => (cursor, 0)).toList, false,
        w₂.clock⟩ rfl
      (fun entry hentry => by
        cases cursor with
        | none => cases hentry
        | some token =>
          obtain rfl : entry = (token, 0) := by simpa using hentry
          rfl)
  refine ⟨chunk, unseen w₃.seen, { w₃ with
      clock := w₃.clock + cursorTtl
      seen := unseen w₃.seen :: w₃.seen
      documents := insertSession (unseen w₁.seen) state [] }, ?_, hoffset, hcursor, hstop, ?_⟩
  · unfold boundedRecord
    rw [show (shapeOf content).recordJson record = content from rfl]
    rw [if_neg hsmall, if_neg hlarge]
    refine mayEnd_ask hnow₁ (mayEnd_ask (e := .readDocuments) (r := []) ⟨by rw [hempty₁], rfl⟩ ?_)
    rw [hroom]
    refine mayEnd_ask (e := .writeDocuments []) (r := ()) rfl ?_
    rw [if_neg (by decide)]
    refine mayEnd_ask (e := .newUuid) (r := unseen w₁.seen) ⟨unseen_fresh w₁.seen, hw₂.symm⟩ ?_
    refine mayEnd_ask hnow₃ (MayEnd.run_bind hchunk ?_)
    exact mayEnd_ask (e := .writeDocuments _) (r := ()) rfl (mayEnd_pure _ _)
  · intro entry hentry
    obtain rfl : entry = (unseen w₁.seen, state) := by simpa [insertSession] using hentry
    show live (w₃.clock + cursorTtl) state.touched = false
    rw [htouched, live]
    simp

/-- **A call for a long record opens a document of it**, whatever cursor it has, when no document
is alive. -/
theorem mayEnd_incidentCall (hfits : byteLength content.toList ≤ 16 * 1024 * 1024) {w : DocumentWorld}
    (hdead : ∀ entry ∈ w.documents, live w.clock entry.2.touched = false)
    (cursor : Option String) :
    ∃ chunk token w', MayEnd documentAnswers
        (resolve (shapeOf content) (incidentCall cursor)).run w (.ok (.document chunk)) w' ∧
      chunk.offsetBytes = 0 ∧ chunk.cursor = some token ∧ chunk.stop ≠ 0 ∧
      ∀ entry ∈ w'.documents, live w'.clock entry.2.touched = false := by
  have halive : w.documents.filter (fun entry => live w.clock entry.2.touched) = [] := by
    rw [List.filter_eq_nil_iff]
    intro entry hentry
    rw [hdead entry hentry]
    exact Bool.false_ne_true
  have hnone : cursor.bind (findDocument []) = none := by
    cases cursor <;> rfl
  obtain ⟨w₁, hnow₁, hsame₁⟩ :
      ∃ w₁, documentAnswers w .now w.clock w₁ ∧ w₁.documents = w.documents :=
    ⟨_, answers_now w, rfl⟩
  obtain ⟨chunk, token, w', hbounded, hrest⟩ := mayEnd_boundedRecord hlong hfits
    (w := { w₁ with documents := [] }) rfl
    { sysId := incident.sysId
      table := "incident"
      resourceType := "incident"
      fields := .null
      dataModel := .null
      dataType := none } cursor
  refine ⟨chunk, token, w', ?_, hrest⟩
  have hcontinued : MayEnd documentAnswers
      (continueDocument "0123456789abcdef0123456789abcdef" cursor).run w (.ok none)
      { w₁ with documents := [] } := by
    refine mayEnd_ask hnow₁ (mayEnd_ask (e := .readDocuments) (r := w.documents)
      ⟨by rw [hsame₁], rfl⟩ ?_)
    dsimp only
    rw [halive, hnone]
    exact mayEnd_ask (e := .writeDocuments []) (r := ()) rfl (mayEnd_pure _ _)
  have hidentity : validateIdentity incident incident.sysId = .ok () := by
    rw [validateIdentity, if_pos (by decide)]
  have htable : actualTable incident = .ok "incident" := by rfl
  have hfinish : MayEnd documentAnswers (finishRecord (shapeOf content) incident cursor).run
      { w₁ with documents := [] } (.ok (.document chunk)) w' := by
    unfold finishRecord
    rw [hidentity, htable]
    refine MayEnd.run_bind (mayEnd_pure _ _) (MayEnd.run_bind (mayEnd_pure _ _) ?_)
    refine mayEnd_ask (e := .dataModel _) (r := Value.null) rfl ?_
    exact mayEnd_ask (e := .describeTable _) (r := none) rfl hbounded
  have hscoped : MayEnd documentAnswers (readScoped (shapeOf content) "incident"
      "0123456789abcdef0123456789abcdef" cursor).run { w₁ with documents := [] }
      (.ok (.document chunk)) w' := by
    unfold readScoped
    rw [if_neg (by decide)]
    refine mayEnd_ask (e := .getRecord _ _) (r := .ok incident) rfl ?_
    dsimp only
    rw [show validateIdentity incident "0123456789abcdef0123456789abcdef" = .ok () from hidentity,
      htable]
    refine MayEnd.run_bind (mayEnd_pure _ _) (MayEnd.run_bind (mayEnd_pure _ _) ?_)
    rw [if_neg (by simp)]
    exact hfinish
  have hnormal : normalizeRecordLookupSysId "0123456789abcdef0123456789abcdef" =
      .ok "0123456789abcdef0123456789abcdef" := by
    rw [normalizeRecordLookupSysId]
    decide
  have hid : MayEnd documentAnswers (resolveSysId (shapeOf content)
      "0123456789abcdef0123456789abcdef" (some "incident") cursor).run w (.ok (.document chunk))
      w' := by
    unfold resolveSysId
    rw [hnormal]
    refine MayEnd.run_bind (mayEnd_pure _ _) (MayEnd.run_bind hcontinued hscoped)
  unfold resolve
  rw [if_neg (by simp [incidentCall]), if_neg (by simp [incidentCall])]
  exact MayEnd.run_bind (mayEnd_pure _ _) hid

end

end Incident

/-! ## The chunks of a document -/

/-- **Chunked documents reassemble.**  In every sequence of calls in which the cursor of a chunk
comes with a table or a type only while its document is alive: a chunk is cut from its content, a
call with the cursor of a chunk is answered with the next chunk of the same content or an error, and
chunks that follow one another from the first one to a last one make up the content. -/
theorem chunks_reassemble {lib : ResolverLib} {calls : List ResolveCall} {w : DocumentWorld}
    (h : DocumentCalls lib calls w) :
    (∀ c ∈ calls, ∀ chunk, c.out = .ok (.document chunk) → ∃ content, ChunkOf lib content chunk) ∧
      (∀ before c after, calls = before ++ c :: after → ∀ d ∈ before, ∀ chunk token,
        d.out = .ok (.document chunk) → chunk.cursor = some token → c.call.cursor = some token →
        (∃ err, c.out = .error err) ∨ ∃ content next, c.out = .ok (.document next) ∧
          ChunkOf lib content chunk ∧ ChunkOf lib content next ∧ next.offsetBytes = chunk.stop) ∧
      ∀ first path, ((first :: path).map Prod.fst).Sublist calls →
        (∀ step ∈ first :: path, step.1.out = .ok (.document step.2)) →
        (first :: path).IsChain Follow → first.2.offsetBytes = 0 →
        (first :: path).length ≤ first.2.byteLength ∧
          ∀ last ∈ (first :: path).getLast?, last.2.cursor = none → ∀ step ∈ first :: path,
            step.2.contentHash = contentHash lib
              (String.ofList ((first :: path).flatMap fun step => step.2.content.toList)) := by
  obtain ⟨source, -, htold⟩ := calls_agree h
  refine ⟨fun c hc chunk hout => ?_, ?_, ?_⟩
  · obtain ⟨before, after, rfl⟩ := List.append_of_mem hc
    obtain ⟨content, hchunkOf, -⟩ := (htold before c after rfl).chunk chunk hout
    exact ⟨content, hchunkOf⟩
  · rintro before c after rfl d hd chunk token hout hgiven hpresented
    have htells := htold before c after rfl
    have hin : token ∈ handedOut before := mem_handedOut hd hout hgiven
    rcases htells.answer token hpresented hin with herr | ⟨next, hnext⟩
    · exact .inl herr
    obtain ⟨content, hnextOf, -, hsource⟩ := htells.chunk next hnext
    obtain ⟨earlier, between, rfl⟩ := List.append_of_mem hd
    obtain ⟨content', hchunkOf, hmeans, -⟩ :=
      (htold earlier d (between ++ c :: after) (by simp)).chunk chunk hout
    have hsame := (hsource token hpresented hin).symm.trans (hmeans token hgiven)
    obtain ⟨rfl, hoffset⟩ := Prod.mk.inj hsame
    exact .inr ⟨content, next, hnext, hchunkOf, hnextOf, hoffset⟩
  · rintro ⟨c, chunk⟩ path horder hout hchain hstart
    obtain ⟨before, after, hsplit⟩ := List.append_of_mem (horder.subset List.mem_cons_self)
    obtain ⟨content, hchunkOf, hmeans, -⟩ :=
      (htold before c after hsplit).chunk chunk (hout _ List.mem_cons_self)
    obtain ⟨hall, before', after', hjoined, hlength, hcount, hlast⟩ :=
      htold.joined horder hout hchain hchunkOf hmeans
    have hnil : before' = [] := byteLength_eq_zero.mp (hlength.trans hstart)
    rw [hnil, List.nil_append] at hjoined
    refine ⟨?_, fun last hmem hnone step hstep => ?_⟩
    · rw [hchunkOf.length, hjoined, byteLength_append, List.length_cons]
      omega
    · rw [(hall step hstep).hash]
      rw [hlast last hmem hnone, List.append_nil] at hjoined
      rw [← hjoined, String.ofList_toList]

theorem chunks_reassemble_incident : ∃ lib calls w chunk content, DocumentCalls lib calls w ∧
    calls.map (·.out) = [.ok (.document chunk)] ∧ ChunkOf lib content chunk := by
  obtain ⟨content, hlong, hfits⟩ := exists_long
  obtain ⟨chunk, token, w, ⟨past, hcall⟩, -⟩ :=
    mayEnd_incidentCall hlong hfits (w := .empty) (fun entry hentry => by cases hentry) none
  have hcalls : DocumentCalls (shapeOf content) [⟨incidentCall none, past, .ok (.document chunk)⟩]
      w := by
    refine .next (c := ⟨incidentCall none, past, _⟩) .start (fun _ _ _ token htoken => ?_) hcall
    cases htoken
  obtain ⟨content', hchunk⟩ := (chunks_reassemble hcalls).1 _ List.mem_cons_self chunk rfl
  exact ⟨shapeOf content, _, w, chunk, content', hcalls, rfl, hchunk⟩

/-- A call with the cursor of a chunk may be answered with another chunk: its document is not alive
any more, and the call names a table. -/
theorem cursor_restarts : ∃ lib calls w, Calls documentAnswers
      (fun input => (resolve lib input).run) DocumentWorld.enter (fun _ _ _ => True) .empty calls w ∧
    ∃ first second chunk next token, calls = [first, second] ∧
      first.out = .ok (.document chunk) ∧ chunk.cursor = some token ∧
      second.call.cursor = some token ∧ second.out = .ok (.document next) ∧
      next.offsetBytes ≠ chunk.stop := by
  obtain ⟨content, hlong, hfits⟩ := exists_long
  obtain ⟨chunk, token, w₁, ⟨past₁, hfirst⟩, -, hcursor, hstop, hdead⟩ :=
    mayEnd_incidentCall hlong hfits (w := .empty) (fun entry hentry => by cases hentry) none
  obtain ⟨next, token', w₂, ⟨past₂, hsecond⟩, hoffset, -⟩ :=
    mayEnd_incidentCall hlong hfits (w := w₁.enter (incidentCall (some token))) hdead (some token)
  refine ⟨shapeOf content, _, w₂, .next (c := ⟨incidentCall (some token), past₂, _⟩)
    (.next (c := ⟨incidentCall none, past₁, _⟩) .start trivial hfirst) trivial hsecond,
    ⟨incidentCall none, past₁, .ok (.document chunk)⟩,
    ⟨incidentCall (some token), past₂, .ok (.document next)⟩, chunk, next, token, rfl, rfl, hcursor,
    rfl, rfl, ?_⟩
  rw [hoffset]
  exact hstop.symm

end SnowAgent.Resolve
