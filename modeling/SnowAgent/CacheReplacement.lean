import SnowAgent.Executions
import SnowAgent.Text
import SnowAgent.WalDatabase

/-! # Replacing the cache

The cache is a database that is replaced as a whole: by an empty one, by one that was
staged from ServiceNow, or by one that is rebuilt from the vault.  Each function builds
or takes a database beside the cache and renames its main file into place.  The log of
the cache cannot be renamed with it.
-/
namespace SnowAgent.Vault

open Text Program WalDatabase

/-! ## The operations on files -/

/-- The cache, or the database beside it that is to replace it. -/
inductive Side where
  | target
  | temporary
deriving DecidableEq

/-- `CacheFormat`. -/
inductive CacheFormat where
  | absent
  | current
  | incompatible (found : String)
deriving DecidableEq

/-- Why an operation, or a function, fails. -/
inductive CacheError where
  | notFound
  | failed (message : String)
deriving DecidableEq

/-- An entry of the directory of the cache: its name, if it is text, and whether it is a file or a
symbolic link. -/
structure DirEntry where
  name : Option String
  fileType : Except CacheError Bool

section Functions

variable {Document P : Type}

/-- The operations of the three functions. -/
inductive CacheAct (Document : Type) where
  | scanDocuments
  | createDirAll
  /-- `Store::open` at a path where there is no file. -/
  | openNew
  | rebuildDocument (document : Document)
  /-- The last connection is dropped. -/
  | dropStore
  | inspectFormat (side : Side)
  | checkpointSqlite (side : Side)
  | removeMain
  | removeSidecar (side : Side) (suffix : String)
  | rename
  | readDir
  | removeArtifact (name : String)

/-- What each operation gives. -/
abbrev CacheAct.Gives : CacheAct Document → Type
  | scanDocuments => List Document
  | inspectFormat _ => CacheFormat
  | readDir => List (Except CacheError DirEntry)
  | _ => Unit

/-- The interface of the functions. -/
abbrev CacheIO (Document : Type) : Interface :=
  ⟨CacheAct Document, fun e => Except CacheError e.Gives⟩

/-- A part of a function, which may fail. -/
abbrev CacheM (Document : Type) := ExceptT CacheError <| Program <| CacheIO Document

/-- An operation. -/
def attempt (e : CacheAct Document) : CacheM Document e.Gives :=
  ExceptT.mk (perform (S := CacheIO Document) e)

/-- What is left open: the name of the cache, the databases and what is in the vault. -/
structure CacheLib (Document P : Type) where
  databaseName : String
  /-- `uuid::Uuid::parse_str(..).is_ok()`. -/
  parsesUuid : String → Bool
  /-- What `Store::open` makes where there is no file. -/
  emptyCache : Pages P
  /-- `rebuild_document_into_store`. -/
  addDocument : Pages P → Document → Pages P
  /-- What `Store::inspect_format` finds in a database. -/
  format : Pages P → CacheFormat
  /-- The documents in the vault, in the order in which they are found. -/
  vault : List Document

/-! ## The functions -/

/-- Removes one sidecar, if it is there. -/
def removeOne (side : Side) (suffix : String) : CacheM Document Unit :=
  ExceptT.mk do
    let removed ← (attempt (.removeSidecar side suffix)).run
    match removed with
    | .error .notFound => return .ok ()
    | removed => return removed

/-- `remove_sqlite_sidecars`. -/
def removeSqliteSidecars (side : Side) : CacheM Document Unit :=
  ["-wal", "-shm", "-journal"].forM (removeOne side)

/-- `str::strip_suffix`. -/
def stripSuffix (s pattern : String) : Option String :=
  if endsWith s pattern then
    some (String.ofList (s.toList.take (s.toList.length - pattern.toList.length)))
  else none

/-- A name without the suffix of a sidecar. -/
def withoutSidecar (name : String) : String :=
  (["-wal", "-shm", "-journal"].findSome? (stripSuffix name)).getD name

/-- `is_snow_owned_cache_artifact`. -/
def isSnowOwnedCacheArtifact (parsesUuid : String → Bool) (name databaseFileName : String) :
    Bool :=
  ["reset", "rebuild", "servicenow-rebuild"].any fun operation =>
    match stripPrefix name ("." ++ databaseFileName ++ "." ++ operation ++ "-") with
    | none => false
    | some remainder =>
      match stripSuffix (withoutSidecar remainder) ".tmp" with
      | none => false
      | some candidate => parsesUuid candidate

variable (lib : CacheLib Document P)

/-- Removes an entry that is a stale artifact of the cache. -/
def removeIfStale (entry : Except CacheError DirEntry) : CacheM Document Unit :=
  match entry with
  | .error err => throw err
  | .ok entry =>
    match entry.name.filter fun name =>
      isSnowOwnedCacheArtifact lib.parsesUuid name lib.databaseName with
    | none => return ()
    | some name =>
      match entry.fileType with
      | .error err => throw err
      | .ok false => return ()
      | .ok true => attempt (.removeArtifact name)

/-- `remove_stale_cache_artifacts`. -/
def removeStaleCacheArtifacts : CacheM Document Unit := do
  let entries ← attempt .readDir
  entries.forM (removeIfStale lib)

/-- Moves the database beside the cache into its place, as `reset_cache` and
`promote_rebuilt_cache` do it. -/
def moveIntoPlace : CacheM Document Unit := do
  attempt (.checkpointSqlite .temporary)
  removeSqliteSidecars .temporary
  removeSqliteSidecars .target
  attempt .rename

/-- What `reset_cache` does once the directory is there. -/
def resetSteps : CacheM Document Unit := do
  attempt .openNew
  attempt .dropStore
  let format ← attempt (.inspectFormat .temporary)
  if format ≠ .current then throw (.failed "reset cache did not validate as the current format")
  else do
    moveIntoPlace
    removeStaleCacheArtifacts lib

/-- `reset_cache`. -/
def resetCache : CacheM Document Unit := do
  attempt .createDirAll
  ExceptT.mk do
    let result ← (resetSteps lib).run
    match result with
    | .ok _ => return result
    | .error _ => do
      let _ ← (attempt .removeMain).run
      let _ ← (removeSqliteSidecars .temporary).run
      return result

/-- `promote_rebuilt_cache`. -/
def promoteRebuiltCache : CacheM Document Unit := do
  let format ← attempt (.inspectFormat .temporary)
  if format ≠ .current then
    throw (.failed "ServiceNow rebuild cache did not validate as the current format")
  else moveIntoPlace

/-- What `rebuild_cache_from_vault` does once the directory is there. -/
def rebuildSteps (documents : List Document) : CacheM Document Nat := do
  attempt .openNew
  documents.forM fun document => attempt (.rebuildDocument document)
  attempt .dropStore
  let format ← attempt (.inspectFormat .temporary)
  if format ≠ .current then throw (.failed "rebuilt cache did not validate as the current format")
  else return documents.length

/-- `rebuild_cache_from_vault`. -/
def rebuildCacheFromVault : CacheM Document Nat := do
  let documents ← attempt .scanDocuments
  attempt .createDirAll
  ExceptT.mk do
    let result ← (rebuildSteps documents).run
    match result with
    | .ok report => do
      let renamed ← (attempt .rename).run
      match renamed with
      | .ok _ => return .ok report
      | .error err => return .error err
    | .error err => do
      let _ ← (attempt .removeMain).run
      return .error err

/-! ## The files -/

/-- The files of the cache, and of the database beside it. -/
structure CacheFiles (P : Type) where
  target : Files P
  temporary : Files P

/-- The files of one side. -/
def CacheFiles.on (w : CacheFiles P) : Side → Files P
  | .target => w.target
  | .temporary => w.temporary

/-- The files of one side are others. -/
def CacheFiles.put (w : CacheFiles P) (files : Files P) : Side → CacheFiles P
  | .target => { w with target := files }
  | .temporary => { w with temporary := files }

/-- What an operation may do to the files, and what it is answered with.  An operation that fails
leaves the content as it is, except where the database is being built that is beside the cache.
When the last connection is dropped, SQLite puts the pages of the log into the main file and
removes the log, unless this fails (`closes`), which nobody is told. -/
def fileAnswers (closes : Bool) (w : CacheFiles P) :
    (e : CacheAct Document) → Except CacheError e.Gives → CacheFiles P → Prop
  | .scanDocuments, answer, w' => w' = w ∧ ∀ documents, answer = .ok documents →
      documents = lib.vault
  | .openNew, answer, w' => w'.target = w.target ∧
      (answer = .ok () → w'.temporary.content = some lib.emptyCache)
  | .rebuildDocument document, answer, w' => w'.target = w.target ∧
      (answer = .ok () → w'.temporary.content =
        w.temporary.content.map fun pages => lib.addDocument pages document)
  | .dropStore, answer, w' => answer = .ok () ∧ w'.target = w.target ∧
      w'.temporary.content = w.temporary.content ∧ (closes = true → w'.temporary.wal = none)
  | .inspectFormat side, answer, w' => w' = w ∧ ∀ format, answer = .ok format →
      format = ((w.on side).content.map lib.format).getD .absent
  | .checkpointSqlite side, answer, w' =>
    ∃ files, w' = w.put files side ∧ files.content = (w.on side).content ∧
      (answer = .ok () → files.main = (w.on side).content ∧ files.wal.getD [] = [])
  | .removeMain, answer, w' =>
    w' = w ∧ answer ≠ .ok () ∨
      answer = .ok () ∧ w' = { w with temporary := { w.temporary with main := none } }
  | .removeSidecar side suffix, answer, w' =>
    w' = w ∧ (suffix = "-wal" → answer = .error .notFound → (w.on side).wal = none) ∧
        (suffix = "-wal" → answer ≠ .ok ()) ∨
      answer = .ok () ∧ suffix = "-wal" ∧ w' = w.put (w.on side).withoutWal side
  | .rename, answer, w' =>
    w' = w ∧ answer ≠ .ok () ∨
      answer = .ok () ∧ w.temporary.main ≠ none ∧
        w' = ⟨{ w.target with main := w.temporary.main }, { w.temporary with main := none }⟩
  | .removeArtifact name, _, w' =>
    name ≠ lib.databaseName → name ≠ lib.databaseName ++ "-wal" → w'.target = w.target
  | _, _, w' => w' = w

/-! ## What the functions are for -/

/-- **All or nothing**: wherever a function stops, the cache is found with its old content or with
the new one, and with the new one when the function has returned without an error. -/
def AllOrNothing {A : Type} (closes : Bool) (p : CacheM Document A) (w : CacheFiles P)
    (new : Option (Pages P)) : Prop :=
  (∀ w', Reaches (fileAnswers lib closes) p.run w w' →
      w'.target.content = w.target.content ∨ w'.target.content = new) ∧
    ∀ past a w', Executes (fileAnswers lib closes) p.run w past (.ok a) w' → w'.target.content = new

section Steps

variable {lib} {closes : Bool} {w w' : CacheFiles P} {A B : Type} {I : CacheFiles P → Prop}

theorem allOrNothing_iff {p : CacheM Document A} {new : Option (Pages P)} :
    AllOrNothing lib closes p w new ↔ Always (fileAnswers lib closes)
      (fun w' => w'.target.content = w.target.content ∨ w'.target.content = new)
      (fun r w' => ∀ a, r = .ok a → w'.target.content = new) p.run w := by
  rw [always_iff]
  refine and_congr_right fun _ => ⟨fun h past r w' hexec a hr => ?_, fun h past a w' hexec => ?_⟩
  · exact h past a w' (hr ▸ hexec)
  · exact h past (.ok a) w' hexec a rfl

/-- An operation, and what follows it. -/
theorem always_attempt {e : CacheAct Document} {f : e.Gives → CacheM Document B}
    {Q : Except CacheError B → CacheFiles P → Prop} :
    Always (fileAnswers lib closes) I Q (attempt e >>= f).run w ↔
      I w ∧ (∀ a w', fileAnswers lib closes w e (.ok a) w' →
          Always (fileAnswers lib closes) I Q (f a).run w') ∧
        ∀ err w', fileAnswers lib closes w e (.error err) w' → I w' ∧ Q (.error err) w' := by
  rw [always_run_bind]
  constructor
  · rintro ⟨hI, hall⟩
    exact ⟨hI, fun a w' ha => (hall (.ok a) w' ha).2, fun err w' ha => (hall (.error err) w' ha).2⟩
  · rintro ⟨hI, hok, hfail⟩
    refine ⟨hI, fun r w' ha => ?_⟩
    cases r with
    | ok a => exact ⟨(hok a w' ha).now, hok a w' ha⟩
    | error err => exact ⟨(hfail err w' ha).1, hfail err w' ha⟩

/-- An operation at the end. -/
theorem always_attempt_end {e : CacheAct Document}
    {Q : Except CacheError e.Gives → CacheFiles P → Prop} :
    Always (fileAnswers lib closes) I Q (attempt e).run w ↔
      I w ∧ ∀ r w', fileAnswers lib closes w e r w' → I w' ∧ Q r w' := Iff.rfl

theorem put_on (side : Side) : w.put (w.on side) side = w := by
  cases side <;> rfl

theorem withoutWal_of_none {files : Files P} (h : files.wal = none) : files.withoutWal = files := by
  rw [Files.withoutWal, ← h]

theorem removeOne_always {side : Side} {suffix : String}
    {Q : Except CacheError Unit → CacheFiles P → Prop}
    (h : I w ∧ ∀ r w', fileAnswers lib closes w (.removeSidecar side suffix) r w' →
      I w' ∧ Q (if r = .error .notFound then .ok () else r) w') :
    Always (fileAnswers lib closes) I Q (removeOne side suffix : CacheM Document Unit).run w := by
  refine ⟨h.1, fun r w' ha => ?_⟩
  have hend := h.2 r w' ha
  rcases r with (_ | message) | done
  · exact hend
  · exact hend
  · exact hend

/-- The sidecars of a side are removed one after another: its log is gone in the end, or it is
still there when one of them could not be removed. -/
theorem removeSqliteSidecars_always (side : Side) (hI : I w)
    (hgone : I (w.put (w.on side).withoutWal side)) :
    Always (fileAnswers lib closes) I
      (fun r w' => (w' = w ∨ w' = w.put (w.on side).withoutWal side) ∧
        (r = .ok () → w' = w.put (w.on side).withoutWal side))
      (removeSqliteSidecars side : CacheM Document Unit).run w := by
  -- The other sidecars hold no pages.
  have hother : ∀ {suffix : String} {w : CacheFiles P}, suffix ≠ "-wal" → I w →
      Always (fileAnswers lib closes) I (fun _ w' => w' = w)
        (removeOne side suffix : CacheM Document Unit).run w := by
    intro suffix w hne hI
    refine removeOne_always ⟨hI, fun r w' ha => ?_⟩
    rcases ha with ⟨rfl, -⟩ | ⟨-, heq, -⟩
    · exact ⟨hI, rfl⟩
    · exact absurd heq hne
  have hrest : ∀ {w : CacheFiles P}, I w → Always (fileAnswers lib closes) I (fun _ w' => w' = w)
      (removeOne side "-shm" >>= fun _ => removeOne side "-journal" >>= fun _ => Pure.pure () :
        CacheM Document Unit).run w := by
    intro w hI
    rw [always_run_bind]
    refine (hother (by decide) hI).mono (fun _ h => h) fun r w₁ _ hw₁ => ?_
    subst hw₁
    cases r with
    | error err => exact ⟨hI, rfl⟩
    | ok _ =>
      rw [always_run_bind]
      refine (hother (by decide) hI).mono (fun _ h => h) fun r w₂ _ hw₂ => ?_
      subst hw₂
      cases r with
      | error err => exact ⟨hI, rfl⟩
      | ok _ => exact ⟨hI, rfl⟩
  have hunfold : (removeSqliteSidecars side : CacheM Document Unit) =
      removeOne side "-wal" >>= fun _ => removeOne side "-shm" >>= fun _ =>
        removeOne side "-journal" >>= fun _ => Pure.pure () := rfl
  rw [hunfold, always_run_bind]
  refine removeOne_always ⟨hI, fun r w' ha => ?_⟩
  rcases ha with ⟨rfl, hmissing, hnever⟩ | ⟨rfl, -, rfl⟩
  · rcases r with (_ | message) | done
    · -- There was no log.
      have hsame : w'.put (w'.on side).withoutWal side = w' := by
        rw [withoutWal_of_none (hmissing rfl rfl), put_on]
      rw [if_pos rfl, hsame]
      exact ⟨hI, (hrest hI).mono (fun _ h => h) fun r w₁ _ hw₁ => ⟨.inl hw₁, fun _ => hw₁⟩⟩
    · rw [if_neg (by simp)]
      exact ⟨hI, hI, .inl rfl, fun h => by cases h⟩
    · exact absurd rfl (hnever rfl)
  · rw [if_neg (by simp)]
    exact ⟨hgone, (hrest hgone).mono (fun _ h => h) fun r w₁ _ hw₁ => ⟨.inr hw₁, fun _ => hw₁⟩⟩

/-- A database is put into place beside which there is no log any more. -/
theorem moveIntoPlace_always {new : Pages P} (hnew : w.temporary.content = some new)
    (hI : ∀ w', w'.target = w.target → I w')
    (hgone : ∀ w', w'.target = w.target.withoutWal → I w')
    (hmoved : ∀ w', w'.target = ⟨some new, none⟩ → I w') :
    Always (fileAnswers lib closes) I (fun r w' => r = .ok () → w'.target = ⟨some new, none⟩)
      (moveIntoPlace : CacheM Document Unit).run w := by
  refine always_attempt.mpr ⟨hI w rfl, fun _ w₁ ha => ?_, fun err w₁ ha => ?_⟩
  · obtain ⟨files, rfl, -, hfiles⟩ := ha
    obtain ⟨hmain, -⟩ := hfiles rfl
    have hmain' : files.main = some new := hmain.trans hnew
    rw [always_run_bind]
    refine (removeSqliteSidecars_always (w := w.put files .temporary) .temporary (hI _ rfl)
      (hI _ rfl)).mono (fun _ h => h) fun r w₂ _ hw₂ => ?_
    have htarget₂ : w₂.target = w.target := by
      rcases hw₂.1 with rfl | rfl <;> rfl
    have hmain₂ : w₂.temporary.main = some new := by
      rcases hw₂.1 with rfl | rfl <;> exact hmain'
    cases r with
    | error err => exact ⟨hI _ htarget₂, fun h => by cases h⟩
    | ok _ =>
      dsimp only
      rw [always_run_bind]
      have hwithout : w₂.target.withoutWal = w.target.withoutWal := by rw [htarget₂]
      refine (removeSqliteSidecars_always .target (hI _ htarget₂)
        (hgone (w₂.put (w₂.on .target).withoutWal .target) hwithout)).mono (fun _ h => h)
        fun r w₃ _ hw₃ => ?_
      cases r with
      | error err =>
        refine ⟨?_, fun h => by cases h⟩
        rcases hw₃.1 with rfl | rfl
        · exact hI _ htarget₂
        · exact hgone _ hwithout
      | ok _ =>
        have htarget₃ := hw₃.2 rfl
        subst htarget₃
        refine always_attempt_end.mpr ⟨hgone _ hwithout, fun r w₄ ha => ?_⟩
        rcases ha with ⟨rfl, hne⟩ | ⟨-, -, rfl⟩
        · exact ⟨hgone _ hwithout, fun h => absurd h hne⟩
        · have hplaced : Files.mk (some new) none =
              { w₂.target.withoutWal with main := w₂.temporary.main } := by
            rw [hmain₂]
            rfl
          exact ⟨hmoved _ hplaced.symm, fun _ => hplaced.symm⟩
  · obtain ⟨files, rfl, -⟩ := ha
    exact ⟨hI _ rfl, fun h => by cases h⟩

/-- What always holds after the sidecars have been removed holds when their removal succeeds. -/
theorem removeSqliteSidecars_ok {side : Side} {f : Unit → CacheM Document B}
    {Q : Except CacheError B → CacheFiles P → Prop}
    (h : Always (fileAnswers lib closes) I Q
      ((removeSqliteSidecars side : CacheM Document Unit) >>= f).run w) :
    Always (fileAnswers lib closes) I Q (f ()).run (w.put (w.on side).withoutWal side) := by
  have hunfold : (removeSqliteSidecars side : CacheM Document Unit) =
      removeOne side "-wal" >>= fun _ => removeOne side "-shm" >>= fun _ =>
        removeOne side "-journal" >>= fun _ => Pure.pure () := rfl
  rw [hunfold, always_run_bind, always_run_bind] at h
  have hwal := h.2 (.ok ()) _ (.inr ⟨rfl, rfl, rfl⟩)
  have hshm := (always_run_bind.mp hwal.2).2 (.error .notFound) _
    (.inl ⟨rfl, fun h => absurd h (by decide), fun h => absurd h (by decide)⟩)
  have hjournal := (always_run_bind.mp hshm.2).2 (.error .notFound) _
    (.inl ⟨rfl, fun h => absurd h (by decide), fun h => absurd h (by decide)⟩)
  exact hjournal.2.2

/-- On the way the cache is without its log, if nothing fails. -/
theorem moveIntoPlace_withoutWal {Q : Except CacheError Unit → CacheFiles P → Prop}
    (h : Always (fileAnswers lib closes) I Q (moveIntoPlace : CacheM Document Unit).run w) :
    ∃ w', w'.target = w.target.withoutWal ∧ I w' := by
  obtain ⟨-, hcheck, -⟩ := always_attempt.mp h
  have hsidecars := hcheck () (w.put ⟨w.temporary.content, none⟩ .temporary)
    ⟨_, rfl, content_whole _, fun _ => ⟨rfl, rfl⟩⟩
  exact ⟨_, rfl, (removeSqliteSidecars_ok (removeSqliteSidecars_ok hsidecars)).now⟩

/-! ### Stale artifacts -/

theorem startsWithChars_length {cs ps : List Char} (h : startsWithChars cs ps = true) :
    ps.length ≤ cs.length := by
  induction ps generalizing cs with
  | nil => exact Nat.zero_le _
  | cons p ps ih =>
    cases cs with
    | nil => cases h
    | cons c cs =>
      have hrest := ih (Bool.and_eq_true_iff.mp h).2
      simpa using hrest

/-- The files of the cache are not among its artifacts. -/
theorem artifact_ne {parsesUuid : String → Bool} {name databaseName : String}
    (h : isSnowOwnedCacheArtifact parsesUuid name databaseName = true) :
    name ≠ databaseName ∧ name ≠ databaseName ++ "-wal" := by
  obtain ⟨operation, hoperation, hmatch⟩ := List.any_eq_true.mp h
  have hlonger : databaseName.toList.length + 4 < name.toList.length := by
    have hstarts : startsWithChars name.toList
        ("." ++ databaseName ++ "." ++ operation ++ "-").toList = true := by
      by_contra hnot
      rw [stripPrefix, if_neg hnot] at hmatch
      cases hmatch
    have hlength := startsWithChars_length hstarts
    have hop : 5 ≤ operation.toList.length := by
      simp only [List.mem_cons, List.not_mem_nil, or_false] at hoperation
      rcases hoperation with rfl | rfl | rfl <;> decide
    simp only [String.toList_append, List.length_append] at hlength
    have hdot : ".".toList.length = 1 := by decide
    have hdash : "-".toList.length = 1 := by decide
    omega
  constructor
  · rintro rfl
    omega
  · rintro rfl
    rw [String.toList_append, List.length_append] at hlonger
    have hwal : "-wal".toList.length = 4 := by decide
    omega

theorem removeStaleCacheArtifacts_always (hI : ∀ w', w'.target = w.target → I w') :
    Always (fileAnswers lib closes) I (fun _ w' => w'.target = w.target)
      (removeStaleCacheArtifacts lib).run w := by
  refine always_attempt.mpr ⟨hI w rfl, fun entries w₁ ha => ?_, fun err w₁ ha => ?_⟩
  · obtain rfl : w₁ = w := ha
    refine always_run_forM hI (fun entry w₂ hw₂ => ?_) entries rfl
    unfold removeIfStale
    split
    · exact ⟨hI _ hw₂, hw₂⟩
    · split
      · exact ⟨hI _ hw₂, hw₂⟩
      · rename_i name hname
        split
        · exact ⟨hI _ hw₂, hw₂⟩
        · exact ⟨hI _ hw₂, hw₂⟩
        · obtain ⟨-, howned⟩ := Option.filter_eq_some_iff.mp hname
          obtain ⟨hne, hneWal⟩ := artifact_ne howned
          refine always_attempt_end.mpr ⟨hI _ hw₂, fun r w₃ ha => ?_⟩
          have htarget : w₃.target = w₁.target := (ha hne hneWal).trans hw₂
          exact ⟨hI _ htarget, htarget⟩
  · obtain rfl : w₁ = w := ha
    exact ⟨hI _ rfl, rfl⟩

/-! ### The three functions -/

theorem resetSteps_always (hI : ∀ w', w'.target = w.target → I w')
    (hgone : lib.format lib.emptyCache = .current → ∀ w', w'.target = w.target.withoutWal → I w')
    (hmoved : ∀ w', w'.target = ⟨some lib.emptyCache, none⟩ → I w') :
    Always (fileAnswers lib closes) I
      (fun r w' => r = .ok () → w'.target = ⟨some lib.emptyCache, none⟩) (resetSteps lib).run w := by
  refine always_attempt.mpr ⟨hI w rfl, fun _ w₁ ha => ?_, fun err w₁ ha => ?_⟩
  swap
  · exact ⟨hI _ ha.1, fun h => by cases h⟩
  obtain ⟨htarget₁, hcontent₁⟩ := ha
  refine always_attempt.mpr ⟨hI _ htarget₁, fun _ w₂ ha => ?_, fun err w₂ ha => ?_⟩
  swap
  · cases ha.1
  obtain ⟨-, htarget₂, hcontent₂, -⟩ := ha
  have htarget := htarget₂.trans htarget₁
  have hcontent := hcontent₂.trans (hcontent₁ rfl)
  refine always_attempt.mpr ⟨hI _ htarget, fun format w₃ ha => ?_, fun err w₃ ha => ?_⟩
  swap
  · obtain ⟨rfl, -⟩ := ha
    exact ⟨hI _ htarget, fun h => by cases h⟩
  obtain ⟨rfl, hformat⟩ := ha
  have hformat' : format = lib.format lib.emptyCache := by
    rw [hformat format rfl, CacheFiles.on, hcontent]
    rfl
  by_cases hcurrent : format ≠ .current
  · rw [if_pos hcurrent]
    exact ⟨hI _ htarget, fun h => by cases h⟩
  · rw [if_neg hcurrent, always_run_bind]
    have hready : lib.format lib.emptyCache = .current := by
      rw [← hformat']
      exact not_not.mp hcurrent
    have hwithout : w₃.target.withoutWal = w.target.withoutWal := by rw [htarget]
    refine (moveIntoPlace_always hcontent (fun w' h => hI w' (h.trans htarget))
      (fun w' h => hgone hready w' (h.trans hwithout)) hmoved).mono (fun _ h => h)
      fun r w₄ hI₄ hw₄ => ?_
    cases r with
    | error err =>
      exact ⟨hI₄, fun h => by cases h⟩
    | ok _ =>
      have htarget₄ := hw₄ rfl
      refine (removeStaleCacheArtifacts_always fun w' h => hmoved w' (h.trans htarget₄)).mono
        (fun _ h => h) fun r w₅ _ hw₅ _ => hw₅.trans htarget₄

/-- What is beside the cache is cleared away. -/
theorem clearAway_always {J : Files P → Prop} (hJ : J w.target) (result : Except CacheError A) :
    Always (fileAnswers lib closes) (fun w' => J w'.target) (fun r _ => r = result) (do
        let _ ← (attempt .removeMain : CacheM Document Unit).run
        let _ ← (removeSqliteSidecars .temporary : CacheM Document Unit).run
        return result) w := by
  refine always_bind.mpr ⟨hJ, fun r w₁ ha => ?_⟩
  have htarget₁ : w₁.target = w.target := by
    rcases ha with ⟨rfl, -⟩ | ⟨-, rfl⟩ <;> rfl
  have hJ₁ : J w₁.target := htarget₁ ▸ hJ
  refine ⟨hJ₁, always_bind.mpr ((removeSqliteSidecars_always (I := fun w' => J w'.target)
    .temporary hJ₁ hJ₁).mono (fun _ h => h) fun r w₂ hJ₂ _ => ⟨hJ₂, rfl⟩)⟩

/-- Nothing is lost with the log of the cache: its pages are in the main file, or that has the new
content already. -/
def LosesNothing (files : Files P) (new : Option (Pages P)) : Prop :=
  files.Settled ∨ files.main = new

theorem losesNothing_iff {files : Files P} {new : Option (Pages P)} :
    files.withoutWal.content = files.content ∨ files.withoutWal.content = new ↔
      LosesNothing files new := by
  rw [content_withoutWal, content_eq_main_iff, LosesNothing]

theorem resetCache_iff : AllOrNothing lib closes (resetCache lib) w (some lib.emptyCache) ↔
    (lib.format lib.emptyCache = .current → LosesNothing w.target (some lib.emptyCache)) := by
  rw [allOrNothing_iff]
  constructor
  · intro h hformat
    -- Everything succeeds, up to where the log of the cache has been removed.
    have hsteps := always_bind.mp ((always_attempt.mp h).2.1 () w rfl)
    have hopened := (always_attempt.mp hsteps).2.1 ()
      ⟨w.target, ⟨some lib.emptyCache, none⟩⟩ ⟨rfl, fun _ => content_whole _⟩
    have hdropped := (always_attempt.mp hopened).2.1 () _ ⟨rfl, rfl, rfl, fun _ => rfl⟩
    have hinspected := (always_attempt.mp hdropped).2.1 .current _ ⟨rfl, fun format hok => by
      rw [← Except.ok.inj hok, ← hformat]
      rfl⟩
    rw [if_neg (not_not.mpr rfl)] at hinspected
    obtain ⟨w', htarget, hI⟩ := moveIntoPlace_withoutWal (always_run_bind.mp hinspected)
    rw [htarget] at hI
    exact losesNothing_iff.mp hI
  · intro hnothing
    refine always_attempt.mpr ⟨.inl rfl, fun _ w₁ ha => ?_, fun err w₁ ha => ?_⟩
    swap
    · obtain rfl : w₁ = w := ha
      exact ⟨.inl rfl, fun _ h => by cases h⟩
    obtain rfl : w₁ = w := ha
    have hsteps : Always (fileAnswers lib closes)
        (fun w' => w'.target.content = w₁.target.content ∨ w'.target.content = some lib.emptyCache)
        (fun r w' => r = .ok () → w'.target = ⟨some lib.emptyCache, none⟩)
        (resetSteps lib).run w₁ := by
      refine resetSteps_always (fun w' h => .inl (by rw [h])) (fun hformat w' h => ?_)
        fun w' h => .inr (by rw [h, content_whole])
      rw [h]
      exact losesNothing_iff.mpr (hnothing hformat)
    refine always_bind.mpr (hsteps.mono (fun _ h => h) fun r w₂ hI₂ hw₂ => ?_)
    cases r with
    | ok _ =>
      refine ⟨hI₂, fun _ _ => ?_⟩
      rw [hw₂ rfl, content_whole]
    | error err =>
      refine (clearAway_always (J := fun files => files.content = w₁.target.content ∨
        files.content = some lib.emptyCache) hI₂ (.error err)).mono (fun _ h => h)
        fun r w₃ _ hr a ha => ?_
      rw [hr] at ha
      cases ha

theorem promoteRebuiltCache_iff :
    AllOrNothing lib closes promoteRebuiltCache w w.temporary.content ↔
      (w.temporary.content.map lib.format = some .current →
        LosesNothing w.target w.temporary.content) := by
  rw [allOrNothing_iff]
  constructor
  · intro h hformat
    have hinspected := (always_attempt.mp h).2.1 .current w ⟨rfl, fun format hok => by
      rw [← Except.ok.inj hok, CacheFiles.on, hformat]
      rfl⟩
    rw [if_neg (not_not.mpr rfl)] at hinspected
    obtain ⟨w', htarget, hI⟩ := moveIntoPlace_withoutWal hinspected
    rw [htarget] at hI
    exact losesNothing_iff.mp hI
  · intro hnothing
    refine always_attempt.mpr ⟨.inl rfl, fun format w₁ ha => ?_, fun err w₁ ha => ?_⟩
    swap
    · obtain ⟨rfl, -⟩ := ha
      exact ⟨.inl rfl, fun _ h => by cases h⟩
    obtain ⟨rfl, hformat⟩ := ha
    by_cases hcurrent : format ≠ .current
    · rw [if_pos hcurrent]
      exact ⟨.inl rfl, fun _ h => by cases h⟩
    rw [if_neg hcurrent]
    have hfound : format = (w₁.temporary.content.map lib.format).getD .absent := hformat format rfl
    rw [not_not.mp hcurrent] at hfound
    cases hnew : w₁.temporary.content with
    | none =>
      rw [hnew] at hfound
      cases hfound
    | some new =>
      rw [hnew] at hfound hnothing
      have hready : (some new).map lib.format = some .current := congrArg some hfound.symm
      refine (moveIntoPlace_always hnew (fun w' h => .inl (by rw [h])) (fun w' h => ?_)
        fun w' h => .inr (by rw [h, content_whole])).mono (fun _ h => h) fun r w₂ _ hw₂ a ha => ?_
      · rw [h]
        exact losesNothing_iff.mpr (hnothing hready)
      · rw [hw₂ ha, content_whole]

/-- The database that is rebuilt from the vault. -/
def rebuiltCache (lib : CacheLib Document P) : Pages P :=
  lib.vault.foldl lib.addDocument lib.emptyCache

theorem rebuildDocuments_always (hI : ∀ w', w'.target = w.target → I w')
    (documents : List Document) {pages : Pages P} (hpages : w.temporary.content = some pages) :
    Always (fileAnswers lib closes) I (fun r w' => w'.target = w.target ∧
        (r = .ok () → w'.temporary.content = some (documents.foldl lib.addDocument pages)))
      (documents.forM fun document => attempt (.rebuildDocument document)).run w := by
  induction documents generalizing w pages with
  | nil => exact ⟨hI w rfl, rfl, fun _ => hpages⟩
  | cons document documents ih =>
    refine always_attempt.mpr ⟨hI w rfl, fun _ w₁ ha => ?_, fun err w₁ ha => ?_⟩
    · obtain ⟨htarget, hcontent⟩ := ha
      have hadded : w₁.temporary.content = some (lib.addDocument pages document) := by
        rw [hcontent rfl, hpages]
        rfl
      have hrest := ih (fun w' h => hI w' (h.trans htarget)) hadded
      exact hrest.mono (fun _ h => h) fun r w₂ _ hw₂ => ⟨hw₂.1.trans htarget, hw₂.2⟩
    · exact ⟨hI _ ha.1, ha.1, fun h => by cases h⟩

/-- What always holds after the documents holds when all of them are taken in. -/
theorem rebuildDocuments_ok {target : Files P} {documents : List Document} {pages : Pages P}
    {f : PUnit → CacheM Document B} {Q : Except CacheError B → CacheFiles P → Prop}
    (h : Always (fileAnswers lib closes) I Q
      ((documents.forM fun document => attempt (.rebuildDocument document)) >>= f).run
      ⟨target, ⟨some pages, none⟩⟩) :
    Always (fileAnswers lib closes) I Q (f ⟨⟩).run
      ⟨target, ⟨some (documents.foldl lib.addDocument pages), none⟩⟩ := by
  induction documents generalizing pages with
  | nil => exact h
  | cons document documents ih =>
    have hadded := (always_run_bind.mp h).2 (.ok ())
      ⟨target, ⟨some (lib.addDocument pages document), none⟩⟩ ⟨rfl, fun _ => by simp⟩
    exact ih (always_run_bind.mpr hadded)

theorem rebuildSteps_always (hI : ∀ w', w'.target = w.target → I w') :
    Always (fileAnswers lib true) I (fun r w' => w'.target = w.target ∧ ∀ n, r = .ok n →
        w'.temporary.main = some (rebuiltCache lib) ∧ lib.format (rebuiltCache lib) = .current)
      (rebuildSteps lib.vault).run w := by
  refine always_attempt.mpr ⟨hI w rfl, fun _ w₁ ha => ?_, fun err w₁ ha => ?_⟩
  swap
  · exact ⟨hI _ ha.1, ha.1, fun n h => by cases h⟩
  obtain ⟨htarget₁, hcontent₁⟩ := ha
  rw [always_run_bind]
  refine (rebuildDocuments_always (fun w' h => hI w' (h.trans htarget₁)) lib.vault
    (hcontent₁ rfl)).mono (fun _ h => h) fun r w₂ hI₂ hw₂ => ?_
  obtain ⟨htarget₂, hcontent₂⟩ := hw₂
  have htarget := htarget₂.trans htarget₁
  cases r with
  | error err => exact ⟨hI₂, htarget, fun n h => by cases h⟩
  | ok _ =>
    refine always_attempt.mpr ⟨hI₂, fun _ w₃ ha => ?_, fun err w₃ ha => ?_⟩
    swap
    · cases ha.1
    obtain ⟨-, htarget₃, hcontent₃, hwal₃⟩ := ha
    have htarget' := htarget₃.trans htarget
    have hcontent' : w₃.temporary.content = some (rebuiltCache lib) :=
      hcontent₃.trans (hcontent₂ rfl)
    have hmain : w₃.temporary.main = some (rebuiltCache lib) := by
      have hfiles : w₃.temporary = ⟨w₃.temporary.main, none⟩ := by rw [← hwal₃ rfl]
      rw [hfiles, content_whole] at hcontent'
      exact hcontent'
    refine always_attempt.mpr ⟨hI _ htarget', fun format w₄ ha => ?_, fun err w₄ ha => ?_⟩
    · obtain ⟨rfl, hformat⟩ := ha
      have hfound : format = lib.format (rebuiltCache lib) := by
        rw [hformat format rfl, CacheFiles.on, hcontent']
        rfl
      by_cases hcurrent : format ≠ .current
      · rw [if_pos hcurrent]
        exact ⟨hI _ htarget', htarget', fun n h => by cases h⟩
      · rw [if_neg hcurrent]
        refine ⟨hI _ htarget', htarget', fun n _ => ⟨hmain, ?_⟩⟩
        rw [← hfound]
        exact not_not.mp hcurrent
    · obtain ⟨rfl, -⟩ := ha
      exact ⟨hI _ htarget', htarget', fun n h => by cases h⟩

theorem rebuildCacheFromVault_iff :
    AllOrNothing lib true rebuildCacheFromVault w (some (rebuiltCache lib)) ↔
      (lib.format (rebuiltCache lib) = .current →
        (Files.mk (some (rebuiltCache lib)) w.target.wal).Settled) := by
  rw [allOrNothing_iff]
  -- After the rename the log of the cache is replayed over the rebuilt main file.
  have hplaced : ∀ main, main = some (rebuiltCache lib) →
      ({ w.target with main := main } : Files P) = ⟨some (rebuiltCache lib), w.target.wal⟩ := by
    rintro main rfl
    rfl
  constructor
  · intro h hformat
    have hscanned := (always_attempt.mp h).2.1 lib.vault w ⟨rfl, fun _ hok =>
      (Except.ok.inj hok).symm⟩
    have hsteps := always_bind.mp ((always_attempt.mp hscanned).2.1 () w rfl)
    have hopened := (always_attempt.mp hsteps).2.1 ()
      ⟨w.target, ⟨some lib.emptyCache, none⟩⟩ ⟨rfl, fun _ => content_whole _⟩
    have hdropped := (always_attempt.mp (rebuildDocuments_ok hopened)).2.1 () _
      ⟨rfl, rfl, rfl, fun _ => rfl⟩
    have hinspected := (always_attempt.mp hdropped).2.1 .current _ ⟨rfl, fun format hok => by
      rw [← Except.ok.inj hok, ← hformat]
      rfl⟩
    rw [if_neg (not_not.mpr rfl)] at hinspected
    have hrenamed := (always_bind.mp hinspected.2).2 (.ok ()) _ (.inr ⟨rfl, by simp, rfl⟩)
    have hend := hrenamed.2.2 _ rfl
    exact content_eq_main_iff.mp hend.symm
  · intro hsettled
    refine always_attempt.mpr ⟨.inl rfl, fun documents w₁ ha => ?_, fun err w₁ ha => ?_⟩
    swap
    · obtain ⟨rfl, -⟩ := ha
      exact ⟨.inl rfl, fun _ h => by cases h⟩
    obtain ⟨rfl, hdocuments⟩ := ha
    obtain rfl := hdocuments documents rfl
    refine always_attempt.mpr ⟨.inl rfl, fun _ w₂ ha => ?_, fun err w₂ ha => ?_⟩
    swap
    · obtain rfl : w₂ = w₁ := ha
      exact ⟨.inl rfl, fun _ h => by cases h⟩
    obtain rfl : w₂ = w₁ := ha
    refine always_bind.mpr ((rebuildSteps_always fun w' h => .inl (by rw [h])).mono (fun _ h => h)
      fun r w₃ hI₃ hw₃ => ?_)
    obtain ⟨htarget, hready⟩ := hw₃
    cases r with
    | error err =>
      refine always_bind.mpr ⟨hI₃, fun r w₄ ha => ?_⟩
      have htarget₄ : w₄.target = w₃.target := by
        rcases ha with ⟨rfl, -⟩ | ⟨-, rfl⟩ <;> rfl
      have hI₄ : w₄.target.content = w₂.target.content := by rw [htarget₄, htarget]
      exact ⟨.inl hI₄, .inl hI₄, fun _ h => by cases h⟩
    | ok n =>
      obtain ⟨hmain, hformat⟩ := hready n rfl
      refine always_bind.mpr ⟨hI₃, fun r w₄ ha => ?_⟩
      rcases ha with ⟨rfl, hne⟩ | ⟨rfl, -, rfl⟩
      · cases r with
        | ok _ => exact absurd rfl hne
        | error err => exact ⟨hI₃, hI₃, fun _ h => by cases h⟩
      · have hnew : ({ w₃.target with main := w₃.temporary.main } : Files P).content =
            some (rebuiltCache lib) := by
          rw [htarget, hplaced _ hmain]
          exact (content_eq_main_iff.mpr (hsettled hformat)).symm
        exact ⟨.inr hnew, .inr hnew, fun _ _ => hnew⟩

end Steps

/-- **When the replacement of the cache is all or nothing.**  The log of the cache may be removed
before the rename if its pages are in the main file, or that has the new content already; and it
may stay there after the rename if its pages are in the new main file.  A database beside the cache
that is not of the current format is not put into place at all. -/
theorem cache_replacement (w : CacheFiles P) :
    (∀ closes, AllOrNothing lib closes (resetCache lib) w (some lib.emptyCache) ↔
      (lib.format lib.emptyCache = .current → LosesNothing w.target (some lib.emptyCache))) ∧
    (∀ closes, AllOrNothing lib closes promoteRebuiltCache w w.temporary.content ↔
      (w.temporary.content.map lib.format = some .current →
        LosesNothing w.target w.temporary.content)) ∧
    (AllOrNothing lib true rebuildCacheFromVault w (some (rebuiltCache lib)) ↔
      (lib.format (rebuiltCache lib) = .current →
        (Files.mk (some (rebuiltCache lib)) w.target.wal).Settled)) :=
  ⟨fun _ => resetCache_iff, fun _ => promoteRebuiltCache_iff, rebuildCacheFromVault_iff⟩

end Functions

/-- A database with one page. -/
def onePage (page : Nat) : Pages Nat := fun n => if n = 1 then some page else none

/-- Databases of one page, and a vault without documents. -/
def onePageLib : CacheLib Unit Nat where
  databaseName := "snow.db"
  parsesUuid := fun _ => true
  emptyCache := onePage 0
  addDocument := fun pages _ => pages
  format := fun _ => .current
  vault := []

/-- A cache whose last page is in its log, and a database staged beside it. -/
def withLog : CacheFiles Nat := ⟨⟨some (onePage 1), some [(1, 2)]⟩, ⟨some (onePage 3), none⟩⟩

theorem withLog_not_all_or_nothing :
    ¬ AllOrNothing onePageLib true (resetCache onePageLib) withLog (some (onePage 0)) ∧
      ¬ AllOrNothing onePageLib true promoteRebuiltCache withLog (some (onePage 3)) ∧
      ¬ AllOrNothing onePageLib true rebuildCacheFromVault withLog (some (onePage 0)) := by
  have hpage : ∀ {page page' : Nat}, onePage page 1 = some page' → page = page' := by
    intro page page' h
    exact Option.some.inj h
  have hsettled : ∀ {page : Nat}, (Files.mk (some (onePage page)) (some [(1, 2)])).Settled →
      page = 2 := fun h => hpage (h _ rfl 1 2 rfl)
  refine ⟨fun h => ?_, fun h => ?_, fun h => ?_⟩
  · rcases resetCache_iff.mp h rfl with h | h
    · cases hsettled h
    · cases hpage (congrFun (Option.some.inj h) 1)
  · have hpromote : AllOrNothing onePageLib true promoteRebuiltCache withLog
        withLog.temporary.content := h
    rcases promoteRebuiltCache_iff.mp hpromote rfl with h | h
    · cases hsettled h
    · cases hpage (congrFun (Option.some.inj h) 1)
  · cases hsettled (rebuildCacheFromVault_iff.mp h rfl)

end SnowAgent.Vault
