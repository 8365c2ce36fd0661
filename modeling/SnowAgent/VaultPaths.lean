import SnowAgent.LexicalPaths
import SnowAgent.RecordCache

/-! # The files of the vault

Each record has its file below the root of the vault: in a folder for its type, for some types in
a folder of the record or of its parent, under a name made of its number, its `sys_id` or its
display name.  The numbers and `sys_id`s are taken as they come; only display names are slugs.
-/
namespace SnowAgent.Core

open LexicalPaths

/-- `PathBuf::join`. -/
def joinPath (path pushed : String) : String := String.ofList (join path.toList pushed.toList)

/-- `VaultLayout`. -/
structure VaultLayout where
  root : String

namespace VaultLayout

/-! ## Paths -/

/-- `hierarchical_parent_record_path`. -/
def hierarchicalParentRecordPath (root number sysId : String) : String :=
  joinPath (joinPath root number) (fileName number sysId)

/-- `hierarchical_child_record_path`. -/
def hierarchicalChildRecordPath (root number : String) (parent : Option RecordRef)
    (sysId : String) : String :=
  match parent.filter (·.number ≠ "") with
  | some parent => joinPath (joinPath root parent.number) (fileName number sysId)
  | none => joinPath root (fileName number sysId)

variable (layout : VaultLayout)

def incidentsDir : String := joinPath layout.root "incidents"

def changesDir : String := joinPath layout.root "changes"

def requestsDir : String := joinPath layout.root "requests"

def projectsDir : String := joinPath layout.root "projects"

def demandsDir : String := joinPath layout.root "demands"

def storiesDir : String := joinPath layout.root "stories"

def knowledgeDir : String := joinPath (joinPath layout.root "knowledge") "bases"

def approvalsDir : String := joinPath layout.root "approvals"

def privateTasksDir : String := joinPath layout.root "private_tasks"

def unknownRecordsDir : String := joinPath layout.root "unknown"

/-- `knowledge_base_dir`. -/
def knowledgeBaseDir (sysId displayName : String) : String :=
  joinPath layout.knowledgeDir (stableSlug "kb" sysId displayName)

/-- `knowledge_article_path`. -/
def knowledgeArticlePath (knowledgeBase category : Reference) (number sysId : String) : String :=
  joinPath
    (joinPath (layout.knowledgeBaseDir knowledgeBase.sysId knowledgeBase.displayName)
      (stableSlug "cat" category.sysId category.displayName))
    (fileName number sysId)

/-- `knowledge_article_path_from_record`. -/
def knowledgeArticlePathFromRecord (record : CachedRecord) : Option String := do
  let knowledgeBase ← record.references.get "knowledge_base"
  let category ← record.references.get "category"
  return layout.knowledgeArticlePath knowledgeBase category record.number record.sysId

/-- `record_path`. -/
def recordPath (record : CachedRecord) : String :=
  let file := fileName record.number record.sysId
  match record.resourceType with
  | .task => joinPath (joinPath layout.root "tasks") file
  | .incident => joinPath layout.incidentsDir file
  | .change => hierarchicalParentRecordPath layout.changesDir record.number record.sysId
  | .changeTask =>
    hierarchicalChildRecordPath layout.changesDir record.number record.parent record.sysId
  | .request => hierarchicalParentRecordPath layout.requestsDir record.number record.sysId
  | .requestTask =>
    hierarchicalChildRecordPath layout.requestsDir record.number record.parent record.sysId
  | .project => hierarchicalParentRecordPath layout.projectsDir record.number record.sysId
  | .demand => hierarchicalParentRecordPath layout.demandsDir record.number record.sysId
  | .demandTask =>
    hierarchicalChildRecordPath layout.demandsDir record.number record.parent record.sysId
  | .resourcePlan => joinPath (joinPath layout.root "resource_plans") file
  | .story => hierarchicalParentRecordPath layout.storiesDir record.number record.sysId
  | .scrumTask =>
    hierarchicalChildRecordPath layout.storiesDir record.number record.parent record.sysId
  | .timecard => joinPath (joinPath layout.root "timecards") file
  | .knowledge =>
    (layout.knowledgeArticlePathFromRecord record).getD
      (joinPath (joinPath layout.root "knowledge") file)
  | .approval => joinPath layout.approvalsDir file
  | .businessApplication =>
    joinPath (joinPath layout.root "business_applications")
      (stableSlug "business_application" record.sysId (ciDisplayName record) ++ ".md")
  | .server =>
    joinPath (joinPath layout.root "servers")
      (stableSlug "server" record.sysId (ciDisplayName record) ++ ".md")
  | .privateTask => joinPath layout.privateTasksDir file
  | .unknown => joinPath layout.unknownRecordsDir file

/-! ## What is joined to the root -/

variable (record : CachedRecord)

/-- The folder of a parent with a number. -/
def parentParts (parent : Option RecordRef) : List String :=
  ((parent.filter (·.number ≠ "")).map RecordRef.number).toList

/-- The folders of a record. -/
def folderParts (record : CachedRecord) : List String :=
  match record.resourceType with
  | .task => ["tasks"]
  | .incident => ["incidents"]
  | .change => ["changes", record.number]
  | .changeTask => "changes" :: parentParts record.parent
  | .request => ["requests", record.number]
  | .requestTask => "requests" :: parentParts record.parent
  | .project => ["projects", record.number]
  | .demand => ["demands", record.number]
  | .demandTask => "demands" :: parentParts record.parent
  | .resourcePlan => ["resource_plans"]
  | .story => ["stories", record.number]
  | .scrumTask => "stories" :: parentParts record.parent
  | .timecard => ["timecards"]
  | .knowledge =>
    match record.references.get "knowledge_base", record.references.get "category" with
    | some base, some category =>
      ["knowledge", "bases", stableSlug "kb" base.sysId base.displayName,
        stableSlug "cat" category.sysId category.displayName]
    | _, _ => ["knowledge"]
  | .approval => ["approvals"]
  | .businessApplication => ["business_applications"]
  | .server => ["servers"]
  | .privateTask => ["private_tasks"]
  | .unknown => ["unknown"]

/-- The name of a record's file, without its extension. -/
def baseName (record : CachedRecord) : String :=
  match record.resourceType with
  | .businessApplication =>
    stableSlug "business_application" record.sysId (ciDisplayName record)
  | .server => stableSlug "server" record.sysId (ciDisplayName record)
  | _ => if record.number = "" then record.sysId else record.number

/-- The folders and the file of a record. -/
def recordParts (record : CachedRecord) : List String :=
  folderParts record ++ [baseName record ++ ".md"]

theorem hierarchicalChildRecordPath_eq (root number : String) (parent : Option RecordRef)
    (sysId : String) :
    hierarchicalChildRecordPath root number parent sysId =
      (parentParts parent ++ [fileName number sysId]).foldl joinPath root := by
  unfold hierarchicalChildRecordPath parentParts
  cases parent.filter (·.number ≠ "") <;> rfl

theorem recordPath_eq :
    layout.recordPath record = (recordParts record).foldl joinPath layout.root := by
  unfold recordPath recordParts folderParts baseName
  cases record.resourceType with
  | changeTask => exact hierarchicalChildRecordPath_eq _ _ _ _
  | requestTask => exact hierarchicalChildRecordPath_eq _ _ _ _
  | demandTask => exact hierarchicalChildRecordPath_eq _ _ _ _
  | scrumTask => exact hierarchicalChildRecordPath_eq _ _ _ _
  | knowledge =>
    simp only [knowledgeArticlePathFromRecord]
    cases record.references.get "knowledge_base" with
    | none => rfl
    | some base =>
      cases record.references.get "category" with
      | none => rfl
      | some category => rfl
  | _ => rfl

/-! ## Inside the vault -/

/-- Where a path leads. -/
def place (path : String) : Place := resolve path.toList

/-- The components of some parts, one after another. -/
def componentsOf (parts : List String) : List Name :=
  parts.flatMap fun part => components part.toList

/-- **The file of a record is inside the vault.** -/
def Inside (record : CachedRecord) : Prop :=
  Below (place layout.root) (place (layout.recordPath record))

/-- A part that starts at the root of the file system. -/
def Anchored (part : String) : Prop := Absolute part.toList

instance : DecidablePred Anchored := fun part =>
  inferInstanceAs (Decidable (Absolute part.toList))

/-- The last part that is anchored, and those after it. -/
def fromLastAnchored : List String → Option (List String)
  | [] => none
  | part :: rest =>
    match fromLastAnchored rest with
    | some found => some found
    | none => if Anchored part then some (part :: rest) else none

/-- One list of names starts another, longer one. -/
def StartsLonger (start names : List Name) : Prop := start <+: names ∧ start ≠ names

/-- **The texts of a record lead back into the vault.**  Without an anchored part they climb some
directories up, no further than a relative root has them, and go down the same names again; with
one they name the root, which is absolute. -/
def LeadsBack (record : CachedRecord) : Prop :=
  match fromLastAnchored (recordParts record) with
  | none =>
    let way := walk here (componentsOf (recordParts record))
    let names := (place layout.root).names
    ((place layout.root).absolute = true ∨ way.ups ≤ names.length) ∧
      StartsLonger (names.drop (names.length - way.ups)) way.names
  | some parts =>
    (place layout.root).absolute = true ∧
      StartsLonger (place layout.root).names (walk top (componentsOf parts)).names

/-- **The texts of a record never climb**: no part is anchored, and the way through the folders
never leaves the directory it starts in. -/
def NeverClimbs (record : CachedRecord) : Prop :=
  (∀ part ∈ recordParts record, ¬ Anchored part) ∧
    (walk here (componentsOf (recordParts record))).ups = 0

/-! ## The way of a record -/

variable (parts : List String)

theorem toList_foldl (path : String) :
    (parts.foldl joinPath path).toList = (parts.map String.toList).foldl join path.toList := by
  induction parts generalizing path with
  | nil => rfl
  | cons part parts ih =>
    rw [List.foldl_cons, ih, joinPath, String.toList_ofList]
    rfl

theorem componentsOf_eq : componentsOf parts = (parts.map String.toList).flatMap components := by
  rw [componentsOf, List.flatMap_map]

theorem fromLastAnchored_none {parts : List String} (h : fromLastAnchored parts = none) :
    ∀ part ∈ parts, ¬ Anchored part := by
  induction parts with
  | nil => simp
  | cons part rest ih =>
    unfold fromLastAnchored at h
    split at h
    · cases h
    · rename_i hrest
      split at h
      · cases h
      · rename_i hpart
        exact List.forall_mem_cons.mpr ⟨hpart, ih hrest⟩

theorem fromLastAnchored_some {parts found : List String} (h : fromLastAnchored parts = some found) :
    ∃ before start after, parts = before ++ start :: after ∧ found = start :: after ∧
      Anchored start ∧ ∀ part ∈ after, ¬ Anchored part := by
  induction parts with
  | nil => cases h
  | cons part rest ih =>
    unfold fromLastAnchored at h
    split at h
    · rename_i hrest
      cases h
      obtain ⟨before, start, after, rfl, hfound, hstart, hafter⟩ := ih hrest
      exact ⟨part :: before, start, after, rfl, hfound, hstart, hafter⟩
    · rename_i hrest
      split at h
      · rename_i hpart
        cases h
        exact ⟨[], part, rest, rfl, rfl, hpart, fromLastAnchored_none hrest⟩
      · cases h

/-- Where relative parts lead. -/
theorem place_of_relative {record : CachedRecord}
    (h : ∀ part ∈ recordParts record, ¬ Anchored part) :
    place (layout.recordPath record) =
      walk (place layout.root) (componentsOf (recordParts record)) := by
  rw [place, recordPath_eq, toList_foldl, componentsOf_eq]
  refine resolve_foldl fun part hpart => ?_
  obtain ⟨text, htext, rfl⟩ := List.mem_map.mp hpart
  exact h text htext

theorem walk_top_ups (names : List Name) : (walk top names).ups = 0 := by
  rw [walk_eq]
  rfl

theorem place_ups_of_absolute {path : String} (h : (place path).absolute = true) :
    (place path).ups = 0 := by
  unfold place resolve at h ⊢
  split at h
  · rename_i habsolute
    rw [if_pos habsolute]
    exact walk_top_ups _
  · rw [walk_absolute] at h
    cases h

/-- **The file of a record is inside the vault exactly when its texts lead back.** -/
theorem inside_iff : layout.Inside record ↔ layout.LeadsBack record := by
  unfold Inside LeadsBack
  rcases hanchored : fromLastAnchored (recordParts record) with _ | parts
  · rw [place_of_relative layout (fromLastAnchored_none hanchored), below_walk_iff]
    rfl
  · obtain ⟨before, start, after, hsplit, rfl, hstart, hafter⟩ := fromLastAnchored_some hanchored
    have hplace : place (layout.recordPath record) = walk top (componentsOf (start :: after)) := by
      rw [place, recordPath_eq, toList_foldl, componentsOf_eq, hsplit, List.map_append,
        List.map_cons]
      refine resolve_foldl_absolute hstart fun part hpart => ?_
      obtain ⟨text, htext, rfl⟩ := List.mem_map.mp hpart
      exact hafter text htext
    rw [hplace, Below, walk_absolute, walk_top_ups]
    constructor
    · rintro ⟨habsolute, -, hnames⟩
      exact ⟨habsolute.symm, hnames⟩
    · rintro ⟨habsolute, hnames⟩
      exact ⟨habsolute.symm, (place_ups_of_absolute habsolute).symm, hnames⟩

/-- The way of a record ends with a name. -/
theorem way_names_ne_nil (start : Place) :
    (walk start (componentsOf (recordParts record))).names ≠ [] := by
  obtain ⟨names, name, hlast⟩ : ∃ names name,
      components ((baseName record).toList ++ ".md".toList) = names ++ [name ++ ".md".toList] :=
    components_append_text (by decide) (by decide) _
  have hparts : componentsOf (recordParts record) =
      (componentsOf (folderParts record) ++ names) ++ [name ++ ".md".toList] := by
    rw [componentsOf, recordParts, List.flatMap_append, List.flatMap_singleton,
      String.toList_append, hlast, List.append_assoc]
    rfl
  rw [hparts]
  refine walk_names_ne_nil (fun hup => ?_) start
  have hlength := congrArg List.length hup
  rw [List.length_append, show ".md".toList.length = 3 by decide,
    show up.length = 2 from rfl] at hlength
  omega

/-- **A record's file is inside every vault exactly when its texts never climb.** -/
theorem inside_every_iff :
    (∀ layout : VaultLayout, layout.Inside record) ↔ NeverClimbs record := by
  constructor
  · intro h
    have hback := ((⟨""⟩ : VaultLayout).inside_iff record).mp (h ⟨""⟩)
    have hplace : place "" = here := by decide
    unfold LeadsBack at hback
    rcases hanchored : fromLastAnchored (recordParts record) with _ | parts
    · rw [hanchored] at hback
      refine ⟨fromLastAnchored_none hanchored, ?_⟩
      obtain ⟨hups, -⟩ := hback
      rw [hplace] at hups
      exact Nat.eq_zero_of_le_zero (hups.resolve_left (by decide))
    · rw [hanchored] at hback
      rw [hplace] at hback
      cases hback.1
  · rintro ⟨hanchored, hups⟩ layout
    unfold Inside
    rw [place_of_relative layout hanchored]
    exact below_walk _ hups (way_names_ne_nil record here)

end VaultLayout

/-- **When the vault keeps its files**: the file of a record is inside a vault exactly when the
texts of the record lead back into it, and inside every vault exactly when they never climb. -/
theorem vault_paths_inside_iff (layout : VaultLayout) (record : CachedRecord) :
    (layout.Inside record ↔ layout.LeadsBack record) ∧
      ((∀ layout : VaultLayout, layout.Inside record) ↔ VaultLayout.NeverClimbs record) :=
  ⟨VaultLayout.inside_iff layout record, VaultLayout.inside_every_iff record⟩

/-- An Incident with a number. -/
def numberedIncident (number : String) : CachedRecord where
  sysId := "id-1"
  number := number
  table := "incident"
  resourceType := .incident
  state := ""
  shortDescription := ""
  description := ""
  fields := []
  parent := none
  references := []
  syncedAt := newYear

example : (⟨"/srv/vault"⟩ : VaultLayout).recordPath (numberedIncident "INC1") =
    "/srv/vault/incidents/INC1.md" := by decide

/-- **A number with dots leads out of the vault.** -/
theorem dotted_number_leaves_vault :
    ¬ ∀ (layout : VaultLayout) record, layout.Inside record := by
  intro h
  have hinside := h ⟨"/srv/vault"⟩ (numberedIncident "../../x")
  have hpath : (⟨"/srv/vault"⟩ : VaultLayout).recordPath (numberedIncident "../../x") =
      "/srv/vault/incidents/../../x.md" := by decide
  unfold VaultLayout.Inside at hinside
  rw [hpath] at hinside
  revert hinside
  decide

end SnowAgent.Core
