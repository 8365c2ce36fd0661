import Mathlib.Data.Rat.Defs
import SnowAgent.SearchMatches
import SnowAgent.SearchTerms
import SnowAgent.StoryAudit

/-! # Enrichment

The tags, keywords and aliases that are derived of a record.  Each is made of words, but not joined
in the same way: those of an alias by a space, those of a state's tag by a hyphen, and those of the
tag of a resource type by an underscore.
-/
namespace SnowAgent.Core

open Json Text Knowledge CachePolicy StoryWrite

/-! ## What is derived -/

/-- `EnrichmentOrigin`. -/
inductive EnrichmentOrigin where
  | resourceType
  | state
  | title
  | description
  | workNotes
  | comments
  | reference
  | number
  | token
deriving DecidableEq

/-- `enrichment_origin_label`. -/
def enrichmentOriginLabel : EnrichmentOrigin → String
  | .resourceType => "resource_type"
  | .state => "state"
  | .title => "title"
  | .description => "description"
  | .workNotes => "work_notes"
  | .comments => "comments"
  | .reference => "reference"
  | .number => "number"
  | .token => "token"

/-- `TagCandidate`, `KeywordCandidate` and `AliasCandidate`, which have the same fields. -/
structure EnrichmentCandidate where
  value : String
  origin : EnrichmentOrigin
  weight : ℚ

/-- `SnowRecord`, with the journals that an enrichment reads. -/
structure JournaledRecord extends SearchedRecord where
  comments : List String

/-- `TAG_TERMS`. -/
def tagTerms : List (String × String) :=
  [("vpn", "vpn"), ("network", "network"), ("dns", "dns"), ("server", "server"),
    ("database", "database"), ("access", "access"), ("login", "login"),
    ("authentication", "authentication"), ("change", "change"), ("incident", "incident"),
    ("approval", "approval"), ("runbook", "runbook"), ("outage", "outage"), ("deploy", "deploy"),
    ("patch", "patch")]

/-- `STOPWORDS`. -/
def stopwords : List String :=
  ["the", "and", "for", "with", "from", "that", "this", "your", "you", "are", "was", "were", "has",
    "have", "had", "not", "but", "can", "all", "any", "can", "into", "out", "our", "over", "under",
    "when", "where", "what", "why", "how", "please", "update", "updated", "users", "user", "team",
    "issue", "issues", "work", "note", "notes"]

/-- A piece of a text, as a token. -/
def tokenOf (piece : List Char) : String := toAsciiLowercase (trim (String.ofList piece))

/-- `tokenize_text`. -/
def tokenizeText (value : String) : List String :=
  sortedTexts (((value.toList.splitOnP fun c => !c.isAlphanum).map tokenOf).filter fun token =>
    decide (3 ≤ token.utf8ByteSize) && !stopwords.contains token)

/-- `extract_domain_terms_from_text`. -/
def extractDomainTermsFromText (text : String) : List String :=
  sortedTexts ((tokenizeText text).filterMap fun token =>
    (tagTerms.find? fun term => token == term.1).map Prod.snd)

/-- `extract_domain_terms`. -/
def extractDomainTerms (record : JournaledRecord) : List String :=
  extractDomainTermsFromText (record.comments.foldl (fun text body => text ++ " " ++ body)
    (record.workNotes.foldl (fun text body => text ++ " " ++ body)
      (record.shortDescription ++ " " ++ record.description)))

/-- `normalize_tag`. -/
def normalizeTag (value : String) : String :=
  String.ofList ((normalizePhrase value).toList.map fun c => if c = ' ' then '-' else c)

/-- `resource_type_tag`. -/
def resourceTypeTag : ResourceType → String
  | .task => "task"
  | .incident => "incident"
  | .change => "change"
  | .changeTask => "change_task"
  | .request => "request"
  | .requestTask => "request_task"
  | .project => "project"
  | .demand => "demand"
  | .demandTask => "demand_task"
  | .resourcePlan => "resource_plan"
  | .story => "story"
  | .scrumTask => "scrum_task"
  | .timecard => "timecard"
  | .knowledge => "knowledge"
  | .approval => "approval"
  | .businessApplication => "business_application"
  | .server => "server"
  | .privateTask => "private_task"
  | .unknown => "unknown"

/-- `acronym`. -/
def acronym (value : String) : String :=
  let chars := (splitWhitespace (normalizePhrase value)).filterMap fun token =>
    if token.utf8ByteSize < 3 then none else token.toList.head?
  if 3 ≤ chars.length ∧ chars.length ≤ 12 then String.ofList chars else ""

/-- `insert_tag` and `insert_alias`. -/
def insertCandidate (origin : EnrichmentOrigin) (weight : ℚ)
    (seen : StringMap EnrichmentCandidate) (value : String) : StringMap EnrichmentCandidate :=
  if value = "" then seen
  else
    match seen.get value with
    | some _ => seen
    | none => insertKey value ⟨value, origin, weight⟩ seen

/-- `accumulate_text`. -/
def accumulateText (origin : EnrichmentOrigin) (weight : ℚ)
    (weights : StringMap (EnrichmentOrigin × ℚ)) (text : String) :
    StringMap (EnrichmentOrigin × ℚ) :=
  (tokenizeText text).foldl (fun weights token =>
    let entry := (weights.get token).getD (origin, 0)
    insertKey token (entry.1, entry.2 + weight) weights) weights

/-- The names that a record shows for its references. -/
def referenceNames (record : JournaledRecord) : List String :=
  record.references.map fun entry => entry.2.displayName

/-- `derive_tags`. -/
def deriveTags (record : JournaledRecord) : List EnrichmentCandidate :=
  let seen := insertCandidate .resourceType 1 [] (resourceTypeTag record.resourceType)
  let seen := insertCandidate .state (4 / 5) seen (normalizeTag record.state)
  let seen := (extractDomainTerms record).foldl (insertCandidate .token (9 / 10)) seen
  let seen := (referenceNames record).foldl (fun seen name =>
    (extractDomainTermsFromText name).foldl (insertCandidate .reference (3 / 4)) seen) seen
  seen.map Prod.snd

/-- `derive_keywords`. -/
def deriveKeywords (record : JournaledRecord) : List EnrichmentCandidate :=
  let weights := accumulateText .title 2 [] record.shortDescription
  let weights := accumulateText .description (3 / 2) weights record.description
  let weights := record.workNotes.foldl (accumulateText .workNotes 1) weights
  let weights := record.comments.foldl (accumulateText .comments 1) weights
  let weights := (referenceNames record).foldl (accumulateText .reference (3 / 4)) weights
  weights.map fun entry => ⟨entry.1, entry.2.1, entry.2.2⟩

/-- `derive_aliases`. -/
def deriveAliases (record : JournaledRecord) : List EnrichmentCandidate :=
  let seen := insertCandidate .number 2 [] (normalizePhrase record.number)
  let seen := insertCandidate .title 1 seen (normalizePhrase record.shortDescription)
  let seen := insertCandidate .title (17 / 20) seen (acronym record.shortDescription)
  let seen := (referenceNames record).foldl (fun seen name =>
    insertCandidate .reference (3 / 4) seen (normalizePhrase name)) seen
  seen.map Prod.snd

/-- `EnrichmentMatch`. -/
inductive EnrichmentMatch where
  | tag
  | keyword
  | alias
deriving DecidableEq

/-- The part of `derive_bundle` of a kind. -/
def EnrichmentMatch.derive : EnrichmentMatch → JournaledRecord → List EnrichmentCandidate
  | .tag => deriveTags
  | .keyword => deriveKeywords
  | .alias => deriveAliases

/-- What joins the words of a value of a kind. -/
def EnrichmentMatch.seps : EnrichmentMatch → List Char
  | .tag => ['-', '_']
  | .keyword => [' ']
  | .alias => [' ']

/-! ## What the values are made of -/

variable {value : String} {sep : Char} {kind : EnrichmentMatch} {ws : List (List Char)}

/-- Words that some character joins. -/
def Joined (sep : Char) (value : String) : Prop :=
  ∃ ws : List (List Char), ws ≠ [] ∧ (∀ w ∈ ws, IsWord w) ∧ value = String.ofList (joinWords sep ws)

/-- **A value of a kind**: words that one of the kind's characters joins. -/
def EnrichmentMatch.IsValue (kind : EnrichmentMatch) (value : String) : Prop :=
  ∃ sep ∈ kind.seps, Joined sep value

theorem joined_word {w : List Char} (h : IsWord w) : Joined sep (String.ofList w) := by
  refine ⟨[w], List.cons_ne_nil _ _, fun v hv => ?_, by rw [joinWords_singleton]⟩
  rwa [List.mem_singleton.mp hv]

theorem seps_not_alphanum : ∀ sep ∈ kind.seps, sep.isAlphanum = false := by
  cases kind <;> exact forall_mem_of_all (by decide)

theorem mem_sortedTexts {xs : List String} {x : String} : x ∈ sortedTexts xs ↔ x ∈ xs := by
  rw [sortedTexts, List.mem_dedup, List.mem_insertionSort]

theorem phrase_joined (h : normalizePhrase value ≠ "") : Joined ' ' (normalizePhrase value) := by
  obtain ⟨ws, hws, -, hphrase⟩ := exists_words value
  refine ⟨ws, ?_, hws, hphrase⟩
  rintro rfl
  exact h hphrase

theorem map_joinWords (hws : ∀ w ∈ ws, IsWord w) :
    ((joinWords ' ' ws).map fun c => if c = ' ' then '-' else c) = joinWords '-' ws := by
  have hword : ∀ w : List Char, IsWord w → (w.map fun c => if c = ' ' then '-' else c) = w := by
    intro w hw
    refine (List.map_congr_left fun c hc => ?_).trans (List.map_id' w)
    rw [if_neg]
    rintro rfl
    exact absurd (hw.chars ' ' hc).1 (by decide)
  induction ws with
  | nil => rfl
  | cons w ws ih =>
    have hw := hword w (hws w List.mem_cons_self)
    by_cases hrest : ws = []
    · subst hrest
      rw [joinWords_singleton, joinWords_singleton, hw]
    · rw [joinWords_cons hrest, joinWords_cons hrest, List.map_append, List.map_cons, hw,
        ih fun v hv => hws v (List.mem_cons_of_mem _ hv), if_pos rfl]

theorem normalizeTag_joined (h : normalizeTag value ≠ "") : Joined '-' (normalizeTag value) := by
  obtain ⟨ws, hws, -, hphrase⟩ := exists_words value
  have htag : normalizeTag value = String.ofList (joinWords '-' ws) := by
    rw [normalizeTag, hphrase, String.toList_ofList, map_joinWords hws]
  refine ⟨ws, ?_, hws, htag⟩
  rintro rfl
  exact h htag

theorem joined_of_split (ws : List (List Char)) (hvalue : value = String.ofList (joinWords sep ws))
    (hne : ws ≠ [])
    (hws : (ws.all fun w => decide (w ≠ []) && w.all fun c =>
      c.isAlphanum && decide (lowerChar c = c)) = true) : Joined sep value := by
  refine ⟨ws, hne, fun w hw => ?_, hvalue⟩
  have hw' := List.all_eq_true.mp hws w hw
  rw [Bool.and_eq_true, decide_eq_true_eq, List.all_eq_true] at hw'
  refine ⟨hw'.1, fun c hc => ?_⟩
  have hc' := hw'.2 c hc
  rwa [Bool.and_eq_true, decide_eq_true_eq] at hc'

theorem resourceTypeTag_joined (resourceType : ResourceType) :
    Joined '_' (resourceTypeTag resourceType) :=
  joined_of_split ((resourceTypeTag resourceType).toList.splitOn '_')
    (by cases resourceType <;> decide +kernel) (by cases resourceType <;> decide +kernel)
    (by cases resourceType <;> decide +kernel)

/-- A term is a word. -/
theorem term_joined {text term : String} (h : term ∈ extractDomainTermsFromText text) :
    Joined sep term := by
  rw [extractDomainTermsFromText, mem_sortedTexts] at h
  obtain ⟨token, -, hterm⟩ := List.mem_filterMap.mp h
  obtain ⟨entry, hentry, rfl⟩ := Option.map_eq_some_iff.mp hterm
  have hmem := List.mem_of_find?_eq_some hentry
  have hall : ∀ entry ∈ tagTerms, ([entry.2.toList].all fun w => decide (w ≠ []) &&
      w.all fun c => c.isAlphanum && decide (lowerChar c = c)) = true :=
    forall_mem_of_all (by decide +kernel)
  refine joined_of_split [entry.2.toList] ?_ (List.cons_ne_nil _ _) (hall entry hmem)
  rw [joinWords_singleton, String.ofList_toList]

/-- No piece has an element at which the list is split. -/
theorem splitOnP_pieces {α : Type} {p : α → Bool} {l piece : List α}
    (h : piece ∈ l.splitOnP p) : ∀ x ∈ piece, p x = false := by
  induction l generalizing piece with
  | nil =>
    obtain rfl := List.mem_singleton.mp h
    exact fun x hx => by cases hx
  | cons y l ih =>
    rw [List.splitOnP_cons_eq_if_modifyHead] at h
    by_cases hy : p y = true
    · rw [if_pos hy] at h
      rcases List.mem_cons.mp h with rfl | h
      · exact fun x hx => by cases hx
      · exact ih h
    · rw [if_neg hy] at h
      cases hrest : l.splitOnP p with
      | nil => exact absurd hrest (List.splitOnP_ne_nil _ _)
      | cons first others =>
        rw [hrest] at h ih
        rcases List.mem_cons.mp h with rfl | h
        · intro x hx
          rcases List.mem_cons.mp hx with rfl | hx
          · exact Bool.eq_false_iff.mpr hy
          · exact ih List.mem_cons_self x hx
        · exact ih (List.mem_cons_of_mem _ h)

/-- A token is a word. -/
theorem token_joined {value token : String} (h : token ∈ tokenizeText value) :
    Joined sep token := by
  rw [tokenizeText, mem_sortedTexts] at h
  obtain ⟨hpiece, hlong⟩ := List.mem_filter.mp h
  rw [Bool.and_eq_true, decide_eq_true_eq] at hlong
  obtain ⟨piece, hmem, rfl⟩ := List.mem_map.mp hpiece
  refine joined_word ⟨fun hnil => ?_, fun c hc => ?_⟩
  · have hempty : tokenOf piece = "" := by
      rw [tokenOf, toAsciiLowercase, hnil]
    rw [hempty] at hlong
    exact absurd hlong.1 (by decide)
  · obtain ⟨d, hd, rfl⟩ := List.mem_map.mp hc
    rw [trim, String.toList_ofList, String.toList_ofList] at hd
    have hd' : d ∈ piece := Trimming.mem_of_mem_trimmed hd
    exact isTermChar_lowerChar (by simpa using splitOnP_pieces hmem d hd')

theorem filterMap_chars {tokens : List String} {f : String → Option Char} {p : Char → Prop}
    (h : ∀ token ∈ tokens, ∀ c ∈ f token, p c) : ∀ c ∈ tokens.filterMap f, p c := by
  intro c hc
  obtain ⟨token, htoken, hfound⟩ := List.mem_filterMap.mp hc
  exact h token htoken c hfound

/-- An acronym is a word. -/
theorem acronym_joined (h : acronym value ≠ "") : Joined sep (acronym value) := by
  obtain ⟨ws, hws, hwords, -⟩ := exists_words value
  unfold acronym at h ⊢
  dsimp only at h ⊢
  rw [hwords] at h ⊢
  split_ifs at h ⊢ with hlength
  · refine joined_word ⟨fun hnil => ?_, filterMap_chars fun token htoken c hc => ?_⟩
    · rw [hnil] at hlength
      simp at hlength
    · obtain ⟨w, hw, rfl⟩ := List.mem_map.mp htoken
      rw [String.toList_ofList] at hc
      by_cases hshort : (String.ofList w).utf8ByteSize < 3
      · rw [if_pos hshort] at hc
        cases hc
      · rw [if_neg hshort] at hc
        exact (hws w hw).chars c (List.mem_of_mem_head? hc)
  · exact absurd rfl h

/-! ## The values of a record -/

section

variable {P : String → Prop} {m : StringMap EnrichmentCandidate} {origin : EnrichmentOrigin}

theorem insertCandidate_values {weight : ℚ} (hm : ∀ entry ∈ m, P entry.2.value)
    (hvalue : value ≠ "" → P value) :
    ∀ entry ∈ insertCandidate origin weight m value, P entry.2.value := by
  unfold insertCandidate
  by_cases hempty : value = ""
  · rwa [if_pos hempty]
  · rw [if_neg hempty]
    cases m.get value with
    | some _ => exact hm
    | none =>
      intro entry hentry
      rcases mem_insertKey hentry with rfl | hentry
      · exact hvalue hempty
      · exact hm entry hentry

/-- What holds of the entries of a map holds of them after steps that keep it. -/
theorem foldl_entries {α β : Type} {Q : String × β → Prop} {step : StringMap β → α → StringMap β}
    {xs : List α} (hstep : ∀ x ∈ xs, ∀ m, (∀ entry ∈ m, Q entry) → ∀ entry ∈ step m x, Q entry)
    {m : StringMap β} (hm : ∀ entry ∈ m, Q entry) : ∀ entry ∈ xs.foldl step m, Q entry := by
  induction xs generalizing m with
  | nil => exact hm
  | cons x xs ih =>
    exact ih (fun y hy => hstep y (List.mem_cons_of_mem _ hy)) (hstep x List.mem_cons_self m hm)

theorem accumulateText_keys {weight : ℚ} {text : String}
    {weights : StringMap (EnrichmentOrigin × ℚ)} (hkeys : ∀ entry ∈ weights, Joined ' ' entry.1) :
    ∀ entry ∈ accumulateText origin weight weights text, Joined ' ' entry.1 := by
  refine foldl_entries (Q := fun entry => Joined ' ' entry.1) (fun token htoken m hm => ?_) hkeys
  intro entry hentry
  rcases mem_insertKey hentry with rfl | hentry
  · exact token_joined htoken
  · exact hm entry hentry

end

/-- An entry of a candidate whose value is one of a kind. -/
def HoldsValue (kind : EnrichmentMatch) (entry : String × EnrichmentCandidate) : Prop :=
  kind.IsValue entry.2.value

variable {record : JournaledRecord}

theorem deriveTags_values :
    ∀ candidate ∈ deriveTags record, EnrichmentMatch.tag.IsValue candidate.value := by
  have hhyphen : ∀ {value : String}, Joined '-' value → EnrichmentMatch.tag.IsValue value :=
    fun h => ⟨'-', List.mem_cons_self, h⟩
  intro candidate hcandidate
  obtain ⟨entry, hentry, rfl⟩ := List.mem_map.mp hcandidate
  refine foldl_entries (Q := HoldsValue .tag) (fun name _ m hm => ?_) ?_ entry hentry
  · exact foldl_entries (Q := HoldsValue .tag)
      (fun term hterm m hm => insertCandidate_values hm fun _ => hhyphen (term_joined hterm)) hm
  · refine foldl_entries (Q := HoldsValue .tag)
      (fun term hterm m hm => insertCandidate_values hm fun _ => hhyphen (term_joined hterm)) ?_
    refine insertCandidate_values (insertCandidate_values (fun entry h => by cases h) fun _ => ?_)
      fun hne => hhyphen (normalizeTag_joined hne)
    exact ⟨'_', by simp [EnrichmentMatch.seps], resourceTypeTag_joined _⟩

theorem deriveKeywords_values :
    ∀ candidate ∈ deriveKeywords record, EnrichmentMatch.keyword.IsValue candidate.value := by
  intro candidate hcandidate
  obtain ⟨entry, hentry, rfl⟩ := List.mem_map.mp hcandidate
  refine ⟨' ', List.mem_cons_self, ?_⟩
  refine foldl_entries (Q := fun entry => Joined ' ' entry.1)
    (fun text _ m hm => accumulateText_keys hm) ?_ entry hentry
  refine foldl_entries (Q := fun entry => Joined ' ' entry.1)
    (fun text _ m hm => accumulateText_keys hm) ?_
  refine foldl_entries (Q := fun entry => Joined ' ' entry.1)
    (fun text _ m hm => accumulateText_keys hm) ?_
  exact accumulateText_keys (accumulateText_keys fun entry h => by cases h)

theorem deriveAliases_values :
    ∀ candidate ∈ deriveAliases record, EnrichmentMatch.alias.IsValue candidate.value := by
  have hspace : ∀ {value : String}, Joined ' ' value → EnrichmentMatch.alias.IsValue value :=
    fun h => ⟨' ', List.mem_cons_self, h⟩
  intro candidate hcandidate
  obtain ⟨entry, hentry, rfl⟩ := List.mem_map.mp hcandidate
  refine foldl_entries (Q := HoldsValue .alias)
    (fun name _ m hm => insertCandidate_values hm fun hne => hspace (phrase_joined hne)) ?_ entry
    hentry
  refine insertCandidate_values (insertCandidate_values (insertCandidate_values
    (fun entry h => by cases h) fun hne => ?_) fun hne => ?_) fun hne => ?_
  · exact hspace (phrase_joined hne)
  · exact hspace (phrase_joined hne)
  · exact hspace (acronym_joined hne)

/-- **What is derived of a record is made of words.** -/
theorem derive_values (kind : EnrichmentMatch) :
    ∀ candidate ∈ kind.derive record, kind.IsValue candidate.value := by
  cases kind
  · exact deriveTags_values
  · exact deriveKeywords_values
  · exact deriveAliases_values

/-! ## Values and search terms -/

theorem space_mem_joinWords (hlong : 2 ≤ ws.length) : ' ' ∈ joinWords ' ' ws := by
  cases ws with
  | nil => exact absurd hlong (by simp)
  | cons w ws =>
    have hne : ws ≠ [] := by
      rintro rfl
      simp at hlong
    rw [joinWords_cons hne]
    exact List.mem_append_right _ List.mem_cons_self

theorem space_not_mem_joinWords (hsep : sep ≠ ' ')
    (hws : ∀ w ∈ ws, IsWord w) : ' ' ∉ joinWords sep ws := by
  have hword : ∀ w ∈ ws, ' ' ∉ w := fun w hw hspace =>
    absurd ((hws w hw).chars ' ' hspace).1 (by decide)
  induction ws with
  | nil => exact List.not_mem_nil
  | cons w ws ih =>
    by_cases hrest : ws = []
    · subst hrest
      rw [joinWords_singleton]
      exact hword w List.mem_cons_self
    · rw [joinWords_cons hrest, List.mem_append, List.mem_cons]
      rintro (hspace | hspace | hspace)
      · exact hword w List.mem_cons_self hspace
      · exact hsep hspace.symm
      · exact ih (fun v hv => hws v (List.mem_cons_of_mem _ hv))
          (fun v hv => hword v (List.mem_cons_of_mem _ hv)) hspace

/-- A kind joins words by spaces only, or never. -/
theorem seps_ne_space (hsep : sep ∈ kind.seps)
    (hne : sep ≠ ' ') : ∀ other ∈ kind.seps, other ≠ ' ' := by
  cases kind
  · exact forall_mem_of_all (by decide)
  · exact absurd (List.mem_singleton.mp hsep) hne
  · exact absurd (List.mem_singleton.mp hsep) hne

/-- The search term of a value has the value's words, with spaces between them. -/
theorem EnrichmentMatch.IsValue.term
    (h : kind.IsValue value) : Joined ' ' (normalizeSearchTerm value) := by
  obtain ⟨sep, hsep, ws, hne, hws, rfl⟩ := h
  exact ⟨ws, hne, hws, normalizePhrase_joinWords (seps_not_alphanum sep hsep) hne hws⟩

/-- A value whose search term is a value of the same kind is its search term. -/
theorem EnrichmentMatch.IsValue.self_of_term (h : kind.IsValue value)
    (hterm : kind.IsValue (normalizeSearchTerm value)) :
    normalizeSearchTerm value = value := by
  obtain ⟨sep, hsep, ws, hne, hws, rfl⟩ := h
  have hphrase := normalizePhrase_joinWords (seps_not_alphanum sep hsep) hne hws
  rw [normalizeSearchTerm, hphrase] at hterm ⊢
  by_cases hspace : sep = ' '
  · rw [hspace]
  · obtain ⟨w, rfl⟩ : ∃ w, ws = [w] := by
      by_contra hmany
      have hlong : 2 ≤ ws.length := by
        rcases ws with _ | ⟨w, _ | ⟨w', ws⟩⟩
        · exact absurd rfl hne
        · exact absurd ⟨w, rfl⟩ hmany
        · simp
      obtain ⟨other, hother, ws', -, hws', heq⟩ := hterm
      have hnone := space_not_mem_joinWords (seps_ne_space hsep hspace other hother) hws'
      rw [← String.ofList_injective heq] at hnone
      exact hnone (space_mem_joinWords hlong)
    rw [joinWords_singleton, joinWords_singleton]

end SnowAgent.Core
