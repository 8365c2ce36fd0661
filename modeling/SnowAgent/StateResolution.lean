import SnowAgent.StoryFields

/-! # Resolving a state

A supplied state is matched against the choices in their order, by value or label, and
a choice that speaks of cancelling is passed over.  What is answered is the value of the
choice found, and the plan keeps only that value: the apply step resolves it again, and
finds the first choice that equals it then.
-/
namespace SnowAgent.Story

open Text

/-! ## The first match -/

variable {choices : List StateChoice} (text : String) (choice : StateChoice)

/-- The choice equals a text by value or label, whatever the case and the white space
around them. -/
def StateChoice.equals (choice : StateChoice) (text : String) : Bool :=
  eqIgnoreAsciiCase (trim choice.value) (trim text) ||
    eqIgnoreAsciiCase (trim choice.label) (trim text)

/-- The value a match stands for. -/
def StateChoiceMatch.value : StateChoiceMatch → String
  | .raw value | .label _ value => value

/-- The value a resolution resolves or maps to. -/
def StateResolution.value? : StateResolution → Option String
  | .resolved value | .mapped _ value => some value
  | .omitted | .required .. | .fieldRejected .. => none

/-- The first choice that may be written and equals a text. -/
def firstEqual (choices : List StateChoice) (text : String) : Option StateChoice :=
  choices.find? fun choice => stateChoiceWriteAllowed choice && choice.equals text

theorem matchStateChoice_value :
    (matchStateChoice (trim text) choice).map StateChoiceMatch.value =
      if stateChoiceWriteAllowed choice && choice.equals text then some choice.value else none := by
  rw [matchStateChoice, StateChoice.equals]
  by_cases hallowed : stateChoiceWriteAllowed choice = true
  · by_cases hvalue : eqIgnoreAsciiCase (trim choice.value) (trim text) = true
    · simp [hallowed, hvalue, StateChoiceMatch.value]
    · by_cases hlabel : eqIgnoreAsciiCase (trim choice.label) (trim text) = true
      · simp [hallowed, hvalue, hlabel, StateChoiceMatch.value]
      · simp [hallowed, hvalue, hlabel]
  · simp [hallowed]

theorem findSome?_matchStateChoice (choices : List StateChoice) :
    (choices.findSome? (matchStateChoice (trim text))).map StateChoiceMatch.value =
      (firstEqual choices text).map StateChoice.value := by
  induction choices with
  | nil => rfl
  | cons choice choices ih =>
    have hone := matchStateChoice_value text choice
    rw [firstEqual, List.findSome?_cons, List.find?_cons]
    cases hfound : stateChoiceWriteAllowed choice && choice.equals text with
    | true =>
      rw [hfound, if_pos rfl] at hone
      obtain ⟨m, hm, hvalue⟩ := Option.map_eq_some_iff.mp hone
      rw [hm]
      exact congrArg some hvalue
    | false =>
      rw [hfound, if_neg Bool.false_ne_true, Option.map_eq_none_iff] at hone
      rw [hone]
      exact ih

/-- The alias stands for a choice of the list that may be written. -/
theorem matchStateLabelAlias_mem {supplied : String} {m : StateChoiceMatch}
    (h : matchStateLabelAlias supplied choices = some m) :
    ∃ choice ∈ choices, stateChoiceWriteAllowed choice = true ∧ m.value = choice.value := by
  rw [matchStateLabelAlias] at h
  split at h
  · cases h
  · simp only at h
    split at h
    · cases h
    · rename_i first rest hfound
      split at h
      · cases h
      · obtain rfl := Option.some.inj h
        have hfirst := List.mem_filter.mp (hfound ▸ List.mem_cons_self : first ∈ _)
        rw [Bool.and_eq_true] at hfirst
        exact ⟨first, hfirst.1, hfirst.2.1, rfl⟩

/-- What a text is matched with: the first choice equal to it, or else the alias. -/
theorem matchCachedStateChoice_value (choices : List StateChoice) :
    (matchCachedStateChoice text choices).map StateChoiceMatch.value =
      ((firstEqual choices text).map StateChoice.value).orElse fun _ =>
        (matchStateLabelAlias (trim text) choices).map StateChoiceMatch.value := by
  rw [matchCachedStateChoice, ← findSome?_matchStateChoice]
  show Option.map _ ((choices.findSome? (matchStateChoice (trim text))).orElse fun _ =>
    matchStateLabelAlias (trim text) choices) = _
  generalize matchStateLabelAlias (trim text) choices = found
  cases choices.findSome? (matchStateChoice (trim text)) with
  | none => rfl
  | some m => rfl

/-- What a supplied state resolves or maps to. -/
theorem resolve_value (supplied : Option String) (terminal : Bool) (choices : List StateChoice) :
    (resolveStateFromCachedChoices supplied terminal choices).value? =
      ((supplied.map trim).filter (· ≠ "")).bind fun text =>
        (matchCachedStateChoice text choices).map StateChoiceMatch.value := by
  rw [resolveStateFromCachedChoices]
  cases (supplied.map trim).filter (· ≠ "") with
  | none => rfl
  | some text =>
    simp only [Option.bind_some]
    cases matchCachedStateChoice text choices with
    | none =>
      simp only [Option.map_none]
      split <;> rfl
    | some m =>
      cases m with
      | raw value => rfl
      | label label value => rfl

/-! ## What resolving guarantees -/

theorem equals_trim (text : String) : choice.equals (trim text) = choice.equals text := by
  rw [StateChoice.equals, StateChoice.equals, trim_trim]

theorem firstEqual_trim (choices : List StateChoice) (text : String) :
    firstEqual choices (trim text) = firstEqual choices text := by
  simp only [firstEqual, equals_trim]

theorem eqIgnoreAsciiCase_self (s : String) : eqIgnoreAsciiCase s s = true := by
  simp [eqIgnoreAsciiCase]

/-- A text that is not blank resolves to the value of the first choice equal to it. -/
theorem resolve_of_firstEqual {text : String} {first : StateChoice}
    (hfirst : firstEqual choices text = some first) (htext : trim text ≠ "") (terminal : Bool) :
    (resolveStateFromCachedChoices (some text) terminal choices).value? = some first.value := by
  rw [resolve_value, Option.map_some, Option.filter_some, if_pos (by simpa using htext),
    Option.bind_some, matchCachedStateChoice_value, firstEqual_trim, hfirst]
  rfl

/-- A blank text is not resolved. -/
theorem resolve_of_blank {text : String} (htext : trim text = "") (terminal : Bool)
    (choices : List StateChoice) :
    resolveStateFromCachedChoices (some text) terminal choices = .omitted := by
  rw [resolveStateFromCachedChoices, Option.map_some, Option.filter_some,
    if_neg (by simpa using htext)]

/-- Some choice equals the text just when there is a first one. -/
theorem exists_firstEqual {text : String}
    (h : ∃ choice ∈ choices, stateChoiceWriteAllowed choice = true ∧ choice.equals text = true) :
    ∃ first, firstEqual choices text = some first := by
  obtain ⟨choice, hmem, hallowed, hequals⟩ := h
  rw [← Option.isSome_iff_exists, firstEqual, List.find?_isSome]
  exact ⟨choice, hmem, by simp [hallowed, hequals]⟩

/-- The value resolved or mapped to is that of a choice that may be written. -/
theorem resolve_mem {supplied : Option String} {terminal : Bool} {value : String}
    (h : (resolveStateFromCachedChoices supplied terminal choices).value? = some value) :
    ∃ choice ∈ choices, stateChoiceWriteAllowed choice = true ∧ choice.value = value := by
  rw [resolve_value, Option.bind_eq_some_iff] at h
  obtain ⟨text, -, hmatch⟩ := h
  rw [matchCachedStateChoice_value] at hmatch
  cases hfirst : firstEqual choices text with
  | some first =>
    rw [hfirst, Option.map_some, Option.orElse_some] at hmatch
    have hfound := List.find?_some hfirst
    rw [Bool.and_eq_true] at hfound
    exact ⟨first, List.mem_of_find?_eq_some hfirst, hfound.1, Option.some.inj hmatch⟩
  | none =>
    rw [hfirst, Option.map_none, Option.orElse_none] at hmatch
    obtain ⟨m, hm, hvalue⟩ := Option.map_eq_some_iff.mp hmatch
    obtain ⟨choice, hmem, hallowed, hsame⟩ := matchStateLabelAlias_mem hm
    exact ⟨choice, hmem, hallowed, hsame.symm.trans hvalue⟩

/-- **Resolving a state.**  The value answered is that of a choice that may be written; a
text that is not blank is resolved when some choice that may be written equals it; and the
value answered is never refused when it is resolved again, but resolved to the value of the
first choice that equals it, or left out when it is blank. -/
theorem state_resolution_safe (supplied : Option String) (terminal : Bool)
    (choices : List StateChoice) :
    (∀ value, (resolveStateFromCachedChoices supplied terminal choices).value? = some value →
      ∃ choice ∈ choices, stateChoiceWriteAllowed choice = true ∧ choice.value = value) ∧
    (∀ text, supplied = some text → trim text ≠ "" →
      (∃ choice ∈ choices, stateChoiceWriteAllowed choice = true ∧ choice.equals text = true) →
      ∃ first, firstEqual choices text = some first ∧
        (resolveStateFromCachedChoices supplied terminal choices).value? = some first.value) ∧
    ∀ value, (resolveStateFromCachedChoices supplied terminal choices).value? = some value →
      ∀ later : Bool, (trim value = "" ∧
          resolveStateFromCachedChoices (some value) later choices = .omitted) ∨
        ∃ first, firstEqual choices value = some first ∧
          (resolveStateFromCachedChoices (some value) later choices).value? = some first.value := by
  refine ⟨fun value => resolve_mem, ?_, ?_⟩
  · rintro text rfl htext hequal
    obtain ⟨first, hfirst⟩ := exists_firstEqual hequal
    exact ⟨first, hfirst, resolve_of_firstEqual hfirst htext terminal⟩
  · intro value hvalue later
    obtain ⟨choice, hmem, hallowed, rfl⟩ := resolve_mem hvalue
    by_cases hblank : trim choice.value = ""
    · exact .inl ⟨hblank, resolve_of_blank hblank later choices⟩
    · -- the choice the value is of equals it
      have hequals : choice.equals choice.value = true := by
        rw [StateChoice.equals, eqIgnoreAsciiCase_self, Bool.true_or]
      obtain ⟨first, hfirst⟩ := exists_firstEqual ⟨choice, hmem, hallowed, hequals⟩
      exact .inr ⟨first, hfirst, resolve_of_firstEqual hfirst hblank later⟩

/-- "Open" is mapped to its value, which is resolved to itself again. -/
theorem state_resolution_safe_open :
    (∃ choice ∈ [⟨"1", "Open", false⟩, ⟨"8", "Cancelled", true⟩],
      stateChoiceWriteAllowed choice = true ∧ choice.value = "1") ∧
    (∃ first, firstEqual [⟨"1", "Open", false⟩, ⟨"8", "Cancelled", true⟩] " open " = some first ∧
      (resolveStateFromCachedChoices (some " open ") false
        [⟨"1", "Open", false⟩, ⟨"8", "Cancelled", true⟩]).value? = some first.value) ∧
    ((trim "1" = "" ∧ resolveStateFromCachedChoices (some "1") false
        [⟨"1", "Open", false⟩, ⟨"8", "Cancelled", true⟩] = .omitted) ∨
      ∃ first, firstEqual [⟨"1", "Open", false⟩, ⟨"8", "Cancelled", true⟩] "1" = some first ∧
        (resolveStateFromCachedChoices (some "1") false
          [⟨"1", "Open", false⟩, ⟨"8", "Cancelled", true⟩]).value? = some first.value) := by
  have hsafe := state_resolution_safe (some " open ") false
    [⟨"1", "Open", false⟩, ⟨"8", "Cancelled", true⟩]
  have hvalue : (resolveStateFromCachedChoices (some " open ") false
      [⟨"1", "Open", false⟩, ⟨"8", "Cancelled", true⟩]).value? = some "1" := by decide
  exact ⟨hsafe.1 "1" hvalue, hsafe.2.1 " open " rfl (by decide) (by decide),
    hsafe.2.2 "1" hvalue false⟩

/-- Two choices with one value: the value mapped to is also that of a cancelled state.  And a
value that an earlier choice has for its label is resolved to that choice the second time. -/
theorem state_values_collide :
    (resolveStateFromCachedChoices (some "Done") false
        [⟨"8", "Done", true⟩, ⟨"8", "Cancelled", true⟩]).value? = some "8" ∧
      stateChoiceWriteAllowed ⟨"8", "Cancelled", true⟩ = false ∧
      (resolveStateFromCachedChoices (some "Open") false
        [⟨"2", "1", false⟩, ⟨"1", "Open", false⟩]).value? = some "1" ∧
      (resolveStateFromCachedChoices (some "1") false
        [⟨"2", "1", false⟩, ⟨"1", "Open", false⟩]).value? = some "2" ∧
      (resolveStateFromCachedChoices (some " ") false [⟨"", "", false⟩]).value? = none := by
  refine ⟨by decide, by decide, by decide, by decide, by decide⟩

end SnowAgent.Story
