import SnowAgent.Letters
import SnowAgent.Replacing

/-! # Redaction by rules

A rule has a marker, which is looked for in any letter case and of which two spellings are replaced:
the marker as it is, and its upper case.
-/
namespace SnowAgent

open Text Replacing

/-- `RedactionRule`. -/
structure RedactionRule where
  name : String
  marker : String
deriving DecidableEq

/-- `RedactionRuleSet`. -/
structure RedactionRuleSet where
  version : String
  rules : List RedactionRule

/-- `RedactionRuleSet::default`. -/
def RedactionRuleSet.default : RedactionRuleSet where
  version := "builtin-v1"
  rules := [⟨"ssn", "ssn"⟩, ⟨"mrn", "mrn"⟩, ⟨"dob", "dob"⟩]

/-- `RuleBasedRedactor`. -/
structure RuleBasedRedactor where
  rules : RedactionRuleSet

/-- `RuleBasedRedactor::default`. -/
def RuleBasedRedactor.default : RuleBasedRedactor := ⟨.default⟩

/-- `RedactionVerdict`. -/
structure RedactionVerdict where
  redacted : String
  matchedRules : List String
deriving DecidableEq

/-- `str::replace` of a pattern that is not empty. -/
def replaceText (s pattern replacement : String) : String :=
  String.ofList (replace pattern.toList replacement.toList s.toList)

theorem replaceText_toList (s pattern replacement : String) :
    (replaceText s pattern replacement).toList =
      replace pattern.toList replacement.toList s.toList :=
  String.toList_ofList

namespace RuleBasedRedactor

/-- One rule of `redact`. -/
def applyRule (input : String) (verdict : RedactionVerdict) (rule : RedactionRule) :
    RedactionVerdict :=
  if contains (toAsciiLowercase input) rule.marker then
    { matchedRules := verdict.matchedRules ++ [rule.name]
      redacted := replaceText (replaceText verdict.redacted rule.marker "[REDACTED]")
        (toAsciiUppercase rule.marker) "[REDACTED]" }
  else verdict

/-- `redact`. -/
def redact (redactor : RuleBasedRedactor) (input : String) : RedactionVerdict :=
  redactor.rules.rules.foldl (applyRule input) ⟨input, []⟩

end RuleBasedRedactor

/-! ## What redaction is for -/

/-- A text is the marker of a rule, in whatever letter case. -/
def Marks (rule : RedactionRule) (v : List Char) : Prop := v.map lowerChar = rule.marker.toList

instance (rule : RedactionRule) (v : List Char) : Decidable (Marks rule v) :=
  inferInstanceAs (Decidable (_ = _))

/-- What a marker is replaced with. -/
def redactedText : List Char := "[REDACTED]".toList

/-- **A text where some markers are redacted**, and all else stays as it is and where it is. -/
inductive Redacts (rules : List RedactionRule) : List Char → List Char → Prop where
  | nil : Redacts rules [] []
  | keep (c : Char) {l r : List Char} (h : Redacts rules l r) : Redacts rules (c :: l) (c :: r)
  | marker {rule : RedactionRule} (hrule : rule ∈ rules) {v l r : List Char} (hv : Marks rule v)
      (h : Redacts rules l r) : Redacts rules (v ++ l) (redactedText ++ r)

/-- **A complete redaction**: no marker is left, nothing but markers is redacted, and the rules that
matched are those whose markers occur. -/
structure CompleteRedaction (rules : List RedactionRule) (input : String)
    (verdict : RedactionVerdict) : Prop where
  absent : ∀ rule ∈ rules, ∀ v, Marks rule v → ¬ v <:+: verdict.redacted.toList
  redacts : Redacts rules input.toList verdict.redacted.toList
  matched : verdict.matchedRules.Nodup ∧ ∀ name, name ∈ verdict.matchedRules ↔
    ∃ rule ∈ rules, rule.name = name ∧ ∃ v, Marks rule v ∧ v <:+: input.toList

/-- Every marker of a text is spelled as it is in its rule, or in upper case throughout. -/
def PlainlySpelled (rules : List RedactionRule) (input : String) : Prop :=
  ∀ rule ∈ rules, ∀ v, Marks rule v → v <:+: input.toList →
    v = rule.marker.toList ∨ v = rule.marker.toList.map upperChar

/-! ## The markers that are built in -/

/-- The rules that are built in. -/
def builtinRules : List RedactionRule := RedactionRuleSet.default.rules

section

variable {rule other : RedactionRule} {v w : List Char}

section

variable (hrule : rule ∈ builtinRules)

include hrule

theorem marker_ne_nil : rule.marker.toList ≠ [] := by
  have hall : ∀ rule ∈ builtinRules, rule.marker.toList ≠ [] := by decide
  exact hall rule hrule

theorem Marks.ne_nil (hv : Marks rule v) : v ≠ [] := by
  rintro rfl
  exact marker_ne_nil hrule hv.symm

/-- A marker has no bracket. -/
theorem Marks.bracket (hv : Marks rule v) : '[' ∉ v := by
  have hall : ∀ rule ∈ builtinRules, lowerChar '[' ∉ rule.marker.toList := by decide
  intro hmem
  refine hall rule hrule ?_
  rw [← show v.map lowerChar = rule.marker.toList from hv]
  exact List.mem_map_of_mem hmem

/-- No marker begins within what a marker is replaced with. -/
theorem Marks.apart_redacted (hv : Marks rule v) :
    Apart redactedText v := by
  have hall : ∀ rule ∈ builtinRules, Apart (redactedText.map lowerChar) rule.marker.toList := by
    decide
  refine Apart.of_map lowerChar ?_
  rw [show v.map lowerChar = rule.marker.toList from hv]
  exact hall rule hrule

/-- Two markers do not overlap. -/
theorem Marks.apart (hother : other ∈ builtinRules)
    (hv : Marks rule v) (hw : Marks other w) (hne : v ≠ w) : Apart v w := by
  by_cases hsame : rule = other
  · have hborder : ∀ rule ∈ builtinRules, ∀ u ∈ rule.marker.toList.tails, u ≠ [] →
        u ≠ rule.marker.toList → ¬ u <+: rule.marker.toList := by
      decide
    rw [← hsame] at hw
    exact Apart.of_same lowerChar hv hw hne (hborder rule hrule)
  · have hall : ∀ rule ∈ builtinRules, ∀ other ∈ builtinRules, rule ≠ other →
        Apart rule.marker.toList other.marker.toList := by
      decide
    refine Apart.of_map lowerChar ?_
    rw [show v.map lowerChar = rule.marker.toList from hv,
      show w.map lowerChar = other.marker.toList from hw]
    exact hall rule hrule other hother hsame

theorem marks_marker : Marks rule rule.marker.toList := by
  have hall : ∀ rule ∈ builtinRules, Marks rule rule.marker.toList := by decide
  exact hall rule hrule

theorem marks_upper :
    Marks rule (toAsciiUppercase rule.marker).toList := by
  have hall : ∀ rule ∈ builtinRules, Marks rule (rule.marker.toList.map upperChar) := by decide
  rw [toAsciiUppercase, String.toList_ofList]
  exact hall rule hrule

end

end

/-! ## One rule -/

namespace RuleBasedRedactor

variable {input : String} {rule other : RedactionRule} {verdict : RedactionVerdict} {v : List Char}

/-- A rule matches if its marker occurs in some letter case. -/
theorem matches_iff : contains (toAsciiLowercase input) rule.marker = true ↔
    ∃ v, Marks rule v ∧ v <:+: input.toList := by
  rw [contains, containsChars_iff, toAsciiLowercase, String.toList_ofList, infix_map_iff]
  rfl

theorem applyRule_of_match (h : contains (toAsciiLowercase input) rule.marker = true) :
    (applyRule input verdict rule).redacted.toList =
      replace (toAsciiUppercase rule.marker).toList redactedText
        (replace rule.marker.toList redactedText verdict.redacted.toList) := by
  have hresult : (applyRule input verdict rule).redacted =
      replaceText (replaceText verdict.redacted rule.marker "[REDACTED]")
        (toAsciiUppercase rule.marker) "[REDACTED]" := by
    rw [applyRule, if_pos h]
  have hinner := replaceText_toList verdict.redacted rule.marker "[REDACTED]"
  rw [hresult, replaceText_toList _ _ "[REDACTED]", hinner]
  rfl

theorem applyRule_of_no_match (h : ¬ contains (toAsciiLowercase input) rule.marker = true) :
    applyRule input verdict rule = verdict := by
  rw [applyRule, if_neg h]

/-- No marker comes up. -/
theorem infix_of_infix_applyRule (hrule : rule ∈ builtinRules) (hother : other ∈ builtinRules)
    (hv : Marks other v) (h : v <:+: (applyRule input verdict rule).redacted.toList) :
    v <:+: verdict.redacted.toList := by
  by_cases hmatch : contains (toAsciiLowercase input) rule.marker = true
  · rw [applyRule_of_match hmatch] at h
    exact infix_of_infix_replace ((marks_marker hrule).ne_nil hrule) rfl (hv.bracket hother)
      (hv.apart_redacted hother) (infix_of_infix_replace ((marks_upper hrule).ne_nil hrule) rfl
        (hv.bracket hother) (hv.apart_redacted hother) h)
  · rwa [applyRule_of_no_match hmatch] at h

/-- A marker that is spelled in another way stays. -/
theorem infix_applyRule (hrule : rule ∈ builtinRules) (hother : other ∈ builtinRules)
    (hv : Marks other v) (hlower : v ≠ rule.marker.toList)
    (hupper : v ≠ (toAsciiUppercase rule.marker).toList) (h : v <:+: verdict.redacted.toList) :
    v <:+: (applyRule input verdict rule).redacted.toList := by
  by_cases hmatch : contains (toAsciiLowercase input) rule.marker = true
  · rw [applyRule_of_match hmatch]
    have hmarker := marks_marker hrule
    have hspelled := marks_upper hrule
    exact infix_replace (hspelled.ne_nil hrule)
      (hspelled.apart hrule hother hv (Ne.symm hupper)) (hv.apart hother hrule hspelled hupper)
      (infix_replace (hmarker.ne_nil hrule) (hmarker.apart hrule hother hv (Ne.symm hlower))
        (hv.apart hother hrule hmarker hlower) h)
  · rwa [applyRule_of_no_match hmatch]

/-- Both spellings of a rule that matches are gone. -/
theorem not_infix_applyRule (hrule : rule ∈ builtinRules)
    (hmatch : contains (toAsciiLowercase input) rule.marker = true)
    (hv : v = rule.marker.toList ∨ v = (toAsciiUppercase rule.marker).toList) :
    ¬ v <:+: (applyRule input verdict rule).redacted.toList := by
  have hmarker := marks_marker hrule
  have hspelled := marks_upper hrule
  rw [applyRule_of_match hmatch]
  rcases hv with rfl | rfl
  · intro h
    exact not_infix_replace (hmarker.ne_nil hrule) rfl (hmarker.bracket hrule)
      (hmarker.apart_redacted hrule) (infix_of_infix_replace (hspelled.ne_nil hrule) rfl
        (hmarker.bracket hrule) (hmarker.apart_redacted hrule) h)
  · exact not_infix_replace (hspelled.ne_nil hrule) rfl (hspelled.bracket hrule)
      (hspelled.apart_redacted hrule)

/-! ## All rules -/

variable {rules : List RedactionRule}

section

variable (hrules : ∀ rule ∈ rules, rule ∈ builtinRules)

include hrules

theorem infix_of_infix_rules (hother : other ∈ builtinRules) (hv : Marks other v)
    (h : v <:+: (rules.foldl (applyRule input) verdict).redacted.toList) :
    v <:+: verdict.redacted.toList := by
  induction rules generalizing verdict with
  | nil => exact h
  | cons rule rules ih =>
    exact infix_of_infix_applyRule (hrules rule List.mem_cons_self) hother hv
      (ih (fun rule hrule => hrules rule (List.mem_cons_of_mem _ hrule)) h)

theorem infix_rules (hother : other ∈ builtinRules)
    (hv : Marks other v) (hspelled : ∀ rule ∈ builtinRules, v ≠ rule.marker.toList ∧
      v ≠ (toAsciiUppercase rule.marker).toList) (h : v <:+: verdict.redacted.toList) :
    v <:+: (rules.foldl (applyRule input) verdict).redacted.toList := by
  induction rules generalizing verdict with
  | nil => exact h
  | cons rule rules ih =>
    have hrule := hrules rule List.mem_cons_self
    exact ih (fun rule hrule => hrules rule (List.mem_cons_of_mem _ hrule))
      (infix_applyRule hrule hother hv (hspelled rule hrule).1 (hspelled rule hrule).2 h)

theorem not_infix_rules (hrule : rule ∈ rules)
    (hmatch : contains (toAsciiLowercase input) rule.marker = true)
    (hv : v = rule.marker.toList ∨ v = (toAsciiUppercase rule.marker).toList) :
    ¬ v <:+: (rules.foldl (applyRule input) verdict).redacted.toList := by
  have hbuiltin := hrules rule hrule
  have hmarks : Marks rule v := by
    rcases hv with rfl | rfl
    · exact marks_marker hbuiltin
    · exact marks_upper hbuiltin
  obtain ⟨before, after, rfl⟩ := List.append_of_mem hrule
  intro h
  rw [List.foldl_append, List.foldl_cons] at h
  exact not_infix_applyRule hbuiltin hmatch hv (infix_of_infix_rules
    (fun rule hmem => hrules rule (List.mem_append_right _ (List.mem_cons_of_mem _ hmem)))
    hbuiltin hmarks h)

end

/-- The rules that match are listed in their order. -/
theorem matchedRules_foldl : (rules.foldl (applyRule input) verdict).matchedRules =
    verdict.matchedRules ++
      (rules.filter fun rule => contains (toAsciiLowercase input) rule.marker).map (·.name) := by
  induction rules generalizing verdict with
  | nil => simp
  | cons rule rules ih =>
    rw [List.foldl_cons, ih]
    by_cases hmatch : contains (toAsciiLowercase input) rule.marker = true
    · rw [List.filter_cons, if_pos hmatch, applyRule, if_pos hmatch, List.map_cons,
        List.append_assoc, List.singleton_append]
    · rw [List.filter_cons, if_neg hmatch, applyRule_of_no_match hmatch]

end RuleBasedRedactor

/-! ## Nothing else changes -/

namespace Redacts

variable {a b c l r u v : List Char} {rule : RedactionRule}

theorem refl (rules : List RedactionRule) (l : List Char) : Redacts rules l l := by
  induction l with
  | nil => exact .nil
  | cons c l ih => exact .keep c ih

/-- What is replaced with the text of a redaction was that text, or a marker. -/
theorem of_replace (hrule : rule ∈ builtinRules) (hv : Marks rule v) (l : List Char) :
    Redacts builtinRules l (replace v redactedText l) := by
  induction l using replace_induction (hv.ne_nil hrule) with
  | nil => exact .nil
  | occurrence l ih =>
    rw [replace_append (hv.ne_nil hrule)]
    exact .marker hrule hv ih
  | other a l hnot ih =>
    rw [replace_of_not_starts hnot]
    exact .keep a ih

/-- A text without a bracket is kept. -/
theorem of_append (hu : '[' ∉ u) (h : Redacts builtinRules a (u ++ l)) :
    ∃ a', a = u ++ a' ∧ Redacts builtinRules a' l := by
  induction u generalizing a with
  | nil => exact ⟨a, rfl, h⟩
  | cons d u ih =>
    rw [List.cons_append] at h
    generalize hwhole : d :: (u ++ l) = whole at h
    rcases h with _ | ⟨e, hrest⟩ | ⟨hrule, hv, hrest⟩
    · cases hwhole
    · obtain ⟨rfl, rfl⟩ := List.cons.inj hwhole
      obtain ⟨a', rfl, ha'⟩ := ih (fun hmem => hu (List.mem_cons_of_mem _ hmem)) hrest
      exact ⟨a', rfl, ha'⟩
    · obtain ⟨rfl, -⟩ := List.cons.inj hwhole
      exact absurd List.mem_cons_self hu

/-- The text of a redaction is kept. -/
theorem append_of (hsuffix : u <:+ redactedText) (h : Redacts builtinRules (u ++ l) c) :
    ∃ c', c = u ++ c' ∧ Redacts builtinRules l c' := by
  induction u generalizing c with
  | nil => exact ⟨c, rfl, h⟩
  | cons d u ih =>
    generalize hwhole : d :: u ++ l = whole at h
    rcases h with _ | ⟨e, hrest⟩ | ⟨hrule, hv, hrest⟩
    · cases hwhole
    · rw [List.cons_append] at hwhole
      obtain ⟨rfl, rfl⟩ := List.cons.inj hwhole
      obtain ⟨c', rfl, hc'⟩ := ih ((List.suffix_cons d u).trans hsuffix) hrest
      exact ⟨c', rfl, hc'⟩
    · rename_i v k m
      have hapart : Apart (d :: u) v := by
        intro x hx hne
        rw [List.mem_tails] at hx
        exact hv.apart_redacted hrule x ((List.mem_tails _ _).mpr (hx.trans hsuffix)) hne
      exact absurd ⟨_, hwhole.symm⟩ (hapart.not_prefix_append (List.cons_ne_nil d u))

/-- Markers that are redacted one after the other are redacted. -/
theorem trans (hab : Redacts builtinRules a b) (hbc : Redacts builtinRules b c) :
    Redacts builtinRules a c := by
  induction hn : a.length using Nat.strong_induction_on generalizing a b c with
  | _ n ih =>
    rcases hab with _ | ⟨d, hkept⟩ | @⟨rule, hrule, v, l, r, hv, hkept⟩
    · exact hbc
    · rename_i l r
      generalize hwhole : d :: r = whole at hbc
      rcases hbc with _ | ⟨e, hrest⟩ | @⟨rule, hrule, v, k, m, hv, hrest⟩
      · cases hwhole
      · obtain ⟨rfl, rfl⟩ := List.cons.inj hwhole
        exact .keep d (ih l.length (by rw [← hn, List.length_cons]; omega) hkept hrest rfl)
      · have hfront : Redacts builtinRules (d :: l) (v ++ k) := hwhole ▸ .keep d hkept
        obtain ⟨a', ha', hkept'⟩ := of_append (hv.bracket hrule) hfront
        have hlength : a'.length < n := by
          have hpos := List.length_pos_iff.mpr (hv.ne_nil hrule)
          rw [← hn, ha', List.length_append]
          omega
        rw [ha']
        exact .marker hrule hv (ih a'.length hlength hkept' hrest rfl)
    · obtain ⟨c', rfl, hc'⟩ := append_of (List.suffix_refl redactedText) hbc
      have hlength : l.length < n := by
        have hpos := List.length_pos_iff.mpr (hv.ne_nil hrule)
        rw [← hn, List.length_append]
        omega
      exact .marker hrule hv (ih l.length hlength hkept hc' rfl)

end Redacts

namespace RuleBasedRedactor

variable {input : String} {rule : RedactionRule} {rules : List RedactionRule}

theorem redacts_applyRule (input : String) (verdict : RedactionVerdict)
    (hrule : rule ∈ builtinRules) :
    Redacts builtinRules verdict.redacted.toList
      (applyRule input verdict rule).redacted.toList := by
  by_cases hmatch : contains (toAsciiLowercase input) rule.marker = true
  · rw [applyRule_of_match hmatch]
    have hlower := Redacts.of_replace hrule (marks_marker hrule) verdict.redacted.toList
    exact hlower.trans (Redacts.of_replace hrule (marks_upper hrule) _)
  · rw [applyRule_of_no_match hmatch]
    exact Redacts.refl _ _

theorem redacts_rules (input : String) (verdict : RedactionVerdict)
    (hrules : ∀ rule ∈ rules, rule ∈ builtinRules) :
    Redacts builtinRules verdict.redacted.toList
      (rules.foldl (applyRule input) verdict).redacted.toList := by
  induction rules generalizing verdict with
  | nil => exact Redacts.refl _ _
  | cons rule rules ih =>
    have hfirst := redacts_applyRule input verdict (hrules rule List.mem_cons_self)
    exact hfirst.trans (ih (applyRule input verdict rule) fun rule hrule =>
      hrules rule (List.mem_cons_of_mem _ hrule))

/-- The rules that matched are those whose markers occur. -/
theorem matched_redact : (default.redact input).matchedRules.Nodup ∧
    ∀ name, name ∈ (default.redact input).matchedRules ↔
      ∃ rule ∈ builtinRules, rule.name = name ∧ ∃ v, Marks rule v ∧ v <:+: input.toList := by
  have hnames : (default.redact input).matchedRules = (builtinRules.filter fun rule =>
      contains (toAsciiLowercase input) rule.marker).map (·.name) := by
    rw [redact, matchedRules_foldl, List.nil_append]
    rfl
  have hnodup : (builtinRules.map (·.name)).Nodup := by decide
  rw [hnames]
  refine ⟨hnodup.sublist (List.filter_sublist.map _), fun name => ?_⟩
  rw [List.mem_map]
  constructor
  · rintro ⟨rule, hrule, rfl⟩
    obtain ⟨hmem, hmatch⟩ := List.mem_filter.mp hrule
    exact ⟨rule, hmem, rfl, matches_iff.mp hmatch⟩
  · rintro ⟨rule, hmem, rfl, hoccurs⟩
    exact ⟨rule, List.mem_filter.mpr ⟨hmem, matches_iff.mpr hoccurs⟩, rfl⟩

/-- **A redaction is complete if and only if every marker of the text is spelled in lower case
throughout or in upper case throughout.** -/
theorem redact_complete_iff (input : String) :
    CompleteRedaction builtinRules input (default.redact input) ↔
      PlainlySpelled builtinRules input := by
  have hself : ∀ rule ∈ builtinRules, rule ∈ builtinRules := fun _ hrule => hrule
  constructor
  · intro hcomplete rule hrule v hv hoccurs
    by_contra hspelled
    rw [not_or] at hspelled
    refine hcomplete.absent rule hrule v hv (infix_rules hself hrule hv ?_ hoccurs)
    intro other hother
    by_cases hsame : rule = other
    · rw [← hsame, toAsciiUppercase, String.toList_ofList]
      exact hspelled
    · have hall : ∀ rule ∈ builtinRules, ∀ other ∈ builtinRules,
          rule.marker.toList = other.marker.toList → rule = other := by
        decide
      have hdiffers : ∀ w, Marks other w → v ≠ w := by
        rintro w hw rfl
        exact hsame (hall rule hrule other hother (hv.symm.trans hw))
      exact ⟨hdiffers _ (marks_marker hother), hdiffers _ (marks_upper hother)⟩
  · intro hspelled
    refine ⟨fun rule hrule v hv hoccurs => ?_, redacts_rules input ⟨input, []⟩ hself,
      matched_redact⟩
    have hbefore : v <:+: input.toList := infix_of_infix_rules hself hrule hv hoccurs
    refine not_infix_rules hself hrule (matches_iff.mpr ⟨v, hv, hbefore⟩) ?_ hoccurs
    rw [toAsciiUppercase, String.toList_ofList]
    exact hspelled rule hrule v hv hbefore

/-- A marker with a capital stays, although its rule is listed as matched. -/
theorem capital_marker_stays : ¬ CompleteRedaction builtinRules "Ssn 1" (default.redact "Ssn 1") ∧
    default.redact "Ssn 1" = ⟨"Ssn 1", ["ssn"]⟩ := by
  have hstays : default.redact "Ssn 1" = ⟨"Ssn 1", ["ssn"]⟩ := by decide +kernel
  refine ⟨fun h => ?_, hstays⟩
  refine h.absent ⟨"ssn", "ssn"⟩ (by decide) ['S', 's', 'n'] (by decide) ?_
  rw [hstays]
  exact ⟨[], [' ', '1'], by decide⟩

end RuleBasedRedactor

end SnowAgent
