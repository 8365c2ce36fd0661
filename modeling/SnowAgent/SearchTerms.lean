import SnowAgent.HybridSearch
import SnowAgent.Letters

/-! # Search terms

A text is searched for by its words: letters and digits in lower case, with one space between two
of them.  Words that any other character joins are read back one by one.
-/
namespace SnowAgent.Core

open Text Knowledge

/-- `normalize_phrase`. -/
def normalizePhrase (value : String) : String :=
  " ".intercalate (splitWhitespace (String.ofList (titleChars value.toList false)))

/-- `normalize_search_term`, whose body is that of `normalize_phrase`. -/
def normalizeSearchTerm (value : String) : String := normalizePhrase value

/-- A letter or digit in lower case. -/
def IsTermChar (c : Char) : Prop := c.isAlphanum = true ∧ lowerChar c = c

/-- A word. -/
structure IsWord (w : List Char) : Prop where
  nonempty : w ≠ []
  chars : ∀ c ∈ w, IsTermChar c

/-- Words with a character between two of them. -/
def joinWords (sep : Char) (ws : List (List Char)) : List Char := [sep].intercalate ws

variable {c : Char}

theorem isAlphanum_toNat (h : c.isAlphanum = true) :
    (48 ≤ c.toNat ∧ c.toNat ≤ 57) ∨ (65 ≤ c.toNat ∧ c.toNat ≤ 90) ∨
      (97 ≤ c.toNat ∧ c.toNat ≤ 122) := by
  have hval : c.val.toNat = c.toNat := rfl
  change (@decide (_ ∧ _) _ || _ && _ || _ && _) = true at h
  simp only [Bool.or_eq_true, Bool.and_eq_true, decide_eq_true_eq, ge_iff_le,
    UInt32.le_iff_toNat_le, hval] at h
  have hupper : 'A'.val.toNat = 65 ∧ 'Z'.val.toNat = 90 := ⟨rfl, rfl⟩
  have hlower : 'a'.val.toNat = 97 ∧ 'z'.val.toNat = 122 := ⟨rfl, rfl⟩
  have hdigit : '0'.val.toNat = 48 ∧ '9'.val.toNat = 57 := ⟨rfl, rfl⟩
  omega

theorem isAlphanum_of_lower (hlow : 97 ≤ c.toNat) (hhigh : c.toNat ≤ 122) :
    c.isAlphanum = true := by
  have hlower : c.isLower = true := by
    show (_ && _) = true
    rw [Bool.and_eq_true, decide_eq_true_eq, decide_eq_true_eq]
    exact ⟨hlow, hhigh⟩
  show (c.isUpper || c.isLower || c.isDigit) = true
  rw [hlower]
  simp

theorem isTermChar_lowerChar (h : c.isAlphanum = true) : IsTermChar (lowerChar c) := by
  refine ⟨?_, lowerChar_lowerChar c⟩
  rcases lowerChar_cases c with heq | ⟨-, hlow, hhigh⟩
  · rwa [heq]
  · exact isAlphanum_of_lower hlow hhigh

theorem IsTermChar.not_whitespace (h : IsTermChar c) : isWhitespace c = false := by
  have hnat := isAlphanum_toNat h.1
  simp only [isWhitespace, Bool.or_eq_false_iff, Bool.and_eq_false_iff, decide_eq_false_iff_not,
    beq_eq_false_iff_ne]
  omega

variable {w : List Char}

theorem IsWord.not_whitespace (h : IsWord w) : ∀ c ∈ w, isWhitespace c = false :=
  fun c hc => (h.chars c hc).not_whitespace

/-! ## What a phrase is made of -/

variable {ws : List (List Char)} {sep : Char}

theorem joinWords_cons (h : ws ≠ []) : joinWords sep (w :: ws) = w ++ sep :: joinWords sep ws := by
  cases ws with
  | nil => exact absurd rfl h
  | cons w' ws => rw [joinWords, List.intercalate_cons_cons, List.append_assoc]; rfl

theorem joinWords_singleton : joinWords sep [w] = w := List.intercalate_singleton

/-- A word is kept. -/
theorem titleChars_word (h : IsWord w) (cs : List Char) (prevSpace : Bool) :
    titleChars (w ++ cs) prevSpace = w ++ titleChars cs false := by
  have hall : ∀ (w : List Char) (prevSpace : Bool), (∀ c ∈ w, IsTermChar c) →
      titleChars (w ++ cs) prevSpace =
        w ++ titleChars cs (if w = [] then prevSpace else false) := by
    intro w
    induction w with
    | nil => exact fun _ _ => rfl
    | cons c w ih =>
      intro prevSpace hchars
      obtain ⟨halnum, hlower⟩ := hchars c List.mem_cons_self
      rw [List.cons_append, titleChars, if_pos halnum, hlower,
        ih false fun d hd => hchars d (List.mem_cons_of_mem _ hd), ite_self,
        if_neg (List.cons_ne_nil _ _), List.cons_append]
  rw [hall w prevSpace h.chars, if_neg h.nonempty]

/-- Words that any character joins become words with a space between two of them. -/
theorem titleChars_joinWords (hsep : sep.isAlphanum = false) (hne : ws ≠ [])
    (hws : ∀ w ∈ ws, IsWord w) (prevSpace : Bool) :
    titleChars (joinWords sep ws) prevSpace = joinWords ' ' ws := by
  induction ws generalizing prevSpace with
  | nil => exact absurd rfl hne
  | cons w ws ih =>
    have hw := hws w List.mem_cons_self
    by_cases hrest : ws = []
    · subst hrest
      have hword := titleChars_word hw [] prevSpace
      rw [List.append_nil] at hword
      rw [joinWords_singleton, joinWords_singleton, hword, titleChars, List.append_nil]
    · rw [joinWords_cons hrest, joinWords_cons hrest, titleChars_word hw, titleChars,
        if_neg (by rw [hsep]; exact Bool.false_ne_true), if_neg Bool.false_ne_true,
        ih hrest (fun v hv => hws v (List.mem_cons_of_mem _ hv)) true]

theorem words_append (h : ∀ c ∈ w, isWhitespace c = false) (cs word : List Char) :
    words (w ++ cs) word = words cs (w.reverse ++ word) := by
  induction w generalizing word with
  | nil => rfl
  | cons c w ih =>
    rw [List.cons_append, words, if_neg (by rw [h c List.mem_cons_self]; exact Bool.false_ne_true),
      ih fun d hd => h d (List.mem_cons_of_mem _ hd), List.reverse_cons, List.append_assoc]
    rfl

/-- Words with a space between two of them are read back. -/
theorem words_joinWords (hws : ∀ w ∈ ws, IsWord w) : words (joinWords ' ' ws) [] = ws := by
  induction ws with
  | nil => rfl
  | cons w ws ih =>
    have hw := hws w List.mem_cons_self
    have hlast : words [] w.reverse = [w] := by
      cases hrev : w.reverse with
      | nil => exact absurd (List.reverse_eq_nil_iff.mp hrev) hw.nonempty
      | cons c cs => rw [words, ← hrev, List.reverse_reverse]
    by_cases hrest : ws = []
    · subst hrest
      have hword := words_append hw.not_whitespace [] []
      rw [List.append_nil, List.append_nil] at hword
      rw [joinWords_singleton, hword, hlast]
    · have hspace : isWhitespace ' ' = true := by decide
      have hword : w.reverse.isEmpty = false := by
        rw [List.isEmpty_reverse]
        exact List.isEmpty_eq_false_iff.mpr hw.nonempty
      rw [joinWords_cons hrest, words_append hw.not_whitespace, List.append_nil, words,
        if_pos hspace, hword, if_neg Bool.false_ne_true, List.reverse_reverse,
        ih fun v hv => hws v (List.mem_cons_of_mem _ hv)]

theorem toList_phrase :
    " ".intercalate (ws.map String.ofList) = String.ofList (joinWords ' ' ws) := by
  have hself : String.toList ∘ String.ofList = id := by
    funext cs
    exact String.toList_ofList
  rw [← String.toList_inj, String.toList_intercalate, List.map_map, hself, List.map_id]
  exact String.toList_ofList.symm

/-- **Words that any character joins are read as the same phrase.** -/
theorem normalizePhrase_joinWords (hsep : sep.isAlphanum = false) (hne : ws ≠ [])
    (hws : ∀ w ∈ ws, IsWord w) :
    normalizePhrase (String.ofList (joinWords sep ws)) = String.ofList (joinWords ' ' ws) := by
  rw [normalizePhrase, String.toList_ofList, titleChars_joinWords hsep hne hws, splitWhitespace,
    String.toList_ofList, words_joinWords hws, toList_phrase]

theorem titleChars_chars {cs : List Char} {prevSpace : Bool}
    (h : c ∈ titleChars cs prevSpace) : IsTermChar c ∨ c = ' ' := by
  induction cs generalizing prevSpace with
  | nil => cases h
  | cons d cs ih =>
    rw [titleChars] at h
    by_cases halnum : d.isAlphanum = true
    · rw [if_pos halnum] at h
      rcases List.mem_cons.mp h with rfl | h
      · exact .inl (isTermChar_lowerChar halnum)
      · exact ih h
    · rw [if_neg halnum] at h
      by_cases hspace : prevSpace = true
      · rw [if_pos hspace] at h
        exact ih h
      · rw [if_neg hspace] at h
        rcases List.mem_cons.mp h with rfl | h
        · exact .inr rfl
        · exact ih h

theorem words_isWord {cs word : List Char} (hcs : ∀ c ∈ cs, IsTermChar c ∨ c = ' ')
    (hword : ∀ c ∈ word, IsTermChar c) : ∀ w ∈ words cs word, IsWord w := by
  have hread : ∀ word : List Char, word ≠ [] → (∀ c ∈ word, IsTermChar c) →
      IsWord word.reverse := by
    intro word hne hchars
    exact ⟨fun h => hne (List.reverse_eq_nil_iff.mp h), fun c hc => hchars c (by simpa using hc)⟩
  induction cs generalizing word with
  | nil =>
    intro w hw
    cases word with
    | nil => cases hw
    | cons c word =>
      obtain rfl := List.mem_singleton.mp hw
      exact hread _ (List.cons_ne_nil _ _) hword
  | cons c cs ih =>
    intro w hw
    have hrest : ∀ d ∈ cs, IsTermChar d ∨ d = ' ' := fun d hd => hcs d (List.mem_cons_of_mem _ hd)
    rw [words] at hw
    by_cases hspace : isWhitespace c = true
    · rw [if_pos hspace] at hw
      have hnone : ∀ d ∈ ([] : List Char), IsTermChar d := fun d hd => by cases hd
      by_cases hempty : word.isEmpty = true
      · rw [if_pos hempty] at hw
        exact ih hrest hnone w hw
      · rw [if_neg hempty] at hw
        rcases List.mem_cons.mp hw with rfl | hw
        · exact hread word (fun h => hempty (List.isEmpty_iff.mpr h)) hword
        · exact ih hrest hnone w hw
    · rw [if_neg hspace] at hw
      have hterm : IsTermChar c := by
        rcases hcs c List.mem_cons_self with hterm | rfl
        · exact hterm
        · exact absurd (by decide) hspace
      refine ih hrest (fun d hd => ?_) w hw
      rcases List.mem_cons.mp hd with rfl | hd
      · exact hterm
      · exact hword d hd

/-- **A phrase is made of words.** -/
theorem exists_words (value : String) : ∃ ws : List (List Char), (∀ w ∈ ws, IsWord w) ∧
    splitWhitespace (normalizePhrase value) = ws.map String.ofList ∧
      normalizePhrase value = String.ofList (joinWords ' ' ws) := by
  have hws : ∀ w ∈ words (titleChars value.toList false) [], IsWord w :=
    words_isWord (fun c hc => titleChars_chars hc) fun c hc => by cases hc
  have hphrase : normalizePhrase value =
      String.ofList (joinWords ' ' (words (titleChars value.toList false) [])) := by
    rw [normalizePhrase, splitWhitespace, String.toList_ofList, toList_phrase]
  refine ⟨_, hws, ?_, hphrase⟩
  rw [hphrase, splitWhitespace, String.toList_ofList, words_joinWords hws]

end SnowAgent.Core
