import SnowAgent.Trimming
import SnowAgent.VaultMarkdown

/-! # The sections of a document

The body of a document is read back section by section.  A line that looks like a heading
ends its section, so that a section whose text has such a line is cut.
-/
namespace SnowAgent.Markdown

open Text TextLines Trimming

/-! ## Lines of a section -/

variable (l : List Char) {line : List Char}

/-- The line starts a section for the reader. -/
def IsHeading (line : List Char) : Prop := "## ".toList <+: line

instance (line : List Char) : Decidable (IsHeading line) :=
  inferInstanceAs (Decidable ("## ".toList <+: line))

/-- The lines a text is written in. -/
def textLines (text : String) : List (List Char) :=
  if trimChars text.toList = [] then ["_(empty)_".toList]
  else (trimEndChars text.toList).splitOn '\n'

/-- The lines of a section. -/
def sectionLines (title text : String) : List (List Char) :=
  ("## ".toList ++ title.toList) :: [] :: (textLines text ++ [[]])

theorem pushSection_eq (title text : String) :
    pushSection title text = unlines (sectionLines title text) := by
  have hblank : "\n\n".toList = ['\n', '\n'] := rfl
  rw [pushSection, sectionLines, textLines, unlines_cons, unlines_cons, unlines_append]
  split
  · simp [unlines]
  · rw [unlines_splitOn, hblank]
    simp

theorem textLines_oneLine (text : String) : ∀ l ∈ textLines text, OneLine l := by
  rw [textLines]
  split
  · simp [OneLine]
  · exact fun l hl => oneLine_of_mem_splitOn hl

/-- A line as it is read, in a file that is read twice over for its line ends. -/
def readLine (line : List Char) : List Char := chomp (chomp line)

theorem readLine_append {start : List Char} (h : '\r' ∉ start) (l : List Char) :
    readLine (start ++ l) = start ++ readLine l := by
  rw [readLine, chomp_append h, chomp_append h, readLine]

theorem afterPrefix_append (start line : List Char) :
    afterPrefix start (start ++ line) = some line := by
  rw [afterPrefix, if_pos (List.isPrefixOf_iff_prefix.mpr (List.prefix_append start line)),
    List.drop_left]

theorem afterPrefix_heading (h : ¬ IsHeading line) : afterPrefix "## ".toList line = none := by
  rw [afterPrefix, if_neg]
  intro hstarts
  exact h (List.isPrefixOf_iff_prefix.mp hstarts)

theorem chomp_starts : chomp l <+: l := by
  rw [chomp]
  split
  · exact List.dropLast_prefix l
  · exact List.prefix_refl l

/-- A heading stays one. -/
theorem isHeading_readLine : IsHeading (readLine line) ↔ IsHeading line := by
  constructor
  · intro h
    exact h.trans ((chomp_starts _).trans (chomp_starts line))
  · rintro ⟨rest, rfl⟩
    rw [readLine_append (by decide)]
    exact List.prefix_append _ _

/-! ## How much a text says -/

variable {cs : List Char}

/-- The number of characters that are no white space. -/
def weight (cs : List Char) : Nat := cs.countP fun c => !isWhitespace c

theorem weight_eq_zero (h : ∀ c ∈ cs, isWhitespace c = true) : weight cs = 0 := by
  rw [weight, List.countP_eq_zero]
  intro c hc
  simp [h c hc]

theorem weight_append (a b : List Char) : weight (a ++ b) = weight a + weight b :=
  List.countP_append

theorem weight_trim (cs : List Char) : weight (trimChars cs) = weight cs := by
  obtain ⟨lead, trail, hcs, hlead, htrail⟩ := exists_trimmed isWhitespace cs
  conv_rhs => rw [hcs]
  rw [weight_append, weight_append, weight_eq_zero hlead, weight_eq_zero htrail, Nat.zero_add,
    Nat.add_zero]
  rfl

theorem weight_chomp : weight (chomp l) = weight l := by
  rw [chomp]
  split
  · rename_i hlast
    have hne : l ≠ [] := by
      rintro rfl
      cases hlast
    have hgetLast : l.getLast hne = '\r' := by
      rw [List.getLast?_eq_getLast_of_ne_nil hne] at hlast
      exact Option.some.inj hlast
    conv_rhs => rw [← List.dropLast_append_getLast hne, hgetLast, weight_append]
    rfl
  · rfl

theorem weight_readLine : weight (readLine l) = weight l := by
  rw [readLine, weight_chomp, weight_chomp]

theorem weight_line (body line : List Char) :
    weight (body ++ line ++ ['\n']) = weight body + weight line := by
  rw [weight_append, weight_append]
  rfl

/-- What the lines say that are no headings. -/
def plainWeight (ls : List (List Char)) : Nat :=
  ((ls.filter fun l => !decide (IsHeading l)).map weight).sum

theorem plainWeight_append (ls ls' : List (List Char)) :
    plainWeight (ls ++ ls') = plainWeight ls + plainWeight ls' := by
  simp [plainWeight]

theorem plainWeight_cons (ls : List (List Char)) :
    plainWeight (l :: ls) = (if IsHeading l then 0 else weight l) + plainWeight ls := by
  by_cases h : IsHeading l
  · simp [plainWeight, h]
  · simp [plainWeight, h]

theorem plainWeight_readLine (ls : List (List Char)) :
    plainWeight (ls.map readLine) = plainWeight ls := by
  induction ls with
  | nil => rfl
  | cons l ls ih =>
    rw [List.map_cons, plainWeight_cons, plainWeight_cons, ih, weight_readLine]
    by_cases h : IsHeading l
    · rw [if_pos (isHeading_readLine.mpr h), if_pos h]
    · rw [if_neg fun hr => h (isHeading_readLine.mp hr), if_neg h]

theorem weight_unlines (ls : List (List Char)) :
    weight (unlines ls) = (ls.map weight).sum := by
  induction ls with
  | nil => rfl
  | cons l ls ih =>
    have hline : weight ('\n' :: unlines ls) = weight (unlines ls) := by
      simp [weight, show isWhitespace '\n' = true from rfl]
    rw [unlines_cons, weight_append, hline, ih, List.map_cons, List.sum_cons]

theorem heading_weight {l : List Char} (h : IsHeading l) : 0 < weight l := by
  obtain ⟨rest, rfl⟩ := h
  rw [weight_append]
  have : weight "## ".toList = 2 := by decide
  omega

/-- Lines with a heading say more than their other lines. -/
theorem plainWeight_lt {ls : List (List Char)} {l : List Char} (hl : l ∈ ls) (h : IsHeading l) :
    plainWeight ls < weight (unlines ls) := by
  rw [weight_unlines]
  have hle : ∀ ls : List (List Char), plainWeight ls ≤ (ls.map weight).sum := by
    intro ls
    induction ls with
    | nil => exact Nat.le_refl _
    | cons l ls ih =>
      rw [plainWeight_cons, List.map_cons, List.sum_cons]
      split
      · omega
      · omega
  induction ls with
  | nil => cases hl
  | cons first ls ih =>
    rw [plainWeight_cons, List.map_cons, List.sum_cons]
    rcases List.mem_cons.mp hl with rfl | hmem
    · have hpos := heading_weight h
      have hrest := hle ls
      rw [if_pos h]
      omega
    · have hrest := ih hmem
      split
      · omega
      · omega

/-! ## Reading sections -/

variable {name : List Char}

section Reading

variable {st : ParsedBody} {ls : List (List Char)}

theorem sectionStep_plain {name line : List Char} (hcurrent : st.current = some name)
    (hline : ¬ IsHeading line) :
    sectionStep st line = { st with body := st.body ++ line ++ ['\n'] } := by
  rw [sectionStep, afterPrefix_heading hline, hcurrent]
  rfl

/-- Lines that are no headings belong to the section. -/
theorem foldl_plain (hcurrent : st.current = some name) (hls : ∀ l ∈ ls, ¬ IsHeading l) :
    ls.foldl sectionStep st = { st with body := st.body ++ unlines ls } := by
  induction ls generalizing st with
  | nil => simp
  | cons l ls ih =>
    rw [List.foldl_cons, sectionStep_plain hcurrent (hls l List.mem_cons_self),
      ih (by exact hcurrent) fun l' hl' => hls l' (List.mem_cons_of_mem _ hl')]
    simp

theorem sectionStep_heading (st : ParsedBody) {name title : List Char}
    (hcurrent : st.current = some name) :
    sectionStep st ("## ".toList ++ title) =
      { st with
        current := some (trimChars title)
        sections := (name, trimChars st.body) :: st.sections
        body := [] } := by
  rw [sectionStep, afterPrefix_append, hcurrent]

/-- What is read of a section says no more than so much: of the one that is read now, or of
one that is there already. -/
structure Within (name : List Char) (bound : Nat) (st : ParsedBody) : Prop where
  body : weight st.body ≤ bound
  sections : ∃ current, st.current = some current ∧ (current ≠ name →
    ∃ text, st.sections.lookup name = some text ∧ weight text ≤ bound)

variable {bound : Nat}

/-- What is read of the section once the current one is closed. -/
theorem Within.closed (h : Within name bound st) {current : List Char}
    (hcurrent : st.current = some current) :
    ∃ text, ((current, trimChars st.body) :: st.sections).lookup name = some text ∧
      weight text ≤ bound := by
  obtain ⟨_, hsame, hsections⟩ := h.sections
  obtain rfl := Option.some.inj (hcurrent.symm.trans hsame)
  by_cases hname : current = name
  · refine ⟨trimChars st.body, ?_, (weight_trim _).le.trans h.body⟩
    rw [List.lookup_cons, hname, beq_self_eq_true]
  · obtain ⟨text, hlookup, hle⟩ := hsections hname
    refine ⟨text, ?_, hle⟩
    rw [List.lookup_cons, beq_false_of_ne (Ne.symm hname)]
    exact hlookup

/-- **One line**: a heading adds nothing to what is read, any other line itself. -/
theorem Within.step (h : Within name bound st) (line : List Char) :
    Within name (bound + if IsHeading line then 0 else weight line) (sectionStep st line) := by
  obtain ⟨current, hcurrent, hsections⟩ := h.sections
  by_cases hline : IsHeading line
  · obtain ⟨title, rfl⟩ := hline
    rw [if_pos (show IsHeading _ from List.prefix_append _ _), Nat.add_zero,
        sectionStep_heading st hcurrent]
    exact ⟨Nat.zero_le _, trimChars title, rfl, fun _ => h.closed hcurrent⟩
  · rw [if_neg hline, sectionStep_plain hcurrent hline]
    refine ⟨?_, current, hcurrent, fun hname => ?_⟩
    · show weight (st.body ++ line ++ ['\n']) ≤ _
      rw [weight_line]
      have := h.body
      omega
    · obtain ⟨text, hlookup, hle⟩ := hsections hname
      exact ⟨text, hlookup, by omega⟩

/-- Lines one after another. -/
theorem Within.foldl (h : Within name bound st) (ls : List (List Char)) :
    Within name (bound + plainWeight ls) (ls.foldl sectionStep st) := by
  induction ls generalizing st bound with
  | nil => exact h
  | cons line ls ih =>
    have hrest := ih (h.step line)
    rw [plainWeight_cons, ← Nat.add_assoc]
    exact hrest

/-- The section that is read last. -/
theorem Within.finish (h : Within name bound st) :
    ∃ text, st.finish.sections.lookup name = some text ∧ weight text ≤ bound := by
  obtain ⟨current, hcurrent, _⟩ := h.sections
  rw [ParsedBody.finish, hcurrent]
  exact h.closed hcurrent

end Reading

/-! ## What comes back of a text -/

/-- No line of the text is a heading for the reader. -/
def NoHeadings (text : String) : Prop :=
  ∀ line ∈ (trimEndChars text.toList).splitOn '\n', ¬ IsHeading line

instance (text : String) : Decidable (NoHeadings text) :=
  inferInstanceAs (Decidable (∀ line ∈ _, ¬ IsHeading line))

/-- **A text comes back** if the reader takes none of its lines for a heading, no carriage
return before a line feed is lost, and it is not one of the words for no text. -/
structure ComesBack (text : String) : Prop where
  headings : NoHeadings text
  returns : ¬ ['\r', '\n'] <:+: trimChars text.toList
  words : trimChars text.toList ≠ "_(empty)_".toList ∧ trimChars text.toList ≠ "_(none)_".toList

/-- What is kept of a section. -/
def keptText (text : List Char) : List Char :=
  if text = [] ∨ text = "_(empty)_".toList ∨ text = "_(none)_".toList then [] else text

theorem sectionOrDefault_empty {body : ParsedBody} {name : String} {text : List Char}
    (h : body.sections.lookup name.toList = some text) :
    (sectionOrDefault body name "").toList = keptText text := by
  rw [sectionOrDefault, h, Option.map_some, keptText]
  by_cases hkept : text = [] ∨ text = "_(empty)_".toList ∨ text = "_(none)_".toList
  · rw [if_pos hkept, Option.filter_some, if_neg]
    · rfl
    · rcases hkept with rfl | rfl | rfl
      · decide
      · decide
      · decide
  · have hvalue : String.ofList text ≠ "" ∧ String.ofList text ≠ "_(empty)_" ∧
        String.ofList text ≠ "_(none)_" := by
      refine ⟨fun heq => hkept (.inl ?_), fun heq => hkept (.inr (.inl ?_)),
        fun heq => hkept (.inr (.inr ?_))⟩
      · rw [← String.toList_ofList (l := text), heq]
        rfl
      · rw [← String.toList_ofList (l := text), heq]
      · rw [← String.toList_ofList (l := text), heq]
    rw [if_neg hkept, Option.filter_some, if_pos (by simpa using hvalue), Option.getD_some,
      String.toList_ofList]

theorem weight_keptText_le (text : List Char) : weight (keptText text) ≤ weight text := by
  rw [keptText]
  split
  · exact Nat.zero_le _
  · exact Nat.le_refl _

/-! ## A text that is written and read -/

/-- The text of a section as it is read when none of its lines is a heading. -/
def readBack (text : String) : List Char :=
  trimChars (unlines ([] :: ((textLines text).map readLine ++ [[]])))

theorem isWhitespace_of_mem_crlfToLf (h : ∀ c ∈ cs, isWhitespace c = true) :
    ∀ c ∈ crlfToLf cs, isWhitespace c = true :=
  fun c hc => h c ((crlfToLf_sublist cs).subset hc)

/-- Line ends are read in a text between white space. -/
theorem crlfToLf_between (lead trail : List Char) {core : List Char} (hne : core ≠ [])
    (hstart : Stops isWhitespace core) (hend : Ends isWhitespace core) :
    crlfToLf (lead ++ core ++ trail) = crlfToLf lead ++ crlfToLf core ++ crlfToLf trail ∧
      crlfToLf core ≠ [] ∧ Stops isWhitespace (crlfToLf core) ∧
      Ends isWhitespace (crlfToLf core) := by
  obtain ⟨first, rest, rfl⟩ := List.exists_cons_of_ne_nil hne
  have hfirst := stops_cons.mp hstart
  have hfeed : first ≠ '\n' ∧ first ≠ '\r' := by
    constructor
    · rintro rfl
      cases hfirst
    · rintro rfl
      cases hfirst
  obtain ⟨init, last, hlast⟩ : ∃ init last, first :: rest = init ++ [last] :=
    ⟨_, _, (List.dropLast_append_getLast hne).symm⟩
  have hlastChar : isWhitespace last = false := by
    rw [hlast] at hend
    exact hend last (by simp)
  have hlastFeed : last ≠ '\n' ∧ last ≠ '\r' := by
    constructor
    · rintro rfl
      cases hlastChar
    · rintro rfl
      cases hlastChar
  have hinit : crlfToLf (first :: rest) = crlfToLf init ++ [last] := by
    rw [hlast, crlfToLf_append (by simpa using hlastFeed.1)]
    rfl
  have htrail : crlfToLf (first :: rest ++ trail) = crlfToLf (first :: rest) ++ crlfToLf trail := by
    rw [hinit, hlast, List.append_assoc, List.append_assoc,
      crlfToLf_append (by simpa using hlastFeed.1), List.singleton_append,
      crlfToLf_cons hlastFeed.2]
    rfl
  refine ⟨?_, ?_, ?_, ?_⟩
  · rw [List.append_assoc, crlfToLf_append (by simpa using hfeed.1), htrail, List.append_assoc]
  · rw [hinit]
    simp
  · rw [crlfToLf_cons hfeed.2]
    exact stops_cons.mpr hfirst
  · rw [hinit]
    intro x hx
    rw [List.getLast?_append_of_ne_nil _ (by simp), List.getLast?_singleton,
      Option.mem_some_iff] at hx
    rw [← hx]
    exact hlastChar

theorem readBack_blank {text : String} (h : trimChars text.toList = []) :
    readBack text = "_(empty)_".toList := by
  rw [readBack, textLines, if_pos h]
  decide

/-- **A text is read back** but for its line ends. -/
theorem readBack_eq {text : String} (h : trimChars text.toList ≠ []) :
    readBack text = crlfToLf (crlfToLf (trimChars text.toList)) := by
  have hblank : isWhitespace '\n' = true := rfl
  -- The text up to its last character, after some white space.
  obtain ⟨lead, hlead, hcore⟩ : ∃ lead, (∀ c ∈ lead, isWhitespace c = true) ∧
      trimEndChars text.toList = lead ++ trimChars text.toList := by
    obtain ⟨lead, trail, htext, hlead, htrail⟩ := exists_trimmed isWhitespace text.toList
    refine ⟨lead, hlead, ?_⟩
    rw [trimEndChars]
    conv_lhs => rw [htext]
    rw [rdropWhile_append_of_pos htrail, rdropWhile_of_ends]
    · rfl
    · exact ends_append (ends_trimmed _) h
  have hlines : unlines ((textLines text).map readLine) =
      crlfToLf (crlfToLf (lead ++ trimChars text.toList ++ ['\n'])) := by
    have hone := textLines_oneLine text
    rw [← hcore, ← unlines_splitOn, show (trimEndChars text.toList).splitOn '\n' = textLines text by
      rw [textLines, if_neg h], crlfToLf_unlines hone, crlfToLf_unlines (oneLine_map_chomp hone),
      List.map_map]
    rfl
  obtain ⟨honce, hne₁, hstart₁, hend₁⟩ := crlfToLf_between lead ['\n'] h
    (stops_trimmed text.toList) (ends_trimmed text.toList)
  obtain ⟨htwice, hne₂, hstart₂, hend₂⟩ := crlfToLf_between (crlfToLf lead)
    (crlfToLf ['\n']) hne₁ hstart₁ hend₁
  have hall := isWhitespace_of_mem_crlfToLf (isWhitespace_of_mem_crlfToLf hlead)
  rw [readBack, unlines_cons, unlines_append, hlines, honce, htwice]
  have hshape : [] ++ '\n' :: (crlfToLf (crlfToLf lead) ++
      crlfToLf (crlfToLf (trimChars text.toList)) ++ crlfToLf (crlfToLf ['\n']) ++
      unlines [[]]) = ('\n' :: crlfToLf (crlfToLf lead)) ++
      crlfToLf (crlfToLf (trimChars text.toList)) ++ ['\n', '\n'] := by
    simp [unlines, crlfToLf]
  rw [hshape]
  show trimmed isWhitespace _ = _
  rw [trimmed_append (by simpa [hblank] using hall) hstart₂ hend₂ hne₂]
  have hfeeds : (['\n', '\n'] : List Char).rdropWhile isWhitespace = [] := by decide
  rw [hfeeds, List.append_nil]

/-- **What is kept of a text that has no headings** is the text just when nothing of it is
lost. -/
theorem keptText_readBack_iff {text : String} (hheadings : NoHeadings text) :
    trimChars (keptText (readBack text)) = trimChars text.toList ↔ ComesBack text := by
  by_cases hblank : trimChars text.toList = []
  · rw [readBack_blank hblank, hblank]
    refine ⟨fun _ => ⟨hheadings, ?_, ?_⟩, fun _ => by decide⟩
    · rw [hblank]
      decide
    · rw [hblank]
      decide
  · have htrim : trimChars (readBack text) = readBack text := trimChars_trimChars _
    rw [readBack_eq hblank] at htrim ⊢
    have htwice : crlfToLf (crlfToLf (trimChars text.toList)) = trimChars text.toList ↔ _ :=
      crlfToLf_twice_eq_iff
    constructor
    · intro heq
      rw [keptText] at heq
      split at heq
      · exact absurd heq.symm hblank
      · rename_i hkept
        rw [htrim] at heq
        rw [heq, not_or, not_or] at hkept
        exact ⟨hheadings, htwice.mp heq, hkept.2⟩
    · intro hback
      rw [htwice.mpr hback.returns, keptText, if_neg, trimChars_trimChars]
      rintro (h | h | h)
      · exact hblank h
      · exact hback.words.1 h
      · exact hback.words.2 h

/-! ## Two sections -/

section Sections

variable {st : ParsedBody} {text : String}

/-- The lines of a section after its title, as they are read. -/
def sectionBody (text : String) : List (List Char) := [] :: ((textLines text).map readLine ++ [[]])

theorem not_isHeading_nil : ¬ IsHeading [] := by decide

theorem sectionBody_plain (h : NoHeadings text) : ∀ l ∈ sectionBody text, ¬ IsHeading l := by
  have hlines : ∀ l ∈ textLines text, ¬ IsHeading l := by
    rw [textLines]
    split
    · intro l hl
      rw [List.mem_singleton.mp hl]
      decide
    · exact h
  intro l hl
  rcases List.mem_cons.mp hl with rfl | hmem
  · exact not_isHeading_nil
  · rcases List.mem_append.mp hmem with hread | hlast
    · obtain ⟨l', hl', rfl⟩ := List.mem_map.mp hread
      exact fun hheading => hlines l' hl' (isHeading_readLine.mp hheading)
    · rw [List.mem_singleton.mp hlast]
      exact not_isHeading_nil

/-- A text with a heading says more than what is read of it. -/
theorem plainWeight_sectionBody (h : ¬ NoHeadings text) :
    plainWeight (sectionBody text) < weight (trimChars text.toList) := by
  rw [NoHeadings, not_forall] at h
  obtain ⟨line, hline⟩ := h
  rw [Classical.not_imp, not_not] at hline
  have hblank : trimChars text.toList ≠ [] := by
    intro hnil
    have hend : trimEndChars text.toList = [] := by
      rw [trimEndChars, List.rdropWhile_eq_nil_iff]
      intro c hc
      obtain ⟨lead, trail, htext, hlead, htrail⟩ := exists_trimmed isWhitespace text.toList
      rw [show trimmed isWhitespace text.toList = [] from hnil, List.append_nil] at htext
      rw [htext] at hc
      rcases List.mem_append.mp hc with hmem | hmem
      · exact hlead c hmem
      · exact htrail c hmem
    rw [hend, List.splitOn_nil, List.mem_singleton] at hline
    exact not_isHeading_nil (hline.1 ▸ hline.2)
  have hlines : textLines text = (trimEndChars text.toList).splitOn '\n' := by
    rw [textLines, if_neg hblank]
  have hlt := plainWeight_lt hline.1 hline.2
  rw [unlines_splitOn, weight_append, ← hlines, ← plainWeight_readLine] at hlt
  have hfeed : weight ['\n'] = 0 := by decide
  have hempty : plainWeight [[]] = 0 := by decide
  have hend : weight (trimEndChars text.toList) = weight (trimChars text.toList) := by
    obtain ⟨trail, htext, htrail⟩ := exists_rdropWhile isWhitespace text.toList
    rw [weight_trim]
    conv_rhs => rw [htext, weight_append, weight_eq_zero htrail, Nat.add_zero]
    rfl
  rw [sectionBody, plainWeight_cons, if_neg not_isHeading_nil, plainWeight_append, hempty]
  have hnil : weight [] = 0 := rfl
  omega

/-- Where a section starts, nothing of it is read. -/
theorem within_start (hcurrent : st.current = some name)
    (hbody : st.body = []) : Within name 0 st :=
  ⟨by rw [hbody]; exact Nat.le_refl _, name, hcurrent, fun hne => absurd rfl hne⟩

/-- A section with a heading in its text is cut, whatever follows its own lines, if no
section of its name does. -/
theorem keptText_cut {kept : List Char} (h : ¬ NoHeadings text)
    (hkept : weight kept ≤ plainWeight (sectionBody text)) :
    trimChars (keptText kept) ≠ trimChars text.toList := by
  intro heq
  have hlt := plainWeight_sectionBody h
  have hle := weight_keptText_le kept
  have hsame := congrArg weight heq
  rw [weight_trim] at hsame
  omega

/-- The section that is read now ends with its whole text. -/
theorem foldl_section (hcurrent : st.current = some name) (hbody : st.body = [])
    (h : NoHeadings text) :
    (sectionBody text).foldl sectionStep st = { st with body := unlines (sectionBody text) } := by
  rw [foldl_plain hcurrent (sectionBody_plain h), hbody, List.nil_append]

end Sections

end SnowAgent.Markdown
