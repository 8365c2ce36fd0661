import Mathlib.Data.List.DropRight
import Mathlib.Data.List.Infix

/-! # Texts as lines

A text whose lines all end with a line feed, read back line by line.  A carriage return at the
end of a line belongs to the line end for a reader, and is lost.
-/
namespace TextLines

/-! ## Lines -/

variable {ls : List (List Char)} {l cs : List Char}

/-- The lines, each with a line feed after it. -/
def unlines (ls : List (List Char)) : List Char := ls.flatMap fun l => l ++ ['\n']

/-- The text has no line feed. -/
def OneLine (l : List Char) : Prop := '\n' ∉ l

/-- The line without a carriage return at its end. -/
def chomp (l : List Char) : List Char := if l.getLast? = some '\r' then l.dropLast else l

/-- The lines of a text, which end with a line feed or with a carriage return before it.  What
follows the last line feed is a line if there is anything. -/
def lines (cs : List Char) : List (List Char) :=
  (cs.splitOn '\n').dropLast.map chomp ++ ((cs.splitOn '\n').getLast?.toList.filter fun l => l ≠ [])

/-- The text with a line feed for every carriage return and line feed. -/
def crlfToLf : List Char → List Char
  | [] => []
  | [c] => [c]
  | c :: d :: cs =>
    if c = '\r' ∧ d = '\n' then '\n' :: crlfToLf cs else c :: crlfToLf (d :: cs)

@[simp] theorem unlines_nil : unlines [] = [] := rfl

@[simp] theorem unlines_cons (l : List Char) (ls : List (List Char)) :
    unlines (l :: ls) = l ++ '\n' :: unlines ls := by
  simp [unlines]

@[simp] theorem unlines_append (ls ls' : List (List Char)) :
    unlines (ls ++ ls') = unlines ls ++ unlines ls' := by
  simp [unlines]

theorem oneLine_nil : OneLine [] := by simp [OneLine]

@[simp] theorem oneLine_cons {c : Char} : OneLine (c :: l) ↔ c ≠ '\n' ∧ OneLine l := by
  simp [OneLine, eq_comm]

@[simp] theorem oneLine_append {l l' : List Char} :
    OneLine (l ++ l') ↔ OneLine l ∧ OneLine l' := by
  simp [OneLine]

theorem splitOn_unlines (h : ∀ l ∈ ls, OneLine l) (rest : List Char) :
    (unlines ls ++ rest).splitOn '\n' = ls ++ rest.splitOn '\n' := by
  induction ls with
  | nil => rfl
  | cons l ls ih =>
    rw [unlines_cons, List.append_assoc, List.cons_append,
      List.splitOn_append_cons_self_of_not_mem (h l List.mem_cons_self),
      ih fun l' hl' => h l' (List.mem_cons_of_mem _ hl'), List.cons_append]

theorem oneLine_of_mem_splitOn (h : l ∈ cs.splitOn '\n') : OneLine l := by
  induction cs generalizing l with
  | nil =>
    rw [List.splitOn_nil, List.mem_singleton] at h
    rw [h]
    exact oneLine_nil
  | cons c cs ih =>
    rw [List.splitOn_cons_eq_if_modifyHead] at h
    split at h
    · rcases List.mem_cons.mp h with rfl | hmem
      · exact oneLine_nil
      · exact ih hmem
    · rename_i hc
      cases hsplit : cs.splitOn '\n' with
      | nil => exact absurd hsplit (List.splitOn_ne_nil _ _)
      | cons first others =>
        rw [hsplit, List.modifyHead_cons] at h
        rcases List.mem_cons.mp h with rfl | hmem
        · refine oneLine_cons.mpr ⟨by simpa using hc, ih ?_⟩
          rw [hsplit]
          exact List.mem_cons_self
        · refine ih ?_
          rw [hsplit]
          exact List.mem_cons_of_mem _ hmem

/-- The lines of a text, and a line feed after the last of them too. -/
theorem unlines_splitOn (cs : List Char) : unlines (cs.splitOn '\n') = cs ++ ['\n'] := by
  induction cs with
  | nil => rfl
  | cons c cs ih =>
    rw [List.splitOn_cons_eq_if_modifyHead]
    split
    · rename_i hc
      rw [unlines_cons, ih, (beq_iff_eq.mp hc)]
      rfl
    · cases hsplit : cs.splitOn '\n' with
      | nil => exact absurd hsplit (List.splitOn_ne_nil _ _)
      | cons first others =>
        rw [List.modifyHead_cons, unlines_cons, List.cons_append, ← unlines_cons, ← hsplit, ih,
          List.cons_append]

/-- **Lines are read back**, but for a carriage return at their ends. -/
theorem lines_unlines (h : ∀ l ∈ ls, OneLine l) : lines (unlines ls) = ls.map chomp := by
  have hsplit : (unlines ls).splitOn '\n' = ls ++ [[]] := by
    have := splitOn_unlines h []
    rwa [List.append_nil, List.splitOn_nil] at this
  rw [lines, hsplit]
  simp

theorem chomp_sublist (l : List Char) : (chomp l).Sublist l := by
  rw [chomp]
  split
  · exact List.dropLast_sublist l
  · exact List.Sublist.refl l

theorem oneLine_chomp (h : OneLine l) : OneLine (chomp l) :=
  fun hmem => h ((chomp_sublist l).mem hmem)

theorem oneLine_map_chomp (h : ∀ l ∈ ls, OneLine l) : ∀ l ∈ ls.map chomp, OneLine l := by
  intro l hl
  obtain ⟨l', hl', rfl⟩ := List.mem_map.mp hl
  exact oneLine_chomp (h l' hl')

theorem chomp_of_not_mem (h : '\r' ∉ l) : chomp l = l := by
  rw [chomp, if_neg]
  intro hlast
  exact h (List.mem_of_getLast? hlast)

/-- A start without a carriage return stays. -/
theorem chomp_append {start : List Char} (h : '\r' ∉ start) (l : List Char) :
    chomp (start ++ l) = start ++ chomp l := by
  by_cases hnil : l = []
  · rw [hnil, List.append_nil, chomp_of_not_mem h]
    simp [chomp]
  · rw [chomp, chomp, List.getLast?_append_of_ne_nil _ hnil, List.dropLast_append_of_ne_nil hnil]
    split
    · rfl
    · rfl

theorem crlfToLf_line (h : OneLine l) (rest : List Char) :
    crlfToLf (l ++ '\n' :: rest) = chomp l ++ '\n' :: crlfToLf rest := by
  induction l with
  | nil =>
    rw [List.nil_append]
    cases rest with
    | nil => rfl
    | cons d rest =>
      rw [crlfToLf, if_neg (by simp)]
      rfl
  | cons c l ih =>
    obtain ⟨hc, hl⟩ := oneLine_cons.mp h
    cases l with
    | nil =>
      rw [List.cons_append, List.nil_append, crlfToLf]
      by_cases hcr : c = '\r'
      · rw [if_pos ⟨hcr, rfl⟩, hcr]
        rfl
      · have hchomp : chomp [c] = [c] := by simp [chomp, hcr]
        have hrest : crlfToLf ('\n' :: rest) = '\n' :: crlfToLf rest := ih hl
        rw [if_neg fun hboth => hcr hboth.1, hchomp, hrest]
        rfl
    | cons d l =>
      have hd := (oneLine_cons.mp hl).1
      have hchomp : chomp (c :: d :: l) = c :: chomp (d :: l) := by
        rw [chomp, chomp, List.getLast?_cons_cons]
        split
        · rfl
        · rfl
      have hrest := ih hl
      rw [List.cons_append] at hrest
      rw [List.cons_append, List.cons_append, crlfToLf, if_neg fun hboth => hd hboth.2, hrest,
        hchomp, List.cons_append]

/-- Line ends become line feeds. -/
theorem crlfToLf_unlines (h : ∀ l ∈ ls, OneLine l) :
    crlfToLf (unlines ls) = unlines (ls.map chomp) := by
  induction ls with
  | nil => rfl
  | cons l ls ih =>
    rw [unlines_cons, crlfToLf_line (h l List.mem_cons_self),
      ih fun l' hl' => h l' (List.mem_cons_of_mem _ hl'), List.map_cons, unlines_cons]

/-! ## Carriage returns -/

theorem crlfToLf_cons {c : Char} (h : c ≠ '\r') (cs : List Char) :
    crlfToLf (c :: cs) = c :: crlfToLf cs := by
  cases cs with
  | nil => rfl
  | cons d cs => rw [crlfToLf, if_neg fun hboth => h hboth.1]

/-- Texts are read apart if no line feed follows the first. -/
theorem crlfToLf_append {a b : List Char} (h : ∀ c ∈ b.head?, c ≠ '\n') :
    crlfToLf (a ++ b) = crlfToLf a ++ crlfToLf b := by
  fun_induction crlfToLf a with
  | case1 => rfl
  | case2 c =>
    cases b with
    | nil => rfl
    | cons d b =>
      have hd : d ≠ '\n' := h d rfl
      rw [List.cons_append, List.nil_append, crlfToLf, if_neg fun hboth => hd hboth.2]
      rfl
  | case3 c d cs hboth ih =>
    rw [List.cons_append, List.cons_append, crlfToLf, if_pos hboth, ih, List.cons_append]
  | case4 c d cs hboth ih =>
    rw [List.cons_append] at ih
    rw [List.cons_append, List.cons_append, crlfToLf, if_neg hboth, ih, List.cons_append]

theorem crlfToLf_sublist (cs : List Char) : (crlfToLf cs).Sublist cs := by
  fun_induction crlfToLf cs with
  | case1 => exact List.Sublist.refl _
  | case2 c => exact List.Sublist.refl _
  | case3 c d cs hboth ih =>
    rw [hboth.2]
    exact (ih.cons_cons _).cons _
  | case4 c d cs hboth ih => exact ih.cons_cons _

/-- **What is lost**: a text stays as it is only without a carriage return before a line
feed. -/
theorem crlfToLf_eq_iff : crlfToLf cs = cs ↔ ¬ ['\r', '\n'] <:+: cs := by
  fun_induction crlfToLf cs with
  | case1 => simp
  | case2 c => simp [List.infix_cons_iff]
  | case3 c d cs hboth ih =>
    obtain ⟨rfl, rfl⟩ := hboth
    constructor
    · intro heq
      exact absurd (List.cons.inj heq).1 (by decide)
    · intro hnot
      exact absurd ((List.prefix_append ['\r', '\n'] cs).isInfix) hnot
  | case4 c d cs hboth ih =>
    rw [List.cons.injEq, List.infix_cons_iff, not_or, ih]
    simp only [true_and, iff_and_self]
    intro _ hstarts
    obtain ⟨hc, hrest⟩ := List.cons_prefix_cons.mp hstarts
    exact hboth ⟨hc.symm, ((List.cons_prefix_cons.mp hrest).1).symm⟩

/-- A text that is read twice stays as it is only if it does when read once. -/
theorem crlfToLf_twice_eq_iff : crlfToLf (crlfToLf cs) = cs ↔ ¬ ['\r', '\n'] <:+: cs := by
  rw [← crlfToLf_eq_iff]
  constructor
  · intro h
    have hle := (crlfToLf_sublist (crlfToLf cs)).length_le
    rw [h] at hle
    exact (crlfToLf_sublist cs).eq_of_length_le hle
  · intro h
    rw [h, h]

/-! ## A fence -/

/-- The text before the first occurrence of a pattern, and the text after it. -/
def splitAtText (pattern : List Char) : List Char → Option (List Char × List Char)
  | [] => if pattern = [] then some ([], []) else none
  | c :: cs =>
    if pattern.isPrefixOf (c :: cs) then some ([], (c :: cs).drop pattern.length)
    else (splitAtText pattern cs).map fun parts => (c :: parts.1, parts.2)

/-- A line is not found where another one is. -/
theorem not_prefix_line {fence l : List Char} (hfence : OneLine fence) (hl : OneLine l)
    (hne : l ≠ fence) (rest : List Char) :
    (fence ++ ['\n']).isPrefixOf (l ++ '\n' :: rest) = false := by
  induction fence generalizing l with
  | nil =>
    cases l with
    | nil => exact absurd rfl hne
    | cons c l =>
      have hc := (oneLine_cons.mp hl).1
      simp [List.isPrefixOf, Ne.symm hc]
  | cons d fence ih =>
    obtain ⟨hd, hfence'⟩ := oneLine_cons.mp hfence
    cases l with
    | nil => simp [List.isPrefixOf, hd]
    | cons c l =>
      by_cases hcd : d = c
      · have hrest := ih hfence' (oneLine_cons.mp hl).2 fun h => hne (by rw [h, hcd])
        simp only [List.cons_append, List.isPrefixOf, hrest, Bool.and_false]
      · simp [List.isPrefixOf, hcd]

theorem splitAtText_skip {fence l : List Char} (hl : OneLine l) (rest : List Char) :
    splitAtText ('\n' :: fence) (l ++ rest) =
      (splitAtText ('\n' :: fence) rest).map fun parts => (l ++ parts.1, parts.2) := by
  induction l with
  | nil => simp
  | cons c l ih =>
    obtain ⟨hc, hl⟩ := oneLine_cons.mp hl
    have hskip : ('\n' :: fence).isPrefixOf (c :: (l ++ rest)) = false := by
      simp [List.isPrefixOf, Ne.symm hc]
    rw [List.cons_append, splitAtText, hskip, if_neg Bool.false_ne_true, ih hl, Option.map_map]
    rfl

/-- **A text up to its fence**: lines of which none is the fence, and then the fence. -/
theorem splitAtText_fence {fence first : List Char} (hfence : OneLine fence)
    (hfirst : OneLine first) (hls : ∀ l ∈ ls, OneLine l ∧ l ≠ fence)
    (rest : List Char) :
    splitAtText ('\n' :: (fence ++ ['\n'])) (unlines (first :: ls) ++ (fence ++ '\n' :: rest)) =
      some (['\n'].intercalate (first :: ls), rest) := by
  induction ls generalizing first with
  | nil =>
    have hstarts : ('\n' :: (fence ++ ['\n'])).isPrefixOf ('\n' :: (fence ++ '\n' :: rest)) =
        true := by
      rw [List.isPrefixOf_iff_prefix]
      exact ⟨rest, by simp⟩
    have hdrop : ('\n' :: (fence ++ '\n' :: rest)).drop ('\n' :: (fence ++ ['\n'])).length =
        rest := by
      have : '\n' :: (fence ++ '\n' :: rest) = ('\n' :: (fence ++ ['\n'])) ++ rest := by simp
      rw [this, List.drop_left]
    rw [unlines_cons, unlines_nil, List.append_assoc, splitAtText_skip hfirst, List.cons_append,
      List.nil_append, splitAtText, if_pos hstarts, hdrop]
    simp
  | cons l ls ih =>
    obtain ⟨hl, hne⟩ := hls l List.mem_cons_self
    have hrest := ih hl fun l' hl' => hls l' (List.mem_cons_of_mem _ hl')
    have hskip : ('\n' :: (fence ++ ['\n'])).isPrefixOf
        ('\n' :: (unlines (l :: ls) ++ (fence ++ '\n' :: rest))) = false := by
      rw [List.isPrefixOf, unlines_cons, List.append_assoc, List.cons_append,
        not_prefix_line hfence hl hne, Bool.and_false]
    rw [unlines_cons, List.append_assoc, splitAtText_skip hfirst, List.cons_append, splitAtText,
      hskip, if_neg Bool.false_ne_true, hrest]
    simp [List.intercalate_cons_cons]

end TextLines
