import Mathlib.Data.List.Infix

/-! # Patterns with wildcards

A pattern of the operator LIKE is a list of characters of which two are wildcards: one stands for
any characters, the other for a single one.  The other characters stand for themselves, up to a
folding of the alphabet.
-/
namespace LikePatterns

section Like

variable {α : Type} [DecidableEq α] (many one : α) (fold : α → α)

/-- Whether a pattern stands for a text. -/
def like : List α → List α → Bool
  | [], text => text.isEmpty
  | p :: pattern, text =>
    if p = many then text.tails.any (like pattern)
    else match text with
      | [] => false
      | c :: text => (p = one || fold p = fold c) && like pattern text

/-- No character is a wildcard. -/
def Plain (text : List α) : Prop := ∀ c ∈ text, c ≠ many ∧ c ≠ one

/-- What a pattern stands for when its first wildcards stand for nothing, and its second ones for
some character. -/
def sample (c : α) (pattern : List α) : List α :=
  (pattern.filter (· ≠ many)).map fun p => if p = one then c else p

variable {many one fold} {pattern text : List α}

theorem like_many : like many one fold (many :: pattern) text = true ↔
    ∃ rest, rest <:+ text ∧ like many one fold pattern rest = true := by
  rw [like.eq_def]
  simp only [if_pos, List.any_eq_true, List.mem_tails]

theorem like_cons {p c : α} (hp : p ≠ many) :
    like many one fold (p :: pattern) (c :: text) = true ↔
      (p = one ∨ fold p = fold c) ∧ like many one fold pattern text = true := by
  rw [like, if_neg hp, Bool.and_eq_true, Bool.or_eq_true, decide_eq_true_iff, decide_eq_true_iff]

theorem like_cons_nil {p : α} (hp : p ≠ many) : like many one fold (p :: pattern) [] = false := by
  rw [like, if_neg hp]

/-- A plain text before the first wildcard stands for the beginnings that fold like it. -/
theorem like_append_many (h : Plain many one pattern) :
    like many one fold (pattern ++ [many]) text = true ↔ pattern.map fold <+: text.map fold := by
  induction pattern generalizing text with
  | nil =>
    rw [List.nil_append, like_many]
    exact ⟨fun _ => List.nil_prefix, fun _ => ⟨[], List.nil_suffix, rfl⟩⟩
  | cons p pattern step =>
    obtain ⟨hmany, hone⟩ := h p List.mem_cons_self
    have hrest : Plain many one pattern := fun c hc => h c (List.mem_cons_of_mem _ hc)
    cases text with
    | nil =>
      rw [List.cons_append, like_cons_nil hmany]
      simp
    | cons c text =>
      rw [List.cons_append, like_cons hmany, step hrest, List.map_cons, List.map_cons,
        List.cons_prefix_cons]
      exact ⟨fun ⟨hc, hp⟩ => ⟨hc.resolve_left hone, hp⟩, fun ⟨hc, hp⟩ => ⟨Or.inr hc, hp⟩⟩

/-- **A plain text between two wildcards** stands for the texts that contain it, up to folding. -/
theorem like_around (h : Plain many one pattern) :
    like many one fold (many :: (pattern ++ [many])) text = true ↔
      pattern.map fold <:+: text.map fold := by
  rw [like_many, List.infix_iff_prefix_suffix]
  constructor
  · rintro ⟨rest, hrest, hlike⟩
    exact ⟨rest.map fold, (like_append_many h).mp hlike, hrest.map fold⟩
  · rintro ⟨folded, hfirst, hlast⟩
    obtain ⟨n, hn⟩ : ∃ n, folded = (text.map fold).drop n := by
      obtain ⟨lead, hlead⟩ := hlast
      exact ⟨lead.length, by rw [← hlead, List.drop_left]⟩
    refine ⟨text.drop n, List.drop_suffix n text, (like_append_many h).mpr ?_⟩
    rwa [List.map_drop, ← hn]

variable (pattern) in
/-- A pattern stands for its sample, and for whatever ends with it after a wildcard. -/
theorem like_sample_append (c : α) {tail rest : List α} (h : like many one fold tail rest = true) :
    like many one fold (pattern ++ tail) (sample many one c pattern ++ rest) = true := by
  induction pattern with
  | nil => exact h
  | cons p pattern step =>
    by_cases hmany : p = many
    · subst hmany
      rw [List.cons_append, like_many]
      refine ⟨_, List.suffix_rfl, ?_⟩
      have hsample : sample p one c (p :: pattern) = sample p one c pattern := by
        rw [sample, List.filter_cons_of_neg (by simp), ← sample]
      rw [hsample]
      exact step
    · have hsample : sample many one c (p :: pattern) =
          (if p = one then c else p) :: sample many one c pattern := by
        rw [sample, List.filter_cons_of_pos (by simpa using hmany), List.map_cons, ← sample]
      rw [hsample, List.cons_append, List.cons_append, like_cons hmany]
      refine ⟨?_, step⟩
      by_cases hone : p = one
      · exact Or.inl hone
      · rw [if_neg hone]
        exact Or.inr rfl

/-- **A sample is plain.** -/
theorem sample_plain {c : α} (hc : c ≠ many ∧ c ≠ one) :
    Plain many one (sample many one c pattern) := by
  intro d hd
  obtain ⟨p, hp, rfl⟩ := List.mem_map.mp hd
  by_cases hone : p = one
  · rw [if_pos hone]
    exact hc
  · rw [if_neg hone]
    have hmany := (List.mem_filter.mp hp).2
    exact ⟨of_decide_eq_true hmany, hone⟩

/-- The characters of a sample are those of the pattern, but for the one that was filled in. -/
theorem mem_sample {c d : α} (h : d ∈ sample many one c pattern) : d = c ∨ d ∈ pattern := by
  obtain ⟨p, hp, rfl⟩ := List.mem_map.mp h
  by_cases hone : p = one
  · rw [if_pos hone]
    exact Or.inl rfl
  · rw [if_neg hone]
    exact Or.inr (List.mem_filter.mp hp).1

end Like

end LikePatterns
