import Mathlib.Data.List.Induction
import Mathlib.Data.List.Infix
import SnowAgent.Trimming

/-! # Paths, resolved by their text

A path is a text whose components stand between slashes.  Resolved without looking at a file
system, it is a place: from the root or from where one is, so many directories up, and then the
names on the way down.  A relative path joined to another one walks on from its place; an absolute
one starts anew.
-/
namespace LexicalPaths

abbrev Name := List Char

/-- The path starts at the root. -/
def Absolute (path : List Char) : Prop := path.head? = some '/'

instance : DecidablePred Absolute := fun path =>
  inferInstanceAs (Decidable (path.head? = some '/'))

/-- The components of a path, without empty ones and those that stay where they are. -/
def components (path : List Char) : List Name :=
  (path.splitOn '/').filter fun c => !(c == [] || c == ['.'])

/-- A path pushed onto another one. -/
def join (path pushed : List Char) : List Char :=
  if Absolute pushed then pushed
  else if path = [] ∨ path.getLast? = some '/' then path ++ pushed
  else path ++ '/' :: pushed

/-- The directory above. -/
def up : Name := ['.', '.']

/-- Where a path leads. -/
structure Place where
  absolute : Bool
  ups : Nat
  names : List Name
deriving DecidableEq

/-- One component.  There is nothing above the root. -/
def step (place : Place) (name : Name) : Place :=
  if name = up then
    if place.names = [] then
      if place.absolute then place else { place with ups := place.ups + 1 }
    else { place with names := place.names.dropLast }
  else { place with names := place.names ++ [name] }

/-- Some components. -/
def walk (place : Place) (names : List Name) : Place := names.foldl step place

/-- Where one is. -/
def here : Place := ⟨false, 0, []⟩

/-- The root. -/
def top : Place := ⟨true, 0, []⟩

/-- Where a path leads. -/
def resolve (path : List Char) : Place :=
  walk (if Absolute path then top else here) (components path)

/-- One place is strictly below another. -/
def Below (root place : Place) : Prop :=
  place.absolute = root.absolute ∧ place.ups = root.ups ∧
    root.names <+: place.names ∧ root.names ≠ place.names

instance (root place : Place) : Decidable (Below root place) :=
  inferInstanceAs (Decidable (_ ∧ _ ∧ _ ∧ _))

/-! ## Joining -/

variable {path pushed : List Char} (place : Place)

theorem components_append (a b : List Char) :
    components (a ++ '/' :: b) = components a ++ components b := by
  rw [components, List.splitOn_append_cons_self, List.filter_append]
  rfl

theorem components_nil : components [] = [] := by decide

theorem components_slash (a : List Char) : components (a ++ ['/']) = components a := by
  rw [components_append, components_nil, List.append_nil]

theorem walk_append (a b : List Name) :
    walk place (a ++ b) = walk (walk place a) b := List.foldl_append

theorem components_join (h : ¬ Absolute pushed) :
    components (join path pushed) = components path ++ components pushed := by
  rw [join, if_neg h]
  by_cases hsep : path = [] ∨ path.getLast? = some '/'
  · rw [if_pos hsep]
    rcases hsep with rfl | hlast
    · rw [List.nil_append, components_nil, List.nil_append]
    · obtain ⟨start, rfl⟩ := List.getLast?_eq_some_iff.mp hlast
      rw [List.append_assoc, List.singleton_append, components_append, components_slash]
  · rw [if_neg hsep, components_append]

theorem absolute_join (h : ¬ Absolute pushed) : Absolute (join path pushed) ↔ Absolute path := by
  rw [join, if_neg h]
  cases path with
  | nil => simpa [Absolute] using h
  | cons c path =>
    split
    · rfl
    · rfl

/-- **A relative path walks on** from the place it is joined to. -/
theorem resolve_join (h : ¬ Absolute pushed) :
    resolve (join path pushed) = walk (resolve path) (components pushed) := by
  rw [resolve, resolve, components_join h, walk_append]
  simp only [absolute_join h]

theorem resolve_join_absolute (h : Absolute pushed) :
    resolve (join path pushed) = resolve pushed := by
  rw [join, if_pos h]

/-- Relative paths, one after another. -/
theorem resolve_foldl {parts : List (List Char)} (h : ∀ part ∈ parts, ¬ Absolute part) :
    resolve (parts.foldl join path) = walk (resolve path) (parts.flatMap components) := by
  induction parts generalizing path with
  | nil => rfl
  | cons part parts ih =>
    rw [List.forall_mem_cons] at h
    rw [List.foldl_cons, ih h.2, resolve_join h.1, List.flatMap_cons, walk_append]

/-- The last of the paths that is absolute, and those after it. -/
theorem resolve_foldl_absolute {path start : List Char} {before after : List (List Char)}
    (hstart : Absolute start) (hafter : ∀ part ∈ after, ¬ Absolute part) :
    resolve ((before ++ start :: after).foldl join path) =
      walk top ((start :: after).flatMap components) := by
  rw [List.foldl_append, List.foldl_cons, resolve_foldl hafter, resolve_join_absolute hstart,
    resolve, if_pos hstart, List.flatMap_cons, walk_append]

/-! ## Walking -/

variable (names : List Name)

theorem walk_absolute : (walk place names).absolute = place.absolute := by
  induction names generalizing place with
  | nil => rfl
  | cons name names ih =>
    rw [walk, List.foldl_cons]
    refine (ih _).trans ?_
    unfold step
    split
    · split
      · split
        · rfl
        · rfl
      · rfl
    · rfl

/-- Some directories up. -/
def climb (place : Place) (n : Nat) : Place :=
  { place with
    names := place.names.take (place.names.length - n)
    ups := if place.absolute then place.ups else place.ups + (n - place.names.length) }

theorem step_climb_up (n : Nat) : step (climb place n) up = climb place (n + 1) := by
  rw [step, if_pos rfl]
  by_cases hnil : (climb place n).names = []
  · have hall : place.names.length ≤ n := by
      have hlength := congrArg List.length hnil
      simp only [climb, List.length_take, List.length_nil] at hlength
      omega
    rw [if_pos hnil]
    have htake : place.names.length - (n + 1) = place.names.length - n := by omega
    have hsub : n + 1 - place.names.length = n - place.names.length + 1 := by omega
    by_cases habsolute : place.absolute = true
    · simp [climb, habsolute, htake]
    · simp [climb, habsolute, htake, hsub, Nat.add_assoc]
  · have hsome : n < place.names.length := by
      by_contra hle
      refine hnil ?_
      simp [climb, Nat.sub_eq_zero_of_le (Nat.not_lt.mp hle)]
    rw [if_neg hnil]
    have hsub : n + 1 - place.names.length = n - place.names.length := by omega
    have htake : (place.names.take (place.names.length - n)).dropLast =
        place.names.take (place.names.length - (n + 1)) := by
      rw [List.dropLast_eq_take, List.length_take, List.take_take]
      congr 1
      omega
    simp only [climb, hsub, htake]

/-- **A walk climbs, and then goes down**: as far and to the names that it comes to from where one
is. -/
theorem walk_eq :
    walk place names =
      { climb place (walk here names).ups with
        names := (climb place (walk here names).ups).names ++ (walk here names).names } := by
  induction names using List.reverseRecOn with
  | nil => simp [walk, here, climb]
  | append_singleton names name ih =>
    rw [walk_append, walk_append, ih]
    generalize hn : walk here names = n
    have hrelative : n.absolute = false := by
      rw [← hn]
      exact walk_absolute here names
    show step _ name = _
    by_cases hup : name = up
    · subst hup
      show _ = { climb place (step n up).ups with
        names := (climb place (step n up).ups).names ++ (step n up).names }
      by_cases hnil : n.names = []
      · have hstep : step n up = { n with ups := n.ups + 1 } := by
          rw [step, if_pos rfl, if_pos hnil, hrelative]
          rfl
        rw [hstep, hnil]
        simp only [List.append_nil]
        exact step_climb_up place n.ups
      · have hstep : step n up = { n with names := n.names.dropLast } := by
          rw [step, if_pos rfl, if_neg hnil]
        rw [hstep, step, if_pos rfl, if_neg (by simp [hnil]),
          List.dropLast_append_of_ne_nil hnil]
    · have hstep : ∀ place : Place, step place name =
        { place with names := place.names ++ [name] } :=
        fun place => if_neg hup
      show step _ name = { climb place (step n name).ups with
        names := (climb place (step n name).ups).names ++ (step n name).names }
      rw [hstep, hstep, List.append_assoc]

/-! ## Below a place -/

variable (root : Place)

/-- **Where a walk ends below its start**: it does not leave the root of a relative start, and goes
down again by the names that it came up, and further. -/
theorem below_walk_iff (names : List Name) :
    Below root (walk root names) ↔
      (root.absolute = true ∨ (walk here names).ups ≤ root.names.length) ∧
        root.names.drop (root.names.length - (walk here names).ups) <+: (walk here names).names ∧
          root.names.drop (root.names.length - (walk here names).ups) ≠ (walk here names).names := by
  rw [walk_eq]
  generalize walk here names = n
  have hsplit := List.take_append_drop (root.names.length - n.ups) root.names
  have hstarts : root.names <+: root.names.take (root.names.length - n.ups) ++ n.names ↔
      root.names.drop (root.names.length - n.ups) <+: n.names := by
    conv_lhs => lhs; rw [← hsplit]
    exact List.prefix_append_right_inj _
  have hsame : root.names = root.names.take (root.names.length - n.ups) ++ n.names ↔
      root.names.drop (root.names.length - n.ups) = n.names := by
    conv_lhs => lhs; rw [← hsplit]
    exact List.append_right_inj _
  have hups : (climb root n.ups).ups = root.ups ↔
      root.absolute = true ∨ n.ups ≤ root.names.length := by
    by_cases habsolute : root.absolute = true
    · simp [climb, habsolute]
    · simp only [climb, habsolute]
      simp only [Bool.false_eq_true, if_false, false_or]
      omega
  show _ ∧ (climb root n.ups).ups = root.ups ∧ _ <+: (climb root n.ups).names ++ _ ∧
    _ ≠ (climb root n.ups).names ++ _ ↔ _
  rw [hups, show (climb root n.ups).names = root.names.take (root.names.length - n.ups) from rfl,
    hstarts, ne_eq, hsame]
  exact and_iff_right rfl

/-- A walk that does not climb, and comes to a name, ends below its start. -/
theorem below_walk {names : List Name} (hups : (walk here names).ups = 0)
    (hnames : (walk here names).names ≠ []) : Below root (walk root names) := by
  rw [below_walk_iff, hups, Nat.sub_zero, List.drop_length]
  exact ⟨.inr (Nat.zero_le _), List.nil_prefix, hnames.symm⟩

/-- A walk from here that ends with a name comes to one. -/
theorem walk_names_ne_nil {names : List Name} {name : Name} (h : name ≠ up) (place : Place) :
    (walk place (names ++ [name])).names ≠ [] := by
  rw [walk_append]
  show (step _ name).names ≠ []
  rw [step, if_neg h]
  simp

/-! ## The last name of a path -/

theorem components_of_not_mem (h : '/' ∉ path) (hnil : path ≠ [])
    (hdot : path ≠ ['.']) : components path = [path] := by
  rw [components, List.splitOn_eq_singleton h]
  simp [hnil, hdot]

/-- A path that goes on with a text without slash ends with a name that ends with the text. -/
theorem components_append_text {text : List Char} (htext : '/' ∉ text) (hlong : 2 ≤ text.length)
    (path : List Char) :
    ∃ names name, components (path ++ text) = names ++ [name ++ text] := by
  obtain ⟨name, hsplit, hname⟩ := Trimming.exists_rdropWhile (· != '/') path
  have hslash : '/' ∉ name ++ text := by
    intro hmem
    rcases List.mem_append.mp hmem with hmem | hmem
    · simpa using hname _ hmem
    · exact htext hmem
  have hlast : components (name ++ text) = [name ++ text] := by
    refine components_of_not_mem hslash ?_ ?_
    · intro hnil
      have hlength := congrArg List.length hnil
      simp only [List.length_append, List.length_nil] at hlength
      omega
    · intro hdot
      have hlength := congrArg List.length hdot
      simp only [List.length_append, List.length_singleton] at hlength
      omega
  by_cases hnil : path.rdropWhile (· != '/') = []
  · rw [hnil, List.nil_append] at hsplit
    exact ⟨[], name, by rw [hsplit, hlast, List.nil_append]⟩
  · have hend := Trimming.ends_rdropWhile (p := (· != '/')) path
    obtain ⟨start, c, hstart⟩ := List.eq_nil_or_concat _ |>.resolve_left hnil
    have hc : c = '/' := by
      have h := hend c (by rw [hstart]; simp)
      simpa using h
    rw [hc] at hstart
    refine ⟨components start, name, ?_⟩
    rw [hsplit, hstart, List.concat_eq_append, List.append_assoc, List.append_assoc,
      List.singleton_append, components_append, hlast]

end LexicalPaths
