import Mathlib.Algebra.Group.Int.Defs
import Mathlib.Data.List.DropRight
import Mathlib.Data.List.Infix
import Mathlib.Data.String.Basic

/-! # The string functions of Rust

Strings are compared, trimmed and searched by their characters.  White space is
Unicode's, and the case functions change only the ASCII letters, as the functions
of `str` do.
-/
namespace SnowAgent.Text

/-- `char::is_whitespace`. -/
def isWhitespace (c : Char) : Bool :=
  let n := c.toNat
  (9 ≤ n && n ≤ 13) || n == 32 || n == 0x85 || n == 0xa0 || n == 0x1680 ||
    (0x2000 ≤ n && n ≤ 0x200a) || n == 0x2028 || n == 0x2029 || n == 0x202f ||
    n == 0x205f || n == 0x3000

/-- The characters of a string without the white space around them. -/
def trimChars (cs : List Char) : List Char :=
  ((cs.dropWhile isWhitespace).reverse.dropWhile isWhitespace).reverse

/-- `str::trim`. -/
def trim (s : String) : String := String.ofList (trimChars s.toList)

/-- `char::to_ascii_lowercase`. -/
def lowerChar (c : Char) : Char :=
  if 65 ≤ c.toNat && c.toNat ≤ 90 then Char.ofNat (c.toNat + 32) else c

/-- `str::to_ascii_lowercase`. -/
def toAsciiLowercase (s : String) : String := String.ofList (s.toList.map lowerChar)

/-- `str::eq_ignore_ascii_case`. -/
def eqIgnoreAsciiCase (a b : String) : Bool := a.toList.map lowerChar == b.toList.map lowerChar

/-- Whether one list of characters starts with another. -/
def startsWithChars : List Char → List Char → Bool
  | _, [] => true
  | [], _ :: _ => false
  | c :: cs, p :: ps => c == p && startsWithChars cs ps

/-- Whether one list of characters occurs in another. -/
def containsChars (pattern : List Char) : List Char → Bool
  | [] => pattern.isEmpty
  | c :: cs => startsWithChars (c :: cs) pattern || containsChars pattern cs

/-- `str::contains`. -/
def contains (s pattern : String) : Bool := containsChars pattern.toList s.toList

/-- `str::ends_with`. -/
def endsWith (s pattern : String) : Bool := startsWithChars s.toList.reverse pattern.toList.reverse

/-- `str::strip_prefix`, of characters. -/
def stripPrefix (s pattern : String) : Option String :=
  if startsWithChars s.toList pattern.toList then
    some (String.ofList (s.toList.drop pattern.toList.length))
  else none

/-- `str::split_once` at a character. -/
def splitOnce (s : String) (c : Char) : Option (String × String) :=
  let before := s.toList.takeWhile (· != c)
  if before.length < s.toList.length then
    some (String.ofList before, String.ofList (s.toList.drop (before.length + 1)))
  else none

/-- The part of a string before the first of some characters. -/
def before (s : String) (stops : List Char) : String :=
  String.ofList (s.toList.takeWhile fun c => !stops.contains c)

/-- `str::trim_end_matches` of a character. -/
def trimEndMatches (s : String) (c : Char) : String :=
  String.ofList (s.toList.reverse.dropWhile (· == c)).reverse

/-- The words of a list of characters, the current one read so far in reverse. -/
def words : List Char → List Char → List (List Char)
  | [], [] => []
  | [], c :: word => [(c :: word).reverse]
  | c :: cs, word =>
    if isWhitespace c then
      if word.isEmpty then words cs [] else word.reverse :: words cs []
    else words cs (c :: word)

/-- `str::split_whitespace`. -/
def splitWhitespace (s : String) : List String := (words s.toList []).map String.ofList

/-- The number a list of decimal digits stands for. -/
def digitsValue (cs : List Char) : Option Nat :=
  if cs.isEmpty || cs.any (fun c => !c.isDigit) then none
  else some (cs.foldl (fun n c => 10 * n + (c.toNat - 48)) 0)

/-- `str::parse` to an `i64`. -/
def parseI64 (s : String) : Option Int :=
  let n := match s.toList with
    | '-' :: cs => (digitsValue cs).map fun n => -(n : Int)
    | '+' :: cs => (digitsValue cs).map Int.ofNat
    | cs => (digitsValue cs).map Int.ofNat
  n.filter fun n => -2 ^ 63 ≤ n && n < 2 ^ 63

example : trim " a b\n" = "a b" := by decide

example : splitWhitespace " In  Progress " = ["In", "Progress"] := by decide

/-- What is checked of each member of a list holds of each. -/
theorem forall_mem_of_all {α : Type} {p : α → Prop} [DecidablePred p] {l : List α}
    (h : (l.all fun a => decide (p a)) = true) : ∀ a ∈ l, p a :=
  fun a ha => of_decide_eq_true (List.all_eq_true.mp h a ha)

theorem trimChars_eq (cs : List Char) :
    trimChars cs = (cs.dropWhile isWhitespace).rdropWhile isWhitespace := rfl

theorem trimChars_trimChars (cs : List Char) : trimChars (trimChars cs) = trimChars cs := by
  have hfront : (trimChars cs).dropWhile isWhitespace = trimChars cs := by
    rw [List.dropWhile_eq_self_iff]
    intro hne hspace
    have hstarts : trimChars cs <+: cs.dropWhile isWhitespace := List.rdropWhile_prefix ..
    obtain ⟨rest, hrest⟩ := hstarts
    have hself := List.dropWhile_idempotent isWhitespace cs
    rw [List.dropWhile_eq_self_iff] at hself
    have hlong : 0 < (cs.dropWhile isWhitespace).length := by
      rw [← hrest, List.length_append]
      omega
    refine hself hlong ?_
    have hhead : (cs.dropWhile isWhitespace)[0] = (trimChars cs)[0] := by
      simp only [← hrest]
      exact List.getElem_append_left hne
    rw [hhead]
    exact hspace
  rw [trimChars_eq (trimChars cs), hfront, trimChars_eq, List.rdropWhile_idempotent]

theorem trim_trim (s : String) : trim (trim s) = trim s := by
  simp [trim, trimChars_trimChars]

end SnowAgent.Text
