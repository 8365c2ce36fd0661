import SnowAgent.Letters
import SnowAgent.Policy
import Mathlib.Data.List.Destutter

/-! # The names of production hosts

The hosts of a policy and of a board are compared by a normal form: lower case, without
scheme, path, query, fragment, port and trailing dot.  The dots at the end are removed
before the port is, so a dot in front of a port stays in the name, and a host written
with both is another host than the same one written without.
-/
namespace SnowAgent

open Text Trimming

/-! ## The normal form, by characters -/

/-- The characters that end the host part. -/
def isHostStop (c : Char) : Bool := ['/', '?', '#'].contains c

/-- The text without its scheme. -/
def withoutScheme (value : List Char) : List Char :=
  if startsWithChars value "https://".toList then value.drop 8
  else if startsWithChars value "http://".toList then value.drop 7
  else value

/-- The host part of what a host is written as: the lower case text between the scheme and
the path, query or fragment. -/
def hostPart (input : String) : List Char :=
  trimmed isWhitespace ((withoutScheme ((trimmed isWhitespace input.toList).map lowerChar)).takeWhile
    fun c => !isHostStop c)

/-- The host of a host part. -/
def hostOf (part : List Char) : Option String :=
  let host := part.rdropWhile (· == '.')
  if host = [] ∨ '@' ∈ host then none
  else
    let name := trimmed isWhitespace (host.takeWhile (· != ':'))
    if name = [] then none else some (String.ofList name)

/-- The steps of the source, by characters. -/
theorem normalizeInstanceHostname_eq (input : String) :
    normalizeInstanceHostname input = hostOf (hostPart input) := by
  have hscheme : ∀ value : List Char,
      (((stripPrefix (String.ofList value) "https://").orElse fun _ =>
        stripPrefix (String.ofList value) "http://").getD (String.ofList value)) =
        String.ofList (withoutScheme value) := by
    intro value
    simp only [stripPrefix, String.toList_ofList, withoutScheme]
    split
    · rfl
    · split <;> rfl
  rw [normalizeInstanceHostname, toAsciiLowercase, trim, String.toList_ofList]
  show (if String.ofList ((trimmed isWhitespace input.toList).map lowerChar) = "" then none
    else _) = _
  by_cases hempty : (trimmed isWhitespace input.toList).map lowerChar = []
  · rw [if_pos (by rw [hempty]), hostPart, hempty]
    rfl
  · rw [if_neg (by rwa [ofList_eq_empty_iff])]
    simp only [hscheme, trim, trimEndMatches, before, String.toList_ofList, contains,
      ofList_eq_empty_iff]
    have hcolon : (fun c : Char => !([':'].contains c)) = (· != ':') := by
      funext c
      by_cases hc : c = ':'
      · simp [hc]
      · simp [hc]
    have hat : ∀ cs : List Char, containsChars "@".toList cs = true ↔ '@' ∈ cs :=
      fun _ => containsChars_singleton
    rw [hcolon]
    simp only [hat]
    rfl

/-! ## What a host is written as -/

/-- A host, in lower case: a name, or an address in brackets. -/
structure Host where
  chars : List Char
  nonempty : chars ≠ []
  plain : ∀ c ∈ chars, isWhitespace c = false ∧ isHostStop c = false ∧ c ≠ '@'
  ends : Ends (· == '.') chars
  colon : ':' ∈ chars → chars.head? = some '['

/-- One way to write a host. -/
structure Spelling (host : Host) where
  lead : List Char
  scheme : List Char
  name : List Char
  dot : Bool
  port : Option (List Char)
  rest : List Char
  trail : List Char
  lead_blank : ∀ c ∈ lead, isWhitespace c = true
  trail_blank : ∀ c ∈ trail, isWhitespace c = true
  scheme_http : scheme.map lowerChar = [] ∨ scheme.map lowerChar = "http://".toList ∨
    scheme.map lowerChar = "https://".toList
  name_lower : name.map lowerChar = host.chars
  port_digits : ∀ digits ∈ port, digits ≠ [] ∧ ∀ c ∈ digits, c.isDigit = true
  rest_stops : Stops (fun c => !isHostStop c) rest

namespace Spelling

variable {host : Host} (s : Spelling host)

/-- The trailing dot. -/
def dots : List Char := if s.dot then ['.'] else []

/-- The port with its colon. -/
def portText : List Char := (s.port.map fun digits => ':' :: digits).getD []

/-- The host is written with both a trailing dot and a port. -/
def dotBeforePort : Bool := s.dot && s.port.isSome

/-- The host as it is written. -/
def text : String :=
  String.ofList (s.lead ++ (s.scheme ++ s.name ++ s.dots ++ s.portText) ++ (s.rest ++ s.trail))

end Spelling

/-! ## Case -/

theorem isHostStop_lowerChar (c : Char) : isHostStop (lowerChar c) = isHostStop c := by
  refine test_lowerChar (fun c hlow hhigh => ?_) c
  simp only [isHostStop, List.contains_eq_mem, List.mem_cons, List.not_mem_nil, or_false,
    decide_eq_false_iff_not, not_or]
  refine ⟨?_, ?_, ?_⟩ <;> rintro rfl <;> revert hlow <;> decide

/-! ## What a spelling is read as -/

variable {c : Char}

namespace Spelling

variable {host : Host} (s : Spelling host)

/-- The lower case text between the scheme and the path, query or fragment. -/
def core : List Char := host.chars ++ s.dots ++ s.portText

/-- What the characters of a port are not. -/
theorem portText_plain (h : c ∈ s.portText) :
    isWhitespace c = false ∧ isHostStop c = false ∧ c ≠ '@' ∧ c ≠ '.' := by
  cases hport : s.port with
  | none => simp [portText, hport] at h
  | some digits =>
    rw [portText, hport, Option.map_some, Option.getD_some, List.mem_cons] at h
    rcases h with rfl | h
    · decide
    · have hdigit := (s.port_digits digits hport).2 c h
      refine ⟨isWhitespace_digit hdigit, ?_, ?_, ?_⟩
      · rw [isHostStop, List.contains_eq_mem, decide_eq_false_iff_not]
        intro hmem
        simp only [List.mem_cons, List.not_mem_nil, or_false] at hmem
        rcases hmem with rfl | rfl | rfl <;> revert hdigit <;> decide
      · rintro rfl
        revert hdigit
        decide
      · rintro rfl
        revert hdigit
        decide

theorem core_plain (h : c ∈ s.core) : isWhitespace c = false ∧ isHostStop c = false ∧ c ≠ '@' := by
  rw [core, List.mem_append, List.mem_append] at h
  rcases h with (h | h) | h
  · exact host.plain c h
  · rw [dots] at h
    split at h
    · obtain rfl := List.mem_singleton.mp h
      decide
    · cases h
  · obtain ⟨hblank, hstop, hat, -⟩ := s.portText_plain h
    exact ⟨hblank, hstop, hat⟩

/-- The scheme in lower case. -/
def lowerScheme : List Char := s.scheme.map lowerChar

theorem lowerScheme_plain (h : c ∈ s.lowerScheme) : isWhitespace c = false := by
  have hplain : ∀ c ∈ "http://".toList ++ "https://".toList, isWhitespace c = false :=
    forall_mem_of_all (by decide)
  rw [lowerScheme] at h
  rcases s.scheme_http with hs | hs | hs
  · rw [hs] at h
    cases h
  · rw [hs] at h
    exact hplain c (List.mem_append_left _ h)
  · rw [hs] at h
    exact hplain c (List.mem_append_right _ h)

theorem map_lowerChar_core :
    (s.scheme ++ s.name ++ s.dots ++ s.portText).map lowerChar = s.lowerScheme ++ s.core := by
  have hdots : s.dots.map lowerChar = s.dots := by
    rw [dots]
    split <;> rfl
  have hport : s.portText.map lowerChar = s.portText := by
    cases hport : s.port with
    | none => simp [portText, hport]
    | some digits =>
      have hdigits := map_lowerChar_digits (s.port_digits digits hport).2
      simp [portText, hport, hdigits]
      decide
  rw [List.map_append, List.map_append, List.map_append, hdots, hport, s.name_lower, core,
    lowerScheme]
  simp only [List.append_assoc]

theorem core_ne_nil : s.core ≠ [] := by
  intro h
  rw [core, List.append_assoc] at h
  exact host.nonempty (List.append_eq_nil_iff.mp h).1

/-- What trimming leaves after the host is empty or starts where the host part ends. -/
theorem tail_stops :
    Stops (fun c => !isHostStop c) ((s.rest ++ s.trail).rdropWhile isWhitespace) := by
  cases hrest : s.rest with
  | nil =>
    have hnil : s.trail.rdropWhile isWhitespace = [] := List.rdropWhile_eq_nil_iff.mpr s.trail_blank
    rw [List.nil_append, hnil]
    exact stops_nil
  | cons c rest =>
    have hstop : isHostStop c = true := by
      have hstops := s.rest_stops
      rw [hrest, stops_cons] at hstops
      simpa using hstops
    have hblank : isWhitespace c = false := by
      rw [isHostStop, List.contains_eq_mem, decide_eq_true_eq] at hstop
      simp only [List.mem_cons, List.not_mem_nil, or_false] at hstop
      rcases hstop with rfl | rfl | rfl <;> decide
    have hcons := rdropWhile_append_cons (l := []) (r := rest ++ s.trail) hblank
    rw [List.nil_append, List.nil_append] at hcons
    rw [List.cons_append, hcons, stops_cons]
    simp [hstop]

theorem stops_map_lowerChar {l : List Char} (h : Stops (fun c => !isHostStop c) l) :
    Stops (fun c => !isHostStop c) (l.map lowerChar) := by
  cases l with
  | nil => exact h
  | cons c l =>
    rw [stops_cons] at h
    rw [List.map_cons, stops_cons, isHostStop_lowerChar]
    exact h

variable {tail : List Char}

/-- Without a scheme a host does not read as one: the first of the characters that end a
name would be the colon of the scheme. -/
theorem no_scheme (htail : Stops (fun c => !isHostStop c) tail) {letters : List Char}
    (hletters : ∀ c ∈ letters, c ≠ ':' ∧ isHostStop c = false)
    (hhead : letters.head? = some 'h') :
    startsWithChars (s.core ++ tail) (letters ++ "://".toList) = false := by
  rw [Bool.eq_false_iff]
  intro hstarts
  obtain ⟨rest, hrest⟩ := startsWithChars_iff.mp hstarts
  have hcut : (s.core ++ tail).dropWhile (fun c => c != ':' && !isHostStop c) =
      ':' :: '/' :: '/' :: rest := by
    rw [← hrest, List.append_assoc]
    refine dropWhile_append_of_stops (fun c hc => ?_) (stops_cons.mpr (by decide))
    obtain ⟨hne, hstop⟩ := hletters c hc
    simp [hne, hstop]
  by_cases hcolon : ':' ∈ host.chars
  · -- an address in brackets starts with another character
    have hbracket := host.colon hcolon
    have hfirst : (s.core ++ tail).head? = some '[' := by
      rw [core, List.append_assoc, List.append_assoc, List.head?_append, hbracket]
      rfl
    rw [← hrest, List.append_assoc, List.head?_append, hhead] at hfirst
    exact absurd (Option.some.inj hfirst) (by decide)
  · have hname : ∀ c ∈ host.chars ++ s.dots, (c != ':' && !isHostStop c) = true := by
      intro c hc
      rcases List.mem_append.mp hc with hc | hc
      · have hne : c ≠ ':' := fun heq => hcolon (heq ▸ hc)
        simp [hne, (host.plain c hc).2.1]
      · rw [dots] at hc
        split at hc
        · obtain rfl := List.mem_singleton.mp hc
          decide
        · cases hc
    rw [core, List.append_assoc, List.dropWhile_append_of_pos hname] at hcut
    cases hport : s.port with
    | none =>
      rw [portText, hport, Option.map_none, Option.getD_none, List.nil_append] at hcut
      cases tail with
      | nil => cases hcut
      | cons c tail =>
        have hstop : isHostStop c = true := by simpa using stops_cons.mp htail
        rw [List.dropWhile_cons_of_neg (by simp [hstop])] at hcut
        obtain rfl := (List.cons.inj hcut).1
        revert hstop
        decide
    | some digits =>
      obtain ⟨hne, hdigits⟩ := s.port_digits digits hport
      rw [portText, hport, Option.map_some, Option.getD_some, List.cons_append,
        List.dropWhile_cons_of_neg (by decide)] at hcut
      cases digits with
      | nil => exact hne rfl
      | cons d digits =>
        have hslash : d = '/' := (List.cons.inj (List.cons.inj hcut).2).1
        have hdigit := hdigits d (by simp)
        rw [hslash] at hdigit
        revert hdigit
        decide

variable (value : List Char)

theorem withoutScheme_https : withoutScheme ("https://".toList ++ value) = value := by
  rw [withoutScheme, if_pos (startsWithChars_iff.mpr (List.prefix_append _ _))]
  rfl

theorem withoutScheme_http : withoutScheme ("http://".toList ++ value) = value := by
  have hhttps : startsWithChars ("http://".toList ++ value) "https://".toList = false := rfl
  rw [withoutScheme, hhttps, if_neg Bool.false_ne_true,
    if_pos (startsWithChars_iff.mpr (List.prefix_append _ _))]
  rfl

theorem withoutScheme_core (htail : Stops (fun c => !isHostStop c) tail) :
    withoutScheme (s.lowerScheme ++ s.core ++ tail) = s.core ++ tail := by
  rcases s.scheme_http with hscheme | hscheme | hscheme
  · have hhttps : startsWithChars (s.core ++ tail) ("https".toList ++ "://".toList) = false :=
      s.no_scheme htail (forall_mem_of_all (by decide)) (by decide)
    have hhttp : startsWithChars (s.core ++ tail) ("http".toList ++ "://".toList) = false :=
      s.no_scheme htail (forall_mem_of_all (by decide)) (by decide)
    rw [withoutScheme, lowerScheme, hscheme, List.nil_append]
    show (if startsWithChars (s.core ++ tail) ("https".toList ++ "://".toList) = true then _
      else if startsWithChars (s.core ++ tail) ("http".toList ++ "://".toList) = true then _
      else _) = _
    rw [hhttps, hhttp, if_neg Bool.false_ne_true, if_neg Bool.false_ne_true]
  · rw [lowerScheme, hscheme, List.append_assoc, withoutScheme_http]
  · rw [lowerScheme, hscheme, List.append_assoc, withoutScheme_https]

/-- **The host part** of every spelling is the host with the dot and the port. -/
theorem hostPart_text : hostPart s.text = s.core := by
  have hplain : ∀ c ∈ s.scheme ++ s.name ++ s.dots ++ s.portText, isWhitespace c = false := by
    intro c hc
    have hmem := List.mem_map_of_mem (f := lowerChar) hc
    rw [map_lowerChar_core, List.mem_append] at hmem
    rw [← isWhitespace_lowerChar]
    rcases hmem with hmem | hmem
    · exact s.lowerScheme_plain hmem
    · exact (s.core_plain hmem).1
  have hne : s.scheme ++ s.name ++ s.dots ++ s.portText ≠ [] := by
    intro hnil
    have hmap := s.map_lowerChar_core
    rw [hnil, List.map_nil] at hmap
    exact s.core_ne_nil (List.append_eq_nil_iff.mp hmap.symm).2
  have htail := stops_map_lowerChar s.tail_stops
  rw [hostPart, text, String.toList_ofList,
    trimmed_append s.lead_blank (stops_of_forall hplain) (ends_of_forall hplain) hne,
    List.map_append, map_lowerChar_core, s.withoutScheme_core htail,
    takeWhile_append_of_stops (fun c hc => by simp [(s.core_plain hc).2.1]) htail]
  exact trimmed_of_forall fun c hc => (s.core_plain hc).1

/-- A port keeps the dot in front of it from being dropped. -/
theorem rdropWhile_core :
    s.core.rdropWhile (· == '.') =
      host.chars ++ ((if s.dotBeforePort then ['.'] else []) ++ s.portText) := by
  have hdots : ∀ c ∈ s.dots, (c == '.') = true := by
    intro c hc
    rw [dots] at hc
    split at hc
    · obtain rfl := List.mem_singleton.mp hc
      rfl
    · cases hc
  cases hport : s.port with
  | none =>
    have htext : s.portText = [] := by simp [portText, hport]
    rw [core, htext, List.append_nil, rdropWhile_append_of_pos hdots, rdropWhile_of_ends host.ends]
    simp [dotBeforePort, hport]
  | some digits =>
    have hends : Ends (· == '.') s.portText :=
      ends_of_forall fun c hc => by simp [(s.portText_plain hc).2.2.2]
    have hne : s.portText ≠ [] := by simp [portText, hport]
    have hcore : Ends (· == '.') s.core := ends_append hends hne
    rw [rdropWhile_of_ends hcore, core, dots, List.append_assoc]
    simp [dotBeforePort, hport]

/-- **What a spelling is read as**: the host up to its first colon, with the dot if a port
follows it. -/
theorem normalize_text :
    normalizeInstanceHostname s.text =
      some (String.ofList ((host.chars ++ if s.dotBeforePort then ['.'] else []).takeWhile
        (· != ':'))) := by
  have hname : (s.core.rdropWhile (· == '.')).takeWhile (· != ':') =
      (host.chars ++ if s.dotBeforePort then ['.'] else []).takeWhile (· != ':') := by
    have hstop : Stops (· != ':') s.portText := by
      cases hport : s.port with
      | none => simp [portText, hport]
      | some digits => simp [portText, hport]
    rw [rdropWhile_core, ← List.append_assoc, takeWhile_append_stops _ hstop]
  have hsub : ∀ c ∈ s.core.rdropWhile (· == '.'), c ∈ s.core := fun c hc =>
    (List.rdropWhile_prefix _ _).subset hc
  have hne : s.core.rdropWhile (· == '.') ≠ [] := by
    rw [rdropWhile_core]
    intro hnil
    exact host.nonempty (List.append_eq_nil_iff.mp hnil).1
  have hat : '@' ∉ s.core.rdropWhile (· == '.') := fun hmem =>
    (s.core_plain (hsub _ hmem)).2.2 rfl
  have htrim : trimmed isWhitespace ((s.core.rdropWhile (· == '.')).takeWhile (· != ':')) =
      (s.core.rdropWhile (· == '.')).takeWhile (· != ':') :=
    trimmed_of_forall fun c hc =>
      (s.core_plain (hsub _ ((List.takeWhile_prefix _).subset hc))).1
  rw [normalizeInstanceHostname_eq, hostPart_text, hostOf]
  rw [hname] at htrim
  simp only [hname, htrim]
  rw [if_neg (by simp only [hne, hat, or_self, not_false_eq_true])]
  have hfirst : (host.chars ++ if s.dotBeforePort then ['.'] else []).takeWhile (· != ':') ≠ [] := by
    obtain ⟨c, chars, hchars⟩ := List.exists_cons_of_ne_nil host.nonempty
    have hc : c ≠ ':' := by
      rintro rfl
      have hbracket := host.colon (by simp [hchars])
      rw [hchars, List.head?_cons] at hbracket
      exact absurd (Option.some.inj hbracket) (by decide)
    rw [hchars, List.cons_append, List.takeWhile_cons_of_pos (by simp [hc])]
    exact List.cons_ne_nil _ _
  rw [if_neg hfirst]

/-- **Two spellings of one host** are read as the same just when both or neither have a
dot in front of a port; an address in brackets is cut at its first colon and is read the
same in every spelling. -/
theorem normalize_agree_iff (s s' : Spelling host) :
    normalizeInstanceHostname s.text = normalizeInstanceHostname s'.text ↔
      ':' ∈ host.chars ∨ s.dotBeforePort = s'.dotBeforePort := by
  rw [normalize_text, normalize_text]
  by_cases hcolon : ':' ∈ host.chars
  · have hcut : ∀ tail : List Char, (host.chars ++ tail).takeWhile (· != ':') =
        host.chars.takeWhile (· != ':') := fun tail => takeWhile_append_of_mem tail hcolon rfl
    rw [hcut, hcut]
    simp [hcolon]
  · have hplain : ∀ dot : Bool, (host.chars ++ if dot then ['.'] else []).takeWhile (· != ':') =
        host.chars ++ if dot then ['.'] else [] := by
      intro dot
      refine List.takeWhile_eq_self_iff.mpr fun c hc => ?_
      rcases List.mem_append.mp hc with hc | hc
      · have hne : c ≠ ':' := fun heq => hcolon (heq ▸ hc)
        simp [hne]
      · cases dot with
        | false => cases hc
        | true =>
          obtain rfl := List.mem_singleton.mp hc
          rfl
    rw [hplain, hplain]
    constructor
    · intro h
      right
      have hchars := String.ofList_injective (Option.some.inj h)
      have hdots := List.append_cancel_left hchars
      cases hs : s.dotBeforePort with
      | false =>
        cases hs' : s'.dotBeforePort with
        | false => rfl
        | true => simp [hs, hs'] at hdots
      | true =>
        cases hs' : s'.dotBeforePort with
        | false => simp [hs, hs'] at hdots
        | true => rfl
    · rintro (h | h)
      · exact absurd h hcolon
      · rw [h]

end Spelling

/-! ## Normalising twice -/

variable {part : List Char}

/-- **A stray dot**: a dot followed, after white space only, by the first colon of the
host part; or, after at least one white space, by the dots at its end. -/
def StrayDot (part : List Char) : Prop :=
  ∃ name blank rest : List Char, part = name ++ '.' :: blank ++ rest ∧
    (∀ c ∈ blank, isWhitespace c = true) ∧ ':' ∉ name ∧
      (rest.head? = some ':' ∨ blank ≠ [] ∧ rest ≠ [] ∧ ∀ c ∈ rest, c = '.')

/-- The name of a host part. -/
def nameOf (part : List Char) : List Char :=
  trimmed isWhitespace ((part.rdropWhile (· == '.')).takeWhile (· != ':'))

theorem hostOf_eq_some {x : String} (h : hostOf part = some x) :
    x = String.ofList (nameOf part) ∧ nameOf part ≠ [] ∧ '@' ∉ part.rdropWhile (· == '.') := by
  rw [hostOf] at h
  simp only at h
  split at h
  · cases h
  · rename_i hhost
    split at h
    · cases h
    · rename_i hname
      exact ⟨(Option.some.inj h).symm, hname, fun hat => hhost (.inr hat)⟩

/-- Where the name of a trimmed host part ends: before white space, then a colon or the
dots at the end. -/
theorem exists_nameOf (hstart : Stops isWhitespace part) :
    ∃ blank rest dots : List Char, part = nameOf part ++ blank ++ rest ++ dots ∧
      (∀ c ∈ blank, isWhitespace c = true) ∧ (rest = [] ∨ rest.head? = some ':') ∧
        (∀ c ∈ dots, c = '.') ∧ ':' ∉ nameOf part ∧
          Ends (· == '.') (nameOf part ++ blank ++ rest) := by
  obtain ⟨dots, hdots, halldots⟩ := exists_rdropWhile (· == '.') part
  have hstarts : (part.rdropWhile (· == '.')).takeWhile (· != ':') <+: part :=
    (List.takeWhile_prefix _).trans (List.rdropWhile_prefix _ _)
  obtain ⟨blank, hblank, hallblank⟩ := exists_rdropWhile isWhitespace
    ((part.rdropWhile (· == '.')).takeWhile (· != ':'))
  have hname : nameOf part =
      ((part.rdropWhile (· == '.')).takeWhile (· != ':')).rdropWhile isWhitespace :=
    trimmed_prefix hstart hstarts
  rw [← hname] at hblank
  have hcut : nameOf part ++ blank ++ (part.rdropWhile (· == '.')).dropWhile (· != ':') =
      part.rdropWhile (· == '.') := by
    rw [← hblank, List.takeWhile_append_dropWhile]
  refine ⟨blank, (part.rdropWhile (· == '.')).dropWhile (· != ':'), dots, ?_, hallblank, ?_, ?_,
    ?_, ?_⟩
  · rw [hcut]
    exact hdots
  · have hstops := stops_dropWhile (p := (· != ':')) (part.rdropWhile (· == '.'))
    cases hrest : (part.rdropWhile (· == '.')).dropWhile (· != ':') with
    | nil => exact .inl rfl
    | cons c rest =>
      rw [hrest, stops_cons] at hstops
      obtain rfl : c = ':' := by simpa using hstops
      exact .inr rfl
  · intro c hc
    simpa using halldots c hc
  · intro hmem
    have hin : ':' ∈ (part.rdropWhile (· == '.')).takeWhile (· != ':') := by
      rw [hblank]
      exact List.mem_append_left _ hmem
    have hnot := List.mem_takeWhile_imp hin
    exact absurd hnot (by decide)
  · rw [hcut]
    exact ends_rdropWhile part

theorem blank_ne {c d : Char} (hc : isWhitespace c = true) (hd : isWhitespace d = false) :
    c ≠ d := by
  rintro rfl
  exact Bool.false_ne_true (hd.symm.trans hc)

/-- The name of a trimmed host part ends with a dot just when the part has a stray one. -/
theorem strayDot_iff (hstart : Stops isWhitespace part)
    (hend : Ends isWhitespace part) : StrayDot part ↔ ∃ init, nameOf part = init ++ ['.'] := by
  constructor
  · rintro ⟨name, blank, rest, hpart, hblank, hcolon, hrest⟩
    refine ⟨name, ?_⟩
    -- in both cases the name is cut after the white space
    have hcut : (part.rdropWhile (· == '.')).takeWhile (· != ':') = name ++ '.' :: blank := by
      have hplain : ∀ c ∈ name ++ '.' :: blank, (c != ':') = true := by
        intro c hc
        rw [List.mem_append, List.mem_cons] at hc
        rcases hc with hc | rfl | hc
        · have hne : c ≠ ':' := fun heq => hcolon (heq ▸ hc)
          simp [hne]
        · rfl
        · simp [blank_ne (hblank c hc) (show isWhitespace ':' = false from rfl)]
      rcases hrest with hrest | ⟨hne, -, hdots⟩
      · obtain ⟨r, rfl⟩ : ∃ r, rest = ':' :: r := by
          cases rest with
          | nil => cases hrest
          | cons c r => exact ⟨r, by rw [Option.some.inj hrest]⟩
        rw [hpart, rdropWhile_append_cons (by rfl)]
        exact takeWhile_append_of_stops hplain (stops_cons.mpr rfl)
      · have hlast : Ends (· == '.') (name ++ '.' :: blank) := by
          have hcons : name ++ '.' :: blank = name ++ ['.'] ++ blank := by simp
          rw [hcons]
          refine ends_append (ends_of_forall fun c hc => ?_) hne
          simp [blank_ne (hblank c hc) (show isWhitespace '.' = false from rfl)]
        rw [hpart, rdropWhile_append_of_pos (fun c hc => by simp [hdots c hc]),
          rdropWhile_of_ends hlast]
        exact List.takeWhile_eq_self_iff.mpr hplain
    have hstarts : name ++ '.' :: blank <+: part := ⟨rest, hpart.symm⟩
    have hcons : name ++ '.' :: blank = name ++ ['.'] ++ blank := by simp
    rw [nameOf, hcut, trimmed_prefix hstart hstarts, hcons, rdropWhile_append_of_pos hblank]
    exact List.rdropWhile_concat_neg _ _ _ (by decide)
  · rintro ⟨init, hinit⟩
    obtain ⟨blank, rest, dots, hpart, hblank, hrest, hdots, hcolon, hends⟩ := exists_nameOf hstart
    rw [hinit] at hpart hcolon hends
    have hname : ':' ∉ init := fun hmem => hcolon (List.mem_append_left _ hmem)
    rcases hrest with rfl | hrest
    · -- no colon: the name is followed by white space and the dots at the end
      have hne : blank ≠ [] := by
        rintro rfl
        have hdot := hends '.' (by simp)
        exact absurd hdot (by decide)
      refine ⟨init, blank, dots, ?_, hblank, hname, .inr ⟨hne, ?_, hdots⟩⟩
      · simpa using hpart
      · rintro rfl
        have hlast := hend (blank.getLast hne) (by
          rw [hpart, List.append_nil, List.append_nil, List.getLast?_append_of_ne_nil _ hne,
            List.getLast?_eq_getLast_of_ne_nil hne, Option.mem_some_iff])
        rw [hblank _ (List.getLast_mem hne)] at hlast
        cases hlast
    · refine ⟨init, blank, rest ++ dots, ?_, hblank, hname, .inl ?_⟩
      · rw [hpart]
        simp
      · rw [List.head?_append, hrest]
        rfl

/-- The characters of a host part. -/
theorem mem_hostPart {input : String} (h : c ∈ hostPart input) :
    isHostStop c = false ∧ lowerChar c = c := by
  have htake := mem_of_mem_trimmed h
  refine ⟨by simpa using List.mem_takeWhile_imp htake, ?_⟩
  have hvalue := (List.takeWhile_prefix _).subset htake
  have hlower : c ∈ (trimmed isWhitespace input.toList).map lowerChar := by
    rw [withoutScheme] at hvalue
    split at hvalue
    · exact List.mem_of_mem_drop hvalue
    · split at hvalue
      · exact List.mem_of_mem_drop hvalue
      · exact hvalue
  obtain ⟨d, -, rfl⟩ := List.mem_map.mp hlower
  exact lowerChar_lowerChar d

/-- A trimmed list of lower case characters that end no host is its own host part. -/
theorem hostPart_self {name : List Char} (hstart : Stops isWhitespace name)
    (hend : Ends isWhitespace name)
    (hplain : ∀ c ∈ name, isHostStop c = false ∧ lowerChar c = c) :
    hostPart (String.ofList name) = name := by
  have hself := trimmed_of hstart hend
  have hlower : name.map lowerChar = name := by
    rw [List.map_congr_left fun c hc => (hplain c hc).2, List.map_id']
  have hslash : ∀ scheme : List Char, '/' ∈ scheme → ¬ startsWithChars name scheme = true := by
    intro scheme hscheme hstarts
    have hmem : '/' ∈ name := (startsWithChars_iff.mp hstarts).subset hscheme
    exact absurd (hplain _ hmem).1 (by decide)
  have hscheme : withoutScheme name = name := by
    rw [withoutScheme, if_neg (hslash "https://".toList (by decide)),
      if_neg (hslash "http://".toList (by decide))]
  rw [hostPart, String.toList_ofList, hself, hlower, hscheme,
    List.takeWhile_eq_self_iff.mpr fun c hc => by simp [(hplain c hc).1], hself]

/-- **Normalising twice** gives the same name just when the host part has no stray dot. -/
theorem normalize_twice_iff {input name : String}
    (h : normalizeInstanceHostname input = some name) :
    normalizeInstanceHostname name = some name ↔ ¬ StrayDot (hostPart input) := by
  rw [normalizeInstanceHostname_eq] at h
  have hstart : Stops isWhitespace (hostPart input) := stops_trimmed _
  have hend : Ends isWhitespace (hostPart input) := ends_trimmed _
  obtain ⟨rfl, hne, hat⟩ := hostOf_eq_some h
  have hmem : ∀ c ∈ nameOf (hostPart input), c ≠ ':' ∧
      c ∈ (hostPart input).rdropWhile (· == '.') := by
    intro c hc
    have htake := mem_of_mem_trimmed hc
    exact ⟨by simpa using List.mem_takeWhile_imp htake, (List.takeWhile_prefix _).subset htake⟩
  have hpart : hostPart (String.ofList (nameOf (hostPart input))) = nameOf (hostPart input) :=
    hostPart_self (stops_trimmed _) (ends_trimmed _) fun c hc =>
      mem_hostPart ((List.rdropWhile_prefix _ _).subset (hmem c hc).2)
  rw [normalizeInstanceHostname_eq, hpart, strayDot_iff hstart hend]
  set name := nameOf (hostPart input) with hname
  constructor
  · rintro htwice ⟨init, hinit⟩
    have heq := String.ofList_injective (hostOf_eq_some htwice).1
    -- the dot at the end is dropped the second time
    have hshort : (nameOf name).length ≤ init.length := by
      have hdrop : name.rdropWhile (· == '.') = init.rdropWhile (· == '.') := by
        rw [hinit]
        exact List.rdropWhile_concat_pos _ _ _ rfl
      calc (nameOf name).length
          ≤ ((name.rdropWhile (· == '.')).takeWhile (· != ':')).length :=
            (trimmed_sublist _).length_le
        _ ≤ (name.rdropWhile (· == '.')).length := (List.takeWhile_prefix _).length_le
        _ = (init.rdropWhile (· == '.')).length := by rw [hdrop]
        _ ≤ init.length := (List.rdropWhile_prefix _ _).length_le
    rw [← heq, hinit, List.length_append, List.length_singleton] at hshort
    omega
  · intro hdot
    have hlast : Ends (· == '.') name := by
      intro c hc
      rw [beq_eq_false_iff_ne]
      rintro rfl
      exact hdot ⟨name.dropLast, (List.dropLast_append_getLast? '.' hc).symm⟩
    have htake : name.takeWhile (· != ':') = name :=
      List.takeWhile_eq_self_iff.mpr fun c hc => by simp [(hmem c hc).1]
    have hself : trimmed isWhitespace name = name := trimmed_of (stops_trimmed _) (ends_trimmed _)
    have hno : '@' ∉ name := fun hin => hat (hmem _ hin).2
    rw [hostOf]
    simp only [rdropWhile_of_ends hlast, htake, hself]
    rw [if_neg (by simp [hne, hno]), if_neg hne]

/-! ## The production context -/

variable {l : List String}

/-- `normalize_production_hosts`: `dedup` keeps one of each run of equal names. -/
def normalizeProductionHosts (hosts : List String) : List String :=
  ((hosts.filterMap normalizeInstanceHostname).mergeSort fun a b => decide (a ≤ b)).destutter
    (· ≠ ·)

theorem mem_destutter' {a x : String} : x ∈ l.destutter' (· ≠ ·) a ↔ x = a ∨ x ∈ l := by
  induction l generalizing a with
  | nil => simp
  | cons b l ih =>
    by_cases hab : a = b
    · subst hab
      rw [List.destutter'_cons_neg l (by simp), ih, List.mem_cons, ← or_assoc, or_self]
    · rw [List.destutter'_cons_pos l hab, List.mem_cons, ih, List.mem_cons]

theorem mem_destutter {x : String} : x ∈ l.destutter (· ≠ ·) ↔ x ∈ l := by
  cases l with
  | nil => rfl
  | cons a l => rw [List.destutter_cons', mem_destutter', List.mem_cons]

theorem mem_normalizeProductionHosts {hosts : List String} {name : String} :
    name ∈ normalizeProductionHosts hosts ↔
      ∃ host ∈ hosts, normalizeInstanceHostname host = some name := by
  rw [normalizeProductionHosts, mem_destutter, List.mem_mergeSort, List.mem_filterMap]

/-- **A board of a configured host** is in the production context when its host is written
like the configured one, up to a dot in front of a port. -/
theorem isStoryProductionContext_of_spellings {policy : PolicyConfig} {hosts : List String}
    (hpolicy : policy.productionHosts = normalizeProductionHosts hosts) {host : Host}
    {s s' : Spelling host} (hs : s.text ∈ hosts) {binding : BoardBinding}
    (hbinding : binding.instanceHost = s'.text)
    (hagree : ':' ∈ host.chars ∨ s.dotBeforePort = s'.dotBeforePort)
    (environment : McpEnvironment) :
    policy.isStoryProductionContext environment binding = true := by
  have hsame := (Spelling.normalize_agree_iff s s').mpr hagree
  have hname := s'.normalize_text
  have hmem : _ ∈ policy.productionHosts :=
    hpolicy ▸ mem_normalizeProductionHosts.mpr ⟨s.text, hs, hsame.trans hname⟩
  rw [PolicyConfig.isStoryProductionContext, hbinding, hname, Bool.or_eq_true]
  right
  simpa using hmem

/-- **Production hosts.**  Two spellings of a host are read as the same, and reading twice
changes nothing, just when no dot is left in front of a port; a board of a configured
host is then never missed. -/
theorem host_names_exact (host : Host) (s s' : Spelling host) :
    (normalizeInstanceHostname s.text = normalizeInstanceHostname s'.text ↔
      ':' ∈ host.chars ∨ s.dotBeforePort = s'.dotBeforePort) ∧
    (∀ input name, normalizeInstanceHostname input = some name →
      (normalizeInstanceHostname name = some name ↔ ¬ StrayDot (hostPart input))) ∧
    ∀ (policy : PolicyConfig) (hosts : List String) (binding : BoardBinding)
      (environment : McpEnvironment),
      policy.productionHosts = normalizeProductionHosts hosts → s.text ∈ hosts →
      binding.instanceHost = s'.text →
      (':' ∈ host.chars ∨ s.dotBeforePort = s'.dotBeforePort) →
      policy.isStoryProductionContext environment binding = true :=
  ⟨Spelling.normalize_agree_iff s s', fun _ _ h => normalize_twice_iff h,
    fun _ _ _ environment hpolicy hs hbinding hagree =>
      isStoryProductionContext_of_spellings hpolicy hs hbinding hagree environment⟩

/-- A production host. -/
def prodHost : Host where
  chars := "sn.com".toList
  nonempty := by decide
  plain := forall_mem_of_all (by decide)
  ends := by
    intro c hc
    obtain rfl : 'm' = c := by simpa using hc
    rfl
  colon := by decide

theorem digits443 : ∀ digits ∈ some "443".toList,
    digits ≠ [] ∧ ∀ c ∈ digits, c.isDigit = true := by
  intro digits hdigits
  obtain rfl := Option.mem_some_iff.mp hdigits
  exact ⟨by decide, forall_mem_of_all (by decide)⟩

/-- The host as a web address, with a path. -/
def prodAddress : Spelling prodHost where
  lead := [' ']
  scheme := "HTTPS://".toList
  name := "SN.com".toList
  dot := false
  port := some "443".toList
  rest := "/now?x=1".toList
  trail := []
  lead_blank := forall_mem_of_all (by decide)
  trail_blank := forall_mem_of_all (by decide)
  scheme_http := by decide
  name_lower := by decide
  port_digits := digits443
  rest_stops := stops_cons.mpr (by decide)

/-- The host alone, perhaps with a dot, and perhaps with a port. -/
def prodPlain (dot : Bool) (port : Option (List Char))
    (hport : ∀ digits ∈ port, digits ≠ [] ∧ ∀ c ∈ digits, c.isDigit = true) :
    Spelling prodHost where
  lead := []
  scheme := []
  name := "sn.com".toList
  dot := dot
  port := port
  rest := []
  trail := []
  lead_blank := by simp
  trail_blank := by simp
  scheme_http := by simp
  name_lower := by decide
  port_digits := hport
  rest_stops := stops_nil

/-- A web address and the host alone with a dot are read as the same host. -/
theorem host_names_exact_address :
    normalizeInstanceHostname prodAddress.text =
        normalizeInstanceHostname (prodPlain true none (by simp)).text ∧
      normalizeInstanceHostname "sn.com" = some "sn.com" := by
  have hread : normalizeInstanceHostname "sn.com." = some "sn.com" := by decide
  have hname : nameOf (hostPart "sn.com.") = "sn.com".toList := by decide
  have hdot : ¬ StrayDot (hostPart "sn.com.") := by
    have hstart : Stops isWhitespace (hostPart "sn.com.") := stops_trimmed _
    have hend : Ends isWhitespace (hostPart "sn.com.") := ends_trimmed _
    rw [strayDot_iff hstart hend, hname]
    rintro ⟨init, hinit⟩
    have hlast := congrArg List.getLast? hinit
    simp at hlast
  have hexact := host_names_exact prodHost prodAddress (prodPlain true none (by simp))
  exact ⟨hexact.1.mpr (.inr rfl), (hexact.2.1 "sn.com." "sn.com" hread).mpr hdot⟩

/-- A policy with one production host. -/
def prodPolicy : PolicyConfig where
  idempotencyWindowSeconds := 86400
  productionHosts := normalizeProductionHosts ["sn.com"]
  boards := []
  tools := []

/-- A board of the host as it is written. -/
def prodBoard (instanceHost : String) : BoardBinding where
  instanceHost := instanceHost
  boardSysId := "b1"
  storyTable := "rm_story"
  taskTable := "rm_scrum_task"
  assignmentGroup := "g1"
  allowedTaskAssignmentGroups := []
  allowedSprints := ["s1"]
  allowProduction := false
  allowedStoryStates := []
  allowedTaskStates := []
  allowedPriorities := []

/-- The host written with a dot and a port is read with its dot, which a second reading
drops, and a board that writes it so is not in the production context of the host. -/
theorem host_dot_kept :
    (prodPlain true (some "443".toList) digits443).text = "sn.com.:443" ∧
      normalizeInstanceHostname "sn.com.:443" = some "sn.com." ∧
      normalizeInstanceHostname "sn.com." = some "sn.com" ∧
      prodPolicy.isStoryProductionContext ⟨"test", .snowEnv⟩ (prodBoard "sn.com") = true ∧
      prodPolicy.isStoryProductionContext ⟨"test", .snowEnv⟩ (prodBoard "sn.com.:443") =
        false := by
  have hhosts : prodPolicy.productionHosts = ["sn.com"] := by
    have hone : ["sn.com"].filterMap normalizeInstanceHostname = ["sn.com"] := by decide
    show normalizeProductionHosts ["sn.com"] = ["sn.com"]
    rw [normalizeProductionHosts, hone, List.mergeSort_singleton]
    rfl
  refine ⟨by decide, by decide, by decide, ?_, ?_⟩
  · rw [PolicyConfig.isStoryProductionContext, hhosts]
    decide
  · rw [PolicyConfig.isStoryProductionContext, hhosts]
    decide

end SnowAgent
