import SnowAgent.Text
import SnowAgent.Primitives
import SnowAgent.TextLines
import SnowAgent.Trimming

/-! # Journal blobs

A journal field of ServiceNow is one text of several entries, each after a header line with a
time and an author.  The lines before the first header are an entry without author.  The text of
an entry is trimmed as a whole: what is lost are blanks at its two edges.

How the time of a header is read stays a parameter.
-/
namespace SnowAgent.Journal

open Text

/-- `JournalEntry`. -/
structure JournalEntry where
  timestamp : DateTime
  author : String
  body : String
deriving DecidableEq

/-- `NaiveDateTime::parse_from_str` with the format of headers, in UTC. -/
abbrev ParseTime := String → Option DateTime

/-! ## Headers -/

/-- The characters of the first `n` bytes and the rest, if the cut is between two characters. -/
def splitAtByte : Nat → List Char → Option (List Char × List Char)
  | 0, cs => some ([], cs)
  | _ + 1, [] => none
  | n + 1, c :: cs =>
    if c.utf8Size ≤ n + 1 then
      (splitAtByte (n + 1 - c.utf8Size) cs).map fun cut => (c :: cut.1, cut.2)
    else none

/-- `parse_journal_header`. -/
def parseJournalHeader (parseTime : ParseTime) (line : String) : Option (DateTime × String) :=
  if line.utf8ByteSize < 22 ∨ contains line " - " = false then none
  else do
    let (start, rest) ← splitAtByte 19 line.toList
    let timestamp ← parseTime (String.ofList start)
    let (separator, remainder) ← splitAtByte 3 rest
    if String.ofList separator ≠ " - " then none
    else some (timestamp, trim (before (String.ofList remainder) ['(']))

example : parseJournalHeader
    (fun text => if text = "2026-01-01 00:00:00" then some newYear else none)
    "2026-01-01 00:00:00 - Jo Ng (Work notes)" = some (newYear, "Jo Ng") := by decide

/-! ## The loop -/

/-- `str::lines`. -/
def linesOf (text : String) : List String := (TextLines.lines text.toList).map String.ofList

/-- Lines joined and trimmed. -/
def trimmedText (lines : List String) : String := trim ("\n".intercalate lines)

/-- The variables of the loop. -/
structure BlobState where
  entries : List JournalEntry
  currentTimestamp : Option DateTime
  currentAuthor : String
  preamble : List String
  body : List String

section Loop

variable (parseTime : ParseTime) (now : DateTime)

/-- The entry of the lines before the first header, if there is a text. -/
def unattributed (preamble : List String) : List JournalEntry :=
  if preamble ≠ [] ∧ trimmedText preamble ≠ "" then [⟨now, "", trimmedText preamble⟩] else []

/-- One line. -/
def blobStep (state : BlobState) (line : String) : BlobState :=
  match parseJournalHeader parseTime line with
  | some (timestamp, author) =>
    let flushed : BlobState :=
      if state.currentTimestamp.isNone ∧ state.preamble ≠ [] then
        { state with
          entries := state.entries ++ unattributed now state.preamble
          preamble := [] }
      else state
    match flushed.currentTimestamp with
    | some previous =>
      { flushed with
        entries := flushed.entries ++
          [⟨previous, flushed.currentAuthor, trimmedText flushed.body⟩]
        body := []
        currentTimestamp := some timestamp
        currentAuthor := author }
    | none =>
      { flushed with
        currentTimestamp := some timestamp
        currentAuthor := author }
  | none =>
    if state.currentTimestamp.isNone then { state with preamble := state.preamble ++ [line] }
    else { state with body := state.body ++ [line] }

/-- What is flushed after the last line. -/
def lastEntries (state : BlobState) : List JournalEntry :=
  match state.currentTimestamp with
  | some timestamp => [⟨timestamp, state.currentAuthor, trimmedText state.body⟩]
  | none => if state.preamble ≠ [] then unattributed now state.preamble else []

/-- The state before the first line. -/
def blobStart : BlobState := ⟨[], none, "", [], []⟩

/-- `parse_journal_blob`. -/
def parseJournalBlob (blob : String) : List JournalEntry :=
  let state := (linesOf blob).foldl (blobStep parseTime now) blobStart
  state.entries ++ lastEntries now state

end Loop

/-! ## What a blob is -/

/-- A header line and the lines up to the next one. -/
structure Part where
  header : String
  timestamp : DateTime
  author : String
  body : List String

/-- The entry of a part. -/
def Part.entry (part : Part) : JournalEntry := ⟨part.timestamp, part.author, trimmedText part.body⟩

/-- **The division of lines at their headers**: those before the first one, and the parts. -/
structure Division (parseTime : ParseTime) (lines preamble : List String) (parts : List Part) :
    Prop where
  lines_eq : lines = preamble ++ parts.flatMap fun part => part.header :: part.body
  unheaded : ∀ line ∈ preamble, parseJournalHeader parseTime line = none
  headed : ∀ part ∈ parts,
    parseJournalHeader parseTime part.header = some (part.timestamp, part.author) ∧
      ∀ line ∈ part.body, parseJournalHeader parseTime line = none

/-- The line is blank. -/
def Blank (line : String) : Prop := trim line = ""

instance : DecidablePred Blank := fun line => inferInstanceAs (Decidable (trim line = ""))

/-- A text has the lines of an entry but for blanks at its edges. -/
def Keeps (lines : List String) (text : String) : Prop :=
  ∃ front back, (∀ c ∈ front, isWhitespace c = true) ∧ (∀ c ∈ back, isWhitespace c = true) ∧
    ("\n".intercalate lines).toList = front ++ text.toList ++ back

/-! ## The division -/

section Division

variable {parseTime : ParseTime} {lines preamble : List String} {parts : List Part}

section

variable (h : Division parseTime lines preamble parts)

include h

/-- What is selected of the lines by whether they are headers. -/
theorem Division.selected (keep : Bool → Bool) :
    lines.filter (fun line => keep (parseJournalHeader parseTime line).isSome) =
      (if keep false then preamble else []) ++ parts.flatMap fun part =>
        (if keep true then [part.header] else []) ++ if keep false then part.body else [] := by
  have hplain : ∀ ls : List String, (∀ line ∈ ls, parseJournalHeader parseTime line = none) →
      ls.filter (fun line => keep (parseJournalHeader parseTime line).isSome) =
        if keep false then ls else [] := by
    intro ls hls
    rw [List.filter_congr fun line hline => by rw [hls line hline, Option.isSome_none]]
    cases keep false <;> simp
  rw [h.lines_eq, List.filter_append, hplain preamble h.unheaded, List.filter_flatMap]
  refine congrArg (_ ++ ·) (List.flatMap_congr fun part hpart => ?_)
  obtain ⟨hheader, hbody⟩ := h.headed part hpart
  rw [List.filter_cons, hheader, hplain part.body hbody, Option.isSome_some]
  cases keep true <;> rfl

theorem Division.headers :
    parts.map Part.header = lines.filter fun line => (parseJournalHeader parseTime line).isSome := by
  rw [List.map_eq_flatMap]
  simpa using (h.selected id).symm

theorem Division.bodies :
    preamble ++ parts.flatMap Part.body =
      lines.filter fun line => (parseJournalHeader parseTime line).isNone := by
  simpa using (h.selected (!·)).symm

end

end Division

/-! ## Trimmed texts -/

/-- Only blanks at the edges are lost. -/
theorem keeps_trimmedText (lines : List String) : Keeps lines (trimmedText lines) := by
  obtain ⟨front, back, hsplit, hfront, hback⟩ :=
    Trimming.exists_trimmed isWhitespace ("\n".intercalate lines).toList
  refine ⟨front, back, hfront, hback, ?_⟩
  rw [trimmedText, trim, String.toList_ofList]
  exact hsplit

theorem trimChars_eq_nil {cs : List Char} :
    trimChars cs = [] ↔ ∀ c ∈ cs, isWhitespace c = true := by
  obtain ⟨front, back, hsplit, hfront, hback⟩ := Trimming.exists_trimmed isWhitespace cs
  constructor
  · intro hnil c hc
    rw [hsplit, show Trimming.trimmed isWhitespace cs = [] from hnil, List.append_nil,
      List.mem_append] at hc
    exact hc.elim (hfront c) (hback c)
  · intro hall
    rw [trimChars_eq, List.dropWhile_eq_nil_iff.mpr hall]
    rfl

theorem blank_iff {line : String} : Blank line ↔ ∀ c ∈ line.toList, isWhitespace c = true := by
  rw [← trimChars_eq_nil, Blank, trim]
  exact String.ofList_eq_empty_iff

theorem forall_mem_joined {lines : List String} :
    (∀ c ∈ ("\n".intercalate lines).toList, isWhitespace c = true) ↔
      ∀ line ∈ lines, Blank line := by
  induction lines with
  | nil => simp
  | cons line lines ih =>
    rw [List.forall_mem_cons, ← ih, blank_iff]
    cases lines with
    | nil => simp
    | cons next lines =>
      have hfeed : isWhitespace '\n' = true := by decide
      rw [String.intercalate_cons_cons, String.toList_append, String.toList_append]
      simp only [List.mem_append]
      constructor
      · exact fun h => ⟨fun c hc => h c (.inl (.inl hc)), fun c hc => h c (.inr hc)⟩
      · rintro ⟨hline, hrest⟩ c ((hc | hc) | hc)
        · exact hline c hc
        · rw [show "\n".toList = ['\n'] by decide, List.mem_singleton] at hc
          rw [hc]
          exact hfeed
        · exact hrest c hc

/-- The text of lines is empty exactly when they are blank. -/
theorem trimmedText_eq_empty {lines : List String} :
    trimmedText lines = "" ↔ ∀ line ∈ lines, Blank line := by
  rw [← forall_mem_joined, ← trimChars_eq_nil]
  exact String.ofList_eq_empty_iff

/-! ## The run of the loop -/

section Run

variable {parseTime : ParseTime} {now : DateTime}

/-- The entry without author is there exactly when a line is not blank. -/
theorem unattributed_eq (preamble : List String) :
    unattributed now preamble =
      if ∃ line ∈ preamble, ¬ Blank line then [⟨now, "", trimmedText preamble⟩] else [] := by
  unfold unattributed
  by_cases h : ∃ line ∈ preamble, ¬ Blank line
  · rw [if_pos h, if_pos]
    obtain ⟨line, hline, hblank⟩ := h
    exact ⟨List.ne_nil_of_mem hline, fun hempty =>
      hblank (trimmedText_eq_empty.mp hempty line hline)⟩
  · rw [if_neg h, if_neg]
    rintro ⟨-, htext⟩
    refine htext (trimmedText_eq_empty.mpr fun line hline => ?_)
    by_contra hblank
    exact h ⟨line, hline, hblank⟩

theorem unattributed_nil : unattributed now [] = [] := rfl

/-- **What the loop holds after some lines**: their division, but for the entry of the last part,
whose lines are still being read. -/
inductive Reached (parseTime : ParseTime) (now : DateTime) : List String → BlobState → Prop
  | unheaded {preamble : List String}
      (h : ∀ line ∈ preamble, parseJournalHeader parseTime line = none) :
      Reached parseTime now preamble ⟨[], none, "", preamble, []⟩
  | headed {lines preamble : List String} {earlier : List Part} {last : Part}
      (h : Division parseTime lines preamble (earlier ++ [last])) :
      Reached parseTime now lines
        ⟨unattributed now preamble ++ earlier.map Part.entry, some last.timestamp, last.author, [],
          last.body⟩

variable {state : BlobState} {lines : List String}

/-- One line keeps the division. -/
theorem reached_step (line : String) (h : Reached parseTime now lines state) :
    Reached parseTime now (lines ++ [line]) (blobStep parseTime now state line) := by
  rcases hheader : parseJournalHeader parseTime line with _ | ⟨timestamp, author⟩
  · cases h with
    | unheaded h =>
      have hstep : blobStep parseTime now ⟨[], none, "", lines, []⟩ line =
          ⟨[], none, "", lines ++ [line], []⟩ := by
        simp [blobStep, hheader]
      rw [hstep]
      refine .unheaded fun other hother => ?_
      rcases List.mem_append.mp hother with hother | hother
      · exact h other hother
      · rw [List.mem_singleton.mp hother]
        exact hheader
    | @headed preamble earlier last h =>
      have hstep : blobStep parseTime now
          ⟨unattributed now preamble ++ earlier.map Part.entry, some last.timestamp, last.author,
            [], last.body⟩ line =
          ⟨unattributed now preamble ++ earlier.map Part.entry, some last.timestamp, last.author,
            [], last.body ++ [line]⟩ := by
        simp [blobStep, hheader]
      rw [hstep]
      have hlonger : Division parseTime (lines ++ [line]) preamble
          (earlier ++ [{ last with body := last.body ++ [line] }]) := by
        refine ⟨?_, h.unheaded, ?_⟩
        · rw [h.lines_eq]
          simp
        · intro part hpart
          rcases List.mem_append.mp hpart with hpart | hpart
          · exact h.headed part (List.mem_append_left _ hpart)
          · obtain rfl := List.mem_singleton.mp hpart
            obtain ⟨hlast, hbody⟩ := h.headed last (by simp)
            refine ⟨hlast, fun other hother => ?_⟩
            rcases List.mem_append.mp hother with hother | hother
            · exact hbody other hother
            · rw [List.mem_singleton.mp hother]
              exact hheader
      exact .headed hlonger
  · cases h with
    | unheaded h =>
      have hstep : blobStep parseTime now ⟨[], none, "", lines, []⟩ line =
          ⟨unattributed now lines ++ ([] : List Part).map Part.entry, some timestamp,
            author, [], []⟩ := by
        by_cases hnil : lines = []
        · simp [blobStep, hheader, hnil, unattributed_nil]
        · simp [blobStep, hheader, hnil]
      rw [hstep]
      have hfirst : Division parseTime (lines ++ [line]) lines
          ([] ++ [⟨line, timestamp, author, []⟩]) := by
        refine ⟨by simp, h, fun part hpart => ?_⟩
        obtain rfl := List.mem_singleton.mp hpart
        exact ⟨hheader, by simp⟩
      exact .headed hfirst
    | @headed preamble earlier last h =>
      have hstep : blobStep parseTime now
          ⟨unattributed now preamble ++ earlier.map Part.entry, some last.timestamp, last.author,
            [], last.body⟩ line =
          ⟨unattributed now preamble ++ (earlier ++ [last]).map Part.entry, some timestamp, author,
            [], []⟩ := by
        simp [blobStep, hheader, Part.entry]
      rw [hstep]
      have hnext : Division parseTime (lines ++ [line]) preamble
          ((earlier ++ [last]) ++ [⟨line, timestamp, author, []⟩]) := by
        refine ⟨?_, h.unheaded, ?_⟩
        · rw [h.lines_eq]
          simp
        · intro part hpart
          rcases List.mem_append.mp hpart with hpart | hpart
          · exact h.headed part hpart
          · obtain rfl := List.mem_singleton.mp hpart
            exact ⟨hheader, by simp⟩
      exact .headed hnext

/-- The loop over all lines. -/
theorem reached_run (lines done : List String) (h : Reached parseTime now done state) :
    Reached parseTime now (done ++ lines) (lines.foldl (blobStep parseTime now) state) := by
  induction lines generalizing done state with
  | nil =>
    rw [List.append_nil]
    exact h
  | cons line lines ih =>
    have hrest := ih (done ++ [line]) (reached_step line h)
    rw [List.append_assoc] at hrest
    exact hrest

/-- The entries of a state are those of the division. -/
theorem entries_of_reached (h : Reached parseTime now lines state) :
    ∃ preamble parts, Division parseTime lines preamble parts ∧
      state.entries ++ lastEntries now state = unattributed now preamble ++ parts.map Part.entry := by
  cases h with
  | unheaded h =>
    refine ⟨lines, [], ⟨by simp, h, by simp⟩, ?_⟩
    by_cases hnil : lines = []
    · simp [lastEntries, hnil, unattributed_nil]
    · simp [lastEntries, hnil]
  | @headed preamble earlier last h =>
    exact ⟨preamble, earlier ++ [last], h, by simp [lastEntries, Part.entry]⟩

end Run

/-! ## The whole blob -/

/-- **A blob is parsed at its headers**: an entry for each header line, in order, with its time and
author and the lines up to the next header; before them one without author, exactly when a line
before the first header is not blank; and of the text of an entry only blanks at its edges are
lost. -/
theorem journal_blob_keeps_inner_text (parseTime : ParseTime) (now : DateTime) (blob : String) :
    ∃ preamble parts, Division parseTime (linesOf blob) preamble parts ∧ (parts.map Part.header =
          (linesOf blob).filter fun line => (parseJournalHeader parseTime line).isSome) ∧
      (preamble ++ parts.flatMap Part.body =
          (linesOf blob).filter fun line => (parseJournalHeader parseTime line).isNone) ∧
      parseJournalBlob parseTime now blob =
        (if ∃ line ∈ preamble, ¬ Blank line then [⟨now, "", trimmedText preamble⟩] else []) ++
          parts.map (fun part => ⟨part.timestamp, part.author, trimmedText part.body⟩) ∧
      ∀ lines, Keeps lines (trimmedText lines) := by
  have hrun : Reached parseTime now (linesOf blob)
      ((linesOf blob).foldl (blobStep parseTime now) blobStart) :=
    reached_run (linesOf blob) [] (.unheaded (by simp))
  obtain ⟨preamble, parts, hdivision, hentries⟩ := entries_of_reached hrun
  refine ⟨preamble, parts, hdivision, hdivision.headers, hdivision.bodies, ?_, keeps_trimmedText⟩
  rw [parseJournalBlob, hentries, unattributed_eq]
  rfl

/-- The lines without the blank ones at the edges. -/
def dropBlankEdges (lines : List String) : List String :=
  (lines.dropWhile (trim · = "")).rdropWhile (trim · = "")

/-- **The blanks before the first word of an entry are lost**, and with them its first line as it
was: a blob of one line with two spaces before it. -/
theorem blanks_before_entry_are_lost :
    ¬ ∀ parseTime now blob, ∃ preamble parts, Division parseTime (linesOf blob) preamble parts ∧
        (parseJournalBlob parseTime now blob).flatMap (fun entry => linesOf entry.body) =
          (preamble :: parts.map Part.body).flatMap dropBlankEdges := by
  intro h
  obtain ⟨preamble, parts, hdivision, hlines⟩ := h (fun _ => none) newYear "  a"
  have hnone : ∀ line, parseJournalHeader (fun _ => none) line = none := by
    intro line
    unfold parseJournalHeader
    split
    · rfl
    · cases splitAtByte 19 line.toList <;> rfl
  have hparts : parts = [] := by
    refine List.eq_nil_iff_forall_not_mem.mpr fun part hpart => ?_
    have hheader := (hdivision.headed part hpart).1
    rw [hnone] at hheader
    cases hheader
  have hpreamble := hdivision.lines_eq
  rw [hparts, List.flatMap_nil, List.append_nil, show linesOf "  a" = ["  a"] by decide] at hpreamble
  have hentries : parseJournalBlob (fun _ => none) newYear "  a" = [⟨newYear, "", "a"⟩] := by
    decide
  rw [hentries, hparts, ← hpreamble] at hlines
  revert hlines
  decide

end SnowAgent.Journal
