import SnowAgent.TextLines

/-! # Documents in block style

The part of YAML that a program writes by hand: mappings and sequences in block style, two
spaces deeper at every level, whose scalars are in quotes, literal blocks or flags.  A text
of this part stands for one document only, so that a reader of it can be assumed.
-/
namespace YamlBlocks

open TextLines

/-! ## Documents -/

/-- What a document says. -/
inductive Yaml where
  | null
  | flag (b : Bool)
  | string (s : String)
  | mapping (entries : List (String × Yaml))
  | sequence (items : List Yaml)

/-- How a document is written.  A literal block has its lines, and the number of empty lines
after them. -/
inductive Block where
  | empty
  | flag (b : Bool)
  | quoted (s : String)
  | literal (content : List (List Char)) (blanks : Nat)
  | mapping (entries : List (String × Block))
  | sequence (items : List Block)

/-- The string of a literal block: of the empty lines at its end, none is kept. -/
def literalText (content : List (List Char)) : String :=
  String.ofList (unlines (content.rdropWhile List.isEmpty))

mutual

/-- What is written. -/
def Block.value : Block → Yaml
  | .empty => .null
  | .flag b => .flag b
  | .quoted s => .string s
  | .literal content _ => .string (literalText content)
  | .mapping entries => .mapping (valueEntries entries)
  | .sequence items => .sequence (valueItems items)

def valueEntries : List (String × Block) → List (String × Yaml)
  | [] => []
  | (key, b) :: entries => (key, b.value) :: valueEntries entries

def valueItems : List Block → List Yaml
  | [] => []
  | b :: items => b.value :: valueItems items

end

/-- The text has no line break. -/
def NoBreak (l : List Char) : Prop := '\n' ∉ l ∧ '\r' ∉ l

theorem noBreak_nil : NoBreak [] := by simp [NoBreak]

variable {c : Char} {l : List Char}

@[simp] theorem noBreak_cons : NoBreak (c :: l) ↔ (c ≠ '\n' ∧ c ≠ '\r') ∧ NoBreak l := by
  simp only [NoBreak, List.mem_cons, not_or, ne_eq, eq_comm]
  tauto

@[simp] theorem noBreak_append {l l' : List Char} :
    NoBreak (l ++ l') ↔ NoBreak l ∧ NoBreak l' := by
  simp only [NoBreak, List.mem_append, not_or]
  tauto

/-- How a string is written in quotes: on one line, and such that it is told apart from any
other before whatever follows. -/
structure Quoting where
  print : String → List Char
  starts : ∀ s, ∃ rest, print s = '"' :: rest
  noBreak : ∀ s, NoBreak (print s)
  append : ∀ {s t : String} {x y : List Char}, print s ++ x = print t ++ y → s = t ∧ x = y

/-! ## Texts -/

section Texts

variable (q : Quoting)

/-- Indentation. -/
def spaces (n : Nat) : List Char := List.replicate n ' '

/-- What follows a key and its colon on the same line. -/
def Block.head : Block → List Char
  | .flag true => " true".toList
  | .flag false => " false".toList
  | .quoted s => ' ' :: q.print s
  | .literal _ _ => " |".toList
  | _ => []

/-- The first line starts with a dash in place of its indentation. -/
def dashed (n : Nat) : List (List Char) → List (List Char)
  | [] => []
  | l :: ls => (spaces n ++ '-' :: ' ' :: l.drop (n + 2)) :: ls

mutual

/-- The lines below the line of a key that has the indentation. -/
def Block.under (n : Nat) : Block → List (List Char)
  | .literal content blanks =>
    content.map (fun l => spaces (n + 2) ++ l) ++ List.replicate blanks []
  | .mapping entries => entryLines (n + 2) entries
  | .sequence items => itemLines (n + 2) items
  | _ => []

/-- The lines of the entries of a mapping. -/
def entryLines (n : Nat) : List (String × Block) → List (List Char)
  | [] => []
  | (key, b) :: entries =>
    (spaces n ++ key.toList ++ ':' :: b.head q) :: (b.under n ++ entryLines n entries)

/-- The lines of one item of a sequence. -/
def Block.item (n : Nat) : Block → List (List Char)
  | .mapping entries => dashed n (entryLines (n + 2) entries)
  | .quoted s => [spaces n ++ '-' :: ' ' :: q.print s]
  | _ => []

/-- The lines of the items of a sequence. -/
def itemLines (n : Nat) : List Block → List (List Char)
  | [] => []
  | b :: items => b.item n ++ itemLines n items

end

/-- The text of a mapping, without a line feed at its end. -/
def text (entries : List (String × Block)) : List Char :=
  ['\n'].intercalate (entryLines q 0 entries)

end Texts

/-! ## Well-formed blocks -/

/-- A character of a plain key. -/
def isKeyChar (c : Char) : Bool := c.isAlphanum || c == '_' || c == '.'

/-- A key that needs no quotes; a reader has to find its colon in 1024 characters. -/
def PlainKey (key : String) : Prop :=
  key ≠ "" ∧ (∀ c ∈ key.toList, isKeyChar c = true) ∧ key.toList.length ≤ 1024

/-- A character that may stand in a literal block, and is not a line break. -/
def isLiteralChar (c : Char) : Bool :=
  c == '\t' || (32 ≤ c.toNat && c.toNat ≤ 126) || (0xa0 ≤ c.toNat && c.toNat ≤ 0xd7ff) ||
    (0xe000 ≤ c.toNat && c.toNat ≤ 0xfffd && c.toNat != 0xfeff) || 0x10000 ≤ c.toNat

/-- The lines of a literal block, the first of which that is not empty shows how deep the
block is. -/
def LiteralLines (content : List (List Char)) : Prop :=
  (∀ l ∈ content, ∀ c ∈ l, isLiteralChar c = true) ∧
    ∀ l ∈ (content.dropWhile List.isEmpty).head?, ∀ c ∈ l.head?, c ≠ ' '

/-- An item of a sequence is a string in quotes or a mapping. -/
def Block.isItem : Block → Bool
  | .quoted _ | .mapping _ => true
  | _ => false

mutual

/-- The block is one that can be written. -/
def Block.WellFormed : Block → Prop
  | .literal content _ => LiteralLines content
  | .mapping entries => entries ≠ [] ∧ WellFormedEntries entries
  | .sequence items => items ≠ [] ∧ WellFormedItems items
  | _ => True

def WellFormedEntries : List (String × Block) → Prop
  | [] => True
  | (key, b) :: entries =>
    PlainKey key ∧ b.WellFormed ∧ key ∉ entries.map Prod.fst ∧ WellFormedEntries entries

def WellFormedItems : List Block → Prop
  | [] => True
  | b :: items => b.isItem = true ∧ b.WellFormed ∧ WellFormedItems items

end

/-! ## Entry by entry -/

section Equations

variable (q : Quoting) (n : Nat)

@[simp] theorem head_empty : Block.head q .empty = [] := rfl

@[simp] theorem head_quoted (s : String) : Block.head q (.quoted s) = ' ' :: q.print s := rfl

@[simp] theorem head_literal (content : List (List Char)) (blanks : Nat) :
    Block.head q (.literal content blanks) = " |".toList := rfl

@[simp] theorem head_mapping (entries : List (String × Block)) :
    Block.head q (.mapping entries) = [] := rfl

@[simp] theorem head_sequence (items : List Block) : Block.head q (.sequence items) = [] := rfl

@[simp] theorem under_empty : Block.under q n .empty = [] := rfl

@[simp] theorem under_quoted (s : String) : Block.under q n (.quoted s) = [] := rfl

@[simp] theorem under_flag (b : Bool) : Block.under q n (.flag b) = [] := rfl

@[simp] theorem under_mapping (entries : List (String × Block)) :
    Block.under q n (.mapping entries) = entryLines q (n + 2) entries := rfl

@[simp] theorem under_sequence (items : List Block) :
    Block.under q n (.sequence items) = itemLines q (n + 2) items := rfl

end Equations


theorem valueEntries_eq_map (entries : List (String × Block)) :
    valueEntries entries = entries.map fun e => (e.1, e.2.value) := by
  induction entries with
  | nil => rfl
  | cons e entries ih => rw [valueEntries, ih, List.map_cons]

theorem valueItems_eq_map (items : List Block) : valueItems items = items.map Block.value := by
  induction items with
  | nil => rfl
  | cons b items ih => rw [valueItems, ih, List.map_cons]

theorem entryLines_concat (q : Quoting) (n : Nat) (entries entries' : List (String × Block)) :
    entryLines q n (entries ++ entries') = entryLines q n entries ++ entryLines q n entries' := by
  induction entries with
  | nil => rfl
  | cons e entries ih => simp [entryLines, ih]

variable {entries : List (String × Block)}

theorem wellFormedEntries_iff : WellFormedEntries entries ↔
    (∀ e ∈ entries, PlainKey e.1 ∧ e.2.WellFormed) ∧ (entries.map Prod.fst).Nodup := by
  induction entries with
  | nil => simp [WellFormedEntries]
  | cons e entries ih =>
    rw [WellFormedEntries, ih, List.map_cons, List.nodup_cons, List.forall_mem_cons]
    tauto

variable {items : List Block}

theorem wellFormedItems_iff : WellFormedItems items ↔
    ∀ b ∈ items, b.isItem = true ∧ b.WellFormed := by
  induction items with
  | nil => simp [WellFormedItems]
  | cons b items ih =>
    rw [WellFormedItems, ih, List.forall_mem_cons]
    tauto

/-- The line of a key, and what is under it. -/
theorem unlines_entry (q : Quoting) (n : Nat) (key : String) (b : Block) :
    unlines (entryLines q n [(key, b)]) =
      spaces n ++ key.toList ++ ':' :: b.head q ++ '\n' :: unlines (b.under q n) := by
  simp [entryLines]

/-! ## One text, one document -/

section Deterministic

variable {q : Quoting} {n : Nat}

/-- The text goes on with a line that is less deep, or ends. -/
def Outer (n : Nat) (rest : List (List Char)) : Prop :=
  ∀ l ∈ rest.head?, ∃ m c cs, m < n ∧ c ≠ ' ' ∧ l = spaces m ++ c :: cs

theorem outer_nil : Outer n [] := by simp [Outer]

variable {ls : List (List Char)} {m : Nat}

theorem outer_cons {cs : List Char} (hm : m < n)
    (hc : c ≠ ' ') : Outer n ((spaces m ++ c :: cs) :: ls) := by
  intro l hl
  rw [List.head?_cons, Option.mem_some_iff] at hl
  exact ⟨m, c, cs, hm, hc, hl.symm⟩

variable {rest : List (List Char)}

theorem Outer.mono {k : Nat} (h : Outer n rest) (hk : n ≤ k) : Outer k rest := by
  intro l hl
  obtain ⟨m, c, cs, hm, hc, rfl⟩ := h l hl
  exact ⟨m, c, cs, by omega, hc, rfl⟩

theorem spaces_append_cons {c d : Char} {cs ds : List Char} (hc : c ≠ ' ') (hd : d ≠ ' ')
    (h : spaces m ++ c :: cs = spaces n ++ d :: ds) :
    m = n ∧ c = d ∧ cs = ds := by
  induction m generalizing n with
  | zero =>
    cases n with
    | zero =>
      obtain ⟨rfl, rfl⟩ := List.cons.inj h
      exact ⟨rfl, rfl, rfl⟩
    | succ n => exact absurd (List.cons.inj h).1 hc
  | succ m ih =>
    cases n with
    | zero => exact absurd (List.cons.inj h).1.symm hd
    | succ n =>
      obtain ⟨rfl, hrest⟩ := ih (List.cons.inj h).2
      exact ⟨rfl, hrest⟩

/-- A line that is less deep does not start with the indentation. -/
theorem spaces_append_ne {cs l : List Char} (hm : m < n) (hc : c ≠ ' ') :
    spaces m ++ c :: cs ≠ spaces n ++ l := by
  intro h
  induction m generalizing n with
  | zero =>
    obtain ⟨k, rfl⟩ : ∃ k, n = k + 1 := ⟨n - 1, by omega⟩
    exact hc (List.cons.inj h).1
  | succ m ih =>
    obtain ⟨k, rfl⟩ : ∃ k, n = k + 1 := ⟨n - 1, by omega⟩
    exact ih (by omega) (List.cons.inj h).2

theorem Outer.ne_cons (h : Outer n rest) : rest ≠ (spaces n ++ l) :: ls := by
  rintro rfl
  obtain ⟨m, c, cs, hm, hc, heq⟩ := h _ rfl
  exact spaces_append_ne hm hc heq.symm

theorem isKeyChar_ne (h : isKeyChar c = true) :
    c ≠ ' ' ∧ c ≠ '-' ∧ c ≠ ':' ∧ c ≠ '"' ∧ c ≠ '\n' ∧ c ≠ '\r' := by
  refine ⟨?_, ?_, ?_, ?_, ?_, ?_⟩ <;> rintro rfl <;> exact absurd h (by decide)

theorem PlainKey.cons {key : String} (h : PlainKey key) :
    ∃ c cs, key.toList = c :: cs ∧ isKeyChar c = true := by
  cases hkey : key.toList with
  | nil => exact absurd (String.toList_eq_nil_iff.mp hkey) h.1
  | cons c cs => exact ⟨c, cs, rfl, h.2.1 c (by rw [hkey]; exact List.mem_cons_self)⟩

theorem entryLines_head (hne : entries ≠ [])
    (h : WellFormedEntries entries) : ∃ c cs ls, isKeyChar c = true ∧
      entryLines q n entries = (spaces n ++ c :: cs) :: ls := by
  cases entries with
  | nil => exact absurd rfl hne
  | cons entry entries =>
    obtain ⟨key, b⟩ := entry
    obtain ⟨c, cs, hkey, hc⟩ := PlainKey.cons h.1
    refine ⟨c, cs ++ ':' :: b.head q, b.under q n ++ entryLines q n entries, hc, ?_⟩
    rw [entryLines, hkey]
    simp

theorem item_head {b : Block} (hitem : b.isItem = true) (h : b.WellFormed) :
    ∃ cs ls, b.item q n = (spaces n ++ '-' :: ' ' :: cs) :: ls := by
  match b, hitem with
  | .quoted s, _ => exact ⟨q.print s, [], rfl⟩
  | .mapping entries, _ =>
    obtain ⟨c, cs, ls, _, hlines⟩ := entryLines_head (q := q) (n := n + 2) h.1 h.2
    refine ⟨(spaces (n + 2) ++ c :: cs).drop (n + 2), ls, ?_⟩
    rw [Block.item, hlines, dashed]

theorem itemLines_head (hne : items ≠ []) (h : WellFormedItems items) :
    ∃ cs ls, itemLines q n items = (spaces n ++ '-' :: ' ' :: cs) :: ls := by
  cases items with
  | nil => exact absurd rfl hne
  | cons b items =>
    obtain ⟨cs, ls, hitem⟩ := item_head (q := q) (n := n) h.1 h.2.1
    refine ⟨cs, ls ++ itemLines q n items, ?_⟩
    rw [itemLines, hitem, List.cons_append]

variable {x : List (List Char)}

theorem outer_entryLines (h : WellFormedEntries entries)
    (hx : Outer n x) : Outer (n + 2) (entryLines q n entries ++ x) := by
  by_cases hne : entries = []
  · rw [hne]
    exact hx.mono (by omega)
  · obtain ⟨c, cs, ls, hc, hlines⟩ := entryLines_head (q := q) (n := n) hne h
    rw [hlines]
    exact outer_cons (by omega) (isKeyChar_ne hc).1

theorem outer_itemLines (h : WellFormedItems items)
    (hx : Outer n x) : Outer (n + 2) (itemLines q n items ++ x) := by
  by_cases hne : items = []
  · rw [hne]
    exact hx.mono (by omega)
  · obtain ⟨cs, ls, hlines⟩ := itemLines_head (q := q) (n := n) hne h
    rw [hlines]
    exact outer_cons (by omega) (by decide)

/-- A key is told apart from what follows its colon. -/
theorem key_append {k l : List Char} {x y : List Char} (hk : ∀ c ∈ k, isKeyChar c = true)
    (hl : ∀ c ∈ l, isKeyChar c = true) (h : k ++ ':' :: x = l ++ ':' :: y) : k = l ∧ x = y := by
  induction k generalizing l with
  | nil =>
    cases l with
    | nil => exact ⟨rfl, (List.cons.inj h).2⟩
    | cons d l =>
      have hd := (isKeyChar_ne (hl d List.mem_cons_self)).2.2.1
      exact absurd (List.cons.inj h).1.symm hd
  | cons c k ih =>
    cases l with
    | nil =>
      have hc := (isKeyChar_ne (hk c List.mem_cons_self)).2.2.1
      exact absurd (List.cons.inj h).1 hc
    | cons d l =>
      obtain ⟨rfl, hrest⟩ := List.cons.inj h
      obtain ⟨rfl, hxy⟩ := ih (fun c hc => hk c (List.mem_cons_of_mem _ hc))
        (fun c hc => hl c (List.mem_cons_of_mem _ hc)) hrest
      exact ⟨rfl, hxy⟩

variable {y : List (List Char)}

theorem blanks_append {a b : Nat} (hx : Outer n x) (hy : Outer n y)
    (h : List.replicate a [] ++ x = List.replicate b [] ++ y) : a = b ∧ x = y := by
  have hblank : ∀ {z z' : List (List Char)}, Outer n z → z ≠ [] :: z' := by
    rintro z z' hz rfl
    obtain ⟨m, c, cs, _, _, heq⟩ := hz _ rfl
    simp at heq
  induction a generalizing b with
  | zero =>
    cases b with
    | zero => exact ⟨rfl, h⟩
    | succ b => exact absurd h (hblank hx)
  | succ a ih =>
    cases b with
    | zero => exact absurd h.symm (hblank hy)
    | succ b =>
      obtain ⟨rfl, hxy⟩ := ih (List.cons.inj h).2
      exact ⟨rfl, hxy⟩

theorem literal_append {content content' : List (List Char)} {a b : Nat} (hx : Outer (n + 2) x)
    (hy : Outer (n + 2) y)
    (h : content.map (fun l => spaces (n + 2) ++ l) ++ (List.replicate a [] ++ x) =
      content'.map (fun l => spaces (n + 2) ++ l) ++ (List.replicate b [] ++ y)) :
    content = content' ∧ a = b ∧ x = y := by
  have hstart : ∀ {k : Nat} {z : List (List Char)} {l : List Char} {ls : List (List Char)},
      Outer (n + 2) z → List.replicate k [] ++ z ≠ (spaces (n + 2) ++ l) :: ls := by
    intro k z l ls hz heq
    cases k with
    | zero => exact hz.ne_cons heq
    | succ k => exact absurd (List.cons.inj heq).1 (by simp [spaces, List.replicate_succ])
  induction content generalizing content' with
  | nil =>
    cases content' with
    | nil =>
      obtain ⟨rfl, rfl⟩ := blanks_append hx hy h
      exact ⟨rfl, rfl, rfl⟩
    | cons l' content' => exact absurd h (hstart hx)
  | cons l content ih =>
    cases content' with
    | nil => exact absurd h.symm (hstart hy)
    | cons l' content' =>
      obtain ⟨hl, hrest⟩ := List.cons.inj h
      obtain ⟨rfl, hab, hxy⟩ := ih hrest
      rw [List.append_cancel_left hl]
      exact ⟨rfl, hab, hxy⟩

theorem dashed_append {l l' : List Char} {ls ls' x y : List (List Char)}
    (h : dashed n ((spaces (n + 2) ++ l) :: ls) ++ x =
      dashed n ((spaces (n + 2) ++ l') :: ls') ++ y) :
    ((spaces (n + 2) ++ l) :: ls) ++ x = ((spaces (n + 2) ++ l') :: ls') ++ y := by
  have hdrop : ∀ r : List Char, (spaces (n + 2) ++ r).drop (n + 2) = r := fun r => by
    rw [List.drop_append_of_le_length (by simp [spaces])]
    simp [spaces]
  rw [dashed, dashed, hdrop, hdrop] at h
  obtain ⟨hfirst, hrest⟩ := List.cons.inj h
  have hl : l = l' := by simpa using List.append_cancel_left hfirst
  rw [hl, List.cons_append, List.cons_append]
  exact congrArg _ hrest

/-- What follows the colon of a key tells the kind of its block. -/
inductive Kind where
  | none | on | off | string | literal
deriving DecidableEq

def Block.kind : Block → Kind
  | .flag true => .on
  | .flag false => .off
  | .quoted _ => .string
  | .literal _ _ => .literal
  | _ => .none

theorem kind_eq {b b' : Block} (h : b.head q = b'.head q) : b.kind = b'.kind := by
  have hquote : ∀ s, ∃ rest, Block.head q (.quoted s) = ' ' :: '"' :: rest := by
    intro s
    obtain ⟨rest, hprint⟩ := q.starts s
    exact ⟨rest, by rw [Block.head, hprint]⟩
  have hhead : ∀ b : Block, (Block.head q b).take 2 = match b.kind with
      | .none => []
      | .on => [' ', 't']
      | .off => [' ', 'f']
      | .string => [' ', '"']
      | .literal => [' ', '|'] := by
    intro b
    match b with
    | .quoted s =>
      obtain ⟨rest, hprint⟩ := hquote s
      rw [hprint]
      rfl
    | .flag true | .flag false | .literal _ _ | .empty | .mapping _ | .sequence _ => rfl
  have htake := congrArg (List.take 2) h
  rw [hhead, hhead] at htake
  cases hb : b.kind <;> cases hb' : b'.kind <;> simp_all

/-- A mapping is told apart from a sequence by its first line. -/
theorem entryLines_ne_itemLines (hentries : entries ≠ []) (hwf : WellFormedEntries entries)
    (hitems : items ≠ [])
    (hwf' : WellFormedItems items) (x y : List (List Char)) :
    entryLines q n entries ++ x ≠ itemLines q n items ++ y := by
  intro h
  obtain ⟨c, cs, ls, hc, hlines⟩ := entryLines_head (q := q) (n := n) hentries hwf
  obtain ⟨ds, ls', hlines'⟩ := itemLines_head (q := q) (n := n) hitems hwf'
  rw [hlines, hlines'] at h
  have hsame := spaces_append_cons (isKeyChar_ne hc).1 (by decide) (List.cons.inj h).1
  exact (isKeyChar_ne hc).2.1 hsame.2.1

theorem entryLines_ne_outer (hne : entries ≠ []) (hwf : WellFormedEntries entries) (hx : Outer n x) :
    entryLines q n entries ++ y ≠ x := by
  intro h
  obtain ⟨c, cs, ls, _, hlines⟩ := entryLines_head (q := q) (n := n) hne hwf
  rw [hlines] at h
  exact hx.ne_cons h.symm

theorem itemLines_ne_outer (hne : items ≠ []) (hwf : WellFormedItems items) (hx : Outer n x) :
    itemLines q n items ++ y ≠ x := by
  intro h
  obtain ⟨cs, ls, hlines⟩ := itemLines_head (q := q) (n := n) hne hwf
  rw [hlines] at h
  exact hx.ne_cons h.symm

mutual

/-- **Two blocks are told apart before whatever follows them.** -/
theorem Block.under_append : ∀ (b b' : Block) {n : Nat} {x y : List (List Char)},
    b.WellFormed → b'.WellFormed → Outer (n + 2) x → Outer (n + 2) y →
    b.head q = b'.head q → b.under q n ++ x = b'.under q n ++ y → b = b' ∧ x = y := by
  intro b b' n x y hwf hwf' hx hy hhead h
  have hkind := kind_eq hhead
  match b, b', hkind with
  | .empty, .empty, _ => exact ⟨rfl, h⟩
  | .empty, .mapping entries, _ => exact absurd h.symm (entryLines_ne_outer hwf'.1 hwf'.2 hx)
  | .empty, .sequence items, _ => exact absurd h.symm (itemLines_ne_outer hwf'.1 hwf'.2 hx)
  | .flag true, .flag true, _ => exact ⟨rfl, h⟩
  | .flag false, .flag false, _ => exact ⟨rfl, h⟩
  | .quoted s, .quoted t, _ =>
    have hprint : q.print s ++ [] = q.print t ++ [] := by
      rw [List.append_nil, List.append_nil]
      exact (List.cons.inj hhead).2
    exact ⟨by rw [(q.append hprint).1], h⟩
  | .literal content blanks, .literal content' blanks', _ =>
    rw [Block.under, Block.under, List.append_assoc, List.append_assoc] at h
    obtain ⟨rfl, rfl, hxy⟩ := literal_append hx hy h
    exact ⟨rfl, hxy⟩
  | .mapping entries, .empty, _ => exact absurd h (entryLines_ne_outer hwf.1 hwf.2 hy)
  | .mapping entries, .mapping entries', _ =>
    obtain ⟨rfl, hxy⟩ := entryLines_append entries entries' hwf.2 hwf'.2 hx hy h
    exact ⟨rfl, hxy⟩
  | .mapping entries, .sequence items, _ =>
    exact absurd h (entryLines_ne_itemLines hwf.1 hwf.2 hwf'.1 hwf'.2 x y)
  | .sequence items, .empty, _ => exact absurd h (itemLines_ne_outer hwf.1 hwf.2 hy)
  | .sequence items, .mapping entries, _ =>
    exact absurd h.symm (entryLines_ne_itemLines hwf'.1 hwf'.2 hwf.1 hwf.2 y x)
  | .sequence items, .sequence items', _ =>
    obtain ⟨rfl, hxy⟩ := itemLines_append items items' hwf.2 hwf'.2 hx hy h
    exact ⟨rfl, hxy⟩

theorem entryLines_append : ∀ (es es' : List (String × Block)) {n : Nat}
    {x y : List (List Char)}, WellFormedEntries es → WellFormedEntries es' → Outer n x →
    Outer n y → entryLines q n es ++ x = entryLines q n es' ++ y → es = es' ∧ x = y
  | [], [], _, _, _, _, _, _, _, h => ⟨rfl, h⟩
  | [], (k, b) :: es, _, _, _, _, hwf', hx, _, h =>
    absurd h.symm (entryLines_ne_outer (by simp) hwf' hx)
  | (k, b) :: es, [], _, _, _, hwf, _, _, hy, h =>
    absurd h (entryLines_ne_outer (by simp) hwf hy)
  | (k, b) :: es, (k', b') :: es', n, x, y, hwf, hwf', hx, hy, h => by
    simp only [entryLines, List.cons_append, List.append_assoc] at h
    obtain ⟨hline, hrest⟩ := List.cons.inj h
    obtain ⟨hkey, hhead⟩ := key_append hwf.1.2.1 hwf'.1.2.1 (List.append_cancel_left hline)
    obtain ⟨rfl, hbelow⟩ := Block.under_append b b' hwf.2.1 hwf'.2.1
      (outer_entryLines hwf.2.2.2 hx) (outer_entryLines hwf'.2.2.2 hy) hhead hrest
    obtain ⟨rfl, hxy⟩ := entryLines_append es es' hwf.2.2.2 hwf'.2.2.2 hx hy hbelow
    rw [String.toList_injective hkey]
    exact ⟨rfl, hxy⟩

theorem Block.item_append : ∀ (b b' : Block) {n : Nat} {x y : List (List Char)},
    b.isItem = true → b'.isItem = true → b.WellFormed → b'.WellFormed → Outer (n + 2) x →
    Outer (n + 2) y → b.item q n ++ x = b'.item q n ++ y → b = b' ∧ x = y
  | .quoted s, .quoted t, _, _, _, _, _, _, _, _, _, h => by
    obtain ⟨hline, hxy⟩ := List.cons.inj h
    have hprint : q.print s = q.print t := by
      simpa using List.append_cancel_left hline
    refine ⟨?_, hxy⟩
    have happend : q.print s ++ [] = q.print t ++ [] := by rw [hprint]
    rw [(q.append happend).1]
  | .quoted s, .mapping entries, n, _, _, _, _, _, hwf', _, _, h => by
    obtain ⟨c, cs, ls, hc, hlines⟩ := entryLines_head (q := q) (n := n + 2) hwf'.1 hwf'.2
    obtain ⟨rest, hprint⟩ := q.starts s
    rw [Block.item, Block.item, hlines, dashed, hprint,
      List.drop_append_of_le_length (by simp [spaces])] at h
    have hline := List.append_cancel_left (List.cons.inj h).1
    simp [spaces] at hline
    exact absurd hline.1.symm (isKeyChar_ne hc).2.2.2.1
  | .mapping entries, .quoted s, n, _, _, _, _, hwf, _, _, _, h => by
    obtain ⟨c, cs, ls, hc, hlines⟩ := entryLines_head (q := q) (n := n + 2) hwf.1 hwf.2
    obtain ⟨rest, hprint⟩ := q.starts s
    rw [Block.item, Block.item, hlines, dashed, hprint,
      List.drop_append_of_le_length (by simp [spaces])] at h
    have hline := List.append_cancel_left (List.cons.inj h).1
    simp [spaces] at hline
    exact absurd hline.1 (isKeyChar_ne hc).2.2.2.1
  | .mapping entries, .mapping entries', n, x, y, _, _, hwf, hwf', hx, hy, h => by
    obtain ⟨c, cs, ls, hc, hlines⟩ := entryLines_head (q := q) (n := n + 2) hwf.1 hwf.2
    obtain ⟨d, ds, ls', hd, hlines'⟩ := entryLines_head (q := q) (n := n + 2) hwf'.1 hwf'.2
    have hundashed : entryLines q (n + 2) entries ++ x = entryLines q (n + 2) entries' ++ y := by
      rw [Block.item, Block.item, hlines, hlines'] at h
      rw [hlines, hlines']
      exact dashed_append h
    obtain ⟨rfl, hxy⟩ := entryLines_append entries entries' hwf.2 hwf'.2 hx hy hundashed
    exact ⟨rfl, hxy⟩

theorem itemLines_append : ∀ (bs bs' : List Block) {n : Nat} {x y : List (List Char)},
    WellFormedItems bs → WellFormedItems bs' → Outer n x → Outer n y →
    itemLines q n bs ++ x = itemLines q n bs' ++ y → bs = bs' ∧ x = y
  | [], [], _, _, _, _, _, _, _, h => ⟨rfl, h⟩
  | [], b :: bs, _, _, _, _, hwf', hx, _, h =>
    absurd h.symm (itemLines_ne_outer (by simp) hwf' hx)
  | b :: bs, [], _, _, _, hwf, _, _, hy, h =>
    absurd h (itemLines_ne_outer (by simp) hwf hy)
  | b :: bs, b' :: bs', n, x, y, hwf, hwf', hx, hy, h => by
    rw [itemLines, itemLines, List.append_assoc, List.append_assoc] at h
    obtain ⟨rfl, hrest⟩ := Block.item_append b b' hwf.1 hwf'.1 hwf.2.1 hwf'.2.1
      (outer_itemLines hwf.2.2 hx) (outer_itemLines hwf'.2.2 hy) h
    obtain ⟨rfl, hxy⟩ := itemLines_append bs bs' hwf.2.2 hwf'.2.2 hx hy hrest
    exact ⟨rfl, hxy⟩

end

/-! ## Lines of blocks -/

theorem noBreak_spaces (n : Nat) : NoBreak (spaces n) := by
  simp [NoBreak, spaces, List.mem_replicate]

theorem noBreak_of_keyChars {k : List Char} (h : ∀ c ∈ k, isKeyChar c = true) : NoBreak k :=
  ⟨fun hmem => (isKeyChar_ne (h _ hmem)).2.2.2.2.1 rfl,
    fun hmem => (isKeyChar_ne (h _ hmem)).2.2.2.2.2 rfl⟩

theorem noBreak_head (b : Block) : NoBreak (b.head q) := by
  match b with
  | .quoted s => exact noBreak_cons.mpr ⟨by decide, q.noBreak s⟩
  | .flag true | .flag false | .literal _ _ | .empty | .mapping _ | .sequence _ =>
    simp [Block.head, NoBreak]

theorem noBreak_dashed (h : ∀ l ∈ ls, NoBreak l) : ∀ l ∈ dashed n ls, NoBreak l := by
  cases ls with
  | nil => exact h
  | cons first ls =>
    intro l hl
    rcases List.mem_cons.mp hl with rfl | hmem
    · rw [noBreak_append, noBreak_cons, noBreak_cons]
      have hfirst := h first List.mem_cons_self
      exact ⟨noBreak_spaces n, by decide, by decide, fun hdrop =>
        hfirst.1 (List.mem_of_mem_drop hdrop), fun hdrop => hfirst.2 (List.mem_of_mem_drop hdrop)⟩
    · exact h l (List.mem_cons_of_mem _ hmem)

theorem noBreak_literal {content : List (List Char)} (h : LiteralLines content) (blanks : Nat) :
    ∀ l ∈ Block.under q n (.literal content blanks), NoBreak l := by
  intro l hl
  rw [Block.under] at hl
  rcases List.mem_append.mp hl with hcontent | hblank
  · obtain ⟨r, hr, rfl⟩ := List.mem_map.mp hcontent
    exact noBreak_append.mpr ⟨noBreak_spaces _, fun hmem => absurd (h.1 r hr _ hmem) (by decide),
      fun hmem => absurd (h.1 r hr _ hmem) (by decide)⟩
  · rw [(List.mem_replicate.mp hblank).2]
    exact noBreak_nil

mutual

theorem Block.under_noBreak : ∀ (b : Block) {n : Nat}, b.WellFormed → ∀ l ∈ b.under q n, NoBreak l
  | .empty, _, _, _, hl | .flag _, _, _, _, hl | .quoted _, _, _, _, hl => by
    simp [Block.under] at hl
  | .literal _ blanks, _, hwf, l, hl => noBreak_literal hwf blanks l hl
  | .mapping entries, _, hwf, l, hl => entryLines_noBreak entries hwf.2 l hl
  | .sequence items, _, hwf, l, hl => itemLines_noBreak items hwf.2 l hl

theorem entryLines_noBreak : ∀ (es : List (String × Block)) {n : Nat}, WellFormedEntries es →
    ∀ l ∈ entryLines q n es, NoBreak l
  | [], _, _, _, hl => by simp [entryLines] at hl
  | (k, b) :: es, n, hwf, l, hl => by
    rw [entryLines] at hl
    rcases List.mem_cons.mp hl with rfl | hmem
    · rw [noBreak_append, noBreak_append, noBreak_cons]
      exact ⟨⟨noBreak_spaces n, noBreak_of_keyChars hwf.1.2.1⟩, by decide, noBreak_head b⟩
    · rcases List.mem_append.mp hmem with hunder | hrest
      · exact Block.under_noBreak b hwf.2.1 l hunder
      · exact entryLines_noBreak es hwf.2.2.2 l hrest

theorem Block.item_noBreak : ∀ (b : Block) {n : Nat}, b.WellFormed → ∀ l ∈ b.item q n, NoBreak l
  | .quoted s, n, _, l, hl => by
    rw [Block.item, List.mem_singleton] at hl
    rw [hl, noBreak_append, noBreak_cons, noBreak_cons]
    exact ⟨noBreak_spaces n, by decide, by decide, q.noBreak s⟩
  | .mapping entries, _, hwf, l, hl =>
    noBreak_dashed (entryLines_noBreak entries hwf.2) l hl
  | .empty, _, _, _, hl | .flag _, _, _, _, hl | .literal _ _, _, _, _, hl
  | .sequence _, _, _, _, hl => by simp [Block.item] at hl

theorem itemLines_noBreak : ∀ (bs : List Block) {n : Nat}, WellFormedItems bs →
    ∀ l ∈ itemLines q n bs, NoBreak l
  | [], _, _, _, hl => by simp [itemLines] at hl
  | b :: bs, _, hwf, l, hl => by
    rw [itemLines] at hl
    rcases List.mem_append.mp hl with hitem | hrest
    · exact Block.item_noBreak b hwf.2.1 l hitem
    · exact itemLines_noBreak bs hwf.2.2 l hrest

end

/-- The line is indented or empty. -/
def Indented (l : List Char) : Prop := l = [] ∨ l.head? = some ' '

theorem indented_spaces (l : List Char) : Indented (spaces (n + 1) ++ l) :=
  .inr (by simp [spaces, List.replicate_succ])

theorem indented_dashed (h : ∀ l ∈ ls, Indented l) : ∀ l ∈ dashed (n + 1) ls, Indented l := by
  cases ls with
  | nil => exact h
  | cons first ls =>
    intro l hl
    rcases List.mem_cons.mp hl with rfl | hmem
    · exact indented_spaces _
    · exact h l (List.mem_cons_of_mem _ hmem)

mutual

theorem Block.under_indented : ∀ (b : Block) {n : Nat}, ∀ l ∈ b.under q n, Indented l
  | .empty, _, _, hl | .flag _, _, _, hl | .quoted _, _, _, hl => by simp [Block.under] at hl
  | .literal content blanks, n, l, hl => by
    rw [Block.under] at hl
    rcases List.mem_append.mp hl with hcontent | hblank
    · obtain ⟨r, _, rfl⟩ := List.mem_map.mp hcontent
      exact indented_spaces r
    · exact .inl (List.mem_replicate.mp hblank).2
  | .mapping entries, _, l, hl => entryLines_indented entries l hl
  | .sequence items, _, l, hl => itemLines_indented items l hl

theorem entryLines_indented : ∀ (es : List (String × Block)) {n : Nat},
    ∀ l ∈ entryLines q (n + 1) es, Indented l
  | [], _, _, hl => by simp [entryLines] at hl
  | (k, b) :: es, n, l, hl => by
    rw [entryLines] at hl
    rcases List.mem_cons.mp hl with rfl | hmem
    · rw [List.append_assoc]
      exact indented_spaces _
    · rcases List.mem_append.mp hmem with hunder | hrest
      · exact Block.under_indented b l hunder
      · exact entryLines_indented es l hrest

theorem Block.item_indented : ∀ (b : Block) {n : Nat}, ∀ l ∈ b.item q (n + 1), Indented l
  | .quoted s, n, l, hl => by
    rw [Block.item, List.mem_singleton] at hl
    rw [hl]
    exact indented_spaces _
  | .mapping entries, _, l, hl => indented_dashed (entryLines_indented entries) l hl
  | .empty, _, _, hl | .flag _, _, _, hl | .literal _ _, _, _, hl | .sequence _, _, _, hl => by
    simp [Block.item] at hl

theorem itemLines_indented : ∀ (bs : List Block) {n : Nat},
    ∀ l ∈ itemLines q (n + 1) bs, Indented l
  | [], _, _, hl => by simp [itemLines] at hl
  | b :: bs, _, l, hl => by
    rw [itemLines] at hl
    rcases List.mem_append.mp hl with hitem | hrest
    · exact Block.item_indented b l hitem
    · exact itemLines_indented bs l hrest

end

/-- No line of a document starts with a dash. -/
theorem entryLines_head_ne {es : List (String × Block)} (hwf : WellFormedEntries es) :
    ∀ l ∈ entryLines q 0 es, l.head? ≠ some '-' := by
  intro l hl
  induction es with
  | nil => simp [entryLines] at hl
  | cons e es ih =>
    obtain ⟨k, b⟩ := e
    rw [entryLines] at hl
    rcases List.mem_cons.mp hl with rfl | hmem
    · obtain ⟨c, cs, hkey, hc⟩ := PlainKey.cons hwf.1
      rw [hkey]
      simpa [spaces] using (isKeyChar_ne hc).2.1
    · rcases List.mem_append.mp hmem with hunder | hrest
      · rcases Block.under_indented b l hunder with rfl | hspace
        · simp
        · rw [hspace]
          simp
      · exact ih hwf.2.2.2 hrest

/-- **A text stands for one document.** -/
theorem text_injective {es es' : List (String × Block)} (hne : es ≠ []) (hne' : es' ≠ [])
    (hwf : WellFormedEntries es) (hwf' : WellFormedEntries es') (h : text q es = text q es') :
    es = es' := by
  have hlines : ∀ {es : List (String × Block)}, es ≠ [] → WellFormedEntries es →
      (text q es).splitOn '\n' = entryLines q 0 es := by
    intro es hne hwf
    refine List.splitOn_intercalate _ (fun l hl => (entryLines_noBreak es hwf l hl).1) ?_
    obtain ⟨c, cs, ls, _, hlines⟩ := entryLines_head (q := q) (n := 0) hne hwf
    rw [hlines]
    simp
  have hsplit := congrArg (List.splitOn '\n') h
  rw [hlines hne hwf, hlines hne' hwf'] at hsplit
  exact (entryLines_append es es' (x := []) (y := []) hwf hwf' outer_nil outer_nil
    (by rw [hsplit])).1

end Deterministic

/-- **A reader of YAML**, as far as this part of it goes. -/
def Reads (q : Quoting) (read : List Char → Option Yaml) : Prop :=
  ∀ entries, entries ≠ [] → WellFormedEntries entries →
    read (text q entries) = some (.mapping (valueEntries entries))

open Classical in
/-- The reader of this part of YAML only. -/
noncomputable def blockReader (q : Quoting) (cs : List Char) : Option Yaml :=
  if h : ∃ entries, entries ≠ [] ∧ WellFormedEntries entries ∧ text q entries = cs then
    some (.mapping (valueEntries h.choose))
  else none

/-- There is a reader of YAML. -/
theorem blockReader_reads (q : Quoting) : Reads q (blockReader q) := by
  intro entries hne hwf
  have h : ∃ entries', entries' ≠ [] ∧ WellFormedEntries entries' ∧
      text q entries' = text q entries := ⟨entries, hne, hwf, rfl⟩
  obtain ⟨hne', hwf', htext⟩ := h.choose_spec
  rw [blockReader, dif_pos h, text_injective hne' hne hwf' hwf htext]

end YamlBlocks
