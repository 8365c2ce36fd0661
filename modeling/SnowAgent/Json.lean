import Mathlib.Data.List.Basic
import Mathlib.Data.String.Basic
import Mathlib.Tactic.IntervalCases

/-! # JSON values and their compact text

The JSON data model of `serde_json` (an object is a map with its keys in order)
and the text its compact formatter prints.  Reading the text back is not
modelled: what the development needs of it is that the text determines the value
(`Value.text_injective`), which `Value.print_append` proves in the form an
induction can use: two printed values followed by anything are told apart before
whatever follows them.
-/
namespace SnowAgent.Json

/-- The characters a printed JSON number is made of. -/
def isNumberChar (c : Char) : Bool :=
  c ∈ ['0', '1', '2', '3', '4', '5', '6', '7', '8', '9', '-', '+', '.', 'e', 'E']

variable {c : Char}

theorem isNumberChar_of_isDigit (h : c.isDigit = true) : isNumberChar c = true := by
  simp only [Char.isDigit, Bool.and_eq_true, decide_eq_true_eq] at h
  obtain ⟨hlow, hhigh⟩ := h
  have hlow : 48 ≤ c.toNat := hlow
  have hhigh : c.toNat ≤ 57 := hhigh
  rw [← Char.ofNat_toNat c]
  interval_cases c.toNat <;> rfl

/-- A JSON number, kept as the text it prints as. -/
structure Number where
  text : String
  nonempty : text.toList ≠ []
  wellFormed : ∀ c ∈ text.toList, isNumberChar c = true
deriving DecidableEq

/-- A JSON value. -/
inductive Value where
  | null
  | bool (b : Bool)
  | number (n : Number)
  | string (s : String)
  | array (items : List Value)
  | object (fields : List (String × Value))

/-! ## Reading and editing objects -/

namespace Value

/-- The fields of an object. -/
def asObject : Value → Option (List (String × Value))
  | .object fields => some fields
  | _ => none

/-- The text of a string. -/
def asStr : Value → Option String
  | .string s => some s
  | _ => none

/-- The truth value of a Boolean. -/
def asBool : Value → Option Bool
  | .bool b => some b
  | _ => none

end Value

/-- The value of a key of an object. -/
def lookup (key : String) (fields : List (String × Value)) : Option Value :=
  (fields.find? (fun f => f.1 == key)).map Prod.snd

/-- Whether an object has a key. -/
def containsKey (key : String) (fields : List (String × Value)) : Bool := (lookup key fields).isSome

/-- Sets a key of an object, at its place in the key order. -/
def insert (key : String) (v : Value) : List (String × Value) → List (String × Value)
  | [] => [(key, v)]
  | f :: fs =>
    if f.1 = key then (key, v) :: fs
    else if key < f.1 then (key, v) :: f :: fs
    else f :: insert key v fs

/-- Removes a key of an object. -/
def remove (key : String) (fields : List (String × Value)) : List (String × Value) :=
  fields.filter (fun f => f.1 != key)

variable {fields : List (String × Value)}

/-- The keys of an object after a key is set. -/
theorem mem_keys_insert {key k : String} {v : Value} :
    k ∈ (insert key v fields).map Prod.fst ↔ k = key ∨ k ∈ fields.map Prod.fst := by
  induction fields with
  | nil => simp [insert]
  | cons f fs ih =>
    rw [insert]
    split_ifs with hkey hlt
    · simp [hkey]
    · simp
    · rw [List.map_cons, List.mem_cons, ih, List.map_cons, List.mem_cons]
      exact or_left_comm

/-- The keys of an object after a key is removed. -/
theorem mem_keys_remove {key k : String} :
    k ∈ (remove key fields).map Prod.fst ↔ k ≠ key ∧ k ∈ fields.map Prod.fst := by
  simp only [remove, List.mem_map, List.mem_filter, bne_iff_ne]
  constructor
  · rintro ⟨f, ⟨hf, hne⟩, rfl⟩
    exact ⟨hne, f, hf, rfl⟩
  · rintro ⟨hne, f, hf, rfl⟩
    exact ⟨f, ⟨hf, hne⟩, rfl⟩

variable {key : String}

theorem containsKey_iff : containsKey key fields = true ↔ key ∈ fields.map Prod.fst := by
  simp [containsKey, lookup, List.find?_isSome]

theorem lookup_eq_none : lookup key fields = none ↔ key ∉ fields.map Prod.fst := by
  rw [← containsKey_iff, containsKey]
  simp

theorem mem_keys_of_lookup {v : Value}
    (h : lookup key fields = some v) : key ∈ fields.map Prod.fst := by
  by_contra hkey
  rw [lookup_eq_none.mpr hkey] at h
  cases h

/-- Setting a key that is there leaves the fields before and after it. -/
theorem insert_present {old v : Value} {xs ys : List (String × Value)}
    (hxs : ∀ k ∈ xs.map Prod.fst, k < key) :
    insert key v (xs ++ (key, old) :: ys) = xs ++ (key, v) :: ys := by
  induction xs with
  | nil => simp [insert]
  | cons x xs ih =>
    have hx : x.1 < key := hxs x.1 (List.mem_cons_self ..)
    rw [List.cons_append, insert, if_neg (ne_of_lt hx), if_neg (lt_asymm hx),
      ih (fun k hk => hxs k (List.mem_cons_of_mem _ hk)), List.cons_append]

theorem remove_append (key : String) (xs ys : List (String × Value)) :
    remove key (xs ++ ys) = remove key xs ++ remove key ys := List.filter_append ..

theorem remove_absent {xs : List (String × Value)}
    (hxs : key ∉ xs.map Prod.fst) : remove key xs = xs := by
  refine List.filter_eq_self.mpr fun x hx => ?_
  have hkey : x.1 ≠ key := fun h => hxs (h ▸ List.mem_map_of_mem hx)
  simpa using hkey

theorem lookup_cons (key : String) (f : String × Value) (fields : List (String × Value)) :
    lookup key (f :: fields) = if f.1 = key then some f.2 else lookup key fields := by
  rw [lookup, List.find?_cons]
  by_cases hf : f.1 = key
  · simp [hf]
  · have hf' : (f.1 == key) = false := by simpa using hf
    rw [hf', if_neg hf]
    rfl

theorem lookup_insert_self (key : String) (v : Value) (fields : List (String × Value)) :
    lookup key (insert key v fields) = some v := by
  induction fields with
  | nil => simp [insert, lookup_cons]
  | cons f fields ih =>
    rw [insert]
    split
    · simp [lookup_cons]
    · split
      · simp [lookup_cons]
      · rename_i hne _
        rw [lookup_cons, if_neg hne, ih]

theorem lookup_insert_of_ne {key key' : String} (h : key' ≠ key) (v : Value)
    (fields : List (String × Value)) : lookup key' (insert key v fields) = lookup key' fields := by
  induction fields with
  | nil => simp [insert, lookup_cons, Ne.symm h]
  | cons f fields ih =>
    rw [insert]
    split
    · rename_i heq
      rw [lookup_cons, lookup_cons, heq, if_neg (Ne.symm h), if_neg (Ne.symm h)]
    · split
      · rw [lookup_cons, if_neg (Ne.symm h)]
      · rw [lookup_cons, lookup_cons, ih]

theorem lookup_remove_of_ne {key key' : String} (h : key' ≠ key)
    (fields : List (String × Value)) : lookup key' (remove key fields) = lookup key' fields := by
  rw [lookup, lookup, remove, List.find?_filter]
  congr 1
  refine congrArg (fun p => List.find? p fields) (funext fun f => ?_)
  by_cases hf : f.1 = key'
  · simp [hf, h]
  · simp [hf]

/-- Of fields that are set one after the other, the last one with a key is found. -/
theorem lookup_foldl_insert (key : String) (fields acc : List (String × Value)) :
    lookup key (fields.foldl (fun acc f => insert f.1 f.2 acc) acc) =
      (lookup key fields.reverse).or (lookup key acc) := by
  induction fields generalizing acc with
  | nil => rfl
  | cons f fields ih =>
    have hlast : lookup key (fields.reverse ++ [f]) =
        (lookup key fields.reverse).or (if f.1 = key then some f.2 else none) := by
      rw [lookup, lookup, List.find?_append, Option.map_or]
      congr 1
      exact lookup_cons key f []
    rw [List.foldl_cons, ih, List.reverse_cons, hlast, Option.or_assoc]
    congr 1
    by_cases hkey : f.1 = key
    · rw [if_pos hkey, ← hkey, lookup_insert_self, Option.some_or]
    · rw [if_neg hkey, lookup_insert_of_ne (Ne.symm hkey), Option.none_or]

/-- `value.get(key)`: the field of an object, nothing for any other value. -/
def Value.get (v : Value) (key : String) : Option Value := v.asObject.bind (lookup key)

/-! ## The compact text -/

/-- A lowercase hexadecimal digit. -/
def hexDigit (n : Nat) : Char :=
  match n with
  | 0 => '0' | 1 => '1' | 2 => '2' | 3 => '3' | 4 => '4' | 5 => '5' | 6 => '6' | 7 => '7'
  | 8 => '8' | 9 => '9' | 10 => 'a' | 11 => 'b' | 12 => 'c' | 13 => 'd' | 14 => 'e' | _ => 'f'

/-- How one character of a string is printed. -/
def escapeChar (c : Char) : List Char :=
  if c = '"' then ['\\', '"']
  else if c = '\\' then ['\\', '\\']
  else if c = '\x08' then ['\\', 'b']
  else if c = '\x0c' then ['\\', 'f']
  else if c = '\n' then ['\\', 'n']
  else if c = '\r' then ['\\', 'r']
  else if c = '\t' then ['\\', 't']
  else if c.toNat < 32 then
    ['\\', 'u', '0', '0', hexDigit (c.toNat / 16), hexDigit (c.toNat % 16)]
  else [c]

/-- The characters of a string, escaped, up to the closing quote. -/
def printChars : List Char → List Char
  | [] => ['"']
  | c :: cs => escapeChar c ++ printChars cs

/-- A string in quotes. -/
def printString (s : String) : List Char := '"' :: printChars s.toList

mutual

/-- The compact text of a value. -/
def Value.print : Value → List Char
  | .null => ['n', 'u', 'l', 'l']
  | .bool true => ['t', 'r', 'u', 'e']
  | .bool false => ['f', 'a', 'l', 's', 'e']
  | .number n => n.text.toList
  | .string s => printString s
  | .array [] => ['[', ']']
  | .array (v :: vs) => '[' :: (v.print ++ printItems vs)
  | .object [] => ['{', '}']
  | .object ((k, v) :: fs) => '{' :: (printString k ++ ':' :: (v.print ++ printFields fs))

/-- The items after the first one of an array, and its closing bracket. -/
def printItems : List Value → List Char
  | [] => [']']
  | v :: vs => ',' :: (v.print ++ printItems vs)

/-- The fields after the first one of an object, and its closing brace. -/
def printFields : List (String × Value) → List Char
  | [] => ['}']
  | (k, v) :: fs => ',' :: (printString k ++ ':' :: (v.print ++ printFields fs))

end

/-- The compact text of a value, as a string. -/
def Value.text (v : Value) : String := String.ofList v.print

/-! ## The text determines the value -/

/-- The value of a lowercase hexadecimal digit. -/
def hexValue (c : Char) : Nat :=
  if c.toNat < 58 then c.toNat - 48 else c.toNat - 87

theorem hexValue_hexDigit {n : Nat} (h : n < 16) : hexValue (hexDigit n) = n := by
  interval_cases n <;> rfl

theorem hexDigit_mem (n : Nat) : hexDigit n ∈ "0123456789abcdef".toList := by
  unfold hexDigit
  split <;> decide

/-- Reads one printed character of a string back. -/
def readChar : List Char → Option (Char × List Char)
  | '\\' :: 'b' :: rest => some ('\x08', rest)
  | '\\' :: 'f' :: rest => some ('\x0c', rest)
  | '\\' :: 'n' :: rest => some ('\n', rest)
  | '\\' :: 'r' :: rest => some ('\r', rest)
  | '\\' :: 't' :: rest => some ('\t', rest)
  | '\\' :: 'u' :: '0' :: '0' :: h :: l :: rest =>
    some (Char.ofNat (16 * hexValue h + hexValue l), rest)
  | '\\' :: c :: rest => some (c, rest)
  | c :: rest => some (c, rest)
  | [] => none

theorem readChar_control (n : Nat) (h : n < 32) (rest : List Char) :
    readChar ('\\' :: 'u' :: '0' :: '0' :: hexDigit (n / 16) :: hexDigit (n % 16) :: rest) =
      some (Char.ofNat n, rest) := by
  interval_cases n <;> rfl

theorem readChar_escapeChar (c : Char) (rest : List Char) :
    readChar (escapeChar c ++ rest) = some (c, rest) := by
  unfold escapeChar
  split_ifs with h1 h2 h3 h4 h5 h6 h7 h8
  · subst h1; rfl
  · subst h2; rfl
  · subst h3; rfl
  · subst h4; rfl
  · subst h5; rfl
  · subst h6; rfl
  · subst h7; rfl
  · have := readChar_control c.toNat h8 rest
    rw [Char.ofNat_toNat] at this
    exact this
  · show readChar (c :: rest) = some (c, rest)
    unfold readChar
    split <;> simp_all

/-- The printed character of a string is read off the front of what follows it. -/
theorem escapeChar_append {c d : Char} {x y : List Char}
    (h : escapeChar c ++ x = escapeChar d ++ y) : c = d ∧ x = y := by
  have hread := congrArg readChar h
  rw [readChar_escapeChar, readChar_escapeChar] at hread
  exact Prod.mk.inj (Option.some.inj hread)

/-- No printed character starts with the closing quote. -/
theorem escapeChar_ne_quote (c : Char) (x y : List Char) : escapeChar c ++ x ≠ '"' :: y := by
  intro h
  unfold escapeChar at h
  split_ifs at h with h1
  all_goals simp at h
  exact h1 h.1

theorem printChars_append : ∀ {s t x y : List Char},
    printChars s ++ x = printChars t ++ y → s = t ∧ x = y
  | [], [], _, _, h => ⟨rfl, by simpa [printChars] using h⟩
  | [], d :: t, x, y, h => by
    rw [printChars, printChars, List.append_assoc] at h
    exact absurd h.symm (escapeChar_ne_quote d _ _)
  | c :: s, [], x, y, h => by
    rw [printChars, printChars, List.append_assoc] at h
    exact absurd h (escapeChar_ne_quote c _ _)
  | c :: s, d :: t, x, y, h => by
    rw [printChars, printChars, List.append_assoc, List.append_assoc] at h
    obtain ⟨rfl, hrest⟩ := escapeChar_append h
    obtain ⟨rfl, rfl⟩ := printChars_append hrest
    exact ⟨rfl, rfl⟩

theorem printString_append {s t : String} {x y : List Char}
    (h : printString s ++ x = printString t ++ y) : s = t ∧ x = y := by
  obtain ⟨hst, hxy⟩ := printChars_append (List.cons.inj h).2
  exact ⟨String.toList_injective hst, hxy⟩

/-- What may follow a printed value: nothing, or a character no number contains. -/
def Ends (x : List Char) : Prop := ∀ c ∈ x.head?, isNumberChar c = false

theorem ends_nil : Ends [] := by simp [Ends]

theorem ends_cons {x : List Char} (h : isNumberChar c = false) : Ends (c :: x) := by
  simpa [Ends] using h

theorem printItems_ends (vs : List Value) (x : List Char) : Ends (printItems vs ++ x) := by
  cases vs with
  | nil => exact ends_cons (by decide)
  | cons v vs => exact ends_cons (by decide)

theorem printFields_ends (fs : List (String × Value)) (x : List Char) :
    Ends (printFields fs ++ x) := by
  cases fs with
  | nil => exact ends_cons (by decide)
  | cons f fs => exact ends_cons (by decide)

/-- Two texts of number characters are told apart before whatever ends them. -/
theorem number_append : ∀ {s t x y : List Char},
    (∀ c ∈ s, isNumberChar c = true) → (∀ c ∈ t, isNumberChar c = true) → Ends x → Ends y →
    s ++ x = t ++ y → s = t ∧ x = y
  | [], [], _, _, _, _, _, _, h => ⟨rfl, h⟩
  | [], d :: t, x, y, _, ht, hx, _, h => by
    have hd := hx d (by rw [List.nil_append] at h; rw [h]; simp)
    rw [ht d (List.mem_cons_self ..)] at hd
    cases hd
  | c :: s, [], x, y, hs, _, _, hy, h => by
    have hc := hy c (by rw [List.nil_append] at h; rw [← h]; simp)
    rw [hs c (List.mem_cons_self ..)] at hc
    cases hc
  | c :: s, d :: t, x, y, hs, ht, hx, hy, h => by
    obtain ⟨rfl, htail⟩ := List.cons.inj h
    obtain ⟨rfl, rfl⟩ := number_append (fun c hc => hs c (List.mem_cons_of_mem _ hc))
      (fun c hc => ht c (List.mem_cons_of_mem _ hc)) hx hy htail
    exact ⟨rfl, rfl⟩

/-- What the first character of a printed value says about it. -/
inductive Shape where
  | null | true | false | number | string | array | object | none
deriving DecidableEq

/-- The shape of a value. -/
def Value.shape : Value → Shape
  | .null => .null
  | .bool true => .true
  | .bool false => .false
  | .number _ => .number
  | .string _ => .string
  | .array _ => .array
  | .object _ => .object

/-- The shape of the values that start with a character. -/
def shapeOf (c : Char) : Shape :=
  if isNumberChar c then .number
  else match c with
    | 'n' => .null
    | 't' => .true
    | 'f' => .false
    | '"' => .string
    | '[' => .array
    | '{' => .object
    | _ => .none

theorem Value.print_head (v : Value) : ∃ c cs, v.print = c :: cs ∧ shapeOf c = v.shape := by
  match v with
  | .null => exact ⟨'n', _, rfl, rfl⟩
  | .bool true => exact ⟨'t', _, rfl, rfl⟩
  | .bool false => exact ⟨'f', _, rfl, rfl⟩
  | .string s => exact ⟨'"', printChars s.toList, rfl, rfl⟩
  | .array [] => exact ⟨'[', _, rfl, rfl⟩
  | .array (v :: vs) => exact ⟨'[', v.print ++ printItems vs, rfl, rfl⟩
  | .object [] => exact ⟨'{', _, rfl, rfl⟩
  | .object ((k, v) :: fs) =>
    exact ⟨'{', printString k ++ ':' :: (v.print ++ printFields fs), rfl, rfl⟩
  | .number n =>
    cases hn : n.text.toList with
    | nil => exact absurd hn n.nonempty
    | cons d ds =>
      refine ⟨d, ds, hn, ?_⟩
      have hd := n.wellFormed d (by rw [hn]; exact List.mem_cons_self ..)
      simp [shapeOf, hd, Value.shape]

/-- Values whose texts start alike have one shape. -/
theorem Value.shape_eq {v w : Value} {x y : List Char} (h : v.print ++ x = w.print ++ y) :
    v.shape = w.shape := by
  obtain ⟨c, cs, hv, hc⟩ := v.print_head
  obtain ⟨d, ds, hw, hd⟩ := w.print_head
  rw [hv, hw] at h
  rw [← hc, ← hd, (List.cons.inj h).1]

/-- No value starts with a character that belongs to none. -/
theorem Value.print_ne_cons (v : Value) (hc : shapeOf c = .none) (x y : List Char) :
    v.print ++ x ≠ c :: y := by
  intro h
  obtain ⟨d, ds, hv, hd⟩ := v.print_head
  rw [hv] at h
  rw [(List.cons.inj h).1, hc] at hd
  match v, hd with
  | .bool true, hd | .bool false, hd => cases hd

mutual

/-- **Two printed values are told apart before whatever follows them.** -/
theorem Value.print_append : ∀ (v w : Value) {x y : List Char}, Ends x → Ends y →
    v.print ++ x = w.print ++ y → v = w ∧ x = y := by
  intro v w x y hx hy h
  have hshape := Value.shape_eq h
  match v, w, hshape with
  | .null, .null, _ => simpa [Value.print] using h
  | .bool true, .bool true, _ => simpa [Value.print] using h
  | .bool false, .bool false, _ => simpa [Value.print] using h
  | .number m, .number n, _ =>
    obtain ⟨htext, hxy⟩ := number_append m.wellFormed n.wellFormed hx hy h
    refine ⟨?_, hxy⟩
    cases m
    cases n
    cases String.toList_injective htext
    rfl
  | .string s, .string t, _ =>
    obtain ⟨rfl, hxy⟩ := printString_append h
    exact ⟨rfl, hxy⟩
  | .array [], .array [], _ => simpa [Value.print] using h
  | .array [], .array (w :: ws), _ =>
    simp only [Value.print, List.cons_append, List.append_assoc] at h
    exact absurd (List.cons.inj h).2.symm (w.print_ne_cons (by decide) _ _)
  | .array (v :: vs), .array [], _ =>
    simp only [Value.print, List.cons_append, List.append_assoc] at h
    exact absurd (List.cons.inj h).2 (v.print_ne_cons (by decide) _ _)
  | .array (v :: vs), .array (w :: ws), _ =>
    simp only [Value.print, List.cons_append, List.append_assoc] at h
    obtain ⟨rfl, hrest⟩ := Value.print_append v w (printItems_ends vs x) (printItems_ends ws y)
      (List.cons.inj h).2
    obtain ⟨rfl, rfl⟩ := printItems_append vs ws hrest
    exact ⟨rfl, rfl⟩
  | .object [], .object [], _ => simpa [Value.print] using h
  | .object [], .object ((k, w) :: fs), _ => simp [Value.print, printString] at h
  | .object ((k, v) :: fs), .object [], _ => simp [Value.print, printString] at h
  | .object ((k, v) :: fs), .object ((l, w) :: gs), _ =>
    simp only [Value.print, List.cons_append, List.append_assoc] at h
    obtain ⟨rfl, hrest⟩ := printString_append (List.cons.inj h).2
    obtain ⟨rfl, hfields⟩ := Value.print_append v w (printFields_ends fs x)
      (printFields_ends gs y) (List.cons.inj hrest).2
    obtain ⟨rfl, rfl⟩ := printFields_append fs gs hfields
    exact ⟨rfl, rfl⟩

theorem printItems_append : ∀ (vs ws : List Value) {x y : List Char},
    printItems vs ++ x = printItems ws ++ y → vs = ws ∧ x = y
  | [], [], _, _, h => by simpa [printItems] using h
  | [], w :: ws, _, _, h => by simp [printItems] at h
  | v :: vs, [], _, _, h => by simp [printItems] at h
  | v :: vs, w :: ws, x, y, h => by
    simp only [printItems, List.cons_append, List.append_assoc] at h
    obtain ⟨rfl, hrest⟩ := Value.print_append v w (printItems_ends vs x) (printItems_ends ws y)
      (List.cons.inj h).2
    obtain ⟨rfl, rfl⟩ := printItems_append vs ws hrest
    exact ⟨rfl, rfl⟩

theorem printFields_append : ∀ (fs gs : List (String × Value)) {x y : List Char},
    printFields fs ++ x = printFields gs ++ y → fs = gs ∧ x = y
  | [], [], _, _, h => by simpa [printFields] using h
  | [], (l, w) :: gs, _, _, h => by simp [printFields] at h
  | (k, v) :: fs, [], _, _, h => by simp [printFields] at h
  | (k, v) :: fs, (l, w) :: gs, x, y, h => by
    simp only [printFields, List.cons_append, List.append_assoc] at h
    obtain ⟨rfl, hrest⟩ := printString_append (List.cons.inj h).2
    obtain ⟨rfl, hfields⟩ := Value.print_append v w (printFields_ends fs x)
      (printFields_ends gs y) (List.cons.inj hrest).2
    obtain ⟨rfl, rfl⟩ := printFields_append fs gs hfields
    exact ⟨rfl, rfl⟩

end

/-- **The compact text determines the value.** -/
theorem Value.print_injective : Function.Injective Value.print := by
  intro v w h
  exact (Value.print_append v w ends_nil ends_nil (by simpa using h)).1

theorem Value.text_injective : Function.Injective Value.text := by
  intro v w h
  exact Value.print_injective (String.ofList_injective h)

instance : DecidableEq Value := fun v w =>
  decidable_of_iff (v.print = w.print) Value.print_injective.eq_iff

end SnowAgent.Json
