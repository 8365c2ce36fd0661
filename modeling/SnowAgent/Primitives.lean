import SnowAgent.Json

/-! # Shared primitives

What every module of the agent uses: instants of time, record references, the
hexadecimal text of a digest, and the JSON values of the plain Rust types.  Two
functions of other crates stay parameters throughout the development: the
SHA-256 digest of a byte string, and the RFC 3339 text of an instant.
-/
namespace SnowAgent

open Json

/-- `DateTime<Utc>`: nanoseconds since the Unix epoch. -/
abbrev DateTime := Int

/-- `Duration::seconds`. -/
def durationSeconds (n : Int) : Int := n * 1000000000

/-- `DateTime::timestamp`: whole seconds since the epoch, rounded down. -/
def timestampSeconds (t : DateTime) : Int := t / 1000000000

/-- The SHA-256 digest of a byte string. -/
abbrev Sha256 := ByteArray → List UInt8

/-- The text `to_rfc3339` writes for an instant. -/
abbrev Rfc3339 := DateTime → String

/-- A digest that hides nothing: the byte string itself.  It stands for the real digest
where a fixed one is needed. -/
def plainDigest : Sha256 := fun bytes => bytes.data.toList

theorem plainDigest_injective : Function.Injective plainDigest := by
  intro a b h
  exact ByteArray.ext (Array.toList_inj.mp h)

/-- What follows a fallible computation has a value only if it has one itself. -/
theorem bind_eq_ok {ε α β : Type} {x : Except ε α} {f : α → Except ε β} {b : β}
    (h : (x >>= f) = .ok b) : ∃ a, x = .ok a ∧ f a = .ok b := by
  cases x with
  | error e => cases h
  | ok a => exact ⟨a, rfl, h⟩

theorem bind_eq_ok_iff {ε α β : Type} {x : Except ε α} {f : α → Except ε β} {b : β} :
    (x >>= f) = .ok b ↔ ∃ a, x = .ok a ∧ f a = .ok b := by
  cases x with
  | error err => simp [bind, Except.bind]
  | ok a => simp [bind, Except.bind]

theorem mapError_eq_ok_iff {ε ε' α : Type} {x : Except ε α} {f : ε → ε'} {a : α} :
    x.mapError f = .ok a ↔ x = .ok a := by
  cases x <;> simp [Except.mapError]

theorem map_eq_ok_iff {ε α β : Type} {x : Except ε α} {f : α → β} {b : β} :
    x.map f = .ok b ↔ ∃ a, x = .ok a ∧ f a = b := by
  cases x <;> simp [Except.map]

/-- A reference to a ServiceNow record. -/
structure RecordRef where
  sysId : String
  number : String
  table : String
deriving DecidableEq

/-! ## Hexadecimal digests -/

/-- The two digits of a byte. -/
def hexByte (b : UInt8) : List Char := [hexDigit (b.toNat / 16), hexDigit (b.toNat % 16)]

/-- `hex::encode`. -/
def hexEncode (bytes : List UInt8) : String := String.ofList (bytes.flatMap hexByte)

theorem hexDigit_injective {m n : Nat} (hm : m < 16) (hn : n < 16)
    (h : hexDigit m = hexDigit n) : m = n := by
  have hread := congrArg hexValue h
  rw [hexValue_hexDigit hm, hexValue_hexDigit hn] at hread
  exact hread

theorem hexByte_injective {a b : UInt8} (h : hexByte a = hexByte b) : a = b := by
  obtain ⟨hhigh, htail⟩ := List.cons.inj h
  have hlow := (List.cons.inj htail).1
  have ha := a.toNat_lt
  have hb := b.toNat_lt
  have h1 := hexDigit_injective (by omega) (by omega) hhigh
  have h2 := hexDigit_injective (by omega) (by omega) hlow
  exact UInt8.toNat_inj.mp (by omega)

theorem flatMap_hexByte_injective : ∀ {xs ys : List UInt8},
    xs.flatMap hexByte = ys.flatMap hexByte → xs = ys
  | [], [], _ => rfl
  | [], y :: ys, h => by simp [hexByte] at h
  | x :: xs, [], h => by simp [hexByte] at h
  | x :: xs, y :: ys, h => by
    rw [List.flatMap_cons, List.flatMap_cons] at h
    obtain ⟨hbyte, hrest⟩ := List.append_inj h rfl
    rw [hexByte_injective hbyte, flatMap_hexByte_injective hrest]

/-- The hexadecimal text determines the digest. -/
theorem hexEncode_injective : Function.Injective hexEncode := by
  intro xs ys h
  exact flatMap_hexByte_injective (String.ofList_injective h)

/-- Only digits and the letters `a` to `f` are written. -/
theorem hexEncode_chars {bytes : List UInt8} {c : Char} (h : c ∈ (hexEncode bytes).toList) :
    c ∈ "0123456789abcdef".toList := by
  rw [hexEncode, String.toList_ofList] at h
  obtain ⟨b, _, hc⟩ := List.mem_flatMap.mp h
  rcases List.mem_pair.mp hc with rfl | rfl
  · exact hexDigit_mem _
  · exact hexDigit_mem _

/-! ## JSON of plain values -/

namespace Json

/-- An unsigned integer. -/
def Number.ofNat (n : Nat) : Number where
  text := n.repr
  nonempty := by simp [Nat.repr, Nat.toDigits_ne_nil]
  wellFormed := by
    intro c hc
    have hdigit : c ∈ Nat.toDigits 10 n := by simpa [Nat.repr] using hc
    exact isNumberChar_of_isDigit (Nat.isDigit_of_mem_toDigits (by decide) (by decide) hdigit)

/-- A string, or null. -/
def ofOption {α : Type} (f : α → Value) : Option α → Value
  | some a => f a
  | none => .null

/-- An array. -/
def ofList {α : Type} (f : α → Value) (xs : List α) : Value := .array (xs.map f)

/-- An unsigned integer, as a value. -/
def ofNat (n : Nat) : Value := .number (Number.ofNat n)

/-- A signed integer. -/
def Number.ofInt : Int → Number
  | .ofNat n => Number.ofNat n
  | .negSucc n =>
    { text := "-" ++ (n + 1).repr
      nonempty := by simp
      wellFormed := by
        intro c hc
        rw [String.toList_append] at hc
        rcases List.mem_append.mp hc with hsign | hdigits
        · have hminus : c = '-' := by simpa using hsign
          rw [hminus]
          rfl
        · exact (Number.ofNat (n + 1)).wellFormed c hdigits }

/-- A signed integer, as a value. -/
def ofInt (n : Int) : Value := .number (Number.ofInt n)

/-- An object with the given fields, in the order of their keys. -/
def obj (fields : List (String × Value)) : Value :=
  .object (fields.foldl (fun acc f => insert f.1 f.2 acc) [])

/-- An array of strings. -/
def strings (xs : List String) : Value := ofList Value.string xs

theorem ofNat_injective : Function.Injective ofNat := by
  intro m n h
  have htext : m.repr = n.repr := congrArg Number.text (Value.number.inj h)
  have hdigits := congrArg (fun s => Nat.ofDigitChars 10 s.toList 0) htext
  simpa [Nat.repr, Nat.ofDigitChars_toDigits] using hdigits

theorem ofList_injective {α : Type} {f : α → Value} (hf : Function.Injective f) :
    Function.Injective (ofList f) := by
  intro xs ys h
  exact List.map_injective_iff.mpr hf (Value.array.inj h)

theorem ofOption_injective {α : Type} {f : α → Value} (hf : Function.Injective f)
    (hnull : ∀ a, f a ≠ .null) : Function.Injective (ofOption f) := by
  intro a b h
  cases a with
  | none =>
    cases b with
    | none => rfl
    | some b => exact absurd h.symm (hnull b)
  | some a =>
    cases b with
    | none => exact absurd h (hnull a)
    | some b => rw [hf h]

end Json

namespace Core

/-- `usize as i64`. -/
def i64OfUsize (n : Nat) : Int := if n < 2 ^ 63 then n else n - 2 ^ 64

end Core

theorem repr_injective {m n : Nat} (h : m.repr = n.repr) : m = n :=
  Json.ofNat_injective (congrArg Json.Value.number (by simp [Json.Number.ofNat, h]))

/-! ## A clock text

The text of instants that the fixed examples use: right for the first ten whole
seconds of 2026, and for any other instant a sign and a number that tell it from
all the rest. -/

/-- 2026-01-01T00:00:00. -/
def newYear : Int := durationSeconds 1767225600

/-- Whether an instant is one of the first ten whole seconds of 2026. -/
def InFirstSeconds (t : Int) : Prop :=
  newYear ≤ t ∧ t < newYear + durationSeconds 10 ∧ t % 1000000000 = 0

instance (t : Int) : Decidable (InFirstSeconds t) := inferInstanceAs (Decidable (_ ∧ _ ∧ _))

/-- The sign a text starts with: none for the first seconds of 2026. -/
def plainSign (t : Int) : String :=
  if InFirstSeconds t then "2026-01-01T00:00:0" else if 0 ≤ t then "+" else "-"

/-- The number that follows. -/
def plainNumber (t : Int) : Nat :=
  if InFirstSeconds t then ((t - newYear) / 1000000000).toNat else t.natAbs

/-- The text of an instant, up to its time zone. -/
def plainTime (t : Int) : String := plainSign t ++ (plainNumber t).repr

theorem plainNumber_injective {s t : Int} (hs : InFirstSeconds s) (ht : InFirstSeconds t)
    (h : plainNumber s = plainNumber t) : s = t := by
  rw [plainNumber, plainNumber, if_pos hs, if_pos ht] at h
  simp only [InFirstSeconds, newYear, durationSeconds] at hs ht h
  omega

theorem plainTime_injective : Function.Injective plainTime := by
  intro s t h
  have hhead := congrArg (fun text => text.toList.head?) h
  unfold plainTime plainSign at h hhead
  split_ifs at h hhead with hs ht ht0 hs0 ht ht0 ht ht0
  all_goals first | (simp at hhead; done) | skip
  · exact plainNumber_injective hs ht (repr_injective ((String.append_right_inj _).mp h))
  · have hnumber := repr_injective ((String.append_right_inj _).mp h)
    rw [plainNumber, plainNumber, if_neg hs, if_neg ht] at hnumber
    omega
  · have hnumber := repr_injective ((String.append_right_inj _).mp h)
    rw [plainNumber, plainNumber, if_neg hs, if_neg ht] at hnumber
    omega

end SnowAgent
