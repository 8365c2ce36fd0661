import Mathlib.Data.List.Induction

/-! # Hash chains

A sequence of events in which every event records a hash of its own content and
of the hash recorded before it.  `hash` computes such a hash, `recorded` reads
the one an event carries, and `content` is the part of an event the hash can
see.  What a chain commits to (`Linked.content_eq`) needs a hash that
determines what it was computed from and that is never the starting hash.
-/
namespace HashChain

variable {Event Hash Content : Type}
variable (hash : Hash → Event → Hash) (recorded : Event → Hash)

/-- Every event records the hash of the previous recorded hash and itself. -/
def Linked (prev : Hash) : List Event → Prop
  | [] => True
  | e :: es => recorded e = hash prev e ∧ Linked (recorded e) es

/-- The last recorded hash, or the one the chain started from. -/
def head (prev : Hash) : List Event → Hash
  | [] => prev
  | e :: es => head (recorded e) es

variable (prev : Hash)

@[simp] theorem linked_nil : Linked hash recorded prev [] := trivial

@[simp] theorem linked_cons (e : Event) (es : List Event) :
    Linked hash recorded prev (e :: es) ↔
      recorded e = hash prev e ∧ Linked hash recorded (recorded e) es := Iff.rfl

theorem linked_append (xs ys : List Event) :
    Linked hash recorded prev (xs ++ ys) ↔
      Linked hash recorded prev xs ∧ Linked hash recorded (head recorded prev xs) ys := by
  induction xs generalizing prev with
  | nil => simp [head]
  | cons e es ih => simp [head, ih, and_assoc]

theorem head_append (xs ys : List Event) :
    head recorded prev (xs ++ ys) = head recorded (head recorded prev xs) ys := by
  induction xs generalizing prev with
  | nil => rfl
  | cons e es ih => exact ih _

variable (es : List Event)

@[simp] theorem head_concat (e : Event) : head recorded prev (es ++ [e]) = recorded e := by
  rw [head_append]
  rfl

/-- The last recorded hash, read off the end of the list. -/
theorem head_eq : head recorded prev es = (es.getLast?.map recorded).getD prev := by
  rcases List.eq_nil_or_concat es with rfl | ⟨es', e, rfl⟩
  · rfl
  · rw [List.concat_eq_append, head_concat]
    simp

/-- A chain grows by an event that records the hash after its last one. -/
theorem Linked.concat {prev : Hash} {es : List Event} {e : Event}
    (h : Linked hash recorded prev es) (he : recorded e = hash (head recorded prev es) e) :
    Linked hash recorded prev (es ++ [e]) :=
  (linked_append hash recorded prev es [e]).mpr ⟨h, he, trivial⟩

/-- A chain of events kept in records is a chain of the records. -/
theorem linked_map {Record : Type} (event : Record → Event) (kept : Record → Hash) (prev : Hash)
    {rs : List Record} (hkept : ∀ r ∈ rs, kept r = recorded (event r)) :
    Linked hash recorded prev (rs.map event) ↔
      Linked (fun p r => hash p (event r)) kept prev rs := by
  induction rs generalizing prev with
  | nil => simp
  | cons r rs ih =>
    rw [List.map_cons, linked_cons, linked_cons, ← hkept r (List.mem_cons_self ..),
      ih _ fun r hr => hkept r (List.mem_cons_of_mem _ hr)]

/-- Rebuilds a chain: each event is stamped with the hash it should record. -/
def relink (stamp : Hash → Event → Event) (prev : Hash) : List Event → List Event
  | [] => []
  | e :: es => stamp prev e :: relink stamp (recorded (stamp prev e)) es

theorem relink_linked {stamp : Hash → Event → Event}
    (hstamp : ∀ prev e, recorded (stamp prev e) = hash prev (stamp prev e))
    (prev : Hash) (es : List Event) :
    Linked hash recorded prev (relink recorded stamp prev es) := by
  induction es generalizing prev with
  | nil => trivial
  | cons e es ih => exact ⟨hstamp prev e, ih _⟩

section Commitment

variable {hash : Hash → Event → Hash} {recorded : Event → Hash} (content : Event → Content)
variable (hinj : ∀ p q e f, hash p e = hash q f → p = q ∧ content e = content f)

include hinj in
/-- **What a chain commits to.**  Two chains from one start that end in the same
recorded hash agree event by event in content and recorded hash. -/
theorem Linked.content_eq {start : Hash} (hstart : ∀ p e, hash p e ≠ start) :
    ∀ {xs ys : List Event}, Linked hash recorded start xs → Linked hash recorded start ys →
      head recorded start xs = head recorded start ys →
      xs.map (fun e => (content e, recorded e)) = ys.map (fun e => (content e, recorded e)) := by
  intro xs
  induction xs using List.reverseRecOn with
  | nil =>
    intro ys _ hys h
    rcases List.eq_nil_or_concat ys with rfl | ⟨ys', f, rfl⟩
    · rfl
    · rw [List.concat_eq_append] at hys h
      have hf := ((linked_append hash recorded start ys' [f]).mp hys).2.1
      rw [head_concat, hf] at h
      exact absurd h.symm (hstart _ _)
  | append_singleton xs e ih =>
    intro ys hxs hys h
    obtain ⟨hxs', he, _⟩ := (linked_append hash recorded start xs [e]).mp hxs
    rcases List.eq_nil_or_concat ys with rfl | ⟨ys', f, rfl⟩
    · rw [head_concat, he] at h
      exact absurd h (hstart _ _)
    · rw [List.concat_eq_append] at hys h ⊢
      obtain ⟨hys', hf, _⟩ := (linked_append hash recorded start ys' [f]).mp hys
      rw [head_concat, head_concat] at h
      obtain ⟨hprev, hcontent⟩ := hinj _ _ _ _ (he.symm.trans (h.trans hf))
      rw [List.map_append, List.map_append, ih hxs' hys' hprev]
      simp [hcontent, h]

end Commitment

end HashChain
