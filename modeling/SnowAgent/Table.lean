import Mathlib.Logic.Function.Basic

/-! # Tables with a primary key

A table is the row it holds under each key.  The statements of a store either
put a row, delete one or update the one row of a key; each leaves the rows of the
other keys alone.
-/

/-- The rows of a table by their primary key. -/
structure Table (Key Row : Type) where
  row : Key → Option Row

namespace Table

variable {Key Row : Type}

/-- The table without rows. -/
def empty : Table Key Row := ⟨fun _ => none⟩

variable (key : Key)

@[simp] theorem row_empty : (empty : Table Key Row).row key = none := rfl

variable [DecidableEq Key]

/-- `INSERT OR REPLACE`. -/
def put (t : Table Key Row) (key : Key) (r : Row) : Table Key Row :=
  ⟨Function.update t.row key (some r)⟩

/-- `DELETE` of one key. -/
def delete (t : Table Key Row) (key : Key) : Table Key Row := ⟨Function.update t.row key none⟩

/-- `UPDATE` of the row of one key, if it is there. -/
def update (t : Table Key Row) (key : Key) (f : Row → Row) : Table Key Row :=
  ⟨Function.update t.row key ((t.row key).map f)⟩

variable (t : Table Key Row) (r : Row)

@[simp] theorem row_put_self : (t.put key r).row key = some r := by simp [put]

@[simp] theorem row_put_of_ne {key key' : Key} (h : key' ≠ key) :
    (t.put key r).row key' = t.row key' := by simp [put, h]

@[simp] theorem row_delete_self : (t.delete key).row key = none := by simp [delete]

@[simp] theorem row_delete_of_ne {key key' : Key} (h : key' ≠ key) :
    (t.delete key).row key' = t.row key' := by simp [delete, h]

variable (f : Row → Row)

@[simp] theorem row_update_self :
    (t.update key f).row key = (t.row key).map f := by simp [update]

@[simp] theorem row_update_of_ne {key key' : Key}
    (h : key' ≠ key) : (t.update key f).row key' = t.row key' := by simp [update, h]

@[simp] theorem put_delete :
    (t.delete key).put key r = t.put key r := by simp [put, delete]

/-- The row of a key after an update of any key. -/
theorem row_update_eq_some {t : Table Key Row} {key key' : Key} {f : Row → Row} {r : Row}
    (h : (t.update key f).row key' = some r) :
    ∃ before, t.row key' = some before ∧ (key' ≠ key ∧ r = before ∨ key' = key ∧ r = f before) := by
  by_cases hkey : key' = key
  · subst hkey
    rw [row_update_self, Option.map_eq_some_iff] at h
    obtain ⟨before, hbefore, rfl⟩ := h
    exact ⟨before, hbefore, .inr ⟨rfl, rfl⟩⟩
  · rw [row_update_of_ne _ _ hkey] at h
    exact ⟨r, h, .inl ⟨hkey, rfl⟩⟩

/-- The row of a key after a put of any key. -/
theorem row_put_eq_some {t : Table Key Row} {key key' : Key} {r r' : Row}
    (h : (t.put key r).row key' = some r') :
    key' ≠ key ∧ t.row key' = some r' ∨ key' = key ∧ r' = r := by
  by_cases hkey : key' = key
  · subst hkey
    rw [row_put_self] at h
    exact .inr ⟨rfl, (Option.some.inj h).symm⟩
  · rw [row_put_of_ne _ _ hkey] at h
    exact .inl ⟨hkey, h⟩

end Table
