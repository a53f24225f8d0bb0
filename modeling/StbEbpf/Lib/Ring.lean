import Mathlib.Data.List.Basic

/-! A table of fixed size that is written round and round: what stands in the cell that comes next. -/

namespace StbEbpf.Ring
variable {α : Type} {size : Nat} {blank value : α} {written : List α} {table : Nat → α}

/-- The value that the next write replaces, once the table has been filled. -/
def oldest (size : Nat) (written : List α) : Option α :=
  if size ≤ written.length then written[written.length - size]? else none

/-- The last `size` values stand in their cells, and the cells that were not reached yet are blank. -/
structure Holds (size : Nat) (blank : α) (written : List α) (table : Nat → α) : Prop where
  recent : ∀ (i : Nat) (value : α), written[i]? = some value → written.length ≤ i + size → table (i % size) = value
  unwritten : ∀ j, written.length ≤ j → j < size → table j = blank

theorem holds_nil : Holds size blank [] fun _ => blank :=
  ⟨fun _ _ read => by simp at read, fun _ _ _ => rfl⟩

theorem mod_ne_of_within {i j : Nat} (before : i < j) (within : j < i + size) : i % size ≠ j % size := by
  intro same
  have divides : size ∣ j - i := Nat.dvd_of_mod_eq_zero (Nat.sub_mod_eq_zero_of_mod_eq same.symm)
  have zero := Nat.eq_zero_of_dvd_of_lt divides (by omega)
  omega

theorem holds_write (holds : Holds size blank written table) :
    Holds size blank (written ++ [value]) fun j => if j = written.length % size then value else table j := by
  constructor
  · intro i found read window
    rw [List.length_append, List.length_singleton] at window
    rcases Nat.lt_trichotomy i written.length with before | rfl | after
    · rw [List.getElem?_append_left before] at read
      rw [if_neg (mod_ne_of_within before (by omega))]
      exact holds.recent i found read (by omega)
    · rw [List.getElem?_concat_length] at read
      rw [if_pos rfl]
      exact Option.some.inj read
    · rw [List.getElem?_eq_none (by simp; omega)] at read
      cases read
  · intro j reached inside
    rw [List.length_append, List.length_singleton] at reached
    have apart : j ≠ written.length % size := by
      rw [Nat.mod_eq_of_lt (by omega)]
      omega
    rw [if_neg apart]
    exact holds.unwritten j (by omega) inside

theorem holds_next (holds : Holds size blank written table) (positive : 0 < size) :
    table (written.length % size) = (oldest size written).getD blank := by
  unfold oldest
  split
  · rename_i filled
    have inside : written.length - size < written.length := by omega
    have cell := holds.recent (written.length - size) _ (List.getElem?_eq_getElem inside) (by omega)
    rw [List.getElem?_eq_getElem inside, Option.getD_some, ← cell, Nat.mod_eq_sub_mod filled]
  · rename_i short
    rw [Nat.mod_eq_of_lt (by omega), Option.getD_none]
    exact holds.unwritten _ Nat.le.refl (by omega)

end StbEbpf.Ring
