import Mathlib.Data.List.Basic

/-!
Stores into a region of memory. A region is known by the bytes stored into it so far, at any offset:
whether the stores stayed inside is a property of the result, not a check made on the way.
-/

namespace StbEbpf.Memory

abbrev Cells := Nat → Option UInt8

def Cells.empty : Cells := fun _ => none

def Cells.store (cells : Cells) (offset : Nat) (byte : UInt8) : Cells :=
  fun i => if i = offset then some byte else cells i

def Cells.storeBytes (cells : Cells) (offset : Nat) : List UInt8 → Cells
  | [] => cells
  | byte :: rest => (cells.store offset byte).storeBytes (offset + 1) rest

/-- No store has reached offset `size` or beyond. -/
def Cells.Within (size : Nat) (cells : Cells) : Prop := ∀ i, size ≤ i → cells i = none

theorem within_empty (size : Nat) : Cells.empty.Within size := fun _ _ => rfl

theorem within_store {size offset : Nat} {cells : Cells} (within : cells.Within size) (byte : UInt8)
    (inside : offset < size) : (cells.store offset byte).Within size := by
  intro i beyond
  have apart : i ≠ offset := by omega
  simpa [Cells.store, apart] using within i beyond

theorem within_storeBytes {size offset : Nat} {cells : Cells} {bytes : List UInt8}
    (within : cells.Within size) (inside : offset + bytes.length ≤ size) :
    (cells.storeBytes offset bytes).Within size := by
  induction bytes generalizing cells offset with
  | nil => exact within
  | cons byte rest ih =>
    simp only [List.length_cons] at inside
    exact ih (within_store within byte (by omega)) (by omega)

/-! ### What has been stored -/

/-- The region starts with these bytes. -/
def Cells.Holds (cells : Cells) (bytes : List UInt8) : Prop := ∀ i, i < bytes.length → cells i = bytes[i]?

def Cells.read (cells : Cells) (count : Nat) : List UInt8 := (List.range count).map fun i => (cells i).getD 0

theorem holds_nil (cells : Cells) : cells.Holds [] := fun _ beyond => absurd beyond (Nat.not_lt_zero _)

theorem holds_take {cells : Cells} {bytes more : List UInt8} (holds : cells.Holds (bytes ++ more)) :
    cells.Holds bytes := by
  intro i inside
  rw [holds i (by simp; omega), List.getElem?_append_left inside]

theorem holds_store {cells : Cells} {bytes : List UInt8} (holds : cells.Holds bytes) (byte : UInt8) :
    (cells.store bytes.length byte).Holds (bytes ++ [byte]) := by
  intro i inside
  rw [List.length_append, List.length_singleton] at inside
  unfold Cells.store
  by_cases same : i = bytes.length
  · simp [same]
  · have before : i < bytes.length := by omega
    rw [if_neg same, holds i before, List.getElem?_append_left before]

theorem holds_storeBytes {cells : Cells} {bytes : List UInt8} (holds : cells.Holds bytes) (more : List UInt8) :
    (cells.storeBytes bytes.length more).Holds (bytes ++ more) := by
  induction more generalizing cells bytes with
  | nil => simpa [Cells.storeBytes] using holds
  | cons byte rest ih =>
    have stored := ih (holds_store holds byte)
    rw [List.length_append, List.length_singleton, List.append_assoc] at stored
    exact stored

theorem holds_read {cells : Cells} {bytes : List UInt8} (holds : cells.Holds bytes) :
    cells.read bytes.length = bytes := by
  unfold Cells.read
  apply List.ext_getElem
  · simp
  · intro i inside _
    rw [List.length_map, List.length_range] at inside
    simp [holds i inside, List.getElem?_eq_getElem inside]

end StbEbpf.Memory
