import StbEbpf.Lib.Access

/-!
A ring buffer between a writer and a reader: cells that are addressed modulo the size of the ring, and two counters that
only grow. What has been written and not yet read lies between them.
-/

namespace StbEbpf.RingBuffer
open Access

structure Buffer (α : Type) where
  cell : Nat → α
  head : Nat
  tail : Nat

namespace Buffer
variable {α : Type} (size : Nat) (ring : Buffer α)

/-- The writer puts the elements behind the head, element by element modulo the size. -/
def write (xs : List α) : Buffer α where
  cell i := xs[(i + size - ring.head % size) % size]?.getD (ring.cell i)
  head := ring.head + xs.length
  tail := ring.tail

/-- A linear read, which does not go past the end of the ring. -/
def read (offset count : Nat) : Checked (List α) :=
  if offset + count ≤ size then pure ((List.range count).map fun i => ring.cell (offset + i)) else throw .read

def advance (count : Nat) : Buffer α := { ring with tail := ring.tail + count }

/-- The reader has read everything. -/
def drained : Buffer α := { ring with tail := ring.head }

/-- What lies between tail and head. -/
structure Holds (xs : List α) : Prop where
  length : ring.head = ring.tail + xs.length
  fits : xs.length ≤ size
  cells : ∀ i (inside : i < xs.length), ring.cell ((ring.tail + i) % size) = xs[i]

end Buffer

section
variable {α : Type} {size : Nat} {ring : Buffer α} {xs ys : List α}

/-- The way from one position to another, `count` cells further. -/
theorem distance {count : Nat} (start : Nat) (near : count < size) :
    ((start + count) % size + size - start % size) % size = count := by
  have inside : start % size < size := Nat.mod_lt _ (by omega)
  rw [Nat.add_mod, Nat.mod_eq_of_lt near]
  by_cases before : start % size + count < size
  · rw [Nat.mod_eq_of_lt before, show start % size + count + size - start % size = count + size by omega,
      Nat.add_mod_right, Nat.mod_eq_of_lt near]
  · have wrapped : (start % size + count) % size = start % size + count - size := by
      rw [Nat.mod_eq_sub_mod (by omega), Nat.mod_eq_of_lt (by omega)]
    rw [wrapped, show start % size + count - size + size - start % size = count by omega, Nat.mod_eq_of_lt near]

theorem write_cell {i : Nat} (near : i < size) :
    (ring.write size ys).cell ((ring.head + i) % size) = ys[i]?.getD (ring.cell ((ring.head + i) % size)) := by
  unfold Buffer.write
  dsimp only
  rw [distance ring.head near]

theorem write_holds (holds : ring.Holds size xs) (room : xs.length + ys.length ≤ size) :
    (ring.write size ys).Holds size (xs ++ ys) := by
  refine ⟨?_, by simpa using room, fun i inside => ?_⟩
  · change ring.head + ys.length = ring.tail + (xs ++ ys).length
    rw [List.length_append, ← Nat.add_assoc, ← holds.length]
  · rw [List.length_append] at inside
    change (ring.write size ys).cell ((ring.tail + i) % size) = _
    by_cases old : i < xs.length
    · -- seen from the head, an old cell lies behind everything that was written
      have around : (ring.tail + i) % size = (ring.head + (size - (xs.length - i))) % size := by
        rw [holds.length, show ring.tail + xs.length + (size - (xs.length - i)) = ring.tail + i + size by omega,
          Nat.add_mod_right]
      rw [List.getElem_append_left old, ← holds.cells i old, around, write_cell (by omega),
        List.getElem?_eq_none (by omega)]
      rfl
    · have ahead : ring.tail + i = ring.head + (i - xs.length) := by rw [holds.length]; omega
      rw [ahead, write_cell (by omega), List.getElem?_eq_getElem (by omega), List.getElem_append_right (by omega)]
      rfl

theorem advance_holds (holds : ring.Holds size (xs ++ ys)) : (ring.advance xs.length).Holds size ys := by
  obtain ⟨length, fits, cells⟩ := holds
  rw [List.length_append] at length fits
  refine ⟨?_, by omega, fun i inside => ?_⟩
  · change ring.head = ring.tail + xs.length + ys.length
    omega
  · have here := cells (xs.length + i) (by rw [List.length_append]; omega)
    rw [List.getElem_append_right (by omega)] at here
    simp only [Nat.add_sub_cancel_left] at here
    rw [← here, ← Nat.add_assoc]
    rfl

theorem drained_holds : ring.drained.Holds size [] := ⟨rfl, Nat.zero_le size, fun _ inside => absurd inside (Nat.not_lt_zero _)⟩

theorem drained_of_empty (holds : ring.Holds size []) : ring.drained = ring := by
  obtain ⟨length, -, -⟩ := holds
  obtain ⟨cell, head, tail⟩ := ring
  exact congrArg (Buffer.mk cell head) length

/-- A read that stays before the end of the ring returns what is held there. -/
theorem read_held {offset count : Nat} (holds : ring.Holds size xs) (straight : ring.tail % size + offset + count ≤ size)
    (enough : offset + count ≤ xs.length) :
    ring.read size (ring.tail % size + offset) count = .ok ((xs.drop offset).take count) := by
  unfold Buffer.read
  rw [if_pos straight]
  refine congrArg Except.ok (List.ext_getElem (by simp; omega) fun i inside _ => ?_)
  rw [List.length_map, List.length_range] at inside
  have position : ring.tail % size + offset + i = (ring.tail + (offset + i)) % size := by
    have sum := Nat.mod_eq_of_lt (by omega : ring.tail % size + (offset + i) < size)
    rw [Nat.add_mod, Nat.mod_eq_of_lt (by omega : offset + i < size), sum, Nat.add_assoc]
  rw [List.getElem_map, List.getElem_range, position, holds.cells _ (by omega), List.getElem_take, List.getElem_drop]

theorem read_outside {offset count : Nat} (outside : size < offset + count) :
    ring.read size offset count = throw .read := if_neg (by omega)

end

end StbEbpf.RingBuffer
