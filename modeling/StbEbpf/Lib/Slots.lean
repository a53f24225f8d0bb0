import Mathlib.Data.List.Basic

/-!
Tables of a fixed number of slots, each active or free, with a key per active slot. A key is found
by a linear scan and a new one takes the first free slot; releasing a slot leaves a hole.
-/

namespace StbEbpf.Slots

variable {α κ : Type} (active : α → Bool) (key : α → κ)

def lookup [DecidableEq κ] (slots : List α) (k : κ) : Option Nat :=
  slots.findIdx? fun slot => active slot && key slot == k

def free (slots : List α) : Option Nat := slots.findIdx? fun slot => !active slot

def Unique (slots : List α) : Prop :=
  ∀ ⦃i j : Nat⦄ ⦃a b : α⦄, slots[i]? = some a → slots[j]? = some b → active a = true →
    active b = true → key a = key b → i = j

variable {active key}

theorem findIdx_slot {p : α → Bool} {slots : List α} {i : Nat} (found : slots.findIdx? p = some i) :
    ∃ slot, slots[i]? = some slot ∧ p slot = true := by
  have here := List.of_findIdx?_eq_some found
  cases read : slots[i]? with
  | none => simp [read] at here
  | some slot => exact ⟨slot, rfl, by simpa [read] using here⟩

theorem lookup_some [DecidableEq κ] {slots : List α} {k : κ} {i : Nat} (found : lookup active key slots k = some i) :
    ∃ slot, slots[i]? = some slot ∧ active slot = true ∧ key slot = k := by
  obtain ⟨slot, read, holds⟩ := findIdx_slot found
  simp only [Bool.and_eq_true, beq_iff_eq] at holds
  exact ⟨slot, read, holds⟩

theorem lookup_none [DecidableEq κ] {slots : List α} {k : κ} :
    lookup active key slots k = none ↔ ∀ slot ∈ slots, active slot = true → key slot ≠ k := by
  simp [lookup, List.findIdx?_eq_none_iff]

theorem free_some {slots : List α} {i : Nat} (found : free active slots = some i) :
    ∃ slot, slots[i]? = some slot ∧ active slot = false := by
  obtain ⟨slot, read, idle⟩ := findIdx_slot found
  exact ⟨slot, read, by simpa using idle⟩

theorem unique_replicate (n : Nat) {slot : α} (idle : active slot = false) :
    Unique active key (List.replicate n slot) := by
  intro i j a b readA _ onA
  have same := List.eq_of_mem_replicate (List.mem_of_getElem? readA)
  simp [same, idle] at onA

theorem unique_modify {slots : List α} {i : Nat} {f : α → α} (unique : Unique active key slots)
    (sameActive : ∀ slot, active (f slot) = active slot) (sameKey : ∀ slot, key (f slot) = key slot) :
    Unique active key (slots.modify i f) := by
  intro m n a b readA readB onA onB same
  simp only [List.getElem?_modify, Option.map_eq_map, Option.map_eq_some_iff] at readA readB
  obtain ⟨a₀, readA, rfl⟩ := readA
  obtain ⟨b₀, readB, rfl⟩ := readB
  have flag : ∀ (n : Nat) (s : α), active (if i = n then f s else s) = active s := by
    intro n s; split <;> simp [sameActive]
  have name : ∀ (n : Nat) (s : α), key (if i = n then f s else s) = key s := by
    intro n s; split <;> simp [sameKey]
  simp only [flag, name] at onA onB same
  exact unique readA readB onA onB same

theorem countP_modify {slots : List α} {i : Nat} {f : α → α}
    (sameActive : ∀ slot, active (f slot) = active slot) :
    (slots.modify i f).countP active = slots.countP active := by
  induction slots generalizing i with
  | nil => simp
  | cons slot rest ih => cases i <;> simp [List.countP_cons, sameActive, ih]

theorem unique_set [DecidableEq κ] {slots : List α} {i : Nat} {slot : α} (unique : Unique active key slots)
    (absent : lookup active key slots (key slot) = none) : Unique active key (slots.set i slot) := by
  have fresh := lookup_none.mp absent
  intro m n a b readA readB onA onB same
  simp only [List.getElem?_set] at readA readB
  split at readA <;> split at readB
  · omega
  · split at readA
    · obtain rfl := Option.some.inj readA
      exact absurd same.symm (fresh b (List.mem_of_getElem? readB) onB)
    · cases readA
  · split at readB
    · obtain rfl := Option.some.inj readB
      exact absurd same (fresh a (List.mem_of_getElem? readA) onA)
    · cases readB
  · exact unique readA readB onA onB same

theorem countP_set_free {slots : List α} {i : Nat} {old slot : α} (read : slots[i]? = some old)
    (idle : active old = false) (on : active slot = true) :
    (slots.set i slot).countP active = slots.countP active + 1 := by
  obtain ⟨bound, here⟩ := List.getElem?_eq_some_iff.mp read
  simp [List.countP_set bound, here, idle, on]

theorem unique_map {slots : List α} {f : α → α} (unique : Unique active key slots)
    (falling : ∀ slot, active (f slot) = true → active slot = true)
    (sameKey : ∀ slot, key (f slot) = key slot) : Unique active key (slots.map f) := by
  intro m n a b readA readB onA onB same
  simp only [List.getElem?_map, Option.map_eq_some_iff] at readA readB
  obtain ⟨a₀, readA, rfl⟩ := readA
  obtain ⟨b₀, readB, rfl⟩ := readB
  rw [sameKey, sameKey] at same
  exact unique readA readB (falling _ onA) (falling _ onB) same

end StbEbpf.Slots
