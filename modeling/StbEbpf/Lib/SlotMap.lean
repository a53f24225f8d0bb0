import StbEbpf.Lib.BoundedMap
import StbEbpf.Lib.Slots

/-! A table of slots stands for a map that holds at most as many entries as there are slots. -/

namespace StbEbpf.SlotMap
open BoundedMap Slots

variable {α κ β : Type} {active : α → Bool} {key : α → κ} {value : α → β}

/-! ### What a table stands for -/

section
variable [DecidableEq κ]

/-- The map has the value of each active slot under the key of the slot, and nothing else. -/
def Represents (active : α → Bool) (key : α → κ) (value : α → β) (slots : List α) (map : Map κ β) : Prop :=
  ∀ k v, map.lookup k = some v ↔ ∃ slot ∈ slots, active slot = true ∧ key slot = k ∧ value slot = v

variable {slots : List α} {map : Map κ β}

theorem represents_idle (n : Nat) {slot : α} (idle : active slot = false) :
    Represents active key value (List.replicate n slot) ∅ := by
  intro k v
  rw [AList.lookup_empty]
  constructor
  · rintro ⟨⟩
  · rintro ⟨other, member, on, -⟩
    rw [List.eq_of_mem_replicate member, idle] at on
    cases on

theorem Represents.mem_iff (represents : Represents active key value slots map) (k : κ) :
    k ∈ map ↔ ∃ slot ∈ slots, active slot = true ∧ key slot = k := by
  rw [← AList.lookup_isSome, Option.isSome_iff_exists]
  constructor
  · rintro ⟨v, found⟩
    obtain ⟨slot, member, on, named, -⟩ := (represents k v).mp found
    exact ⟨slot, member, on, named⟩
  · rintro ⟨slot, member, on, named⟩
    exact ⟨value slot, (represents k _).mpr ⟨slot, member, on, named, rfl⟩⟩

theorem Represents.mem_iff_lookup (represents : Represents active key value slots map) (k : κ) :
    k ∈ map ↔ (Slots.lookup active key slots k).isSome := by
  rw [represents.mem_iff, ← Option.ne_none_iff_isSome, ne_eq, lookup_none]
  push Not
  rfl

end

/-! ### Room -/

theorem keys_nodup {slots : List α} (unique : Unique active key slots) : ((slots.filter active).map key).Nodup := by
  apply List.Pairwise.map (R := fun a b => key a ≠ key b)
  · intro a b apart
    exact apart
  · apply List.pairwise_filter.mpr
    apply List.pairwise_iff_getElem.mpr
    intro i j insideI insideJ before onI onJ same
    have meet := unique (List.getElem?_eq_getElem insideI) (List.getElem?_eq_getElem insideJ) onI onJ same
    omega

variable [DecidableEq κ] {slots : List α} {map : Map κ β}

/-- The map is as large as the number of active slots. -/
theorem Represents.size (represents : Represents active key value slots map) (unique : Unique active key slots) :
    map.keys.length = slots.countP active := by
  have perm : map.keys.Perm ((slots.filter active).map key) := by
    apply (List.perm_ext_iff_of_nodup map.keys_nodup (keys_nodup unique)).mpr
    intro k
    rw [← AList.mem_keys, represents.mem_iff]
    simp only [List.mem_map, List.mem_filter, and_assoc]
  rw [perm.length_eq, List.length_map, List.countP_eq_length_filter]

theorem free_none_iff : free active slots = none ↔ slots.countP active = slots.length := by
  simp [free, List.findIdx?_eq_none_iff, List.countP_eq_length]

/-- A key is refused when all slots are taken by others. -/
theorem Represents.hasRoom_iff (represents : Represents active key value slots map) (unique : Unique active key slots)
    (k : κ) : HasRoom slots.length map k ↔ (Slots.lookup active key slots k).isSome ∨ free active slots ≠ none := by
  have bound := List.countP_le_length (p := active) (l := slots)
  unfold HasRoom
  rw [represents.mem_iff_lookup, represents.size unique, ne_eq, free_none_iff]
  apply or_congr_right
  omega

/-! ### Changes to a table -/

/-- A slot is given to a key that has no other one. -/
theorem Represents.put (represents : Represents active key value slots map) {i : Nat} {old : α} {f : α → α} {k : κ}
    {v : β} (read : slots[i]? = some old) (on : active (f old) = true) (named : key (f old) = k)
    (holds : value (f old) = v) (own : active old = true → key old = k)
    (alone : ∀ j slot, slots[j]? = some slot → active slot = true → key slot = k → j = i) :
    Represents active key value (slots.modify i f) (map.insert k v) := by
  have here : (slots.modify i f)[i]? = some (f old) := by simp [read]
  intro k' v'
  by_cases same : k' = k
  · subst same
    rw [AList.lookup_insert]
    constructor
    · rintro ⟨⟩
      exact ⟨f old, List.mem_of_getElem? here, on, named, holds⟩
    · rintro ⟨slot, member, active', named', rfl⟩
      obtain ⟨j, there⟩ := List.mem_iff_getElem?.mp member
      by_cases at_i : i = j
      · subst at_i
        rw [here] at there
        cases there
        rw [holds]
      · rw [List.getElem?_modify_ne f slots at_i] at there
        exact absurd (alone j slot there active' named').symm at_i
  · rw [AList.lookup_insert_ne same, represents k' v']
    constructor
    · rintro ⟨slot, member, active', named', holds'⟩
      obtain ⟨j, there⟩ := List.mem_iff_getElem?.mp member
      have at_i : i ≠ j := by
        rintro rfl
        rw [read] at there
        cases there
        exact same (named'.symm.trans (own active'))
      refine ⟨slot, List.mem_of_getElem? (i := j) ?_, active', named', holds'⟩
      rwa [List.getElem?_modify_ne f slots at_i]
    · rintro ⟨slot, member, active', named', holds'⟩
      obtain ⟨j, there⟩ := List.mem_iff_getElem?.mp member
      have at_i : i ≠ j := by
        rintro rfl
        rw [here] at there
        cases there
        exact same (named'.symm.trans named)
      rw [List.getElem?_modify_ne f slots at_i] at there
      exact ⟨slot, List.mem_of_getElem? there, active', named', holds'⟩

/-- Slots are released by what they hold. -/
theorem Represents.release (represents : Represents active key value slots map) {f : α → α} {expired : β → Bool}
    (stays : ∀ slot, active (f slot) = true ↔ active slot = true ∧ expired (value slot) = false)
    (named : ∀ slot, key (f slot) = key slot) (holds : ∀ slot, value (f slot) = value slot) :
    Represents active key value (slots.map f) (remove expired map) := by
  intro k v
  rw [lookup_remove, represents k v]
  constructor
  · rintro ⟨⟨slot, member, on, rfl, rfl⟩, fresh⟩
    exact ⟨f slot, List.mem_map_of_mem member, (stays slot).mpr ⟨on, fresh⟩, named slot, holds slot⟩
  · rintro ⟨_, image, on, rfl, rfl⟩
    obtain ⟨slot, member, rfl⟩ := List.mem_map.mp image
    obtain ⟨on, fresh⟩ := (stays slot).mp on
    rw [holds slot]
    exact ⟨⟨slot, member, on, (named slot).symm, rfl⟩, fresh⟩

/-- Slots whose contents change in a way that the map does not show. -/
theorem Represents.congr (represents : Represents active key value slots map) {i : Nat} {f : α → α}
    (flag : ∀ slot, active (f slot) = active slot) (named : ∀ slot, key (f slot) = key slot)
    (holds : ∀ slot, value (f slot) = value slot) : Represents active key value (slots.modify i f) map := by
  have entry (j : Nat) : ∃ g : α → α, (slots.modify i f)[j]? = slots[j]?.map g ∧ (∀ slot, active (g slot) = active slot) ∧
      (∀ slot, key (g slot) = key slot) ∧ ∀ slot, value (g slot) = value slot := by
    by_cases at_i : i = j
    · subst at_i
      exact ⟨f, by simp, flag, named, holds⟩
    · exact ⟨id, by simp [List.getElem?_modify_ne f slots at_i], fun _ => rfl, fun _ => rfl, fun _ => rfl⟩
  intro k v
  rw [represents k v]
  constructor
  · rintro ⟨slot, member, on, rfl, rfl⟩
    obtain ⟨j, there⟩ := List.mem_iff_getElem?.mp member
    obtain ⟨g, image, flag, named, holds⟩ := entry j
    rw [there] at image
    exact ⟨g slot, List.mem_of_getElem? image, (flag slot).trans on, named slot, holds slot⟩
  · rintro ⟨slot, member, on, rfl, rfl⟩
    obtain ⟨j, there⟩ := List.mem_iff_getElem?.mp member
    obtain ⟨g, image, flag, named, holds⟩ := entry j
    rw [there] at image
    obtain ⟨before, read, rfl⟩ := Option.map_eq_some_iff.mp image.symm
    exact ⟨before, List.mem_of_getElem? read, (flag before).symm.trans on, (named before).symm, (holds before).symm⟩

end StbEbpf.SlotMap
