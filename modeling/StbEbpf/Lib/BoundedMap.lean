import Mathlib.Data.List.AList
import Mathlib.Data.List.Dedup

/-! Maps that hold at most a given number of entries: a new key is refused when the map is full. -/

namespace StbEbpf.BoundedMap

abbrev Map (κ α : Type) := AList fun _ : κ => α

variable {κ α β : Type} {map : Map κ α}

/-- Maps with the same keys are of the same size. -/
theorem keys_length_eq {other : Map κ β} (same : ∀ key, key ∈ map ↔ key ∈ other) :
    map.keys.length = other.keys.length := by
  have perm : map.keys.Perm other.keys := by
    apply (List.perm_ext_iff_of_nodup map.keys_nodup other.keys_nodup).mpr
    intro key
    exact same key
  exact perm.length_eq

variable [DecidableEq κ] {key : κ} {limit : Nat}

def HasRoom (limit : Nat) (map : Map κ α) (key : κ) : Prop := key ∈ map ∨ map.keys.length < limit

instance : Decidable (HasRoom limit map key) := inferInstanceAs (Decidable (_ ∨ _))

def update (limit : Nat) (map : Map κ α) (key : κ) (value : α) : Map κ α :=
  if HasRoom limit map key then map.insert key value else map

theorem update_of_room (room : HasRoom limit map key) (value : α) : update limit map key value = map.insert key value :=
  if_pos room

/-- The entries whose values have expired are taken out. -/
def remove (expired : α → Bool) (map : Map κ α) : Map κ α where
  entries := map.entries.filter fun entry => !expired entry.2
  nodupKeys := map.nodupKeys.sublist List.filter_sublist

theorem lookup_remove {expired : α → Bool} {value : α} :
    (remove expired map).lookup key = some value ↔ map.lookup key = some value ∧ expired value = false := by
  rw [← Option.mem_def, ← Option.mem_def, AList.mem_lookup_iff, AList.mem_lookup_iff]
  simp [remove, List.mem_filter]

/-! ### Filling a map -/

section
variable {all : List κ}

theorem hasRoom_of_few (few : all.dedup.length ≤ limit) (within : ∀ key ∈ map, key ∈ all) (new : key ∈ all) :
    HasRoom limit map key := by
  by_cases present : key ∈ map
  · exact .inl present
  · right
    have nodup : (key :: map.keys).Nodup := List.nodup_cons.mpr ⟨present, map.keys_nodup⟩
    have inside : key :: map.keys ⊆ all.dedup := by
      intro other member
      apply List.mem_dedup.mpr
      rcases List.mem_cons.mp member with rfl | held
      · exact new
      · exact within other held
    have shorter := (List.subperm_of_subset nodup inside).length_le
    rw [List.length_cons] at shorter
    omega

/-- A map that has room for all keys holds those that were put into it. -/
theorem lookup_foldl_update (few : all.dedup.length ≤ limit) (value : α) {keys : List κ} (inside : ∀ key ∈ keys, key ∈ all)
    (within : ∀ key ∈ map, key ∈ all) (key : κ) :
    (keys.foldl (fun map key => update limit map key value) map).lookup key =
      if key ∈ keys then some value else map.lookup key := by
  induction keys generalizing map with
  | nil => simp
  | cons first rest ih =>
    have new := inside first List.mem_cons_self
    rw [List.foldl_cons, update_of_room (hasRoom_of_few few within new)]
    rw [ih (fun key member => inside key (List.mem_cons_of_mem _ member))]
    · by_cases later : key ∈ rest
      · simp [later]
      · by_cases here : key = first
        · subst here
          simp [later, AList.lookup_insert]
        · simp [later, here, AList.lookup_insert_ne here]
    · intro key member
      rcases (AList.mem_insert _).mp member with rfl | held
      · exact new
      · exact within key held

end

end StbEbpf.BoundedMap
