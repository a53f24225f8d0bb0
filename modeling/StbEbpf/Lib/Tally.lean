import Mathlib

/-! How much the items of one kind in a list amount to, and what putting a value into a map does to its values. -/

namespace StbEbpf.Tally
variable {α κ : Type} [DecidableEq κ] {kind : α → κ} {amount : α → Nat} {k : κ}

def total (kind : α → κ) (amount : α → Nat) (k : κ) : List α → Nat
  | [] => 0
  | item :: items => (if kind item = k then amount item else 0) + total kind amount k items

theorem total_append (first second : List α) :
    total kind amount k (first ++ second) = total kind amount k first + total kind amount k second := by
  induction first with
  | nil => rw [List.nil_append, total, Nat.zero_add]
  | cons item items ih => rw [List.cons_append, total, ih, total, Nat.add_assoc]

theorem total_perm {first second : List α} (perm : first.Perm second) :
    total kind amount k first = total kind amount k second := by
  induction perm with
  | nil => rfl
  | cons item _ ih => rw [total, total, ih]
  | swap one two items =>
    simp only [total]
    omega
  | trans _ _ left right => exact left.trans right

theorem total_zero (items : List α) : total kind (fun _ => 0) k items = 0 := by
  induction items with
  | nil => rfl
  | cons item items ih => rw [total, ih, ite_self]

/-! ### Two amounts -/

section
variable {less more : α → Nat} {items : List α}

theorem total_le (le : ∀ item ∈ items, less item ≤ more item) : total kind less k items ≤ total kind more k items := by
  induction items with
  | nil => exact le_rfl
  | cons item items ih =>
    obtain ⟨here, rest⟩ := List.forall_mem_cons.mp le
    have later := ih rest
    rw [total, total]
    split <;> omega

theorem eq_of_totals (le : ∀ item ∈ items, less item ≤ more item)
    (same : ∀ k, total kind less k items = total kind more k items) : ∀ item ∈ items, less item = more item := by
  induction items with
  | nil => exact nofun
  | cons item items ih =>
    obtain ⟨here, rest⟩ := List.forall_mem_cons.mp le
    -- neither the first item nor the others can make up for a difference
    have own := same (kind item)
    have others : total kind less (kind item) items ≤ total kind more (kind item) items := total_le rest
    rw [total, total, if_pos rfl, if_pos rfl] at own
    have first : less item = more item := by omega
    refine List.forall_mem_cons.mpr ⟨first, ih rest fun k => ?_⟩
    have both := same k
    rw [total, total, first] at both
    exact Nat.add_left_cancel both

/-- Totals that are kept modulo a number and leave something out are right if they leave nothing out and fit. -/
theorem totals_mod_iff {modulus : Nat} (positive : 0 < modulus) (le : ∀ item ∈ items, less item ≤ more item) :
    (∀ k, total kind less k items % modulus = total kind more k items) ↔
      (∀ k, total kind more k items < modulus) ∧ ∀ item ∈ items, less item = more item := by
  constructor
  · intro same
    have fits (k : κ) : total kind more k items < modulus := by
      rw [← same k]
      exact Nat.mod_lt _ positive
    have equal (k : κ) : total kind less k items = total kind more k items := by
      have bounded : total kind less k items ≤ total kind more k items := total_le le
      have kept := same k
      rwa [Nat.mod_eq_of_lt (Nat.lt_of_le_of_lt bounded (fits k))] at kept
    exact ⟨fits, eq_of_totals le equal⟩
  · rintro ⟨fits, same⟩ k
    have equal : total kind less k items = total kind more k items :=
      Nat.le_antisymm (total_le le) (total_le fun item member => Nat.le_of_eq (same item member).symm)
    rw [equal, Nat.mod_eq_of_lt (fits k)]

end

/-- What is of a kind and what is not. -/
theorem sum_split (items : List α) (k : κ) :
    (items.map amount).sum = total kind amount k items + ((items.filter (kind · ≠ k)).map amount).sum := by
  induction items with
  | nil => rfl
  | cons item items ih =>
    rw [List.map_cons, List.sum_cons, ih, total, List.filter_cons]
    by_cases here : kind item = k
    · simp [here, Nat.add_assoc]
    · simp [here]
      omega

theorem total_filter_ne (items : List α) (k other : κ) :
    total kind amount other (items.filter (kind · ≠ k)) = if other = k then 0 else total kind amount other items := by
  induction items with
  | nil => simp [total]
  | cons item items ih =>
    rw [List.filter_cons]
    by_cases here : kind item = k
    · rw [if_neg (by simpa using here), ih]
      by_cases same : other = k
      · rw [if_pos same, if_pos same]
      · rw [if_neg same, if_neg same, total, if_neg (fun equal => same (equal.symm.trans here)), Nat.zero_add]
    · rw [if_pos (by simpa using here), total, ih]
      by_cases same : other = k
      · rw [if_pos same, if_pos same, if_neg (fun equal => here (equal.trans same))]
      · rw [if_neg same, if_neg same, total]

/-! ### The values of a map -/

section
variable {map : AList fun _ : κ => α} {old : α}

def values (map : AList fun _ : κ => α) : List α := map.entries.map Sigma.snd

theorem values_insert (map : AList fun _ : κ => α) (k : κ) (new : α) :
    values (map.insert k new) = new :: values (map.erase k) := by
  unfold values
  rw [AList.entries_insert]
  rfl

theorem values_erase (found : map.lookup k = some old) : (values map).Perm (old :: values (map.erase k)) := by
  have member : k ∈ map.entries.keys := AList.mem_keys.mp (AList.lookup_isSome.mp (by rw [found]; rfl))
  obtain ⟨held, before, after, absent, entries, erased⟩ := List.exists_of_kerase member
  have same : held = old := by
    have here : (⟨k, held⟩ : Sigma fun _ : κ => α) ∈ map.entries := by rw [entries]; simp
    exact Option.some.inj ((AList.mem_lookup_iff.mpr here).symm.trans found)
  subst same
  have rest : values (map.erase k) = (before ++ after).map Sigma.snd := by
    unfold values
    exact congrArg (List.map _) erased
  rw [rest, values, entries]
  exact List.Perm.map _ List.perm_middle

theorem erase_missing (missing : map.lookup k = none) : map.erase k = map := by
  apply AList.ext
  exact List.kerase_of_notMem_keys (AList.lookup_eq_none.mp missing)

/-- A value that is put in the place of another one takes it out of the values. -/
theorem values_replace (found : map.lookup k = some old) :
    ∃ others, (values map).Perm (old :: others) ∧ ∀ new, (values (map.insert k new)).Perm (new :: others) :=
  ⟨values (map.erase k), values_erase found, fun new => by rw [values_insert]⟩

theorem values_add (missing : map.lookup k = none) (new : α) : values (map.insert k new) = new :: values map := by
  rw [values_insert, erase_missing missing]

/-- The values are what is under the key and what is under the others. -/
theorem values_at (map : AList fun _ : κ => α) (k : κ) :
    (values map).Perm ((map.lookup k).toList ++ values (map.erase k)) := by
  cases found : map.lookup k with
  | none => rw [erase_missing found, Option.toList_none, List.nil_append]
  | some old => exact values_erase found

theorem mem_values {value : α} : value ∈ values map ↔ ∃ k, map.lookup k = some value := by
  unfold values
  constructor
  · intro member
    obtain ⟨⟨k, held⟩, entry, rfl⟩ := List.mem_map.mp member
    exact ⟨k, AList.mem_lookup_iff.mpr entry⟩
  · rintro ⟨k, found⟩
    exact List.mem_map.mpr ⟨⟨k, value⟩, AList.mem_lookup_iff.mp found, rfl⟩

/-- The values of a map that has an entry for each of the items, and no other. -/
theorem values_of_lookup {items : List κ} {entry : κ → α}
    (all : ∀ k, map.lookup k = if k ∈ items then some (entry k) else none) :
    (values map).Perm (items.dedup.map entry) := by
  have keys : map.keys.Perm items.dedup := by
    refine (List.perm_ext_iff_of_nodup map.nodupKeys items.nodup_dedup).mpr fun k => ?_
    have entered : k ∈ map ↔ k ∈ items := by
      rw [← AList.lookup_isSome, all k]
      split <;> simp [*]
    exact entered.trans List.mem_dedup.symm
  have same : values map = map.keys.map entry := by
    unfold values AList.keys List.keys
    rw [List.map_map]
    refine List.map_congr_left fun ⟨k, value⟩ member => ?_
    have found := (all k).symm.trans (AList.mem_lookup_iff.mpr member)
    split at found
    · exact (Option.some.inj found).symm
    · cases found
  rw [same]
  exact keys.map entry

/-! ### Sums over the values -/

def sum (amount : α → Nat) (map : AList fun _ : κ => α) : Nat := ((values map).map amount).sum

theorem sum_at (amount : α → Nat) (map : AList fun _ : κ => α) (k : κ) :
    sum amount map = ((map.lookup k).map amount).getD 0 + sum amount (map.erase k) := by
  have perm := ((values_at map k).map amount).sum_nat
  rw [sum, perm, List.map_append, List.sum_append, ← sum]
  cases map.lookup k <;> simp

theorem sum_insert (amount : α → Nat) (map : AList fun _ : κ => α) (k : κ) (new : α) :
    sum amount (map.insert k new) = amount new + sum amount (map.erase k) := by
  rw [sum, values_insert]
  rfl

/-- A map with the totals of all kinds adds up to the whole. -/
theorem sum_of_totals {β : Type} {kind : β → κ} {share : β → Nat} {amount : α → Nat} {map : AList fun _ : κ => α}
    {items : List β} (same : ∀ k, ((map.lookup k).map amount).getD 0 = total kind share k items) :
    sum amount map = (items.map share).sum := by
  -- one key after another is taken out, with the items of its kind
  induction size : (values map).length generalizing map items with
  | zero =>
    have empty : values map = [] := List.eq_nil_of_length_eq_zero size
    have nothing (k : κ) : total kind share k items = 0 := by
      rw [← same k]
      cases found : map.lookup k with
      | none => rfl
      | some value =>
        have member : value ∈ values map := mem_values.mpr ⟨k, found⟩
        rw [empty] at member
        cases member
    have zero : ∀ item ∈ items, 0 = share item :=
      eq_of_totals (fun _ _ => Nat.zero_le _) fun k => (total_zero items).trans (nothing k).symm
    have all : (items.map share).sum = 0 := by
      rw [← List.map_congr_left zero]
      simp
    rw [sum, empty, all]
    rfl
  | succ size ih =>
    obtain ⟨value, rest, cons⟩ := List.exists_cons_of_length_eq_add_one size
    obtain ⟨k, found⟩ := mem_values.mp (cons ▸ List.mem_cons_self : value ∈ values map)
    have fewer := (values_erase found).length_eq
    have later : sum amount (map.erase k) = ((items.filter (kind · ≠ k)).map share).sum := by
      refine ih (fun other => ?_) (by rw [List.length_cons] at fewer; omega)
      rw [total_filter_ne]
      split
      · rename_i here
        rw [here, AList.lookup_erase]
        rfl
      · rename_i differs
        rw [AList.lookup_erase_ne differs]
        exact same other
    rw [sum_at amount map k, same k, later, sum_split items k]

end

/-! ### The same change to all values -/

section
variable {β : Type}

def mapValues (f : α → β) (map : AList fun _ : κ => α) : AList fun _ : κ => β :=
  ⟨map.entries.map (Sigma.map id fun _ => f), List.NodupKeys.map₂ (fun _ => f) _ map.nodupKeys⟩

theorem lookup_mapValues (f : α → β) (map : AList fun _ : κ => α) (k : κ) :
    (mapValues f map).lookup k = (map.lookup k).map f := List.dlookup_map₂ k

omit [DecidableEq κ] in
theorem values_mapValues (f : α → β) (map : AList fun _ : κ => α) : values (mapValues f map) = (values map).map f := by
  unfold values mapValues
  rw [List.map_map, List.map_map]
  rfl

end

end StbEbpf.Tally
