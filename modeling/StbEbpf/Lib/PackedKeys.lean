import Mathlib.Data.List.AList
import Mathlib.Data.List.Induction
import StbEbpf.Lib.Run

/-!
A table of outstanding requests under keys that are packed from their names. Where two names have one key, the entry of
one request stands in the place of the other.
-/

namespace StbEbpf.PackedKeys
open Run

abbrev Table (κ ε : Type) := AList fun _ : κ => ε

inductive Action (ι ε : Type) where
  | issue (entry : ε)
  | complete (name : ι)

/-- Whose an entry is, the key of a name, and whether a table takes one more key. -/
structure Scheme (ι κ ε : Type) where
  owner : ε → ι
  pack : ι → κ
  room : Table κ ε → Bool

namespace Scheme
variable {ι κ ε : Type} (s : Scheme ι κ ε)

def name : Action ι ε → ι
  | .issue entry => s.owner entry
  | .complete name => name

/-! ### What the requests are -/

section
variable [DecidableEq ι]

def note (latest : ι → Option ε) : Action ι ε → ι → Option ε
  | .issue entry => Function.update latest (s.owner entry) (some entry)
  | .complete name => Function.update latest name none

/-- The last entry issued for each name, as long as it is not completed. -/
def latestAfter (actions : List (Action ι ε)) : ι → Option ε := actions.foldl s.note fun _ => none

theorem latestAfter_concat (actions : List (Action ι ε)) (last : Action ι ε) :
    s.latestAfter (actions ++ [last]) = s.note (s.latestAfter actions) last := by
  simp [latestAfter]

/-- Names other than that of the action keep their latest entry. -/
theorem note_other {latest : ι → Option ε} {action : Action ι ε} {other : ι} (differs : other ≠ s.name action) :
    s.note latest action other = latest other := by
  cases action with
  | issue entry => exact Function.update_of_ne differs _ _
  | complete name => exact Function.update_of_ne differs _ _

end

/-! ### What the table holds -/

variable [DecidableEq κ]

def step (table : Table κ ε) : Action ι ε → Table κ ε
  | .issue entry =>
    if s.pack (s.owner entry) ∈ table ∨ s.room table then table.insert (s.pack (s.owner entry)) entry else table
  | .complete name => table.erase (s.pack name)

def tableAfter (actions : List (Action ι ε)) : Table κ ε := actions.foldl s.step ∅

theorem tableAfter_concat (actions : List (Action ι ε)) (last : Action ι ε) :
    s.tableAfter (actions ++ [last]) = s.step (s.tableAfter actions) last := by
  simp [tableAfter]

/-- Keys other than that of the action keep their entry. -/
theorem lookup_step_other {table : Table κ ε} {action : Action ι ε} {key : κ} (differs : key ≠ s.pack (s.name action)) :
    (s.step table action).lookup key = table.lookup key := by
  cases action with
  | issue entry =>
    rw [step]
    split
    · exact AList.lookup_insert_ne differs
    · rfl
  | complete name => exact AList.lookup_erase_ne differs

variable [DecidableEq ι]

/-- Under its own key an action leaves the entry that it issues, or none. -/
theorem lookup_step_own {table : Table κ ε} {action : Action ι ε} {entry : ε}
    (found : (s.step table action).lookup (s.pack (s.name action)) = some entry) :
    s.owner entry = s.name action ∧ ∀ latest, s.note latest action (s.name action) = some entry := by
  cases action with
  | issue issued =>
    rw [step, name] at found
    split at found
    · rw [AList.lookup_insert] at found
      cases found
      exact ⟨rfl, fun latest => Function.update_self _ _ _⟩
    · rename_i refused
      have present := AList.lookup_isSome.mp (by rw [found]; rfl)
      exact absurd (Or.inl present) refused
  | complete name =>
    rw [step, Scheme.name, AList.lookup_erase] at found
    cases found

/-- What the table holds is the latest entry of its owner, under the owner's key. -/
theorem tableAfter_latest (actions : List (Action ι ε)) {key : κ} {entry : ε}
    (found : (s.tableAfter actions).lookup key = some entry) :
    key = s.pack (s.owner entry) ∧ s.latestAfter actions (s.owner entry) = some entry := by
  induction actions using List.reverseRecOn generalizing key with
  | nil => cases found
  | append_singleton actions last ih =>
    rw [tableAfter_concat] at found
    rw [latestAfter_concat]
    by_cases own : key = s.pack (s.name last)
    · subst own
      obtain ⟨mine, noted⟩ := s.lookup_step_own found
      rw [mine]
      exact ⟨rfl, noted _⟩
    · rw [s.lookup_step_other own] at found
      obtain ⟨packed, latest⟩ := ih found
      have differs : s.owner entry ≠ s.name last := by
        intro same
        exact own (packed.trans (congrArg s.pack same))
      rw [s.note_other differs]
      exact ⟨packed, latest⟩

/-! ### Whole runs -/

/-- A completion finds the latest request of its name or nothing, and no action touches the entries of other names. -/
structure Sound (before : List (Action ι ε)) (action : Action ι ε) : Prop where
  paired : ∀ name, action = .complete name → ∀ entry, (s.tableAfter before).lookup (s.pack name) = some entry →
    s.latestAfter before name = some entry
  untouched : ∀ entry, s.owner entry ≠ s.name action →
    (s.tableAfter before).lookup (s.pack (s.owner entry)) = some entry →
    (s.tableAfter (before ++ [action])).lookup (s.pack (s.owner entry)) = some entry

/-- The table has an entry of that name. -/
def Stored (before : List (Action ι ε)) (name : ι) : Prop :=
  ∃ entry, (s.tableAfter before).lookup (s.pack name) = some entry ∧ s.owner entry = name

/-- No other name with the key of the action has an entry. -/
def Clear (before : List (Action ι ε)) (action : Action ι ε) : Prop :=
  ∀ other, other ≠ s.name action → s.pack other = s.pack (s.name action) → ¬ s.Stored before other

theorem sound_iff_clear (before : List (Action ι ε)) (action : Action ι ε) :
    s.Sound before action ↔ s.Clear before action := by
  constructor
  · rintro sound other differs same ⟨entry, found, rfl⟩
    have kept := sound.untouched entry differs found
    rw [tableAfter_concat, same] at kept
    exact differs (s.lookup_step_own kept).1
  · intro clear
    have own {entry : ε} (found : (s.tableAfter before).lookup (s.pack (s.name action)) = some entry) :
        s.owner entry = s.name action := by
      by_contra differs
      obtain ⟨packed, -⟩ := s.tableAfter_latest before found
      exact clear (s.owner entry) differs packed.symm ⟨entry, packed ▸ found, rfl⟩
    constructor
    · rintro name rfl entry found
      obtain ⟨-, latest⟩ := s.tableAfter_latest before found
      rwa [own found] at latest
    · intro entry differs found
      have apart : s.pack (s.owner entry) ≠ s.pack (s.name action) := by
        intro same
        exact differs (own (same ▸ found))
      rw [tableAfter_concat, s.lookup_step_other apart]
      exact found

theorem each_sound_iff_clear (actions : List (Action ι ε)) : Each s.Sound actions ↔ Each s.Clear actions :=
  each_congr s.sound_iff_clear

/-! ### Tables without a limit -/

/-- No other request with the key of the action is outstanding. -/
def Lone (before : List (Action ι ε)) (action : Action ι ε) : Prop :=
  ∀ other, other ≠ s.name action → s.pack other = s.pack (s.name action) → s.latestAfter before other = none

/-- Every outstanding request is in the table. -/
def Complete (before : List (Action ι ε)) : Prop :=
  ∀ name entry, s.latestAfter before name = some entry →
    s.owner entry = name ∧ (s.tableAfter before).lookup (s.pack name) = some entry

theorem clear_iff_lone {before : List (Action ι ε)} (complete : s.Complete before) (action : Action ι ε) :
    s.Clear before action ↔ s.Lone before action := by
  constructor
  · intro clear other differs same
    cases outstanding : s.latestAfter before other with
    | none => rfl
    | some entry =>
      obtain ⟨mine, found⟩ := complete other entry outstanding
      exact (clear other differs same ⟨entry, found, mine⟩).elim
  · rintro lone other differs same ⟨entry, found, rfl⟩
    obtain ⟨-, latest⟩ := s.tableAfter_latest before found
    rw [lone (s.owner entry) differs same] at latest
    cases latest

theorem complete_concat (roomy : ∀ table, s.room table = true) {before : List (Action ι ε)} {action : Action ι ε}
    (complete : s.Complete before) (sound : s.Sound before action) : s.Complete (before ++ [action]) := by
  intro name entry outstanding
  rw [latestAfter_concat] at outstanding
  by_cases own : name = s.name action
  · subst own
    cases action with
    | issue issued =>
      rw [note, Scheme.name, Function.update_self] at outstanding
      cases outstanding
      refine ⟨rfl, ?_⟩
      rw [tableAfter_concat, step, if_pos (Or.inr (roomy _))]
      exact AList.lookup_insert _
    | complete completed =>
      rw [note, Scheme.name, Function.update_self] at outstanding
      cases outstanding
  · rw [s.note_other own] at outstanding
    obtain ⟨rfl, found⟩ := complete name entry outstanding
    exact ⟨rfl, sound.untouched entry own found⟩

theorem each_sound_iff_lone (roomy : ∀ table, s.room table = true) (actions : List (Action ι ε)) :
    Each s.Sound actions ↔ Each s.Lone actions := by
  apply each_iff (I := s.Complete)
  · intro name entry outstanding
    cases outstanding
  · intro before action _ _ complete
    exact (s.sound_iff_clear before action).trans (s.clear_iff_lone complete action)
  · intro before action _ _ complete sound
    exact s.complete_concat roomy complete sound

end Scheme

end StbEbpf.PackedKeys
