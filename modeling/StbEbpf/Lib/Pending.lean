import Mathlib.Data.List.AList
import Mathlib.Data.List.Induction
import StbEbpf.Lib.Run

/-!
Requests that wait for an answer, in a table with one place for each key. What the table stands for is a queue for each
key: a request joins it at the end, an answer takes the oldest one away.
-/

namespace StbEbpf.Pending
open Run

abbrev Table (κ α : Type) := AList fun _ : κ => α

inductive Action (κ α : Type) where
  | ask (key : κ) (request : α)
  | answer (key : κ)
  | purge (expired : α → Bool)

variable {κ α : Type} [DecidableEq κ]

/-! ### The table -/

/-- The loop over the entries, with the expired ones deleted on the way. -/
def purge (expired : α → Bool) (table : Table κ α) : Table κ α :=
  table.entries.foldl (fun left entry => if expired entry.2 then left.erase entry.1 else left) table

def step (table : Table κ α) : Action κ α → Table κ α
  | .ask key request => table.insert key request
  | .answer key => table.erase key
  | .purge expired => purge expired table

def tableAfter (actions : List (Action κ α)) : Table κ α := actions.foldl step ∅

/-- What the table has for a key. -/
def held (table : Table κ α) (key : κ) : List α := (table.lookup key).toList

theorem held_le_one (table : Table κ α) (key : κ) : (held table key).length ≤ 1 := by
  unfold held
  cases table.lookup key <;> simp

theorem purge_none {expired : α → Bool} {table : Table κ α} (fresh : ∀ key, ∀ request ∈ held table key, expired request = false) :
    purge expired table = table := by
  have entries : ∀ entry ∈ table.entries, expired entry.2 = false := by
    rintro ⟨key, request⟩ member
    apply fresh key
    exact Option.mem_toList.mpr (AList.mem_lookup_iff.mpr member)
  have keeps : ∀ (entries : List (Sigma fun _ : κ => α)), (∀ entry ∈ entries, expired entry.2 = false) →
      entries.foldl (fun left entry => if expired entry.2 then left.erase entry.1 else left) table = table := by
    intro entries all
    induction entries with
    | nil => rfl
    | cons entry entries ih =>
      rw [List.foldl_cons, all entry (by simp)]
      exact ih fun other member => all other (by simp [member])
  exact keeps table.entries entries

/-! ### The queues -/

def await (waiting : κ → List α) : Action κ α → κ → List α
  | .ask key request => Function.update waiting key (waiting key ++ [request])
  | .answer key => Function.update waiting key (waiting key).tail
  | .purge _ => waiting

/-- The requests without an answer, the oldest first. -/
def waitingAfter (actions : List (Action κ α)) : κ → List α := actions.foldl await fun _ => []

/-- Only what was asked is answered, and nothing that waits has expired. -/
def Allowed (before : List (Action κ α)) : Action κ α → Prop
  | .ask _ _ => True
  | .answer key => waitingAfter before key ≠ []
  | .purge expired => ∀ key, ∀ request ∈ waitingAfter before key, expired request = false

/-- A request is made when no other one waits under its key. -/
def Alone (before : List (Action κ α)) : Action κ α → Prop
  | .ask key _ => waitingAfter before key = []
  | .answer _ => True
  | .purge _ => True

/-- Every request that waits is in the table, and nothing else. -/
def Holds (actions : List (Action κ α)) : Prop := ∀ key, held (tableAfter actions) key = waitingAfter actions key

theorem tableAfter_concat (actions : List (Action κ α)) (last : Action κ α) :
    tableAfter (actions ++ [last]) = step (tableAfter actions) last := by
  simp [tableAfter]

theorem waitingAfter_concat (actions : List (Action κ α)) (last : Action κ α) :
    waitingAfter (actions ++ [last]) = await (waitingAfter actions) last := by
  simp [waitingAfter]

theorem holds_concat {before : List (Action κ α)} {action : Action κ α} (holds : Holds before)
    (allowed : Allowed before action) (alone : Alone before action) : Holds (before ++ [action]) := by
  intro key
  have same := holds key
  rw [tableAfter_concat, waitingAfter_concat]
  cases action with
  | ask asked request =>
    by_cases here : key = asked
    · subst here
      have nothing : waitingAfter before key = [] := alone
      simp [step, await, held, nothing]
    · simpa [step, await, held, here] using same
  | answer answered =>
    by_cases here : key = answered
    · subst here
      have single := held_le_one (tableAfter before) key
      rw [same] at single
      have none_ : (waitingAfter before key).tail = [] := List.eq_nil_of_length_eq_zero (by simp; omega)
      simp [step, await, held, none_]
    · simpa [step, await, held, here] using same
  | purge expired =>
    have fresh : ∀ key, ∀ request ∈ held (tableAfter before) key, expired request = false := by
      intro key request member
      rw [holds key] at member
      exact allowed key request member
    rw [step, purge_none fresh]
    exact same

/-- One place for each key is enough when, and only when, no request is made before the last one is answered. -/
theorem holds_iff {actions : List (Action κ α)} (allowed : Each Allowed actions) :
    (∀ before, before <+: actions → Holds before) ↔ Each Alone actions := by
  constructor
  · rintro holds before action after rfl
    cases action with
    | ask key request =>
      have same := holds (before ++ [.ask key request]) ⟨after, by simp⟩ key
      have single := held_le_one (tableAfter (before ++ [.ask key request])) key
      rw [same, waitingAfter_concat] at single
      apply List.eq_nil_of_length_eq_zero
      simpa [await] using single
    | answer key => trivial
    | purge expired => trivial
  · intro alone
    -- from the last action, since the condition on an action speaks of those before it
    induction actions using List.reverseRecOn with
    | nil =>
      intro before start key
      obtain rfl := List.prefix_nil.mp start
      rfl
    | append_singleton actions last ih =>
      obtain ⟨allowedBefore, allowedLast⟩ := each_concat.mp allowed
      obtain ⟨aloneBefore, aloneLast⟩ := each_concat.mp alone
      have holds := ih allowedBefore aloneBefore
      intro before start
      obtain rfl | inside := List.prefix_concat_iff.mp start
      · exact holds_concat (holds actions (List.prefix_refl _)) allowedLast aloneLast
      · exact holds before inside

/-- The place then has the oldest request. -/
theorem lookup_oldest {actions : List (Action κ α)} (holds : Holds actions) (key : κ) :
    (tableAfter actions).lookup key = (waitingAfter actions key).head? := by
  rw [← holds key, held, Option.head?_toList]

/-! ### The table without assumptions -/

theorem lookup_purge (expired : α → Bool) (table : Table κ α) (key : κ) :
    (purge expired table).lookup key = (table.lookup key).filter fun request => ! expired request := by
  have swept : ∀ (entries : List (Sigma fun _ : κ => α)) (left : Table κ α),
      (entries.foldl (fun left entry => if expired entry.2 then left.erase entry.1 else left) left).lookup key =
        if entries.any (fun entry => decide (entry.1 = key) && expired entry.2) then none else left.lookup key := by
    intro entries
    induction entries with
    | nil => simp
    | cons entry rest ih =>
      intro left
      rw [List.foldl_cons, ih, List.any_cons]
      cases old : expired entry.2 with
      | false => rw [Bool.and_false, Bool.false_or, if_neg Bool.false_ne_true]
      | true =>
        rw [Bool.and_true, if_pos rfl]
        by_cases here : entry.1 = key
        · rw [here, AList.lookup_erase, ite_self, decide_eq_true rfl, Bool.true_or, if_pos rfl]
        · rw [AList.lookup_erase_ne (Ne.symm here), decide_eq_false here, Bool.false_or]
  unfold purge
  rw [swept]
  cases found : table.lookup key with
  | none => simp
  | some request =>
    have only : table.entries.any (fun entry => decide (entry.1 = key) && expired entry.2) = expired request := by
      rw [Bool.eq_iff_iff, List.any_eq_true]
      constructor
      · rintro ⟨⟨other, content⟩, member, both⟩
        obtain ⟨here, old⟩ := Bool.and_eq_true_iff.mp both
        obtain rfl : other = key := of_decide_eq_true here
        have same := AList.mem_lookup_iff.mpr member
        rw [found] at same
        rw [Option.some.inj same]
        exact old
      · intro old
        exact ⟨⟨key, request⟩, AList.mem_lookup_iff.mp found, by simp [old]⟩
    rw [only]
    cases old : expired request <;> simp [Option.filter, old]

/-- The action takes the request away from its key. -/
def Removes (key : κ) (request : α) : Action κ α → Prop
  | .ask other _ => other = key
  | .answer other => other = key
  | .purge expired => expired request = true

theorem lookup_step_iff (table : Table κ α) (action : Action κ α) (key : κ) (request : α) :
    (step table action).lookup key = some request ↔
      action = .ask key request ∨ table.lookup key = some request ∧ ¬ Removes key request action := by
  cases action with
  | ask other asked =>
    by_cases here : key = other
    · subst here
      simp [step, Removes]
    · simp [step, Removes, AList.lookup_insert_ne here, Ne.symm here]
  | answer other =>
    by_cases here : key = other
    · subst here
      simp [step, Removes]
    · simp [step, Removes, AList.lookup_erase_ne here, Ne.symm here]
  | purge expired =>
    rw [step, lookup_purge, Option.filter_eq_some_iff]
    simp [Removes]

/-- What a key has is what was asked for it last, unless that has been taken away since. -/
theorem lookup_tableAfter_iff (actions : List (Action κ α)) (key : κ) (request : α) :
    (tableAfter actions).lookup key = some request ↔
      ∃ before later, actions = before ++ .ask key request :: later ∧ ∀ action ∈ later, ¬ Removes key request action := by
  induction actions using List.reverseRecOn with
  | nil => simp [tableAfter]
  | append_singleton actions last ih =>
    rw [tableAfter_concat, lookup_step_iff, ih]
    constructor
    · rintro (rfl | ⟨⟨before, later, rfl, kept⟩, stays⟩)
      · exact ⟨actions, [], rfl, by simp⟩
      · refine ⟨before, later ++ [last], by simp, ?_⟩
        intro action member
        rcases List.mem_append.mp member with inside | final
        · exact kept action inside
        · obtain rfl := List.mem_singleton.mp final
          exact stays
    · rintro ⟨before, later, split, kept⟩
      rcases List.eq_nil_or_concat' later with rfl | ⟨first, final, rfl⟩
      · obtain ⟨-, same⟩ := List.append_inj' split rfl
        exact .inl (List.singleton_inj.mp same)
      · have split : actions ++ [last] = (before ++ .ask key request :: first) ++ [final] := by simpa using split
        obtain ⟨rfl, same⟩ := List.append_inj' split rfl
        obtain rfl := List.singleton_inj.mp same
        refine .inr ⟨⟨before, first, rfl, fun action member => kept action (by simp [member])⟩, ?_⟩
        exact kept last (by simp)

end StbEbpf.Pending
