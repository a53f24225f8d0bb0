import Mathlib.Data.List.Basic
import Mathlib.Data.List.Induction

/-!
Programs over an explicit state. A program ends with a value, or is left inside a call that has not returned; the
state is there in both cases.
-/

namespace StbEbpf

def Program (σ α : Type) := σ → Option α × σ

namespace Program
variable {σ α β : Type}

instance : Monad (Program σ) where
  pure value := fun s => (some value, s)
  bind m next := fun s =>
    match m s with
    | (some value, s) => next value s
    | (none, s) => (none, s)

def get : Program σ σ := fun s => (some s, s)

def modify (f : σ → σ) : Program σ Unit := fun s => (some (), f s)

def stuck : Program σ α := fun s => (none, s)

@[simp] theorem pure_apply (value : α) (s : σ) : (pure value : Program σ α) s = (some value, s) := rfl

@[simp] theorem modify_apply (f : σ → σ) (s : σ) : modify f s = (some (), f s) := rfl

theorem bind_some {m : Program σ α} {next : α → Program σ β} {s t : σ} {value : α} (ends : m s = (some value, t)) :
    (m >>= next) s = next value t := by
  show (match m s with | (some value, s) => next value s | (none, s) => (none, s)) = _
  rw [ends]

theorem bind_none {m : Program σ α} {next : α → Program σ β} {s t : σ} (hangs : m s = (none, t)) :
    (m >>= next) s = (none, t) := by
  show (match m s with | (some value, s) => next value s | (none, s) => (none, s)) = _
  rw [hangs]

@[simp] theorem get_bind (next : σ → Program σ β) (s : σ) : (get >>= next) s = next s s := rfl

@[simp] theorem modify_bind (f : σ → σ) (next : Unit → Program σ β) (s : σ) :
    (modify f >>= next) s = next () (f s) := rfl

/-- A transitive relation between the states before and after holds of a sequence when it holds of both parts. -/
theorem bind_related {R : σ → σ → Prop} (trans : ∀ {a b c}, R a b → R b c → R a c) {m : Program σ α}
    {next : α → Program σ β} {s : σ} (first : R s (m s).2)
    (rest : ∀ value t, m s = (some value, t) → R t (next value t).2) : R s ((m >>= next) s).2 := by
  rcases ends : m s with ⟨_ | value, t⟩
  · rw [bind_none ends]
    rwa [ends] at first
  · rw [bind_some ends]
    rw [ends] at first
    exact trans first (rest value t ends)

/-- The state satisfies `I` when the program has ended and `J` when it is left inside a call. -/
def Ends (I J : σ → Prop) (outcome : Option α × σ) : Prop :=
  match outcome.1 with
  | some _ => I outcome.2
  | none => J outcome.2

theorem ends_of {I J : σ → Prop} {outcome : Option α × σ} (weaken : ∀ s, I s → J s) (holds : I outcome.2) :
    Ends I J outcome := by
  unfold Ends
  split
  · exact holds
  · exact weaken _ holds

theorem ends_any {I J : σ → Prop} {outcome : Option α × σ} (weaken : ∀ s, I s → J s) (ends : Ends I J outcome) :
    J outcome.2 := by
  unfold Ends at ends
  split at ends
  · exact weaken _ ends
  · exact ends

theorem bind_ends {I J K : σ → Prop} {m : Program σ α} {next : α → Program σ β} {s : σ}
    (first : Ends I J (m s)) (rest : ∀ value t, m s = (some value, t) → I t → Ends K J (next value t)) :
    Ends K J ((m >>= next) s) := by
  rcases ends : m s with ⟨_ | value, t⟩
  · rw [bind_none ends]
    rwa [ends] at first
  · rw [bind_some ends]
    rw [ends] at first
    exact rest value t ends first

theorem forM_ends {I J : σ → Prop} {step : α → Program σ Unit} (steps : List α)
    (keeps : ∀ a ∈ steps, ∀ s, I s → Ends I J (step a s)) {s : σ} (start : I s) : Ends I J (steps.forM step s) := by
  induction steps generalizing s with
  | nil => exact start
  | cons a rest ih =>
    refine bind_ends (keeps a (by simp) s start) fun _ t _ kept => ?_
    exact ih (fun b member => keeps b (by simp [member])) kept

theorem bind_eq_some {m : Program σ α} {next : α → Program σ β} {s u : σ} {result : β} :
    (m >>= next) s = (some result, u) ↔ ∃ value t, m s = (some value, t) ∧ next value t = (some result, u) := by
  rcases ends : m s with ⟨_ | value, t⟩
  · rw [bind_none ends]
    simp
  · rw [bind_some ends]
    simp

theorem forM_concat {step : α → Program σ Unit} (steps : List α) (a : α) {s u : σ} :
    (steps ++ [a]).forM step s = (some (), u) ↔ ∃ t, steps.forM step s = (some (), t) ∧ step a t = (some (), u) := by
  induction steps generalizing s with
  | nil =>
    show (step a >>= fun _ => pure ()) s = _ ↔ ∃ t, (some (), s) = (some (), t) ∧ _
    rw [bind_eq_some]
    constructor
    · rintro ⟨_, t, last, ⟨⟩⟩
      exact ⟨s, rfl, last⟩
    · rintro ⟨_, ⟨⟩, last⟩
      exact ⟨_, u, last, rfl⟩
  | cons b rest ih =>
    show (step b >>= fun _ => (rest ++ [a]).forM step) s = _ ↔
      ∃ t, (step b >>= fun _ => rest.forM step) s = _ ∧ _
    simp only [bind_eq_some, ih]
    constructor
    · rintro ⟨_, t, first, v, run, last⟩
      exact ⟨v, ⟨_, t, first, run⟩, last⟩
    · rintro ⟨v, ⟨_, t, first, run⟩, last⟩
      exact ⟨_, t, first, v, run, last⟩

/-- What holds at the start and is kept by every step that returns holds wherever a run of steps has returned. -/
theorem forM_reaches {I : σ → Prop} {step : α → Program σ Unit} {steps : List α} {s : σ} (start : I s)
    (keeps : ∀ before a after t u, steps = before ++ a :: after → before.forM step s = (some (), t) → I t →
      step a t = (some (), u) → I u)
    (before after : List α) (split : steps = before ++ after) (t : σ) (run : before.forM step s = (some (), t)) :
    I t := by
  induction before using List.reverseRecOn generalizing after t with
  | nil =>
    cases run
    exact start
  | append_singleton before a ih =>
    obtain ⟨u, earlier, last⟩ := (forM_concat before a).mp run
    rw [List.append_assoc] at split
    exact keeps before a after u t split earlier (ih _ split u earlier) last

end Program

end StbEbpf
