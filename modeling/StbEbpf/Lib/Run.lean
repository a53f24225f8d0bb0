import Mathlib.Data.List.Basic
import Mathlib.Data.List.Induction

/-! Runs of a step function, under a condition that each step has to meet in the state it starts from. -/

namespace StbEbpf.Run
variable {σ α β : Type}

def Along (step : σ → α → σ) (meets : σ → α → Prop) : σ → List α → Prop
  | _, [] => True
  | s, action :: rest => meets s action ∧ Along step meets (step s action) rest

instance decideAlong (step : σ → α → σ) (meets : σ → α → Prop) [decide : ∀ s action, Decidable (meets s action)] :
    (s : σ) → (actions : List α) → Decidable (Along step meets s actions)
  | _, [] => isTrue trivial
  | _, _ :: rest => @instDecidableAnd _ _ (decide _ _) (decideAlong step meets _ rest)

/-- What a step keeps when it meets the condition is kept by every run whose steps meet it. -/
theorem foldl_keeps {step : σ → α → σ} {meets : σ → α → Prop} {I : σ → Prop}
    (keeps : ∀ s action, I s → meets s action → I (step s action)) {actions : List α} {s : σ} (start : I s)
    (along : Along step meets s actions) : I (actions.foldl step s) := by
  induction actions generalizing s with
  | nil => exact start
  | cons action rest ih =>
    obtain ⟨first, later⟩ := along
    exact ih (keeps s action start first) later

theorem along_true (step : σ → α → σ) (s : σ) (actions : List α) : Along step (fun _ _ => True) s actions := by
  induction actions generalizing s with
  | nil => trivial
  | cons action rest ih => exact ⟨trivial, ih (step s action)⟩

/-- Two conditions that agree wherever the invariant holds agree along every run that keeps it. -/
theorem along_iff {step : σ → α → σ} {meets P Q : σ → α → Prop} {I : σ → Prop}
    (keeps : ∀ s action, I s → meets s action → P s action → I (step s action))
    (agree : ∀ s action, I s → (P s action ↔ Q s action)) {actions : List α} {s : σ} (start : I s)
    (along : Along step meets s actions) : Along step P s actions ↔ Along step Q s actions := by
  induction actions generalizing s with
  | nil => exact Iff.rfl
  | cons action rest ih =>
    obtain ⟨first, later⟩ := along
    unfold Along
    rw [← agree s action start]
    exact and_congr_right fun here => ih (keeps s action start first here) later

/-- A loop over distinct items: each of them is new to the step that it comes to. -/
theorem foldl_distinct {step : σ → α → σ} {I : List α → σ → Prop}
    (keeps : ∀ seen s item, I seen s → item ∉ seen → I (seen ++ [item]) (step s item)) {s : σ} (start : I [] s)
    {items : List α} (distinct : items.Nodup) : I items (items.foldl step s) := by
  induction items using List.reverseRecOn with
  | nil => exact start
  | append_singleton seen item ih =>
    obtain ⟨distinct, -, apart⟩ := List.nodup_append.mp distinct
    rw [List.foldl_concat]
    refine keeps seen _ item (ih distinct) fun member => ?_
    exact apart item member item (List.mem_singleton.mpr rfl) rfl

/-! ### What a run leaves behind -/

/-- What the steps of a run emit, in order. -/
def logged (step : σ → α → σ) (emit : σ → α → List β) : σ → List α → List β
  | _, [] => []
  | s, action :: rest => emit s action ++ logged step emit (step s action) rest

theorem logged_concat (step : σ → α → σ) (emit : σ → α → List β) (s : σ) (actions : List α) (last : α) :
    logged step emit s (actions ++ [last]) = logged step emit s actions ++ emit (actions.foldl step s) last := by
  induction actions generalizing s with
  | nil => simp [logged]
  | cons action rest ih => simp [logged, ih]

/-- Every action of a run stands in the relation to those before it. -/
def Each (P : List α → α → Prop) (actions : List α) : Prop :=
  ∀ before action after, actions = before ++ action :: after → P before action

variable {P : List α → α → Prop} {actions : List α}

theorem each_nil : Each P [] := by
  intro before action after split
  simp at split

theorem each_cons {first : α} :
    Each P (first :: actions) ↔ P [] first ∧ Each (fun before => P (first :: before)) actions := by
  constructor
  · intro each
    refine ⟨each [] first actions rfl, ?_⟩
    rintro before action after rfl
    exact each (first :: before) action after rfl
  · rintro ⟨here, each⟩ before action after split
    cases before with
    | nil =>
      cases split
      exact here
    | cons head before =>
      obtain ⟨rfl, rest⟩ := List.cons.inj split
      exact each before action after rest

theorem each_initial {rest : List α} (each : Each P (actions ++ rest)) : Each P actions := by
  rintro before action after rfl
  exact each before action (after ++ rest) (by simp)

theorem each_concat {last : α} : Each P (actions ++ [last]) ↔ Each P actions ∧ P actions last := by
  constructor
  · intro each
    exact ⟨each_initial each, each actions last [] rfl⟩
  · rintro ⟨each, here⟩ before action after split
    rcases List.eq_nil_or_concat after with rfl | ⟨shorter, final, rfl⟩
    · obtain ⟨rfl, same⟩ := List.append_inj' split rfl
      cases same
      exact here
    · rw [List.concat_eq_append, ← List.cons_append, ← List.append_assoc] at split
      exact each before action shorter (List.append_inj' split rfl).1

theorem each_congr {Q : List α → α → Prop} (agree : ∀ before action, P before action ↔ Q before action) :
    Each P actions ↔ Each Q actions := by
  constructor
  · intro each before action after split
    exact (agree before action).mp (each before action after split)
  · intro each before action after split
    exact (agree before action).mpr (each before action after split)

/-- Two relations that agree as long as an invariant holds, where the first one keeps it. -/
theorem each_iff {P Q : List α → α → Prop} {I : List α → Prop} {actions : List α} (start : I [])
    (agree : ∀ before action after, actions = before ++ action :: after → I before →
      (P before action ↔ Q before action))
    (keeps : ∀ before action after, actions = before ++ action :: after → I before → P before action →
      I (before ++ [action])) : Each P actions ↔ Each Q actions := by
  have reaches (holds : ∀ before action after, actions = before ++ action :: after → I before → P before action)
      (before after : List α) (split : actions = before ++ after) : I before := by
    induction before using List.reverseRecOn generalizing after with
    | nil => exact start
    | append_singleton before action ih =>
      rw [List.append_assoc] at split
      have earlier := ih _ split
      exact keeps before action after split earlier (holds before action after split earlier)
  constructor
  · intro each before action after split
    have here := reaches (fun before action after split _ => each before action after split) before _ split
    exact (agree before action after split here).mp (each before action after split)
  · intro each before action after split
    have here := reaches (fun before action after split here =>
      (agree before action after split here).mpr (each before action after split)) before _ split
    exact (agree before action after split here).mpr (each before action after split)

/-- The actions seen as those of another run. -/
theorem each_map {f : β → α} {actions : List β} :
    Each P (actions.map f) ↔ Each (fun before action => P (before.map f) (f action)) actions := by
  constructor
  · rintro each before action after rfl
    exact each (before.map f) (f action) (after.map f) (by simp)
  · intro each before action after split
    obtain ⟨first, rest, rfl, rfl, mapped⟩ := List.map_eq_append_iff.mp split
    obtain ⟨next, later, rfl, rfl, -⟩ := List.map_eq_cons_iff.mp mapped
    exact each first next later rfl

end StbEbpf.Run
