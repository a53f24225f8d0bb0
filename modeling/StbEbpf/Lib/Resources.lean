import Mathlib.Data.List.Basic

/-! What is acquired and released in the course of a run, and what is held at its end. -/

namespace StbEbpf.Resources

inductive Entry (ρ : Type) where
  | acquire (resource : ρ)
  | release (resource : ρ)
  deriving DecidableEq

variable {ρ : Type} [DecidableEq ρ]

def book (held : List ρ) : Entry ρ → List ρ
  | .acquire resource => resource :: held
  | .release resource => held.erase resource

/-- Entry by entry, with what is held at each. -/
def ProperFrom (holding : List ρ) : List (Entry ρ) → Prop
  | [] => True
  | .acquire resource :: rest => resource ∉ holding ∧ ProperFrom (resource :: holding) rest
  | .release resource :: rest => resource ∈ holding ∧ ProperFrom (holding.erase resource) rest

/-- From one holding to another, with nothing acquired twice and nothing released that is not held. -/
structure Takes (log : List (Entry ρ)) (before after : List ρ) : Prop where
  proper : ProperFrom before log
  held : log.foldl book before = after

theorem properFrom_append (first second : List (Entry ρ)) (holding : List ρ) :
    ProperFrom holding (first ++ second) ↔ ProperFrom holding first ∧ ProperFrom (first.foldl book holding) second := by
  induction first generalizing holding with
  | nil => exact (true_and _).symm.to_iff
  | cons entry rest ih =>
    cases entry with
    | acquire resource =>
      rw [List.cons_append, ProperFrom, ProperFrom, ih, and_assoc]
      rfl
    | release resource =>
      rw [List.cons_append, ProperFrom, ProperFrom, ih, and_assoc]
      rfl

theorem Takes.append {first second : List (Entry ρ)} {before between after : List ρ} (one : Takes first before between)
    (two : Takes second between after) : Takes (first ++ second) before after where
  proper := (properFrom_append ..).mpr ⟨one.proper, one.held ▸ two.proper⟩
  held := by rw [List.foldl_append, one.held, two.held]

end StbEbpf.Resources
