import Mathlib.Data.List.Perm.Basic

/-! Activities under way at the same time, each holding some items. An activity is known by its place for good. -/

namespace StbEbpf.Pool
variable {α ι : Type} {held : α → List ι} {pool : List α} {i : Nat} {old : α}

def holdings (held : α → List ι) (pool : List α) : List ι := pool.flatMap held

theorem holdings_append (new : α) : holdings held (pool ++ [new]) = holdings held pool ++ held new := by
  simp [holdings]

theorem holdings_set (held : α → List ι) (member : pool[i]? = some old) :
    ∃ others, (holdings held pool).Perm (held old ++ others) ∧
      ∀ new, (holdings held (pool.set i new)).Perm (held new ++ others) := by
  obtain ⟨inside, rfl⟩ := List.getElem?_eq_some_iff.mp member
  refine ⟨holdings held (pool.eraseIdx i), ?_, fun new => ?_⟩
  · exact ((List.getElem_cons_eraseIdx_perm inside).symm.flatMap_right held).trans (by simp [holdings])
  · exact ((List.set_perm_cons_eraseIdx inside new).flatMap_right held).trans (by simp [holdings])

end StbEbpf.Pool
