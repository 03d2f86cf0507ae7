import Mathlib.Data.List.Basic
import Mathlib.Tactic.TypeStar

/-!
# Elements that dominate what follows them

`SuffixBest R history e` says that `e` was recorded in `history` and that `R` relates
it to everything recorded since. An element keeps this as long as every new one is
related to it, and the newest one has it at once.
-/

/-- `e` occurs in the history and dominates everything behind one of its occurrences. -/
def SuffixBest {β : Type*} (R : β → β → Prop) (history : List β) (e : β) : Prop :=
  ∃ before after, history = before ++ e :: after ∧ ∀ x ∈ after, R e x

namespace SuffixBest

variable {β : Type*} {R : β → β → Prop} {history : List β} {e x : β}

theorem mem (h : SuffixBest R history e) : e ∈ history := by
  rcases h with ⟨before, after, rfl, _⟩
  simp

theorem latest (history : List β) (e : β) : SuffixBest R (history ++ [e]) e :=
  ⟨history, [], rfl, by simp⟩

theorem snoc (h : SuffixBest R history e) (hx : R e x) : SuffixBest R (history ++ [x]) e := by
  rcases h with ⟨before, after, rfl, hafter⟩
  refine ⟨before, after ++ [x], by simp, fun y hy => ?_⟩
  rcases List.mem_append.mp hy with hy | hy
  · exact hafter y hy
  · rw [List.mem_singleton.mp hy]
    exact hx

end SuffixBest
