import Mathlib.Algebra.BigOperators.Group.List.Basic
import Mathlib.Algebra.GroupWithZero.Nat
import Mathlib.Algebra.Order.Group.Nat

/-!
# Steps that write a log

A step relation whose steps write at most one entry each, and its closure. A run splits wherever
its log does, so that a law about stretches of the log is a law about runs from the state in
between.
-/

namespace LoggedSteps

variable {σ ε : Type*}

/-- The steps from one state to another and the entries that they write, in order. -/
inductive Steps (step : σ → Option ε → σ → Prop) : σ → List ε → σ → Prop
  | refl (s : σ) : Steps step s [] s
  | more {s t u : σ} {entry : Option ε} {log : List ε} (h : step s entry t)
      (rest : Steps step t log u) : Steps step s (entry.toList ++ log) u

variable {step : σ → Option ε → σ → Prop} {s t u : σ} {log log' : List ε} {e : ε}

theorem Steps.silent (h : step s none t) : Steps step s [] t := .more h (.refl t)

theorem Steps.write (h : step s (some e) t) : Steps step s [e] t := .more h (.refl t)

theorem Steps.trans (h : Steps step s log t) (h' : Steps step t log' u) :
    Steps step s (log ++ log') u := by
  induction h with
  | refl => exact h'
  | more hstep _ ih =>
      rw [List.append_assoc]
      exact .more hstep (ih h')

theorem Steps.trans_silent (h : Steps step s log t) (h' : Steps step t [] u) :
    Steps step s log u := by
  have hboth := h.trans h'
  rw [List.append_nil] at hboth
  exact hboth

/-! ## Splitting -/

/-- A run passes through a state in front of every suffix of its log. -/
theorem Steps.split (h : Steps step s (log ++ log') u) :
    ∃ t, Steps step s log t ∧ Steps step t log' u := by
  generalize hwhole : log ++ log' = whole at h
  induction h generalizing log with
  | refl s =>
      obtain ⟨rfl, rfl⟩ := List.append_eq_nil_iff.mp hwhole
      exact ⟨s, .refl s, .refl s⟩
  | @more s t u entry rest hstep hrest ih =>
      cases entry with
      | none =>
          obtain ⟨m, hbefore, hafter⟩ := ih hwhole
          exact ⟨m, .more hstep hbefore, hafter⟩
      | some e =>
          cases log with
          | nil =>
              rw [List.nil_append] at hwhole
              rw [hwhole]
              exact ⟨s, .refl s, .more hstep hrest⟩
          | cons first log =>
              simp only [List.cons_append, Option.toList_some, List.nil_append,
                List.cons.injEq] at hwhole
              obtain ⟨rfl, hwhole⟩ := hwhole
              obtain ⟨m, hbefore, hafter⟩ := ih hwhole
              exact ⟨m, .more hstep hbefore, hafter⟩

theorem Steps.first (h : Steps step s (e :: log) u) :
    ∃ t t', Steps step s [] t ∧ step t (some e) t' ∧ Steps step t' log u := by
  generalize hwhole : e :: log = whole at h
  induction h with
  | refl s => cases hwhole
  | @more s t u entry rest hstep hrest ih =>
      cases entry with
      | none =>
          obtain ⟨m, m', hsilent, hwrite, hafter⟩ := ih hwhole
          exact ⟨m, m', .more hstep hsilent, hwrite, hafter⟩
      | some first =>
          cases hwhole
          exact ⟨s, t, .refl s, hstep, hrest⟩

theorem Steps.at_entry (h : Steps step s (log ++ e :: log') u) :
    ∃ t t', Steps step s log t ∧ step t (some e) t' ∧ Steps step t' log' u := by
  obtain ⟨m, hbefore, hrest⟩ := h.split
  obtain ⟨t, t', hsilent, hwrite, hafter⟩ := hrest.first
  exact ⟨t, t', hbefore.trans_silent hsilent, hwrite, hafter⟩

/-! ## Invariants and potentials -/

variable {Inv : σ → Prop}

theorem Steps.invariant (hstep : ∀ s entry t, Inv s → step s entry t → Inv t)
    (hsteps : Steps step s log t) (h : Inv s) : Inv t := by
  induction hsteps with
  | refl => exact h
  | more hfirst _ ih => exact ih (hstep _ _ _ h hfirst)

/-- A condition that only the writing of one entry establishes holds behind that entry alone. -/
theorem Steps.mem_of_established {P : σ → Prop}
    (hstep : ∀ s entry t, step s entry t → P t → P s ∨ entry = some e)
    (hsteps : Steps step s log t) (hs : ¬ P s) (ht : P t) : e ∈ log := by
  induction hsteps with
  | refl => exact absurd ht hs
  | @more s t u entry log hfirst _ ih =>
      rw [List.mem_append]
      by_cases hmid : P t
      · rcases hstep _ _ _ hfirst hmid with hbefore | hentry
        · exact absurd hbefore hs
        · exact .inl (by simp [hentry])
      · exact .inr (ih hmid ht)

/-- When no step gains more than it costs, the potential included, nor does any run. -/
theorem Steps.potential {gain cost : ε → Nat} {φ : σ → Nat}
    (hinv : ∀ s entry t, Inv s → step s entry t → Inv t)
    (hstep : ∀ s entry t, Inv s → step s entry t →
      (entry.toList.map gain).sum + φ t ≤ (entry.toList.map cost).sum + φ s)
    (hsteps : Steps step s log t) (h : Inv s) :
    (log.map gain).sum + φ t ≤ (log.map cost).sum + φ s := by
  induction hsteps with
  | refl => exact le_refl _
  | more hfirst _ ih =>
      have hone := hstep _ _ _ h hfirst
      have hrest := ih (hinv _ _ _ h hfirst)
      simp only [List.map_append, List.sum_append]
      omega

theorem countP_eq_sum (p : ε → Bool) (log : List ε) :
    log.countP p = (log.map fun e => (p e).toNat).sum := by
  induction log with
  | nil => rfl
  | cons e log ih =>
      rw [List.countP_cons, List.map_cons, List.sum_cons, ih]
      cases p e <;> simp [Nat.add_comm]

theorem Steps.countP_le {p q : ε → Bool} {φ : σ → Nat}
    (hstep : ∀ s entry t, step s entry t →
      entry.toList.countP p + φ t ≤ entry.toList.countP q + φ s)
    (hsteps : Steps step s log t) : log.countP p + φ t ≤ log.countP q + φ s := by
  simp only [countP_eq_sum] at hstep ⊢
  exact potential (fun _ _ _ _ _ => trivial) (fun s entry t _ h => hstep s entry t h) hsteps trivial

/-- A value that can be replayed from the log of every step can be replayed from the log of a
run. -/
theorem Steps.replay {α : Type*} {record : α → ε → Option α} {φ : σ → α}
    (hstep : ∀ s entry t, step s entry t → entry.toList.foldlM record (φ s) = some (φ t))
    (hsteps : Steps step s log t) : log.foldlM record (φ s) = some (φ t) := by
  induction hsteps with
  | refl => rfl
  | more hfirst _ ih =>
      rw [List.foldlM_append, hstep _ _ _ hfirst]
      exact ih

end LoggedSteps
