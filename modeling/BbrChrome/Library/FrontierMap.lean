import Mathlib.Data.List.Induction
import Mathlib.Logic.Function.Basic
import Mathlib.Order.Lattice
import Mathlib.Tactic.Common

/-!
# Maps that grow at a frontier

A map into which entries go only above the last one that went in. Entries leave in any order;
when the last of them has left, the frontier is forgotten. What the map holds can be read off
the log of its calls.
-/

variable {κ α : Type*}

/-- The frontier is the last key that went in, as long as there is an entry. -/
structure FrontierMap (κ α : Type*) where
  entry : κ → Option α
  frontier : Option κ

namespace FrontierMap

variable {m : FrontierMap κ α} {k : κ} {v : α}

def empty : FrontierMap κ α := ⟨fun _ => none, none⟩

/-! ## Operations -/

open Classical in
/-- Forget the frontier of a map without entries. -/
noncomputable def settle (m : FrontierMap κ α) : FrontierMap κ α :=
  ⟨m.entry, if ∀ k, m.entry k = none then none else m.frontier⟩

@[simp] theorem settle_entry : m.settle.entry = m.entry := rfl

theorem settle_of_none (h : ∀ k, m.entry k = none) : m.settle = ⟨m.entry, none⟩ := by
  rw [settle, if_pos h]

theorem settle_of_some (h : m.entry k = some v) : m.settle = m := by
  have hne : ¬ ∀ k, m.entry k = none := by
    intro hnone
    rw [hnone k] at h
    cases h
  rw [settle, if_neg hne]

variable [LinearOrder κ]

def Accepts (m : FrontierMap κ α) (k : κ) : Prop := ∀ f ∈ m.frontier, f < k

instance (m : FrontierMap κ α) (k : κ) : Decidable (m.Accepts k) := by
  unfold Accepts
  infer_instance

def put (m : FrontierMap κ α) (k : κ) (v : α) : FrontierMap κ α × Bool :=
  if m.Accepts k then (⟨Function.update m.entry k (some v), some k⟩, true) else (m, false)

noncomputable def remove (m : FrontierMap κ α) (k : κ) : FrontierMap κ α × Bool :=
  if (m.entry k).isSome then (settle ⟨Function.update m.entry k none, m.frontier⟩, true)
  else (m, false)

noncomputable def removeUpTo (m : FrontierMap κ α) (k : κ) : FrontierMap κ α :=
  settle ⟨fun i => if i < k then none else m.entry i, m.frontier⟩

/-! ## Calls -/

inductive Call (κ α : Type*)
  | put (k : κ) (v : α)
  | remove (k : κ)
  | removeUpTo (k : κ)

/-- The next map and whether the call found what it needs. -/
noncomputable def call (m : FrontierMap κ α) : Call κ α → FrontierMap κ α × Bool
  | .put k v => m.put k v
  | .remove k => m.remove k
  | .removeUpTo k => (m.removeUpTo k, true)

noncomputable def run (m : FrontierMap κ α) : List (Call κ α) → FrontierMap κ α
  | [] => m
  | c :: calls => (m.call c).1.run calls

/-- The calls of a run with their results. -/
noncomputable def log (m : FrontierMap κ α) : List (Call κ α) → List (Call κ α × Bool)
  | [] => []
  | c :: calls => (c, (m.call c).2) :: (m.call c).1.log calls

theorem run_append (calls calls' : List (Call κ α)) :
    m.run (calls ++ calls') = (m.run calls).run calls' := by
  induction calls generalizing m with
  | nil => rfl
  | cons c calls ih => exact ih

theorem log_append (calls calls' : List (Call κ α)) :
    m.log (calls ++ calls') = m.log calls ++ (m.run calls).log calls' := by
  induction calls generalizing m with
  | nil => rfl
  | cons c calls ih => exact congrArg _ ih

/-! ## The log -/

/-- The logged call puts an entry at `k` or removes it. -/
def Affects (k : κ) : Call κ α × Bool → Prop
  | (.put k' _, accepted) => accepted = true ∧ k' = k
  | (.remove k', _) => k' = k
  | (.removeUpTo k', _) => k < k'

/-- The last call that affected `k` put `v` there. -/
def LastPut (log : List (Call κ α × Bool)) (k : κ) (v : α) : Prop :=
  ∃ before behind, log = before ++ (.put k v, true) :: behind ∧ ∀ c ∈ behind, ¬ Affects k c

theorem not_lastPut_nil : ¬ LastPut ([] : List (Call κ α × Bool)) k v := by
  rintro ⟨before, behind, hsplit, _⟩
  simp at hsplit

theorem lastPut_concat {log : List (Call κ α × Bool)} {c : Call κ α × Bool} :
    LastPut (log ++ [c]) k v ↔ c = (.put k v, true) ∨ ¬ Affects k c ∧ LastPut log k v := by
  constructor
  · rintro ⟨before, behind, hsplit, hquiet⟩
    rcases List.eq_nil_or_concat behind with rfl | ⟨behind, c', rfl⟩
    · left
      exact (List.append_inj' hsplit rfl).2 |> List.cons.inj |>.1
    · right
      rw [List.concat_eq_append, ← List.cons_append, ← List.append_assoc] at hsplit
      obtain ⟨hlog, hlast⟩ := List.append_inj' hsplit rfl
      rw [List.concat_eq_append] at hquiet
      refine ⟨?_, before, behind, hlog, fun c'' hmem => hquiet c'' (by simp [hmem])⟩
      rw [(List.cons.inj hlast).1]
      exact hquiet c' (by simp)
  · rintro (rfl | ⟨hquiet, before, behind, rfl, hbehind⟩)
    · exact ⟨log, [], rfl, by simp⟩
    · refine ⟨before, behind ++ [c], by simp, fun c' hmem => ?_⟩
      rcases List.mem_append.mp hmem with hmem | hmem
      · exact hbehind c' hmem
      · rw [List.mem_singleton.mp hmem]
        exact hquiet

theorem call_entry (c : Call κ α) :
    (m.call c).1.entry k = some v ↔
      (c, (m.call c).2) = (.put k v, true) ∨
        ¬ Affects k (c, (m.call c).2) ∧ m.entry k = some v := by
  cases c with
  | put k' v' =>
      simp only [call, put]
      by_cases haccepts : m.Accepts k'
      · by_cases hk : k = k'
        · subst hk
          simp [haccepts, Affects]
        · simp [haccepts, Affects, hk, Ne.symm hk]
      · simp [haccepts, Affects]
  | remove k' =>
      simp only [call, remove]
      by_cases hk : k = k'
      · subst hk
        cases hentry : m.entry k with
        | none => simp [hentry, Affects]
        | some v' => simp [Affects]
      · cases hentry : m.entry k' with
        | none => simp [Affects, Ne.symm hk]
        | some v' => simp [Affects, hk, Ne.symm hk]
  | removeUpTo k' =>
      by_cases hk : k < k'
      · simp [call, removeUpTo, Affects, hk]
      · simp [call, removeUpTo, Affects, hk]

/-- A key holds the value that was put there last, unless a later call removed it. -/
theorem run_entry_iff (calls : List (Call κ α)) :
    ((empty : FrontierMap κ α).run calls).entry k = some v ↔
      LastPut ((empty : FrontierMap κ α).log calls) k v := by
  induction calls using List.reverseRecOn with
  | nil =>
      constructor
      · intro h
        cases h
      · exact fun h => absurd h not_lastPut_nil
  | append_singleton calls c ih =>
      rw [run_append, log_append]
      show (((empty : FrontierMap κ α).run calls).call c).1.entry k = some v ↔
        LastPut (_ ++ [(c, (((empty : FrontierMap κ α).run calls).call c).2)]) k v
      rw [lastPut_concat, call_entry, ih]

end FrontierMap
