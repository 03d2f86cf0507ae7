import Mathlib.Data.List.Basic

/-!
# Scans that stop at the first survivor

`scan` walks over a list, skips what is no candidate, collects the candidates
that are hit and stops at the first candidate that is not. If a candidate is hit
whenever a later one is, nothing behind the survivor is missed: the collected
list is the plain filter and the survivor the plain search.
-/

namespace Scan

variable {α : Type*}

/-- The candidates hit before the first survivor, and that survivor. -/
def scan (cand hit : α → Bool) : List α → List α × Option α
  | [] => ([], none)
  | a :: l =>
      if cand a then
        if hit a then (a :: (scan cand hit l).1, (scan cand hit l).2) else ([], some a)
      else scan cand hit l

variable {cand hit : α → Bool}

variable (cand hit) in
theorem scan_split (l : List α) :
    ∃ before, (scan cand hit l).1 = before.filter cand ∧ (∀ a ∈ before, cand a → hit a) ∧
      match (scan cand hit l).2 with
      | none => l = before
      | some s => cand s = true ∧ hit s = false ∧ ∃ behind, l = before ++ s :: behind := by
  induction l with
  | nil => exact ⟨[], rfl, by simp, rfl⟩
  | cons a l ih =>
      rcases ih with ⟨before, hf, hb, hs⟩
      by_cases hc : cand a = true
      · by_cases hh : hit a = true
        · refine ⟨a :: before, by simp [scan, hc, hh, hf], ?_, ?_⟩
          · intro b hmem
            rcases List.mem_cons.mp hmem with rfl | hmem
            · exact fun _ => hh
            · exact hb b hmem
          · simp only [scan, hc, hh, if_true]
            cases h : (scan cand hit l).2 with
            | none => simpa [h] using hs
            | some s =>
                simp only [h] at hs
                rcases hs with ⟨h1, h2, behind, h3⟩
                exact ⟨h1, h2, behind, by rw [h3]; rfl⟩
        · refine ⟨[], by simp [scan, hc, hh], by simp, ?_⟩
          rw [show (scan cand hit (a :: l)).2 = some a by simp [scan, hc, hh]]
          exact ⟨hc, by simp [hh], l, rfl⟩
      · refine ⟨a :: before, by simp [scan, hc, hf], ?_, ?_⟩
        · intro b hmem
          rcases List.mem_cons.mp hmem with rfl | hmem
          · exact fun h => absurd h hc
          · exact hb b hmem
        · simp only [scan, hc, Bool.false_eq_true, if_false]
          cases h : (scan cand hit l).2 with
          | none => simpa [h] using hs
          | some s =>
              simp only [h] at hs
              rcases hs with ⟨h1, h2, behind, h3⟩
              exact ⟨h1, h2, behind, by rw [h3]; rfl⟩

theorem scan_eq_nil {l : List α} (h : ∀ a ∈ l, cand a = false) : scan cand hit l = ([], none) := by
  induction l with
  | nil => rfl
  | cons a l ih =>
      simp only [scan, h a (by simp), Bool.false_eq_true, if_false]
      exact ih (fun b hb => h b (by simp [hb]))

theorem scan_fst_subset {l : List α} {a : α} (h : a ∈ (scan cand hit l).1) :
    a ∈ l ∧ cand a = true ∧ hit a = true := by
  obtain ⟨before, hf, hb, hs⟩ := scan_split cand hit l
  rw [hf, List.mem_filter] at h
  refine ⟨?_, h.2, hb a h.1 h.2⟩
  cases hr : (scan cand hit l).2 with
  | none =>
      simp only [hr] at hs
      exact hs ▸ h.1
  | some s =>
      simp only [hr] at hs
      rcases hs with ⟨_, _, behind, hl⟩
      rw [hl]
      exact List.mem_append_left _ h.1

/-- When hits are downward closed among the candidates, the early stop misses nothing. -/
theorem scan_eq_filter {l : List α}
    (hmono : l.Pairwise (fun a b => cand a → cand b → hit b → hit a)) :
    (scan cand hit l).1 = l.filter (fun a => cand a && hit a) := by
  induction l with
  | nil => rfl
  | cons a l ih =>
      rw [List.pairwise_cons] at hmono
      by_cases hc : cand a = true
      · by_cases hh : hit a = true
        · simp [scan, hc, hh, ih hmono.2]
        · simp only [scan, hc, hh, if_true, Bool.false_eq_true, if_false]
          symm
          rw [List.filter_eq_nil_iff]
          intro b hb hboth
          simp only [Bool.and_eq_true] at hboth
          rcases List.mem_cons.mp hb with rfl | hb
          · exact hh hboth.2
          · exact hh (hmono.1 b hb hc hboth.1 hboth.2)
      · simp [scan, hc, ih hmono.2]

theorem scan_eq_find? (l : List α) :
    (scan cand hit l).2 = l.find? (fun a => cand a && !hit a) := by
  induction l with
  | nil => rfl
  | cons a l ih =>
      by_cases hc : cand a = true
      · by_cases hh : hit a = true <;> simp [scan, hc, hh, ih]
      · simp [scan, hc, ih]

end Scan
