import BbrChrome.Library.PartialRun
import Mathlib.Data.List.Induction

/-!
# What a run emits

Each step of a run emits a list of outputs. A run whose outputs are the inputs of another
machine, step by step, projects onto a run of that machine.
-/

namespace PartialRun

variable {σ ι ε β τ ε' : Type*}

/-- The outputs of the steps of a run, in order, up to its end or its fault. -/
def emitted (step : σ → ι → Except ε σ) (f : σ → ι → List β) : σ → List ι → List β
  | _, [] => []
  | s, i :: is =>
      match step s i with
      | .ok s' => f s i ++ emitted step f s' is
      | .error _ => []

variable {step : σ → ι → Except ε σ} {f : σ → ι → List β} {P : σ → ι → Prop} {s t m : σ} {i : ι}
  {is js : List ι}

theorem emitted_cons_of_ok {s' : σ} (h : step s i = .ok s') (is : List ι) :
    emitted step f s (i :: is) = f s i ++ emitted step f s' is := by
  simp [emitted, h]

theorem emitted_append (h : exec step s is = .ok m) :
    emitted step f s (is ++ js) = emitted step f s is ++ emitted step f m js := by
  induction is generalizing s with
  | nil =>
      cases h
      rfl
  | cons i is ih =>
      obtain ⟨s', hs, hr⟩ := exec_cons_ok h
      rw [List.cons_append, emitted_cons_of_ok hs, emitted_cons_of_ok hs, ih hr, List.append_assoc]

theorem emitted_concat (h : exec step s is = .ok m) (hs : step m i = .ok t) :
    emitted step f s (is ++ [i]) = emitted step f s is ++ f m i := by
  rw [emitted_append h, emitted_cons_of_ok hs]
  simp [emitted]

/-- To filter what a run emits is to filter what each step emits. -/
theorem emitted_filterMap {γ : Type*} (g : β → Option γ) :
    (emitted step f s is).filterMap g = emitted step (fun s i => (f s i).filterMap g) s is := by
  induction is generalizing s with
  | nil => rfl
  | cons i is ih =>
      unfold emitted
      cases step s i with
      | error e => rfl
      | ok s' =>
          dsimp only
          rw [List.filterMap_append, ih]

/-- A property of the runs from a state follows the run from step to step. -/
@[elab_as_elim]
theorem exec_induction {motive : List ι → σ → Prop} (nil : motive [] s)
    (concat : ∀ is m i t, exec step s is = .ok m → step m i = .ok t → motive is m →
      motive (is ++ [i]) t)
    (h : exec step s is = .ok t) : motive is t := by
  induction is using List.reverseRecOn generalizing t with
  | nil =>
      cases h
      exact nil
  | append_singleton is i ih =>
      obtain ⟨m, hpre, hlast⟩ := exec_append_ok h
      obtain ⟨t', hs, hnil⟩ := exec_cons_ok hlast
      cases hnil
      exact concat is m i t hpre hs (ih hpre)

theorem exec_append_of_ok (h : exec step s is = .ok m) :
    exec step s (is ++ js) = exec step m js := by
  induction is generalizing s with
  | nil =>
      cases h
      rfl
  | cons i is ih =>
      obtain ⟨s', hs, hr⟩ := exec_cons_ok h
      rw [List.cons_append, exec_cons_of_ok hs, ih hr]

theorem Along.append_of (h : Along step P s is) (hm : exec step s is = .ok m)
    (h' : Along step P m js) : Along step P s (is ++ js) := by
  induction is generalizing s with
  | nil =>
      cases hm
      exact h'
  | cons i is ih =>
      obtain ⟨s', hs, hr⟩ := exec_cons_ok hm
      refine ⟨h.1, fun s'' hs'' => ?_⟩
      cases hs.symm.trans hs''
      exact ih (h.2 s' hs) hr

theorem exec_error_prefix {e : ε} (h : exec step s is = .error e) :
    ∃ pre i post m, is = pre ++ i :: post ∧ exec step s pre = .ok m ∧ step m i = .error e := by
  induction is generalizing s with
  | nil => cases h
  | cons i is ih =>
      cases hs : step s i with
      | error e' =>
          rw [exec_cons_of_error hs] at h
          cases h
          exact ⟨[], i, is, s, rfl, rfl, hs⟩
      | ok s' =>
          rw [exec_cons_of_ok hs] at h
          obtain ⟨pre, j, post, m, rfl, hpre, hm⟩ := ih h
          exact ⟨i :: pre, j, post, m, rfl, by rw [exec_cons_of_ok hs, hpre], hm⟩

/-! ## Projections -/

variable {step' : τ → β → Except ε' τ}

/-- When every step projects onto a run over its outputs, so does every run. -/
theorem exec_emitted (abs : σ → τ) {Inv : σ → Prop}
    (hinv : ∀ s i s', Inv s → P s i → step s i = .ok s' → Inv s')
    (hsim : ∀ s i s', Inv s → P s i → step s i = .ok s' →
      exec step' (abs s) (f s i) = .ok (abs s'))
    (hs : Inv s) (hp : Along step P s is) (h : exec step s is = .ok t) :
    exec step' (abs s) (emitted step f s is) = .ok (abs t) := by
  induction is generalizing s with
  | nil =>
      cases h
      rfl
  | cons i is ih =>
      obtain ⟨s', hi, hr⟩ := exec_cons_ok h
      rw [emitted_cons_of_ok hi, exec_append_of_ok (hsim s i s' hs hp.1 hi)]
      exact ih (hinv s i s' hs hp.1 hi) (hp.2 s' hi) hr

theorem along_emitted (abs : σ → τ) {Inv : σ → Prop} {Q : τ → β → Prop}
    (hinv : ∀ s i s', Inv s → P s i → step s i = .ok s' → Inv s')
    (hsim : ∀ s i s', Inv s → P s i → step s i = .ok s' →
      exec step' (abs s) (f s i) = .ok (abs s') ∧ Along step' Q (abs s) (f s i))
    (hs : Inv s) (hp : Along step P s is) (h : exec step s is = .ok t) :
    Along step' Q (abs s) (emitted step f s is) := by
  induction is generalizing s with
  | nil => trivial
  | cons i is ih =>
      obtain ⟨s', hi, hr⟩ := exec_cons_ok h
      obtain ⟨hrun, hq⟩ := hsim s i s' hs hp.1 hi
      rw [emitted_cons_of_ok hi]
      exact hq.append_of hrun (ih (hinv s i s' hs hp.1 hi) (hp.2 s' hi) hr)

end PartialRun
