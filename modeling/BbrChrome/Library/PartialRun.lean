import Mathlib.Tactic.TypeStar

/-!
# Runs of partial transition functions

A step either yields the next state or stops the run with a fault. `exec`
chains the steps of an input list, `Along` says that a condition holds at every
step taken, and `observed` folds a history variable over the steps. The rules
below reduce a statement about all runs to one about a single step.
-/

namespace PartialRun

variable {σ ι ε γ : Type*}

/-- Execute the inputs in order; the first fault ends the run. -/
def exec (step : σ → ι → Except ε σ) : σ → List ι → Except ε σ
  | s, [] => .ok s
  | s, i :: is =>
      match step s i with
      | .ok s' => exec step s' is
      | .error e => .error e

/-- `P` holds of the state and the input at every step that the run takes. -/
def Along (step : σ → ι → Except ε σ) (P : σ → ι → Prop) : σ → List ι → Prop
  | _, [] => True
  | s, i :: is => P s i ∧ ∀ s', step s i = .ok s' → Along step P s' is

instance instDecidableAlong (step : σ → ι → Except ε σ) (P : σ → ι → Prop)
    [∀ s i, Decidable (P s i)] : ∀ s is, Decidable (Along step P s is)
  | _, [] => .isTrue trivial
  | s, i :: is =>
      match h : step s i with
      | .error _ => decidable_of_iff (P s i) (by simp [Along, h])
      | .ok s' =>
          have := instDecidableAlong step P s' is
          decidable_of_iff (P s i ∧ Along step P s' is) (by simp [Along, h])

/-- Fold a history variable over the steps of a run, up to its end or its fault. -/
def observed (step : σ → ι → Except ε σ) (upd : γ → σ → ι → σ → γ) : σ → γ → List ι → γ
  | _, g, [] => g
  | s, g, i :: is =>
      match step s i with
      | .ok s' => observed step upd s' (upd g s i s') is
      | .error _ => g

/-- The run is free of faults and its last state satisfies `p`. -/
def endsIn (p : σ → Bool) : Except ε σ → Bool
  | .ok s => p s
  | .error _ => false

theorem exists_of_endsIn {r : Except ε σ} {p : σ → Bool} (h : endsIn p r = true) :
    ∃ s, r = .ok s ∧ p s = true := by
  cases r with
  | error e => cases h
  | ok s => exact ⟨s, rfl, h⟩

variable {step : σ → ι → Except ε σ} {P Q : σ → ι → Prop} {upd : γ → σ → ι → σ → γ}

@[simp] theorem exec_nil (s : σ) : exec step s [] = .ok s := rfl

theorem exec_cons_of_ok {s s' : σ} {i : ι} (h : step s i = .ok s') (is : List ι) :
    exec step s (i :: is) = exec step s' is := by
  simp [exec, h]

theorem exec_cons_of_error {s : σ} {i : ι} {e : ε} (h : step s i = .error e) (is : List ι) :
    exec step s (i :: is) = .error e := by
  simp [exec, h]

theorem exec_cons_ok {s t : σ} {i : ι} {is : List ι} (h : exec step s (i :: is) = .ok t) :
    ∃ s', step s i = .ok s' ∧ exec step s' is = .ok t := by
  cases hs : step s i with
  | error e => simp [exec, hs] at h
  | ok s' => exact ⟨s', rfl, by simpa [exec, hs] using h⟩

/-- A successful run splits at every point of its input list. -/
theorem exec_append_ok {s t : σ} {is js : List ι} (h : exec step s (is ++ js) = .ok t) :
    ∃ m, exec step s is = .ok m ∧ exec step m js = .ok t := by
  induction is generalizing s with
  | nil => exact ⟨s, rfl, h⟩
  | cons i is ih =>
      obtain ⟨s', hs, hr⟩ := exec_cons_ok h
      obtain ⟨m, hm, ht⟩ := ih hr
      exact ⟨m, by rw [exec_cons_of_ok hs, hm], ht⟩

/-- A run that faults does so at one of its steps. -/
theorem exec_error_split {s : σ} {is : List ι} {e : ε} (h : exec step s is = .error e) :
    ∃ m i, (∃ pre, exec step s pre = .ok m) ∧ step m i = .error e := by
  induction is generalizing s with
  | nil => cases h
  | cons i is ih =>
      cases hs : step s i with
      | error e' =>
          rw [exec_cons_of_error hs] at h
          cases h
          exact ⟨s, i, ⟨[], rfl⟩, hs⟩
      | ok s' =>
          rw [exec_cons_of_ok hs] at h
          obtain ⟨m, j, ⟨pre, hpre⟩, hm⟩ := ih h
          exact ⟨m, j, ⟨i :: pre, by rw [exec_cons_of_ok hs, hpre]⟩, hm⟩

theorem observed_cons_of_ok {s s' : σ} {i : ι} (h : step s i = .ok s') (g : γ) (is : List ι) :
    observed step upd s g (i :: is) = observed step upd s' (upd g s i s') is := by
  simp [observed, h]

theorem observed_append {s m : σ} {g : γ} {is js : List ι} (h : exec step s is = .ok m) :
    observed step upd s g (is ++ js) =
      observed step upd m (observed step upd s g is) js := by
  induction is generalizing s g with
  | nil => cases h; rfl
  | cons i is ih =>
      obtain ⟨s', hs, hr⟩ := exec_cons_ok h
      rw [List.cons_append, observed_cons_of_ok hs, observed_cons_of_ok hs, ih hr]

/-! ## Conditions along a run -/

theorem Along.mono (h : ∀ s i, P s i → Q s i) {s : σ} {is : List ι} (hp : Along step P s is) :
    Along step Q s is := by
  induction is generalizing s with
  | nil => trivial
  | cons i is ih => exact ⟨h s i hp.1, fun s' hs => ih (hp.2 s' hs)⟩

theorem Along.append {s m : σ} {is js : List ι} (hm : exec step s is = .ok m)
    (h : Along step P s (is ++ js)) : Along step P s is ∧ Along step P m js := by
  induction is generalizing s with
  | nil => cases hm; exact ⟨trivial, h⟩
  | cons i is ih =>
      obtain ⟨s', hs, hr⟩ := exec_cons_ok hm
      refine ⟨⟨h.1, fun s'' hs'' => ?_⟩, (ih hr (h.2 s' hs)).2⟩
      cases hs.symm.trans hs''
      exact (ih hr (h.2 s' hs)).1

/-- A condition holds along a run when it holds at the end of every proper prefix. -/
theorem along_iff_prefix {s : σ} {is : List ι} :
    Along step P s is ↔
      ∀ pre i post m, is = pre ++ i :: post → exec step s pre = .ok m → P m i := by
  induction is generalizing s with
  | nil => simp [Along]
  | cons i is ih =>
      constructor
      · rintro ⟨hp, hr⟩ pre j post m hsplit hm
        cases pre with
        | nil =>
            simp only [List.nil_append, List.cons.injEq] at hsplit
            cases hm
            exact hsplit.1 ▸ hp
        | cons k pre =>
            simp only [List.cons_append, List.cons.injEq] at hsplit
            rcases hsplit with ⟨rfl, hsplit⟩
            obtain ⟨s', hs, hm⟩ := exec_cons_ok hm
            exact ih.mp (hr s' hs) pre j post m hsplit hm
      · intro h
        refine ⟨h [] i is s rfl rfl, fun s' hs => ih.mpr fun pre j post m hsplit hm => ?_⟩
        exact h (i :: pre) j post m (by rw [hsplit]; rfl) (by rw [exec_cons_of_ok hs, hm])

/-! ## Invariants -/

/-- An invariant of the steps that meet `P` holds at the end of a run along `P`. -/
theorem invariant_along {Inv : σ → Prop}
    (hstep : ∀ s i s', Inv s → P s i → step s i = .ok s' → Inv s') {s t : σ} {is : List ι}
    (hs : Inv s) (hp : Along step P s is) (h : exec step s is = .ok t) : Inv t := by
  induction is generalizing s with
  | nil => cases h; exact hs
  | cons i is ih =>
      obtain ⟨s', hi, hr⟩ := exec_cons_ok h
      exact ih (hstep s i s' hs hp.1 hi) (hp.2 s' hi) hr

theorem invariant {Inv : σ → Prop} (hstep : ∀ s i s', Inv s → step s i = .ok s' → Inv s')
    {s t : σ} {is : List ι} (hs : Inv s) (h : exec step s is = .ok t) : Inv t := by
  induction is generalizing s with
  | nil => cases h; exact hs
  | cons i is ih =>
      obtain ⟨s', hi, hr⟩ := exec_cons_ok h
      exact ih (hstep s i s' hs hi) hr

/-- An invariant that relates the state to a history variable. -/
theorem invariant_observed {Inv : σ → γ → Prop}
    (hstep : ∀ s g i s', Inv s g → P s i → step s i = .ok s' → Inv s' (upd g s i s'))
    {s t : σ} {g : γ} {is : List ι} (hs : Inv s g) (hp : Along step P s is)
    (h : exec step s is = .ok t) : Inv t (observed step upd s g is) := by
  induction is generalizing s g with
  | nil => cases h; exact hs
  | cons i is ih =>
      obtain ⟨s', hi, hr⟩ := exec_cons_ok h
      rw [observed_cons_of_ok hi]
      exact ih (hstep s g i s' hs hp.1 hi) (hp.2 s' hi) hr

theorem invariant_inputs {Inv : σ → List ι → Prop}
    (hstep : ∀ s is i s', Inv s is → step s i = .ok s' → Inv s' (is ++ [i]))
    {s t : σ} {pre is : List ι} (hs : Inv s pre) (h : exec step s is = .ok t) :
    Inv t (pre ++ is) := by
  induction is generalizing s pre with
  | nil =>
      cases h
      simpa using hs
  | cons i is ih =>
      obtain ⟨s', hi, hr⟩ := exec_cons_ok h
      have hnext := ih (hstep s pre i s' hs hi) hr
      simpa using hnext

/-- A sum over the steps of a run is zero exactly when each of its terms is. -/
theorem observed_add_eq_zero_iff {f : σ → ι → Nat} {s t : σ} {g : Nat} {is : List ι}
    (h : exec step s is = .ok t) :
    observed step (fun g s i _ => g + f s i) s g is = 0 ↔
      g = 0 ∧ Along step (fun s i => f s i = 0) s is := by
  induction is generalizing s g with
  | nil => simp [observed, Along]
  | cons i is ih =>
      obtain ⟨s', hi, hr⟩ := exec_cons_ok h
      rw [observed_cons_of_ok hi, ih hr]
      constructor
      · intro ⟨hzero, hrest⟩
        refine ⟨by omega, by omega, fun s'' hs'' => ?_⟩
        cases hi.symm.trans hs''
        exact hrest
      · intro ⟨hg, hf, hrest⟩
        exact ⟨by omega, hrest s' hi⟩

/-- When the steps from invariant states fail exactly where `Q` fails, a run is
free of faults exactly when `Q` holds along it. -/
theorem exec_ok_iff_along {Inv : σ → Prop}
    (hstep : ∀ s i s', Inv s → P s i → step s i = .ok s' → Inv s')
    (hq : ∀ s i, Inv s → P s i → ((∃ s', step s i = .ok s') ↔ Q s i)) {s : σ} {is : List ι}
    (hs : Inv s) (hp : Along step P s is) :
    (∃ t, exec step s is = .ok t) ↔ Along step Q s is := by
  induction is generalizing s with
  | nil => exact ⟨fun _ => trivial, fun _ => ⟨s, rfl⟩⟩
  | cons i is ih =>
      constructor
      · rintro ⟨t, ht⟩
        obtain ⟨s', hi, hr⟩ := exec_cons_ok ht
        refine ⟨(hq s i hs hp.1).mp ⟨s', hi⟩, fun s'' hi' => ?_⟩
        cases hi.symm.trans hi'
        exact (ih (hstep s i s' hs hp.1 hi) (hp.2 s' hi)).mp ⟨t, hr⟩
      · rintro ⟨hqi, hr⟩
        obtain ⟨s', hi⟩ := (hq s i hs hp.1).mpr hqi
        obtain ⟨t, ht⟩ := (ih (hstep s i s' hs hp.1 hi) (hp.2 s' hi)).mpr (hr s' hi)
        exact ⟨t, by rw [exec_cons_of_ok hi, ht]⟩

end PartialRun
