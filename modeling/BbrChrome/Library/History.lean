import Mathlib.Tactic.TypeStar

/-!
# Histories of runs

The record of a run lists each input with the state that it met. `SinceLast p q` is what a flag
stands for that `p` sets and `q` clears: something that satisfies `p` is on record, and nothing
that satisfies `q` came after it. A streak is what a counter of marked entries stands for.
-/

namespace History

variable {σ ι α : Type*}

/-! ## The record of a run -/

def trace (step : σ → ι → σ) : σ → List ι → List (σ × ι)
  | _, [] => []
  | s, i :: is => (s, i) :: trace step (step s i) is

variable {step : σ → ι → σ}

theorem trace_append (s : σ) (is js : List ι) :
    trace step s (is ++ js) = trace step s is ++ trace step (is.foldl step s) js := by
  induction is generalizing s with
  | nil => rfl
  | cons i is ih => simp [trace, ih]

theorem trace_map_snd (s : σ) (is : List ι) : (trace step s is).map Prod.snd = is := by
  induction is generalizing s with
  | nil => rfl
  | cons i is ih => simp [trace, ih]

theorem mem_of_mem_trace {s : σ} {is : List ι} {e : σ × ι} (h : e ∈ trace step s is) :
    e.2 ∈ is := by
  induction is generalizing s with
  | nil => simp [trace] at h
  | cons i is ih =>
      rcases List.mem_cons.mp h with rfl | h
      · exact List.mem_cons_self
      · exact List.mem_cons_of_mem _ (ih h)

theorem trace_split {s : σ} {is : List ι} {pre post : List (σ × ι)} {e : σ × ι}
    (h : trace step s is = pre ++ e :: post) :
    ∃ js ks, is = js ++ e.2 :: ks ∧ pre = trace step s js ∧ e.1 = js.foldl step s ∧
      post = trace step (step e.1 e.2) ks := by
  induction is generalizing s pre with
  | nil => simp [trace] at h
  | cons i is ih =>
      cases pre with
      | nil =>
          simp only [trace, List.nil_append, List.cons.injEq] at h
          obtain ⟨rfl, rfl⟩ := h
          exact ⟨[], is, rfl, rfl, rfl, rfl⟩
      | cons first pre =>
          simp only [trace, List.cons_append, List.cons.injEq] at h
          obtain ⟨rfl, h⟩ := h
          obtain ⟨js, ks, his, hpre, he, hpost⟩ := ih h
          exact ⟨i :: js, ks, by rw [his]; rfl, by rw [hpre]; rfl, he, hpost⟩

/-- An invariant that relates the state to the record. -/
theorem trace_invariant {Inv : σ → List (σ × ι) → Prop}
    (hstep : ∀ s history i, Inv s history → Inv (step s i) (history ++ [(s, i)])) {s : σ}
    {history : List (σ × ι)} (h : Inv s history) (is : List ι) :
    Inv (is.foldl step s) (history ++ trace step s is) := by
  induction is generalizing s history with
  | nil => simpa [trace] using h
  | cons i is ih =>
      have hnext := ih (hstep s history i h)
      rw [List.append_assoc] at hnext
      exact hnext

/-! ## Since the last reset -/

def SinceLast (p q : α → Prop) (history : List α) : Prop :=
  ∃ early x late, history = early ++ x :: late ∧ p x ∧ ∀ y ∈ late, ¬ q y

variable {p q : α → Prop}

theorem not_sinceLast_nil : ¬ SinceLast p q [] := by
  rintro ⟨early, x, late, hsplit, -⟩
  simp at hsplit

theorem sinceLast_concat {history : List α} {x : α} :
    SinceLast p q (history ++ [x]) ↔ p x ∨ SinceLast p q history ∧ ¬ q x := by
  constructor
  · rintro ⟨early, y, late, hsplit, hp, hq⟩
    rcases List.eq_nil_or_concat late with rfl | ⟨late, z, rfl⟩
    · obtain ⟨-, rfl⟩ := List.append_singleton_inj.mp hsplit
      exact .inl hp
    · simp only [List.concat_eq_append] at hsplit hq
      rw [← List.cons_append, ← List.append_assoc] at hsplit
      obtain ⟨rfl, rfl⟩ := List.append_singleton_inj.mp hsplit
      refine .inr ⟨⟨early, y, late, rfl, hp, ?_⟩, hq x (by simp)⟩
      intro w hw
      exact hq w (by simp [hw])
  · rintro (hp | ⟨⟨early, y, late, rfl, hp, hq⟩, hx⟩)
    · exact ⟨history, x, [], rfl, hp, by simp⟩
    · refine ⟨early, y, late ++ [x], by simp, hp, ?_⟩
      intro w hw
      rcases List.mem_append.mp hw with hw | hw
      · exact hq w hw
      · exact List.mem_singleton.mp hw ▸ hx

/-! ## Streaks -/

/-- `n` marked entries, the last one behind `early`, with a gap in front of each but the first. -/
inductive Streak (mark : α → Prop) (gap : List α → α → Prop) : Nat → List α → α → Prop
  | first {early : List α} {x : α} (hx : mark x) : Streak mark gap 1 early x
  | next {n : Nat} {early late : List α} {x y : α} (h : Streak mark gap n early x)
      (hgap : gap late y) (hy : mark y) : Streak mark gap (n + 1) (early ++ x :: late) y

variable {mark : α → Prop} {gap : List α → α → Prop} {n : Nat} {early : List α} {x : α}

theorem Streak.pos (h : Streak mark gap n early x) : 0 < n := by
  cases h with
  | first => exact Nat.one_pos
  | next => exact Nat.succ_pos _

theorem Streak.last (h : Streak mark gap n early x) : mark x := by
  cases h with
  | first hx => exact hx
  | next _ _ hx => exact hx

theorem Streak.previous (h : Streak mark gap (n + 1) early x) (hn : 0 < n) :
    ∃ early' y late, early = early' ++ y :: late ∧ Streak mark gap n early' y ∧ gap late x := by
  cases h with
  | first => exact absurd hn (Nat.lt_irrefl 0)
  | next hbefore hgap => exact ⟨_, _, _, rfl, hbefore, hgap⟩

end History
