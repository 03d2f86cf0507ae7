import Mathlib.Data.List.Basic
import Mathlib.Order.BoundedOrder.Lattice
import Mathlib.Order.MinMax

/-!
# The maximum over two intervals

`Maxima` holds the maximum of the running interval and the one of the interval before. An interval
ends where the filter is advanced, unless it has no sample above the bottom. What the filter
answers covers all samples behind the second-last advance, and it is a sample itself behind which
no second interval has ended.
-/

namespace IntervalMaximum

variable {α : Type*}

inductive Input (α : Type*)
  | sample (value : α)
  | advance
deriving DecidableEq, Repr

def Input.isAdvance : Input α → Bool
  | .sample _ => false
  | .advance => true

structure Maxima (α : Type*) where
  previous : α
  current : α

variable [LinearOrder α] [OrderBot α]

namespace Maxima

def step (m : Maxima α) : Input α → Maxima α
  | .sample x => { m with current := max x m.current }
  | .advance => if m.current = ⊥ then m else ⟨m.current, ⊥⟩

def get (m : Maxima α) : α := max m.previous m.current

end Maxima

/-- Behind an advance a whole interval has ended. -/
def Outdated (late : List (Input α)) : Prop :=
  ∃ x : α, x ≠ ⊥ ∧ [Input.advance, .sample x, .advance].Sublist late

/-- The two maxima are those of the last two intervals of the record. -/
structure Spans (m : Maxima α) (inputs : List (Input α)) : Prop where
  current_le : ∀ early x late, inputs = early ++ .sample x :: late → Input.advance ∉ late →
    x ≤ m.current
  current_mem : m.current ≠ ⊥ → ∃ early late, inputs = early ++ .sample m.current :: late ∧
    Input.advance ∉ late
  le_get : ∀ early x late, inputs = early ++ .sample x :: late → late.countP Input.isAdvance ≤ 1 →
    x ≤ m.get
  previous_mem : m.previous ≠ ⊥ → ∃ early late, inputs = early ++ .sample m.previous :: late ∧
    ¬ Outdated late

variable {m : Maxima α} {inputs early late : List (Input α)} {x y : α}

/-! ## Records that grow -/

omit [LinearOrder α] [OrderBot α] in
theorem split_concat {i : Input α} (h : inputs ++ [i] = early ++ .sample x :: late) :
    late = [] ∧ i = .sample x ∨
      ∃ rest, late = rest ++ [i] ∧ inputs = early ++ .sample x :: rest := by
  rcases List.eq_nil_or_concat late with rfl | ⟨rest, j, rfl⟩
  · exact .inl ⟨rfl, (List.append_singleton_inj.mp h).2⟩
  · simp only [List.concat_eq_append] at h ⊢
    rw [← List.cons_append, ← List.append_assoc] at h
    obtain ⟨hinputs, rfl⟩ := List.append_singleton_inj.mp h
    exact .inr ⟨rest, rfl, hinputs⟩

theorem sublist_concat {β : Type*} {l : List β} (pre : List β) {x z : β}
    (h : (pre ++ [x]).Sublist (l ++ [z])) : (pre ++ [x]).Sublist l ∨ x = z ∧ pre.Sublist l := by
  have hreverse := List.reverse_sublist.mpr h
  simp only [List.reverse_append, List.reverse_singleton, List.singleton_append] at hreverse
  rcases List.sublist_cons_iff.mp hreverse with hbefore | ⟨rest, hsame, hrest⟩
  · rw [← List.singleton_append, ← List.reverse_singleton, ← List.reverse_append] at hbefore
    exact .inl (List.reverse_sublist.mp hbefore)
  · obtain ⟨hx, rfl⟩ := List.cons.inj hsame
    exact .inr ⟨hx, List.reverse_sublist.mp hrest⟩

theorem outdated_concat_sample (h : Outdated (late ++ [Input.sample y])) : Outdated late := by
  obtain ⟨x, hx, hsublist⟩ := h
  rcases sublist_concat [Input.advance, .sample x] hsublist with hbefore | ⟨hlast, _⟩
  · exact ⟨x, hx, hbefore⟩
  · cases hlast

theorem outdated_concat_advance (h : Outdated (late ++ [Input.advance])) :
    Outdated late ∨ ∃ x : α, x ≠ ⊥ ∧ [Input.advance, .sample x].Sublist late := by
  obtain ⟨x, hx, hsublist⟩ := h
  rcases sublist_concat [Input.advance, .sample x] hsublist with hbefore | ⟨_, hbefore⟩
  · exact .inl ⟨x, hx, hbefore⟩
  · exact .inr ⟨x, hx, hbefore⟩

/-! ## One step -/

theorem Spans.sample (h : Spans m inputs) (y : α) :
    Spans (m.step (.sample y)) (inputs ++ [.sample y]) := by
  have hlarger : m.get ≤ (m.step (.sample y)).get :=
    max_le (le_max_left _ _) ((le_max_right _ _).trans (le_max_right _ _))
  refine ⟨?_, ?_, ?_, ?_⟩
  · intro early x late hsplit hnone
    rcases split_concat hsplit with ⟨_, hsame⟩ | ⟨rest, rfl, hbefore⟩
    · cases hsame
      exact le_max_left _ _
    · have hrest : Input.advance ∉ rest := fun hmem => hnone (List.mem_append_left _ hmem)
      exact (h.current_le early x rest hbefore hrest).trans (le_max_right _ _)
  · intro hpos
    change max y m.current ≠ ⊥ at hpos
    change ∃ early late, inputs ++ [.sample y] = early ++ .sample (max y m.current) :: late ∧ _
    rcases max_choice y m.current with hmax | hmax
    · rw [hmax]
      exact ⟨inputs, [], rfl, List.not_mem_nil⟩
    · rw [hmax] at hpos ⊢
      obtain ⟨early, late, rfl, hnone⟩ := h.current_mem hpos
      exact ⟨early, late ++ [.sample y], by simp, by simp [hnone]⟩
  · intro early x late hsplit hcount
    rcases split_concat hsplit with ⟨_, hsame⟩ | ⟨rest, rfl, hbefore⟩
    · cases hsame
      exact (le_max_left _ _).trans (le_max_right _ _)
    · have hrest : rest.countP Input.isAdvance ≤ 1 := by
        rw [List.countP_append] at hcount
        omega
      exact (h.le_get early x rest hbefore hrest).trans hlarger
  · intro hpos
    obtain ⟨early, late, rfl, hfresh⟩ := h.previous_mem hpos
    refine ⟨early, late ++ [.sample y], by simp [Maxima.step], fun houtdated => ?_⟩
    exact hfresh (outdated_concat_sample houtdated)

/-- An advance ends the interval of the samples behind the last one. -/
theorem Spans.le_current_of_advance (h : Spans m inputs)
    (hsplit : inputs ++ [Input.advance] = early ++ .sample x :: late)
    (hcount : late.countP Input.isAdvance ≤ 1) : x ≤ m.current := by
  rcases split_concat hsplit with ⟨_, hsame⟩ | ⟨rest, rfl, hbefore⟩
  · cases hsame
  · have hrest : Input.advance ∉ rest := by
      have hlast : [(Input.advance : Input α)].countP Input.isAdvance = 1 := rfl
      rw [List.countP_append, hlast] at hcount
      have hnone : rest.countP Input.isAdvance = 0 := by omega
      exact fun hmem => List.countP_eq_zero.mp hnone Input.advance hmem rfl
    exact h.current_le early x rest hbefore hrest

theorem Spans.advance (h : Spans m inputs) :
    Spans (m.step .advance) (inputs ++ [.advance]) := by
  have hlast : ∀ early x late, inputs ++ [Input.advance] = early ++ .sample x :: late →
      Input.advance ∈ late := by
    intro early x late hsplit
    rcases split_concat hsplit with ⟨_, hsame⟩ | ⟨rest, rfl, _⟩
    · cases hsame
    · simp
  by_cases hempty : m.current = ⊥
  · have hstep : m.step .advance = m := if_pos hempty
    rw [hstep]
    refine ⟨?_, fun hpos => absurd hempty hpos, ?_, ?_⟩
    · exact fun early x late hsplit hnone => absurd (hlast early x late hsplit) hnone
    · exact fun early x late hsplit hcount =>
        (h.le_current_of_advance hsplit hcount).trans (le_max_right _ _)
    · intro hpos
      obtain ⟨early, late, rfl, hfresh⟩ := h.previous_mem hpos
      refine ⟨early, late ++ [.advance], by simp, fun houtdated => ?_⟩
      rcases outdated_concat_advance houtdated with houtdated | ⟨x, hx, hsublist⟩
      · exact hfresh houtdated
      · -- The sample behind the advance is in the running interval, which has none.
        obtain ⟨before, after, rfl, hmem, hsample⟩ := List.cons_sublist_iff.mp hsublist
        obtain ⟨between, last, rfl⟩ := List.append_of_mem (List.singleton_sublist.mp hsample)
        have hnone : Input.advance ∉ last := by
          intro hlater
          refine hfresh ⟨x, hx, List.cons_sublist_iff.mpr ⟨before, _, rfl, hmem, ?_⟩⟩
          have htail : [Input.sample x, .advance].Sublist (.sample x :: last) :=
            (List.singleton_sublist.mpr hlater).cons_cons _
          exact htail.trans (List.sublist_append_right _ _)
        have hle := h.current_le (early ++ .sample m.previous :: (before ++ between)) x last
          (by simp) hnone
        rw [hempty] at hle
        exact hx (le_bot_iff.mp hle)
  · have hstep : m.step .advance = ⟨m.current, ⊥⟩ := if_neg hempty
    rw [hstep]
    refine ⟨?_, fun hpos => absurd rfl hpos, ?_, ?_⟩
    · exact fun early x late hsplit hnone => absurd (hlast early x late hsplit) hnone
    · exact fun early x late hsplit hcount =>
        (h.le_current_of_advance hsplit hcount).trans (le_max_left _ _)
    · intro _
      obtain ⟨early, late, rfl, hnone⟩ := h.current_mem hempty
      refine ⟨early, late ++ [.advance], by simp, fun houtdated => ?_⟩
      rcases outdated_concat_advance houtdated with ⟨x, _, hsublist⟩ | ⟨x, _, hsublist⟩
      · exact hnone (hsublist.subset List.mem_cons_self)
      · exact hnone (hsublist.subset List.mem_cons_self)

/-! ## Runs -/

theorem Spans.foldl (h : Spans m inputs) (later : List (Input α)) :
    Spans (later.foldl Maxima.step m) (inputs ++ later) := by
  induction later generalizing m inputs with
  | nil => simpa using h
  | cons i later ih =>
      have hnext : Spans (m.step i) (inputs ++ [i]) := by
        cases i with
        | sample y => exact h.sample y
        | advance => exact h.advance
      have hlast := ih hnext
      rw [List.append_assoc] at hlast
      exact hlast

theorem spans_empty : Spans (⟨⊥, ⊥⟩ : Maxima α) [] where
  current_le := by simp
  current_mem := fun hpos => absurd rfl hpos
  le_get := by simp
  previous_mem := fun hpos => absurd rfl hpos

/-- What the filter answers is a sample, if anything, that is not outdated. -/
theorem Spans.get_mem (h : Spans m inputs) (hpos : m.get ≠ ⊥) :
    ∃ early late, inputs = early ++ .sample m.get :: late ∧ ¬ Outdated late := by
  rcases max_choice m.previous m.current with hmax | hmax
  · have hget : m.get = m.previous := hmax
    rw [hget] at hpos ⊢
    exact h.previous_mem hpos
  · have hget : m.get = m.current := hmax
    rw [hget] at hpos ⊢
    obtain ⟨early, late, hsplit, hnone⟩ := h.current_mem hpos
    exact ⟨early, late, hsplit, fun ⟨_, _, hsublist⟩ =>
      hnone (hsublist.subset List.mem_cons_self)⟩

end IntervalMaximum
