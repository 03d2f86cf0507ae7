import BbrChrome.Congestion.WindowedFilter
import BbrChrome.Library.SuffixBest
import Mathlib.Data.List.Induction

/-!
# The extremum law of the windowed filter

The three estimates are ranked, and each is the best of all samples since the one that
recorded it. Every path of `update` keeps this, whatever the refresh rules choose.
-/

namespace BbrChrome

/-- What the filter needs of `compare`: it is a total preorder. -/
structure FilterOrder {α : Type} (compare : α → α → Bool) : Prop where
  total : ∀ a b, compare a b = true ∨ compare b a = true
  trans : ∀ a b c, compare a b = true → compare b c = true → compare a c = true

theorem maxFilter_order {α : Type} [LinearOrder α] : FilterOrder (maxFilter : α → α → Bool) where
  total a b := by simpa [maxFilter] using le_total b a
  trans a b c hab hbc := by
    simp only [maxFilter, decide_eq_true_eq] at hab hbc ⊢
    exact hbc.trans hab

theorem minFilter_order {α : Type} [LinearOrder α] : FilterOrder (minFilter : α → α → Bool) where
  total a b := by simpa [minFilter] using le_total a b
  trans a b c hab hbc := by
    simp only [minFilter, decide_eq_true_eq] at hab hbc ⊢
    exact hab.trans hbc

namespace FilterOrder

variable {α : Type} {compare : α → α → Bool} {a b : α}

theorem refl (h : FilterOrder compare) (a : α) : compare a a = true := by
  rcases h.total a a with haa | haa <;> exact haa

theorem of_not (h : FilterOrder compare) (hab : ¬ compare a b = true) : compare b a = true := by
  rcases h.total a b with hle | hle
  · exact absurd hle hab
  · exact hle

end FilterOrder

namespace WindowedFilter

variable {α : Type} {compare : α → α → Bool} {history : List (FilterSample α)} {now : Nat}
  {filter : WindowedFilter α} {new : FilterSample α}

def run [DecidableEq α] (compare : α → α → Bool) (filter : WindowedFilter α)
    (updates : List (FilterSample α)) : WindowedFilter α :=
  updates.foldl (fun filter new => filter.update compare new.sample new.time) filter

def Beats (compare : α → α → Bool) (a b : FilterSample α) : Prop :=
  compare a.sample b.sample = true

/-- The estimates are in the order of the filter and in the order of time, and each of them
is the best of the samples since its own. -/
structure Ranked (compare : α → α → Bool) (history : List (FilterSample α)) (now : Nat)
    (filter : WindowedFilter α) : Prop where
  best_second : compare filter.best.sample filter.second.sample = true
  second_third : compare filter.second.sample filter.third.sample = true
  bestTime : filter.best.time ≤ filter.second.time
  secondTime : filter.second.time ≤ filter.third.time
  thirdTime : filter.third.time ≤ now
  best : SuffixBest (Beats compare) history filter.best
  second : SuffixBest (Beats compare) history filter.second
  third : SuffixBest (Beats compare) history filter.third

/-- What holds after an update at `now`. -/
structure ExtremumLaw (compare : α → α → Bool) (history : List (FilterSample α)) (now : Nat)
    (filter : WindowedFilter α) : Prop extends filter.Ranked compare history now where
  window : now - filter.best.time ≤ filter.windowLength

@[simp] theorem insert_windowLength :
    (filter.insert compare new).windowLength = filter.windowLength := by
  unfold insert
  split
  · rfl
  · split <;> rfl

@[simp] theorem promote_windowLength : (filter.promote new).windowLength = filter.windowLength := by
  unfold promote
  dsimp only
  split <;> rfl

theorem olderThan_iff {estimate : FilterSample α} {time length : Nat} (h : estimate.time ≤ time) :
    olderThan estimate time length = true ↔ length < time - estimate.time := by
  simp [olderThan, subUint64_of_le h]

/-! ## The paths of an update -/

theorem suffixBest_snoc {estimate : FilterSample α}
    (h : SuffixBest (Beats compare) history estimate)
    (hnew : compare estimate.sample new.sample = true) :
    SuffixBest (Beats compare) (history ++ [new]) estimate :=
  h.snoc hnew

theorem reset_ranked (horder : FilterOrder compare) :
    (filter.reset new.sample new.time).Ranked compare (history ++ [new]) new.time where
  best_second := horder.refl _
  second_third := horder.refl _
  bestTime := le_refl _
  secondTime := le_refl _
  thirdTime := le_refl _
  best := .latest history new
  second := .latest history new
  third := .latest history new

/-- After the insertion every estimate that stays is at least as good as the new sample. -/
theorem Ranked.insert (h : filter.Ranked compare history now) (horder : FilterOrder compare)
    (hworse : ¬ compare new.sample filter.best.sample = true) (hnow : now ≤ new.time) :
    (filter.insert compare new).Ranked compare (history ++ [new]) new.time ∧
      compare (filter.insert compare new).third.sample new.sample = true := by
  have hbest : compare filter.best.sample new.sample = true := horder.of_not hworse
  have hthird := h.thirdTime
  have hsecond := h.secondTime
  unfold WindowedFilter.insert
  by_cases hs : compare new.sample filter.second.sample = true
  · rw [if_pos hs]
    refine ⟨?_, horder.refl _⟩
    exact
      { best_second := hbest
        second_third := horder.refl _
        bestTime := by have hle := h.bestTime; simp only; omega
        secondTime := le_refl _
        thirdTime := le_refl _
        best := suffixBest_snoc h.best hbest
        second := .latest history new
        third := .latest history new }
  · have hsnew : compare filter.second.sample new.sample = true := horder.of_not hs
    rw [if_neg hs]
    by_cases ht : compare new.sample filter.third.sample = true
    · rw [if_pos ht]
      refine ⟨?_, horder.refl _⟩
      exact
        { best_second := h.best_second
          second_third := hsnew
          bestTime := h.bestTime
          secondTime := by simp only; omega
          thirdTime := le_refl _
          best := suffixBest_snoc h.best hbest
          second := suffixBest_snoc h.second hsnew
          third := .latest history new }
    · have htnew : compare filter.third.sample new.sample = true := horder.of_not ht
      rw [if_neg ht]
      refine ⟨?_, htnew⟩
      exact
        { best_second := h.best_second
          second_third := h.second_third
          bestTime := h.bestTime
          secondTime := h.secondTime
          thirdTime := by omega
          best := suffixBest_snoc h.best hbest
          second := suffixBest_snoc h.second hsnew
          third := suffixBest_snoc h.third htnew }

theorem Ranked.promote (h : filter.Ranked compare (history ++ [new]) new.time)
    (horder : FilterOrder compare) (hthird : compare filter.third.sample new.sample = true) :
    (filter.promote new).Ranked compare (history ++ [new]) new.time := by
  unfold WindowedFilter.promote
  dsimp only
  split
  · exact
      { best_second := hthird
        second_third := horder.refl _
        bestTime := h.thirdTime
        secondTime := le_refl _
        thirdTime := le_refl _
        best := h.third
        second := .latest history new
        third := .latest history new }
  · exact
      { best_second := h.second_third
        second_third := hthird
        bestTime := h.secondTime
        secondTime := h.thirdTime
        thirdTime := le_refl _
        best := h.second
        second := h.third
        third := .latest history new }

theorem Ranked.promote_window (h : filter.Ranked compare (history ++ [new]) new.time)
    (hthird : olderThan filter.third new.time filter.windowLength = false) :
    new.time - (filter.promote new).best.time ≤ filter.windowLength := by
  have hsecond : filter.second.time ≤ new.time := h.secondTime.trans h.thirdTime
  rw [Bool.eq_false_iff, Ne, olderThan_iff h.thirdTime] at hthird
  unfold WindowedFilter.promote
  dsimp only
  split
  · show new.time - filter.third.time ≤ filter.windowLength
    omega
  · rename_i hage
    rw [olderThan_iff hsecond] at hage
    show new.time - filter.second.time ≤ filter.windowLength
    omega

theorem Ranked.refreshSecond (h : filter.Ranked compare (history ++ [new]) new.time)
    (horder : FilterOrder compare) (hthird : compare filter.third.sample new.sample = true) :
    ({ filter with second := new, third := new } : WindowedFilter α).Ranked compare
      (history ++ [new]) new.time where
  best_second := horder.trans _ _ _ h.best_second (horder.trans _ _ _ h.second_third hthird)
  second_third := horder.refl _
  bestTime := (h.bestTime.trans h.secondTime).trans h.thirdTime
  secondTime := le_refl _
  thirdTime := le_refl _
  best := h.best
  second := .latest history new
  third := .latest history new

theorem Ranked.refreshThird (h : filter.Ranked compare (history ++ [new]) new.time)
    (horder : FilterOrder compare) (hthird : compare filter.third.sample new.sample = true) :
    ({ filter with third := new } : WindowedFilter α).Ranked compare (history ++ [new])
      new.time where
  best_second := h.best_second
  second_third := horder.trans _ _ _ h.second_third hthird
  bestTime := h.bestTime
  secondTime := h.secondTime.trans h.thirdTime
  thirdTime := le_refl _
  best := h.best
  second := h.second
  third := .latest history new

/-! ## Whole runs -/

section Runs

variable [DecidableEq α]

theorem update_windowLength (sample : α) (time : Nat) :
    (filter.update compare sample time).windowLength = filter.windowLength := by
  unfold update
  split
  · rfl
  · dsimp only
    split
    · rw [promote_windowLength, insert_windowLength]
    · split
      · exact insert_windowLength
      · split <;> exact insert_windowLength

/-- A filter that holds no sample yet takes the new one for all estimates. -/
theorem update_of_zero (horder : FilterOrder compare)
    (hzero : filter.best.sample = filter.zeroValue) :
    (filter.update compare new.sample new.time).ExtremumLaw compare [new] new.time := by
  unfold update
  rw [if_pos (.inl hzero)]
  refine ⟨?_, ?_⟩
  · have hranked : (filter.reset new.sample new.time).Ranked compare ([] ++ [new]) new.time :=
      reset_ranked horder
    exact hranked
  · show new.time - new.time ≤ filter.windowLength
    omega

theorem ExtremumLaw.update (h : filter.ExtremumLaw compare history now)
    (horder : FilterOrder compare) (hnow : now ≤ new.time) :
    (filter.update compare new.sample new.time).ExtremumLaw compare (history ++ [new])
      new.time := by
  have hreset : (filter.reset new.sample new.time).ExtremumLaw compare (history ++ [new])
      new.time :=
    ⟨reset_ranked horder, by show new.time - new.time ≤ filter.windowLength; omega⟩
  unfold WindowedFilter.update
  split
  · exact hreset
  · rename_i hstay
    rw [not_or, not_or] at hstay
    rcases hstay with ⟨_, hworse, hrecent⟩
    obtain ⟨hranked, hthird⟩ := h.toRanked.insert horder hworse hnow
    have hwindow : (filter.insert compare new).windowLength = filter.windowLength :=
      insert_windowLength
    -- A third estimate that was replaced is new, one that was kept is inside the window.
    have hinside : olderThan (filter.insert compare new).third new.time
        (filter.insert compare new).windowLength = false := by
      rw [hwindow, Bool.eq_false_iff, Ne, olderThan_iff hranked.thirdTime]
      have hold : filter.third.time ≤ new.time := h.thirdTime.trans hnow
      rw [olderThan_iff hold] at hrecent
      have hcases : (filter.insert compare new).third = new ∨
          (filter.insert compare new).third = filter.third := by
        unfold WindowedFilter.insert
        split
        · exact .inl rfl
        · split
          · exact .inl rfl
          · exact .inr rfl
      rcases hcases with heq | heq <;> rw [heq] <;> omega
    dsimp only
    split
    · exact ⟨hranked.promote horder hthird, by
        rw [promote_windowLength]; exact hranked.promote_window hinside⟩
    · rename_i hage
      have hbest : new.time - (filter.insert compare new).best.time ≤
          (filter.insert compare new).windowLength := by
        have hle : (filter.insert compare new).best.time ≤ new.time :=
          (hranked.bestTime.trans hranked.secondTime).trans hranked.thirdTime
        rw [hwindow]
        rw [olderThan_iff hle, hwindow] at hage
        omega
      split
      · exact ⟨hranked.refreshSecond horder hthird, hbest⟩
      · split
        · exact ⟨hranked.refreshThird horder hthird, hbest⟩
        · exact ⟨hranked, hbest⟩

/-- The law holds after every update of a run, from its first update on. -/
theorem run_extremumLaw (horder : FilterOrder compare) (pre : List (FilterSample α))
    (hzero : filter.best.sample = filter.zeroValue)
    (htimes : ((pre ++ [new]).map (·.time)).Pairwise (· ≤ ·)) :
    (filter.run compare (pre ++ [new])).ExtremumLaw compare (pre ++ [new]) new.time := by
  induction pre using List.reverseRecOn generalizing new with
  | nil => exact update_of_zero horder hzero
  | append_singleton pre old ih =>
      have hprefix : ((pre ++ [old]).map (·.time)).Pairwise (· ≤ ·) := by
        rw [List.map_append, List.map_append, List.pairwise_append] at htimes
        rw [List.map_append]
        exact htimes.1
      have hle : old.time ≤ new.time := by
        rw [List.map_append, List.map_append, List.pairwise_append] at htimes
        exact htimes.2.2 old.time (by simp) new.time (by simp)
      have hlaw := (ih hprefix).update horder hle
      have hrun : filter.run compare ((pre ++ [old]) ++ [new]) =
          (filter.run compare (pre ++ [old])).update compare new.sample new.time := by
        simp [run]
      rw [hrun]
      exact hlaw

theorem run_windowLength (updates : List (FilterSample α)) :
    (filter.run compare updates).windowLength = filter.windowLength := by
  induction updates generalizing filter with
  | nil => rfl
  | cons new updates ih =>
      have hstep : (filter.update compare new.sample new.time).windowLength =
          filter.windowLength := update_windowLength new.sample new.time
      rw [← hstep]
      exact ih

end Runs

/-- After every update the estimates are ranked, the best lies in the window, and each
estimate is the best of all samples since the one that recorded it. -/
theorem windowed_extremum [LinearOrder α] {compare : α → α → Bool}
    (hcompare : compare = maxFilter ∨ compare = minFilter) (windowLength : Nat) (zeroValue : α)
    (zeroTime : Nat) (pre : List (FilterSample α)) (new : FilterSample α)
    (htimes : ((pre ++ [new]).map (·.time)).Pairwise (· ≤ ·)) :
    let updates := pre ++ [new]
    let filter := (create windowLength zeroValue zeroTime).run compare updates
    (compare filter.best.sample filter.second.sample = true ∧
        compare filter.second.sample filter.third.sample = true ∧
        filter.best.time ≤ filter.second.time ∧ filter.second.time ≤ filter.third.time) ∧
      (∃ time, (⟨filter.getBest, time⟩ : FilterSample α) ∈ updates ∧ time ≤ new.time ∧
        new.time - time ≤ windowLength) ∧
      SuffixBest (Beats compare) updates filter.best ∧
      SuffixBest (Beats compare) updates filter.second ∧
      SuffixBest (Beats compare) updates filter.third := by
  have horder : FilterOrder compare := by
    rcases hcompare with rfl | rfl
    · exact maxFilter_order
    · exact minFilter_order
  intro updates filter
  have hlaw : filter.ExtremumLaw compare updates new.time := run_extremumLaw horder pre rfl htimes
  have hlength : filter.windowLength = windowLength := run_windowLength updates
  have hwindow := hlaw.window
  have htime : filter.best.time ≤ new.time :=
    (hlaw.bestTime.trans hlaw.secondTime).trans hlaw.thirdTime
  rw [hlength] at hwindow
  exact ⟨⟨hlaw.best_second, hlaw.second_third, hlaw.bestTime, hlaw.secondTime⟩,
    ⟨filter.best.time, hlaw.best.mem, htime, hwindow⟩, hlaw.best, hlaw.second, hlaw.third⟩

/-- The best leaves the window at time 9 and the second estimate moves up. -/
theorem windowed_extremum_of_expiry :
    let updates : List (FilterSample Nat) := [⟨22, 1⟩, ⟨9, 5⟩, ⟨3, 9⟩]
    let filter := (create 4 0 0).run maxFilter updates
    filter.getBest = 9 ∧ SuffixBest (Beats maxFilter) updates filter.best := by
  have hmax : (maxFilter : Nat → Nat → Bool) = maxFilter ∨
      (maxFilter : Nat → Nat → Bool) = minFilter := .inl rfl
  have hlaw := windowed_extremum hmax 4 0 0 [⟨22, 1⟩, ⟨9, 5⟩] ⟨3, 9⟩ (by decide)
  exact ⟨by decide, hlaw.2.2.1⟩

end WindowedFilter

end BbrChrome
