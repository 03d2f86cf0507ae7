import BbrChrome.Congestion.RttStats
import BbrChrome.Library.History
import Mathlib.Order.Bounds.Basic

/-!
# Bounds of the RTT estimator

`UpdateRtt` with its two products taken exactly before they are rounded, and what its results
are bounded by after any sequence of samples. Below `2 ^ 50` microseconds the products of the
code are exact, so the two agree.
-/

namespace BbrChrome

open Rounding

structure RttUpdate where
  sendDelta : Int
  ackDelay : Int
  now : Int
deriving DecidableEq, Repr

namespace RttUpdate

/-- `UpdateRtt` returns at once unless this holds. -/
def Accepted (u : RttUpdate) : Prop := u.sendDelta ≠ Time.infinite ∧ 0 < u.sendDelta

instance (u : RttUpdate) : Decidable u.Accepted := inferInstanceAs (Decidable (_ ∧ _))

end RttUpdate

namespace RttStats

/-- `nextSmoothedRtt` with exact products, each rounded half away from zero. -/
def exactSmoothedRtt (smoothedRtt rttSample : Int) : Int :=
  llround (smoothedRtt * kOneMinusAlpha) + llround (rttSample * kAlpha)

/-- `updateRtt` with the smoothed value from exact products. -/
def updateRttExact (stats : RttStats) (u : RttUpdate) : RttStats :=
  let updated := stats.updateRtt u.sendDelta u.ackDelay u.now
  if u.Accepted ∧ stats.smoothedRtt ≠ 0 then
    { updated with smoothedRtt := exactSmoothedRtt stats.smoothedRtt updated.latestRtt }
  else updated

def runUpdates (stats : RttStats) (updates : List RttUpdate) : RttStats :=
  updates.foldl updateRttExact stats

def acceptedDeltas (updates : List RttUpdate) : List Int :=
  (updates.filter (·.Accepted)).map RttUpdate.sendDelta

/-- The sample that an accepted update takes, in the state that it meets. -/
def sample? (entry : RttStats × RttUpdate) : Option Int :=
  if entry.2.Accepted then some (entry.1.updateRttExact entry.2).latestRtt else none

def rttSamples (stats : RttStats) (updates : List RttUpdate) : List Int :=
  (History.trace updateRttExact stats updates).filterMap sample?

/-- The results after a run, against the send deltas and the samples that were accepted. -/
structure EstimatorBounds (stats : RttStats) (deltas samples : List Int) : Prop where
  minRtt : IsLeast {d | d ∈ deltas} stats.minRtt
  minRtt_le_latestRtt : stats.minRtt ≤ stats.latestRtt
  minRtt_le_smoothedRtt : stats.minRtt ≤ stats.smoothedRtt
  smoothedRtt_le : ∃ largest, IsGreatest {r | r ∈ samples} largest ∧
    stats.smoothedRtt ≤ largest + 1

variable {stats : RttStats} {u : RttUpdate}

/-! ## One update -/

theorem updateRtt_of_not_accepted (h : ¬ u.Accepted) :
    stats.updateRtt u.sendDelta u.ackDelay u.now = stats := by
  unfold updateRtt
  rw [if_pos]
  unfold RttUpdate.Accepted at h
  omega

theorem updateRttExact_of_not_accepted (h : ¬ u.Accepted) : stats.updateRttExact u = stats := by
  unfold updateRttExact
  rw [updateRtt_of_not_accepted h]
  simp [h]

def nextMinRtt (stats : RttStats) (u : RttUpdate) : Int :=
  if stats.minRtt = 0 ∨ u.sendDelta < stats.minRtt then u.sendDelta else stats.minRtt

theorem updateRttExact_of_accepted (h : u.Accepted) :
    (stats.updateRttExact u).minRtt = stats.nextMinRtt u ∧
      (stats.updateRttExact u).latestRtt =
        correctedSample (stats.nextMinRtt u) u.sendDelta u.ackDelay ∧
      (stats.updateRttExact u).smoothedRtt =
        if stats.smoothedRtt = 0 then (stats.updateRttExact u).latestRtt
        else exactSmoothedRtt stats.smoothedRtt (stats.updateRttExact u).latestRtt := by
  have haccepted : ¬ (u.sendDelta = Time.infinite ∨ u.sendDelta ≤ 0) := by
    unfold RttUpdate.Accepted at h
    omega
  unfold updateRttExact updateRtt
  dsimp only
  rw [if_neg haccepted]
  by_cases hfirst : stats.smoothedRtt = 0
  · simp [hfirst, nextMinRtt]
  · simp [hfirst, h, nextMinRtt]

/-- A nonnegative ack delay keeps the sample between the minimum and the send delta. -/
theorem correctedSample_bounds {minRtt sendDelta ackDelay : Int} (hdelay : 0 ≤ ackDelay)
    (hmin : minRtt ≤ sendDelta) :
    minRtt ≤ correctedSample minRtt sendDelta ackDelay ∧
      correctedSample minRtt sendDelta ackDelay ≤ sendDelta := by
  unfold correctedSample
  split <;> omega

theorem exactSmoothedRtt_eq {smoothedRtt rttSample : Int} (hsmoothed : 0 ≤ smoothedRtt)
    (hsample : 0 ≤ rttSample) :
    exactSmoothedRtt smoothedRtt rttSample = (7 * smoothedRtt + 4) / 8 + (rttSample + 4) / 8 := by
  obtain ⟨s, rfl⟩ := Int.eq_ofNat_of_zero_le hsmoothed
  obtain ⟨r, rfl⟩ := Int.eq_ofNat_of_zero_le hsample
  have hseven : ((s : Int) : Rat) * kOneMinusAlpha = ((7 * s : Nat) : Rat) / (8 : Nat) := by
    unfold kOneMinusAlpha kAlpha
    push_cast
    ring
  have hone : ((r : Int) : Rat) * kAlpha = (r : Rat) / (8 : Nat) := by
    unfold kAlpha
    push_cast
    ring
  unfold exactSmoothedRtt
  rw [hseven, hone, llround_div _ (by decide), llround_div _ (by decide)]
  omega

/-- Smoothing stays above a common lower bound: the two halves that are rounded up make good
for what the other one loses. -/
theorem le_exactSmoothedRtt {low smoothedRtt rttSample : Int} (hlow : 0 ≤ low)
    (hsmoothed : low ≤ smoothedRtt) (hsample : low ≤ rttSample) :
    low ≤ exactSmoothedRtt smoothedRtt rttSample := by
  rw [exactSmoothedRtt_eq (by omega) (by omega)]
  omega

/-- One microsecond above the samples is a fixed point of the drift. -/
theorem exactSmoothedRtt_le {high smoothedRtt rttSample : Int} (hsmoothed : 0 ≤ smoothedRtt)
    (hsample : 0 ≤ rttSample) (hsmoothedHigh : smoothedRtt ≤ high + 1)
    (hsampleHigh : rttSample ≤ high) : exactSmoothedRtt smoothedRtt rttSample ≤ high + 1 := by
  rw [exactSmoothedRtt_eq hsmoothed hsample]
  omega

/-! ## Runs -/

theorem setOf_mem_concat (xs : List Int) (x : Int) :
    {y | y ∈ xs ++ [x]} = insert x {y | y ∈ xs} := by
  ext y
  rw [Set.mem_insert_iff]
  simp [or_comm]

/-- The invariant: before the first accepted update the fields are unset. -/
structure EstimatorInvariant (stats : RttStats) (deltas samples : List Int) : Prop where
  unset : deltas = [] → stats.minRtt = 0 ∧ stats.smoothedRtt = 0 ∧ samples = []
  positive : ∀ d ∈ deltas, 0 < d
  bounds : deltas ≠ [] → EstimatorBounds stats deltas samples

theorem EstimatorInvariant.accept {deltas samples : List Int}
    (h : EstimatorInvariant stats deltas samples) (hdelay : 0 ≤ u.ackDelay)
    (haccepted : u.Accepted) :
    EstimatorInvariant (stats.updateRttExact u) (deltas ++ [u.sendDelta])
      (samples ++ [(stats.updateRttExact u).latestRtt]) := by
  obtain ⟨hmin, hlatest, hsmoothed⟩ := stats.updateRttExact_of_accepted haccepted
  have hpositive : ∀ d ∈ deltas ++ [u.sendDelta], 0 < d := by
    intro d hmem
    rcases List.mem_append.mp hmem with hmem | hmem
    · exact h.positive d hmem
    · exact List.mem_singleton.mp hmem ▸ haccepted.2
  refine ⟨fun hnil => absurd hnil (by simp), hpositive, fun _ => ?_⟩
  by_cases hfirst : deltas = []
  · -- The first accepted update fills all fields from its own arguments.
    obtain ⟨hzero, hunset, hnone⟩ := h.unset hfirst
    have hminFirst : stats.nextMinRtt u = u.sendDelta := by simp [nextMinRtt, hzero]
    have hbounds := correctedSample_bounds hdelay (le_refl u.sendDelta)
    rw [hminFirst] at hmin hlatest
    rw [if_pos hunset] at hsmoothed
    rw [← hlatest] at hbounds
    refine ⟨?_, by omega, by omega, (stats.updateRttExact u).latestRtt, ?_, by omega⟩
    · rw [hmin, hfirst]
      simp [IsLeast, lowerBounds]
    · rw [hnone]
      simp [IsGreatest, upperBounds]
  · have hprior := h.bounds hfirst
    have hminPositive : 0 < stats.minRtt := h.positive _ hprior.minRtt.1
    have hminNext : stats.nextMinRtt u = min stats.minRtt u.sendDelta := by
      unfold nextMinRtt
      split <;> omega
    rw [hminNext] at hmin hlatest
    have hnextPositive : 0 < min stats.minRtt u.sendDelta := lt_min hminPositive haccepted.2
    have hsample := correctedSample_bounds hdelay (min_le_right stats.minRtt u.sendDelta)
    rw [← hlatest] at hsample
    have hset : stats.smoothedRtt ≠ 0 := by
      have := hprior.minRtt_le_smoothedRtt
      omega
    rw [if_neg hset] at hsmoothed
    obtain ⟨largest, hgreatest, hle⟩ := hprior.smoothedRtt_le
    have hlow := hprior.minRtt_le_smoothedRtt
    refine ⟨?_, by omega, ?_, max largest (stats.updateRttExact u).latestRtt, ?_, ?_⟩
    · rw [hmin, setOf_mem_concat, min_comm]
      exact hprior.minRtt.insert u.sendDelta
    · rw [hmin, hsmoothed]
      exact le_exactSmoothedRtt hnextPositive.le (by omega) hsample.1
    · rw [setOf_mem_concat, max_comm]
      exact hgreatest.insert (stats.updateRttExact u).latestRtt
    · rw [hsmoothed]
      exact exactSmoothedRtt_le (by omega) (by omega)
        (hle.trans (by have := le_max_left largest (stats.updateRttExact u).latestRtt; omega))
        (le_max_right _ _)

theorem runUpdates_invariant (hmin : stats.minRtt = 0) (hsmoothed : stats.smoothedRtt = 0)
    {updates : List RttUpdate} (hdelays : ∀ u ∈ updates, 0 ≤ u.ackDelay) :
    EstimatorInvariant (stats.runUpdates updates) (acceptedDeltas updates)
      (stats.rttSamples updates) := by
  induction updates using List.reverseRecOn with
  | nil =>
      exact ⟨fun _ => ⟨hmin, hsmoothed, rfl⟩, by simp [acceptedDeltas],
        fun hne => absurd rfl hne⟩
  | append_singleton updates u ih =>
      have hprior := ih fun u' hmem => hdelays u' (by simp [hmem])
      have hdelay := hdelays u (by simp)
      have hrun : stats.runUpdates (updates ++ [u]) =
          (stats.runUpdates updates).updateRttExact u := by
        simp [runUpdates]
      have hsamples : stats.rttSamples (updates ++ [u]) =
          stats.rttSamples updates ++ (sample? (stats.runUpdates updates, u)).toList := by
        unfold rttSamples
        rw [History.trace_append, List.filterMap_append]
        simp only [History.trace, List.filterMap_cons, List.filterMap_nil, runUpdates]
        cases sample? (List.foldl updateRttExact stats updates, u) <;> rfl
      rw [hrun, hsamples]
      by_cases haccepted : u.Accepted
      · have hnext := hprior.accept hdelay haccepted
        simpa [acceptedDeltas, sample?, haccepted] using hnext
      · rw [updateRttExact_of_not_accepted haccepted]
        simpa [acceptedDeltas, sample?, haccepted] using hprior

/-! ## The products of the code -/

/-- A product by a number of eighths is exact in a `double` up to `2 ^ 50`. -/
theorem scale_eighths {delta : Int} (hdelta : 0 ≤ delta) (hbound : delta ≤ 2 ^ 50) (eighths : Nat)
    (heighths : eighths ≤ 7) :
    Time.scale delta ((eighths : Rat) / 8) = llround (delta * ((eighths : Rat) / 8)) := by
  obtain ⟨d, rfl⟩ := Int.eq_ofNat_of_zero_le hdelta
  have hd : d ≤ 2 ^ 50 := by exact_mod_cast hbound
  have hproduct : d * eighths < 2 ^ 53 := by
    calc d * eighths ≤ d * 7 := Nat.mul_le_mul_left _ heighths
      _ < 2 ^ 53 := by omega
  have hquotient : ((d : Int) : Rat) * ((eighths : Rat) / 8) =
      ((d * eighths : Nat) : Rat) / 2 ^ 3 := by
    push_cast
    ring
  unfold Time.scale float64
  rw [Int.cast_natCast, roundSig_natCast_of_lt (by omega), ← Int.cast_natCast, hquotient,
    roundSig_div_two_pow hproduct]

theorem nextSmoothedRtt_eq_exact {smoothedRtt rttSample : Int} (hsmoothed : 0 ≤ smoothedRtt)
    (hsmoothedBound : smoothedRtt ≤ 2 ^ 50) (hsample : 0 ≤ rttSample)
    (hsampleBound : rttSample ≤ 2 ^ 50) :
    nextSmoothedRtt smoothedRtt rttSample = exactSmoothedRtt smoothedRtt rttSample := by
  have hseven : kOneMinusAlpha = ((7 : Nat) : Rat) / 8 := by norm_num [kOneMinusAlpha, kAlpha]
  have hone : kAlpha = ((1 : Nat) : Rat) / 8 := by norm_num [kAlpha]
  unfold nextSmoothedRtt exactSmoothedRtt
  rw [hseven, hone, scale_eighths hsmoothed hsmoothedBound 7 (by decide),
    scale_eighths hsample hsampleBound 1 (by decide)]

/-- The fields are within the range in which the products are exact. -/
structure WithinDouble (stats : RttStats) : Prop where
  minRtt : 0 ≤ stats.minRtt
  smoothedRtt : 0 ≤ stats.smoothedRtt
  smoothedRtt_le : stats.smoothedRtt ≤ 2 ^ 50

theorem WithinDouble.sample (h : stats.WithinDouble) (hdelay : 0 ≤ u.ackDelay)
    (haccepted : u.Accepted) :
    0 ≤ stats.nextMinRtt u ∧
      0 ≤ correctedSample (stats.nextMinRtt u) u.sendDelta u.ackDelay ∧
      correctedSample (stats.nextMinRtt u) u.sendDelta u.ackDelay ≤ u.sendDelta := by
  have hpositive := haccepted.2
  have hmin := h.minRtt
  have hnext : 0 ≤ stats.nextMinRtt u ∧ stats.nextMinRtt u ≤ u.sendDelta := by
    unfold nextMinRtt
    split <;> omega
  have hsample := correctedSample_bounds hdelay hnext.2
  exact ⟨hnext.1, hnext.1.trans hsample.1, hsample.2⟩

theorem WithinDouble.updateRttExact (h : stats.WithinDouble) (hdelay : 0 ≤ u.ackDelay)
    (hbound : u.sendDelta < 2 ^ 50) : (stats.updateRttExact u).WithinDouble := by
  by_cases haccepted : u.Accepted
  · obtain ⟨hmin, hlatest, hsmoothed⟩ := stats.updateRttExact_of_accepted haccepted
    obtain ⟨hnext, hsample, hsampleLe⟩ := h.sample hdelay haccepted
    rw [hlatest] at hsmoothed
    refine ⟨hmin ▸ hnext, ?_, ?_⟩
    · rw [hsmoothed]
      split
      · exact hsample
      · exact le_exactSmoothedRtt (le_refl 0) h.smoothedRtt hsample
    · rw [hsmoothed]
      split
      · omega
      · have hold : stats.smoothedRtt ≤ (2 ^ 50 - 1) + 1 := by
          have := h.smoothedRtt_le
          omega
        exact exactSmoothedRtt_le h.smoothedRtt hsample hold (by omega)
  · rw [updateRttExact_of_not_accepted haccepted]
    exact h

/-- As long as the products are exact, the code does what the exact update does. -/
theorem WithinDouble.updateRtt_eq (h : stats.WithinDouble) (hdelay : 0 ≤ u.ackDelay)
    (hbound : u.sendDelta < 2 ^ 50) :
    stats.updateRtt u.sendDelta u.ackDelay u.now = stats.updateRttExact u := by
  by_cases haccepted : u.Accepted
  · by_cases hfirst : stats.smoothedRtt = 0
    · simp [RttStats.updateRttExact, hfirst]
    · obtain ⟨-, hsample, hsampleLe⟩ := h.sample hdelay haccepted
      have hentered : ¬ (u.sendDelta = Time.infinite ∨ u.sendDelta ≤ 0) := by
        have := haccepted.1
        have := haccepted.2
        omega
      have hsampleBound : correctedSample (stats.nextMinRtt u) u.sendDelta u.ackDelay ≤ 2 ^ 50 := by
        omega
      have hsmooth : (stats.updateRtt u.sendDelta u.ackDelay u.now).smoothedRtt =
          exactSmoothedRtt stats.smoothedRtt
            (stats.updateRtt u.sendDelta u.ackDelay u.now).latestRtt := by
        unfold RttStats.updateRtt
        rw [if_neg hentered]
        exact (if_neg hfirst).trans (nextSmoothedRtt_eq_exact h.smoothedRtt h.smoothedRtt_le
          hsample hsampleBound)
      unfold RttStats.updateRttExact
      dsimp only
      rw [if_pos ⟨haccepted, hfirst⟩, ← hsmooth]
  · rw [updateRttExact_of_not_accepted haccepted, updateRtt_of_not_accepted haccepted]

def runCode (stats : RttStats) (updates : List RttUpdate) : RttStats :=
  updates.foldl (fun stats u => stats.updateRtt u.sendDelta u.ackDelay u.now) stats

theorem WithinDouble.runCode_eq (h : stats.WithinDouble) {updates : List RttUpdate}
    (hupdates : ∀ u ∈ updates, 0 ≤ u.ackDelay ∧ u.sendDelta < 2 ^ 50) :
    stats.runCode updates = stats.runUpdates updates := by
  induction updates generalizing stats with
  | nil => rfl
  | cons u updates ih =>
      obtain ⟨hdelay, hbound⟩ := hupdates u (by simp)
      show (stats.updateRtt u.sendDelta u.ackDelay u.now).runCode updates =
        (stats.updateRttExact u).runUpdates updates
      rw [h.updateRtt_eq hdelay hbound]
      exact ih (h.updateRttExact hdelay hbound) fun u' hmem => hupdates u' (by simp [hmem])

/-! ## The law -/

/-- After every accepted update the results are within their bounds, and an update that is not
accepted changes nothing. Up to `2 ^ 50` microseconds this is what the code computes. -/
theorem runUpdates_bounds (hmin : stats.minRtt = 0) (hsmoothed : stats.smoothedRtt = 0)
    {updates : List RttUpdate} {u : RttUpdate} (hdelays : ∀ u' ∈ updates ++ [u], 0 ≤ u'.ackDelay) :
    (u.Accepted → EstimatorBounds (stats.runUpdates (updates ++ [u]))
      (acceptedDeltas (updates ++ [u])) (stats.rttSamples (updates ++ [u]))) ∧
    (¬ u.Accepted → stats.runUpdates (updates ++ [u]) = stats.runUpdates updates) ∧
    ((∀ u' ∈ updates ++ [u], u'.sendDelta < 2 ^ 50) →
      stats.runCode (updates ++ [u]) = stats.runUpdates (updates ++ [u])) := by
  have hrange : stats.WithinDouble := ⟨by omega, by omega, by omega⟩
  refine ⟨fun haccepted => ?_, fun hrejected => ?_, fun hbounds => ?_⟩
  · exact (runUpdates_invariant hmin hsmoothed hdelays).bounds
      (by simp [acceptedDeltas, haccepted])
  · simp [runUpdates, updateRttExact_of_not_accepted hrejected]
  · exact hrange.runCode_eq fun u' hmem => ⟨hdelays u' hmem, hbounds u' hmem⟩

/-- A second sample whose ack delay would undercut the minimum. -/
theorem runUpdates_bounds_twice :
    EstimatorBounds (runUpdates {} [⟨40000, 0, 1⟩, ⟨41000, 25000, 2⟩])
      (acceptedDeltas [⟨40000, 0, 1⟩, ⟨41000, 25000, 2⟩])
      (rttSamples {} [⟨40000, 0, 1⟩, ⟨41000, 25000, 2⟩]) := by
  have hdelays : ∀ u ∈ [(⟨40000, 0, 1⟩ : RttUpdate)] ++ [⟨41000, 25000, 2⟩], 0 ≤ u.ackDelay := by
    decide
  exact (runUpdates_bounds rfl rfl hdelays).1 (by decide)

end RttStats

end BbrChrome
