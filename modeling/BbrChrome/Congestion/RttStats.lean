import BbrChrome.Quic.Types

/-!
# Round-trip time statistics
-/

namespace BbrChrome

open Rounding

def kAlpha : Rat := 1 / 8

def kOneMinusAlpha : Rat := 1 - kAlpha

def kBeta : Rat := 1 / 4

def kOneMinusBeta : Rat := 1 - kBeta

/-- Running variance by Welford's algorithm; `m2` is a `double`. -/
structure StandardDeviationCaculator where
  hasValidStandardDeviation : Bool := false
  m2 : Rat := 0
deriving DecidableEq, Repr

def StandardDeviationCaculator.onNewRttSample (sd : StandardDeviationCaculator)
    (rttSample smoothedRtt : Int) : StandardDeviationCaculator :=
  if smoothedRtt = 0 then sd
  else
    let delta := float64 (float64 rttSample - float64 smoothedRtt)
    { hasValidStandardDeviation := true
      m2 := float64 (float64 (kOneMinusBeta * sd.m2) + float64 (kBeta * float64 (delta ^ 2))) }

structure RttStats where
  latestRtt : Int := 0
  minRtt : Int := 0
  smoothedRtt : Int := 0
  previousSrtt : Int := 0
  meanDeviation : Int := 0
  standardDeviationCalculator : StandardDeviationCaculator := {}
  calculateStandardDeviation : Bool := false
  initialRtt : Int := Time.fromMilliseconds kInitialRttMs
  lastUpdateTime : Int := 0
deriving DecidableEq, Repr

namespace RttStats

def smoothedOrInitialRtt (stats : RttStats) : Int :=
  if stats.smoothedRtt = 0 then stats.initialRtt else stats.smoothedRtt

def minOrInitialRtt (stats : RttStats) : Int :=
  if stats.minRtt = 0 then stats.initialRtt else stats.minRtt

/-- `kOneMinusBeta * mean_deviation_ + kBeta * |error|` in `float`, then truncated. -/
def nextMeanDeviation (meanDeviation error : Int) : Int :=
  truncate (float32 (float32 (kOneMinusBeta * float32 meanDeviation) +
    float32 (kBeta * float32 (|error| : Int))))

/-- `kOneMinusAlpha * smoothed_rtt_ + kAlpha * rtt_sample` on `Delta`s. -/
def nextSmoothedRtt (smoothedRtt rttSample : Int) : Int :=
  Time.scale smoothedRtt kOneMinusAlpha + Time.scale rttSample kAlpha

/-- The sample is corrected for the ack delay unless that would undercut the minimum. -/
def correctedSample (minRtt sendDelta ackDelay : Int) : Int :=
  if ackDelay < sendDelta ∧ ackDelay ≤ sendDelta - minRtt then sendDelta - ackDelay
  else sendDelta

def updateRtt (stats : RttStats) (sendDelta ackDelay now : Int) : RttStats :=
  if sendDelta = Time.infinite ∨ sendDelta ≤ 0 then stats
  else
    let minRtt :=
      if stats.minRtt = 0 ∨ sendDelta < stats.minRtt then sendDelta else stats.minRtt
    let rttSample := correctedSample minRtt sendDelta ackDelay
    { stats with
      lastUpdateTime := now
      minRtt
      previousSrtt := stats.smoothedRtt
      latestRtt := rttSample
      standardDeviationCalculator :=
        if stats.calculateStandardDeviation then
          stats.standardDeviationCalculator.onNewRttSample rttSample stats.smoothedRtt
        else stats.standardDeviationCalculator
      smoothedRtt :=
        if stats.smoothedRtt = 0 then rttSample else nextSmoothedRtt stats.smoothedRtt rttSample
      meanDeviation :=
        if stats.smoothedRtt = 0 then rttSample.tdiv 2
        else nextMeanDeviation stats.meanDeviation (stats.smoothedRtt - rttSample) }

/-- The statistics after the samples of a list, each with its ack delay and its time. -/
def afterSamples (samples : List (Int × Int × Int)) : RttStats :=
  samples.foldl (fun stats (sendDelta, ackDelay, now) => stats.updateRtt sendDelta ackDelay now) {}

/-! ## Round trips take no negative time -/

structure Nonneg (stats : RttStats) : Prop where
  minRtt : 0 ≤ stats.minRtt
  smoothedRtt : 0 ≤ stats.smoothedRtt
  initialRtt : 0 ≤ stats.initialRtt

theorem nextSmoothedRtt_nonneg {smoothedRtt rttSample : Int} (hsmoothed : 0 ≤ smoothedRtt)
    (hsample : 0 ≤ rttSample) : 0 ≤ nextSmoothedRtt smoothedRtt rttSample := by
  have hscale : ∀ {delta : Int} {factor : Rat}, 0 ≤ delta → 0 ≤ factor →
      0 ≤ Time.scale delta factor := by
    intro delta factor hdelta hfactor
    have hcast : (0 : Rat) ≤ delta := by exact_mod_cast hdelta
    exact llround_nonneg (roundSig_nonneg (mul_nonneg (roundSig_nonneg hcast) hfactor))
  exact add_nonneg (hscale hsmoothed (by norm_num [kOneMinusAlpha, kAlpha]))
    (hscale hsample (by norm_num [kAlpha]))

theorem Nonneg.updateRtt {stats : RttStats} (h : stats.Nonneg) (sendDelta ackDelay now : Int) :
    (stats.updateRtt sendDelta ackDelay now).Nonneg := by
  unfold RttStats.updateRtt
  split
  · exact h
  · rename_i hvalid
    have hmin := h.minRtt
    have hupdated : 0 ≤
        (if stats.minRtt = 0 ∨ sendDelta < stats.minRtt then sendDelta else stats.minRtt) := by
      split <;> omega
    have hsample : ∀ minRtt, 0 ≤ minRtt → 0 ≤ correctedSample minRtt sendDelta ackDelay := by
      intro minRtt hminRtt
      unfold correctedSample
      split <;> omega
    refine ⟨hupdated, ?_, h.initialRtt⟩
    dsimp only
    split
    · exact hsample _ hupdated
    · exact nextSmoothedRtt_nonneg h.smoothedRtt (hsample _ hupdated)

theorem afterSamples_nonneg (samples : List (Int × Int × Int)) : (afterSamples samples).Nonneg := by
  have hfresh : Nonneg {} := ⟨le_refl _, le_refl _, by decide⟩
  unfold afterSamples
  generalize ({} : RttStats) = stats at hfresh
  induction samples generalizing stats with
  | nil => exact hfresh
  | cons sample samples ih => exact ih _ (hfresh.updateRtt _ _ _)

theorem Nonneg.smoothedOrInitialRtt {stats : RttStats} (h : stats.Nonneg) :
    0 ≤ stats.smoothedOrInitialRtt := by
  unfold RttStats.smoothedOrInitialRtt
  split
  · exact h.initialRtt
  · exact h.smoothedRtt

end RttStats

end BbrChrome
