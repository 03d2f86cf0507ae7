import BbrChrome.Congestion.Bbr2Refinement
import Mathlib.Tactic.Linarith

/-!
# When PROBE_UP ends because of a queue

The sum that PROBE_UP compares with the flight was meant to hold the inflight target of the
probe, two segments and, behind a flag, the ack height. The assignment stops before the target,
and the ack height goes in without the flag.
-/

namespace BbrChrome

namespace Bbr2Sender

variable {s : Bbr2Sender} {event : Bbr2CongestionEvent} {priorInFlight : Nat}

/-- The sender when PROBE_UP looks for risk and for a queue. -/
def probedUpward (s : Bbr2Sender) (event : Bbr2CongestionEvent) : Bbr2Sender :=
  (s.maybeAdaptUpperBounds event).1.probeInflightHighUpward event

/-- The last probe went too high, and the flight has reached the bound again. -/
def isRisky (s : Bbr2Sender) (priorInFlight : Nat) (event : Bbr2CongestionEvent) : Bool :=
  (s.probedUpward event).probeBw.lastCycleProbedTooHigh &&
    (s.probedUpward event).model.inflightHi ≤ priorInFlight

/-- PROBE_UP handles an event that is neither probed too high nor risky. -/
structure SafeProbe (s : Bbr2Sender) (priorInFlight : Nat) (event : Bbr2CongestionEvent) :
    Prop where
  phase : s.probeBw.cycle.phase = .probeUp
  bounds : (s.maybeAdaptUpperBounds event).2 ≠ .adaptedProbedTooHigh
  risk : s.isRisky priorInFlight event = false

instance : Decidable (s.SafeProbe priorInFlight event) :=
  decidable_of_iff (_ ∧ _ ∧ _) ⟨fun h => ⟨h.1, h.2.1, h.2.2⟩, fun h => ⟨h.phase, h.bounds, h.risk⟩⟩

/-- The inflight target of the probe, with an exact product. -/
def probeInflightTarget (s : Bbr2Sender) : Rat :=
  s.params.probeBwProbeInflightGain * (s.model.bdp s.model.maxBandwidth : Nat)

/-- The sum that the source spells out over two statements, the first of which the flag guards. -/
def fullQueuingThreshold (s : Bbr2Sender) : Rat :=
  s.probeInflightTarget + (2 * kDefaultTCPMSS : Nat) +
    (if s.params.addAckHeightToQueueingThreshold then s.model.maxAckHeight else 0 : Nat)

def LeavesProbeUp (s : Bbr2Sender) (priorInFlight : Nat) (event : Bbr2CongestionEvent) : Prop :=
  (s.updateProbeUp priorInFlight event).probeBw.cycle.phase ≠ .probeUp

instance : Decidable (s.LeavesProbeUp priorInFlight event) := by
  unfold LeavesProbeUp
  infer_instance

/-- PROBE_UP ends at the full threshold, and not below the inflight target. -/
structure QueueingLaw (s : Bbr2Sender) (priorInFlight : Nat) (event : Bbr2CongestionEvent) :
    Prop where
  leaves_iff : s.LeavesProbeUp priorInFlight event ↔
    0 < s.probeBw.cycle.roundsInPhase ∧ s.fullQueuingThreshold ≤ (event.bytesInFlight : Rat)
  not_short : s.LeavesProbeUp priorInFlight event →
    s.probeInflightTarget ≤ (event.bytesInFlight : Rat)

/-! ## The decision -/

theorem probedUpward_changes : upperBoundFields.Changes s (s.probedUpward event) :=
  maybeAdaptUpperBounds_changes.trans probeInflightHighUpward_changes

theorem probedUpward_queuingThreshold :
    (s.probedUpward event).queuingThreshold = s.queuingThreshold :=
  probedUpward_changes.keeps queuingThreshold rfl

theorem enterProbeDown_phase (probedTooHigh stoppedRiskyProbe : Bool) (now : Int) :
    (s.enterProbeDown probedTooHigh stoppedRiskyProbe now).probeBw.cycle.phase = .probeDown := rfl

/-- A safe probe ends at the threshold of the code. -/
theorem SafeProbe.leaves_iff (h : s.SafeProbe priorInFlight event) :
    s.LeavesProbeUp priorInFlight event ↔
      0 < s.probeBw.cycle.roundsInPhase ∧ s.queuingThreshold ≤ event.bytesInFlight := by
  have hcontrol : (s.probedUpward event).control = s.control :=
    probedUpward_changes.keeps control rfl
  have hphase : (s.probedUpward event).probeBw.cycle.phase = .probeUp :=
    (congrArg Control.phase hcontrol).trans h.phase
  have hrounds : (s.probedUpward event).probeBw.cycle.roundsInPhase =
      s.probeBw.cycle.roundsInPhase := congrArg Control.roundsInPhase hcontrol
  have hthreshold : (s.probedUpward event).queuingThreshold = s.queuingThreshold :=
    probedUpward_queuingThreshold
  have hrisk := h.risk
  have hbounds := h.bounds
  unfold LeavesProbeUp updateProbeUp
  unfold isRisky at hrisk
  unfold probedUpward at hphase hrounds hthreshold hrisk
  generalize s.maybeAdaptUpperBounds event = r at *
  rcases r with ⟨t, result⟩
  dsimp only at *
  rw [if_neg hbounds, hrisk, hrounds, hthreshold]
  simp only [Bool.false_or, Bool.not_false, Bool.true_and, Bool.and_eq_true, decide_eq_true_eq]
  split
  · next hqueuing =>
      rw [enterProbeDown_phase]
      simp [hqueuing]
  · next hqueuing => simp [hqueuing, hphase]

/-! ## The law -/

/-- The law holds when the flight is on the same side of both thresholds. -/
theorem queueingLaw_iff (h : s.SafeProbe priorInFlight event) :
    s.QueueingLaw priorInFlight event ↔
      s.probeBw.cycle.roundsInPhase = 0 ∨
        (event.bytesInFlight : Rat) < min (s.queuingThreshold : Rat) s.fullQueuingThreshold ∨
        max (s.queuingThreshold : Rat) s.fullQueuingThreshold ≤ (event.bytesInFlight : Rat) := by
  have hcode : s.LeavesProbeUp priorInFlight event ↔ 0 < s.probeBw.cycle.roundsInPhase ∧
      (s.queuingThreshold : Rat) ≤ (event.bytesInFlight : Rat) := by
    rw [h.leaves_iff, Nat.cast_le]
  have htarget : s.probeInflightTarget ≤ s.fullQueuingThreshold := by
    unfold fullQueuingThreshold
    have hsegments : (0 : Rat) ≤ (2 * kDefaultTCPMSS : Nat) := Nat.cast_nonneg _
    have hheight : (0 : Rat) ≤
        (if s.params.addAckHeightToQueueingThreshold then s.model.maxAckHeight else 0 : Nat) :=
      Nat.cast_nonneg _
    linarith
  rw [lt_min_iff, max_le_iff]
  constructor
  · intro hlaw
    by_cases hrounds : s.probeBw.cycle.roundsInPhase = 0
    · exact .inl hrounds
    · right
      have hsame := hcode.symm.trans hlaw.leaves_iff
      have hpos : 0 < s.probeBw.cycle.roundsInPhase := Nat.pos_of_ne_zero hrounds
      simp only [hpos, true_and] at hsame
      by_cases hfull : s.fullQueuingThreshold ≤ (event.bytesInFlight : Rat)
      · exact .inr ⟨hsame.mpr hfull, hfull⟩
      · have hnot := mt hsame.mp hfull
        exact .inl ⟨not_le.mp hnot, not_le.mp hfull⟩
  · rintro (hrounds | ⟨hbelow, hbelowFull⟩ | ⟨habove, haboveFull⟩)
    · have hstays : ¬ s.LeavesProbeUp priorInFlight event := by
        rw [hcode]
        omega
      exact ⟨by simp [hstays, hrounds], fun hleaves => absurd hleaves hstays⟩
    · have hstays : ¬ s.LeavesProbeUp priorInFlight event := by
        rw [hcode]
        exact fun hleaves => absurd hleaves.2 (not_le.mpr hbelow)
      refine ⟨⟨fun hleaves => absurd hleaves hstays, ?_⟩, fun hleaves => absurd hleaves hstays⟩
      exact fun hfull => absurd hfull.2 (not_le.mpr hbelowFull)
    · refine ⟨?_, fun _ => htarget.trans haboveFull⟩
      rw [hcode]
      simp [habove, haboveFull]

/-- PROBE_UP in its second round, at 8 Mbit/s and 100 ms, without an ack height. -/
def probingSender : Bbr2Sender :=
  let s := create 0 {} 32 200 fun _ => 0
  { s with
    mode := .probeBw
    probeBw := { s.probeBw with
      cycle := { s.probeBw.cycle with phase := .probeUp, roundsInPhase := 1 } }
    model := { s.model with
      maxBandwidthFilter := s.model.maxBandwidthFilter.update ⟨8000000⟩
      minRttFilter := ⟨100000, 0⟩ } }

def flightEvent (bytesInFlight : Nat) : Bbr2CongestionEvent :=
  { eventTime := 1000000, priorCwnd := 250000, bytesInFlight }

theorem queueingLaw_of_full_flight :
    probingSender.QueueingLaw 130000 (flightEvent 130000) :=
  (queueingLaw_iff (by decide +kernel)).mpr (.inr (.inr (by decide +kernel)))

/-- Half a BDP ends the probe. -/
theorem probe_cut_short :
    probingSender.SafeProbe 50000 (flightEvent 50000) ∧
      probingSender.probeInflightTarget = 125000 ∧
      ¬ probingSender.QueueingLaw 50000 (flightEvent 50000) := by
  have hleaves : probingSender.LeavesProbeUp 50000 (flightEvent 50000) := by decide +kernel
  have htarget : probingSender.probeInflightTarget = 125000 := by decide +kernel
  refine ⟨by decide +kernel, htarget, fun hlaw => ?_⟩
  have hshort := hlaw.not_short hleaves
  rw [htarget] at hshort
  exact absurd hshort (by decide +kernel)

end Bbr2Sender

end BbrChrome
