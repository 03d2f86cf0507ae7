import BbrChrome.Congestion.ProbingBounds
import BbrChrome.Library.LoggedSteps

/-!
# The writes of the upper bound

`inflight_hi_` is assigned in three functions. A log of their calls, with the calls of
`EnterProbeUp` between them, and the steps that the variables of the bandwidth probe take: every
handler of the sender is a sequence of these steps and writes its part of the log.
-/

namespace BbrChrome

open LoggedSteps

/-- The variables that decide on `inflight_hi_`. -/
structure UpperBound where
  inflightHi : Nat
  fullBandwidthReached : Bool
  phase : CyclePhase
  probeUpRounds : Nat
  probeUpBytes : Nat
  probeUpAcked : Nat
  isSampleFromProbing : Bool
deriving DecidableEq, Repr

/-- The calls of the functions that assign `inflight_hi_`, with its value before and after, and
the calls of `EnterProbeUp`. A call of `ProbeInflightHighUpward` is listed when it counts the bytes
acked. -/
inductive BoundWrite
  | enterProbeUp
  | checkExcessiveLosses (before after : Nat)
  | maybeAdaptUpperBounds (before after : Nat)
  | probeInflightHighUpward (before : UpperBound) (bytesAcked after : Nat)
deriving DecidableEq, Repr

/-- Replay one entry; an entry that does not continue the value is an error. -/
def BoundWrite.record (inflightHi : Nat) : BoundWrite → Option Nat
  | enterProbeUp => some inflightHi
  | checkExcessiveLosses before after => if before = inflightHi then some after else none
  | maybeAdaptUpperBounds before after => if before = inflightHi then some after else none
  | probeInflightHighUpward before _ after =>
      if before.inflightHi = inflightHi then some after else none

namespace UpperBound

def raiseInflightHighSlope (b : UpperBound) (cwnd : Nat) : UpperBound :=
  { b with
    probeUpRounds := min (b.probeUpRounds + 1) 30
    probeUpBytes := max (cwnd / 2 ^ b.probeUpRounds) kDefaultTCPMSS }

def enterProbeUp (b : UpperBound) (cwnd : Nat) : UpperBound :=
  { b with phase := .probeUp, isSampleFromProbing := true }.raiseInflightHighSlope cwnd

def growInflightHi (b : UpperBound) (bytesAcked : Nat) : UpperBound :=
  let acked := b.probeUpAcked + bytesAcked
  if b.probeUpBytes ≤ acked then
    let delta := acked / b.probeUpBytes
    { b with
      inflightHi := max b.inflightHi (addUint64 b.inflightHi (delta * kDefaultTCPMSS))
      probeUpAcked := acked - delta * b.probeUpBytes }
  else { b with probeUpAcked := acked }

end UpperBound

/-- What a handler does to the variables, one step after the other, with windows up to `limit`. -/
inductive BoundStep (limit : Nat) : UpperBound → Option BoundWrite → UpperBound → Prop
  | fullBandwidth (b : UpperBound) :
      BoundStep limit b none { b with fullBandwidthReached := true }
  | tolerate (b : UpperBound) :
      BoundStep limit b (some (.checkExcessiveLosses b.inflightHi b.inflightHi)) b
  | exitStartup {b : UpperBound} (hphase : b.phase = .probeNotStarted)
      (hgrowth : b.fullBandwidthReached = false) (inflightHi : Nat) :
      BoundStep limit b (some (.checkExcessiveLosses b.inflightHi inflightHi))
        { b with inflightHi, fullBandwidthReached := true }
  | enterProbeDown (b : UpperBound) :
      BoundStep limit b none { b with phase := .probeDown, probeUpBytes := maxUint64 }
  | endFirstRound (b : UpperBound) :
      BoundStep limit b none { b with isSampleFromProbing := false }
  | enterProbeCruise (b : UpperBound) :
      BoundStep limit b none { b with phase := .probeCruise, isSampleFromProbing := false }
  | enterProbeRefill (b : UpperBound) {probeUpRounds : Nat}
      (hle : probeUpRounds ≤ b.probeUpRounds) :
      BoundStep limit b none
        { b with
          phase := .probeRefill, isSampleFromProbing := false, probeUpRounds, probeUpAcked := 0 }
  | enterProbeUp {b : UpperBound} (hphase : b.phase = .probeRefill) {cwnd : Nat}
      (hcwnd : cwnd ≤ limit) : BoundStep limit b (some .enterProbeUp) (b.enterProbeUp cwnd)
  | adaptOk {b : UpperBound} {inflightHi : Nat} (hle : b.inflightHi ≤ inflightHi) :
      BoundStep limit b (some (.maybeAdaptUpperBounds b.inflightHi inflightHi))
        { b with inflightHi }
  | adaptProbedTooHigh {b : UpperBound} (hflag : b.isSampleFromProbing = true) (inflightHi : Nat) :
      BoundStep limit b (some (.maybeAdaptUpperBounds b.inflightHi inflightHi))
        { b with inflightHi, isSampleFromProbing := false }
  | grow {b : UpperBound} (hphase : b.phase = .probeUp) {priorCwnd : Nat}
      (hprior : b.inflightHi ≤ priorCwnd) (hlimit : priorCwnd ≤ limit) (bytesAcked : Nat) :
      BoundStep limit b
        (some (.probeInflightHighUpward b bytesAcked (b.growInflightHi bytesAcked).inflightHi))
        (b.growInflightHi bytesAcked)
  | raiseSlope {b : UpperBound} (hphase : b.phase = .probeUp) {cwnd : Nat} (hcwnd : cwnd ≤ limit) :
      BoundStep limit b none (b.raiseInflightHighSlope cwnd)

namespace Bbr2Sender

def bound (s : Bbr2Sender) : UpperBound where
  inflightHi := s.model.inflightHi
  fullBandwidthReached := s.model.fullBandwidthReached
  phase := s.probeBw.cycle.phase
  probeUpRounds := s.probeBw.cycle.probeUpRounds
  probeUpBytes := s.probeBw.cycle.probeUpBytes
  probeUpAcked := s.probeBw.cycle.probeUpAcked
  isSampleFromProbing := s.probeBw.cycle.isSampleFromProbing

/-! ## The log of a handler -/

def checkExcessiveLossesWrite (s : Bbr2Sender) (event : Bbr2CongestionEvent) : BoundWrite :=
  .checkExcessiveLosses s.model.inflightHi (s.checkExcessiveLosses event).model.inflightHi

def maybeAdaptUpperBoundsWrite (s : Bbr2Sender) (event : Bbr2CongestionEvent) : BoundWrite :=
  .maybeAdaptUpperBounds s.model.inflightHi (s.maybeAdaptUpperBounds event).1.model.inflightHi

def startupWrites (s : Bbr2Sender) (event : Bbr2CongestionEvent) : List BoundWrite :=
  if !s.model.fullBandwidthReached && event.endOfRoundTrip then
    let (model, bwGrowth) := s.model.checkBandwidthGrowth event
    let s := { s with model }
    if s.params.alwaysExitStartupOnExcessLoss || bwGrowth == .noGrowth || bwGrowth == .exit then
      [s.checkExcessiveLossesWrite event]
    else []
  else []

def updateProbeDownWrites (s : Bbr2Sender) (event : Bbr2CongestionEvent) : List BoundWrite :=
  if s.probeBw.cycle.roundsInPhase = 1 ∧ event.endOfRoundTrip = true then
    let s := s.endFirstRoundOfProbeDown event
    if s.probeBw.lastCycleStoppedRiskyProbe && !s.probeBw.lastCycleProbedTooHigh then []
    else [s.maybeAdaptUpperBoundsWrite event]
  else [s.maybeAdaptUpperBoundsWrite event]

def updateProbeRefillWrites (s : Bbr2Sender) (event : Bbr2CongestionEvent) : List BoundWrite :=
  let adapted := (s.maybeAdaptUpperBounds event).1
  s.maybeAdaptUpperBoundsWrite event ::
    if 0 < adapted.probeBw.cycle.roundsInPhase ∧ event.endOfRoundTrip = true then [.enterProbeUp]
    else []

def probeInflightHighUpwardWrites (s : Bbr2Sender) (event : Bbr2CongestionEvent) :
    List BoundWrite :=
  if !s.model.isCongestionWindowLimited event then []
  else if event.priorCwnd < s.model.inflightHi then []
  else
    [.probeInflightHighUpward s.bound event.bytesAcked
      (s.growInflightHi event.bytesAcked).model.inflightHi]

def updateProbeUpWrites (s : Bbr2Sender) (event : Bbr2CongestionEvent) : List BoundWrite :=
  let (adapted, result) := s.maybeAdaptUpperBounds event
  s.maybeAdaptUpperBoundsWrite event ::
    if result = .adaptedProbedTooHigh then [] else adapted.probeInflightHighUpwardWrites event

def updatePhaseWrites (s : Bbr2Sender) (event : Bbr2CongestionEvent) : List BoundWrite :=
  match s.probeBw.cycle.phase with
  | .probeUp => s.updateProbeUpWrites event
  | .probeDown => s.updateProbeDownWrites event
  | .probeCruise => [s.maybeAdaptUpperBoundsWrite event]
  | .probeRefill => s.updateProbeRefillWrites event
  | .probeNotStarted => []

def modeWrites (s : Bbr2Sender) (eventTime : Int) (event : Bbr2CongestionEvent) :
    List BoundWrite :=
  match s.mode with
  | .startup => s.startupWrites event
  | .probeBw =>
      (if event.endOfRoundTrip then s.countRound eventTime else s).updatePhaseWrites event
  | .drain => []
  | .probeRtt => []

/-- No change of the mode writes. -/
def loopWrites (priorInFlight : Nat) (eventTime : Int) (event : Bbr2CongestionEvent) :
    Nat → Bbr2Sender → List BoundWrite
  | 0, _ => []
  | changes + 1, s =>
      let (s', nextMode) := s.modeOnCongestionEvent priorInFlight eventTime event
      s.modeWrites eventTime event ++
        if nextMode = s'.mode then []
        else loopWrites priorInFlight eventTime event changes (s'.changeMode nextMode eventTime)

def callWrites (s : Bbr2Sender) : Bbr2Call → List BoundWrite
  | .packetSent _ _ _ _ => []
  | .congestionEvent _ priorInFlight eventTime ackedPackets lostPackets =>
      loopWrites priorInFlight eventTime
        (s.congestionEvent priorInFlight eventTime ackedPackets lostPackets)
        (kMaxModeChangesPerCongestionEvent + 1)
        (s.sampled priorInFlight eventTime ackedPackets lostPackets)

def runWrites (s : Bbr2Sender) : List Bbr2Call → List BoundWrite
  | [] => []
  | c :: calls => s.callWrites c ++ (s.call c).runWrites calls

variable {s : Bbr2Sender} {event : Bbr2CongestionEvent} {limit : Nat}

/-! ## STARTUP -/

theorem checkExcessiveLosses_steps (hphase : s.probeBw.cycle.phase = .probeNotStarted) :
    Steps (BoundStep limit) s.bound [s.checkExcessiveLossesWrite event]
      (s.checkExcessiveLosses event).bound := by
  apply Steps.write
  unfold checkExcessiveLossesWrite checkExcessiveLosses
  split
  · exact .tolerate s.bound
  · rename_i hgrowth
    split
    · exact .exitStartup hphase (Bool.eq_false_of_not_eq_true hgrowth) _
    · exact .tolerate s.bound

theorem checkBandwidthGrowth_steps :
    Steps (BoundStep limit) s.bound []
      ({ s with model := (s.model.checkBandwidthGrowth event).1 } : Bbr2Sender).bound := by
  unfold Bbr2NetworkModel.checkBandwidthGrowth
  split
  · exact .refl s.bound
  · split
    · exact .refl s.bound
    · dsimp only
      split
      · exact .silent (.fullBandwidth s.bound)
      · exact .refl s.bound

theorem checkStartupExit_steps (hphase : s.probeBw.cycle.phase = .probeNotStarted) :
    Steps (BoundStep limit) s.bound (s.startupWrites event) (s.checkStartupExit event).bound := by
  unfold startupWrites checkStartupExit
  split
  · dsimp only
    split
    · exact checkBandwidthGrowth_steps.trans (checkExcessiveLosses_steps hphase)
    · exact checkBandwidthGrowth_steps
  · exact .refl s.bound

theorem startup_steps (hphase : s.probeBw.cycle.phase = .probeNotStarted) :
    Steps (BoundStep limit) s.bound (s.startupWrites event)
      (s.startupOnCongestionEvent event).1.bound := by
  unfold startupOnCongestionEvent
  dsimp only
  split
  · rw [decreaseStartupPacing_changes.keeps bound rfl]
    exact checkStartupExit_steps hphase
  · exact checkStartupExit_steps hphase

/-! ## PROBE_BW -/

theorem maybeAdaptUpperBounds_steps :
    Steps (BoundStep limit) s.bound [s.maybeAdaptUpperBoundsWrite event]
      (s.maybeAdaptUpperBounds event).1.bound := by
  have hkeep : BoundStep limit s.bound
      (some (.maybeAdaptUpperBounds s.model.inflightHi s.model.inflightHi)) s.bound :=
    .adaptOk (le_refl _)
  apply Steps.write
  unfold maybeAdaptUpperBoundsWrite maybeAdaptUpperBounds
  dsimp only
  split
  · exact hkeep
  · split
    · split
      · rename_i hflag
        split
        · exact .adaptProbedTooHigh hflag s.model.inflightHi
        · exact .adaptProbedTooHigh hflag _
      · exact hkeep
    · split
      · exact hkeep
      · split
        · rename_i hlt
          exact .adaptOk (Nat.le_of_lt hlt)
        · exact hkeep

theorem enterProbeDown_steps (probedTooHigh stoppedRiskyProbe : Bool) (now : Int) :
    Steps (BoundStep limit) s.bound []
      (s.enterProbeDown probedTooHigh stoppedRiskyProbe now).bound := by
  have heq : (s.enterProbeDown probedTooHigh stoppedRiskyProbe now).bound =
      { s.bound with phase := .probeDown, probeUpBytes := maxUint64 } := by
    unfold enterProbeDown
    dsimp only
    split <;> rfl
  rw [heq]
  exact .silent (.enterProbeDown s.bound)

theorem enterProbeCruise_steps (now : Int) :
    Steps (BoundStep limit) s.bound [] (s.enterProbeCruise now).bound := by
  have heq : (s.enterProbeCruise now).bound =
      { s.bound with phase := .probeCruise, isSampleFromProbing := false } := by
    have hcapped :=
      (@capSender_changes s.leaveProbeDown s.leaveProbeDown.model.inflightHi).keeps bound rfl
    exact congrArg (fun b : UpperBound => { b with
      phase := .probeCruise
      isSampleFromProbing := false }) (hcapped.trans (leaveProbeDown_changes.keeps bound rfl))
  rw [heq]
  exact .silent (.enterProbeCruise s.bound)

theorem enterProbeRefill_steps {probeUpRounds : Nat}
    (hle : probeUpRounds ≤ s.probeBw.cycle.probeUpRounds) (now : Int) :
    Steps (BoundStep limit) s.bound [] (s.enterProbeRefill probeUpRounds now).bound := by
  have hleft := (@leaveProbeDown_changes s).keeps bound rfl
  unfold enterProbeRefill
  rw [← hleft]
  generalize s.leaveProbeDown = left at *
  have hrounds : probeUpRounds ≤ left.bound.probeUpRounds := by
    rw [hleft]
    exact hle
  exact .silent (.enterProbeRefill left.bound hrounds)

theorem isTimeToProbeBandwidth_steps :
    Steps (BoundStep limit) s.bound [s.maybeAdaptUpperBoundsWrite event]
      ((s.maybeAdaptUpperBounds event).1.isTimeToProbeBandwidth event).1.bound := by
  rw [isTimeToProbeBandwidth_changes.keeps bound rfl]
  exact maybeAdaptUpperBounds_steps

theorem continueProbeDown_steps :
    Steps (BoundStep limit) s.bound [s.maybeAdaptUpperBoundsWrite event]
      (s.continueProbeDown event).bound := by
  have hadapted := @isTimeToProbeBandwidth_steps s event limit
  unfold continueProbeDown
  dsimp only
  split
  · exact hadapted.trans_silent (enterProbeRefill_steps (Nat.zero_le _) _)
  · split
    · exact hadapted.trans_silent (enterProbeCruise_steps _)
    · split
      · exact hadapted
      · split
        · exact hadapted.trans_silent (enterProbeCruise_steps _)
        · exact hadapted

theorem endFirstRoundOfProbeDown_steps :
    Steps (BoundStep limit) s.bound [] (s.endFirstRoundOfProbeDown event).bound := by
  have heq : (s.endFirstRoundOfProbeDown event).bound =
      { s.bound with isSampleFromProbing := false } := by
    unfold endFirstRoundOfProbeDown
    dsimp only
    split <;> rfl
  rw [heq]
  exact .silent (.endFirstRound s.bound)

theorem updateProbeDown_steps :
    Steps (BoundStep limit) s.bound (s.updateProbeDownWrites event)
      (s.updateProbeDown event).bound := by
  unfold updateProbeDownWrites updateProbeDown
  split
  · dsimp only
    split
    · exact endFirstRoundOfProbeDown_steps.trans (enterProbeRefill_steps (Nat.zero_le _) _)
    · exact endFirstRoundOfProbeDown_steps.trans continueProbeDown_steps
  · exact continueProbeDown_steps

theorem updateProbeCruise_steps :
    Steps (BoundStep limit) s.bound [s.maybeAdaptUpperBoundsWrite event]
      (s.updateProbeCruise event).bound := by
  have hadapted := @isTimeToProbeBandwidth_steps s event limit
  unfold updateProbeCruise
  dsimp only
  split
  · exact hadapted.trans_silent (enterProbeRefill_steps (Nat.zero_le _) _)
  · exact hadapted

theorem updateProbeRefill_steps (hphase : s.probeBw.cycle.phase = .probeRefill)
    (hcwnd : s.cwnd ≤ limit) :
    Steps (BoundStep limit) s.bound (s.updateProbeRefillWrites event)
      (s.updateProbeRefill event).bound := by
  have hadapted := @maybeAdaptUpperBounds_steps s event limit
  have hwindow : (s.maybeAdaptUpperBounds event).1.cwnd ≤ limit := by
    rw [maybeAdaptUpperBounds_changes.keeps cwnd rfl]
    exact hcwnd
  unfold updateProbeRefillWrites updateProbeRefill
  dsimp only
  split
  · have henter : BoundStep limit (s.maybeAdaptUpperBounds event).1.bound (some .enterProbeUp)
        ((s.maybeAdaptUpperBounds event).1.enterProbeUp event.eventTime).bound :=
      .enterProbeUp ((maybeAdaptUpperBounds_changes.keeps (·.probeBw.cycle.phase) rfl).trans hphase)
        hwindow
    exact hadapted.trans (.write henter)
  · exact hadapted

theorem bound_growInflightHi (bytesAcked : Nat) :
    (s.growInflightHi bytesAcked).bound = s.bound.growInflightHi bytesAcked := by
  unfold growInflightHi UpperBound.growInflightHi
  dsimp only
  split
  · rename_i hunits
    have hunits' : s.bound.probeUpBytes ≤ s.bound.probeUpAcked + bytesAcked := hunits
    rw [if_pos hunits']
    split
    · rename_i hlt
      have hmax := max_eq_right (Nat.le_of_lt hlt)
      exact congrArg (fun hi => { s.bound with
        inflightHi := hi
        probeUpAcked := s.bound.probeUpAcked + bytesAcked -
          (s.bound.probeUpAcked + bytesAcked) / s.bound.probeUpBytes * s.bound.probeUpBytes })
        hmax.symm
    · rename_i hle
      have hmax := max_eq_left (Nat.le_of_not_lt hle)
      exact congrArg (fun hi => { s.bound with
        inflightHi := hi
        probeUpAcked := s.bound.probeUpAcked + bytesAcked -
          (s.bound.probeUpAcked + bytesAcked) / s.bound.probeUpBytes * s.bound.probeUpBytes })
        hmax.symm
  · rename_i hunits
    have hunits' : ¬ s.bound.probeUpBytes ≤ s.bound.probeUpAcked + bytesAcked := hunits
    rw [if_neg hunits']
    rfl

theorem probeInflightHighUpward_steps (hphase : s.probeBw.cycle.phase = .probeUp)
    (hcwnd : s.cwnd ≤ limit) (hprior : event.priorCwnd ≤ limit) :
    Steps (BoundStep limit) s.bound (s.probeInflightHighUpwardWrites event)
      (s.probeInflightHighUpward event).bound := by
  unfold probeInflightHighUpwardWrites probeInflightHighUpward
  split
  · exact .refl s.bound
  · split
    · exact .refl s.bound
    · rename_i hfull
      have hgrow : Steps (BoundStep limit) s.bound
          [.probeInflightHighUpward s.bound event.bytesAcked
            (s.growInflightHi event.bytesAcked).model.inflightHi]
          (s.growInflightHi event.bytesAcked).bound := by
        have hinflight : (s.growInflightHi event.bytesAcked).model.inflightHi =
            (s.bound.growInflightHi event.bytesAcked).inflightHi :=
          congrArg UpperBound.inflightHi (bound_growInflightHi event.bytesAcked)
        rw [hinflight, bound_growInflightHi]
        exact .write (.grow hphase (Nat.le_of_not_lt hfull) hprior event.bytesAcked)
      dsimp only
      split
      · have hgrown := @growInflightHi_changes s event.bytesAcked
        have hkept : (s.growInflightHi event.bytesAcked).probeBw.cycle.phase = .probeUp :=
          (hgrown.keeps (·.probeBw.cycle.phase) rfl).trans hphase
        have hwindow : (s.growInflightHi event.bytesAcked).cwnd ≤ limit := by
          rw [hgrown.keeps cwnd rfl]
          exact hcwnd
        have hslope : BoundStep limit (s.growInflightHi event.bytesAcked).bound none
            (s.growInflightHi event.bytesAcked).raiseInflightHighSlope.bound :=
          .raiseSlope hkept hwindow
        exact hgrow.trans (.silent hslope)
      · exact hgrow

theorem updateProbeUp_steps (hphase : s.probeBw.cycle.phase = .probeUp) (hcwnd : s.cwnd ≤ limit)
    (hprior : event.priorCwnd ≤ limit) (priorInFlight : Nat) :
    Steps (BoundStep limit) s.bound (s.updateProbeUpWrites event)
      (s.updateProbeUp priorInFlight event).bound := by
  have hadapted := @maybeAdaptUpperBounds_steps s event limit
  have hkept : (s.maybeAdaptUpperBounds event).1.probeBw.cycle.phase = .probeUp :=
    (maybeAdaptUpperBounds_changes.keeps (·.probeBw.cycle.phase) rfl).trans hphase
  have hwindow : (s.maybeAdaptUpperBounds event).1.cwnd ≤ limit := by
    rw [maybeAdaptUpperBounds_changes.keeps cwnd rfl]
    exact hcwnd
  unfold updateProbeUpWrites updateProbeUp
  dsimp only
  split
  · exact hadapted.trans_silent (enterProbeDown_steps _ _ _)
  · have hgrown := hadapted.trans (probeInflightHighUpward_steps hkept hwindow hprior)
    split
    · exact hgrown.trans_silent (enterProbeDown_steps _ _ _)
    · exact hgrown

theorem updatePhase_steps (hcwnd : s.cwnd ≤ limit) (hprior : event.priorCwnd ≤ limit)
    (priorInFlight : Nat) :
    Steps (BoundStep limit) s.bound (s.updatePhaseWrites event)
      (s.updatePhase priorInFlight event).1.bound := by
  unfold updatePhaseWrites updatePhase
  cases hphase : s.probeBw.cycle.phase with
  | probeUp => exact updateProbeUp_steps hphase hcwnd hprior priorInFlight
  | probeDown =>
      dsimp only
      split
      · rw [expireMinRtt_changes.keeps bound rfl]
        exact updateProbeDown_steps
      · exact updateProbeDown_steps
  | probeCruise => exact updateProbeCruise_steps
  | probeRefill => exact updateProbeRefill_steps hphase hcwnd
  | probeNotStarted => exact .refl s.bound

theorem probeBw_steps (hcwnd : s.cwnd ≤ limit) (hprior : event.priorCwnd ≤ limit)
    (priorInFlight : Nat) (eventTime : Int) :
    Steps (BoundStep limit) s.bound
      ((if event.endOfRoundTrip then s.countRound eventTime else s).updatePhaseWrites event)
      (s.probeBwOnCongestionEvent priorInFlight eventTime event).1.bound := by
  have hupdate : Steps (BoundStep limit) s.bound
      ((if event.endOfRoundTrip then s.countRound eventTime else s).updatePhaseWrites event)
      ((if event.endOfRoundTrip then s.countRound eventTime else s).updatePhase priorInFlight
        event).1.bound := by
    split
    · exact @updatePhase_steps (s.countRound eventTime) event limit hcwnd hprior priorInFlight
    · exact updatePhase_steps hcwnd hprior priorInFlight
  unfold probeBwOnCongestionEvent
  generalize (if event.endOfRoundTrip then s.countRound eventTime else s) = counted at *
  dsimp only
  split
  · exact hupdate
  · exact hupdate

/-! ## The loop over the modes -/

theorem modeOnCongestionEvent_steps
    (hphase : s.mode = .startup → s.probeBw.cycle.phase = .probeNotStarted)
    (hcwnd : s.cwnd ≤ limit) (hprior : event.priorCwnd ≤ limit) (priorInFlight : Nat)
    (eventTime : Int) :
    Steps (BoundStep limit) s.bound (s.modeWrites eventTime event)
      (s.modeOnCongestionEvent priorInFlight eventTime event).1.bound := by
  unfold modeWrites modeOnCongestionEvent
  cases hmode : s.mode with
  | startup => exact startup_steps (hphase hmode)
  | drain => exact .refl s.bound
  | probeBw => exact probeBw_steps hcwnd hprior priorInFlight eventTime
  | probeRtt =>
      dsimp only
      rw [probeRttOnCongestionEvent_changes.keeps bound rfl]
      exact .refl s.bound

theorem changeMode_steps (nextMode : Bbr2Mode) (now : Int) :
    Steps (BoundStep limit) s.bound [] (s.changeMode nextMode now).bound := by
  have hleft : ({ s.leaveMode now with mode := nextMode } : Bbr2Sender).bound = s.bound :=
    (leaveMode_changes now).keeps bound rfl
  unfold changeMode
  rw [← hleft]
  generalize ({ s.leaveMode now with mode := nextMode } : Bbr2Sender) = t
  unfold enterMode
  split
  · unfold probeBwEnter
    split
    · exact enterProbeDown_steps _ _ _
    · have hstart : (t.setCycle { t.probeBw.cycle with cycleStartTime := now }).bound = t.bound :=
        rfl
      rw [← hstart]
      generalize t.setCycle { t.probeBw.cycle with cycleStartTime := now } = started
      dsimp only
      split
      · exact enterProbeCruise_steps now
      · split
        · exact enterProbeRefill_steps (le_refl _) now
        · exact .refl started.bound
  · exact .refl t.bound
  · exact .refl t.bound

theorem runModes_steps (hdefault : s.HasDefaults) (hplaced : s.control.Placed)
    (hcwnd : s.cwnd ≤ limit) (hprior : event.priorCwnd ≤ limit) (priorInFlight changes : Nat) :
    Steps (BoundStep limit) s.bound (loopWrites priorInFlight event.eventTime event changes s)
      (runModes priorInFlight event.eventTime event changes s).bound := by
  induction changes generalizing s with
  | zero => exact .refl s.bound
  | succ changes ih =>
      have hhandler := @modeOnCongestionEvent_steps s event limit
        (fun hstartup => hplaced.early (.inl hstartup)) hcwnd hprior priorInFlight event.eventTime
      unfold loopWrites runModes
      obtain ⟨⟨t, nextMode⟩, hhandled⟩ :
        ∃ r, s.modeOnCongestionEvent priorInFlight event.eventTime event = r := ⟨_, rfl⟩
      have hturn := modeOnCongestionEvent_turn hdefault hhandled
      rw [hhandled] at hhandler ⊢
      dsimp only
      split
      · rw [List.append_nil]
        exact hhandler
      · rename_i hne
        rw [hturn.mode_eq] at hne
        have hwindow : (t.changeMode nextMode event.eventTime).cwnd ≤ limit := by
          rw [hturn.cwnd]
          exact hcwnd
        have hrest := ih hturn.params (hplaced.changed hturn.move hne hturn.change) hwindow
        exact (hhandler.trans_silent (changeMode_steps nextMode event.eventTime)).trans hrest

/-! ## Runs -/

theorem bound_sampled (priorInFlight : Nat) (eventTime : Int) (ackedPackets : List AckedPacket)
    (lostPackets : List LostPacket) :
    (s.sampled priorInFlight eventTime ackedPackets lostPackets).bound = s.bound := by
  have hmodel := @sampled_model_changes s priorInFlight eventTime ackedPackets lostPackets
  have hinflight : (s.sampled priorInFlight eventTime ackedPackets lostPackets).model.inflightHi =
      s.model.inflightHi := hmodel.keeps Bbr2NetworkModel.inflightHi rfl
  have hfull : (s.sampled priorInFlight eventTime ackedPackets
      lostPackets).model.fullBandwidthReached = s.model.fullBandwidthReached :=
    hmodel.keeps Bbr2NetworkModel.fullBandwidthReached rfl
  unfold bound
  rw [hinflight, hfull, (sampled_changes _ _ _ _).keeps probeBw rfl]

theorem onExitQuiescence_steps (now : Int) :
    Steps (BoundStep limit) s.bound [] (s.onExitQuiescence now).bound := by
  have hexit : ∀ start, (s.modeOnExitQuiescence now start).1.bound = s.bound :=
    fun start => (modeOnExitQuiescence_changes now start).keeps bound rfl
  unfold onExitQuiescence
  split
  · dsimp only
    rw [← hexit (min now s.lastQuiescenceStart)]
    split
    · exact changeMode_steps _ now
    · exact .refl _
  · exact .refl s.bound

theorem onPacketSent_steps (sentTime : Int) (bytesInFlight packetNumber bytes : Nat) :
    Steps (BoundStep limit) s.bound []
      (s.onPacketSent sentTime bytesInFlight packetNumber bytes).bound := by
  have hcounted : (s.countPacketSent bytes).bound = s.bound :=
    (countPacketSent_changes bytes).keeps bound rfl
  change Steps (BoundStep limit) s.bound [] (s.beforePacketSent sentTime bytesInFlight bytes).bound
  unfold beforePacketSent
  rw [← hcounted]
  split
  · exact onExitQuiescence_steps sentTime
  · exact .refl _

theorem call_steps (hs : s.HasDefaults) (hplaced : s.control.Placed) (h : s.WindowLimited limit)
    (c : Bbr2Call) : Steps (BoundStep limit) s.bound (s.callWrites c) (s.call c).bound := by
  cases c with
  | packetSent => exact onPacketSent_steps _ _ _ _
  | congestionEvent leastUnacked priorInFlight eventTime ackedPackets lostPackets =>
      have hsampling := s.sampled_move hs.bwLoMode priorInFlight eventTime ackedPackets lostPackets
      have hwindow : (s.sampled priorInFlight eventTime ackedPackets lostPackets).cwnd ≤ limit := by
        rw [(sampled_changes _ _ _ _).keeps cwnd rfl]
        exact h.cwnd_le
      have hloop := @runModes_steps _
        (s.congestionEvent priorInFlight eventTime ackedPackets lostPackets) limit
        (hs.sampled priorInFlight eventTime ackedPackets lostPackets)
        (hplaced.of_same hsampling.mode_eq hsampling.phase_eq) hwindow h.cwnd_le priorInFlight
        (kMaxModeChangesPerCongestionEvent + 1)
      rw [bound_sampled] at hloop
      show Steps (BoundStep limit) s.bound _ (s.onCongestionEvent leastUnacked priorInFlight
        eventTime ackedPackets lostPackets).bound
      rw [onCongestionEvent_eq, (finishCongestionEvent_changes _).keeps bound rfl]
      exact hloop

/-- What the log of a run relies on. -/
structure Writes (limit : Nat) (s : Bbr2Sender) : Prop where
  defaults : s.HasDefaults
  placed : s.control.Placed
  limited : s.WindowLimited limit

theorem Writes.call (h : s.Writes limit) (c : Bbr2Call) : (s.call c).Writes limit := by
  have hplaced : (s.call c).control.Placed :=
    h.defaults.control_call (fun _ _ _ _ _ _ hc hmove => hc.sendMove hmove)
      (fun _ _ _ _ _ hc hmove => hc.eventMove hmove) h.placed c
  exact ⟨h.defaults.call c, hplaced, h.limited.call h.defaults c⟩

theorem create_writes (now : Int) (rttStats : RttStats) (initialCwnd maxCwnd : Nat)
    (stream : Nat → Nat) : (create now rttStats initialCwnd maxCwnd stream).Writes
      (maxCwnd * kDefaultTCPMSS) :=
  ⟨create_hasDefaults now rttStats initialCwnd maxCwnd stream,
    create_placed now rttStats initialCwnd maxCwnd stream,
    create_windowLimited now rttStats initialCwnd maxCwnd stream⟩

/-- A run is a sequence of the steps and its log is theirs. -/
theorem run_steps (h : s.Writes limit) (calls : List Bbr2Call) :
    Steps (BoundStep limit) s.bound (s.runWrites calls) (s.run calls).bound := by
  induction calls generalizing s with
  | nil => exact .refl s.bound
  | cons c calls ih =>
      exact (call_steps h.defaults h.placed h.limited c).trans (ih (h.call c))

end Bbr2Sender

/-- Every step continues the value that the log has recorded. -/
theorem BoundStep.record {limit : Nat} {b b' : UpperBound} {entry : Option BoundWrite}
    (h : BoundStep limit b entry b') :
    entry.toList.foldlM BoundWrite.record b.inflightHi = some b'.inflightHi := by
  cases h with
  | grow => simp [BoundWrite.record]
  | _ => simp [BoundWrite.record, UpperBound.enterProbeUp, UpperBound.raiseInflightHighSlope]

/-- `inflight_hi_` can be replayed from the log: whatever it becomes is listed. -/
theorem Bbr2Sender.runWrites_record {s : Bbr2Sender} {limit : Nat} (h : s.Writes limit)
    (calls : List Bbr2Call) :
    (s.runWrites calls).foldlM BoundWrite.record s.model.inflightHi =
      some (s.run calls).model.inflightHi := by
  have hrecord : ∀ b entry b', BoundStep limit b entry b' →
      entry.toList.foldlM BoundWrite.record b.inflightHi = some b'.inflightHi :=
    fun _ _ _ hstep => hstep.record
  have hreplay : (s.runWrites calls).foldlM BoundWrite.record s.bound.inflightHi =
      some (s.run calls).bound.inflightHi := Steps.replay hrecord (Bbr2Sender.run_steps h calls)
  exact hreplay

end BbrChrome
