import BbrChrome.Congestion.Bbr2NetworkModel
import BbrChrome.Congestion.SendAlgorithm

/-!
# BBRv2 sender

The state of the sender and of its four modes, the mode handlers and the
operations of the send algorithm. A mode handler works on the whole sender, since
the modes of the source hold pointers to it and to its model.
-/

namespace BbrChrome

open Rounding

inductive Bbr2Mode
  | startup
  | drain
  | probeBw
  | probeRtt
deriving DecidableEq, Repr

inductive CyclePhase
  | probeNotStarted
  | probeUp
  | probeDown
  | probeCruise
  | probeRefill
deriving DecidableEq, Repr

/-- `Bbr2ProbeBwMode::Cycle`. -/
structure Cycle where
  cycleStartTime : Int := 0
  phase : CyclePhase := .probeNotStarted
  roundsInPhase : Nat := 0
  phaseStartTime : Int := 0
  roundsSinceProbe : Nat := 0
  probeWaitTime : Int := 0
  probeUpRounds : Nat := 0
  probeUpBytes : Nat := maxUint64
  probeUpAcked : Nat := 0
  hasAdvancedMaxBw : Bool := false
  isSampleFromProbing : Bool := false
deriving DecidableEq, Repr

structure Bbr2ProbeBwMode where
  cycle : Cycle := {}
  lastCycleProbedTooHigh : Bool := false
  lastCycleStoppedRiskyProbe : Bool := false
deriving DecidableEq, Repr

/-- The results of `rand()`, in the order of the calls. -/
structure RandomSource where
  stream : Nat → Nat
  calls : Nat := 0

def RandomSource.next (source : RandomSource) (max : Nat) : RandomSource × Nat :=
  ({ source with calls := source.calls + 1 }, source.stream source.calls % max)

structure Bbr2Sender where
  mode : Bbr2Mode := .startup
  connectionStats : SenderStats := {}
  model : Bbr2NetworkModel
  initialCwnd : Nat
  cwnd : Nat
  pacingRate : QuicBandwidth
  lastQuiescenceStart : Int := 0
  /-- `startup_.max_bw_at_round_beginning_`. -/
  maxBwAtRoundBeginning : QuicBandwidth := .zero
  probeBw : Bbr2ProbeBwMode := {}
  /-- `probe_rtt_.exit_time_`. -/
  exitTime : Int := 0
  random : RandomSource

/-- Which of its outcomes `MaybeAdaptUpperBounds` had. -/
inductive AdaptUpperBoundsResult
  | adaptedOk
  | adaptedProbedTooHigh
  | notAdaptedInflightHighNotSet
  | notAdaptedInvalidSample
deriving DecidableEq, Repr

namespace Bbr2Sender

def params (s : Bbr2Sender) : Bbr2Params := s.model.params

def getTargetBytesInflight (s : Bbr2Sender) : Nat :=
  min (s.model.bdp s.model.bandwidthEstimate) s.cwnd

def getMinimumCongestionWindow (s : Bbr2Sender) : Nat := s.params.cwndLimits.min

def setCycle (s : Bbr2Sender) (cycle : Cycle) : Bbr2Sender :=
  { s with probeBw := { s.probeBw with cycle } }

/-! ## STARTUP -/

def checkExcessiveLosses (s : Bbr2Sender) (event : Bbr2CongestionEvent) : Bbr2Sender :=
  if s.model.fullBandwidthReached then s
  else if s.model.isInflightTooHigh event s.params.startupFullLossCount then
    let bdp := s.model.bdp s.model.maxBandwidth
    let newInflightHi :=
      if s.params.startupLossExitUseMaxDeliveredForInflightHi then
        max bdp s.model.maxBytesDeliveredInRound
      else bdp
    { s with
      model := { s.model.setInflightHi newInflightHi with fullBandwidthReached := true }
      connectionStats := { s.connectionStats with bbrExitStartupDueToLoss := true } }
  else s

/-- The pacing gain that follows the growth of the bandwidth over the last round. -/
def startupGain (s : Bbr2Sender) : Rat :=
  let ratio := float32 (max 1 (float64 (float64 s.model.maxBandwidth.bitsPerSecond /
    float64 s.maxBwAtRoundBeginning.bitsPerSecond)))
  let gain := float32 (float32 (float32 (ratio - 1) *
    float32 (s.params.startupPacingGain - s.params.startupFullBwThreshold)) +
    s.params.startupFullBwThreshold)
  min s.params.startupPacingGain gain

def decreaseStartupPacing (s : Bbr2Sender) (event : Bbr2CongestionEvent) : Bbr2Sender :=
  if !event.endOfRoundTrip || event.lastSampleIsAppLimited then s
  else
    let model :=
      if QuicBandwidth.zero < s.maxBwAtRoundBeginning then
        let model := { s.model with pacingGain := s.startupGain }
        if model.bandwidthLo < model.maxBandwidth.scale model.pacingGain then
          model.clearBandwidthLo
        else model
      else s.model
    { s with model, maxBwAtRoundBeginning := model.maxBandwidth }

/-- What the end of a round means for leaving STARTUP. -/
def checkStartupExit (s : Bbr2Sender) (event : Bbr2CongestionEvent) : Bbr2Sender :=
  if !s.model.fullBandwidthReached && event.endOfRoundTrip then
    let (model, bwGrowth) := s.model.checkBandwidthGrowth event
    let s := { s with model }
    if s.params.alwaysExitStartupOnExcessLoss || bwGrowth == .noGrowth || bwGrowth == .exit then
      s.checkExcessiveLosses event
    else s
  else s

def startupOnCongestionEvent (s : Bbr2Sender) (event : Bbr2CongestionEvent) :
    Bbr2Sender × Bbr2Mode :=
  let s := s.checkStartupExit event
  let s :=
    if s.params.decreaseStartupPacingAtEndOfRound then s.decreaseStartupPacing event else s
  (s, if s.model.fullBandwidthReached then .drain else .startup)

/-! ## DRAIN -/

def drainTarget (s : Bbr2Sender) : Nat :=
  max (s.model.bdp s.model.maxBandwidth) s.getMinimumCongestionWindow

def drainOnCongestionEvent (s : Bbr2Sender) (event : Bbr2CongestionEvent) :
    Bbr2Sender × Bbr2Mode :=
  let s := { s with
    model := s.model.setGains s.params.drainPacingGain s.params.drainCwndGain }
  (s, if event.bytesInFlight ≤ s.drainTarget then .probeBw else .drain)

/-! ## PROBE_BW: entering and leaving the phases -/

def enterProbeDown (s : Bbr2Sender) (probedTooHigh stoppedRiskyProbe : Bool) (now : Int) :
    Bbr2Sender :=
  let (random, rounds) := s.random.next s.params.probeBwMaxProbeRandRounds
  let (random, wait) := random.next s.params.probeBwProbeMaxRandDuration.toNat
  let model :=
    if s.params.bwLoMode ≠ .default then s.model.clearBandwidthLo else s.model
  { s with
    random
    model := model.restartRoundEarly
    connectionStats :=
      { s.connectionStats with bbrNumCycles := s.connectionStats.bbrNumCycles + 1 }
    probeBw :=
      { lastCycleProbedTooHigh := probedTooHigh
        lastCycleStoppedRiskyProbe := stoppedRiskyProbe
        cycle :=
          { s.probeBw.cycle with
            cycleStartTime := now
            phase := .probeDown
            roundsInPhase := 0
            phaseStartTime := now
            roundsSinceProbe := rounds
            probeWaitTime := s.params.probeBwProbeBaseDuration + wait
            probeUpBytes := maxUint64
            hasAdvancedMaxBw := false } } }

def exitProbeDown (s : Bbr2Sender) : Bbr2Sender :=
  if s.probeBw.cycle.hasAdvancedMaxBw then s
  else
    { s.setCycle { s.probeBw.cycle with hasAdvancedMaxBw := true } with
      model := s.model.advanceMaxBandwidthFilter }

/-- The common first step of `EnterProbeCruise` and `EnterProbeRefill`. -/
def leaveProbeDown (s : Bbr2Sender) : Bbr2Sender :=
  if s.probeBw.cycle.phase = .probeDown then s.exitProbeDown else s

def enterProbeCruise (s : Bbr2Sender) (now : Int) : Bbr2Sender :=
  let s := s.leaveProbeDown
  let s := { s with model := s.model.capInflightLo s.model.inflightHi }
  s.setCycle
    { s.probeBw.cycle with
      phase := .probeCruise
      roundsInPhase := 0
      phaseStartTime := now
      isSampleFromProbing := false }

def enterProbeRefill (s : Bbr2Sender) (probeUpRounds : Nat) (now : Int) : Bbr2Sender :=
  let s := s.leaveProbeDown
  { s with
    model := s.model.clearBandwidthLo.clearInflightLo.restartRoundEarly
    probeBw :=
      { s.probeBw with
        lastCycleStoppedRiskyProbe := false
        cycle :=
          { s.probeBw.cycle with
            phase := .probeRefill
            roundsInPhase := 0
            phaseStartTime := now
            isSampleFromProbing := false
            probeUpRounds
            probeUpAcked := 0 } } }

def raiseInflightHighSlope (s : Bbr2Sender) : Bbr2Sender :=
  let growthThisRound := 2 ^ s.probeBw.cycle.probeUpRounds
  s.setCycle
    { s.probeBw.cycle with
      probeUpRounds := min (s.probeBw.cycle.probeUpRounds + 1) 30
      probeUpBytes := max (s.cwnd / growthThisRound) kDefaultTCPMSS }

def enterProbeUp (s : Bbr2Sender) (now : Int) : Bbr2Sender :=
  let s := s.setCycle
    { s.probeBw.cycle with
      phase := .probeUp
      roundsInPhase := 0
      phaseStartTime := now
      isSampleFromProbing := true }
  let s := s.raiseInflightHighSlope
  { s with model := s.model.restartRoundEarly }

/-! ## PROBE_BW: the update of each phase -/

/-- `GetTargetBytesInflight() * (1.0 - beta)`. -/
def inflightTarget (s : Bbr2Sender) : Nat :=
  toByteCount (float64 (float64 s.getTargetBytesInflight * s.params.oneMinusBeta))

/-- The inflight that `MaybeAdaptUpperBounds` compares with its bounds. -/
def inflightAtSend (s : Bbr2Sender) (sendState : SendTimeState) : Nat :=
  if s.params.useBytesDeliveredForInflightHi &&
      sendState.totalBytesAcked ≤ s.model.totalBytesAcked then
    s.model.totalBytesAcked - sendState.totalBytesAcked
  else bytesInFlightAtSend sendState

def maybeAdaptUpperBounds (s : Bbr2Sender) (event : Bbr2CongestionEvent) :
    Bbr2Sender × AdaptUpperBoundsResult :=
  let sendState := event.lastPacketSendState
  if !sendState.isValid then (s, .notAdaptedInvalidSample)
  else
    let inflightAtSend := s.inflightAtSend sendState
    if s.model.isInflightTooHigh event s.params.probeBwFullLossCount then
      if s.probeBw.cycle.isSampleFromProbing then
        let s := s.setCycle { s.probeBw.cycle with isSampleFromProbing := false }
        if sendState.isAppLimited then (s, .adaptedProbedTooHigh)
        else
          let newInflightHi := max inflightAtSend s.inflightTarget
          let newInflightHi :=
            if s.params.limitInflightHiByMaxDelivered then
              max newInflightHi s.model.maxBytesDeliveredInRound
            else newInflightHi
          ({ s with model := s.model.setInflightHi newInflightHi }, .adaptedProbedTooHigh)
      else (s, .adaptedOk)
    else if s.model.inflightHi = maxUint64 then (s, .notAdaptedInflightHighNotSet)
    else if s.model.inflightHi < inflightAtSend then
      ({ s with model := s.model.setInflightHi inflightAtSend }, .adaptedOk)
    else (s, .adaptedOk)

def hasCycleLasted (s : Bbr2Sender) (duration : Int) (event : Bbr2CongestionEvent) : Bool :=
  duration < event.eventTime - s.probeBw.cycle.cycleStartTime

def hasPhaseLasted (s : Bbr2Sender) (duration : Int) (event : Bbr2CongestionEvent) : Bool :=
  duration < event.eventTime - s.probeBw.cycle.phaseStartTime

def isTimeToProbeForRenoCoexistence (s : Bbr2Sender) (probeWaitFraction : Rat) : Bool :=
  if !s.params.enableRenoCoexistence then false
  else
    let rounds := s.params.probeBwProbeMaxRounds
    let rounds :=
      if 0 < s.params.probeBwProbeRenoGain then
        min rounds (toByteCount (float32 (float32 (s.params.probeBwProbeRenoGain *
          float32 s.getTargetBytesInflight) / float32 kDefaultTCPMSS)))
      else rounds
    float64 (float64 rounds * probeWaitFraction) ≤ float64 s.probeBw.cycle.roundsSinceProbe

def isTimeToProbeBandwidth (s : Bbr2Sender) (event : Bbr2CongestionEvent) : Bbr2Sender × Bool :=
  if s.hasCycleLasted s.probeBw.cycle.probeWaitTime event then (s, true)
  else if s.isTimeToProbeForRenoCoexistence 1 then
    let count := s.connectionStats.bbrNumShortCyclesForRenoCoexistence + 1
    ({ s with
        connectionStats :=
          { s.connectionStats with bbrNumShortCyclesForRenoCoexistence := count } }, true)
  else (s, false)

/-- What `UpdateProbeDown` does at the end of the first round of the phase. -/
def endFirstRoundOfProbeDown (s : Bbr2Sender) (event : Bbr2CongestionEvent) : Bbr2Sender :=
  let s := s.setCycle { s.probeBw.cycle with isSampleFromProbing := false }
  if event.lastSampleIsAppLimited then s
  else
    { s.setCycle { s.probeBw.cycle with hasAdvancedMaxBw := true } with
      model := s.model.advanceMaxBandwidthFilter }

/-- `UpdateProbeDown` behind the check of a stopped risky probe. -/
def continueProbeDown (s : Bbr2Sender) (event : Bbr2CongestionEvent) : Bbr2Sender :=
  let s := (s.maybeAdaptUpperBounds event).1
  let (s, timeToProbe) := s.isTimeToProbeBandwidth event
  if timeToProbe then s.enterProbeRefill 0 event.eventTime
  else if s.hasPhaseLasted s.model.minRtt event then s.enterProbeCruise event.eventTime
  else if s.model.inflightHiWithHeadroom < event.bytesInFlight then s
  else if event.bytesInFlight < s.model.bdp s.model.maxBandwidth then
    s.enterProbeCruise event.eventTime
  else s

def updateProbeDown (s : Bbr2Sender) (event : Bbr2CongestionEvent) : Bbr2Sender :=
  if s.probeBw.cycle.roundsInPhase = 1 ∧ event.endOfRoundTrip = true then
    let s := s.endFirstRoundOfProbeDown event
    if s.probeBw.lastCycleStoppedRiskyProbe && !s.probeBw.lastCycleProbedTooHigh then
      s.enterProbeRefill 0 event.eventTime
    else s.continueProbeDown event
  else s.continueProbeDown event

def updateProbeCruise (s : Bbr2Sender) (event : Bbr2CongestionEvent) : Bbr2Sender :=
  let s := (s.maybeAdaptUpperBounds event).1
  let (s, timeToProbe) := s.isTimeToProbeBandwidth event
  if timeToProbe then s.enterProbeRefill 0 event.eventTime else s

def updateProbeRefill (s : Bbr2Sender) (event : Bbr2CongestionEvent) : Bbr2Sender :=
  let s := (s.maybeAdaptUpperBounds event).1
  if 0 < s.probeBw.cycle.roundsInPhase ∧ event.endOfRoundTrip = true then
    s.enterProbeUp event.eventTime
  else s

/-- Raise `inflight_hi_` by one segment for every `probe_up_bytes` acked. -/
def growInflightHi (s : Bbr2Sender) (bytesAcked : Nat) : Bbr2Sender :=
  let cycle := s.probeBw.cycle
  let acked := cycle.probeUpAcked + bytesAcked
  if cycle.probeUpBytes ≤ acked then
    let delta := acked / cycle.probeUpBytes
    let newInflightHi := addUint64 s.model.inflightHi (delta * kDefaultTCPMSS)
    let s := s.setCycle { cycle with probeUpAcked := acked - delta * cycle.probeUpBytes }
    if s.model.inflightHi < newInflightHi then
      { s with model := s.model.setInflightHi newInflightHi }
    else s
  else s.setCycle { cycle with probeUpAcked := acked }

def probeInflightHighUpward (s : Bbr2Sender) (event : Bbr2CongestionEvent) : Bbr2Sender :=
  if !s.model.isCongestionWindowLimited event then s
  else if event.priorCwnd < s.model.inflightHi then s
  else
    let s := s.growInflightHi event.bytesAcked
    if event.endOfRoundTrip then s.raiseInflightHighSlope else s

/-- The threshold is `2 * kDefaultTCPMSS` raised by the ack height; the sum with the
scaled BDP on the line below it in the source is a statement without effect. -/
def queuingThreshold (s : Bbr2Sender) : Nat :=
  addUint64 (2 * kDefaultTCPMSS) s.model.maxAckHeight

def updateProbeUp (s : Bbr2Sender) (priorInFlight : Nat) (event : Bbr2CongestionEvent) :
    Bbr2Sender :=
  let (s, result) := s.maybeAdaptUpperBounds event
  if result = .adaptedProbedTooHigh then s.enterProbeDown true false event.eventTime
  else
    let s := s.probeInflightHighUpward event
    let isRisky := s.probeBw.lastCycleProbedTooHigh && s.model.inflightHi ≤ priorInFlight
    let isQueuing := !isRisky && 0 < s.probeBw.cycle.roundsInPhase &&
      s.queuingThreshold ≤ event.bytesInFlight
    if isRisky || isQueuing then s.enterProbeDown false isRisky event.eventTime else s

def pacingGainForPhase (s : Bbr2Sender) : CyclePhase → Rat
  | .probeUp => s.params.probeBwProbeUpPacingGain
  | .probeDown => s.params.probeBwProbeDownPacingGain
  | _ => s.params.probeBwDefaultPacingGain

/-- Count a completed round, unless the cycle or the phase has just started. -/
def countRound (s : Bbr2Sender) (eventTime : Int) : Bbr2Sender :=
  let cycle := s.probeBw.cycle
  s.setCycle
    { cycle with
      roundsSinceProbe :=
        if cycle.cycleStartTime ≠ eventTime then cycle.roundsSinceProbe + 1
        else cycle.roundsSinceProbe
      roundsInPhase :=
        if cycle.phaseStartTime ≠ eventTime then cycle.roundsInPhase + 1
        else cycle.roundsInPhase }

/-- Run the update of the current phase; returns whether to switch to PROBE_RTT. -/
def updatePhase (s : Bbr2Sender) (priorInFlight : Nat) (event : Bbr2CongestionEvent) :
    Bbr2Sender × Bool :=
  match s.probeBw.cycle.phase with
  | .probeUp => (s.updateProbeUp priorInFlight event, false)
  | .probeDown =>
      let s := s.updateProbeDown event
      if s.probeBw.cycle.phase ≠ .probeDown then
        let (model, expired) := s.model.maybeExpireMinRtt event
        ({ s with model }, expired)
      else (s, false)
  | .probeCruise => (s.updateProbeCruise event, false)
  | .probeRefill => (s.updateProbeRefill event, false)
  | .probeNotStarted => (s, false)

def probeBwOnCongestionEvent (s : Bbr2Sender) (priorInFlight : Nat) (eventTime : Int)
    (event : Bbr2CongestionEvent) : Bbr2Sender × Bbr2Mode :=
  let s := if event.endOfRoundTrip then s.countRound eventTime else s
  let (s, switchToProbeRtt) := s.updatePhase priorInFlight event
  if switchToProbeRtt then (s, .probeRtt)
  else
    let pacingGain := s.pacingGainForPhase s.probeBw.cycle.phase
    ({ s with model := s.model.setGains pacingGain s.params.probeBwCwndGain }, .probeBw)

def probeBwEnter (s : Bbr2Sender) (now : Int) : Bbr2Sender :=
  match s.probeBw.cycle.phase with
  | .probeNotStarted => s.enterProbeDown false false now
  | phase =>
      let s := s.setCycle { s.probeBw.cycle with cycleStartTime := now }
      if phase = .probeCruise then s.enterProbeCruise now
      else if phase = .probeRefill then s.enterProbeRefill s.probeBw.cycle.probeUpRounds now
      else s

/-! ## PROBE_RTT -/

def probeRttInflightTarget (s : Bbr2Sender) : Nat :=
  s.model.bdpWithGain s.model.maxBandwidth s.params.probeRttInflightTargetBdpFraction

def probeRttOnCongestionEvent (s : Bbr2Sender) (event : Bbr2CongestionEvent) :
    Bbr2Sender × Bbr2Mode :=
  if s.exitTime = 0 then
    if event.bytesInFlight ≤ s.probeRttInflightTarget ∨
        event.bytesInFlight ≤ s.getMinimumCongestionWindow then
      ({ s with exitTime := event.eventTime + s.params.probeRttDuration }, .probeRtt)
    else (s, .probeRtt)
  else (s, if s.exitTime < event.eventTime then .probeBw else .probeRtt)

def probeRttEnter (s : Bbr2Sender) : Bbr2Sender :=
  { s with model := s.model.setGains 1 1, exitTime := 0 }

/-! ## Dispatch over the modes -/

def modeOnCongestionEvent (s : Bbr2Sender) (priorInFlight : Nat) (eventTime : Int)
    (event : Bbr2CongestionEvent) : Bbr2Sender × Bbr2Mode :=
  match s.mode with
  | .startup => s.startupOnCongestionEvent event
  | .probeBw => s.probeBwOnCongestionEvent priorInFlight eventTime event
  | .drain => s.drainOnCongestionEvent event
  | .probeRtt => s.probeRttOnCongestionEvent event

def isProbingForBandwidth (s : Bbr2Sender) : Bool :=
  match s.mode with
  | .startup => true
  | .probeBw => s.probeBw.cycle.phase == .probeRefill || s.probeBw.cycle.phase == .probeUp
  | .drain => false
  | .probeRtt => false

def leaveMode (s : Bbr2Sender) (now : Int) : Bbr2Sender :=
  match s.mode with
  | .startup =>
      { s with
        connectionStats :=
          { s.connectionStats with
            slowstartDuration := s.connectionStats.slowstartDuration.stop now }
        model := s.model.clearBandwidthLo }
  | _ => s

def enterMode (s : Bbr2Sender) (now : Int) : Bbr2Sender :=
  match s.mode with
  | .probeBw => s.probeBwEnter now
  | .probeRtt => s.probeRttEnter
  | _ => s

def changeMode (s : Bbr2Sender) (nextMode : Bbr2Mode) (now : Int) : Bbr2Sender :=
  { s.leaveMode now with mode := nextMode }.enterMode now

/-- `Bbr2ModeBase::OnExitQuiescence` of the current mode. -/
def modeOnExitQuiescence (s : Bbr2Sender) (now quiescenceStartTime : Int) :
    Bbr2Sender × Bbr2Mode :=
  match s.mode with
  | .startup => (s, .startup)
  | .drain => (s, .drain)
  | .probeBw =>
      ({ s with model := s.model.postponeMinRttTimestamp (now - quiescenceStartTime) }, .probeBw)
  | .probeRtt => (s, if s.exitTime < now then .probeBw else .probeRtt)

def getCwndLimitsByMode (s : Bbr2Sender) : Limits :=
  match s.mode with
  | .startup => .noGreaterThan s.model.inflightLo
  | .drain => .noGreaterThan s.model.inflightLo
  | .probeBw =>
      if s.probeBw.cycle.phase = .probeCruise then
        .noGreaterThan (min s.model.inflightLo s.model.inflightHiWithHeadroom)
      else .noGreaterThan (min s.model.inflightLo s.model.inflightHi)
  | .probeRtt =>
      .noGreaterThan (min (min s.model.inflightLo s.model.inflightHiWithHeadroom)
        s.probeRttInflightTarget)

/-! ## The sender -/

def kMaxModeChangesPerCongestionEvent : Nat := 4

def kInitialPacingGain : Rat := float32 (2885 / 1000)

/-- The constructor of `Bbr2Sender` with the default parameters. -/
def create (now : Int) (rttStats : RttStats)
    (initialCwndInPackets maxCwndInPackets : Nat) (stream : Nat → Nat) : Bbr2Sender :=
  let params : Bbr2Params :=
    { cwndLimits := ⟨4 * kMaxSegmentSize, maxCwndInPackets * kDefaultTCPMSS⟩ }
  let cwnd := params.cwndLimits.applyLimits (initialCwndInPackets * kDefaultTCPMSS)
  { model := Bbr2NetworkModel.create params rttStats.smoothedOrInitialRtt rttStats.lastUpdateTime
      params.startupCwndGain params.startupPacingGain
    connectionStats :=
      { slowstartCount := 1, slowstartDuration := QuicTimeAccumulator.start {} now }
    initialCwnd := cwnd
    cwnd
    pacingRate := (QuicBandwidth.fromBytesAndTimeDelta cwnd rttStats.smoothedOrInitialRtt).scale
      kInitialPacingGain
    random := { stream } }

/-- The `while` loop of `OnCongestionEvent`, bounded by the mode changes it may still make. -/
def runModes (priorInFlight : Nat) (eventTime : Int) (event : Bbr2CongestionEvent) :
    Nat → Bbr2Sender → Bbr2Sender
  | 0, s => s
  | changes + 1, s =>
      let (s, nextMode) := s.modeOnCongestionEvent priorInFlight eventTime event
      if nextMode = s.mode then s
      else runModes priorInFlight eventTime event changes (s.changeMode nextMode eventTime)

def updatePacingRate (s : Bbr2Sender) (bytesAcked : Nat) : Bbr2Sender :=
  if s.model.bandwidthEstimate.isZero then s
  else if s.model.totalBytesAcked = bytesAcked then
    { s with pacingRate := .fromBytesAndTimeDelta s.cwnd s.model.minRtt }
  else
    let targetRate := s.model.bandwidthEstimate.scale s.model.pacingGain
    let mayDecrease := s.model.fullBandwidthReached ||
      (s.params.decreaseStartupPacingAtEndOfRound &&
        s.model.pacingGain < s.params.startupPacingGain) ||
      (s.params.bwLoMode != .default && 0 < s.model.lossEventsInRound)
    { s with pacingRate := if mayDecrease then targetRate else max s.pacingRate targetRate }

def getTargetCongestionWindow (s : Bbr2Sender) (gain : Rat) : Nat :=
  max (s.model.bdpWithGain s.model.bandwidthEstimate gain) s.params.cwndLimits.min

def updateCongestionWindow (s : Bbr2Sender) (bytesAcked : Nat) : Bbr2Sender :=
  let targetCwnd := s.getTargetCongestionWindow s.model.cwndGain
  let cwnd :=
    if s.model.fullBandwidthReached then
      min (s.cwnd + bytesAcked) (addUint64 targetCwnd s.model.maxAckHeight)
    else if s.cwnd < targetCwnd ∨ s.cwnd < 2 * s.initialCwnd then s.cwnd + bytesAcked
    else s.cwnd
  { s with cwnd := s.params.cwndLimits.applyLimits (s.getCwndLimitsByMode.applyLimits cwnd) }

def startCongestionEvent (s : Bbr2Sender) (priorInFlight : Nat) : Bbr2CongestionEvent :=
  { priorCwnd := s.cwnd
    priorBytesInFlight := priorInFlight
    isProbingForBandwidth := s.isProbingForBandwidth }

def countSlowStart (s : Bbr2Sender) (event : Bbr2CongestionEvent) (lostPackets : List LostPacket) :
    Bbr2Sender :=
  if s.mode = .startup then
    let stats := s.connectionStats
    { s with
      connectionStats :=
        { stats with
          slowstartPacketsLost := stats.slowstartPacketsLost + lostPackets.length
          slowstartBytesLost :=
            if lostPackets.isEmpty then stats.slowstartBytesLost
            else stats.slowstartBytesLost + event.bytesLost
          slowstartNumRtts :=
            if event.endOfRoundTrip then stats.slowstartNumRtts + 1
            else stats.slowstartNumRtts } }
  else s

def onEnterQuiescence (s : Bbr2Sender) (now : Int) : Bbr2Sender :=
  { s with lastQuiescenceStart := now }

/-- The last step of `OnCongestionEvent`. -/
def maybeEnterQuiescence (s : Bbr2Sender) (event : Bbr2CongestionEvent) (eventTime : Int) :
    Bbr2Sender :=
  if event.bytesInFlight = 0 ∧ s.params.avoidUnnecessaryProbeRtt = true then
    s.onEnterQuiescence eventTime
  else s

def onCongestionEvent (s : Bbr2Sender) (leastUnacked priorInFlight : Nat) (eventTime : Int)
    (ackedPackets : List AckedPacket) (lostPackets : List LostPacket) : Bbr2Sender :=
  let (model, event) := s.model.onCongestionEventStart eventTime ackedPackets lostPackets
    (s.startCongestionEvent priorInFlight)
  let s := { s with model }.countSlowStart event lostPackets
  let s := runModes priorInFlight eventTime event (kMaxModeChangesPerCongestionEvent + 1) s
  let s := (s.updatePacingRate event.bytesAcked).updateCongestionWindow event.bytesAcked
  { s with model := s.model.onCongestionEventFinish leastUnacked event }.maybeEnterQuiescence
    event eventTime

def onExitQuiescence (s : Bbr2Sender) (now : Int) : Bbr2Sender :=
  if s.lastQuiescenceStart ≠ 0 then
    let (s, nextMode) := s.modeOnExitQuiescence now (min now s.lastQuiescenceStart)
    let s := if nextMode ≠ s.mode then s.changeMode nextMode now else s
    { s with lastQuiescenceStart := 0 }
  else s

def onPacketSent (s : Bbr2Sender) (sentTime : Int) (bytesInFlight packetNumber bytes : Nat) :
    Bbr2Sender :=
  let stats := s.connectionStats
  let s :=
    if s.mode = .startup then
      { s with
        connectionStats :=
          { stats with
            slowstartPacketsSent := stats.slowstartPacketsSent + 1
            slowstartBytesSent := stats.slowstartBytesSent + bytes } }
    else s
  let s :=
    if bytesInFlight = 0 ∧ s.params.avoidUnnecessaryProbeRtt = true then s.onExitQuiescence sentTime
    else s
  { s with model := s.model.onPacketSent sentTime bytesInFlight packetNumber bytes }

def canSend (s : Bbr2Sender) (bytesInFlight : Nat) : Bool := bytesInFlight < s.cwnd

end Bbr2Sender

instance : SendAlgorithmInterface Bbr2Sender where
  onCongestionEvent s _ map _ priorInFlight eventTime acked lost :=
    s.onCongestionEvent map.leastUnacked priorInFlight eventTime acked lost
  onPacketSent := Bbr2Sender.onPacketSent
  canSend := Bbr2Sender.canSend
  pacingRate s _ _ := s.pacingRate
  bandwidthEstimate s := s.model.bandwidthEstimate
  getCongestionWindow s := s.cwnd
  inSlowStart s := s.mode == .startup
  inRecovery _ := false
  onRetransmissionTimeout s _ := s

end BbrChrome
