import BbrChrome.Congestion.Bbr2Sender

/-!
# BBRv1 sender
-/

namespace BbrChrome

open Rounding

inductive BbrMode
  | startup
  | drain
  | probeBw
  | probeRtt
deriving DecidableEq, Repr

inductive RecoveryState
  | notInRecovery
  | conservation
  | growth
deriving DecidableEq, Repr

def kDefaultHighGain : Rat := float32 (2885 / 1000)

def kDerivedHighCwndGain : Rat := 2

def kPacingGain : List Rat := [5 / 4, 3 / 4, 1, 1, 1, 1, 1, 1]

def kGainCycleLength : Nat := kPacingGain.length

def kBandwidthWindowSize : Nat := kGainCycleLength + 2

def kMinRttExpiry : Int := Time.fromSeconds 10

def kProbeRttTime : Int := Time.fromMilliseconds 200

def kStartupGrowthTarget : Rat := 5 / 4

def startupFullLossCount : Nat := 3

def defaultLossThreshold : Nat := 3

def initialPacingRate : Nat := 800000

structure BbrSender where
  stats : SenderStats := {}
  mode : BbrMode := .startup
  sampler : BandwidthSampler := .create kBandwidthWindowSize
  roundTripCount : Nat := 0
  lastSentPacket : QuicPacketNumber := .uninitialized
  currentRoundTripEnd : QuicPacketNumber := .uninitialized
  numLossEventsInRound : Nat := 0
  bytesLostInRound : Nat := 0
  maxBandwidth : WindowedFilter QuicBandwidth := .create kBandwidthWindowSize .zero 0
  minRtt : Int := 0
  minRttTimestamp : Int := 0
  congestionWindow : Nat
  initialCongestionWindow : Nat
  maxCongestionWindow : Nat
  minCongestionWindow : Nat := 4 * kMaxSegmentSize
  highGain : Rat := kDefaultHighGain
  highCwndGain : Rat := kDefaultHighGain
  drainGain : Rat := float32 (1 / kDefaultHighGain)
  pacingRate : QuicBandwidth := .zero
  pacingGain : Rat := 1
  congestionWindowGain : Rat := 1
  congestionWindowGainConstant : Rat := 2
  numStartupRtts : Nat := 3
  cycleCurrentOffset : Nat := 0
  lastCycleStart : Int := 0
  isAtFullBandwidth : Bool := false
  roundsWithoutBandwidthGain : Nat := 0
  bandwidthAtLastRound : QuicBandwidth := .zero
  exitingQuiescence : Bool := false
  exitProbeRttAt : Int := 0
  probeRttRoundPassed : Bool := false
  lastSampleIsAppLimited : Bool := false
  hasNonAppLimitedSample : Bool := false
  recoveryState : RecoveryState := .notInRecovery
  endRecoveryAt : QuicPacketNumber := .uninitialized
  recoveryWindow : Nat
  enableAckAggregationDuringStartup : Bool := false
  expireAckAggregationInStartup : Bool := false
  drainToTarget : Bool := false
  detectOvershooting : Bool := false
  bytesLostWhileDetectingOvershooting : Nat := 0
  bytesLostMultiplierWhileDetectingOvershooting : Nat := 2
  cwndToCalculateMinPacingRate : Nat
  random : RandomSource

namespace BbrSender

def inSlowStart (s : BbrSender) : Bool := s.mode == .startup

def inRecovery (s : BbrSender) : Bool := s.recoveryState != .notInRecovery

def bandwidthEstimate (s : BbrSender) : QuicBandwidth := s.maxBandwidth.getBest

def probeRttCongestionWindow (s : BbrSender) : Nat := s.minCongestionWindow

def getCongestionWindow (s : BbrSender) : Nat :=
  if s.mode = .probeRtt then s.probeRttCongestionWindow
  else if s.inRecovery then min s.congestionWindow s.recoveryWindow
  else s.congestionWindow

def getMinRtt (s : BbrSender) (rttStats : RttStats) : Int :=
  if s.minRtt ≠ 0 then s.minRtt else rttStats.minOrInitialRtt

def getTargetCongestionWindow (s : BbrSender) (rttStats : RttStats) (gain : Rat) : Nat :=
  let bdp := s.bandwidthEstimate.toBytesPerPeriod (s.getMinRtt rttStats)
  let window := toByteCount (float32 (gain * float32 bdp))
  let window :=
    if window = 0 then toByteCount (float32 (gain * float32 s.initialCongestionWindow))
    else window
  max window s.minCongestionWindow

/-! ## Modes -/

def enterStartupMode (s : BbrSender) (now : Int) : BbrSender :=
  { s with
    stats :=
      { s.stats with
        slowstartCount := s.stats.slowstartCount + 1
        slowstartDuration := s.stats.slowstartDuration.start now }
    mode := .startup
    pacingGain := s.highGain
    congestionWindowGain := s.highCwndGain }

def onExitStartup (s : BbrSender) (now : Int) : BbrSender :=
  { s with
    stats := { s.stats with slowstartDuration := s.stats.slowstartDuration.stop now } }

def pacingGainAt (offset : Nat) : Rat := kPacingGain.getD offset 1

/-- Offset 1 of the gain cycle is excluded. -/
def enterProbeBandwidthMode (s : BbrSender) (now : Int) : BbrSender :=
  let (random, draw) := s.random.next (kGainCycleLength - 1)
  let offset := if 1 ≤ draw then draw + 1 else draw
  { s with
    random
    mode := .probeBw
    congestionWindowGain := s.congestionWindowGainConstant
    cycleCurrentOffset := offset
    lastCycleStart := now
    pacingGain := pacingGainAt offset }

def updateRoundTripCounter (s : BbrSender) (lastAckedPacket : Nat) : BbrSender × Bool :=
  if !s.currentRoundTripEnd.isInitialized || s.currentRoundTripEnd.below lastAckedPacket then
    ({ s with
        roundTripCount := s.roundTripCount + 1
        currentRoundTripEnd := s.lastSentPacket
        stats :=
          if s.inSlowStart then
            { s.stats with slowstartNumRtts := s.stats.slowstartNumRtts + 1 }
          else s.stats }, true)
  else (s, false)

/-- Returns whether the previous minimum had expired. -/
def maybeUpdateMinRtt (s : BbrSender) (now sampleMinRtt : Int) : BbrSender × Bool :=
  let expired : Bool := s.minRtt ≠ 0 ∧ s.minRttTimestamp + kMinRttExpiry < now
  if expired || sampleMinRtt < s.minRtt || s.minRtt = 0 then
    ({ s with minRtt := sampleMinRtt, minRttTimestamp := now }, expired)
  else (s, expired)

def updateGainCyclePhase (s : BbrSender) (rttStats : RttStats) (bytesInFlight : Nat) (now : Int)
    (priorInFlight : Nat) (hasLosses : Bool) : BbrSender :=
  let advance : Bool := s.getMinRtt rttStats < now - s.lastCycleStart
  let advance :=
    if 1 < s.pacingGain ∧ hasLosses = false ∧
        priorInFlight < s.getTargetCongestionWindow rttStats s.pacingGain then false
    else advance
  let advance :=
    if s.pacingGain < 1 ∧ bytesInFlight ≤ s.getTargetCongestionWindow rttStats 1 then true
    else advance
  if advance then
    let offset := (s.cycleCurrentOffset + 1) % kGainCycleLength
    let stayLow : Bool := s.drainToTarget && s.pacingGain < 1 && pacingGainAt offset == 1 &&
      s.getTargetCongestionWindow rttStats 1 < bytesInFlight
    { s with
      cycleCurrentOffset := offset
      stats :=
        if offset = 0 then { s.stats with bbrNumCycles := s.stats.bbrNumCycles + 1 } else s.stats
      lastCycleStart := now
      pacingGain := if stayLow then s.pacingGain else pacingGainAt offset }
  else s

def shouldExitStartupDueToLoss (s : BbrSender) (lastPacketSendState : SendTimeState) : Bool :=
  if s.numLossEventsInRound < startupFullLossCount || !lastPacketSendState.isValid then false
  else
    let inflightAtSend := lastPacketSendState.bytesInFlight
    0 < inflightAtSend && 0 < s.bytesLostInRound &&
      inflightAtSend * defaultLossThreshold < s.bytesLostInRound

def checkIfFullBandwidthReached (s : BbrSender) (lastPacketSendState : SendTimeState) :
    BbrSender :=
  if s.lastSampleIsAppLimited then s
  else if s.bandwidthAtLastRound.scale kStartupGrowthTarget ≤ s.bandwidthEstimate then
    { s with
      bandwidthAtLastRound := s.bandwidthEstimate
      roundsWithoutBandwidthGain := 0
      sampler :=
        if s.expireAckAggregationInStartup then
          s.sampler.resetMaxAckHeightTracker 0 s.roundTripCount
        else s.sampler }
  else
    let rounds := s.roundsWithoutBandwidthGain + 1
    let s := { s with roundsWithoutBandwidthGain := rounds }
    if s.numStartupRtts ≤ rounds then { s with isAtFullBandwidth := true }
    else if s.shouldExitStartupDueToLoss lastPacketSendState then
      { s with
        isAtFullBandwidth := true
        stats := { s.stats with bbrExitStartupDueToLoss := true } }
    else s

def maybeExitStartupOrDrain (s : BbrSender) (rttStats : RttStats) (bytesInFlight : Nat)
    (now : Int) : BbrSender :=
  let s :=
    if s.mode = .startup ∧ s.isAtFullBandwidth = true then
      { s.onExitStartup now with
        mode := .drain
        pacingGain := s.drainGain
        congestionWindowGain := s.highCwndGain }
    else s
  if s.mode = .drain ∧ bytesInFlight ≤ s.getTargetCongestionWindow rttStats 1 then
    s.enterProbeBandwidthMode now
  else s

/-- The part of `MaybeEnterOrExitProbeRtt` that runs in PROBE_RTT. -/
def continueProbeRtt (s : BbrSender) (bytesInFlight : Nat) (now : Int) (isRoundStart : Bool) :
    BbrSender :=
  let s := { s with sampler := s.sampler.onAppLimited }
  if s.exitProbeRttAt = 0 then
    if bytesInFlight < s.probeRttCongestionWindow + kMaxOutgoingPacketSize then
      { s with exitProbeRttAt := now + kProbeRttTime, probeRttRoundPassed := false }
    else s
  else
    let s := { s with probeRttRoundPassed := isRoundStart || s.probeRttRoundPassed }
    if s.exitProbeRttAt ≤ now && s.probeRttRoundPassed then
      let s := { s with minRttTimestamp := now }
      if s.isAtFullBandwidth then s.enterProbeBandwidthMode now else s.enterStartupMode now
    else s

def enterProbeRtt (s : BbrSender) (now : Int) : BbrSender :=
  { (if s.inSlowStart then s.onExitStartup now else s) with
    mode := .probeRtt
    pacingGain := 1
    exitProbeRttAt := 0 }

def maybeEnterOrExitProbeRtt (s : BbrSender) (bytesInFlight : Nat) (now : Int)
    (isRoundStart minRttExpired : Bool) : BbrSender :=
  let s :=
    if minRttExpired && !s.exitingQuiescence && s.mode != .probeRtt then s.enterProbeRtt now
    else s
  let s :=
    if s.mode = .probeRtt then s.continueProbeRtt bytesInFlight now isRoundStart else s
  { s with exitingQuiescence := false }

/-! ## Recovery -/

/-- The `GROWTH` case, which the `CONSERVATION` case falls through to. -/
def maybeExitRecovery (s : BbrSender) (lastAckedPacket : Nat) (hasLosses : Bool) : BbrSender :=
  if !hasLosses && s.endRecoveryAt.below lastAckedPacket then
    { s with recoveryState := .notInRecovery }
  else s

/-- The three cases of the recovery state. -/
def moveRecoveryState (s : BbrSender) (lastAckedPacket : Nat) (hasLosses isRoundStart : Bool) :
    BbrSender :=
  match s.recoveryState with
  | .notInRecovery =>
      if hasLosses then
        { s with
          recoveryState := .conservation
          recoveryWindow := 0
          currentRoundTripEnd := s.lastSentPacket }
      else s
  | .conservation =>
      let s := if isRoundStart then { s with recoveryState := .growth } else s
      s.maybeExitRecovery lastAckedPacket hasLosses
  | .growth => s.maybeExitRecovery lastAckedPacket hasLosses

def updateRecoveryState (s : BbrSender) (lastAckedPacket : Nat)
    (hasLosses isRoundStart : Bool) : BbrSender :=
  if !s.isAtFullBandwidth then s
  else
    let s := if hasLosses then { s with endRecoveryAt := s.lastSentPacket } else s
    s.moveRecoveryState lastAckedPacket hasLosses isRoundStart

def calculateRecoveryWindow (s : BbrSender) (bytesInFlight bytesAcked bytesLost : Nat) :
    BbrSender :=
  if s.recoveryState = .notInRecovery then s
  else if s.recoveryWindow = 0 then
    { s with recoveryWindow := max s.minCongestionWindow (bytesInFlight + bytesAcked) }
  else
    let window :=
      if bytesLost ≤ s.recoveryWindow then s.recoveryWindow - bytesLost else kMaxSegmentSize
    let window := if s.recoveryState = .growth then window + bytesAcked else window
    { s with
      recoveryWindow := max s.minCongestionWindow (max window (bytesInFlight + bytesAcked)) }

/-! ## Pacing rate and congestion window -/

/-- Slow the pacing rate down once overshooting is certain. -/
def handleOvershooting (s : BbrSender) (rttStats : RttStats) (targetRate : QuicBandwidth)
    (bytesLost : Nat) : BbrSender :=
  let lost := s.bytesLostWhileDetectingOvershooting + bytesLost
  let s := { s with bytesLostWhileDetectingOvershooting := lost }
  if targetRate < s.pacingRate ∧ 0 < lost ∧ (s.hasNonAppLimitedSample = true ∨
      s.initialCongestionWindow < lost * s.bytesLostMultiplierWhileDetectingOvershooting) then
    { s with
      pacingRate := max targetRate
        (.fromBytesAndTimeDelta s.cwndToCalculateMinPacingRate (s.getMinRtt rttStats))
      stats := { s.stats with overshootingDetectedWithNetworkParametersAdjusted := true }
      bytesLostWhileDetectingOvershooting := 0
      detectOvershooting := false }
  else s

def calculatePacingRate (s : BbrSender) (rttStats : RttStats) (bytesLost : Nat) : BbrSender :=
  if s.bandwidthEstimate.isZero then s
  else
    let targetRate := s.bandwidthEstimate.scale s.pacingGain
    if s.isAtFullBandwidth then { s with pacingRate := targetRate }
    else if s.pacingRate.isZero ∧ rttStats.minRtt ≠ 0 then
      { s with pacingRate := .fromBitsPerSecond initialPacingRate }
    else
      let s :=
        if s.detectOvershooting then s.handleOvershooting rttStats targetRate bytesLost else s
      { s with pacingRate := max s.pacingRate targetRate }

def calculateCongestionWindow (s : BbrSender) (rttStats : RttStats)
    (bytesAcked excessAcked : Nat) : BbrSender :=
  if s.mode = .probeRtt then s
  else
    let target := s.getTargetCongestionWindow rttStats s.congestionWindowGain
    let target :=
      if !s.isAtFullBandwidth && s.enableAckAggregationDuringStartup then
        addUint64 target excessAcked
      else target
    let window :=
      if s.isAtFullBandwidth then min target (s.congestionWindow + bytesAcked)
      else if s.congestionWindow < target ∨
          s.sampler.totalBytesAcked < s.initialCongestionWindow then
        s.congestionWindow + bytesAcked
      else s.congestionWindow
    { s with
      congestionWindow := min (max window s.minCongestionWindow) s.maxCongestionWindow }

/-! ## The sender -/

def create (now : Int) (initialTcpCongestionWindow maxTcpCongestionWindow : Nat)
    (stream : Nat → Nat) : BbrSender :=
  let window := initialTcpCongestionWindow * kDefaultTCPMSS
  let sender : BbrSender :=
    { congestionWindow := window
      initialCongestionWindow := window
      maxCongestionWindow := maxTcpCongestionWindow * kDefaultTCPMSS
      recoveryWindow := maxTcpCongestionWindow * kDefaultTCPMSS
      cwndToCalculateMinPacingRate := window
      random := { stream } }
  { sender.enterStartupMode now with
    highCwndGain := kDerivedHighCwndGain
    congestionWindowGain := kDerivedHighCwndGain }

def onPacketSent (s : BbrSender) (sentTime : Int) (bytesInFlight packetNumber bytes : Nat) :
    BbrSender :=
  let stats := s.stats
  { s with
    stats :=
      if s.inSlowStart then
        { stats with
          slowstartPacketsSent := stats.slowstartPacketsSent + 1
          slowstartBytesSent := stats.slowstartBytesSent + bytes }
      else stats
    lastSentPacket := .number packetNumber
    exitingQuiescence := (bytesInFlight == 0 && s.sampler.isAppLimited) || s.exitingQuiescence
    sampler := s.sampler.onPacketSent sentTime packetNumber bytes bytesInFlight }

/-- The round and recovery bookkeeping for the last acked packet. -/
def beginAcks (s : BbrSender) (ackedPackets : List AckedPacket) (hasLosses : Bool) :
    BbrSender × Bool :=
  match ackedPackets.getLast? with
  | none => (s, false)
  | some last =>
      let (s, isRoundStart) := s.updateRoundTripCounter last.packetNumber
      (s.updateRecoveryState last.packetNumber hasLosses isRoundStart, isRoundStart)

def recordSendState (s : BbrSender) (state : SendTimeState) : BbrSender :=
  if state.isValid then
    let hasNonAppLimitedSample := s.hasNonAppLimitedSample || !state.isAppLimited
    { s with
      lastSampleIsAppLimited := state.isAppLimited
      hasNonAppLimitedSample
      stats := { s.stats with hasNonAppLimitedSample } }
  else s

def updateMaxBandwidth (s : BbrSender) (sample : CongestionEventSample) (anyAcked : Bool) :
    BbrSender :=
  if anyAcked && (!sample.sampleIsAppLimited ||
      s.maxBandwidth.getBest < sample.sampleMaxBandwidth) then
    { s with
      maxBandwidth := s.maxBandwidth.update maxFilter sample.sampleMaxBandwidth s.roundTripCount }
  else s

def countLosses (s : BbrSender) (lostPackets : List LostPacket) (bytesLost : Nat) : BbrSender :=
  { s with
    stats :=
      if s.mode = .startup then
        { s.stats with
          slowstartPacketsLost := s.stats.slowstartPacketsLost + lostPackets.length
          slowstartBytesLost := s.stats.slowstartBytesLost + bytesLost }
      else s.stats
    numLossEventsInRound :=
      if lostPackets.isEmpty then s.numLossEventsInRound else s.numLossEventsInRound + 1
    bytesLostInRound :=
      if lostPackets.isEmpty then s.bytesLostInRound else s.bytesLostInRound + bytesLost }

/-- Feed the sample of the event to the filters; returns whether the minimum RTT expired. -/
def recordSample (s : BbrSender) (sample : CongestionEventSample) (anyAcked : Bool)
    (eventTime : Int) (lostPackets : List LostPacket) (bytesLost : Nat) : BbrSender × Bool :=
  let s := s.recordSendState sample.lastPacketSendState
  let s := s.updateMaxBandwidth sample anyAcked
  let (s, minRttExpired) :=
    if sample.sampleRtt = Time.infinite then (s, false)
    else s.maybeUpdateMinRtt eventTime sample.sampleRtt
  (s.countLosses lostPackets bytesLost, minRttExpired)

/-- The mode transitions of one event. -/
def updateMode (s : BbrSender) (rttStats : RttStats) (bytesInFlight priorInFlight : Nat)
    (eventTime : Int) (hasLosses isRoundStart minRttExpired : Bool)
    (lastPacketSendState : SendTimeState) : BbrSender :=
  let s :=
    if s.mode = .probeBw then
      s.updateGainCyclePhase rttStats bytesInFlight eventTime priorInFlight hasLosses
    else s
  let s :=
    if isRoundStart && !s.isAtFullBandwidth then
      s.checkIfFullBandwidthReached lastPacketSendState
    else s
  let s := s.maybeExitStartupOrDrain rttStats bytesInFlight eventTime
  s.maybeEnterOrExitProbeRtt bytesInFlight eventTime isRoundStart minRttExpired

/-- What follows the sampling of an event: the filters, the modes, the rate and the
windows. The arguments `ackedBefore` and `lostBefore` are the totals before the event. -/
def reactToSample (s : BbrSender) (rttStats : RttStats) (map : QuicUnackedPacketMap)
    (priorInFlight : Nat) (eventTime : Int) (lostPackets : List LostPacket)
    (ackedBefore lostBefore : Nat) (isRoundStart : Bool) (sample : CongestionEventSample) :
    BbrSender :=
  let bytesAcked := subUint64 s.sampler.totalBytesAcked ackedBefore
  let bytesLost := subUint64 s.sampler.totalBytesLost lostBefore
  let (s, minRttExpired) := s.recordSample sample (ackedBefore != s.sampler.totalBytesAcked)
    eventTime lostPackets bytesLost
  let s := s.updateMode rttStats map.bytesInFlight priorInFlight eventTime (!lostPackets.isEmpty)
    isRoundStart minRttExpired sample.lastPacketSendState
  let s := s.calculatePacingRate rttStats bytesLost
  let s := s.calculateCongestionWindow rttStats bytesAcked sample.extraAcked
  s.calculateRecoveryWindow map.bytesInFlight bytesAcked bytesLost

/-- Trim the sampler and restart the counters of the round. -/
def endCongestionEvent (s : BbrSender) (leastUnacked : Nat) (isRoundStart : Bool) : BbrSender :=
  let s := { s with sampler := s.sampler.removeObsoletePackets leastUnacked }
  if isRoundStart then { s with numLossEventsInRound := 0, bytesLostInRound := 0 } else s

def onCongestionEvent (s : BbrSender) (rttStats : RttStats) (map : QuicUnackedPacketMap)
    (priorInFlight : Nat) (eventTime : Int) (ackedPackets : List AckedPacket)
    (lostPackets : List LostPacket) : BbrSender :=
  let ackedBefore := s.sampler.totalBytesAcked
  let lostBefore := s.sampler.totalBytesLost
  let (s, isRoundStart) := s.beginAcks ackedPackets (!lostPackets.isEmpty)
  let (sampler, sample) := s.sampler.onCongestionEvent eventTime ackedPackets lostPackets
    s.maxBandwidth.getBest .infinite s.roundTripCount
  let s := { s with sampler }.reactToSample rttStats map priorInFlight eventTime lostPackets
    ackedBefore lostBefore isRoundStart sample
  s.endCongestionEvent map.leastUnacked isRoundStart

end BbrSender

instance : SendAlgorithmInterface BbrSender where
  onCongestionEvent s rttStats map _ priorInFlight eventTime acked lost :=
    s.onCongestionEvent rttStats map priorInFlight eventTime acked lost
  onPacketSent := BbrSender.onPacketSent
  canSend s bytesInFlight := bytesInFlight < s.getCongestionWindow
  pacingRate s _ _ :=
    if s.pacingRate.isZero then .fromBitsPerSecond initialPacingRate else s.pacingRate
  bandwidthEstimate := BbrSender.bandwidthEstimate
  getCongestionWindow := BbrSender.getCongestionWindow
  inSlowStart := BbrSender.inSlowStart
  inRecovery := BbrSender.inRecovery
  onRetransmissionTimeout s _ := s

end BbrChrome
