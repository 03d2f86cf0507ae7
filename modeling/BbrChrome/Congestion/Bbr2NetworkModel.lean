import BbrChrome.Congestion.BandwidthSampler

/-!
# BBRv2 network model

Parameters, filters and the network model that the modes of the BBRv2 sender
read and update.
-/

namespace BbrChrome

open Rounding

/-- `Limits<QuicByteCount>`. -/
structure Limits where
  min : Nat
  max : Nat
deriving DecidableEq, Repr

namespace Limits

/-- An empty range gives its maximum. -/
def applyLimits (limits : Limits) (rawValue : Nat) : Nat :=
  Min.min limits.max (Max.max limits.min rawValue)

def noGreaterThan (max : Nat) : Limits := ⟨0, max⟩

end Limits

inductive QuicBandwidthLoMode
  | default
  | minRttReduction
  | inflightReduction
  | cwndReduction
deriving DecidableEq, Repr

structure Bbr2Params where
  startupCwndGain : Rat := 2
  startupPacingGain : Rat := float32 (2885 / 1000)
  startupFullBwThreshold : Rat := 5 / 4
  startupFullBwRounds : Nat := 3
  startupFullLossCount : Nat := 20
  alwaysExitStartupOnExcessLoss : Bool := false
  drainCwndGain : Rat := 2
  drainPacingGain : Rat := float32 (float64 (1 / float64 (2885 / 1000)))
  probeBwMaxProbeRandRounds : Nat := 2
  probeBwProbeMaxRounds : Nat := 63
  probeBwProbeRenoGain : Rat := 1
  probeBwProbeBaseDuration : Int := Time.fromMilliseconds 100
  probeBwProbeMaxRandDuration : Int := Time.fromMilliseconds 1000
  probeBwFullLossCount : Nat := 30
  probeBwProbeInflightGain : Rat := 5 / 4
  probeBwProbeUpPacingGain : Rat := 5 / 4
  probeBwProbeDownPacingGain : Rat := 3 / 4
  probeBwDefaultPacingGain : Rat := 1
  probeBwCwndGain : Rat := 2
  probeRttInflightTargetBdpFraction : Rat := 1 / 2
  probeRttPeriod : Int := Time.fromMilliseconds 200
  probeRttDuration : Int := Time.fromMilliseconds 200
  initialMaxAckHeightFilterWindow : Nat := 4
  inflightHiHeadroom : Rat := float32 (3 / 10)
  lossThreshold : Rat := 30
  beta : Rat := float32 (3 / 10)
  cwndLimits : Limits
  addAckHeightToQueueingThreshold : Bool := true
  avoidUnnecessaryProbeRtt : Bool := true
  ignoreInflightLo : Bool := false
  limitInflightHiByMaxDelivered : Bool := false
  startupLossExitUseMaxDeliveredForInflightHi : Bool := true
  useBytesDeliveredForInflightHi : Bool := false
  enableRenoCoexistence : Bool := true
  bwLoMode : QuicBandwidthLoMode := .default
  decreaseStartupPacingAtEndOfRound : Bool := false
deriving DecidableEq, Repr

/-- `1.0 - beta`, a `double`. -/
def Bbr2Params.oneMinusBeta (params : Bbr2Params) : Rat := float64 (1 - params.beta)

/-! ## Filters -/

structure RoundTripCounter where
  roundTripCount : Nat := 0
  lastSentPacket : QuicPacketNumber := .uninitialized
  endOfRoundTrip : QuicPacketNumber := .uninitialized
deriving DecidableEq, Repr

namespace RoundTripCounter

def onPacketSent (counter : RoundTripCounter) (packetNumber : Nat) : RoundTripCounter :=
  { counter with lastSentPacket := .number packetNumber }

/-- Returns whether a round trip has just completed. -/
def onPacketsAcked (counter : RoundTripCounter) (lastAckedPacket : Nat) :
    RoundTripCounter × Bool :=
  if !counter.endOfRoundTrip.isInitialized || counter.endOfRoundTrip.below lastAckedPacket then
    ({ counter with
        roundTripCount := counter.roundTripCount + 1
        endOfRoundTrip := counter.lastSentPacket }, true)
  else (counter, false)

def restartRound (counter : RoundTripCounter) : RoundTripCounter :=
  { counter with endOfRoundTrip := counter.lastSentPacket }

end RoundTripCounter

structure MinRttFilter where
  minRtt : Int
  minRttTimestamp : Int
deriving DecidableEq, Repr

def MinRttFilter.update (filter : MinRttFilter) (sampleRtt now : Int) : MinRttFilter :=
  if sampleRtt < filter.minRtt ∨ filter.minRttTimestamp = 0 then ⟨sampleRtt, now⟩ else filter

/-- The maxima of the previous and of the current interval. -/
structure Bbr2MaxBandwidthFilter where
  previous : QuicBandwidth := .zero
  current : QuicBandwidth := .zero
deriving DecidableEq, Repr

namespace Bbr2MaxBandwidthFilter

def update (filter : Bbr2MaxBandwidthFilter) (sample : QuicBandwidth) : Bbr2MaxBandwidthFilter :=
  { filter with current := max sample filter.current }

def advance (filter : Bbr2MaxBandwidthFilter) : Bbr2MaxBandwidthFilter :=
  if filter.current.isZero then filter else { previous := filter.current, current := .zero }

def get (filter : Bbr2MaxBandwidthFilter) : QuicBandwidth := max filter.previous filter.current

end Bbr2MaxBandwidthFilter

structure Bbr2CongestionEvent where
  eventTime : Int := 0
  priorCwnd : Nat
  priorBytesInFlight : Nat := 0
  bytesInFlight : Nat := 0
  bytesAcked : Nat := 0
  bytesLost : Nat := 0
  endOfRoundTrip : Bool := false
  lastSampleIsAppLimited : Bool := false
  isProbingForBandwidth : Bool := false
  sampleMinRtt : Int := Time.infinite
  sampleMaxBandwidth : QuicBandwidth := .zero
  lastPacketSendState : SendTimeState := {}
deriving DecidableEq, Repr

def bytesInFlightAtSend (sendState : SendTimeState) : Nat :=
  if sendState.bytesInFlight ≠ 0 then sendState.bytesInFlight
  else subUint64 (subUint64 sendState.totalBytesSent sendState.totalBytesAcked)
    sendState.totalBytesLost

/-! ## The model -/

structure Bbr2NetworkModel where
  params : Bbr2Params
  roundTripCounter : RoundTripCounter := {}
  bandwidthSampler : BandwidthSampler
  maxBandwidthFilter : Bbr2MaxBandwidthFilter := {}
  minRttFilter : MinRttFilter
  bytesLostInRound : Nat := 0
  lossEventsInRound : Nat := 0
  maxBytesDeliveredInRound : Nat := 0
  bandwidthLatest : QuicBandwidth := .zero
  bandwidthLo : QuicBandwidth := .infinite
  priorBandwidthLo : QuicBandwidth := .zero
  inflightLatest : Nat := 0
  inflightLo : Nat := maxUint64
  inflightHi : Nat := maxUint64
  cwndGain : Rat
  pacingGain : Rat
  fullBandwidthReached : Bool := false
  fullBandwidthBaseline : QuicBandwidth := .zero
  roundsWithoutBandwidthGrowth : Nat := 0
deriving DecidableEq, Repr

inductive BandwidthGrowth
  | appLimited
  | noGrowth
  | growth
  | exit
deriving DecidableEq, Repr

namespace Bbr2NetworkModel

def create (params : Bbr2Params) (initialRtt initialRttTimestamp : Int)
    (cwndGain pacingGain : Rat) : Bbr2NetworkModel :=
  { params
    bandwidthSampler := .create params.initialMaxAckHeightFilterWindow
    minRttFilter := ⟨initialRtt, initialRttTimestamp⟩
    cwndGain, pacingGain }

def maxBandwidth (m : Bbr2NetworkModel) : QuicBandwidth := m.maxBandwidthFilter.get

def minRtt (m : Bbr2NetworkModel) : Int := m.minRttFilter.minRtt

def minRttTimestamp (m : Bbr2NetworkModel) : Int := m.minRttFilter.minRttTimestamp

def bandwidthEstimate (m : Bbr2NetworkModel) : QuicBandwidth := min m.maxBandwidth m.bandwidthLo

def maxAckHeight (m : Bbr2NetworkModel) : Nat := m.bandwidthSampler.maxAckHeight

def totalBytesAcked (m : Bbr2NetworkModel) : Nat := m.bandwidthSampler.totalBytesAcked

def totalBytesLost (m : Bbr2NetworkModel) : Nat := m.bandwidthSampler.totalBytesLost

/-- `BDP(bandwidth)`. -/
def bdp (m : Bbr2NetworkModel) (bandwidth : QuicBandwidth) : Nat :=
  bandwidth.toBytesPerPeriod m.minRtt

/-- `BDP(bandwidth, gain)`. -/
def bdpWithGain (m : Bbr2NetworkModel) (bandwidth : QuicBandwidth) (gain : Rat) : Nat :=
  toByteCount (float32 (float32 (m.bdp bandwidth) * gain))

def setGains (m : Bbr2NetworkModel) (pacingGain cwndGain : Rat) : Bbr2NetworkModel :=
  { m with pacingGain, cwndGain }

def clearBandwidthLo (m : Bbr2NetworkModel) : Bbr2NetworkModel :=
  { m with bandwidthLo := .infinite }

def clearInflightLo (m : Bbr2NetworkModel) : Bbr2NetworkModel := { m with inflightLo := maxUint64 }

def setInflightHi (m : Bbr2NetworkModel) (inflightHi : Nat) : Bbr2NetworkModel :=
  { m with inflightHi }

def advanceMaxBandwidthFilter (m : Bbr2NetworkModel) : Bbr2NetworkModel :=
  { m with maxBandwidthFilter := m.maxBandwidthFilter.advance }

def postponeMinRttTimestamp (m : Bbr2NetworkModel) (duration : Int) : Bbr2NetworkModel :=
  { m with minRttFilter := ⟨m.minRtt, m.minRttTimestamp + duration⟩ }

def onPacketSent (m : Bbr2NetworkModel) (sentTime : Int) (bytesInFlight packetNumber bytes : Nat) :
    Bbr2NetworkModel :=
  { m with
    roundTripCounter := m.roundTripCounter.onPacketSent packetNumber
    bandwidthSampler := m.bandwidthSampler.onPacketSent sentTime packetNumber bytes bytesInFlight }

/-- The default reaction to loss, once per round. -/
def adaptLowerBoundsDefault (m : Bbr2NetworkModel) (event : Bbr2CongestionEvent) :
    Bbr2NetworkModel :=
  if !event.endOfRoundTrip || event.isProbingForBandwidth then m
  else if m.bytesLostInRound = 0 then m
  else
    let bandwidthLo := if m.bandwidthLo.isInfinite then m.maxBandwidth else m.bandwidthLo
    let m := { m with
      bandwidthLo :=
        max m.bandwidthLatest (bandwidthLo.scale (float32 m.params.oneMinusBeta)) }
    if m.params.ignoreInflightLo then m
    else
      let inflightLo := if m.inflightLo = maxUint64 then event.priorCwnd else m.inflightLo
      { m with
        inflightLo := max m.inflightLatest
          (toByteCount (float64 (float64 inflightLo * m.params.oneMinusBeta))) }

/-- The reduction of `bandwidth_lo_` by the mode, before any floor is applied. -/
def reducedBandwidthLo (m : Bbr2NetworkModel) (event : Bbr2CongestionEvent) : QuicBandwidth :=
  let cut (whole : Nat) : QuicBandwidth :=
    m.bandwidthLo.scale (float32 (float64
      (float64 (subUint64 whole event.bytesLost) / float64 whole)))
  match m.params.bwLoMode with
  | .minRttReduction =>
      m.bandwidthLo.sub (.fromBytesAndTimeDelta event.bytesLost m.minRtt)
  | .inflightReduction => cut (max (m.bdp m.maxBandwidth) event.priorBytesInFlight)
  | .cwndReduction => cut event.priorCwnd
  | .default => m.bandwidthLo

def adaptLowerBoundsOnLoss (m : Bbr2NetworkModel) (event : Bbr2CongestionEvent) :
    Bbr2NetworkModel :=
  if event.bytesLost = 0 then m
  else if m.pacingGain < 1 then m
  else
    let bandwidthLo := if m.bandwidthLo.isInfinite then m.maxBandwidth else m.bandwidthLo
    let m := { m with
      bandwidthLo
      priorBandwidthLo := if m.priorBandwidthLo.isZero then bandwidthLo else m.priorBandwidthLo }
    let lastBandwidth :=
      if event.sampleMaxBandwidth.isZero then m.bandwidthLatest else event.sampleMaxBandwidth
    let floor :=
      if m.params.startupFullBwThreshold < m.pacingGain then
        lastBandwidth.scale (float32 (m.params.startupFullBwThreshold / m.pacingGain))
      else lastBandwidth
    let m := { m with bandwidthLo := max (m.reducedBandwidthLo event) floor }
    if event.endOfRoundTrip then
      { m with
        bandwidthLo :=
          max m.bandwidthLo (m.priorBandwidthLo.scale (float32 m.params.oneMinusBeta))
        priorBandwidthLo := .zero }
    else m

def adaptLowerBounds (m : Bbr2NetworkModel) (event : Bbr2CongestionEvent) : Bbr2NetworkModel :=
  if m.params.bwLoMode = .default then m.adaptLowerBoundsDefault event
  else m.adaptLowerBoundsOnLoss event

/-- The first half of `OnCongestionEventStart`: ask the sampler and fill in the event. -/
def sampleCongestionEvent (m : Bbr2NetworkModel) (eventTime : Int)
    (ackedPackets : List AckedPacket) (lostPackets : List LostPacket)
    (event : Bbr2CongestionEvent) :
    Bbr2NetworkModel × CongestionEventSample × Bbr2CongestionEvent :=
  let priorBytesAcked := m.totalBytesAcked
  let priorBytesLost := m.totalBytesLost
  let (counter, endOfRoundTrip) := match ackedPackets.getLast? with
    | none => (m.roundTripCounter, false)
    | some last => m.roundTripCounter.onPacketsAcked last.packetNumber
  let (sampler, sample) := m.bandwidthSampler.onCongestionEvent eventTime ackedPackets lostPackets
    m.maxBandwidth m.bandwidthLo counter.roundTripCount
  let state := sample.lastPacketSendState
  let anyAcked := priorBytesAcked ≠ sampler.totalBytesAcked
  let bytesAcked := subUint64 sampler.totalBytesAcked priorBytesAcked
  let bytesLost := subUint64 sampler.totalBytesLost priorBytesLost
  let event := { event with
    eventTime, endOfRoundTrip, bytesAcked, bytesLost
    lastPacketSendState := if state.isValid then state else event.lastPacketSendState
    lastSampleIsAppLimited :=
      if state.isValid then state.isAppLimited else event.lastSampleIsAppLimited
    sampleMaxBandwidth :=
      if anyAcked then sample.sampleMaxBandwidth else event.sampleMaxBandwidth
    sampleMinRtt :=
      if sample.sampleRtt = Time.infinite then event.sampleMinRtt else sample.sampleRtt
    bytesInFlight :=
      if bytesAcked + bytesLost ≤ event.priorBytesInFlight then
        event.priorBytesInFlight - bytesAcked - bytesLost
      else 0 }
  let m := { m with
    roundTripCounter := counter
    bandwidthSampler := sampler
    maxBandwidthFilter :=
      if anyAcked ∧ (sample.sampleIsAppLimited = false ∨ m.maxBandwidth < sample.sampleMaxBandwidth)
      then m.maxBandwidthFilter.update sample.sampleMaxBandwidth
      else m.maxBandwidthFilter
    minRttFilter :=
      if sample.sampleRtt = Time.infinite then m.minRttFilter
      else m.minRttFilter.update sample.sampleRtt eventTime }
  (m, sample, event)

/-- The second half: the counters of the round and the short-term bounds. -/
def recordCongestionEvent (m : Bbr2NetworkModel) (sample : CongestionEventSample)
    (event : Bbr2CongestionEvent) : Bbr2NetworkModel :=
  let state := event.lastPacketSendState
  let delivered := subUint64 m.totalBytesAcked state.totalBytesAcked
  let m := { m with
    bytesLostInRound := m.bytesLostInRound + event.bytesLost
    lossEventsInRound :=
      if 0 < event.bytesLost then m.lossEventsInRound + 1 else m.lossEventsInRound
    maxBytesDeliveredInRound :=
      if 0 < event.bytesAcked ∧ state.isValid = true ∧
          state.totalBytesAcked < m.totalBytesAcked then
        max m.maxBytesDeliveredInRound delivered
      else m.maxBytesDeliveredInRound
    bandwidthLatest := max m.bandwidthLatest sample.sampleMaxBandwidth
    inflightLatest := max m.inflightLatest sample.sampleMaxInflight }
  let m := m.adaptLowerBounds event
  if !event.endOfRoundTrip then m
  else
    { m with
      bandwidthLatest :=
        if sample.sampleMaxBandwidth.isZero then m.bandwidthLatest else sample.sampleMaxBandwidth
      inflightLatest :=
        if 0 < sample.sampleMaxInflight then sample.sampleMaxInflight else m.inflightLatest }

def onCongestionEventStart (m : Bbr2NetworkModel) (eventTime : Int)
    (ackedPackets : List AckedPacket) (lostPackets : List LostPacket)
    (event : Bbr2CongestionEvent) : Bbr2NetworkModel × Bbr2CongestionEvent :=
  let (m, sample, event) := m.sampleCongestionEvent eventTime ackedPackets lostPackets event
  (m.recordCongestionEvent sample event, event)

def onNewRound (m : Bbr2NetworkModel) : Bbr2NetworkModel :=
  { m with bytesLostInRound := 0, lossEventsInRound := 0, maxBytesDeliveredInRound := 0 }

def onCongestionEventFinish (m : Bbr2NetworkModel) (leastUnackedPacket : Nat)
    (event : Bbr2CongestionEvent) : Bbr2NetworkModel :=
  let m := if event.endOfRoundTrip then m.onNewRound else m
  { m with bandwidthSampler := m.bandwidthSampler.removeObsoletePackets leastUnackedPacket }

def restartRoundEarly (m : Bbr2NetworkModel) : Bbr2NetworkModel :=
  { m.onNewRound with roundTripCounter := m.roundTripCounter.restartRound }

/-- Returns whether the minimum has expired; it is then replaced by the latest sample. -/
def maybeExpireMinRtt (m : Bbr2NetworkModel) (event : Bbr2CongestionEvent) :
    Bbr2NetworkModel × Bool :=
  if event.eventTime < m.minRttTimestamp + m.params.probeRttPeriod then (m, false)
  else if event.sampleMinRtt = Time.infinite then (m, false)
  else ({ m with minRttFilter := ⟨event.sampleMinRtt, event.eventTime⟩ }, true)

def isCongestionWindowLimited (_m : Bbr2NetworkModel) (event : Bbr2CongestionEvent) : Bool :=
  event.priorCwnd ≤ event.bytesInFlight + event.bytesAcked + event.bytesLost

def isInflightTooHigh (m : Bbr2NetworkModel) (event : Bbr2CongestionEvent)
    (maxLossEvents : Nat) : Bool :=
  let sendState := event.lastPacketSendState
  if !sendState.isValid then false
  else if m.lossEventsInRound < maxLossEvents then false
  else
    let inflightAtSend := bytesInFlightAtSend sendState
    0 < inflightAtSend && 0 < m.bytesLostInRound &&
      toByteCount (float32 (float32 inflightAtSend * m.params.lossThreshold)) < m.bytesLostInRound

def capInflightLo (m : Bbr2NetworkModel) (cap : Nat) : Bbr2NetworkModel :=
  if m.params.ignoreInflightLo then m
  else if m.inflightLo ≠ maxUint64 ∧ cap < m.inflightLo then { m with inflightLo := cap }
  else m

def inflightHiWithHeadroom (m : Bbr2NetworkModel) : Nat :=
  m.inflightHi - toByteCount (float32 (float32 m.inflightHi * m.params.inflightHiHeadroom))

def checkBandwidthGrowth (m : Bbr2NetworkModel) (event : Bbr2CongestionEvent) :
    Bbr2NetworkModel × BandwidthGrowth :=
  if event.lastSampleIsAppLimited then (m, .appLimited)
  else if m.fullBandwidthBaseline.scale m.params.startupFullBwThreshold ≤ m.maxBandwidth then
    ({ m with fullBandwidthBaseline := m.maxBandwidth, roundsWithoutBandwidthGrowth := 0 }, .growth)
  else
    let rounds := m.roundsWithoutBandwidthGrowth + 1
    if m.params.startupFullBwRounds ≤ rounds then
      ({ m with roundsWithoutBandwidthGrowth := rounds, fullBandwidthReached := true }, .exit)
    else ({ m with roundsWithoutBandwidthGrowth := rounds }, .noGrowth)

end Bbr2NetworkModel

end BbrChrome
