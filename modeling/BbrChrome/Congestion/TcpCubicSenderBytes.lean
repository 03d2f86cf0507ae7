import BbrChrome.Congestion.CubicBytes
import BbrChrome.Congestion.RttStats

/-!
# The CUBIC sender

`TcpCubicSenderBytes` with its two helpers, the hybrid slow start and the proportional rate
reduction. The sender reads the RTT statistics through a pointer, so the operations that do
take the current values as an argument.
-/

namespace BbrChrome

/-! ## Hybrid slow start -/

def kHybridStartLowWindow : Nat := 16

def kHybridStartMinSamples : Nat := 8

def kHybridStartDelayFactorExp : Nat := 3

def kHybridStartDelayMinThresholdUs : Int := 4000

def kHybridStartDelayMaxThresholdUs : Int := 16000

inductive HystartState
  | notFound
  | delay
deriving DecidableEq, Repr

structure HybridSlowStart where
  started : Bool := false
  hystartFound : HystartState := .notFound
  lastSentPacketNumber : QuicPacketNumber := .uninitialized
  endPacketNumber : QuicPacketNumber := .uninitialized
  rttSampleCount : Nat := 0
  currentMinRtt : Int := 0
deriving DecidableEq, Repr

namespace HybridSlowStart

def isEndOfRound (h : HybridSlowStart) (ack : Nat) : Bool :=
  !h.endPacketNumber.isInitialized || !h.endPacketNumber.above ack

def onPacketAcked (h : HybridSlowStart) (ackedPacketNumber : Nat) : HybridSlowStart :=
  if h.isEndOfRound ackedPacketNumber then { h with started := false } else h

def onPacketSent (h : HybridSlowStart) (packetNumber : Nat) : HybridSlowStart :=
  { h with lastSentPacketNumber := .number packetNumber }

def restart (h : HybridSlowStart) : HybridSlowStart :=
  { h with started := false, hystartFound := .notFound }

def startReceiveRound (h : HybridSlowStart) (lastSent : QuicPacketNumber) : HybridSlowStart :=
  { h with endPacketNumber := lastSent, currentMinRtt := 0, rttSampleCount := 0, started := true }

/-- A delay is looked for once in a round, when the eighth sample is in. -/
def shouldExitSlowStart (h : HybridSlowStart) (latestRtt minRtt : Int) (congestionWindow : Nat) :
    HybridSlowStart × Bool :=
  let h := if h.started then h else h.startReceiveRound h.lastSentPacketNumber
  if h.hystartFound ≠ .notFound then (h, true)
  else
    let rttSampleCount := (h.rttSampleCount + 1) % 2 ^ 32
    let currentMinRtt :=
      if rttSampleCount ≤ kHybridStartMinSamples ∧
          (h.currentMinRtt = 0 ∨ latestRtt < h.currentMinRtt) then latestRtt
      else h.currentMinRtt
    let minRttIncreaseThreshold :=
      max (min (Time.shiftRight minRtt kHybridStartDelayFactorExp) kHybridStartDelayMaxThresholdUs)
        kHybridStartDelayMinThresholdUs
    let hystartFound :=
      if rttSampleCount = kHybridStartMinSamples ∧
          minRtt + minRttIncreaseThreshold < currentMinRtt then .delay
      else h.hystartFound
    ({ h with rttSampleCount, currentMinRtt, hystartFound },
      kHybridStartLowWindow ≤ congestionWindow && hystartFound ≠ .notFound)

end HybridSlowStart

/-! ## Proportional rate reduction -/

structure PrrSender where
  bytesSentSinceLoss : Nat := 0
  bytesDeliveredSinceLoss : Nat := 0
  ackCountSinceLoss : Nat := 0
  bytesInFlightBeforeLoss : Nat := 0
deriving DecidableEq, Repr

namespace PrrSender

def onPacketSent (p : PrrSender) (sentBytes : Nat) : PrrSender :=
  { p with bytesSentSinceLoss := p.bytesSentSinceLoss + sentBytes }

def onPacketLost (_p : PrrSender) (priorInFlight : Nat) : PrrSender :=
  { bytesSentSinceLoss := 0
    bytesInFlightBeforeLoss := priorInFlight
    bytesDeliveredSinceLoss := 0
    ackCountSinceLoss := 0 }

def onPacketAcked (p : PrrSender) (ackedBytes : Nat) : PrrSender :=
  { p with
    bytesDeliveredSinceLoss := p.bytesDeliveredSinceLoss + ackedBytes
    ackCountSinceLoss := p.ackCountSinceLoss + 1 }

def canSend (p : PrrSender) (congestionWindow bytesInFlight slowstartThreshold : Nat) : Bool :=
  if p.bytesSentSinceLoss = 0 ∨ bytesInFlight < kMaxSegmentSize then true
  else if bytesInFlight < congestionWindow then
    -- PRR-SSRB: one extra segment for each ack.
    !(p.bytesDeliveredSinceLoss + p.ackCountSinceLoss * kMaxSegmentSize ≤ p.bytesSentSinceLoss)
  else
    p.bytesSentSinceLoss * p.bytesInFlightBeforeLoss <
      p.bytesDeliveredSinceLoss * slowstartThreshold

end PrrSender

/-! ## The sender -/

def kMaxBurstBytes : Nat := 3 * kDefaultTCPMSS

def kRenoBeta : Rat := 7 / 10

def kDefaultMinimumCongestionWindow : Nat := 2 * kDefaultTCPMSS

/-- `TcpCubicSenderBytes`; the fields in front are set by the constructor. -/
structure TcpCubicSenderBytes where
  reno : Bool
  initialTcpCongestionWindow : Nat
  maxCongestionWindow : Nat
  cubic : CubicBytes
  congestionWindow : Nat
  slowstartThreshold : Nat
  minCongestionWindow : Nat := kDefaultMinimumCongestionWindow
  minSlowStartExitWindow : Nat := kDefaultMinimumCongestionWindow
  hybridSlowStart : HybridSlowStart := {}
  prr : PrrSender := {}
  stats : SenderStats := {}
  numConnections : Nat := kDefaultNumConnections
  largestSentPacketNumber : QuicPacketNumber := .uninitialized
  largestAckedPacketNumber : QuicPacketNumber := .uninitialized
  largestSentAtLastCutback : QuicPacketNumber := .uninitialized
  min4Mode : Bool := false
  lastCutbackExitedSlowstart : Bool := false
  slowStartLargeReduction : Bool := false
  noPrr : Bool := false
  numAckedPackets : Nat := 0

namespace TcpCubicSenderBytes

/-- The constructor; both windows are in packets. -/
def create (reno : Bool) (initialTcpCongestionWindow maxCongestionWindow : Nat)
    (cbrt : Nat → Nat) : TcpCubicSenderBytes where
  reno
  initialTcpCongestionWindow := initialTcpCongestionWindow * kDefaultTCPMSS
  maxCongestionWindow := maxCongestionWindow * kDefaultTCPMSS
  cubic := { cbrt }
  congestionWindow := initialTcpCongestionWindow * kDefaultTCPMSS
  slowstartThreshold := maxCongestionWindow * kDefaultTCPMSS

/-- `SendAlgorithmInterface::Create` for `kCubicBytes`. -/
def createCubicBytes (initialCongestionWindow : Nat) (cbrt : Nat → Nat) : TcpCubicSenderBytes :=
  let maxCongestionWindow := 100000
  create false initialCongestionWindow maxCongestionWindow cbrt

def renoBeta (s : TcpCubicSenderBytes) : Rat :=
  ((s.numConnections : Rat) - 1 + kRenoBeta) / s.numConnections

def inSlowStart (s : TcpCubicSenderBytes) : Bool := s.congestionWindow < s.slowstartThreshold

def inRecovery (s : TcpCubicSenderBytes) : Bool :=
  s.largestAckedPacketNumber.isInitialized && s.largestSentAtLastCutback.isInitialized &&
    s.largestAckedPacketNumber.toUint64 ≤ s.largestSentAtLastCutback.toUint64

def isCwndLimited (s : TcpCubicSenderBytes) (bytesInFlight : Nat) : Bool :=
  if s.congestionWindow ≤ bytesInFlight then true
  else
    let availableBytes := s.congestionWindow - bytesInFlight
    let slowStartLimited := s.inSlowStart && s.congestionWindow / 2 < bytesInFlight
    slowStartLimited || availableBytes ≤ kMaxBurstBytes

def canSend (s : TcpCubicSenderBytes) (bytesInFlight : Nat) : Bool :=
  if !s.noPrr && s.inRecovery then
    s.prr.canSend s.congestionWindow bytesInFlight s.slowstartThreshold
  else if bytesInFlight < s.congestionWindow then true
  else s.min4Mode && bytesInFlight < 4 * kDefaultTCPMSS

def pacingRate (s : TcpCubicSenderBytes) (rttStats : RttStats) (_bytesInFlight : Nat) :
    QuicBandwidth :=
  let bandwidth :=
    QuicBandwidth.fromBytesAndTimeDelta s.congestionWindow rttStats.smoothedOrInitialRtt
  bandwidth.scale (if s.inSlowStart then 2 else if s.noPrr && s.inRecovery then 1 else 5 / 4)

def bandwidthEstimate (s : TcpCubicSenderBytes) (rttStats : RttStats) : QuicBandwidth :=
  if rttStats.smoothedRtt = 0 then .zero
  else .fromBytesAndTimeDelta s.congestionWindow rttStats.smoothedRtt

/-! ### Sending -/

/-- In recovery the source leaves out the call of `prr_.OnPacketSent`. -/
def onPacketSent (s : TcpCubicSenderBytes) (_sentTime : Int)
    (_bytesInFlight packetNumber _bytes : Nat) : TcpCubicSenderBytes :=
  let slowstartPacketsSent :=
    if s.inSlowStart then s.stats.slowstartPacketsSent + 1 else s.stats.slowstartPacketsSent
  { s with
    stats := { s.stats with slowstartPacketsSent }
    largestSentPacketNumber := .number packetNumber
    hybridSlowStart := s.hybridSlowStart.onPacketSent packetNumber }

/-! ### Losses -/

/-- The packet was sent before the last cutback. -/
def isSameLossEvent (s : TcpCubicSenderBytes) (packetNumber : Nat) : Bool :=
  s.largestSentAtLastCutback.isInitialized && s.largestSentAtLastCutback.atLeast packetNumber

def reduceWindow (s : TcpCubicSenderBytes) : TcpCubicSenderBytes :=
  if s.slowStartLargeReduction && s.inSlowStart then
    { s with
      minSlowStartExitWindow :=
        if 2 * s.initialTcpCongestionWindow ≤ s.congestionWindow then s.congestionWindow / 2
        else s.minSlowStartExitWindow
      congestionWindow := subUint64 s.congestionWindow kDefaultTCPMSS }
  else if s.reno then
    { s with
      congestionWindow := toByteCount (float32 (float32 s.congestionWindow * s.renoBeta)) }
  else
    let (cubic, congestionWindow) := s.cubic.congestionWindowAfterPacketLoss s.congestionWindow
    { s with cubic, congestionWindow }

/-- A loss within the loss event of the last cutback. -/
def onRepeatedLoss (s : TcpCubicSenderBytes) (lostBytes : Nat) : TcpCubicSenderBytes :=
  if s.lastCutbackExitedSlowstart then
    let s := { s with
      stats := { s.stats with
        slowstartPacketsLost := s.stats.slowstartPacketsLost + 1
        slowstartBytesLost := s.stats.slowstartBytesLost + lostBytes } }
    if s.slowStartLargeReduction then
      let congestionWindow := max (subUint64 s.congestionWindow lostBytes) s.minSlowStartExitWindow
      { s with congestionWindow, slowstartThreshold := congestionWindow }
    else s
  else s

/-- The counters and the rate reduction at the start of a loss event. -/
def openLossEvent (s : TcpCubicSenderBytes) (priorInFlight : Nat) : TcpCubicSenderBytes :=
  let slowstartPacketsLost :=
    if s.inSlowStart then s.stats.slowstartPacketsLost + 1 else s.stats.slowstartPacketsLost
  { s with
    stats := { s.stats with
      tcpLossEvents := s.stats.tcpLossEvents + 1
      slowstartPacketsLost }
    lastCutbackExitedSlowstart := s.inSlowStart
    prr := if s.noPrr then s.prr else s.prr.onPacketLost priorInFlight }

def cutBack (s : TcpCubicSenderBytes) (priorInFlight : Nat) : TcpCubicSenderBytes :=
  let s := (s.openLossEvent priorInFlight).reduceWindow
  let congestionWindow :=
    if s.congestionWindow < s.minCongestionWindow then s.minCongestionWindow
    else s.congestionWindow
  { s with
    congestionWindow
    slowstartThreshold := congestionWindow
    largestSentAtLastCutback := s.largestSentPacketNumber
    numAckedPackets := 0 }

def onPacketLost (s : TcpCubicSenderBytes) (packetNumber lostBytes priorInFlight : Nat) :
    TcpCubicSenderBytes :=
  if s.isSameLossEvent packetNumber then s.onRepeatedLoss lostBytes else s.cutBack priorInFlight

/-! ### Acks -/

def maybeIncreaseCwnd (s : TcpCubicSenderBytes) (rttStats : RttStats)
    (ackedBytes priorInFlight : Nat) (eventTime : Int) : TcpCubicSenderBytes :=
  if !s.isCwndLimited priorInFlight then { s with cubic := s.cubic.onApplicationLimited }
  else if s.maxCongestionWindow ≤ s.congestionWindow then s
  else if s.inSlowStart then { s with congestionWindow := s.congestionWindow + kDefaultTCPMSS }
  else if s.reno then
    let numAckedPackets := s.numAckedPackets + 1
    if s.congestionWindow / kDefaultTCPMSS ≤ numAckedPackets * s.numConnections then
      { s with congestionWindow := s.congestionWindow + kDefaultTCPMSS, numAckedPackets := 0 }
    else { s with numAckedPackets }
  else
    let (cubic, congestionWindow) := s.cubic.congestionWindowAfterAck ackedBytes
      s.congestionWindow rttStats.minRtt eventTime
    { s with cubic, congestionWindow := min s.maxCongestionWindow congestionWindow }

def updateLargestAcked (s : TcpCubicSenderBytes) (ackedPacketNumber : Nat) : TcpCubicSenderBytes :=
  { s with
    largestAckedPacketNumber := s.largestAckedPacketNumber.updateMax ackedPacketNumber }

def onPacketAcked (s : TcpCubicSenderBytes) (rttStats : RttStats)
    (ackedPacketNumber ackedBytes priorInFlight : Nat) (eventTime : Int) : TcpCubicSenderBytes :=
  let s := s.updateLargestAcked ackedPacketNumber
  if s.inRecovery then
    if s.noPrr then s else { s with prr := s.prr.onPacketAcked ackedBytes }
  else
    let s := s.maybeIncreaseCwnd rttStats ackedBytes priorInFlight eventTime
    if s.inSlowStart then
      { s with hybridSlowStart := s.hybridSlowStart.onPacketAcked ackedPacketNumber }
    else s

/-! ### Events -/

def exitSlowstart (s : TcpCubicSenderBytes) : TcpCubicSenderBytes :=
  { s with slowstartThreshold := s.congestionWindow }

/-- What a congestion event does before its losses and its acks. -/
def maybeExitSlowStart (s : TcpCubicSenderBytes) (rttStats : RttStats) (rttUpdated : Bool) :
    TcpCubicSenderBytes :=
  if rttUpdated && s.inSlowStart then
    let (hybridSlowStart, shouldExit) := s.hybridSlowStart.shouldExitSlowStart rttStats.latestRtt
      rttStats.minRtt (s.congestionWindow / kDefaultTCPMSS)
    let s := { s with hybridSlowStart }
    if shouldExit then s.exitSlowstart else s
  else s

def onCongestionEvent (s : TcpCubicSenderBytes) (rttStats : RttStats) (rttUpdated : Bool)
    (priorInFlight : Nat) (eventTime : Int) (ackedPackets : List AckedPacket)
    (lostPackets : List LostPacket) : TcpCubicSenderBytes :=
  let s := s.maybeExitSlowStart rttStats rttUpdated
  let s := lostPackets.foldl
    (fun s lost => s.onPacketLost lost.packetNumber lost.bytesLost priorInFlight) s
  ackedPackets.foldl
    (fun s acked =>
      s.onPacketAcked rttStats acked.packetNumber acked.bytesAcked priorInFlight eventTime) s

def handleRetransmissionTimeout (s : TcpCubicSenderBytes) : TcpCubicSenderBytes :=
  { s with
    cubic := s.cubic.resetCubicState
    slowstartThreshold := s.congestionWindow / 2
    congestionWindow := s.minCongestionWindow }

def onRetransmissionTimeout (s : TcpCubicSenderBytes) (packetsRetransmitted : Bool) :
    TcpCubicSenderBytes :=
  let s := { s with largestSentAtLastCutback := .uninitialized }
  if packetsRetransmitted then
    handleRetransmissionTimeout { s with hybridSlowStart := s.hybridSlowStart.restart }
  else s

end TcpCubicSenderBytes

end BbrChrome
