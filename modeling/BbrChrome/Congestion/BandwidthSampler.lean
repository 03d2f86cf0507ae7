import BbrChrome.Congestion.WindowedFilter
import BbrChrome.Quic.PacketNumberIndexedQueue
import BbrChrome.Quic.Types

/-!
# Bandwidth sampler

Keeps track of sent and acknowledged packets and gives a bandwidth sample for
every packet acknowledged. The sampler remembers the state of the connection at
the time each packet was sent.
-/

namespace BbrChrome

structure SendTimeState where
  isValid : Bool := false
  isAppLimited : Bool := false
  totalBytesSent : Nat := 0
  totalBytesAcked : Nat := 0
  totalBytesLost : Nat := 0
  bytesInFlight : Nat := 0
deriving DecidableEq, Repr

structure BandwidthSample where
  bandwidth : QuicBandwidth := .zero
  rtt : Int := 0
  stateAtSend : SendTimeState := {}
deriving DecidableEq, Repr

/-! ## Ack aggregation -/

structure MaxAckHeightTracker where
  maxAckHeightFilter : WindowedFilter Nat
  aggregationEpochStartTime : Int := 0
  aggregationEpochBytes : Nat := 0
  numAckAggregationEpochs : Nat := 0
deriving DecidableEq, Repr

namespace MaxAckHeightTracker

def create (initialFilterWindow : Nat) : MaxAckHeightTracker :=
  { maxAckHeightFilter := .create initialFilterWindow 0 0 }

def get (tracker : MaxAckHeightTracker) : Nat := tracker.maxAckHeightFilter.getBest

def reset (tracker : MaxAckHeightTracker) (newHeight newTime : Nat) : MaxAckHeightTracker :=
  { tracker with maxAckHeightFilter := tracker.maxAckHeightFilter.reset newHeight newTime }

def update (tracker : MaxAckHeightTracker) (bandwidthEstimate : QuicBandwidth)
    (roundTripCount : Nat) (ackTime : Int) (bytesAcked : Nat) : MaxAckHeightTracker × Nat :=
  if tracker.aggregationEpochStartTime = 0 then
    ({ tracker with
        aggregationEpochBytes := bytesAcked
        aggregationEpochStartTime := ackTime
        numAckAggregationEpochs := tracker.numAckAggregationEpochs + 1 }, 0)
  else
    let expectedBytesAcked :=
      bandwidthEstimate.toBytesPerPeriod (ackTime - tracker.aggregationEpochStartTime)
    let extraBytesAcked := subUint64 tracker.aggregationEpochBytes expectedBytesAcked
    ({ tracker with
        maxAckHeightFilter :=
          tracker.maxAckHeightFilter.update maxFilter extraBytesAcked roundTripCount },
      extraBytesAcked)

end MaxAckHeightTracker

/-! ## Ack points -/

structure AckPoint where
  ackTime : Int := 0
  totalBytesAcked : Nat := 0
deriving DecidableEq, Repr

/-- The most recent two ack points at distinct times. -/
structure RecentAckPoints where
  older : AckPoint := {}
  newer : AckPoint := {}
deriving DecidableEq, Repr

namespace RecentAckPoints

def update (points : RecentAckPoints) (ackTime : Int) (totalBytesAcked : Nat) :
    RecentAckPoints :=
  { older := if points.newer.ackTime < ackTime then points.newer else points.older
    newer := ⟨ackTime, totalBytesAcked⟩ }

def mostRecentPoint (points : RecentAckPoints) : AckPoint := points.newer

def lessRecentPoint (points : RecentAckPoints) : AckPoint :=
  if points.older.totalBytesAcked ≠ 0 then points.older else points.newer

end RecentAckPoints

/-- The search of `ChooseA0Point` from candidate `a0` on; candidates before the
chosen one are dropped. -/
def chooseA0PointFrom (totalBytesAcked : Nat) : AckPoint → List AckPoint → AckPoint × List AckPoint
  | a0, [] => (a0, [a0])
  | a0, next :: rest =>
      if totalBytesAcked < next.totalBytesAcked then (a0, a0 :: next :: rest)
      else chooseA0PointFrom totalBytesAcked next rest

/-- `ChooseA0Point`, with the candidates that remain. -/
def chooseA0Point (totalBytesAcked : Nat) : List AckPoint → Option (AckPoint × List AckPoint)
  | [] => none
  | front :: rest => some (chooseA0PointFrom totalBytesAcked front rest)

/-! ## The sampler -/

structure ConnectionStateOnSentPacket where
  sentTime : Int := 0
  size : Nat := 0
  totalBytesSentAtLastAckedPacket : Nat := 0
  lastAckedPacketSentTime : Int := 0
  lastAckedPacketAckTime : Int := 0
  sendTimeState : SendTimeState := {}
deriving DecidableEq, Repr

structure BandwidthSampler where
  totalBytesSent : Nat := 0
  totalBytesAcked : Nat := 0
  totalBytesLost : Nat := 0
  totalBytesNeutered : Nat := 0
  totalBytesSentAtLastAckedPacket : Nat := 0
  lastAckedPacketSentTime : Int := 0
  lastAckedPacketAckTime : Int := 0
  lastSentPacket : QuicPacketNumber := .uninitialized
  isAppLimited : Bool := true
  endOfAppLimitedPhase : QuicPacketNumber := .uninitialized
  connectionStateMap : PacketNumberIndexedQueue ConnectionStateOnSentPacket := {}
  recentAckPoints : RecentAckPoints := {}
  a0Candidates : List AckPoint := []
  maxAckHeightTracker : MaxAckHeightTracker
  totalBytesAckedAfterLastAckEvent : Nat := 0
  overestimateAvoidance : Bool := false
deriving DecidableEq, Repr

structure CongestionEventSample where
  sampleMaxBandwidth : QuicBandwidth := .zero
  sampleIsAppLimited : Bool := false
  sampleRtt : Int := Time.infinite
  sampleMaxInflight : Nat := 0
  lastPacketSendState : SendTimeState := {}
  extraAcked : Nat := 0
deriving DecidableEq, Repr

namespace BandwidthSampler

def create (maxHeightTrackerWindowLength : Nat) : BandwidthSampler :=
  { maxAckHeightTracker := .create maxHeightTrackerWindowLength }

def maxAckHeight (s : BandwidthSampler) : Nat := s.maxAckHeightTracker.get

def enableOverestimateAvoidance (s : BandwidthSampler) : BandwidthSampler :=
  { s with overestimateAvoidance := true }

/-- Without packets in flight the sent packet opens a new transmission. -/
def onTransmissionStart (s : BandwidthSampler) (sentTime : Int) : BandwidthSampler :=
  let points := RecentAckPoints.update {} sentTime s.totalBytesAcked
  { s with
    lastAckedPacketAckTime := sentTime
    recentAckPoints := if s.overestimateAvoidance then points else s.recentAckPoints
    a0Candidates := if s.overestimateAvoidance then [points.mostRecentPoint] else s.a0Candidates
    totalBytesSentAtLastAckedPacket := s.totalBytesSent
    lastAckedPacketSentTime := sentTime }

/-- The constructor of `ConnectionStateOnSentPacket` records the current state of the
sampler; `bytesInFlight` is the bytes in flight right after the packet is sent. -/
def snapshot (s : BandwidthSampler) (sentTime : Int) (size bytesInFlight : Nat) :
    ConnectionStateOnSentPacket :=
  { sentTime, size
    totalBytesSentAtLastAckedPacket := s.totalBytesSentAtLastAckedPacket
    lastAckedPacketSentTime := s.lastAckedPacketSentTime
    lastAckedPacketAckTime := s.lastAckedPacketAckTime
    sendTimeState :=
      { isValid := true
        isAppLimited := s.isAppLimited
        totalBytesSent := s.totalBytesSent
        totalBytesAcked := s.totalBytesAcked
        totalBytesLost := s.totalBytesLost
        bytesInFlight } }

def onPacketSent (s : BandwidthSampler) (sentTime : Int) (packetNumber bytes bytesInFlight : Nat) :
    BandwidthSampler :=
  let s := { s with
    lastSentPacket := .number packetNumber
    totalBytesSent := s.totalBytesSent + bytes }
  let s := if bytesInFlight = 0 then s.onTransmissionStart sentTime else s
  { s with
    connectionStateMap := (s.connectionStateMap.emplace (.number packetNumber)
      (s.snapshot sentTime bytes (bytesInFlight + bytes))).1 }

def sentPacketToSendTimeState (sentPacket : ConnectionStateOnSentPacket) : SendTimeState :=
  { sentPacket.sendTimeState with isValid := true }

def recordAck (s : BandwidthSampler) (ackTime : Int) (packetNumber : Nat)
    (sentPacket : ConnectionStateOnSentPacket) : BandwidthSampler :=
  let totalBytesAcked := s.totalBytesAcked + sentPacket.size
  { s with
    totalBytesAcked
    totalBytesSentAtLastAckedPacket := sentPacket.sendTimeState.totalBytesSent
    lastAckedPacketSentTime := sentPacket.sentTime
    lastAckedPacketAckTime := ackTime
    recentAckPoints :=
      if s.overestimateAvoidance then s.recentAckPoints.update ackTime totalBytesAcked
      else s.recentAckPoints
    isAppLimited :=
      s.isAppLimited && s.endOfAppLimitedPhase.isInitialized &&
        !s.endOfAppLimitedPhase.below packetNumber }

def sendRate (sentPacket : ConnectionStateOnSentPacket) : QuicBandwidth :=
  if sentPacket.lastAckedPacketSentTime < sentPacket.sentTime then
    .fromBytesAndTimeDelta
      (subUint64 sentPacket.sendTimeState.totalBytesSent
        sentPacket.totalBytesSentAtLastAckedPacket)
      (sentPacket.sentTime - sentPacket.lastAckedPacketSentTime)
  else .infinite

def onPacketAcknowledgedInner (s : BandwidthSampler) (ackTime : Int) (packetNumber : Nat)
    (sentPacket : ConnectionStateOnSentPacket) : BandwidthSampler × BandwidthSample :=
  let s := s.recordAck ackTime packetNumber sentPacket
  if sentPacket.lastAckedPacketSentTime = 0 then (s, {})
  else
    let chosen :=
      if s.overestimateAvoidance then
        chooseA0Point sentPacket.sendTimeState.totalBytesAcked s.a0Candidates
      else none
    let (a0, candidates) := match chosen with
      | some choice => choice
      | none =>
          (⟨sentPacket.lastAckedPacketAckTime, sentPacket.sendTimeState.totalBytesAcked⟩,
            s.a0Candidates)
    let s := { s with a0Candidates := candidates }
    if ackTime ≤ a0.ackTime then (s, {})
    else
      let ackRate := QuicBandwidth.fromBytesAndTimeDelta
        (subUint64 s.totalBytesAcked a0.totalBytesAcked) (ackTime - a0.ackTime)
      (s, { bandwidth := min (sendRate sentPacket) ackRate
            rtt := ackTime - sentPacket.sentTime
            stateAtSend := sentPacketToSendTimeState sentPacket })

def onPacketAcknowledged (s : BandwidthSampler) (ackTime : Int) (packetNumber : Nat) :
    BandwidthSampler × BandwidthSample :=
  match s.connectionStateMap.getEntry (.number packetNumber) with
  | none => (s, {})
  | some sentPacket => s.onPacketAcknowledgedInner ackTime packetNumber sentPacket

def onPacketLost (s : BandwidthSampler) (packetNumber bytesLost : Nat) :
    BandwidthSampler × SendTimeState :=
  ({ s with totalBytesLost := s.totalBytesLost + bytesLost },
    match s.connectionStateMap.getEntry (.number packetNumber) with
    | none => {}
    | some sentPacket => sentPacketToSendTimeState sentPacket)

def onAckEventEnd (s : BandwidthSampler) (bandwidthEstimate : QuicBandwidth)
    (roundTripCount : Nat) : BandwidthSampler × Nat :=
  let newlyAckedBytes := subUint64 s.totalBytesAcked s.totalBytesAckedAfterLastAckEvent
  if newlyAckedBytes = 0 then (s, 0)
  else
    let (tracker, extraAcked) := s.maxAckHeightTracker.update bandwidthEstimate roundTripCount
      s.lastAckedPacketAckTime newlyAckedBytes
    ({ s with
        totalBytesAckedAfterLastAckEvent := s.totalBytesAcked
        maxAckHeightTracker := tracker
        a0Candidates :=
          if s.overestimateAvoidance && extraAcked == 0 then
            s.a0Candidates ++ [s.recentAckPoints.lessRecentPoint]
          else s.a0Candidates }, extraAcked)

/-- The loop over the lost packets; keeps the last valid send state. -/
def onPacketsLost : List LostPacket → BandwidthSampler → SendTimeState →
    BandwidthSampler × SendTimeState
  | [], s, lastState => (s, lastState)
  | packet :: packets, s, lastState =>
      let (s, state) := s.onPacketLost packet.packetNumber packet.bytesLost
      onPacketsLost packets s (if state.isValid then state else lastState)

/-- Fold the sample of one acked packet into the sample of the event. -/
def mergeSample (event : CongestionEventSample) (sample : BandwidthSample)
    (totalBytesAcked : Nat) : CongestionEventSample :=
  let better := event.sampleMaxBandwidth < sample.bandwidth
  let inflightSample := subUint64 totalBytesAcked sample.stateAtSend.totalBytesAcked
  { event with
    sampleRtt := if sample.rtt = 0 then event.sampleRtt else min event.sampleRtt sample.rtt
    sampleMaxBandwidth := if better then sample.bandwidth else event.sampleMaxBandwidth
    sampleIsAppLimited :=
      if better then sample.stateAtSend.isAppLimited else event.sampleIsAppLimited
    sampleMaxInflight := max event.sampleMaxInflight inflightSample }

/-- The loop over the acked packets; samples without a valid state are skipped. -/
def onPacketsAcknowledged (ackTime : Int) : List AckedPacket → BandwidthSampler →
    CongestionEventSample → SendTimeState →
    BandwidthSampler × CongestionEventSample × SendTimeState
  | [], s, event, lastState => (s, event, lastState)
  | packet :: packets, s, event, lastState =>
      let (s, sample) := s.onPacketAcknowledged ackTime packet.packetNumber
      if sample.stateAtSend.isValid then
        onPacketsAcknowledged ackTime packets s (mergeSample event sample s.totalBytesAcked)
          sample.stateAtSend
      else onPacketsAcknowledged ackTime packets s event lastState

/-- The send state of the packet that represents an event with acks. -/
def chooseLastPacketSendState (lostPackets : List LostPacket) (ackedPackets : List AckedPacket)
    (lastLost lastAcked : SendTimeState) : SendTimeState :=
  if !lastLost.isValid then lastAcked
  else if !lastAcked.isValid then lastLost
  else match lostPackets.getLast?, ackedPackets.getLast? with
    | some lost, some acked =>
        if acked.packetNumber < lost.packetNumber then lastLost else lastAcked
    | _, _ => lastAcked

def onCongestionEvent (s : BandwidthSampler) (ackTime : Int) (ackedPackets : List AckedPacket)
    (lostPackets : List LostPacket) (maxBandwidth estBandwidthUpperBound : QuicBandwidth)
    (roundTripCount : Nat) : BandwidthSampler × CongestionEventSample :=
  let (s, lastLost) := onPacketsLost lostPackets s {}
  if ackedPackets.isEmpty then (s, { lastPacketSendState := lastLost })
  else
    let (s, event, lastAcked) := onPacketsAcknowledged ackTime ackedPackets s {} {}
    let maxBandwidth := max maxBandwidth event.sampleMaxBandwidth
    let (s, extraAcked) :=
      s.onAckEventEnd (min estBandwidthUpperBound maxBandwidth) roundTripCount
    (s, { event with
          lastPacketSendState :=
            chooseLastPacketSendState lostPackets ackedPackets lastLost lastAcked
          extraAcked })

def onAppLimited (s : BandwidthSampler) : BandwidthSampler :=
  { s with isAppLimited := true, endOfAppLimitedPhase := s.lastSentPacket }

def removeObsoletePackets (s : BandwidthSampler) (leastUnacked : Nat) : BandwidthSampler :=
  { s with connectionStateMap := s.connectionStateMap.removeUpTo leastUnacked }

def resetMaxAckHeightTracker (s : BandwidthSampler) (newHeight newTime : Nat) :
    BandwidthSampler :=
  { s with maxAckHeightTracker := s.maxAckHeightTracker.reset newHeight newTime }

end BandwidthSampler

end BbrChrome
