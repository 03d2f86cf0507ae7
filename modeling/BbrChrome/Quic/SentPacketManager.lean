import BbrChrome.Congestion.LossAlgorithm
import BbrChrome.Congestion.SendAlgorithm

/-!
# Sent-packet manager

`QuicSentPacketManager` over an arbitrary send algorithm. Readings of the clock
are arguments of the operations that make them.
-/

namespace BbrChrome

def kDefaultRetransmissionTimeMs : Int := 500

def kMaxRetransmissionTimeMs : Int := 60000

def kMaxRetransmissions : Nat := 10

inductive RetransmissionTimeoutMode
  | rtoMode
  | lossMode
deriving DecidableEq, Repr

structure QuicSentPacketManager (σ : Type) where
  sendAlgorithm : σ
  lossAlgorithm : GeneralLossAlgorithm := {}
  unackedPackets : QuicUnackedPacketMap := {}
  packetsLost : List LostPacket := []
  packetsAcked : List AckedPacket := []
  largestNewlyAcked : QuicPacketNumber := .uninitialized
  minRtoTimeout : Int := Time.fromMilliseconds kMinRetransmissionTimeMs
  stats : ManagerStats := {}
  consecutiveRtoCount : Nat := 0
  rttStats : RttStats := {}
  rttUpdated : Bool := false

namespace QuicSentPacketManager

variable {σ : Type} [SendAlgorithmInterface σ]

/-! ## Sending -/

def onPacketSent (m : QuicSentPacketManager σ) (packet : SerializedPacket) (sentTime : Int) :
    QuicSentPacketManager σ × Bool :=
  let inFlight := true
  ({ m with
      sendAlgorithm := SendAlgorithmInterface.onPacketSent m.sendAlgorithm sentTime
        m.unackedPackets.bytesInFlight packet.packetNumber packet.encryptedLength.bytes
      unackedPackets := m.unackedPackets.addSentPacket packet sentTime inFlight },
    inFlight)

/-! ## Loss detection and congestion events -/

/-- The loop over `packets_lost_`. -/
def markLostPackets : List LostPacket → QuicSentPacketManager σ →
    Except Fault (QuicSentPacketManager σ)
  | [], m => .ok m
  | packet :: packets, m => do
      let map ← m.unackedPackets.removeFromInFlight packet.packetNumber
      markLostPackets packets
        { m with
          unackedPackets := map.setState packet.packetNumber .neverSent
          stats := { m.stats with packetsLost := m.stats.packetsLost + 1 } }

/-- The packet number that `InvokeLossDetection` takes for the largest newly acked one. -/
def lossDetectionTarget (m : QuicSentPacketManager σ) : QuicPacketNumber :=
  match m.packetsAcked.getLast? with
  | some acked => .number acked.packetNumber
  | none => m.largestNewlyAcked

def invokeLossDetection (m : QuicSentPacketManager σ) (time : Int) :
    Except Fault (QuicSentPacketManager σ) := do
  let target := m.lossDetectionTarget
  let (alg, lost, _) ← m.lossAlgorithm.detectLosses m.unackedPackets time m.rttStats target
    m.packetsAcked m.packetsLost
  markLostPackets lost
    { m with lossAlgorithm := alg, packetsLost := lost, largestNewlyAcked := target }

def maybeInvokeCongestionEvent (m : QuicSentPacketManager σ) (rttUpdated : Bool)
    (priorInFlight : Nat) (eventTime : Int) : QuicSentPacketManager σ :=
  if !rttUpdated && m.packetsAcked.isEmpty && m.packetsLost.isEmpty then m
  else
    { m with
      sendAlgorithm := SendAlgorithmInterface.onCongestionEvent m.sendAlgorithm m.rttStats
        m.unackedPackets rttUpdated priorInFlight eventTime m.packetsAcked m.packetsLost
      unackedPackets := m.unackedPackets.removeObsoletePackets
      packetsAcked := []
      packetsLost := [] }

/-- The part of `PostProcessNewlyAckedPackets` behind the congestion event. -/
def resetConsecutiveRtoCount (m : QuicSentPacketManager σ) (rttUpdated : Bool) :
    QuicSentPacketManager σ :=
  if rttUpdated then
    { m with
      sendAlgorithm :=
        if 0 < m.consecutiveRtoCount then
          SendAlgorithmInterface.onRetransmissionTimeout m.sendAlgorithm true
        else m.sendAlgorithm
      consecutiveRtoCount := 0 }
  else m

def postProcessNewlyAckedPackets (m : QuicSentPacketManager σ) (ackReceiveTime : Int)
    (rttUpdated : Bool) (priorBytesInFlight : Nat) :
    Except Fault (QuicSentPacketManager σ) := do
  let m ← m.invokeLossDetection ackReceiveTime
  let m := m.maybeInvokeCongestionEvent rttUpdated priorBytesInFlight ackReceiveTime
  return m.resetConsecutiveRtoCount rttUpdated

/-! ## Acknowledgements -/

def maybeUpdateRtt (m : QuicSentPacketManager σ) (largestAcked : Nat) (ackReceiveTime : Int) :
    Except Fault (QuicSentPacketManager σ × Bool) :=
  if !m.unackedPackets.isUnacked largestAcked then .ok (m, false)
  else do
    let info ← m.unackedPackets.getTransmissionInfo largestAcked
    if info.sentTime = 0 then return (m, false)
    else if info.state = .notContributingRtt then return (m, false)
    else
      let sendDelta := ackReceiveTime - info.sentTime
      return ({ m with rttStats := m.rttStats.updateRtt sendDelta 0 ackReceiveTime }, true)

def onAckFrameStart (m : QuicSentPacketManager σ) (largestAcked : Nat) (ackReceiveTime : Int) :
    Except Fault (QuicSentPacketManager σ) := do
  let (m, rttUpdated) ← m.maybeUpdateRtt largestAcked ackReceiveTime
  return { m with rttUpdated }

/-- Only `start` is recorded; `now` is the reading of the clock. -/
def onAckRange (m : QuicSentPacketManager σ) (start _end : Nat) (now : Int) :
    QuicSentPacketManager σ :=
  { m with packetsAcked := m.packetsAcked ++ [⟨start, defaultPacketSize, now⟩] }

def markPacketHandled (m : QuicSentPacketManager σ) (packetNumber : Nat)
    (info : QuicTransmissionInfo) (ackReceiveTime : Int) :
    Except Fault (QuicSentPacketManager σ) := do
  let m ←
    if info.state = .lost then do
      let alg ← m.lossAlgorithm.spuriousLossDetected m.unackedPackets m.rttStats ackReceiveTime
        packetNumber m.unackedPackets.largestAcked
      pure { m with
             lossAlgorithm := alg
             stats := { m.stats with
               packetSpuriouslyDetectedLost := m.stats.packetSpuriouslyDetectedLost + 1 } }
    else pure m
  let map ← m.unackedPackets.removeFromInFlight packetNumber
  return { m with unackedPackets := map.setState packetNumber .acked }

/-- The loop over `packets_acked_`; it fills in the acked bytes of each entry. -/
def markAckedPackets (ackReceiveTime : Int) : List AckedPacket → QuicSentPacketManager σ →
    Except Fault (List AckedPacket × QuicSentPacketManager σ)
  | [], m => .ok ([], m)
  | acked :: rest, m => do
      let info ← m.unackedPackets.getTransmissionInfo acked.packetNumber
      let acked' := if info.inFlight then { acked with bytesAcked := info.bytesSent } else acked
      let m' :=
        if info.inFlight then m
        else { m with largestNewlyAcked := .number acked.packetNumber }
      let m' ← m'.markPacketHandled acked.packetNumber info ackReceiveTime
      let (rest', m') ← markAckedPackets ackReceiveTime rest m'
      return (acked' :: rest', m')

/-- `OnAckFrameEnd` up to the call of `PostProcessNewlyAckedPackets`. -/
def handleAckedPackets (m : QuicSentPacketManager σ) (ackReceiveTime : Int) :
    Except Fault (QuicSentPacketManager σ) := do
  let (acked, m) ← markAckedPackets ackReceiveTime m.packetsAcked.reverse m
  return { m with packetsAcked := acked }

def onAckFrameEnd (m : QuicSentPacketManager σ) (ackReceiveTime : Int)
    (_ackPacketNumber : Nat) : Except Fault (QuicSentPacketManager σ × AckResult) := do
  let priorBytesInFlight := m.unackedPackets.bytesInFlight
  let m ← m.handleAckedPackets ackReceiveTime
  let result : AckResult :=
    if m.packetsAcked.isEmpty then .noPacketsNewlyAcked else .packetsNewlyAcked
  let m ← m.postProcessNewlyAckedPackets ackReceiveTime m.rttUpdated priorBytesInFlight
  return (m, result)

/-! ## Retransmission timeouts -/

def getRetransmissionMode (m : QuicSentPacketManager σ) : RetransmissionTimeoutMode :=
  if m.lossAlgorithm.lossDetectionTimeout ≠ 0 then .lossMode else .rtoMode

/-- The loop of `RetransmitRtoPackets`: `count` packets from `packetNumber` on. -/
def sweepOutstanding : Nat → Nat → QuicUnackedPacketMap → Except Fault QuicUnackedPacketMap
  | 0, _, map => .ok map
  | count + 1, packetNumber, map => do
      let info ← map.getTransmissionInfo packetNumber
      let map ←
        if info.state = .outstanding then do
          let map ← map.removeFromInFlight packetNumber
          pure (map.setState packetNumber .neverSent)
        else pure map
      sweepOutstanding count (packetNumber + 1) map

/-- The number of iterations up to `largest_sent_packet`. An uninitialized bound is
the largest number there is, so that loop leaves the deque. -/
def sweepCount (map : QuicUnackedPacketMap) : Nat :=
  match map.largestSentPacket with
  | .number largest => largest + 1 - map.leastUnacked
  | .uninitialized => map.unackedPackets.length + 1

def retransmitRtoPackets (m : QuicSentPacketManager σ) :
    Except Fault (QuicSentPacketManager σ) := do
  let map := m.unackedPackets
  let map ←
    if map.unackedPackets.isEmpty then pure map
    else sweepOutstanding (sweepCount map) map.leastUnacked map
  return { m with
           unackedPackets := map.removeObsoletePackets
           consecutiveRtoCount := m.consecutiveRtoCount + 1 }

def onRetransmissionTimeout (m : QuicSentPacketManager σ) (now : Int) :
    Except Fault (QuicSentPacketManager σ × RetransmissionTimeoutMode) :=
  match m.getRetransmissionMode with
  | .lossMode => do
      let m := { m with
        stats := { m.stats with lossTimeoutCount := m.stats.lossTimeoutCount + 1 } }
      let priorInFlight := m.unackedPackets.bytesInFlight
      let m ← m.invokeLossDetection now
      return (m.maybeInvokeCongestionEvent false priorInFlight now, .lossMode)
  | .rtoMode => do
      let m ← { m with stats := { m.stats with rtoCount := m.stats.rtoCount + 1 } }
        |>.retransmitRtoPackets
      return (m, .rtoMode)

def getRetransmissionDelay (m : QuicSentPacketManager σ) : Int :=
  let base :=
    if m.rttStats.smoothedRtt = 0 then Time.fromMilliseconds kDefaultRetransmissionTimeMs
    else max m.minRtoTimeout (m.rttStats.smoothedRtt + 4 * m.rttStats.meanDeviation)
  let delay := base * 2 ^ min m.consecutiveRtoCount kMaxRetransmissions
  if kMaxRetransmissionTimeMs < delay.tdiv 1000 then
    Time.fromMilliseconds kMaxRetransmissionTimeMs
  else delay

def getRetransmissionTime (m : QuicSentPacketManager σ) : Int :=
  if !m.unackedPackets.hasInFlightPackets then 0
  else match m.getRetransmissionMode with
    | .lossMode => m.lossAlgorithm.lossDetectionTimeout
    | .rtoMode => m.unackedPackets.lastInflightPacketSentTime + m.getRetransmissionDelay

/-! ## What the client reads -/

def getCongestionWindowInBytes (m : QuicSentPacketManager σ) : Nat :=
  SendAlgorithmInterface.getCongestionWindow m.sendAlgorithm

def getPacingRate (m : QuicSentPacketManager σ) : QuicBandwidth :=
  SendAlgorithmInterface.pacingRate m.sendAlgorithm m.rttStats m.unackedPackets.bytesInFlight

end QuicSentPacketManager

end BbrChrome
