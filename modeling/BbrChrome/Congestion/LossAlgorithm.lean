import BbrChrome.Congestion.RttStats
import BbrChrome.Quic.UnackedPacketMap

/-!
# Loss detection

`detectLosses` declares packets lost by packet threshold and by time threshold.
It starts at the cached least packet in flight and stops at the first packet that
survives, for which it sets the loss timeout.
-/

namespace BbrChrome

/-- `DetectionStats`; the response times are added up in `float`. -/
structure DetectionStats where
  sentPacketsMaxSequenceReordering : Nat := 0
  sentPacketsNumBorderlineTimeReorderings : Nat := 0
  totalLossDetectionResponseTime : Rat := 0
deriving DecidableEq, Repr

structure GeneralLossAlgorithm where
  lossDetectionTimeout : Int := 0
  reorderingShift : Nat := kDefaultLossDelayShift
  reorderingThreshold : Nat := kDefaultPacketReorderingThreshold
  useAdaptiveReorderingThreshold : Bool := true
  useAdaptiveTimeThreshold : Bool := false
  usePacketThresholdForRuntPackets : Bool := true
  leastInFlight : QuicPacketNumber := .number 1
deriving DecidableEq, Repr

def detectionResponseTime (rtt sendTime detectionTime : Int) : Rat :=
  if detectionTime ≤ sendTime ∨ rtt = 0 then 1
  else float32 (float32 ((detectionTime - sendTime : Int) : Rat) / float32 rtt)

def getMaxRtt (rttStats : RttStats) : Int :=
  max kAlarmGranularity (max rttStats.previousSrtt rttStats.latestRtt)

namespace DetectionStats

def onPacketExamined (stats : DetectionStats) (reordering : Nat) : DetectionStats :=
  { stats with
    sentPacketsMaxSequenceReordering := max stats.sentPacketsMaxSequenceReordering reordering }

def onPacketLost (stats : DetectionStats) (maxRtt sentTime time : Int) : DetectionStats :=
  { stats with
    totalLossDetectionResponseTime :=
      float32 (stats.totalLossDetectionResponseTime +
        detectionResponseTime maxRtt sentTime time) }

def onBorderline (stats : DetectionStats) : DetectionStats :=
  { stats with
    sentPacketsNumBorderlineTimeReorderings :=
      stats.sentPacketsNumBorderlineTimeReorderings + 1 }

end DetectionStats

namespace GeneralLossAlgorithm

/-- `max_rtt + (max_rtt >> reordering_shift_)`. -/
def lossDelay (alg : GeneralLossAlgorithm) (rttStats : RttStats) : Int :=
  getMaxRtt rttStats + Time.shiftRight (getMaxRtt rttStats) alg.reorderingShift

/-- What the scan has found so far: the lost packets in order, the statistics and,
once it has met a survivor, its number and the time at which it will be lost. -/
structure ScanResult where
  packetsLost : List LostPacket := []
  stats : DetectionStats := {}
  survivor : Option (Nat × Int) := none
deriving DecidableEq, Repr

/-- The fixed data of one scan. -/
structure ScanContext where
  time : Int
  maxRtt : Int
  largestNewlyAcked : QuicPacketNumber
  alg : GeneralLossAlgorithm
  /-- The lookup of the size of `largestNewlyAcked`, made for runt packets only. -/
  largestNewlyAckedBytes : Except Fault Nat

def ScanContext.lossDelay (ctx : ScanContext) : Int :=
  ctx.maxRtt + Time.shiftRight ctx.maxRtt ctx.alg.reorderingShift

/-- Packet threshold detection is skipped if the newly acked packet is a runt. -/
def ScanContext.skipPacketThresholdDetection (ctx : ScanContext) (info : QuicTransmissionInfo) :
    Except Fault Bool :=
  if ctx.alg.usePacketThresholdForRuntPackets then .ok false
  else do
    let largestBytes ← ctx.largestNewlyAckedBytes
    return largestBytes < info.bytesSent

/-- The loop over the deque, from the slot of packet `n` on. -/
def scanLosses (ctx : ScanContext) :
    List QuicTransmissionInfo → Nat → ScanResult → Except Fault ScanResult
  | [], _, result => .ok result
  | info :: infos, n, result =>
      if !ctx.largestNewlyAcked.atLeast n then .ok result
      else if !info.inFlight then scanLosses ctx infos (n + 1) result
      else do
        let reordering := ctx.largestNewlyAcked.sub n
        let stats := result.stats.onPacketExamined reordering
        let lost : ScanResult :=
          { result with
            packetsLost := result.packetsLost ++ [⟨n, info.bytesSent⟩]
            stats := stats.onPacketLost ctx.maxRtt info.sentTime ctx.time }
        let skip ← ctx.skipPacketThresholdDetection info
        if !skip && ctx.alg.reorderingThreshold ≤ reordering then
          scanLosses ctx infos (n + 1) lost
        else
          let whenLost := info.sentTime + ctx.lossDelay
          if ctx.time < whenLost then
            let borderline := info.sentTime + ctx.maxRtt +
              Time.shiftRight ctx.maxRtt (ctx.alg.reorderingShift + 1)
            .ok { result with
                  stats := if borderline ≤ ctx.time then stats.onBorderline else stats
                  survivor := some (n, whenLost) }
          else scanLosses ctx infos (n + 1) lost

/-- Advance over the acked packets that follow `leastInFlight` without a hole. -/
def advanceLeastInFlight : List AckedPacket → QuicPacketNumber → QuicPacketNumber
  | [], least => least
  | acked :: rest, least =>
      if .number acked.packetNumber = least then advanceLeastInFlight rest (least.add 1)
      else least

/-- The slots the scan starts from, with the number of the first one. Moving the
iterator behind the end of the deque is a fault. -/
def scanStart (leastInFlight : QuicPacketNumber) (map : QuicUnackedPacketMap) :
    Except Fault (List QuicTransmissionInfo × Nat) :=
  match leastInFlight with
  | .uninitialized => .ok (map.unackedPackets, map.leastUnacked)
  | .number least =>
      if map.leastUnacked ≤ least && !(map.largestSentPacket.add 1).below least then
        let jump := least - map.leastUnacked
        if jump ≤ map.unackedPackets.length then .ok (map.unackedPackets.drop jump, least)
        else .error (.iteratorPastEnd jump map.unackedPackets.length)
      else .ok (map.unackedPackets, map.leastUnacked)

/-- `packets_acked` starts at `leastInFlight` and ends at `largestNewlyAcked` without a hole. -/
def noPacketMissing (alg : GeneralLossAlgorithm) (largestNewlyAcked : QuicPacketNumber)
    (packetsAcked : List AckedPacket) : Bool :=
  match packetsAcked.head?, packetsAcked.getLast? with
  | some front, some back =>
      alg.leastInFlight == .number front.packetNumber &&
        largestNewlyAcked == .number back.packetNumber &&
        alg.leastInFlight.add (packetsAcked.length - 1) == largestNewlyAcked
  | _, _ => false

/-- Returns the new algorithm state, `packetsLost` with the newly lost packets
appended, and the statistics of this detection. -/
def detectLosses (alg : GeneralLossAlgorithm) (map : QuicUnackedPacketMap) (time : Int)
    (rttStats : RttStats) (largestNewlyAcked : QuicPacketNumber)
    (packetsAcked : List AckedPacket) (packetsLost : List LostPacket) :
    Except Fault (GeneralLossAlgorithm × List LostPacket × DetectionStats) :=
  if alg.noPacketMissing largestNewlyAcked packetsAcked then
    .ok ({ alg with lossDetectionTimeout := 0, leastInFlight := largestNewlyAcked.add 1 },
      packetsLost, {})
  else do
    -- A hole in `packetsAcked`; the loop stops at once if the first number differs.
    let leastInFlight := advanceLeastInFlight packetsAcked alg.leastInFlight
    let (slots, first) ← scanStart leastInFlight map
    let ctx : ScanContext :=
      { time, maxRtt := getMaxRtt rttStats, largestNewlyAcked, alg
        largestNewlyAckedBytes :=
          (map.getTransmissionInfo largestNewlyAcked.toUint64).map (·.bytesSent) }
    let result ← scanLosses ctx slots first {}
    let (timeout, least) := match result.survivor with
      | some (n, whenLost) => (whenLost, QuicPacketNumber.number n)
      | none => (0, largestNewlyAcked.add 1)
    return ({ alg with lossDetectionTimeout := timeout, leastInFlight := least },
      packetsLost ++ result.packetsLost, result.stats)

/-- Lower the shift until the packet would not have been declared lost. -/
def adaptReorderingShift (maxRtt timeNeeded : Int) : Nat → Nat
  | 0 => 0
  | shift + 1 =>
      if maxRtt + Time.shiftRight maxRtt (shift + 1) < timeNeeded then
        adaptReorderingShift maxRtt timeNeeded shift
      else shift + 1

def spuriousLossDetected (alg : GeneralLossAlgorithm) (map : QuicUnackedPacketMap)
    (rttStats : RttStats) (ackReceiveTime : Int) (packetNumber : Nat)
    (previousLargestAcked : QuicPacketNumber) : Except Fault GeneralLossAlgorithm := do
  let alg ←
    if alg.useAdaptiveTimeThreshold && 0 < alg.reorderingShift then do
      let info ← map.getTransmissionInfo packetNumber
      let timeNeeded := ackReceiveTime - info.sentTime
      let maxRtt := max rttStats.previousSrtt rttStats.latestRtt
      pure { alg with
             reorderingShift := adaptReorderingShift maxRtt timeNeeded alg.reorderingShift }
    else pure alg
  -- `previous_largest_acked - packet_number + 1` in `uint64_t`.
  let reordering := toUint64 ((previousLargestAcked.toUint64 : Int) - packetNumber + 1)
  return if alg.useAdaptiveReorderingThreshold then
      { alg with reorderingThreshold := max alg.reorderingThreshold reordering }
    else alg

end GeneralLossAlgorithm

end BbrChrome
