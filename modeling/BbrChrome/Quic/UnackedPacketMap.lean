import BbrChrome.Library.Slots
import BbrChrome.Quic.Types

/-!
# Map of unacked packets

`QuicUnackedPacketMap` is a deque of transmission infos whose front slot belongs
to packet `leastUnacked`. A pointer into the deque is represented by the packet
number it was looked up with.
-/

namespace BbrChrome

def SentPacketState.isAckable (state : SentPacketState) : Bool :=
  state != .neverSent && state != .acked && state != .unackable

structure QuicUnackedPacketMap where
  unackedPackets : List QuicTransmissionInfo := []
  leastUnacked : Nat := firstSendingPacketNumber
  largestSentPacket : QuicPacketNumber := .uninitialized
  largestAcked : QuicPacketNumber := .uninitialized
  bytesInFlight : Nat := 0
  packetsInFlight : Nat := 0
  lastInflightPacketSentTime : Int := 0
deriving DecidableEq, Repr

namespace QuicUnackedPacketMap

def isPacketUsefulForMeasuringRtt (info : QuicTransmissionInfo) : Bool := info.state.isAckable

def isPacketUsefulForCongestionControl (info : QuicTransmissionInfo) : Bool := info.inFlight

def isPacketUseless (info : QuicTransmissionInfo) : Bool :=
  !isPacketUsefulForMeasuringRtt info && !isPacketUsefulForCongestionControl info

/-- The placeholder pushed for a number that was skipped. -/
def neverSentInfo : QuicTransmissionInfo := { state := .neverSent }

/-- The `while` loop pushes a placeholder for every number below `packetNumber`. -/
def addSentPacket (map : QuicUnackedPacketMap) (packet : SerializedPacket) (sentTime : Int)
    (setInFlight : Bool) : QuicUnackedPacketMap :=
  let gap := packet.packetNumber - (map.leastUnacked + map.unackedPackets.length)
  let bytesSent := packet.encryptedLength.bytes
  let info : QuicTransmissionInfo :=
    { packetNumber := .number packet.packetNumber, sentTime, bytesSent, inFlight := setInFlight }
  let packets := map.unackedPackets ++ List.replicate gap neverSentInfo ++ [info]
  if setInFlight then
    { map with
      unackedPackets := packets
      largestSentPacket := .number packet.packetNumber
      bytesInFlight := map.bytesInFlight + bytesSent
      packetsInFlight := map.packetsInFlight + 1
      lastInflightPacketSentTime := sentTime }
  else
    { map with unackedPackets := packets, largestSentPacket := .number packet.packetNumber }

/-- The slot of a packet, if the deque has one. -/
def info? (map : QuicUnackedPacketMap) (packetNumber : Nat) : Option QuicTransmissionInfo :=
  if packetNumber < map.leastUnacked then none
  else map.unackedPackets[packetNumber - map.leastUnacked]?

def isUnacked (map : QuicUnackedPacketMap) (packetNumber : Nat) : Bool :=
  match map.info? packetNumber with
  | none => false
  | some info => !isPacketUseless info

/-- `GetTransmissionInfo` and `GetMutableTransmissionInfo` index the deque at
`packetNumber - leastUnacked` without a check. -/
def getTransmissionInfo (map : QuicUnackedPacketMap) (packetNumber : Nat) :
    Except Fault QuicTransmissionInfo :=
  match map.info? packetNumber with
  | some info => .ok info
  | none => .error (.outOfRange packetNumber map.leastUnacked map.unackedPackets.length)

/-- Write through the pointer to the slot of a packet. -/
def modifyInfo (map : QuicUnackedPacketMap) (packetNumber : Nat)
    (f : QuicTransmissionInfo → QuicTransmissionInfo) : QuicUnackedPacketMap :=
  { map with
    unackedPackets := map.unackedPackets.modify (packetNumber - map.leastUnacked) f }

def removeFromInFlight (map : QuicUnackedPacketMap) (packetNumber : Nat) :
    Except Fault QuicUnackedPacketMap := do
  let info ← map.getTransmissionInfo packetNumber
  if info.inFlight then
    if info.bytesSent ≤ map.bytesInFlight ∧ 1 ≤ map.packetsInFlight then
      .ok { map.modifyInfo packetNumber (fun i => { i with inFlight := false }) with
            bytesInFlight := map.bytesInFlight - info.bytesSent
            packetsInFlight := map.packetsInFlight - 1 }
    else .error .wrapped
  else .ok map

def setState (map : QuicUnackedPacketMap) (packetNumber : Nat) (state : SentPacketState) :
    QuicUnackedPacketMap :=
  map.modifyInfo packetNumber (fun i => { i with state })

def hasInFlightPackets (map : QuicUnackedPacketMap) : Bool := 0 < map.bytesInFlight

/-- Pop the front as long as it is useless. -/
def removeObsoletePackets (map : QuicUnackedPacketMap) : QuicUnackedPacketMap :=
  let rest := Slots.popWhile (fun _ info => isPacketUseless info) map.leastUnacked
    map.unackedPackets
  { map with leastUnacked := rest.1, unackedPackets := rest.2 }

end QuicUnackedPacketMap

end BbrChrome
