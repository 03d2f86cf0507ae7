import BbrChrome.Library.PartialRun
import BbrChrome.Congestion.BbrSender
import BbrChrome.Quic.SentPacketManager

/-!
# The manager as it is driven

A connection is a manager together with the packet maker that numbers the packets
1, 2, 3, ... Its operations are the sending of a packet, the triple of calls that
one echo causes, and the retransmission timeout.
-/

namespace BbrChrome

structure Connection (σ : Type) where
  manager : QuicSentPacketManager σ
  /-- `packet_maker_.recent_packet_number_`. -/
  recentPacketNumber : Nat := 0

inductive Operation
  | send (length : PacketLength) (sendTime : Int)
  | ack (packetNumber : Nat) (ackReceiveTime now : Int)
  | timeout (now : Int)
deriving DecidableEq, Repr

namespace Connection

variable {σ : Type} [SendAlgorithmInterface σ]

def create (sendAlgorithm : σ) : Connection σ := { manager := { sendAlgorithm } }

abbrev map (c : Connection σ) : QuicUnackedPacketMap := c.manager.unackedPackets

/-- `SerializedPacketMaker::MakePacket`, with the time the client writes into the packet. -/
def makePacket (c : Connection σ) (encryptedLength : PacketLength) (sendTime : Int) :
    SerializedPacket :=
  { packetNumber := c.recentPacketNumber + 1, encryptedLength, sendTime }

def send (c : Connection σ) (length : PacketLength) (sendTime : Int) : Connection σ :=
  let packet := c.makePacket length sendTime
  { manager := (c.manager.onPacketSent packet packet.sendTime).1
    recentPacketNumber := packet.packetNumber }

def ack (c : Connection σ) (packetNumber : Nat) (ackReceiveTime now : Int) :
    Except Fault (Connection σ) := do
  let m ← c.manager.onAckFrameStart packetNumber ackReceiveTime
  let m := m.onAckRange packetNumber (packetNumber + 1) now
  let (m, _) ← m.onAckFrameEnd ackReceiveTime packetNumber
  return { c with manager := m }

def timeout (c : Connection σ) (now : Int) : Except Fault (Connection σ) := do
  let (m, _) ← c.manager.onRetransmissionTimeout now
  return { c with manager := m }

def step (c : Connection σ) : Operation → Except Fault (Connection σ)
  | .send length sendTime => .ok (c.send length sendTime)
  | .ack packetNumber ackReceiveTime now => c.ack packetNumber ackReceiveTime now
  | .timeout now => c.timeout now

def Valid (c : Connection σ) : Operation → Prop
  | .ack packetNumber _ _ => 1 ≤ packetNumber ∧ packetNumber ≤ c.recentPacketNumber
  | _ => True

instance (c : Connection σ) (op : Operation) : Decidable (c.Valid op) := by
  cases op <;> unfold Valid <;> infer_instance

abbrev exec (c : Connection σ) (ops : List Operation) : Except Fault (Connection σ) :=
  PartialRun.exec step c ops

abbrev Along (P : Connection σ → Operation → Prop) (c : Connection σ) (ops : List Operation) :
    Prop :=
  PartialRun.Along step P c ops

end Connection

/-- `SendAlgorithmInterface::Create` with `kBBRv2`, for a manager created at time `now`. -/
def bbr2Connection (now : Int) (stream : Nat → Nat) : Connection Bbr2Sender :=
  .create (Bbr2Sender.create now {} kInitialCongestionWindow 100000 stream)

/-- `SendAlgorithmInterface::Create` with `kBBR`. -/
def bbrConnection (now : Int) (stream : Nat → Nat) : Connection BbrSender :=
  .create (BbrSender.create now kInitialCongestionWindow 100000 stream)

end BbrChrome
