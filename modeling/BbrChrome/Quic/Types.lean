import BbrChrome.Quic.Units

/-!
# Packets, constants and statistics

The records that pass between the sent-packet manager, the loss detection and
the send algorithms.
-/

namespace BbrChrome

/-! ## Constants -/

def kDefaultTCPMSS : Nat := 1460

def kMaxSegmentSize : Nat := kDefaultTCPMSS

def kMaxOutgoingPacketSize : Nat := 1452

def kInitialCongestionWindow : Nat := 32

def kMaxInitialCongestionWindow : Nat := 200

def kDefaultNumConnections : Nat := 2

def kInitialRttMs : Int := 100

def kMinRetransmissionTimeMs : Int := 200

def kDefaultPacketReorderingThreshold : Nat := 3

def kDefaultLossDelayShift : Nat := 2

def kAlarmGranularity : Int := Time.fromMilliseconds 1

def defaultPacketSize : Nat := 1472

def firstSendingPacketNumber : Nat := 1

/-! ## Packets -/

/-- The length of a serialized packet: a `uint16_t` that counts at least one byte. -/
structure PacketLength where
  bytes : Nat
  pos : 0 < bytes
  lt : bytes < 2 ^ 16
deriving DecidableEq, Repr

/-- `DEFAULT_PACKET_SIZE` as the length of a packet. -/
def defaultPacketLength : PacketLength := ⟨defaultPacketSize, by decide, by decide⟩

structure SerializedPacket where
  packetNumber : Nat
  encryptedLength : PacketLength
  sendTime : Int
deriving DecidableEq, Repr

structure AckedPacket where
  packetNumber : Nat
  bytesAcked : Nat
  receiveTimestamp : Int
deriving DecidableEq, Repr

structure LostPacket where
  packetNumber : Nat
  bytesLost : Nat
deriving DecidableEq, Repr

inductive SentPacketState
  | outstanding
  | neverSent
  | acked
  | unackable
  | neutered
  | handshakeRetransmitted
  | lost
  | tlpRetransmitted
  | rtoRetransmitted
  | ptoRetransmitted
  | probeRetransmitted
  | notContributingRtt
deriving DecidableEq, Repr

/-- What the map keeps of a sent packet; the defaults are those of the argument-free constructor. -/
structure QuicTransmissionInfo where
  packetNumber : QuicPacketNumber := .uninitialized
  sentTime : Int := 0
  bytesSent : Nat := 0
  inFlight : Bool := false
  state : SentPacketState := .outstanding
deriving DecidableEq, Repr

inductive AckResult
  | packetsNewlyAcked
  | noPacketsNewlyAcked
deriving DecidableEq, Repr

/-! ## Statistics -/

/-- The counters of `QuicConnectionStats` that the sent-packet manager writes. -/
structure ManagerStats where
  packetsLost : Nat := 0
  packetSpuriouslyDetectedLost : Nat := 0
  lossTimeoutCount : Nat := 0
  rtoCount : Nat := 0
deriving DecidableEq, Repr

/-- A stopwatch that adds up the intervals between `start` and `stop`; the
sentinel of a stopped one is the infinite time. -/
structure QuicTimeAccumulator where
  totalElapsed : Int := 0
  lastStartTime : Int := Time.infinite
deriving DecidableEq, Repr

namespace QuicTimeAccumulator

def start (acc : QuicTimeAccumulator) (now : Int) : QuicTimeAccumulator :=
  { acc with lastStartTime := now }

def stop (acc : QuicTimeAccumulator) (now : Int) : QuicTimeAccumulator :=
  { totalElapsed :=
      if acc.lastStartTime < now then acc.totalElapsed + (now - acc.lastStartTime)
      else acc.totalElapsed
    lastStartTime := Time.infinite }

end QuicTimeAccumulator

/-- The fields of `QuicConnectionStats` that the send algorithms write. -/
structure SenderStats where
  slowstartCount : Nat := 0
  slowstartNumRtts : Nat := 0
  slowstartPacketsSent : Nat := 0
  slowstartBytesSent : Nat := 0
  slowstartPacketsLost : Nat := 0
  slowstartBytesLost : Nat := 0
  slowstartDuration : QuicTimeAccumulator := {}
  tcpLossEvents : Nat := 0
  bbrNumCycles : Nat := 0
  bbrNumShortCyclesForRenoCoexistence : Nat := 0
  bbrExitStartupDueToLoss : Bool := false
  overshootingDetectedWithNetworkParametersAdjusted : Bool := false
  hasNonAppLimitedSample : Bool := false
deriving DecidableEq, Repr

/-! ## Faults -/

/-- The ways in which an operation leaves the defined behaviour of the code. The
deque is indexed without a check, so an offset outside it reads foreign memory;
an iterator moved behind the end does the same. `wrapped` marks a byte or packet
counter that would be decremented below zero, `paused` the call of `pause_at_func`. -/
inductive Fault
  | outOfRange (packetNumber leastUnacked size : Nat)
  | iteratorPastEnd (jump size : Nat)
  | wrapped
  | paused
deriving DecidableEq, Repr

end BbrChrome
