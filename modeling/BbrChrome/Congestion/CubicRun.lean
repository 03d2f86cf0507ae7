import BbrChrome.Congestion.TcpCubicSenderBytes

/-!
# Runs of the CUBIC sender

A run is any sequence of calls of `OnPacketSent`, `OnCongestionEvent` and
`OnRetransmissionTimeout`, with arbitrary arguments. A congestion event is a sequence of
operations of its own: the check of the slow start, then its losses, then its acks.
-/

namespace BbrChrome

inductive CubicCall
  | packetSent (sentTime : Int) (bytesInFlight packetNumber bytes : Nat)
  | congestionEvent (rttStats : RttStats) (rttUpdated : Bool) (priorInFlight : Nat)
      (eventTime : Int) (ackedPackets : List AckedPacket) (lostPackets : List LostPacket)
  | retransmissionTimeout (packetsRetransmitted : Bool)
deriving DecidableEq, Repr

inductive CubicOperation
  | exitCheck (rttStats : RttStats) (rttUpdated : Bool)
  | packetLost (packetNumber lostBytes priorInFlight : Nat)
  | packetAcked (rttStats : RttStats) (packetNumber ackedBytes priorInFlight : Nat)
      (eventTime : Int)
  | packetSent (sentTime : Int) (bytesInFlight packetNumber bytes : Nat)
  | retransmissionTimeout (packetsRetransmitted : Bool)
deriving DecidableEq, Repr

def CubicCall.operations : CubicCall → List CubicOperation
  | packetSent sentTime bytesInFlight packetNumber bytes =>
      [.packetSent sentTime bytesInFlight packetNumber bytes]
  | congestionEvent rttStats rttUpdated priorInFlight eventTime ackedPackets lostPackets =>
      .exitCheck rttStats rttUpdated ::
        (lostPackets.map fun lost =>
            .packetLost lost.packetNumber lost.bytesLost priorInFlight) ++
        ackedPackets.map fun acked =>
          .packetAcked rttStats acked.packetNumber acked.bytesAcked priorInFlight eventTime
  | retransmissionTimeout packetsRetransmitted => [.retransmissionTimeout packetsRetransmitted]

namespace TcpCubicSenderBytes

def call (s : TcpCubicSenderBytes) : CubicCall → TcpCubicSenderBytes
  | .packetSent sentTime bytesInFlight packetNumber bytes =>
      s.onPacketSent sentTime bytesInFlight packetNumber bytes
  | .congestionEvent rttStats rttUpdated priorInFlight eventTime ackedPackets lostPackets =>
      s.onCongestionEvent rttStats rttUpdated priorInFlight eventTime ackedPackets lostPackets
  | .retransmissionTimeout packetsRetransmitted => s.onRetransmissionTimeout packetsRetransmitted

def perform (s : TcpCubicSenderBytes) : CubicOperation → TcpCubicSenderBytes
  | .exitCheck rttStats rttUpdated => s.maybeExitSlowStart rttStats rttUpdated
  | .packetLost packetNumber lostBytes priorInFlight =>
      s.onPacketLost packetNumber lostBytes priorInFlight
  | .packetAcked rttStats packetNumber ackedBytes priorInFlight eventTime =>
      s.onPacketAcked rttStats packetNumber ackedBytes priorInFlight eventTime
  | .packetSent sentTime bytesInFlight packetNumber bytes =>
      s.onPacketSent sentTime bytesInFlight packetNumber bytes
  | .retransmissionTimeout packetsRetransmitted => s.onRetransmissionTimeout packetsRetransmitted

def run (s : TcpCubicSenderBytes) (calls : List CubicCall) : TcpCubicSenderBytes :=
  calls.foldl call s

variable {s : TcpCubicSenderBytes}

theorem call_eq_perform (s : TcpCubicSenderBytes) (c : CubicCall) :
    s.call c = c.operations.foldl perform s := by
  cases c with
  | packetSent => rfl
  | congestionEvent =>
      simp only [call, onCongestionEvent, CubicCall.operations, List.cons_append,
        List.foldl_cons, List.foldl_append, List.foldl_map, perform]
  | retransmissionTimeout => rfl

theorem run_eq_perform (s : TcpCubicSenderBytes) (calls : List CubicCall) :
    s.run calls = (calls.flatMap CubicCall.operations).foldl perform s := by
  induction calls generalizing s with
  | nil => rfl
  | cons c calls ih =>
      show (s.call c).run calls = _
      rw [ih, List.flatMap_cons, List.foldl_append, call_eq_perform]

theorem maybeExitSlowStart_cases (s : TcpCubicSenderBytes) (rttStats : RttStats)
    (rttUpdated : Bool) :
    s.maybeExitSlowStart rttStats rttUpdated = s ∨
      ∃ hybridSlowStart, s.inSlowStart = true ∧
        (s.maybeExitSlowStart rttStats rttUpdated = { s with hybridSlowStart } ∨
          s.maybeExitSlowStart rttStats rttUpdated =
            { s with hybridSlowStart, slowstartThreshold := s.congestionWindow }) := by
  unfold maybeExitSlowStart
  split
  · next hcheck =>
      dsimp only
      generalize s.hybridSlowStart.shouldExitSlowStart _ _ _ = r
      refine .inr ⟨r.1, (Bool.and_eq_true_iff.mp hcheck).2, ?_⟩
      split
      · exact .inr rfl
      · exact .inl rfl
  · exact .inl rfl

/-- Without the large reduction a repeated loss is only counted. -/
theorem onRepeatedLoss_eq (hlarge : s.slowStartLargeReduction = false) (lostBytes : Nat) :
    s.onRepeatedLoss lostBytes = { s with stats := (s.onRepeatedLoss lostBytes).stats } := by
  unfold onRepeatedLoss
  split
  · dsimp only
    rw [if_neg (by simp [hlarge])]
  · rfl

/-! ## Induction over runs -/

theorem run_invariant {Inv : TcpCubicSenderBytes → Prop}
    (hperform : ∀ s operation, Inv s → Inv (s.perform operation)) (h : Inv s)
    (calls : List CubicCall) : Inv (s.run calls) := by
  rw [run_eq_perform]
  generalize calls.flatMap CubicCall.operations = operations
  induction operations generalizing s with
  | nil => exact h
  | cons operation operations ih => exact ih (hperform s operation h)

end TcpCubicSenderBytes

end BbrChrome
