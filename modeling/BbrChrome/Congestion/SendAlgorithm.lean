import BbrChrome.Congestion.RttStats
import BbrChrome.Quic.UnackedPacketMap

/-!
# Interface of the send algorithms
-/

namespace BbrChrome

/-- `SendAlgorithmInterface`. A send algorithm holds pointers to the RTT statistics
and to the map of unacked packets, so the operations that may read them take the
current values as arguments. -/
class SendAlgorithmInterface (σ : Type) where
  onCongestionEvent : σ → RttStats → QuicUnackedPacketMap → (rttUpdated : Bool) →
    (priorInFlight : Nat) → (eventTime : Int) → List AckedPacket → List LostPacket → σ
  onPacketSent : σ → (sentTime : Int) → (bytesInFlight packetNumber bytes : Nat) → σ
  canSend : σ → (bytesInFlight : Nat) → Bool
  pacingRate : σ → RttStats → (bytesInFlight : Nat) → QuicBandwidth
  bandwidthEstimate : σ → QuicBandwidth
  getCongestionWindow : σ → Nat
  inSlowStart : σ → Bool
  inRecovery : σ → Bool
  onRetransmissionTimeout : σ → (packetsRetransmitted : Bool) → σ

end BbrChrome
