import BbrChrome.Congestion.Bbr2Writes
import BbrChrome.Congestion.BbrWrites

/-!
# The BBR senders as users of the sampler

Both versions of BBR hand every sent packet and every congestion event to their
sampler and leave its byte accounts alone otherwise.
-/

namespace BbrChrome

namespace BbrSender

variable {s : BbrSender}

/-- The sampler after a congestion event is the one that sampled it, trimmed. -/
theorem onCongestionEvent_accounts (rttStats : RttStats) (map : QuicUnackedPacketMap)
    (priorInFlight : Nat) (eventTime : Int) (ackedPackets : List AckedPacket)
    (lostPackets : List LostPacket) :
    (s.onCongestionEvent rttStats map priorInFlight eventTime ackedPackets
        lostPackets).sampler.accounts =
      (s.sampler.accounts.record ackedPackets lostPackets).trim map.leastUnacked := by
  have hbegin : (s.beginAcks ackedPackets !lostPackets.isEmpty).1.sampler.accounts =
      s.sampler.accounts := (beginAcks_changes _ _).keeps (·.sampler.accounts) rfl
  have htrim : ∀ (s : BbrSender) isRoundStart,
      (s.endCongestionEvent map.leastUnacked isRoundStart).sampler.accounts =
        s.sampler.accounts.trim map.leastUnacked :=
    fun _ _ => (endCongestionEvent_changes _ _).keeps (·.sampler.accounts) rfl
  have hreact : ∀ (s : BbrSender) ackedBefore lostBefore isRoundStart sample,
      (s.reactToSample rttStats map priorInFlight eventTime lostPackets ackedBefore lostBefore
        isRoundStart sample).sampler.accounts = s.sampler.accounts :=
    fun _ _ _ _ _ => (reactToSample_changes _ _ _ _ _ _ _ _ _).keeps (·.sampler.accounts) rfl
  unfold onCongestionEvent
  dsimp only
  rw [htrim, hreact, ← hbegin]
  exact congrArg (·.trim map.leastUnacked) (BandwidthSampler.accounts_onCongestionEvent _ _ _ _ _ _)

end BbrSender

/-! ## Senders over a sampler -/

/-- A send algorithm that keeps a bandwidth sampler and feeds it as BBR does. -/
class SamplesBandwidth (σ : Type) [SendAlgorithmInterface σ] where
  sampler : σ → BandwidthSampler
  /-- The sender that `SendAlgorithmInterface::Create` makes at `now`. -/
  create : (now : Int) → (stream : Nat → Nat) → σ
  create_accounts : ∀ now stream, (sampler (create now stream)).accounts = {}
  onPacketSent_sampler : ∀ s sentTime bytesInFlight packetNumber bytes,
    sampler (SendAlgorithmInterface.onPacketSent s sentTime bytesInFlight packetNumber bytes) =
      (sampler s).onPacketSent sentTime packetNumber bytes bytesInFlight
  onCongestionEvent_accounts : ∀ s rttStats map rttUpdated priorInFlight eventTime acked lost,
    (sampler (SendAlgorithmInterface.onCongestionEvent s rttStats map rttUpdated priorInFlight
        eventTime acked lost)).accounts =
      ((sampler s).accounts.record acked lost).trim map.leastUnacked
  onRetransmissionTimeout_sampler : ∀ s packetsRetransmitted,
    sampler (SendAlgorithmInterface.onRetransmissionTimeout s packetsRetransmitted) = sampler s

instance : SamplesBandwidth Bbr2Sender where
  sampler s := s.model.bandwidthSampler
  create now stream := Bbr2Sender.create now {} kInitialCongestionWindow 100000 stream
  create_accounts _ _ := rfl
  onPacketSent_sampler _ _ _ _ _ := (Bbr2Sender.onPacketSent_frame _ _ _ _).1
  onCongestionEvent_accounts _ _ _ _ _ _ _ _ := Bbr2Sender.onCongestionEvent_accounts _ _ _ _ _
  onRetransmissionTimeout_sampler _ _ := rfl

instance : SamplesBandwidth BbrSender where
  sampler s := s.sampler
  create now stream := BbrSender.create now kInitialCongestionWindow 100000 stream
  create_accounts _ _ := rfl
  onPacketSent_sampler _ _ _ _ _ := rfl
  onCongestionEvent_accounts _ _ _ _ _ _ _ _ := BbrSender.onCongestionEvent_accounts _ _ _ _ _ _
  onRetransmissionTimeout_sampler _ _ := rfl

end BbrChrome
