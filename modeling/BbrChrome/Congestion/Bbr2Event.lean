import BbrChrome.Congestion.Bbr2Sender
import BbrChrome.Congestion.SamplerAccounts

/-!
# The flight of a congestion event

What `OnCongestionEventStart` fills in for the bytes acked, lost and in flight.
-/

namespace BbrChrome

namespace Bbr2NetworkModel

variable (m : Bbr2NetworkModel) (eventTime : Int) (ackedPackets : List AckedPacket)
  (lostPackets : List LostPacket) (event : Bbr2CongestionEvent)

theorem onCongestionEventStart_bytesAcked :
    (m.onCongestionEventStart eventTime ackedPackets lostPackets event).2.bytesAcked =
      m.bandwidthSampler.accounts.creditedBytes ackedPackets := by
  have hacked : ∀ maxBandwidth bandwidthLo rounds, (m.bandwidthSampler.onCongestionEvent eventTime
      ackedPackets lostPackets maxBandwidth bandwidthLo rounds).1.totalBytesAcked =
        m.totalBytesAcked + m.bandwidthSampler.accounts.creditedBytes ackedPackets := by
    intro maxBandwidth bandwidthLo rounds
    exact congrArg SamplerAccounts.totalBytesAcked
      (BandwidthSampler.accounts_onCongestionEvent eventTime ackedPackets lostPackets maxBandwidth
        bandwidthLo rounds)
  unfold onCongestionEventStart sampleCongestionEvent
  dsimp only
  rw [hacked, subUint64_of_le (Nat.le_add_right _ _), Nat.add_sub_cancel_left]

theorem onCongestionEventStart_bytesLost :
    (m.onCongestionEventStart eventTime ackedPackets lostPackets event).2.bytesLost =
      (lostPackets.map (·.bytesLost)).sum := by
  have hlost : ∀ maxBandwidth bandwidthLo rounds, (m.bandwidthSampler.onCongestionEvent eventTime
      ackedPackets lostPackets maxBandwidth bandwidthLo rounds).1.totalBytesLost =
        m.totalBytesLost + (lostPackets.map (·.bytesLost)).sum := by
    intro maxBandwidth bandwidthLo rounds
    exact congrArg SamplerAccounts.totalBytesLost
      (BandwidthSampler.accounts_onCongestionEvent eventTime ackedPackets lostPackets maxBandwidth
        bandwidthLo rounds)
  unfold onCongestionEventStart sampleCongestionEvent
  dsimp only
  rw [hlost, subUint64_of_le (Nat.le_add_right _ _), Nat.add_sub_cancel_left]

theorem onCongestionEventStart_flight :
    (m.onCongestionEventStart eventTime ackedPackets lostPackets event).2.bytesInFlight =
      if (m.onCongestionEventStart eventTime ackedPackets lostPackets event).2.bytesAcked +
          (m.onCongestionEventStart eventTime ackedPackets lostPackets event).2.bytesLost ≤
            event.priorBytesInFlight then
        event.priorBytesInFlight -
          (m.onCongestionEventStart eventTime ackedPackets lostPackets event).2.bytesAcked -
          (m.onCongestionEventStart eventTime ackedPackets lostPackets event).2.bytesLost
      else 0 := rfl

/-- The bytes in flight of the event, unless more left the flight than was in it. -/
theorem onCongestionEventStart_bytesInFlight {left : Nat}
    (hleft : left + m.bandwidthSampler.accounts.creditedBytes ackedPackets +
      (lostPackets.map (·.bytesLost)).sum = event.priorBytesInFlight) :
    (m.onCongestionEventStart eventTime ackedPackets lostPackets event).2.bytesInFlight = left := by
  have hacked := m.onCongestionEventStart_bytesAcked eventTime ackedPackets lostPackets event
  have hlost := m.onCongestionEventStart_bytesLost eventTime ackedPackets lostPackets event
  rw [m.onCongestionEventStart_flight, hacked, hlost, if_pos (by omega)]
  omega

/-- The flight that `IsCongestionWindowLimited` adds up is at least the one before the event. -/
theorem prior_le_onCongestionEventStart :
    event.priorBytesInFlight ≤
      (m.onCongestionEventStart eventTime ackedPackets lostPackets event).2.bytesInFlight +
        (m.onCongestionEventStart eventTime ackedPackets lostPackets event).2.bytesAcked +
        (m.onCongestionEventStart eventTime ackedPackets lostPackets event).2.bytesLost := by
  rw [m.onCongestionEventStart_flight]
  split
  · omega
  · omega

end Bbr2NetworkModel

def Bbr2Sender.congestionEvent (s : Bbr2Sender) (priorInFlight : Nat) (eventTime : Int)
    (ackedPackets : List AckedPacket) (lostPackets : List LostPacket) : Bbr2CongestionEvent :=
  (s.model.onCongestionEventStart eventTime ackedPackets lostPackets
    (s.startCongestionEvent priorInFlight)).2

end BbrChrome
