import BbrChrome.Congestion.BbrAccounts
import BbrChrome.Quic.ConnectionInvariant

/-!
# The sampler mirrors the packet map

The sampler of a BBR sender keeps an entry of the right size for every slot of the
deque, although it is trimmed one event later than the deque.
-/

namespace BbrChrome

open QuicUnackedPacketMap QuicSentPacketManager

namespace QuicSentPacketManager

variable {σ : Type} {m : QuicSentPacketManager σ} {n L : Nat} {info : QuicTransmissionInfo}

@[simp] theorem ackEvent_leastUnacked {ackReceiveTime now : Int} :
    (m.ackEvent n info ackReceiveTime now).unackedPackets.leastUnacked =
      m.unackedPackets.leastUnacked := by
  simp [ackEvent, detect, acknowledge]

@[simp] theorem lossTimeoutEvent_leastUnacked {now : Int} :
    (m.lossTimeoutEvent L now).unackedPackets.leastUnacked = m.unackedPackets.leastUnacked := by
  simp [lossTimeoutEvent, detect, countLossTimeout]

variable [SendAlgorithmInterface σ]

variable (m) in
theorem le_maybeInvokeCongestionEvent (rttUpdated : Bool) (priorInFlight : Nat)
    (eventTime : Int) :
    m.unackedPackets.leastUnacked ≤
      (m.maybeInvokeCongestionEvent rttUpdated priorInFlight
        eventTime).unackedPackets.leastUnacked := by
  rcases maybeInvokeCongestionEvent_unackedPackets m rttUpdated priorInFlight eventTime
    with heq | heq
  · rw [heq]
  · rw [heq]
    exact le_removeObsoletePackets

theorem le_afterAck {ackReceiveTime now : Int} :
    m.unackedPackets.leastUnacked ≤
      (m.afterAck n info ackReceiveTime now).unackedPackets.leastUnacked := by
  have hle := le_maybeInvokeCongestionEvent (m.ackEvent n info ackReceiveTime now)
    (takesRttSample info) m.unackedPackets.bytesInFlight ackReceiveTime
  rw [ackEvent_leastUnacked] at hle
  rw [afterAck, resetConsecutiveRtoCount_unackedPackets]
  exact hle

theorem le_afterLossTimeout {now : Int} :
    m.unackedPackets.leastUnacked ≤ (m.afterLossTimeout L now).unackedPackets.leastUnacked := by
  have hle := le_maybeInvokeCongestionEvent (m.lossTimeoutEvent L now) false
    m.unackedPackets.bytesInFlight now
  rw [lossTimeoutEvent_leastUnacked] at hle
  exact hle

theorem maybeInvokeCongestionEvent_of_packets {rttUpdated : Bool} {priorInFlight : Nat}
    {eventTime : Int} (hne : m.packetsAcked ≠ [] ∨ m.packetsLost ≠ []) :
    m.maybeInvokeCongestionEvent rttUpdated priorInFlight eventTime =
      { m with
        sendAlgorithm := SendAlgorithmInterface.onCongestionEvent m.sendAlgorithm m.rttStats
          m.unackedPackets rttUpdated priorInFlight eventTime m.packetsAcked m.packetsLost
        unackedPackets := m.unackedPackets.removeObsoletePackets
        packetsAcked := []
        packetsLost := [] } := by
  unfold maybeInvokeCongestionEvent
  rw [if_neg]
  simp only [Bool.and_eq_true, List.isEmpty_iff]
  rintro ⟨⟨_, hacked⟩, hlost⟩
  rcases hne with hne | hne
  · exact hne hacked
  · exact hne hlost

variable [SamplesBandwidth σ]

def accounts (m : QuicSentPacketManager σ) : SamplerAccounts :=
  (SamplesBandwidth.sampler m.sendAlgorithm).accounts

@[simp] theorem resetConsecutiveRtoCount_accounts (rttUpdated : Bool) :
    (m.resetConsecutiveRtoCount rttUpdated).accounts = m.accounts := by
  unfold resetConsecutiveRtoCount
  split
  · unfold accounts
    dsimp only
    split
    · rw [SamplesBandwidth.onRetransmissionTimeout_sampler]
    · rfl
  · rfl

/-- An ack credits the acked packet and counts what the detection lost. -/
theorem afterAck_accounts (ackReceiveTime now : Int) :
    (m.afterAck n info ackReceiveTime now).accounts =
      (m.accounts.record
        [⟨n, if info.inFlight then info.bytesSent else defaultPacketSize, now⟩]
        (m.ackEvent n info ackReceiveTime now).packetsLost).trim m.unackedPackets.leastUnacked := by
  have hacked : (m.ackEvent n info ackReceiveTime now).packetsAcked ≠ [] := by
    simp [ackEvent, detect, acknowledge]
  rw [afterAck, resetConsecutiveRtoCount_accounts,
    maybeInvokeCongestionEvent_of_packets (.inl hacked)]
  unfold accounts
  rw [SamplesBandwidth.onCongestionEvent_accounts, ackEvent_leastUnacked]
  rfl

/-- The loss timer counts what the detection lost. The sampler is trimmed only when the
event is reported. -/
theorem afterLossTimeout_accounts (h : m.AtRest) (now : Int) :
    (m.afterLossTimeout L now).accounts =
        m.accounts.record [] (m.lossTimeoutEvent L now).packetsLost ∨
      (m.afterLossTimeout L now).accounts =
        (m.accounts.record [] (m.lossTimeoutEvent L now).packetsLost).trim
          m.unackedPackets.leastUnacked := by
  by_cases hnone : (m.lossTimeoutEvent L now).packetsLost = []
  · left
    have hacked : (m.lossTimeoutEvent L now).packetsAcked = [] := h.packetsAcked
    have hquiet : m.afterLossTimeout L now = m.lossTimeoutEvent L now := by
      unfold afterLossTimeout maybeInvokeCongestionEvent
      rw [if_pos (by simp [hacked, hnone])]
    rw [hquiet, hnone]
    rfl
  · right
    have hacked : (m.lossTimeoutEvent L now).packetsAcked = [] := h.packetsAcked
    rw [afterLossTimeout, maybeInvokeCongestionEvent_of_packets (.inr hnone)]
    unfold accounts
    rw [SamplesBandwidth.onCongestionEvent_accounts, lossTimeoutEvent_leastUnacked, hacked]
    rfl

end QuicSentPacketManager

namespace Connection

variable {σ : Type} [SendAlgorithmInterface σ] {c c' : Connection σ} {op : Operation}

theorem Outcome.leastUnacked_le (ho : c.Outcome op c') :
    c.map.leastUnacked ≤ c'.map.leastUnacked := by
  cases ho with
  | send length sendTime => exact le_refl _
  | ack hi ackReceiveTime now => exact le_afterAck
  | lossTimeout harmed hL now => exact le_afterLossTimeout
  | rto hidle now => exact Nat.le_add_right _ _

variable [SamplesBandwidth σ]

/-- The sampler's queue has no holes, ends where the deque ends, starts at or before it
and knows the size of every packet that has a slot. -/
def Mirrored (c : Connection σ) : Prop :=
  ∃ first entries, c.manager.accounts.connectionStateMap.Dense first entries ∧
    first + entries.length = c.map.nextNumber ∧ first ≤ c.map.leastUnacked ∧
    ∀ n info, c.map.info? n = some info →
      ∃ e, entries[n - first]? = some e ∧ e.size = info.bytesSent

theorem Mirrored.size? (h : c.Mirrored) {n : Nat} {info : QuicTransmissionInfo}
    (hi : c.map.info? n = some info) : c.manager.accounts.size? n = some info.bytesSent := by
  rcases h with ⟨first, entries, hdense, _, hfirst, hentry⟩
  obtain ⟨e, he, hsize⟩ := hentry n info hi
  have hn : first ≤ n := hfirst.trans (range_of_info hi).1
  rw [SamplerAccounts.size?, hdense.getEntry hn, he, Option.map_some, hsize]

/-- Trimming the queue up to the front of the deque keeps what the slots need. -/
theorem Mirrored.keep (h : c.Mirrored)
    (hqueue : c'.manager.accounts.connectionStateMap = c.manager.accounts.connectionStateMap ∨
      c'.manager.accounts.connectionStateMap =
        c.manager.accounts.connectionStateMap.removeUpTo c.map.leastUnacked)
    (hnext : c'.map.nextNumber = c.map.nextNumber)
    (hleast : c.map.leastUnacked ≤ c'.map.leastUnacked)
    (horigin : ∀ n info, c'.map.info? n = some info →
      ∃ old, c.map.info? n = some old ∧ old.bytesSent = info.bytesSent) : c'.Mirrored := by
  rcases h with ⟨first, entries, hdense, hend, hfirst, hentry⟩
  rcases hqueue with hqueue | hqueue
  · refine ⟨first, entries, hqueue ▸ hdense, by rw [hnext, hend], hfirst.trans hleast, ?_⟩
    intro n info hi
    obtain ⟨old, hold, hsize⟩ := horigin n info hi
    rw [← hsize]
    exact hentry n old hold
  · have hrange : c.map.leastUnacked ≤ c.map.nextNumber := Nat.le_add_right _ _
    have hmin : first + min (c.map.leastUnacked - first) entries.length = c.map.leastUnacked := by
      omega
    have htrim := hdense.removeUpTo c.map.leastUnacked
    rw [hmin] at htrim
    refine ⟨_, _, hqueue ▸ htrim, ?_, hleast, ?_⟩
    · rw [hnext, List.length_drop]
      omega
    · intro n info hi
      obtain ⟨old, hold, hsize⟩ := horigin n info hi
      obtain ⟨e, he, hesize⟩ := hentry n old hold
      have hn := (range_of_info hold).1
      refine ⟨e, ?_, hesize.trans hsize⟩
      rw [List.getElem?_drop, show c.map.leastUnacked - first + (n - c.map.leastUnacked) =
        n - first by omega]
      exact he

theorem send_accounts (length : PacketLength) (sendTime : Int) :
    ∃ e : ConnectionStateOnSentPacket,
      (c.send length sendTime).manager.accounts =
        { c.manager.accounts with
          totalBytesSent := c.manager.accounts.totalBytesSent + length.bytes
          connectionStateMap := (c.manager.accounts.connectionStateMap.emplace
            (.number (c.recentPacketNumber + 1)) e).1 } ∧
      e.size = length.bytes ∧
      e.sendTimeState.totalBytesSent = c.manager.accounts.totalBytesSent + length.bytes ∧
      e.sendTimeState.totalBytesAcked = c.manager.accounts.totalBytesAcked ∧
      e.sendTimeState.totalBytesLost = c.manager.accounts.totalBytesLost ∧
      e.sendTimeState.bytesInFlight = c.map.bytesInFlight + length.bytes := by
  have hsampler : SamplesBandwidth.sampler (c.send length sendTime).manager.sendAlgorithm =
      (SamplesBandwidth.sampler c.manager.sendAlgorithm).onPacketSent sendTime
        (c.recentPacketNumber + 1) length.bytes c.map.bytesInFlight :=
    SamplesBandwidth.onPacketSent_sampler _ _ _ _ _
  obtain ⟨e, haccounts, hrest⟩ := BandwidthSampler.accounts_onPacketSent
    (s := SamplesBandwidth.sampler c.manager.sendAlgorithm) sendTime (c.recentPacketNumber + 1)
    length.bytes c.map.bytesInFlight
  refine ⟨e, ?_, hrest⟩
  unfold QuicSentPacketManager.accounts
  rw [hsampler, haccounts]
  rfl

/-- The step keeps the sampler in line with the map. -/
theorem Outcome.mirrored (h : c.AtRest) (hm : c.Mirrored) (ho : c.Outcome op c') :
    c'.Mirrored := by
  have hleast := ho.leastUnacked_le
  have horigin : ∀ n info, c'.map.info? n = some info → _ := fun _ _ hi => ho.info?_origin h hi
  cases ho with
  | send length sendTime =>
      rcases hm with ⟨first, entries, hdense, hend, hfirst, hentry⟩
      obtain ⟨e, haccounts, hsize, _⟩ := send_accounts (c := c) length sendTime
      have hnext : (c.send length sendTime).map.nextNumber = c.map.nextNumber + 1 :=
        addSentPacket_nextNumber h.next.symm
      refine ⟨first, entries ++ [e], ?_, ?_, hfirst, ?_⟩
      · rw [haccounts]
        exact hdense.emplace (by rw [hend, h.next])
      · rw [hnext, List.length_append, List.length_singleton]
        omega
      · intro n info hi
        rcases horigin n info hi with ⟨old, hold, hb, _⟩ | ⟨length', sendTime', hop, hn, hinfo⟩
        · obtain ⟨e', he', hsize'⟩ := hentry n old hold
          refine ⟨e', ?_, hsize'.trans hb⟩
          rw [List.getElem?_append_left (List.getElem?_eq_some_iff.mp he').1]
          exact he'
        · cases hop
          refine ⟨e, ?_, by rw [hsize, hinfo]; rfl⟩
          rw [List.getElem?_append_right (by omega), show n - first - entries.length = 0 by omega]
          rfl
  | ack hi ackReceiveTime now =>
      refine hm.keep (.inr ?_) afterAck_nextNumber hleast fun n info hi => ?_
      · rw [afterAck_accounts]
        rfl
      · rcases horigin n info hi with ⟨old, hold, hb, _⟩ | ⟨_, _, hop, _⟩
        · exact ⟨old, hold, hb⟩
        · cases hop
  | lossTimeout harmed hL now =>
      refine hm.keep ?_ afterLossTimeout_nextNumber hleast fun n info hi => ?_
      · rcases afterLossTimeout_accounts h.manager now with heq | heq
        · exact .inl (by rw [heq]; rfl)
        · exact .inr (by rw [heq]; rfl)
      · rcases horigin n info hi with ⟨old, hold, hb, _⟩ | ⟨_, _, hop, _⟩
        · exact ⟨old, hold, hb⟩
        · cases hop
  | rto hidle now =>
      refine hm.keep (.inl rfl) emptied_nextNumber hleast fun n info hi => ?_
      change c.map.emptied.info? n = some info at hi
      simp at hi

variable (σ) in
def createBbr (now : Int) (stream : Nat → Nat) : Connection σ :=
  .create (SamplesBandwidth.create now stream)

theorem createBbr_accounts (now : Int) (stream : Nat → Nat) :
    (createBbr σ now stream).manager.accounts = {} :=
  SamplesBandwidth.create_accounts now stream

theorem createBbr_mirrored (now : Int) (stream : Nat → Nat) :
    (createBbr σ now stream).Mirrored := by
  refine ⟨1, [], ?_, rfl, le_refl 1, by simp [createBbr, create, info?]⟩
  rw [createBbr_accounts]
  exact PacketNumberIndexedQueue.dense_empty 1

end Connection

end BbrChrome
