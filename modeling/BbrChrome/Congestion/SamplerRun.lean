import BbrChrome.Congestion.SamplerAccounts
import BbrChrome.Quic.QueueInvariant

/-!
# Runs of the bandwidth sampler

A run is any sequence of calls of the sampler's operations, with arbitrary arguments.
-/

namespace BbrChrome

inductive SamplerCall
  | packetSent (sentTime : Int) (packetNumber bytes bytesInFlight : Nat)
  | congestionEvent (ackTime : Int) (ackedPackets : List AckedPacket)
      (lostPackets : List LostPacket) (maxBandwidth estBandwidthUpperBound : QuicBandwidth)
      (roundTripCount : Nat)
  | appLimited
  | removeObsoletePackets (leastUnacked : Nat)
  | enableOverestimateAvoidance
deriving DecidableEq, Repr

namespace BandwidthSampler

def call (s : BandwidthSampler) : SamplerCall → BandwidthSampler
  | .packetSent sentTime packetNumber bytes bytesInFlight =>
      s.onPacketSent sentTime packetNumber bytes bytesInFlight
  | .congestionEvent ackTime ackedPackets lostPackets maxBandwidth estBandwidthUpperBound
      roundTripCount =>
        (s.onCongestionEvent ackTime ackedPackets lostPackets maxBandwidth estBandwidthUpperBound
          roundTripCount).1
  | .appLimited => s.onAppLimited
  | .removeObsoletePackets leastUnacked => s.removeObsoletePackets leastUnacked
  | .enableOverestimateAvoidance => s.enableOverestimateAvoidance

def run (s : BandwidthSampler) (calls : List SamplerCall) : BandwidthSampler :=
  calls.foldl call s

@[simp] theorem run_nil (s : BandwidthSampler) : s.run [] = s := rfl

@[simp] theorem run_cons (s : BandwidthSampler) (c : SamplerCall) (calls : List SamplerCall) :
    s.run (c :: calls) = (s.call c).run calls := rfl

theorem run_append (s : BandwidthSampler) (calls calls' : List SamplerCall) :
    s.run (calls ++ calls') = (s.run calls).run calls' := List.foldl_append

theorem run_invariant {Inv : BandwidthSampler → Prop} (hcall : ∀ s c, Inv s → Inv (s.call c))
    {s : BandwidthSampler} (h : Inv s) (calls : List SamplerCall) : Inv (s.run calls) := by
  induction calls generalizing s with
  | nil => exact h
  | cons c calls ih => exact ih (hcall s c h)

variable {s : BandwidthSampler}

/-! ## What the operations do to the state -/

theorem onPacketSent_connectionStateMap (sentTime : Int)
    (packetNumber bytes bytesInFlight : Nat) :
    ∃ e : ConnectionStateOnSentPacket,
      (s.onPacketSent sentTime packetNumber bytes bytesInFlight).connectionStateMap =
        (s.connectionStateMap.emplace (.number packetNumber) e).1 ∧
      e.sentTime = sentTime ∧ e.sendTimeState.isAppLimited = s.isAppLimited := by
  by_cases hzero : bytesInFlight = 0
  · simp only [onPacketSent, hzero, if_true]
    exact ⟨_, rfl, rfl, rfl⟩
  · simp only [onPacketSent, hzero, if_false]
    exact ⟨_, rfl, rfl, rfl⟩

theorem onPacketsLost_fst (lostPackets : List LostPacket) (lastState : SendTimeState) :
    (onPacketsLost lostPackets s lastState).1 =
      { s with totalBytesLost := s.totalBytesLost + (lostPackets.map (·.bytesLost)).sum } := by
  induction lostPackets generalizing s lastState with
  | nil => rfl
  | cons p lostPackets ih =>
      simp only [onPacketsLost, ih, onPacketLost, List.map_cons, List.sum_cons, Nat.add_assoc]

theorem chooseA0PointFrom_split (totalBytesAcked : Nat) (a0 : AckPoint) (rest : List AckPoint) :
    ∃ before after,
      a0 :: rest = before ++ (chooseA0PointFrom totalBytesAcked a0 rest).1 :: after ∧
      (chooseA0PointFrom totalBytesAcked a0 rest).2 =
        (chooseA0PointFrom totalBytesAcked a0 rest).1 :: after := by
  induction rest generalizing a0 with
  | nil => exact ⟨[], [], rfl, rfl⟩
  | cons next rest ih =>
      unfold chooseA0PointFrom
      split
      · exact ⟨[], next :: rest, rfl, rfl⟩
      · obtain ⟨before, after, hsplit, hkept⟩ := ih next
        exact ⟨a0 :: before, after, congrArg (a0 :: ·) hsplit, hkept⟩

theorem chooseA0Point_split {totalBytesAcked : Nat} {points rest : List AckPoint} {a0 : AckPoint}
    (h : chooseA0Point totalBytesAcked points = some (a0, rest)) :
    ∃ before after, points = before ++ a0 :: after ∧ rest = a0 :: after := by
  cases points with
  | nil => cases h
  | cons front points =>
      have hsplit := chooseA0PointFrom_split totalBytesAcked front points
      simp only [chooseA0Point, Option.some.injEq] at h
      rw [h] at hsplit
      exact hsplit

theorem chooseA0Point_mem {totalBytesAcked : Nat} {points rest : List AckPoint} {a0 : AckPoint}
    (h : chooseA0Point totalBytesAcked points = some (a0, rest)) : a0 ∈ points := by
  obtain ⟨before, after, rfl, _⟩ := chooseA0Point_split h
  exact List.mem_append_right _ List.mem_cons_self

theorem chooseA0Point_suffix {totalBytesAcked : Nat} {points rest : List AckPoint} {a0 : AckPoint}
    (h : chooseA0Point totalBytesAcked points = some (a0, rest)) : rest <:+ points := by
  obtain ⟨before, after, rfl, rfl⟩ := chooseA0Point_split h
  exact List.suffix_append before _

theorem onPacketAcknowledgedInner_fst (ackTime : Int) (packetNumber : Nat)
    (e : ConnectionStateOnSentPacket) :
    ∃ candidates, candidates <:+ s.a0Candidates ∧
      (s.onPacketAcknowledgedInner ackTime packetNumber e).1 =
        { s.recordAck ackTime packetNumber e with a0Candidates := candidates } := by
  unfold onPacketAcknowledgedInner
  dsimp only
  split
  · exact ⟨s.a0Candidates, List.suffix_refl _, rfl⟩
  · split
    · rename_i choice hchosen
      rcases choice with ⟨a0, rest⟩
      have hkept : rest <:+ s.a0Candidates := by
        split at hchosen
        · exact chooseA0Point_suffix hchosen
        · cases hchosen
      split <;> exact ⟨rest, hkept, rfl⟩
    · split <;> exact ⟨s.a0Candidates, List.suffix_refl _, rfl⟩

theorem onPacketAcknowledgedInner_snd (ackTime : Int) (packetNumber : Nat)
    (e : ConnectionStateOnSentPacket) :
    (s.onPacketAcknowledgedInner ackTime packetNumber e).2 = {} ∨
      ∃ bandwidth ≤ QuicBandwidth.infinite,
        (s.onPacketAcknowledgedInner ackTime packetNumber e).2 =
          { bandwidth
            rtt := ackTime - e.sentTime
            stateAtSend := sentPacketToSendTimeState e } := by
  have hbound : ∀ bytes delta,
      min (sendRate e) (QuicBandwidth.fromBytesAndTimeDelta bytes delta) ≤ .infinite :=
    fun bytes delta => (min_le_right _ _).trans
      (QuicBandwidth.fromBytesAndTimeDelta_le_infinite bytes delta)
  unfold onPacketAcknowledgedInner
  dsimp only
  split
  · exact .inl rfl
  · -- The slope starts at a candidate, or at the last acked packet.
    split
    · split
      · exact .inl rfl
      · exact .inr ⟨_, hbound _ _, rfl⟩
    · split
      · exact .inl rfl
      · exact .inr ⟨_, hbound _ _, rfl⟩

theorem totalBytesAcked_le_onPacketsAcknowledged (ackTime : Int) (ackedPackets : List AckedPacket)
    (event : CongestionEventSample) (lastState : SendTimeState) :
    s.totalBytesAcked ≤
      (onPacketsAcknowledged ackTime ackedPackets s event lastState).1.totalBytesAcked := by
  have htotal := congrArg SamplerAccounts.totalBytesAcked
    (accounts_onPacketsAcknowledged (s := s) ackTime ackedPackets event lastState)
  change (onPacketsAcknowledged ackTime ackedPackets s event lastState).1.totalBytesAcked =
    s.totalBytesAcked + s.accounts.creditedBytes ackedPackets at htotal
  omega

theorem totals_le_call (c : SamplerCall) :
    s.totalBytesSent ≤ (s.call c).totalBytesSent ∧
      s.totalBytesAcked ≤ (s.call c).totalBytesAcked := by
  cases c with
  | packetSent sentTime packetNumber bytes bytesInFlight =>
      obtain ⟨e, hcounted, _⟩ := s.accounts_onPacketSent sentTime packetNumber bytes bytesInFlight
      have hsent := congrArg SamplerAccounts.totalBytesSent hcounted
      have hacked := congrArg SamplerAccounts.totalBytesAcked hcounted
      exact ⟨Nat.le.intro hsent.symm, le_of_eq hacked.symm⟩
  | congestionEvent ackTime ackedPackets lostPackets maxBandwidth estBandwidthUpperBound
      roundTripCount =>
      have hrecorded := s.accounts_onCongestionEvent ackTime ackedPackets lostPackets maxBandwidth
        estBandwidthUpperBound roundTripCount
      have hsent := congrArg SamplerAccounts.totalBytesSent hrecorded
      have hacked := congrArg SamplerAccounts.totalBytesAcked hrecorded
      exact ⟨le_of_eq hsent.symm, Nat.le.intro hacked.symm⟩
  | appLimited => exact ⟨le_refl _, le_refl _⟩
  | removeObsoletePackets leastUnacked => exact ⟨le_refl _, le_refl _⟩
  | enableOverestimateAvoidance => exact ⟨le_refl _, le_refl _⟩

theorem totals_le_run (calls : List SamplerCall) :
    s.totalBytesSent ≤ (s.run calls).totalBytesSent ∧
      s.totalBytesAcked ≤ (s.run calls).totalBytesAcked := by
  induction calls generalizing s with
  | nil => exact ⟨le_refl _, le_refl _⟩
  | cons c calls ih =>
      have hcall := s.totals_le_call c
      have hrest := ih (s := s.call c)
      exact ⟨hcall.1.trans hrest.1, hcall.2.trans hrest.2⟩

/-! ## Induction over the events -/

theorem onPacketsAcknowledged_invariant {Inv : BandwidthSampler → Prop} {ackTime : Int}
    (hacked : ∀ s packetNumber, Inv s → Inv (s.onPacketAcknowledged ackTime packetNumber).1)
    (h : Inv s) (ackedPackets : List AckedPacket) (event : CongestionEventSample)
    (lastState : SendTimeState) :
    Inv (onPacketsAcknowledged ackTime ackedPackets s event lastState).1 := by
  induction ackedPackets generalizing s event lastState with
  | nil => exact h
  | cons p ackedPackets ih =>
      have hnext := hacked s p.packetNumber h
      unfold onPacketsAcknowledged
      dsimp only
      split
      · exact ih hnext _ _
      · exact ih hnext _ _

/-- An invariant of the three stages of a congestion event. -/
theorem onCongestionEvent_invariant {Inv : BandwidthSampler → Prop} {ackTime : Int}
    (hlost : ∀ (s : BandwidthSampler) total, Inv s → Inv { s with totalBytesLost := total })
    (hacked : ∀ s packetNumber, Inv s → Inv (s.onPacketAcknowledged ackTime packetNumber).1)
    (hend : ∀ (s : BandwidthSampler) bandwidthEstimate roundTripCount, Inv s →
      Inv (s.onAckEventEnd bandwidthEstimate roundTripCount).1)
    (h : Inv s) (ackedPackets : List AckedPacket) (lostPackets : List LostPacket)
    (maxBandwidth estBandwidthUpperBound : QuicBandwidth) (roundTripCount : Nat) :
    Inv (s.onCongestionEvent ackTime ackedPackets lostPackets maxBandwidth estBandwidthUpperBound
      roundTripCount).1 := by
  have hdebited : Inv (onPacketsLost lostPackets s {}).1 := by
    rw [onPacketsLost_fst]
    exact hlost s _ h
  unfold onCongestionEvent
  dsimp only
  split
  · exact hdebited
  · exact hend _ _ _ (onPacketsAcknowledged_invariant hacked hdebited _ _ _)

theorem onPacketsAcknowledged_sample {Inv : BandwidthSampler → Prop}
    {P : CongestionEventSample → Prop} {ackTime : Int}
    (hacked : ∀ s packetNumber, Inv s → Inv (s.onPacketAcknowledged ackTime packetNumber).1)
    (hmerge : ∀ s packetNumber event total, Inv s → P event →
      P (mergeSample event (s.onPacketAcknowledged ackTime packetNumber).2 total))
    (h : Inv s) (ackedPackets : List AckedPacket) {event : CongestionEventSample} (hp : P event)
    (lastState : SendTimeState) :
    P (onPacketsAcknowledged ackTime ackedPackets s event lastState).2.1 := by
  induction ackedPackets generalizing s event lastState with
  | nil => exact hp
  | cons p ackedPackets ih =>
      have hnext := hacked s p.packetNumber h
      unfold onPacketsAcknowledged
      dsimp only
      split
      · exact ih hnext (hmerge s p.packetNumber event _ h hp) _
      · exact ih hnext hp _

theorem onCongestionEvent_sampleMaxBandwidth (ackTime : Int) (ackedPackets : List AckedPacket)
    (lostPackets : List LostPacket) (maxBandwidth estBandwidthUpperBound : QuicBandwidth)
    (roundTripCount : Nat) :
    (s.onCongestionEvent ackTime ackedPackets lostPackets maxBandwidth estBandwidthUpperBound
      roundTripCount).2.sampleMaxBandwidth ≤ .infinite := by
  have hzero : QuicBandwidth.zero ≤ .infinite := Nat.zero_le _
  have hsample : ∀ (s : BandwidthSampler) packetNumber,
      (s.onPacketAcknowledged ackTime packetNumber).2.bandwidth ≤ .infinite := by
    intro s packetNumber
    unfold onPacketAcknowledged
    split
    · exact hzero
    · rename_i e _
      rcases s.onPacketAcknowledgedInner_snd ackTime packetNumber e with heq | ⟨_, hle, heq⟩
      · rw [heq]
        exact hzero
      · rw [heq]
        exact hle
  unfold onCongestionEvent
  dsimp only
  split
  · exact hzero
  · refine @onPacketsAcknowledged_sample _ (fun _ => True)
      (fun event => event.sampleMaxBandwidth ≤ .infinite) ackTime (fun _ _ _ => trivial) ?_ trivial
      ackedPackets {} hzero {}
    intro s packetNumber event total _ hp
    unfold mergeSample
    dsimp only
    split
    · exact hsample s packetNumber
    · exact hp

end BandwidthSampler

end BbrChrome
