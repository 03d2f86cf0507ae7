import BbrChrome.Congestion.SamplerRun
import BbrChrome.Library.PartialRun

/-!
# Arithmetic safety of the sampler

The sampler once more, with every unsigned subtraction and every rate checked: a
subtraction that would wrap, a time delta that is not positive and a product that does
not fit a signed word are faults. The operands are snapshots from different moments; in
step with the totals they never cause one.
-/

namespace BbrChrome

inductive SamplerFault
  | wrapped (minuend subtrahend : Nat)
  | timeDelta (delta : Int)
  | overflow (bytes : Nat)
deriving DecidableEq, Repr

def checkedSub (a b : Nat) : Except SamplerFault Nat :=
  if b ≤ a then .ok (a - b) else .error (.wrapped a b)

/-- `FromBytesAndTimeDelta`; the product that it forms has to fit an `int64_t`. -/
def checkedRate (bytes : Nat) (delta : Int) : Except SamplerFault QuicBandwidth :=
  if delta ≤ 0 then .error (.timeDelta delta)
  else if 2 ^ 63 ≤ 8 * bytes * 1000000 then .error (.overflow bytes)
  else .ok (.fromBytesAndTimeDelta bytes delta)

theorem checkedSub_of_le {a b : Nat} (h : b ≤ a) : checkedSub a b = .ok (subUint64 a b) := by
  rw [checkedSub, if_pos h, subUint64_of_le h]

theorem checkedRate_subUint64 {total part : Nat} {delta : Int} (hle : part ≤ total)
    (htotal : total < 2 ^ 40) (hdelta : 0 < delta) :
    checkedRate (subUint64 total part) delta =
      .ok (.fromBytesAndTimeDelta (subUint64 total part) delta) := by
  have hbytes : subUint64 total part < 2 ^ 40 := by
    rw [subUint64_of_le hle]
    omega
  rw [checkedRate, if_neg (by omega), if_neg (by omega)]

namespace BandwidthSampler

/-! ## The checked operations -/

def checkedSendRate (sentPacket : ConnectionStateOnSentPacket) :
    Except SamplerFault QuicBandwidth :=
  if sentPacket.lastAckedPacketSentTime < sentPacket.sentTime then do
    let bytes ← checkedSub sentPacket.sendTimeState.totalBytesSent
      sentPacket.totalBytesSentAtLastAckedPacket
    checkedRate bytes (sentPacket.sentTime - sentPacket.lastAckedPacketSentTime)
  else .ok .infinite

def checkedOnPacketAcknowledgedInner (s : BandwidthSampler) (ackTime : Int) (packetNumber : Nat)
    (sentPacket : ConnectionStateOnSentPacket) :
    Except SamplerFault (BandwidthSampler × BandwidthSample) :=
  let s := s.recordAck ackTime packetNumber sentPacket
  if sentPacket.lastAckedPacketSentTime = 0 then .ok (s, {})
  else do
    let sendRate ← checkedSendRate sentPacket
    let chosen :=
      if s.overestimateAvoidance then
        chooseA0Point sentPacket.sendTimeState.totalBytesAcked s.a0Candidates
      else none
    let (a0, candidates) := match chosen with
      | some choice => choice
      | none =>
          (⟨sentPacket.lastAckedPacketAckTime, sentPacket.sendTimeState.totalBytesAcked⟩,
            s.a0Candidates)
    let s := { s with a0Candidates := candidates }
    if ackTime ≤ a0.ackTime then .ok (s, {})
    else do
      let bytes ← checkedSub s.totalBytesAcked a0.totalBytesAcked
      let ackRate ← checkedRate bytes (ackTime - a0.ackTime)
      .ok (s, { bandwidth := min sendRate ackRate
                rtt := ackTime - sentPacket.sentTime
                stateAtSend := sentPacketToSendTimeState sentPacket })

def checkedOnPacketAcknowledged (s : BandwidthSampler) (ackTime : Int) (packetNumber : Nat) :
    Except SamplerFault (BandwidthSampler × BandwidthSample) :=
  match s.connectionStateMap.getEntry (.number packetNumber) with
  | none => .ok (s, {})
  | some sentPacket => s.checkedOnPacketAcknowledgedInner ackTime packetNumber sentPacket

/-- `mergeSample` with its inflight sample checked. -/
def checkedMergeSample (event : CongestionEventSample) (sample : BandwidthSample)
    (totalBytesAcked : Nat) : Except SamplerFault CongestionEventSample := do
  let _inflightSample ← checkedSub totalBytesAcked sample.stateAtSend.totalBytesAcked
  .ok (mergeSample event sample totalBytesAcked)

def checkedOnPacketsAcknowledged (ackTime : Int) : List AckedPacket → BandwidthSampler →
    CongestionEventSample → SendTimeState →
    Except SamplerFault (BandwidthSampler × CongestionEventSample × SendTimeState)
  | [], s, event, lastState => .ok (s, event, lastState)
  | packet :: packets, s, event, lastState => do
      let (s, sample) ← s.checkedOnPacketAcknowledged ackTime packet.packetNumber
      if sample.stateAtSend.isValid then
        let event ← checkedMergeSample event sample s.totalBytesAcked
        checkedOnPacketsAcknowledged ackTime packets s event sample.stateAtSend
      else checkedOnPacketsAcknowledged ackTime packets s event lastState

def checkedOnAckEventEnd (s : BandwidthSampler) (bandwidthEstimate : QuicBandwidth)
    (roundTripCount : Nat) : Except SamplerFault (BandwidthSampler × Nat) := do
  let _newlyAckedBytes ← checkedSub s.totalBytesAcked s.totalBytesAckedAfterLastAckEvent
  .ok (s.onAckEventEnd bandwidthEstimate roundTripCount)

def checkedOnCongestionEvent (s : BandwidthSampler) (ackTime : Int)
    (ackedPackets : List AckedPacket) (lostPackets : List LostPacket)
    (maxBandwidth estBandwidthUpperBound : QuicBandwidth) (roundTripCount : Nat) :
    Except SamplerFault (BandwidthSampler × CongestionEventSample) :=
  let (s, lastLost) := onPacketsLost lostPackets s {}
  if ackedPackets.isEmpty then .ok (s, { lastPacketSendState := lastLost })
  else do
    let (s, event, lastAcked) ← checkedOnPacketsAcknowledged ackTime ackedPackets s {} {}
    let maxBandwidth := max maxBandwidth event.sampleMaxBandwidth
    let (s, extraAcked) ←
      s.checkedOnAckEventEnd (min estBandwidthUpperBound maxBandwidth) roundTripCount
    .ok (s, { event with
              lastPacketSendState :=
                chooseLastPacketSendState lostPackets ackedPackets lastLost lastAcked
              extraAcked })

def checkedCall (s : BandwidthSampler) : SamplerCall → Except SamplerFault BandwidthSampler
  | .congestionEvent ackTime ackedPackets lostPackets maxBandwidth estBandwidthUpperBound
      roundTripCount => do
        let (s, _) ← s.checkedOnCongestionEvent ackTime ackedPackets lostPackets maxBandwidth
          estBandwidthUpperBound roundTripCount
        .ok s
  | c => .ok (s.call c)

/-! ## The snapshots are in step with the totals -/

/-- The totals of a snapshot are ordered among themselves and below the current ones. -/
structure SnapshotBelow (totalBytesSent totalBytesAcked : Nat) (e : ConnectionStateOnSentPacket) :
    Prop where
  mark : e.totalBytesSentAtLastAckedPacket ≤ e.sendTimeState.totalBytesSent
  sent : e.sendTimeState.totalBytesSent ≤ totalBytesSent
  acked : e.sendTimeState.totalBytesAcked ≤ totalBytesAcked

/-- Whatever the sampler has stored of its totals lies below their current values. -/
structure InStep (s : BandwidthSampler) : Prop where
  mark : s.totalBytesSentAtLastAckedPacket ≤ s.totalBytesSent
  lastEvent : s.totalBytesAckedAfterLastAckEvent ≤ s.totalBytesAcked
  older : s.recentAckPoints.older.totalBytesAcked ≤ s.totalBytesAcked
  newer : s.recentAckPoints.newer.totalBytesAcked ≤ s.totalBytesAcked
  candidates : ∀ p ∈ s.a0Candidates, p.totalBytesAcked ≤ s.totalBytesAcked
  snapshots : s.connectionStateMap.Holds (SnapshotBelow s.totalBytesSent s.totalBytesAcked)

variable {s : BandwidthSampler} {e : ConnectionStateOnSentPacket} {ackTime : Int}
  {packetNumber : Nat}

theorem SnapshotBelow.mono {sent sent' acked acked' : Nat} (h : SnapshotBelow sent acked e)
    (hsent : sent ≤ sent') (hacked : acked ≤ acked') : SnapshotBelow sent' acked' e :=
  ⟨h.mark, h.sent.trans hsent, h.acked.trans hacked⟩

theorem snapshot_below (hmark : s.totalBytesSentAtLastAckedPacket ≤ s.totalBytesSent)
    (sentTime : Int) (size bytesInFlight : Nat) :
    SnapshotBelow s.totalBytesSent s.totalBytesAcked (s.snapshot sentTime size bytesInFlight) :=
  ⟨hmark, le_refl _, le_refl _⟩

theorem create_inStep (window : Nat) : (create window).InStep :=
  ⟨le_refl _, le_refl _, le_refl _, le_refl _, by simp [create], by
    simp [create, PacketNumberIndexedQueue.Holds]⟩

theorem InStep.onTransmissionStart (h : s.InStep) (sentTime : Int) :
    (s.onTransmissionStart sentTime).InStep := by
  refine ⟨le_refl _, h.lastEvent, ?_, ?_, ?_, h.snapshots⟩
  · simp only [BandwidthSampler.onTransmissionStart]
    split
    · unfold RecentAckPoints.update
      dsimp only
      split <;> exact Nat.zero_le _
    · exact h.older
  · simp only [BandwidthSampler.onTransmissionStart]
    split
    · exact le_refl _
    · exact h.newer
  · simp only [BandwidthSampler.onTransmissionStart]
    split
    · intro p hp
      cases List.mem_singleton.mp hp
      exact le_refl _
    · exact h.candidates

theorem InStep.onPacketSent (h : s.InStep) (sentTime : Int)
    (packetNumber bytes bytesInFlight : Nat) :
    (s.onPacketSent sentTime packetNumber bytes bytesInFlight).InStep := by
  have hgrow : s.totalBytesSent ≤ s.totalBytesSent + bytes := Nat.le_add_right _ _
  let counted := { s with
    lastSentPacket := .number packetNumber
    totalBytesSent := s.totalBytesSent + bytes }
  have hcounted : counted.InStep :=
    ⟨h.mark.trans hgrow, h.lastEvent, h.older, h.newer, h.candidates,
      h.snapshots.mono fun e he => he.mono hgrow (le_refl _)⟩
  let started := if bytesInFlight = 0 then counted.onTransmissionStart sentTime else counted
  have hstarted : started.InStep := by
    simp only [started]
    split
    · exact hcounted.onTransmissionStart sentTime
    · exact hcounted
  exact ⟨hstarted.mark, hstarted.lastEvent, hstarted.older, hstarted.newer, hstarted.candidates,
    hstarted.snapshots.emplace (snapshot_below hstarted.mark _ _ _)⟩

theorem InStep.recordAck (h : s.InStep)
    (he : SnapshotBelow s.totalBytesSent s.totalBytesAcked e) (ackTime : Int)
    (packetNumber : Nat) : (s.recordAck ackTime packetNumber e).InStep := by
  have hgrow : s.totalBytesAcked ≤ s.totalBytesAcked + e.size := Nat.le_add_right _ _
  refine
    { mark := he.sent
      lastEvent := h.lastEvent.trans hgrow
      older := ?_
      newer := ?_
      candidates := fun p hp => (h.candidates p hp).trans hgrow
      snapshots := h.snapshots.mono fun e he => he.mono (le_refl _) hgrow }
  · simp only [BandwidthSampler.recordAck]
    split
    · unfold RecentAckPoints.update
      dsimp only
      split
      · exact h.newer.trans hgrow
      · exact h.older.trans hgrow
    · exact h.older.trans hgrow
  · simp only [BandwidthSampler.recordAck]
    split
    · exact le_refl _
    · exact h.newer.trans hgrow

theorem InStep.onPacketAcknowledged (h : s.InStep) (ackTime : Int) (packetNumber : Nat) :
    (s.onPacketAcknowledged ackTime packetNumber).1.InStep := by
  unfold BandwidthSampler.onPacketAcknowledged
  cases he : s.connectionStateMap.getEntry (.number packetNumber) with
  | none => exact h
  | some e =>
      have hrecord := h.recordAck (h.snapshots.getEntry he) ackTime packetNumber
      obtain ⟨candidates, hkept, heq⟩ := s.onPacketAcknowledgedInner_fst ackTime packetNumber e
      simp only [heq]
      exact
        { mark := hrecord.mark
          lastEvent := hrecord.lastEvent
          older := hrecord.older
          newer := hrecord.newer
          candidates := fun p hp => hrecord.candidates p (hkept.subset hp)
          snapshots := hrecord.snapshots }

theorem InStep.lessRecentPoint_le (h : s.InStep) :
    s.recentAckPoints.lessRecentPoint.totalBytesAcked ≤ s.totalBytesAcked := by
  unfold RecentAckPoints.lessRecentPoint
  split
  · exact h.older
  · exact h.newer

theorem InStep.onAckEventEnd (h : s.InStep) (bandwidthEstimate : QuicBandwidth)
    (roundTripCount : Nat) : (s.onAckEventEnd bandwidthEstimate roundTripCount).1.InStep := by
  unfold BandwidthSampler.onAckEventEnd
  dsimp only
  split
  · exact h
  · refine ⟨h.mark, le_refl _, h.older, h.newer, ?_, h.snapshots⟩
    dsimp only
    split
    · intro p hp
      rcases List.mem_append.mp hp with hp | hp
      · exact h.candidates p hp
      · rw [List.mem_singleton.mp hp]
        exact h.lessRecentPoint_le
    · exact h.candidates

theorem InStep.call (h : s.InStep) (c : SamplerCall) : (s.call c).InStep := by
  cases c with
  | packetSent sentTime packetNumber bytes bytesInFlight =>
      exact h.onPacketSent sentTime packetNumber bytes bytesInFlight
  | congestionEvent ackTime ackedPackets lostPackets maxBandwidth estBandwidthUpperBound
      roundTripCount =>
      refine onCongestionEvent_invariant ?_ ?_ ?_ h _ _ _ _ _
      · exact fun s total h =>
          ⟨h.mark, h.lastEvent, h.older, h.newer, h.candidates, h.snapshots⟩
      · exact fun s packetNumber h => h.onPacketAcknowledged ackTime packetNumber
      · exact fun s bandwidthEstimate roundTripCount h =>
          h.onAckEventEnd bandwidthEstimate roundTripCount
  | appLimited => exact ⟨h.mark, h.lastEvent, h.older, h.newer, h.candidates, h.snapshots⟩
  | removeObsoletePackets leastUnacked =>
      exact ⟨h.mark, h.lastEvent, h.older, h.newer, h.candidates,
        h.snapshots.removeUpTo leastUnacked⟩
  | enableOverestimateAvoidance =>
      exact ⟨h.mark, h.lastEvent, h.older, h.newer, h.candidates, h.snapshots⟩

/-! ## In step, no check fails -/

theorem checkedSendRate_eq {sent acked : Nat} (h : SnapshotBelow sent acked e)
    (hsent : sent < 2 ^ 40) : checkedSendRate e = .ok (sendRate e) := by
  have hle := h.mark
  have htotal : e.sendTimeState.totalBytesSent < 2 ^ 40 := lt_of_le_of_lt h.sent hsent
  unfold checkedSendRate sendRate
  split
  · rename_i hlt
    rw [checkedSub_of_le hle]
    exact checkedRate_subUint64 hle htotal (by omega)
  · rfl

theorem checkedOnPacketAcknowledgedInner_eq (h : s.InStep)
    (he : SnapshotBelow s.totalBytesSent s.totalBytesAcked e) (hsent : s.totalBytesSent < 2 ^ 40)
    (hacked : s.totalBytesAcked + e.size < 2 ^ 40) :
    s.checkedOnPacketAcknowledgedInner ackTime packetNumber e =
      .ok (s.onPacketAcknowledgedInner ackTime packetNumber e) := by
  have hrecord := h.recordAck he ackTime packetNumber
  have htotal : (s.recordAck ackTime packetNumber e).totalBytesAcked < 2 ^ 40 := hacked
  have hsnapshot : e.sendTimeState.totalBytesAcked ≤
      (s.recordAck ackTime packetNumber e).totalBytesAcked :=
    he.acked.trans (Nat.le_add_right _ _)
  unfold checkedOnPacketAcknowledgedInner onPacketAcknowledgedInner
  generalize s.recordAck ackTime packetNumber e = r at *
  dsimp only
  by_cases hzero : e.lastAckedPacketSentTime = 0
  · rw [if_pos hzero, if_pos hzero]
  · rw [if_neg hzero, if_neg hzero, checkedSendRate_eq he hsent]
    cases hchosen : (if r.overestimateAvoidance then
        chooseA0Point e.sendTimeState.totalBytesAcked r.a0Candidates else none) with
    | none =>
        by_cases hlt : ackTime ≤ e.lastAckedPacketAckTime
        · simp only [bind, Except.bind, if_pos hlt]
        · have hrate := checkedRate_subUint64 hsnapshot htotal
            (show 0 < ackTime - e.lastAckedPacketAckTime by omega)
          simp only [bind, Except.bind, if_neg hlt, checkedSub_of_le hsnapshot, hrate]
    | some choice =>
        have hmem : choice.1 ∈ r.a0Candidates := by
          split at hchosen
          · exact chooseA0Point_mem hchosen
          · cases hchosen
        have hle := hrecord.candidates choice.1 hmem
        by_cases hlt : ackTime ≤ choice.1.ackTime
        · simp only [bind, Except.bind, if_pos hlt]
        · have hrate := checkedRate_subUint64 hle htotal
            (show 0 < ackTime - choice.1.ackTime by omega)
          simp only [bind, Except.bind, if_neg hlt, checkedSub_of_le hle, hrate]

theorem checkedOnPacketAcknowledged_eq (h : s.InStep) (hsent : s.totalBytesSent < 2 ^ 40)
    (hacked : (s.onPacketAcknowledged ackTime packetNumber).1.totalBytesAcked < 2 ^ 40) :
    s.checkedOnPacketAcknowledged ackTime packetNumber =
      .ok (s.onPacketAcknowledged ackTime packetNumber) := by
  unfold checkedOnPacketAcknowledged
  unfold BandwidthSampler.onPacketAcknowledged at *
  cases he : s.connectionStateMap.getEntry (.number packetNumber) with
  | none => rfl
  | some e =>
      have hcredit := s.accounts_onPacketAcknowledgedInner ackTime packetNumber e
      have htotal : (s.onPacketAcknowledgedInner ackTime packetNumber e).1.totalBytesAcked =
        s.totalBytesAcked + e.size := congrArg SamplerAccounts.totalBytesAcked hcredit
      simp only [he, htotal] at hacked
      exact checkedOnPacketAcknowledgedInner_eq h (h.snapshots.getEntry he) hsent hacked

theorem InStep.stateAtSend_le (h : s.InStep) :
    (s.onPacketAcknowledged ackTime packetNumber).2.stateAtSend.totalBytesAcked ≤
      (s.onPacketAcknowledged ackTime packetNumber).1.totalBytesAcked := by
  unfold BandwidthSampler.onPacketAcknowledged
  cases he : s.connectionStateMap.getEntry (.number packetNumber) with
  | none => exact Nat.zero_le _
  | some e =>
      have hcredit := congrArg SamplerAccounts.totalBytesAcked
        (s.accounts_onPacketAcknowledgedInner ackTime packetNumber e)
      have htotal : (s.onPacketAcknowledgedInner ackTime packetNumber e).1.totalBytesAcked =
        s.totalBytesAcked + e.size := hcredit
      have hbelow := (h.snapshots.getEntry he).acked
      rcases s.onPacketAcknowledgedInner_snd ackTime packetNumber e with heq | ⟨_, _, heq⟩
      · simp only [heq]
        exact Nat.zero_le _
      · simp only [heq, htotal, sentPacketToSendTimeState]
        omega

theorem checkedOnPacketsAcknowledged_eq (h : s.InStep) (hsent : s.totalBytesSent < 2 ^ 40)
    {ackedPackets : List AckedPacket} {event : CongestionEventSample} {lastState : SendTimeState}
    (hacked : (onPacketsAcknowledged ackTime ackedPackets s event lastState).1.totalBytesAcked <
      2 ^ 40) :
    checkedOnPacketsAcknowledged ackTime ackedPackets s event lastState =
      .ok (onPacketsAcknowledged ackTime ackedPackets s event lastState) := by
  induction ackedPackets generalizing s event lastState with
  | nil => rfl
  | cons p ackedPackets ih =>
      have hnext := h.onPacketAcknowledged ackTime p.packetNumber
      have hcredit := congrArg SamplerAccounts.totalBytesSent
        (s.accounts_onPacketAcknowledged ackTime p.packetNumber)
      have hsent' : (s.onPacketAcknowledged ackTime p.packetNumber).1.totalBytesSent < 2 ^ 40 :=
        lt_of_le_of_lt (le_of_eq hcredit) hsent
      have hstate : (s.onPacketAcknowledged ackTime p.packetNumber).2.stateAtSend.totalBytesAcked ≤
          (s.onPacketAcknowledged ackTime p.packetNumber).1.totalBytesAcked := h.stateAtSend_le
      unfold onPacketsAcknowledged at hacked ⊢
      dsimp only at hacked ⊢
      unfold checkedOnPacketsAcknowledged
      -- The total after this ack is below the total after all of them.
      have hstep : (s.onPacketAcknowledged ackTime p.packetNumber).1.totalBytesAcked < 2 ^ 40 := by
        split at hacked
        · exact lt_of_le_of_lt (totalBytesAcked_le_onPacketsAcknowledged _ _ _ _) hacked
        · exact lt_of_le_of_lt (totalBytesAcked_le_onPacketsAcknowledged _ _ _ _) hacked
      rw [checkedOnPacketAcknowledged_eq h hsent hstep]
      simp only [bind, Except.bind]
      split at hacked
      · rename_i hvalid
        rw [if_pos hvalid, if_pos hvalid, checkedMergeSample, checkedSub_of_le hstate]
        exact ih hnext hsent' hacked
      · rename_i hinvalid
        rw [if_neg hinvalid, if_neg hinvalid]
        exact ih hnext hsent' hacked

theorem checkedOnAckEventEnd_eq (h : s.InStep) (bandwidthEstimate : QuicBandwidth)
    (roundTripCount : Nat) :
    s.checkedOnAckEventEnd bandwidthEstimate roundTripCount =
      .ok (s.onAckEventEnd bandwidthEstimate roundTripCount) := by
  rw [checkedOnAckEventEnd, checkedSub_of_le h.lastEvent]
  rfl

theorem checkedOnCongestionEvent_eq (h : s.InStep) (hsent : s.totalBytesSent < 2 ^ 40)
    {ackedPackets : List AckedPacket} {lostPackets : List LostPacket}
    {maxBandwidth estBandwidthUpperBound : QuicBandwidth} {roundTripCount : Nat}
    (hacked : (s.onCongestionEvent ackTime ackedPackets lostPackets maxBandwidth
      estBandwidthUpperBound roundTripCount).1.totalBytesAcked < 2 ^ 40) :
    s.checkedOnCongestionEvent ackTime ackedPackets lostPackets maxBandwidth
        estBandwidthUpperBound roundTripCount =
      .ok (s.onCongestionEvent ackTime ackedPackets lostPackets maxBandwidth
        estBandwidthUpperBound roundTripCount) := by
  have hlost : (onPacketsLost lostPackets s {}).1.InStep := by
    rw [onPacketsLost_fst]
    exact ⟨h.mark, h.lastEvent, h.older, h.newer, h.candidates, h.snapshots⟩
  have hsent' : (onPacketsLost lostPackets s {}).1.totalBytesSent < 2 ^ 40 := by
    rw [onPacketsLost_fst]
    exact hsent
  unfold checkedOnCongestionEvent
  unfold BandwidthSampler.onCongestionEvent at hacked ⊢
  dsimp only at hacked ⊢
  by_cases hempty : ackedPackets.isEmpty
  · rw [if_pos hempty, if_pos hempty]
  · rw [if_neg hempty] at hacked ⊢
    rw [if_neg hempty]
    have hend := congrArg SamplerAccounts.totalBytesAcked
      (accounts_onAckEventEnd
        (s := (onPacketsAcknowledged ackTime ackedPackets (onPacketsLost lostPackets s {}).1
          {} {}).1)
        (min estBandwidthUpperBound (max maxBandwidth (onPacketsAcknowledged ackTime ackedPackets
          (onPacketsLost lostPackets s {}).1 {} {}).2.1.sampleMaxBandwidth)) roundTripCount)
    have hloop : (onPacketsAcknowledged ackTime ackedPackets (onPacketsLost lostPackets s {}).1
        {} {}).1.InStep :=
      onPacketsAcknowledged_invariant
        (fun s packetNumber h => h.onPacketAcknowledged ackTime packetNumber) hlost _ _ _
    rw [checkedOnPacketsAcknowledged_eq hlost hsent' (lt_of_le_of_lt (le_of_eq hend.symm) hacked)]
    simp only [bind, Except.bind, checkedOnAckEventEnd_eq hloop]

theorem checkedCall_eq (h : s.InStep) {c : SamplerCall} (hsent : s.totalBytesSent < 2 ^ 40)
    (hacked : (s.call c).totalBytesAcked < 2 ^ 40) : s.checkedCall c = .ok (s.call c) := by
  cases c with
  | congestionEvent ackTime ackedPackets lostPackets maxBandwidth estBandwidthUpperBound
      roundTripCount =>
      simp only [checkedCall, checkedOnCongestionEvent_eq h hsent hacked]
      rfl
  | packetSent => rfl
  | appLimited => rfl
  | removeObsoletePackets => rfl
  | enableOverestimateAvoidance => rfl

/-- Below 2^40 bytes no run of the sampler meets a fault, whatever the times and the packet
numbers of its calls: no subtraction wraps and every rate is over a positive time. -/
theorem sampler_arithmetic_safe (window : Nat) (calls : List SamplerCall)
    (hsent : ((create window).run calls).totalBytesSent < 2 ^ 40)
    (hacked : ((create window).run calls).totalBytesAcked < 2 ^ 40) :
    PartialRun.exec checkedCall (create window) calls = .ok ((create window).run calls) := by
  have hstart := create_inStep window
  generalize create window = s at *
  induction calls generalizing s with
  | nil => rfl
  | cons c calls ih =>
      have hcall := s.totals_le_call c
      have hrest := totals_le_run (s := s.call c) calls
      have hfirst : s.checkedCall c = .ok (s.call c) :=
        checkedCall_eq hstart (by simp only [run_cons] at hsent; omega)
          (lt_of_le_of_lt hrest.2 hacked)
      rw [PartialRun.exec_cons_of_ok hfirst]
      exact ih (s.call c) hsent hacked (hstart.call c)

/-- Two flights with a quiet period between them; the second flight is acked out of order and
at a time before it was sent. -/
def outOfOrderCalls : List SamplerCall :=
  [.enableOverestimateAvoidance, .packetSent 1000 1 1400 0, .packetSent 1010 2 1400 1400,
    .congestionEvent 31000 [⟨1, 1400, 31000⟩, ⟨2, 1400, 31000⟩] [] .zero .infinite 1, .appLimited,
    .packetSent 40000 3 1400 0, .packetSent 40010 4 1400 1400, .packetSent 39000 5 1400 2800,
    .congestionEvent 38000 [⟨5, 1400, 38000⟩] [⟨3, 1400⟩] .zero .infinite 2,
    .congestionEvent 71000 [⟨4, 1400, 71000⟩, ⟨9, 1400, 71000⟩] [] .zero .infinite 2,
    .removeObsoletePackets 6]

theorem outOfOrder_safe :
    PartialRun.exec checkedCall (create 10) outOfOrderCalls =
      .ok ((create 10).run outOfOrderCalls) :=
  sampler_arithmetic_safe 10 outOfOrderCalls (by decide +kernel) (by decide +kernel)

end BandwidthSampler

end BbrChrome
