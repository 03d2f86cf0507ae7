import BbrChrome.Congestion.SamplerRun

/-!
# The candidates for the point A0

The candidates come from the start of a transmission and from the ends of aggregation
epochs, and every choice drops some of them. They stay in the order of their bytes acked
because the less recent of the two ack points never falls behind a candidate.
-/

namespace BbrChrome

/-! ## The recent ack points -/

namespace RecentAckPoints

variable {points : RecentAckPoints} {totalBytesAcked : Nat}

theorem lessRecentPoint_of_zero (h : points.older.totalBytesAcked = 0) :
    points.lessRecentPoint = points.newer := if_neg (not_not.mpr h)

theorem lessRecentPoint_of_ne_zero (h : points.older.totalBytesAcked ≠ 0) :
    points.lessRecentPoint = points.older := if_pos h

theorem lessRecentPoint_le_newer
    (horder : points.older.totalBytesAcked ≤ points.newer.totalBytesAcked) :
    points.lessRecentPoint.totalBytesAcked ≤ points.newer.totalBytesAcked := by
  by_cases hzero : points.older.totalBytesAcked = 0
  · rw [lessRecentPoint_of_zero hzero]
  · rw [lessRecentPoint_of_ne_zero hzero]
    exact horder

/-- Whatever the ack times do, the less recent point does not lose bytes. -/
theorem lessRecentPoint_le_update
    (horder : points.older.totalBytesAcked ≤ points.newer.totalBytesAcked)
    (hgrow : points.newer.totalBytesAcked ≤ totalBytesAcked) (ackTime : Int) :
    points.lessRecentPoint.totalBytesAcked ≤
      (points.update ackTime totalBytesAcked).lessRecentPoint.totalBytesAcked := by
  have hnewer := lessRecentPoint_le_newer horder
  by_cases hzero : (points.update ackTime totalBytesAcked).older.totalBytesAcked = 0
  · -- The newer point steps in, with the bytes acked by now.
    rw [lessRecentPoint_of_zero hzero]
    exact hnewer.trans hgrow
  · rw [lessRecentPoint_of_ne_zero hzero]
    by_cases htime : points.newer.ackTime < ackTime
    · simpa only [update, if_pos htime] using hnewer
    · simp only [update, if_neg htime] at hzero ⊢
      rw [lessRecentPoint_of_ne_zero hzero]

end RecentAckPoints

/-! ## The order of the candidates -/

namespace BandwidthSampler

/-- The candidates are in order and none is ahead of the less recent point. -/
structure CandidatesInOrder (s : BandwidthSampler) : Prop where
  sorted : s.a0Candidates.Pairwise fun a b => a.totalBytesAcked ≤ b.totalBytesAcked
  recent : ∀ p ∈ s.a0Candidates,
    p.totalBytesAcked ≤ s.recentAckPoints.lessRecentPoint.totalBytesAcked
  older : s.recentAckPoints.older.totalBytesAcked ≤ s.recentAckPoints.newer.totalBytesAcked
  newer : s.recentAckPoints.newer.totalBytesAcked ≤ s.totalBytesAcked

namespace CandidatesInOrder

variable {s : BandwidthSampler}

theorem create (window : Nat) : (BandwidthSampler.create window).CandidatesInOrder :=
  ⟨List.Pairwise.nil, List.forall_mem_nil _, Nat.le_refl _, Nat.le_refl _⟩

theorem le_totalBytesAcked (h : s.CandidatesInOrder) :
    ∀ p ∈ s.a0Candidates, p.totalBytesAcked ≤ s.totalBytesAcked := fun p hp =>
  (h.recent p hp).trans ((RecentAckPoints.lessRecentPoint_le_newer h.older).trans h.newer)

theorem onTransmissionStart (h : s.CandidatesInOrder) (sentTime : Int) :
    (s.onTransmissionStart sentTime).CandidatesInOrder := by
  cases henabled : s.overestimateAvoidance with
  | false =>
      have hsame : s.onTransmissionStart sentTime =
          { s with
            lastAckedPacketAckTime := sentTime
            totalBytesSentAtLastAckedPacket := s.totalBytesSent
            lastAckedPacketSentTime := sentTime } := by
        simp [BandwidthSampler.onTransmissionStart, henabled]
      rw [hsame]
      exact ⟨h.sorted, h.recent, h.older, h.newer⟩
  | true =>
      have hold : (RecentAckPoints.update {} sentTime s.totalBytesAcked).older = {} := by
        unfold RecentAckPoints.update
        dsimp only
        split <;> rfl
      have hpoints : (s.onTransmissionStart sentTime).recentAckPoints =
          RecentAckPoints.update {} sentTime s.totalBytesAcked := by
        simp [BandwidthSampler.onTransmissionStart, henabled]
      have hcandidates : (s.onTransmissionStart sentTime).a0Candidates =
          [⟨sentTime, s.totalBytesAcked⟩] := by
        simp [BandwidthSampler.onTransmissionStart, henabled, RecentAckPoints.mostRecentPoint,
          RecentAckPoints.update]
      constructor
      · rw [hcandidates]
        exact List.pairwise_singleton _ _
      · intro p hp
        rw [hcandidates, List.mem_singleton] at hp
        rw [hpoints, RecentAckPoints.lessRecentPoint_of_zero (by rw [hold]), hp]
        exact Nat.le_refl _
      · rw [hpoints, hold]
        exact Nat.zero_le _
      · rw [hpoints]
        exact Nat.le_refl _

theorem onPacketSent (h : s.CandidatesInOrder) (sentTime : Int)
    (packetNumber bytes bytesInFlight : Nat) :
    (s.onPacketSent sentTime packetNumber bytes bytesInFlight).CandidatesInOrder := by
  let counted := { s with
    lastSentPacket := .number packetNumber
    totalBytesSent := s.totalBytesSent + bytes }
  have hcounted : counted.CandidatesInOrder := ⟨h.sorted, h.recent, h.older, h.newer⟩
  let started := if bytesInFlight = 0 then counted.onTransmissionStart sentTime else counted
  have hstarted : started.CandidatesInOrder := by
    simp only [started]
    split
    · exact hcounted.onTransmissionStart sentTime
    · exact hcounted
  exact ⟨hstarted.sorted, hstarted.recent, hstarted.older, hstarted.newer⟩

theorem recordAck (h : s.CandidatesInOrder) (ackTime : Int) (packetNumber : Nat)
    (e : ConnectionStateOnSentPacket) :
    (s.recordAck ackTime packetNumber e).CandidatesInOrder := by
  have hgrow : s.recentAckPoints.newer.totalBytesAcked ≤ s.totalBytesAcked + e.size :=
    h.newer.trans (Nat.le_add_right _ _)
  cases henabled : s.overestimateAvoidance with
  | false =>
      have hpoints : (s.recordAck ackTime packetNumber e).recentAckPoints = s.recentAckPoints := by
        simp [BandwidthSampler.recordAck, henabled]
      constructor
      · exact h.sorted
      · rw [hpoints]
        exact h.recent
      · rw [hpoints]
        exact h.older
      · rw [hpoints]
        exact hgrow
  | true =>
      have hpoints : (s.recordAck ackTime packetNumber e).recentAckPoints =
          s.recentAckPoints.update ackTime (s.totalBytesAcked + e.size) := by
        simp [BandwidthSampler.recordAck, henabled]
      constructor
      · exact h.sorted
      · intro p hp
        rw [hpoints]
        exact (h.recent p hp).trans
          (RecentAckPoints.lessRecentPoint_le_update h.older hgrow ackTime)
      · rw [hpoints]
        unfold RecentAckPoints.update
        dsimp only
        split
        · exact hgrow
        · exact h.older.trans hgrow
      · rw [hpoints]
        exact Nat.le_refl _

theorem onPacketAcknowledged (h : s.CandidatesInOrder) (ackTime : Int) (packetNumber : Nat) :
    (s.onPacketAcknowledged ackTime packetNumber).1.CandidatesInOrder := by
  unfold BandwidthSampler.onPacketAcknowledged
  cases s.connectionStateMap.getEntry (.number packetNumber) with
  | none => exact h
  | some e =>
      have hrecord := h.recordAck ackTime packetNumber e
      obtain ⟨candidates, hkept, heq⟩ := s.onPacketAcknowledgedInner_fst ackTime packetNumber e
      simp only [heq]
      exact
        { sorted := hrecord.sorted.sublist hkept.sublist
          recent := fun p hp => hrecord.recent p (hkept.subset hp)
          older := hrecord.older
          newer := hrecord.newer }

theorem onAckEventEnd (h : s.CandidatesInOrder) (bandwidthEstimate : QuicBandwidth)
    (roundTripCount : Nat) :
    (s.onAckEventEnd bandwidthEstimate roundTripCount).1.CandidatesInOrder := by
  unfold BandwidthSampler.onAckEventEnd
  dsimp only
  split
  · exact h
  · refine ⟨?_, ?_, h.older, h.newer⟩
    · dsimp only
      split
      · refine List.pairwise_append.mpr ⟨h.sorted, List.pairwise_singleton _ _, ?_⟩
        intro a ha b hb
        rw [List.mem_singleton.mp hb]
        exact h.recent a ha
      · exact h.sorted
    · dsimp only
      split
      · intro p hp
        rcases List.mem_append.mp hp with hold | hnew
        · exact h.recent p hold
        · rw [List.mem_singleton.mp hnew]
      · exact h.recent

theorem call (h : s.CandidatesInOrder) (c : SamplerCall) : (s.call c).CandidatesInOrder := by
  cases c with
  | packetSent sentTime packetNumber bytes bytesInFlight =>
      exact h.onPacketSent sentTime packetNumber bytes bytesInFlight
  | congestionEvent ackTime ackedPackets lostPackets maxBandwidth estBandwidthUpperBound
      roundTripCount =>
      refine onCongestionEvent_invariant ?_ ?_ ?_ h _ _ _ _ _
      · exact fun s total h => ⟨h.sorted, h.recent, h.older, h.newer⟩
      · exact fun s packetNumber h => h.onPacketAcknowledged ackTime packetNumber
      · exact fun s bandwidthEstimate roundTripCount h =>
          h.onAckEventEnd bandwidthEstimate roundTripCount
  | appLimited => exact ⟨h.sorted, h.recent, h.older, h.newer⟩
  | removeObsoletePackets leastUnacked => exact ⟨h.sorted, h.recent, h.older, h.newer⟩
  | enableOverestimateAvoidance => exact ⟨h.sorted, h.recent, h.older, h.newer⟩

end CandidatesInOrder

/-! ## Reachable samplers -/

/-- A sampler after any calls of its public operations, and between the packets of an event.
`SetMaxAckHeightTrackerWindowLength` and `ResetMaxAckHeightTracker` write the tracker only. -/
inductive Reachable : BandwidthSampler → Prop
  | create (window : Nat) : Reachable (create window)
  | call {s : BandwidthSampler} (h : Reachable s) (c : SamplerCall) : Reachable (s.call c)
  | lost {s : BandwidthSampler} (h : Reachable s) (packetNumber bytesLost : Nat) :
      Reachable (s.onPacketLost packetNumber bytesLost).1
  | acknowledged {s : BandwidthSampler} (h : Reachable s) (ackTime : Int) (packetNumber : Nat) :
      Reachable (s.onPacketAcknowledged ackTime packetNumber).1
  | ackEventEnd {s : BandwidthSampler} (h : Reachable s) (bandwidthEstimate : QuicBandwidth)
      (roundTripCount : Nat) : Reachable (s.onAckEventEnd bandwidthEstimate roundTripCount).1
  | tracker {s : BandwidthSampler} (h : Reachable s) (tracker : MaxAckHeightTracker) :
      Reachable { s with maxAckHeightTracker := tracker }

theorem Reachable.run {s : BandwidthSampler} (h : Reachable s) (calls : List SamplerCall) :
    Reachable (s.run calls) := by
  induction calls generalizing s with
  | nil => exact h
  | cons c calls ih => exact ih (h.call c)

theorem Reachable.candidatesInOrder {s : BandwidthSampler} (h : Reachable s) :
    s.CandidatesInOrder := by
  induction h with
  | create window => exact .create window
  | call _ c ih => exact ih.call c
  | lost _ packetNumber bytesLost ih => exact ⟨ih.sorted, ih.recent, ih.older, ih.newer⟩
  | acknowledged _ ackTime packetNumber ih => exact ih.onPacketAcknowledged ackTime packetNumber
  | ackEventEnd _ bandwidthEstimate roundTripCount ih =>
      exact ih.onAckEventEnd bandwidthEstimate roundTripCount
  | tracker _ tracker ih => exact ⟨ih.sorted, ih.recent, ih.older, ih.newer⟩

/-! ## The choice -/

/-- `a0` is the last candidate with at most `totalBytesAcked` bytes, or the first candidate if
there is none, and the candidates before it are removed. -/
def ChosenA0 (totalBytesAcked : Nat) (candidates : List AckPoint) (a0 : AckPoint)
    (remaining : List AckPoint) : Prop :=
  ∃ before after, candidates = before ++ a0 :: after ∧ remaining = a0 :: after ∧
    (a0.totalBytesAcked ≤ totalBytesAcked ∧ (∀ p ∈ after, totalBytesAcked < p.totalBytesAcked) ∨
      before = [] ∧ ∀ p ∈ candidates, totalBytesAcked < p.totalBytesAcked)

theorem chooseA0Point_eq_none_iff {totalBytesAcked : Nat} {candidates : List AckPoint} :
    chooseA0Point totalBytesAcked candidates = none ↔ candidates = [] := by
  cases candidates with
  | nil => exact iff_of_true rfl rfl
  | cons front rest => exact iff_of_false nofun nofun

theorem chooseA0PointFrom_of_le {totalBytesAcked : Nat} {a0 : AckPoint} {rest : List AckPoint}
    (hsorted : (a0 :: rest).Pairwise fun a b => a.totalBytesAcked ≤ b.totalBytesAcked)
    (hle : a0.totalBytesAcked ≤ totalBytesAcked) :
    ∃ before after,
      a0 :: rest = before ++ (chooseA0PointFrom totalBytesAcked a0 rest).1 :: after ∧
      (chooseA0PointFrom totalBytesAcked a0 rest).2 =
        (chooseA0PointFrom totalBytesAcked a0 rest).1 :: after ∧
      (chooseA0PointFrom totalBytesAcked a0 rest).1.totalBytesAcked ≤ totalBytesAcked ∧
      ∀ p ∈ after, totalBytesAcked < p.totalBytesAcked := by
  induction rest generalizing a0 with
  | nil => exact ⟨[], [], rfl, rfl, hle, List.forall_mem_nil _⟩
  | cons next rest ih =>
      have htail := (List.pairwise_cons.mp hsorted).2
      unfold chooseA0PointFrom
      split
      · next habove =>
          refine ⟨[], next :: rest, rfl, rfl, hle, List.forall_mem_cons.mpr ⟨habove, ?_⟩⟩
          exact fun p hp => habove.trans_le ((List.pairwise_cons.mp htail).1 p hp)
      · next hnext =>
          obtain ⟨before, after, hsplit, hkept, hchosen, hafter⟩ :=
            ih htail (Nat.le_of_not_lt hnext)
          exact ⟨a0 :: before, after, congrArg (a0 :: ·) hsplit, hkept, hchosen, hafter⟩

theorem chooseA0PointFrom_of_lt {totalBytesAcked : Nat} {a0 : AckPoint} {rest : List AckPoint}
    (hsorted : (a0 :: rest).Pairwise fun a b => a.totalBytesAcked ≤ b.totalBytesAcked)
    (hlt : totalBytesAcked < a0.totalBytesAcked) :
    chooseA0PointFrom totalBytesAcked a0 rest = (a0, a0 :: rest) := by
  cases rest with
  | nil => rfl
  | cons next rest =>
      have hnext := (List.pairwise_cons.mp hsorted).1 next List.mem_cons_self
      exact if_pos (hlt.trans_le hnext)

theorem chosenA0_of_sorted {totalBytesAcked : Nat} {candidates remaining : List AckPoint}
    {a0 : AckPoint}
    (hsorted : candidates.Pairwise fun a b => a.totalBytesAcked ≤ b.totalBytesAcked)
    (h : chooseA0Point totalBytesAcked candidates = some (a0, remaining)) :
    ChosenA0 totalBytesAcked candidates a0 remaining := by
  cases candidates with
  | nil => cases h
  | cons front rest =>
      simp only [chooseA0Point, Option.some.injEq] at h
      by_cases hle : front.totalBytesAcked ≤ totalBytesAcked
      · obtain ⟨before, after, hsplit, hkept, hchosen, hafter⟩ :=
          chooseA0PointFrom_of_le hsorted hle
        rw [h] at hsplit hkept hchosen
        exact ⟨before, after, hsplit, hkept, .inl ⟨hchosen, hafter⟩⟩
      · have hlt := Nat.lt_of_not_le hle
        rw [chooseA0PointFrom_of_lt hsorted hlt] at h
        cases h
        refine ⟨[], rest, rfl, rfl, .inr ⟨rfl, List.forall_mem_cons.mpr ⟨hlt, ?_⟩⟩⟩
        exact fun p hp => hlt.trans_le ((List.pairwise_cons.mp hsorted).1 p hp)

/-- In every reachable sampler the candidates are in order and bounded, and the search for A0
finds the candidate that its contract names. -/
theorem a0Candidates_law {s : BandwidthSampler} (h : Reachable s) :
    (s.a0Candidates.Pairwise fun a b => a.totalBytesAcked ≤ b.totalBytesAcked) ∧
      (∀ p ∈ s.a0Candidates, p.totalBytesAcked ≤ s.totalBytesAcked) ∧
      ∀ totalBytesAcked,
        (chooseA0Point totalBytesAcked s.a0Candidates = none ↔ s.a0Candidates = []) ∧
          ∀ a0 remaining,
            chooseA0Point totalBytesAcked s.a0Candidates = some (a0, remaining) →
              ChosenA0 totalBytesAcked s.a0Candidates a0 remaining :=
  ⟨h.candidatesInOrder.sorted, h.candidatesInOrder.le_totalBytesAcked, fun _ =>
    ⟨chooseA0Point_eq_none_iff, fun _ _ hchosen =>
      chosenA0_of_sorted h.candidatesInOrder.sorted hchosen⟩⟩

/-- Two packets; the ack of the first one ends an epoch. -/
def epochEnded : BandwidthSampler :=
  (create 4).run
    [.enableOverestimateAvoidance, .packetSent 1000 1 1460 0, .packetSent 1010 2 1460 1460,
      .congestionEvent 51000 [⟨1, 1460, 51000⟩] [] .zero .infinite 1]

theorem a0Candidates_law_of_epochEnded :
    epochEnded.overestimateAvoidance = true ∧
      epochEnded.a0Candidates = [⟨1000, 0⟩, ⟨51000, 1460⟩] ∧
      ChosenA0 100 epochEnded.a0Candidates ⟨1000, 0⟩ [⟨1000, 0⟩, ⟨51000, 1460⟩] := by
  obtain ⟨_, _, hchoice⟩ := a0Candidates_law ((Reachable.create 4).run
    [.enableOverestimateAvoidance, .packetSent 1000 1 1460 0, .packetSent 1010 2 1460 1460,
      .congestionEvent 51000 [⟨1, 1460, 51000⟩] [] .zero .infinite 1])
  exact ⟨by decide +kernel, by decide +kernel, (hchoice 100).2 _ _ (by decide +kernel)⟩

end BandwidthSampler

end BbrChrome
