import BbrChrome.Library.Emission
import BbrChrome.Quic.HoleCoverage
import BbrChrome.Quic.RttSampling

/-!
# The fate of a packet at the manager

A packet is in flight from the moment it is sent until it is acked, declared lost or swept by a
retransmission timeout. Each packet meets one of these fates at most, and what is left of the
packets that were sent is in flight.
-/

namespace BbrChrome

open QuicUnackedPacketMap QuicSentPacketManager

namespace Connection

variable {σ : Type} [SendAlgorithmInterface σ] {c c' : Connection σ} {op : Operation} {k n : Nat}
  {info : QuicTransmissionInfo}

/-! ## What leaves the flight in a step -/

omit [SendAlgorithmInterface σ] in
theorem sweptNumbers_of_idle (h : c.AtRest)
    (hidle : c.manager.lossAlgorithm.lossDetectionTimeout = 0) (now : Int) :
    k ∈ c.sweptNumbers (.timeout now) ↔ c.map.InFlight k := by
  have hmode : c.manager.getRetransmissionMode = .rtoMode := if_neg (not_not_intro hidle)
  simp only [sweptNumbers, hmode, List.mem_filter, List.mem_range'_1, Option.any_eq_true]
  constructor
  · rintro ⟨_, info, hi, hstate⟩
    exact ⟨info, hi, ((h.manager.map.slot k info hi).outstanding_iff).mp (by simpa using hstate)⟩
  · intro hk
    have hrange := hk.range
    obtain ⟨info, hi, hf⟩ := hk
    exact ⟨hrange, info, hi, by
      simpa using ((h.manager.map.slot k info hi).outstanding_iff).mpr hf⟩

omit [SendAlgorithmInterface σ] in
/-- The retransmission timeout sweeps exactly the flight. -/
theorem AtRest.swept_inFlight (h : c.AtRest) (hk : k ∈ c.sweptNumbers op) : c.map.InFlight k := by
  cases op with
  | timeout now =>
      by_cases hidle : c.manager.lossAlgorithm.lossDetectionTimeout = 0
      · exact (sweptNumbers_of_idle h hidle now).mp hk
      · have hmode : c.manager.getRetransmissionMode = .lossMode := if_pos hidle
        simp [sweptNumbers, hmode] at hk
  | _ => cases hk

omit [SendAlgorithmInterface σ] in
theorem lostNumbers_ack (h : c.AtRest) (hi : c.map.info? n = some info)
    (ackReceiveTime now : Int) :
    c.lostNumbers (.ack n ackReceiveTime now) =
      (c.manager.ackRule n info ackReceiveTime).lostNumbers (c.map.settle n .acked) := by
  rw [lostNumbers, congestionCall_of_info h hi]
  rfl

omit [SendAlgorithmInterface σ] in
theorem lostNumbers_lossTimeout {L : Nat} (h : c.AtRest)
    (harmed : c.manager.lossAlgorithm.lossDetectionTimeout ≠ 0)
    (hL : c.manager.largestNewlyAcked = .number L) (now : Int) :
    c.lostNumbers (.timeout now) =
      (c.manager.lossAlgorithm.rule c.manager.rttStats now L).lostNumbers c.map := by
  rw [lostNumbers, congestionCall_of_armed h harmed hL]
  rfl

/-- A step declares packets lost that are in flight and not above the largest packet newly acked,
and each of them once. -/
theorem Outcome.lost_spec (h : c.AtRest) (ho : c.Outcome op c') :
    (c.lostNumbers op).Nodup ∧ ∀ k ∈ c.lostNumbers op, c.map.InFlight k ∧ op.acked? ≠ some k ∧
      ∃ L, (op.acked? = some L ∨ c.manager.largestNewlyAcked = .number L) ∧ k ≤ L := by
  cases ho with
  | send length sendTime => exact ⟨List.nodup_nil, by simp [lostNumbers, congestionCall]⟩
  | @ack n info hi ackReceiveTime now =>
      rw [lostNumbers_ack h hi]
      refine ⟨LossRule.lostNumbers_nodup, fun k hk => ?_⟩
      obtain ⟨p, hp, rfl⟩ := List.mem_map.mp hk
      obtain ⟨pinfo, hpi, hf, _, hle, _⟩ := LossRule.lost_spec hp
      obtain ⟨hflight, hne⟩ := (settle_inFlight hi).mp ⟨pinfo, hpi, hf⟩
      exact ⟨hflight, fun heq => hne (Option.some.inj heq).symm, n, .inl rfl, hle⟩
  | @lossTimeout L harmed hL now =>
      rw [lostNumbers_lossTimeout h harmed hL]
      refine ⟨LossRule.lostNumbers_nodup, fun k hk => ?_⟩
      obtain ⟨p, hp, rfl⟩ := List.mem_map.mp hk
      obtain ⟨pinfo, hpi, hf, _, hle, _⟩ := LossRule.lost_spec hp
      exact ⟨⟨pinfo, hpi, hf⟩, by simp [Operation.acked?], L, .inr hL, hle⟩
  | rto hidle now =>
      have hmode : c.manager.getRetransmissionMode = .rtoMode := if_neg (not_not_intro hidle)
      simp [lostNumbers, congestionCall, hmode]

theorem Outcome.lost_or_swept (ho : c.Outcome op c') :
    c.lostNumbers op = [] ∨ c.sweptNumbers op = [] := by
  cases ho with
  | lossTimeout harmed hL now =>
      have hmode : c.manager.getRetransmissionMode = .lossMode := if_pos harmed
      exact .inr (by simp [sweptNumbers, hmode])
  | rto hidle now =>
      have hmode : c.manager.getRetransmissionMode = .rtoMode := if_neg (not_not_intro hidle)
      exact .inl (by simp [lostNumbers, congestionCall, hmode])
  | _ => exact .inr rfl

theorem AtRest.afterLossTimeout_inFlight {L : Nat} (h : c.AtRest)
    (hL : c.manager.largestNewlyAcked = .number L) (now : Int) :
    (c.manager.afterLossTimeout L now).unackedPackets.InFlight k ↔ c.map.InFlight k ∧
      k ∉ (c.manager.lossAlgorithm.rule c.manager.rttStats now L).lostNumbers c.map := by
  have hcount : c.manager.countLossTimeout.Consistent :=
    ⟨h.manager.map, h.manager.runt, h.manager.least, h.manager.largest, h.manager.cached,
      h.manager.newlyAcked⟩
  have hwf : (c.manager.lossTimeoutEvent L now).unackedPackets.WellFormed :=
    (detect_consistent hcount (h.manager.newlyAcked L hL)).map
  have hevent : (c.manager.afterLossTimeout L now).unackedPackets.InFlight k ↔
      (c.manager.lossTimeoutEvent L now).unackedPackets.InFlight k := by
    rw [afterLossTimeout]
    rcases maybeInvokeCongestionEvent_unackedPackets (c.manager.lossTimeoutEvent L now) false
      c.map.bytesInFlight now with heq | heq
    · rw [heq]
    · rw [heq, hwf.removeObsoletePackets_inFlight]
  rw [hevent, lossTimeoutEvent, detect_inFlight]
  rfl

/-- The flight after a step: what was sent, without what the step acks, loses or sweeps. -/
theorem Outcome.inFlight_iff (h : c.AtRest) (ho : c.Outcome op c') :
    c'.map.InFlight k ↔
      (c.map.InFlight k ∨ k = c.recentPacketNumber + 1 ∧
        c'.recentPacketNumber = c.recentPacketNumber + 1) ∧
      op.acked? ≠ some k ∧ k ∉ c.lostNumbers op ∧ k ∉ c.sweptNumbers op := by
  have hsame : ¬ c.recentPacketNumber = c.recentPacketNumber + 1 := (Nat.succ_ne_self _).symm
  cases ho with
  | send length sendTime =>
      have hflight : (c.send length sendTime).map.InFlight k ↔
          k = c.map.nextNumber ∨ c.map.InFlight k := addSentPacket_inFlight h.next.symm
      have hrecent : (c.send length sendTime).recentPacketNumber = c.recentPacketNumber + 1 := rfl
      rw [hflight, h.next, hrecent]
      simp [Operation.acked?, lostNumbers, congestionCall, sweptNumbers, or_comm]
  | @ack n info hi ackReceiveTime now =>
      rw [lostNumbers_ack h hi]
      have hiff : (c.manager.afterAck n info ackReceiveTime now).unackedPackets.InFlight k ↔ _ :=
        h.afterAck_inFlight hi
      simp only [Connection.map, Operation.acked?, sweptNumbers, List.not_mem_nil, hsame,
        not_false_eq_true, and_true, and_false, or_false, ne_eq, Option.some.injEq] at hiff ⊢
      rw [hiff, and_assoc, eq_comm (a := k)]
  | @lossTimeout L harmed hL now =>
      have hmode : c.manager.getRetransmissionMode = .lossMode := if_pos harmed
      rw [lostNumbers_lossTimeout h harmed hL]
      have hiff := h.afterLossTimeout_inFlight (k := k) hL now
      simp only [Connection.map, Operation.acked?, sweptNumbers, hmode, List.not_mem_nil, hsame,
        not_false_eq_true, and_true, and_false, or_false, ne_eq, reduceCtorEq, true_and]
      exact hiff
  | rto hidle now =>
      simp only [sweptNumbers_of_idle h hidle, hsame, and_false, or_false]
      constructor
      · intro hk
        exact absurd hk not_inFlight_emptied
      · rintro ⟨hk, _, _, hnot⟩
        exact absurd hk hnot

theorem Outcome.recentPacketNumber (ho : c.Outcome op c') :
    c'.recentPacketNumber = c.recentPacketNumber ∨
      c'.recentPacketNumber = c.recentPacketNumber + 1 := by
  cases ho with
  | send length sendTime => exact .inr rfl
  | _ => exact .inl rfl

theorem Outcome.packetsLost (h : c.AtRest) (ho : c.Outcome op c') :
    c'.manager.stats.packetsLost = c.manager.stats.packetsLost + (c.lostNumbers op).length := by
  cases ho with
  | send length sendTime => rfl
  | @ack n info hi ackReceiveTime now =>
      rw [lostNumbers_ack h hi, LossRule.lostNumbers, List.length_map]
      simp only [afterAck, resetConsecutiveRtoCount]
      split <;> rw [maybeInvokeCongestionEvent_stats] <;> rfl
  | @lossTimeout L harmed hL now =>
      rw [lostNumbers_lossTimeout h harmed hL, LossRule.lostNumbers, List.length_map]
      simp only [afterLossTimeout, maybeInvokeCongestionEvent_stats]
      rfl
  | rto hidle now =>
      have hmode : c.manager.getRetransmissionMode = .rtoMode := if_neg (not_not_intro hidle)
      simp [lostNumbers, congestionCall, hmode, afterRto]

/-! ## Over a run -/

/-- Where the packets are that a run has sent. -/
structure Fated (c : Connection σ) (acked lost swept : List Nat) : Prop where
  place : ∀ n, 1 ≤ n ∧ n ≤ c.recentPacketNumber ↔
    c.map.InFlight n ∨ n ∈ acked ∨ n ∈ lost ∨ n ∈ swept
  ackedOnly : ∀ n ∈ acked, n ∉ lost ∧ n ∉ swept
  lostOnly : ∀ n ∈ lost, n ∉ swept
  lostOnce : lost.Nodup
  sweptOnce : swept.Nodup
  counted : c.manager.stats.packetsLost = lost.length

variable {sendAlgorithm : σ} {ops : List Operation}

omit [SendAlgorithmInterface σ] in
theorem create_fated : (create sendAlgorithm).Fated [] [] [] where
  place := by
    intro n
    have hno : ¬ (create sendAlgorithm).map.InFlight n := by simp [create, InFlight, info?]
    simp only [hno, List.not_mem_nil, or_self, iff_false]
    simp only [create]
    omega
  ackedOnly := by simp
  lostOnly := by simp
  lostOnce := List.nodup_nil
  sweptOnce := List.nodup_nil
  counted := rfl

omit [SendAlgorithmInterface σ] in
theorem sweptNumbers_nodup : (c.sweptNumbers op).Nodup := by
  cases op with
  | timeout now =>
      simp only [sweptNumbers]
      cases c.manager.getRetransmissionMode with
      | rtoMode => exact List.Nodup.filter _ List.nodup_range'
      | lossMode => exact List.nodup_nil
  | _ => exact List.nodup_nil

omit [SendAlgorithmInterface σ] in
theorem AtRest.range_of_info (h : c.AtRest) (hi : c.map.info? n = some info) :
    1 ≤ n ∧ n ≤ c.recentPacketNumber := by
  have hrange := QuicUnackedPacketMap.range_of_info hi
  have hleast := h.manager.least
  rw [h.next] at hrange
  exact ⟨hleast.trans hrange.1, Nat.le_of_lt_succ hrange.2⟩

/-- Nothing on record is in flight, and a slot whose packet is not in flight was acked. -/
structure OutOfFlight (c : Connection σ) (acked lost swept : List Nat) : Prop where
  ackedLeft : ∀ n ∈ acked, ¬ c.map.InFlight n
  lostLeft : ∀ n ∈ lost, ¬ c.map.InFlight n
  sweptLeft : ∀ n ∈ swept, ¬ c.map.InFlight n
  slot : ∀ n info, c.map.info? n = some info → info.inFlight = false → n ∈ acked

variable {acked lost swept : List Nat}

omit [SendAlgorithmInterface σ] in
theorem AtRest.range_of_inFlight (h : c.AtRest) (hn : c.map.InFlight n) :
    1 ≤ n ∧ n ≤ c.recentPacketNumber := by
  obtain ⟨info, hi, _⟩ := hn
  exact h.range_of_info hi

theorem OutOfFlight.inFlight_or_acked (hout : c.OutOfFlight acked lost swept)
    (ho : c.Outcome op c') (hop : op.acked? = some n) :
    (∃ info, c.map.info? n = some info) ∧ (c.map.InFlight n ∨ n ∈ acked) := by
  cases ho with
  | @ack k info hi ackReceiveTime now =>
      cases hop
      refine ⟨⟨info, hi⟩, ?_⟩
      cases hflight : info.inFlight with
      | true => exact .inl ⟨info, hi, hflight⟩
      | false => exact .inr (hout.slot n info hi hflight)
  | _ => cases hop

theorem AtRest.inFlight_of_new (h : c.AtRest) (ho : c.Outcome op c')
    (hn : n = c.recentPacketNumber + 1) (hle : n ≤ c'.recentPacketNumber) :
    c'.map.InFlight n := by
  have hsent : c'.recentPacketNumber = c.recentPacketNumber + 1 := by
    rcases ho.recentPacketNumber with hrecent | hrecent
    · omega
    · exact hrecent
  have hfar : ¬ c.map.InFlight n := fun hk => by
    have := (h.range_of_inFlight hk).2
    omega
  refine (ho.inFlight_iff h).mpr ⟨.inr ⟨hn, hsent⟩, fun hop => ?_,
    fun hk => hfar ((ho.lost_spec h).2 n hk).1, fun hk => hfar (h.swept_inFlight hk)⟩
  cases ho with
  | @ack k info hi ackReceiveTime now =>
      cases hop
      have := (h.range_of_info hi).2
      omega
  | _ => cases hop

/-- A step leaves a packet in flight or puts it on one of the records. -/
theorem Outcome.inFlight_cases (h : c.AtRest) (ho : c.Outcome op c') (hn : c.map.InFlight n) :
    c'.map.InFlight n ∨ op.acked? = some n ∨ n ∈ c.lostNumbers op ∨ n ∈ c.sweptNumbers op := by
  by_cases hop : op.acked? = some n
  · exact .inr (.inl hop)
  · by_cases hl : n ∈ c.lostNumbers op
    · exact .inr (.inr (.inl hl))
    · by_cases hs : n ∈ c.sweptNumbers op
      · exact .inr (.inr (.inr hs))
      · exact .inl ((ho.inFlight_iff h).mpr ⟨.inl hn, hop, hl, hs⟩)

theorem Fated.placed (h : c.AtRest) (hf : c.Fated acked lost swept) (ho : c.Outcome op c')
    (hn : 1 ≤ n ∧ n ≤ c'.recentPacketNumber) :
    c'.map.InFlight n ∨ n ∈ acked ++ op.acked?.toList ∨ n ∈ lost ++ c.lostNumbers op ∨
      n ∈ swept ++ c.sweptNumbers op := by
  by_cases hnew : n = c.recentPacketNumber + 1
  · exact .inl (h.inFlight_of_new ho hnew hn.2)
  · have hold : n ≤ c.recentPacketNumber := by
      rcases ho.recentPacketNumber with hrecent | hrecent <;> omega
    simp only [List.mem_append, Option.mem_toList]
    rcases (hf.place n).mp ⟨hn.1, hold⟩ with hk | hk | hk | hk
    · exact (ho.inFlight_cases h hk).imp_right
        (Or.imp .inr (Or.imp .inr .inr))
    · exact .inr (.inl (.inl hk))
    · exact .inr (.inr (.inl (.inl hk)))
    · exact .inr (.inr (.inr (.inl hk)))

theorem Fated.sent (h : c.AtRest) (hf : c.Fated acked lost swept)
    (hout : c.OutOfFlight acked lost swept) (ho : c.Outcome op c')
    (hn : c'.map.InFlight n ∨ n ∈ acked ++ op.acked?.toList ∨ n ∈ lost ++ c.lostNumbers op ∨
      n ∈ swept ++ c.sweptNumbers op) : 1 ≤ n ∧ n ≤ c'.recentPacketNumber := by
  have hgrow : c.recentPacketNumber ≤ c'.recentPacketNumber := by
    rcases ho.recentPacketNumber with hrecent | hrecent <;> omega
  have hkeep : 1 ≤ n ∧ n ≤ c.recentPacketNumber → 1 ≤ n ∧ n ≤ c'.recentPacketNumber :=
    fun hn => ⟨hn.1, hn.2.trans hgrow⟩
  have hplace := hf.place n
  simp only [ho.inFlight_iff h, List.mem_append, Option.mem_toList] at hn
  rcases hn with ⟨hk | hk, _⟩ | (hk | hk) | (hk | hk) | (hk | hk)
  · exact hkeep (h.range_of_inFlight hk)
  · omega
  · exact hkeep (hplace.mpr (.inr (.inl hk)))
  · obtain ⟨info, hi⟩ := (hout.inFlight_or_acked ho hk).1
    exact hkeep (h.range_of_info hi)
  · exact hkeep (hplace.mpr (.inr (.inr (.inl hk))))
  · exact hkeep (h.range_of_inFlight ((ho.lost_spec h).2 n hk).1)
  · exact hkeep (hplace.mpr (.inr (.inr (.inr hk))))
  · exact hkeep (h.range_of_inFlight (h.swept_inFlight hk))

theorem Fated.ackedOnly_step (h : c.AtRest) (hf : c.Fated acked lost swept)
    (hout : c.OutOfFlight acked lost swept) (ho : c.Outcome op c')
    (hn : n ∈ acked ++ op.acked?.toList) :
    n ∉ lost ++ c.lostNumbers op ∧ n ∉ swept ++ c.sweptNumbers op := by
  have hspec := (ho.lost_spec h).2
  simp only [List.mem_append, Option.mem_toList, not_or] at hn ⊢
  rcases hn with hn | hop
  · exact ⟨⟨(hf.ackedOnly n hn).1, fun hk => hout.ackedLeft n hn (hspec n hk).1⟩,
      (hf.ackedOnly n hn).2, fun hk => hout.ackedLeft n hn (h.swept_inFlight hk)⟩
  · have hnone : c.sweptNumbers op = [] := by
      cases op with
      | ack k t now => rfl
      | _ => cases hop
    have hbefore : n ∉ lost ∧ n ∉ swept := by
      rcases (hout.inFlight_or_acked ho hop).2 with hin | hmem
      · exact ⟨fun hk => hout.lostLeft n hk hin, fun hk => hout.sweptLeft n hk hin⟩
      · exact hf.ackedOnly n hmem
    rw [hnone]
    exact ⟨⟨hbefore.1, fun hk => (hspec n hk).2.1 hop⟩, hbefore.2, List.not_mem_nil⟩

theorem Fated.lostOnly_step (h : c.AtRest) (hf : c.Fated acked lost swept)
    (hout : c.OutOfFlight acked lost swept) (ho : c.Outcome op c')
    (hn : n ∈ lost ++ c.lostNumbers op) : n ∉ swept ++ c.sweptNumbers op := by
  have hspec := (ho.lost_spec h).2
  simp only [List.mem_append, not_or] at hn ⊢
  rcases hn with hn | hn
  · exact ⟨hf.lostOnly n hn, fun hk => hout.lostLeft n hn (h.swept_inFlight hk)⟩
  · refine ⟨fun hk => hout.sweptLeft n hk (hspec n hn).1, fun hk => ?_⟩
    rcases ho.lost_or_swept with hnone | hnone
    · rw [hnone] at hn
      cases hn
    · rw [hnone] at hk
      cases hk

theorem Fated.step (h : c.AtRest) (hf : c.Fated acked lost swept)
    (hout : c.OutOfFlight acked lost swept) (ho : c.Outcome op c') :
    c'.Fated (acked ++ op.acked?.toList) (lost ++ c.lostNumbers op)
      (swept ++ c.sweptNumbers op) where
  place _ := ⟨hf.placed h ho, hf.sent h hout ho⟩
  ackedOnly _ := hf.ackedOnly_step h hout ho
  lostOnly _ := hf.lostOnly_step h hout ho
  lostOnce := by
    obtain ⟨hnodup, hspec⟩ := ho.lost_spec h
    refine List.nodup_append.mpr ⟨hf.lostOnce, hnodup, ?_⟩
    rintro n hn _ hk rfl
    exact hout.lostLeft n hn (hspec n hk).1
  sweptOnce := by
    refine List.nodup_append.mpr ⟨hf.sweptOnce, sweptNumbers_nodup, ?_⟩
    rintro n hn _ hk rfl
    exact hout.sweptLeft n hn (h.swept_inFlight hk)
  counted := by rw [ho.packetsLost h, hf.counted, List.length_append]

theorem exec_fated (hrun : exec (create sendAlgorithm) ops = .ok c) :
    c.Fated (Operation.ackedNumbers ops) ((create sendAlgorithm).lostHistory ops)
      ((create sendAlgorithm).sweptHistory ops) := by
  refine PartialRun.exec_induction create_fated ?_ hrun
  intro ops m op t hpre hs ih
  have hrest := exec_atRest hpre
  have hout : m.OutOfFlight (Operation.ackedNumbers ops)
      ((create sendAlgorithm).lostHistory ops) ((create sendAlgorithm).sweptHistory ops) :=
    { ackedLeft := fun n hn => (acked_left hpre hn).2
      lostLeft := fun n hn => (lost_left hpre hn).2
      sweptLeft := fun n hn => (swept_left hpre hn).2
      slot := (exec_ackedSoFar hpre).acked }
  have hnext := ih.step hrest hout (step_outcome hrest hs)
  rw [Operation.ackedNumbers_append, lostHistory, sweptHistory, collected_concat hpre hs,
    collected_concat hpre hs]
  have hone : Operation.ackedNumbers [op] = op.acked?.toList := by
    cases hop : op.acked? <;> simp [Operation.ackedNumbers, hop]
  rw [hone]
  exact hnext

def flightNumbers (c : Connection σ) : List Nat :=
  (List.range' 1 c.recentPacketNumber).filter fun n => decide (c.map.InFlight n)

/-- In every run without an out-of-range lookup each packet that was sent is in flight, acked,
declared lost or swept, and only one of these. No packet is declared lost or swept twice, so the
statistics count every lost packet once. -/
theorem fates_partition (sendAlgorithm : σ) (ops : List Operation)
    (hrun : exec (create sendAlgorithm) ops = .ok c) :
    (c.flightNumbers ++ ((Operation.ackedNumbers ops).dedup ++
      ((create sendAlgorithm).lostHistory ops ++
        (create sendAlgorithm).sweptHistory ops))).Perm (List.range' 1 c.recentPacketNumber) ∧
    c.manager.stats.packetsLost = ((create sendAlgorithm).lostHistory ops).length := by
  have hf := exec_fated hrun
  refine ⟨(List.perm_ext_iff_of_nodup ?_ List.nodup_range').mpr fun n => ?_, hf.counted⟩
  · refine List.nodup_append.mpr ⟨List.Nodup.filter _ List.nodup_range', ?_, ?_⟩
    · refine List.nodup_append.mpr ⟨List.nodup_dedup _, ?_, ?_⟩
      · refine List.nodup_append.mpr ⟨hf.lostOnce, hf.sweptOnce, ?_⟩
        rintro n hn _ hk rfl
        exact hf.lostOnly n hn hk
      · rintro n hn _ hk rfl
        have hacked := hf.ackedOnly n (List.mem_dedup.mp hn)
        rcases List.mem_append.mp hk with hk | hk
        · exact hacked.1 hk
        · exact hacked.2 hk
    · rintro n hn _ hk rfl
      have hin : c.map.InFlight n := of_decide_eq_true (List.mem_filter.mp hn).2
      simp only [List.mem_append, List.mem_dedup] at hk
      rcases hk with hk | hk | hk
      · exact (acked_left hrun hk).2 hin
      · exact (lost_left hrun hk).2 hin
      · exact (swept_left hrun hk).2 hin
  · have hplace := hf.place n
    have hmem : n ∈ List.range' 1 c.recentPacketNumber ↔ 1 ≤ n ∧ n ≤ c.recentPacketNumber := by
      rw [List.mem_range'_1]
      omega
    simp only [flightNumbers, List.mem_append, List.mem_filter, List.mem_dedup, hmem,
      decide_eq_true_eq]
    constructor
    · rintro (⟨hn, _⟩ | hn)
      · exact hn
      · exact hplace.mpr (.inr hn)
    · intro hn
      rcases hplace.mp hn with hk | hk
      · exact .inl ⟨hn, hk⟩
      · exact .inr hk

/-- Of five packets, one is acked twice, one is declared lost and three are swept. -/
theorem fates_partition_of_repeatedAcks :
    ∃ c, exec (bbr2Connection 1 fun _ => 0) repeatedAcks = .ok c ∧
      (c.flightNumbers ++ ((Operation.ackedNumbers repeatedAcks).dedup ++
        ((bbr2Connection 1 fun _ => 0).lostHistory repeatedAcks ++
          (bbr2Connection 1 fun _ => 0).sweptHistory repeatedAcks))).Perm
            (List.range' 1 c.recentPacketNumber) := by
  obtain ⟨c, hrun, _⟩ := PartialRun.exists_of_endsIn (p := fun _ => true)
    (r := exec (bbr2Connection 1 fun _ => 0) repeatedAcks) (by decide +kernel)
  exact ⟨c, hrun, (fates_partition _ repeatedAcks hrun).1⟩

/-! ## A verdict is final -/

/-- What the late ack of a lost packet would adapt. -/
def adaptation (c : Connection σ) : Nat × Nat × Bool × Bool × Nat :=
  let alg := c.manager.lossAlgorithm
  (alg.reorderingShift, alg.reorderingThreshold, alg.useAdaptiveReorderingThreshold,
    alg.useAdaptiveTimeThreshold, c.manager.stats.packetSpuriouslyDetectedLost)

theorem Outcome.adaptation (ho : c.Outcome op c') : c'.adaptation = c.adaptation := by
  cases ho with
  | send length sendTime => rfl
  | ack hi ackReceiveTime now =>
      simp only [Connection.adaptation, afterAck, resetConsecutiveRtoCount]
      split <;> rw [maybeInvokeCongestionEvent_lossAlgorithm, maybeInvokeCongestionEvent_stats] <;>
        rfl
  | lossTimeout harmed hL now =>
      simp only [Connection.adaptation, afterLossTimeout, maybeInvokeCongestionEvent_lossAlgorithm,
        maybeInvokeCongestionEvent_stats]
      rfl
  | rto hidle now => rfl

/-- In every run the slot of a packet that was declared lost or swept is gone, so that its late ack
is a lookup outside the deque. Thus no run counts a spurious loss or adapts the loss detection. -/
theorem verdict_final (sendAlgorithm : σ) (ops : List Operation)
    (hrun : exec (create sendAlgorithm) ops = .ok c) :
    (∀ n ∈ (create sendAlgorithm).lostHistory ops ++ (create sendAlgorithm).sweptHistory ops,
      ∀ ackReceiveTime now, step c (.ack n ackReceiveTime now) =
        .error (.outOfRange n c.map.leastUnacked c.map.unackedPackets.length)) ∧
    c.adaptation =
      (kDefaultLossDelayShift, kDefaultPacketReorderingThreshold, true, false, 0) := by
  have hrest := exec_atRest hrun
  have hf := exec_fated hrun
  constructor
  · intro n hn ackReceiveTime now
    refine ack_of_gone hrest.manager ?_ ackReceiveTime now
    have hleft : ¬ c.map.InFlight n := by
      rcases List.mem_append.mp hn with hn | hn
      · exact (lost_left hrun hn).2
      · exact (swept_left hrun hn).2
    cases hi : c.map.info? n with
    | none => rfl
    | some info =>
        -- A slot that is not in flight was acked, and an acked packet has no other fate.
        have hout : info.inFlight = false := by
          cases hflight : info.inFlight with
          | false => rfl
          | true => exact absurd ⟨info, hi, hflight⟩ hleft
        have hacked := hf.ackedOnly n ((exec_ackedSoFar hrun).acked n info hi hout)
        rcases List.mem_append.mp hn with hn | hn
        · exact absurd hn hacked.1
        · exact absurd hn hacked.2
  · have hstep : ∀ (c : Connection σ) op c',
        c.adaptation = (create sendAlgorithm).adaptation ∧ c.AtRest →
        step c op = .ok c' → c'.adaptation = (create sendAlgorithm).adaptation ∧ c'.AtRest := by
      rintro c op c' ⟨hsame, hrest⟩ hs
      have ho := step_outcome hrest hs
      exact ⟨ho.adaptation.trans hsame, ho.atRest hrest⟩
    exact (PartialRun.invariant hstep ⟨rfl, create_atRest sendAlgorithm⟩ hrun).1

/-- The ack of packet 1, which was declared lost, finds no slot. -/
theorem verdict_final_of_repeatedAcks :
    ∃ c, exec (bbr2Connection 1 fun _ => 0) repeatedAcks = .ok c ∧
      step c (.ack 1 2000000 2000001) =
        .error (.outOfRange 1 c.map.leastUnacked c.map.unackedPackets.length) := by
  obtain ⟨c, hrun, _⟩ := PartialRun.exists_of_endsIn (p := fun _ => true)
    (r := exec (bbr2Connection 1 fun _ => 0) repeatedAcks) (by decide +kernel)
  have hlost : 1 ∈ (bbr2Connection 1 fun _ => 0).lostHistory repeatedAcks ++
      (bbr2Connection 1 fun _ => 0).sweptHistory repeatedAcks := by decide +kernel
  exact ⟨c, hrun, (verdict_final _ repeatedAcks hrun).1 1 hlost 2000000 2000001⟩

end Connection

end BbrChrome
