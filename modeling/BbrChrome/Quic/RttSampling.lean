import BbrChrome.Quic.FlightRefinement

/-!
# One RTT sample for each packet

The history of a packet under repeated and late acks: which acks call `UpdateRtt`, which packets
were declared lost and which ones a retransmission timeout swept. Only a packet in flight is
sampled, and a packet that has left the flight does not come back.
-/

namespace BbrChrome

open QuicUnackedPacketMap QuicSentPacketManager

namespace Connection

variable {σ : Type}

/-- The packet for which the operation calls `UpdateRtt`. -/
def sampled? (c : Connection σ) : Operation → Option Nat
  | .ack packetNumber ackReceiveTime _ =>
      match c.manager.maybeUpdateRtt packetNumber ackReceiveTime with
      | .ok (_, true) => some packetNumber
      | _ => none
  | _ => none

def lostNumbers (c : Connection σ) (op : Operation) : List Nat :=
  match c.congestionCall op with
  | .ok (some call) => call.manager.packetsLost.map (·.packetNumber)
  | _ => []

def sweptNumbers (c : Connection σ) : Operation → List Nat
  | .timeout _ =>
      match c.manager.getRetransmissionMode with
      | .rtoMode =>
          (List.range' c.map.leastUnacked c.map.unackedPackets.length).filter fun n =>
            (c.map.info? n).any fun info => info.state == .outstanding
      | .lossMode => []
  | _ => []

variable [SendAlgorithmInterface σ]

/-- What the operations of a run contribute, in order. -/
def collected (f : Connection σ → Operation → List Nat) (c : Connection σ)
    (ops : List Operation) : List Nat :=
  PartialRun.observed step (fun history c op _ => history ++ f c op) c [] ops

def sampleHistory (c : Connection σ) (ops : List Operation) : List Nat :=
  collected (fun c op => (c.sampled? op).toList) c ops

def lostHistory (c : Connection σ) (ops : List Operation) : List Nat := collected lostNumbers c ops

def sweptHistory (c : Connection σ) (ops : List Operation) : List Nat :=
  collected sweptNumbers c ops

/-- No packet is sampled twice, and a sample is taken by the first ack of its packet, before the
packet is declared lost or swept. -/
structure SampledOnce (c : Connection σ) (ops : List Operation) : Prop where
  once : (c.sampleHistory ops).Nodup
  first : ∀ pre op post d n, ops = pre ++ op :: post → exec c pre = .ok d →
    d.sampled? op = some n → op.acked? = some n ∧ n ∉ Operation.ackedNumbers pre
  fresh : ∀ pre op post d n, ops = pre ++ op :: post → exec c pre = .ok d →
    d.sampled? op = some n → n ∉ c.lostHistory pre ∧ n ∉ c.sweptHistory pre

variable {c c' start : Connection σ} {op : Operation} {ops : List Operation} {n : Nat}

/-! ## Out of flight for good -/

/-- The number has been given out, and its packet is not in flight any more. -/
def HasLeft (c : Connection σ) (n : Nat) : Prop := n < c.map.nextNumber ∧ ¬ c.map.InFlight n

omit [SendAlgorithmInterface σ] in
theorem detect_packetsLost_lt {m : QuicSentPacketManager σ} {time : Int} {L k : Nat}
    (hk : k ∈ (m.detect time L).packetsLost.map (·.packetNumber)) :
    k < m.unackedPackets.nextNumber := by
  obtain ⟨info, hi⟩ := LossRule.lostNumbers_info hk
  exact (range_of_info hi).2

theorem afterAck_inFlight {m : QuicSentPacketManager σ} {info : QuicTransmissionInfo} {k : Nat}
    (hi : m.unackedPackets.info? n = some info) {ackReceiveTime now : Int}
    (hk : (m.afterAck n info ackReceiveTime now).unackedPackets.InFlight k) :
    m.unackedPackets.InFlight k ∧ k ≠ n ∧
      k ∉ (m.ackEvent n info ackReceiveTime now).packetsLost.map (·.packetNumber) := by
  obtain ⟨kinfo, hkinfo, hflight⟩ := hk
  obtain ⟨hacked, hnot⟩ := detect_inFlight.mp ⟨kinfo, afterAck_info? hkinfo, hflight⟩
  obtain ⟨hbefore, hne⟩ := (settle_inFlight hi).mp hacked
  exact ⟨hbefore, hne, hnot⟩

theorem afterLossTimeout_inFlight {m : QuicSentPacketManager σ} {L k : Nat} {now : Int}
    (hk : (m.afterLossTimeout L now).unackedPackets.InFlight k) :
    m.unackedPackets.InFlight k ∧
      k ∉ (m.lossTimeoutEvent L now).packetsLost.map (·.packetNumber) := by
  obtain ⟨kinfo, hkinfo, hflight⟩ := hk
  exact detect_inFlight.mp ⟨kinfo, afterLossTimeout_info? hkinfo, hflight⟩

theorem Outcome.hasLeft (h : c.AtRest) (ho : c.Outcome op c') (hn : c.HasLeft n) :
    c'.HasLeft n := by
  obtain ⟨hlt, hout⟩ := hn
  cases ho with
  | send length sendTime =>
      refine ⟨?_, fun hin => ?_⟩
      · show n < (c.map.addSentPacket _ _ true).nextNumber
        rw [addSentPacket_nextNumber h.next.symm]
        exact Nat.lt_succ_of_lt hlt
      · rcases (addSentPacket_inFlight h.next.symm).mp hin with heq | hin
        · rw [heq] at hlt
          exact absurd hlt (Nat.lt_irrefl _)
        · exact hout hin
  | ack hi ackReceiveTime now =>
      refine ⟨?_, fun hin => hout (afterAck_inFlight hi hin).1⟩
      show n < (c.manager.afterAck _ _ _ _).unackedPackets.nextNumber
      rw [afterAck_nextNumber]
      exact hlt
  | lossTimeout harmed hL now =>
      refine ⟨?_, fun hin => hout (afterLossTimeout_inFlight hin).1⟩
      show n < (c.manager.afterLossTimeout _ _).unackedPackets.nextNumber
      rw [afterLossTimeout_nextNumber]
      exact hlt
  | rto hidle now =>
      refine ⟨?_, not_inFlight_emptied⟩
      show n < c.map.emptied.nextNumber
      rw [emptied_nextNumber]
      exact hlt

theorem Outcome.acked_hasLeft (ho : c.Outcome op c') (hacked : op.acked? = some n) :
    c'.HasLeft n := by
  cases ho with
  | @ack k info hi ackReceiveTime now =>
      cases hacked
      refine ⟨?_, fun hin => (afterAck_inFlight hi hin).2.1 rfl⟩
      show n < (c.manager.afterAck n info ackReceiveTime now).unackedPackets.nextNumber
      rw [afterAck_nextNumber]
      exact (range_of_info hi).2
  | _ => cases hacked

theorem Outcome.lost_hasLeft (h : c.AtRest) (ho : c.Outcome op c') (hlost : n ∈ c.lostNumbers op) :
    c'.HasLeft n := by
  unfold lostNumbers at hlost
  cases ho with
  | send length sendTime => simp [congestionCall] at hlost
  | @ack k info hi ackReceiveTime now =>
      rw [congestionCall_of_info h hi] at hlost
      refine ⟨?_, fun hin => (afterAck_inFlight hi hin).2.2 hlost⟩
      show n < (c.manager.afterAck k info ackReceiveTime now).unackedPackets.nextNumber
      rw [afterAck_nextNumber, ← settle_nextNumber]
      exact detect_packetsLost_lt (m := c.manager.acknowledge k info ackReceiveTime now) hlost
  | @lossTimeout L harmed hL now =>
      rw [congestionCall_of_armed h harmed hL] at hlost
      refine ⟨?_, fun hin => (afterLossTimeout_inFlight hin).2 hlost⟩
      show n < (c.manager.afterLossTimeout L now).unackedPackets.nextNumber
      rw [afterLossTimeout_nextNumber]
      exact detect_packetsLost_lt (m := c.manager.countLossTimeout) hlost
  | rto hidle now =>
      have hmode : c.manager.getRetransmissionMode = .rtoMode := if_neg (not_not_intro hidle)
      simp [congestionCall, hmode] at hlost

theorem Outcome.swept_hasLeft (ho : c.Outcome op c') (hswept : n ∈ c.sweptNumbers op) :
    c'.HasLeft n := by
  cases ho with
  | send length sendTime => simp [sweptNumbers] at hswept
  | ack hi ackReceiveTime now => simp [sweptNumbers] at hswept
  | lossTimeout harmed hL now =>
      have hmode : c.manager.getRetransmissionMode = .lossMode := if_pos harmed
      simp [sweptNumbers, hmode] at hswept
  | rto hidle now =>
      have hmode : c.manager.getRetransmissionMode = .rtoMode := if_neg (not_not_intro hidle)
      simp only [sweptNumbers, hmode, List.mem_filter, List.mem_range'_1] at hswept
      refine ⟨?_, not_inFlight_emptied⟩
      show n < c.map.emptied.nextNumber
      rw [emptied_nextNumber]
      exact hswept.1.2

/-! ## The history of a packet -/

omit [SendAlgorithmInterface σ] in
/-- `UpdateRtt` is called only for a packet in flight. -/
theorem AtRest.inFlight_of_sampled (h : c.AtRest) (hs : c.sampled? op = some n) :
    op.acked? = some n ∧ c.map.InFlight n := by
  cases op with
  | send length sendTime => cases hs
  | timeout now => cases hs
  | ack k ackReceiveTime now =>
      by_cases hunacked : c.map.isUnacked k = true
      · simp only [sampled?] at hs
        split at hs
        · cases hs
          exact ⟨rfl, (isUnacked_iff h.manager.map).mp hunacked⟩
        · cases hs
      · have hgone : c.manager.maybeUpdateRtt k ackReceiveTime = .ok (c.manager, false) :=
          if_pos (by simpa using hunacked)
        simp [sampled?, hgone] at hs

theorem collected_concat {f : Connection σ → Operation → List Nat} {d : Connection σ}
    (hpre : exec start ops = .ok d) (hs : step d op = .ok c') :
    start.collected f (ops ++ [op]) = start.collected f ops ++ f d op := by
  unfold collected
  rw [PartialRun.observed_append hpre, PartialRun.observed_cons_of_ok hs]
  rfl

theorem collected_hasLeft {f : Connection σ → Operation → List Nat} {sendAlgorithm : σ}
    (hf : ∀ {c c' : Connection σ} {op n}, c.AtRest → c.Outcome op c' → n ∈ f c op → c'.HasLeft n)
    (hrun : exec (create sendAlgorithm) ops = .ok c)
    (hn : n ∈ (create sendAlgorithm).collected f ops) : c.HasLeft n := by
  induction ops using List.reverseRecOn generalizing c with
  | nil => cases hn
  | append_singleton ops op ih =>
      obtain ⟨d, hpre, hlast⟩ := PartialRun.exec_append_ok hrun
      obtain ⟨c', hs, hnil⟩ := PartialRun.exec_cons_ok hlast
      cases hnil
      have hrest := exec_atRest hpre
      have ho := step_outcome hrest hs
      rw [collected_concat hpre hs, List.mem_append] at hn
      rcases hn with hn | hn
      · exact ho.hasLeft hrest (ih hpre hn)
      · exact hf hrest ho hn

theorem collected_acked (hrun : exec start ops = .ok c) :
    start.collected (fun _ op => op.acked?.toList) ops = Operation.ackedNumbers ops := by
  induction ops using List.reverseRecOn generalizing c with
  | nil => rfl
  | append_singleton ops op ih =>
      obtain ⟨d, hpre, hlast⟩ := PartialRun.exec_append_ok hrun
      obtain ⟨c', hs, _⟩ := PartialRun.exec_cons_ok hlast
      rw [collected_concat hpre hs, ih hpre, Operation.ackedNumbers_append]
      cases hop : op.acked? <;> simp [Operation.ackedNumbers, hop]

section Runs

variable {sendAlgorithm : σ}

theorem acked_left (hrun : exec (create sendAlgorithm) ops = .ok c)
    (hn : n ∈ Operation.ackedNumbers ops) : c.HasLeft n := by
  rw [← collected_acked hrun] at hn
  exact collected_hasLeft (fun _ ho hmem => ho.acked_hasLeft (Option.mem_toList.mp hmem)) hrun hn

theorem lost_left (hrun : exec (create sendAlgorithm) ops = .ok c)
    (hn : n ∈ (create sendAlgorithm).lostHistory ops) : c.HasLeft n :=
  collected_hasLeft (fun h ho hmem => ho.lost_hasLeft h hmem) hrun hn

theorem swept_left (hrun : exec (create sendAlgorithm) ops = .ok c)
    (hn : n ∈ (create sendAlgorithm).sweptHistory ops) : c.HasLeft n :=
  collected_hasLeft (fun _ ho hmem => ho.swept_hasLeft hmem) hrun hn

theorem sampleHistory_subset (hrun : exec (create sendAlgorithm) ops = .ok c)
    (hn : n ∈ (create sendAlgorithm).sampleHistory ops) : n ∈ Operation.ackedNumbers ops := by
  induction ops using List.reverseRecOn generalizing c with
  | nil => cases hn
  | append_singleton ops op ih =>
      obtain ⟨d, hpre, hlast⟩ := PartialRun.exec_append_ok hrun
      obtain ⟨c', hs, _⟩ := PartialRun.exec_cons_ok hlast
      rw [sampleHistory, collected_concat hpre hs, List.mem_append] at hn
      rw [Operation.ackedNumbers_append, List.mem_append]
      rcases hn with hn | hn
      · exact .inl (ih hpre hn)
      · have hacked := ((exec_atRest hpre).inFlight_of_sampled (Option.mem_toList.mp hn)).1
        exact .inr (by simp [Operation.ackedNumbers, hacked])

theorem sampleHistory_nodup (hrun : exec (create sendAlgorithm) ops = .ok c) :
    ((create sendAlgorithm).sampleHistory ops).Nodup := by
  induction ops using List.reverseRecOn generalizing c with
  | nil => exact List.nodup_nil
  | append_singleton ops op ih =>
      obtain ⟨d, hpre, hlast⟩ := PartialRun.exec_append_ok hrun
      obtain ⟨c', hs, _⟩ := PartialRun.exec_cons_ok hlast
      rw [sampleHistory, collected_concat hpre hs]
      refine List.nodup_append.mpr ⟨ih hpre, by cases d.sampled? op <;> simp, ?_⟩
      rintro k hk _ hsampled rfl
      have hin := ((exec_atRest hpre).inFlight_of_sampled (Option.mem_toList.mp hsampled)).2
      exact (acked_left hpre (sampleHistory_subset hpre hk)).2 hin

end Runs

/-- In every run without an out-of-range lookup `UpdateRtt` is called for a packet by its first
ack only, and not after the packet was acked, declared lost or swept. -/
theorem exec_sampledOnce (sendAlgorithm : σ) (ops : List Operation)
    (hrun : ∃ c, exec (create sendAlgorithm) ops = .ok c) :
    (create sendAlgorithm).SampledOnce ops := by
  obtain ⟨c, hrun⟩ := hrun
  refine ⟨sampleHistory_nodup hrun, ?_, ?_⟩
  · intro pre op post d n _ hpre hs
    obtain ⟨hacked, hin⟩ := (exec_atRest hpre).inFlight_of_sampled hs
    exact ⟨hacked, fun hmem => (acked_left hpre hmem).2 hin⟩
  · intro pre op post d n _ hpre hs
    have hin := ((exec_atRest hpre).inFlight_of_sampled hs).2
    exact ⟨fun hmem => (lost_left hpre hmem).2 hin, fun hmem => (swept_left hpre hmem).2 hin⟩

/-- Packet 2 is acked twice, packet 1 is declared lost and the packets that remain are swept
by the timer. -/
def repeatedAcks : List Operation :=
  [.send defaultPacketLength 1000, .send defaultPacketLength 1001, .send defaultPacketLength 1002,
    .send defaultPacketLength 1003, .ack 2 51000 51001, .ack 2 51500 51501, .timeout 100000,
    .send defaultPacketLength 300000, .timeout 900000, .timeout 1900000]

theorem exec_sampledOnce_of_repeatedAcks :
    (bbr2Connection 1 fun _ => 0).SampledOnce repeatedAcks := by
  have hends : PartialRun.endsIn (fun _ => true)
      (exec (bbr2Connection 1 fun _ => 0) repeatedAcks) = true := by decide +kernel
  obtain ⟨c, hrun, _⟩ := PartialRun.exists_of_endsIn hends
  exact exec_sampledOnce _ _ ⟨c, hrun⟩

end Connection

end BbrChrome
