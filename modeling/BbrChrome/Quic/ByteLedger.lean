import BbrChrome.Quic.SamplerMirror

/-!
# The bytes that leave the flight

Bytes enter the flight with the packet that is sent. The ack of a packet in flight and
a detected loss move them to the totals of the sampler; the sweep of a retransmission
timeout drops them.
-/

namespace BbrChrome

open QuicUnackedPacketMap QuicSentPacketManager

namespace Operation

def acked? : Operation → Option Nat
  | .ack packetNumber _ _ => some packetNumber
  | _ => none

/-- The packets that a list of operations acks, one entry for each ack. -/
def ackedNumbers (ops : List Operation) : List Nat := ops.filterMap acked?

theorem ackedNumbers_append (ops ops' : List Operation) :
    ackedNumbers (ops ++ ops') = ackedNumbers ops ++ ackedNumbers ops' :=
  List.filterMap_append

end Operation

namespace QuicSentPacketManager

variable {σ : Type} {m : QuicSentPacketManager σ} {n L : Nat} {info : QuicTransmissionInfo}

theorem acknowledge_bytesInFlight (h : m.unackedPackets.WellFormed)
    (hi : m.unackedPackets.info? n = some info) (hf : info.inFlight = true)
    (ackReceiveTime now : Int) :
    (m.acknowledge n info ackReceiveTime now).unackedPackets.bytesInFlight + info.bytesSent =
      m.unackedPackets.bytesInFlight := by
  have hle := h.bytes_le hi hf
  simp only [acknowledge]
  rw [settle_bytesInFlight hi, if_pos hf]
  omega

theorem detect_bytesInFlight (h : m.unackedPackets.WellFormed) (time : Int) :
    (m.detect time L).unackedPackets.bytesInFlight +
        ((m.detect time L).packetsLost.map (·.bytesLost)).sum =
      m.unackedPackets.bytesInFlight := by
  apply settleAll_bytesInFlight h LossRule.lostNumbers_nodup
  intro p hp
  obtain ⟨info, hi, hf, hb, _⟩ := LossRule.lost_spec hp
  exact ⟨info, hi, hf, hb⟩

theorem ackEvent_bytesInFlight (h : m.unackedPackets.WellFormed)
    (hi : m.unackedPackets.info? n = some info) (hf : info.inFlight = true)
    (ackReceiveTime now : Int) :
    (m.ackEvent n info ackReceiveTime now).unackedPackets.bytesInFlight + info.bytesSent +
        ((m.ackEvent n info ackReceiveTime now).packetsLost.map (·.bytesLost)).sum =
      m.unackedPackets.bytesInFlight := by
  have hack := acknowledge_bytesInFlight h hi hf ackReceiveTime now
  have hdetect := detect_bytesInFlight (L := n)
    (m := m.acknowledge n info ackReceiveTime now) (h.settle .acked hi (.inl rfl)) ackReceiveTime
  unfold ackEvent
  omega

theorem lossTimeoutEvent_bytesInFlight (h : m.unackedPackets.WellFormed) (now : Int) :
    (m.lossTimeoutEvent L now).unackedPackets.bytesInFlight +
        ((m.lossTimeoutEvent L now).packetsLost.map (·.bytesLost)).sum =
      m.unackedPackets.bytesInFlight :=
  detect_bytesInFlight (m := m.countLossTimeout) h now

variable [SendAlgorithmInterface σ]

@[simp] theorem maybeInvokeCongestionEvent_bytesInFlight {rttUpdated : Bool} {priorInFlight : Nat}
    {eventTime : Int} :
    (m.maybeInvokeCongestionEvent rttUpdated priorInFlight
        eventTime).unackedPackets.bytesInFlight = m.unackedPackets.bytesInFlight := by
  rcases maybeInvokeCongestionEvent_unackedPackets m rttUpdated priorInFlight eventTime
    with heq | heq
  · rw [heq]
  · rw [heq, removeObsoletePackets_bytesInFlight]

end QuicSentPacketManager

namespace Connection

variable {σ : Type} [SendAlgorithmInterface σ] {c c' : Connection σ} {op : Operation} {n : Nat}
  {info : QuicTransmissionInfo}

def AcksFlight (c : Connection σ) : Operation → Prop
  | .ack packetNumber _ _ => c.map.InFlight packetNumber
  | _ => True

instance (c : Connection σ) : ∀ op : Operation, Decidable (c.AcksFlight op)
  | .ack packetNumber _ _ => inferInstanceAs (Decidable (c.map.InFlight packetNumber))
  | .send _ _ => .isTrue trivial
  | .timeout _ => .isTrue trivial

def sweptBytes (c : Connection σ) : Operation → Nat
  | .timeout _ =>
      match c.manager.getRetransmissionMode with
      | .rtoMode => c.map.bytesInFlight
      | .lossMode => 0
  | _ => 0

/-! ## Repeated acks -/

omit [SendAlgorithmInterface σ] in
/-- A slot above one that the detection leaves in flight is as it was. -/
theorem detect_info?_of_lt {m : QuicSentPacketManager σ} {time : Int} {L k : Nat}
    (hsurvives : (m.detect time L).unackedPackets.InFlight k) (hlt : k < n)
    (hi : (m.detect time L).unackedPackets.info? n = some info) :
    m.unackedPackets.info? n = some info := by
  have hnot : n ∉ (m.lossAlgorithm.rule m.rttStats time L).lostNumbers m.unackedPackets := by
    intro hmem
    obtain ⟨hflight, hkept⟩ := detect_inFlight.mp hsurvives
    exact hkept (LossRule.mem_lostNumbers_of_lt_lost hmem hflight hlt)
  simp only [detect] at hi
  rw [settleAll_info?_of_not_mem (fun _ => LossRule.lostNumbers_info) hnot] at hi
  exact hi

/-- A slot out of flight was so before, or the operation has just acked it. -/
theorem Outcome.acked_of_info? (h : c.AtRest) (ho : c.Outcome op c')
    (hi : c'.map.info? n = some info) (hf : info.inFlight = false) :
    op.acked? = some n ∨ ∃ old, c.map.info? n = some old ∧ old.inFlight = false := by
  -- The front of the deque is in flight, so the slot is behind it.
  obtain ⟨front, hfront, hflight⟩ :=
    (ho.atRest h).manager.front (lt_of_le_of_lt (range_of_info hi).1 (range_of_info hi).2)
  have hlt : c'.map.leastUnacked < n := by
    have hle := (range_of_info hi).1
    have hne : c'.map.leastUnacked ≠ n := by
      intro heq
      rw [heq] at hfront
      cases hi.symm.trans hfront
      rw [hf] at hflight
      cases hflight
    omega
  cases ho with
  | send length sendTime =>
      change (c.map.addSentPacket _ _ true).info? n = some info at hi
      rw [addSentPacket_info? h.next.symm] at hi
      split at hi
      · cases hi
        simp [sentInfo] at hf
      · exact .inr ⟨info, hi, hf⟩
  | @ack k old hk ackReceiveTime now =>
      have hmid := detect_info?_of_lt ⟨front, afterAck_info? hfront, hflight⟩ hlt
        (afterAck_info? hi)
      simp only [acknowledge] at hmid
      rw [settle_info? hk] at hmid
      split at hmid
      · rename_i hnk
        left
        rw [hnk]
        rfl
      · exact .inr ⟨info, hmid, hf⟩
  | @lossTimeout L harmed hL now =>
      have hmid := detect_info?_of_lt ⟨front, afterLossTimeout_info? hfront, hflight⟩ hlt
        (afterLossTimeout_info? hi)
      exact .inr ⟨info, hmid, hf⟩
  | rto hidle now =>
      change c.map.emptied.info? n = some info at hi
      simp at hi

/-- Every slot out of flight is among the packets acked so far. -/
structure AckedSoFar (c : Connection σ) (ops : List Operation) : Prop where
  atRest : c.AtRest
  acked : ∀ n info, c.map.info? n = some info → info.inFlight = false →
    n ∈ Operation.ackedNumbers ops

theorem AckedSoFar.step {ops : List Operation} (h : c.AckedSoFar ops) (hs : step c op = .ok c') :
    c'.AckedSoFar (ops ++ [op]) := by
  have ho := step_outcome h.atRest hs
  refine ⟨ho.atRest h.atRest, fun n info hi hf => ?_⟩
  rw [Operation.ackedNumbers_append, List.mem_append]
  rcases ho.acked_of_info? h.atRest hi hf with hop | ⟨old, hold, hof⟩
  · exact .inr (by simp [Operation.ackedNumbers, hop])
  · exact .inl (h.acked n old hold hof)

theorem exec_ackedSoFar {sendAlgorithm : σ} {ops : List Operation}
    (hrun : exec (create sendAlgorithm) ops = .ok c) : c.AckedSoFar ops := by
  have hcreate : (create sendAlgorithm).AckedSoFar [] :=
    ⟨create_atRest sendAlgorithm, by simp [create, info?]⟩
  exact PartialRun.invariant_inputs (fun _ _ _ _ h hs => h.step hs) hcreate hrun

/-- Without a second ack of one packet, every ack names a packet in flight. -/
theorem along_acksFlight {sendAlgorithm : σ} {ops : List Operation}
    (hrun : exec (create sendAlgorithm) ops = .ok c) (hnodup : (Operation.ackedNumbers ops).Nodup) :
    Along AcksFlight (create sendAlgorithm) ops := by
  apply PartialRun.along_iff_prefix.mpr
  intro pre op post m hsplit hpre
  subst ops
  obtain ⟨m', hpre', hrest⟩ := PartialRun.exec_append_ok hrun
  cases hpre.symm.trans hpre'
  obtain ⟨next, hs, _⟩ := PartialRun.exec_cons_ok hrest
  cases step_outcome (exec_atRest hpre) hs with
  | @ack n info hi ackReceiveTime now =>
      cases hf : info.inFlight with
      | true => exact ⟨info, hi, hf⟩
      | false =>
          have hmem := (exec_ackedSoFar hpre).acked n info hi hf
          rw [Operation.ackedNumbers_append, List.nodup_append] at hnodup
          have hack : n ∈ Operation.ackedNumbers (.ack n ackReceiveTime now :: post) := by
            simp [Operation.ackedNumbers, Operation.acked?]
          exact absurd rfl (hnodup.2.2 n hmem n hack)
  | _ => trivial

/-! ## The ledger -/

variable [SamplesBandwidth σ]

/-- The bytes that are in flight or that the sampler counts as acked or lost. -/
def accountedBytes (c : Connection σ) : Nat :=
  c.map.bytesInFlight + c.manager.accounts.totalBytesAcked + c.manager.accounts.totalBytesLost

theorem Mirrored.creditedBytes (h : c.Mirrored) (hi : c.map.info? n = some info) (bytes : Nat)
    (now : Int) : c.manager.accounts.creditedBytes [⟨n, bytes, now⟩] = info.bytesSent := by
  rw [SamplerAccounts.creditedBytes_cons, h.size? hi]
  rfl

/-- A step moves bytes between the accounts, takes in what it sends and drops what it
sweeps. -/
theorem Outcome.accountedBytes (h : c.AtRest) (hm : c.Mirrored) (hf : c.AcksFlight op)
    (ho : c.Outcome op c') :
    c'.accountedBytes + c.sweptBytes op + c.manager.accounts.totalBytesSent =
        c.accountedBytes + c'.manager.accounts.totalBytesSent ∧
      c'.manager.accounts.totalBytesNeutered = c.manager.accounts.totalBytesNeutered := by
  cases ho with
  | send length sendTime =>
      obtain ⟨e, haccounts, _⟩ := send_accounts (c := c) length sendTime
      have hbytes : (c.send length sendTime).map.bytesInFlight =
          c.map.bytesInFlight + length.bytes := addSentPacket_bytesInFlight
      simp only [Connection.accountedBytes, haccounts, hbytes, sweptBytes]
      exact ⟨by omega, trivial⟩
  | @ack n info hi ackReceiveTime now =>
      rcases hf with ⟨info', hi', hflight⟩
      cases hi.symm.trans hi'
      have hevent := ackEvent_bytesInFlight h.manager.map hi hflight ackReceiveTime now
      have hbytes : (c.manager.afterAck n info ackReceiveTime now).unackedPackets.bytesInFlight =
          (c.manager.ackEvent n info ackReceiveTime now).unackedPackets.bytesInFlight := by
        simp [afterAck]
      simp only [Connection.accountedBytes, Connection.map, hbytes, afterAck_accounts,
        SamplerAccounts.record, SamplerAccounts.debit, SamplerAccounts.credit, SamplerAccounts.trim,
        hm.creditedBytes hi, sweptBytes]
      exact ⟨by omega, trivial⟩
  | @lossTimeout L harmed hL now =>
      have hevent := lossTimeoutEvent_bytesInFlight (L := L) h.manager.map now
      have hbytes : (c.manager.afterLossTimeout L now).unackedPackets.bytesInFlight =
          (c.manager.lossTimeoutEvent L now).unackedPackets.bytesInFlight := by
        simp [afterLossTimeout]
      have hmode : c.manager.getRetransmissionMode = .lossMode := if_pos harmed
      have hnone : ∀ a : SamplerAccounts, a.creditedBytes [] = 0 := fun _ => rfl
      simp only [Connection.accountedBytes, Connection.map, hbytes, sweptBytes, hmode]
      rcases afterLossTimeout_accounts (L := L) h.manager now with heq | heq
      · simp only [heq, SamplerAccounts.record, SamplerAccounts.debit, SamplerAccounts.credit,
          hnone]
        exact ⟨by omega, trivial⟩
      · simp only [heq, SamplerAccounts.record, SamplerAccounts.debit, SamplerAccounts.credit,
          SamplerAccounts.trim, hnone]
        exact ⟨by omega, trivial⟩
  | rto hidle now =>
      have hmode : c.manager.getRetransmissionMode = .rtoMode :=
        if_neg (not_not_intro hidle)
      have haccounts : c.manager.afterRto.accounts = c.manager.accounts := rfl
      have hbytes : c.manager.afterRto.unackedPackets.bytesInFlight = 0 := rfl
      simp only [Connection.accountedBytes, Connection.map, haccounts, hbytes, sweptBytes, hmode]
      exact ⟨by omega, trivial⟩

def sweptTotal (c : Connection σ) (ops : List Operation) : Nat :=
  PartialRun.observed step (fun swept c op _ => swept + c.sweptBytes op) c 0 ops

/-- The manager is at rest and the sampler in line with its map. -/
structure Synced (c : Connection σ) : Prop where
  atRest : c.AtRest
  mirrored : c.Mirrored

theorem createBbr_synced (now : Int) (stream : Nat → Nat) : (createBbr σ now stream).Synced :=
  ⟨create_atRest _, createBbr_mirrored now stream⟩

theorem Synced.step (h : c.Synced) (hs : step c op = .ok c') : c'.Synced := by
  have ho := step_outcome h.atRest hs
  exact ⟨ho.atRest h.atRest, ho.mirrored h.atRest h.mirrored⟩

theorem exec_synced {now : Int} {stream : Nat → Nat} {ops : List Operation}
    (hrun : exec (createBbr σ now stream) ops = .ok c) : c.Synced :=
  PartialRun.invariant (fun _ _ _ h hs => h.step hs) (createBbr_synced now stream) hrun

/-- The books of a connection between two operations, after `swept` bytes were dropped. -/
structure Audited (c : Connection σ) (swept : Nat) : Prop extends c.Synced where
  ledger : c.accountedBytes + swept = c.manager.accounts.totalBytesSent
  neutered : c.manager.accounts.totalBytesNeutered = 0

theorem createBbr_audited (now : Int) (stream : Nat → Nat) :
    (createBbr σ now stream).Audited 0 := by
  have haccounts : (createBbr σ now stream).manager.accounts = {} := createBbr_accounts now stream
  refine ⟨createBbr_synced now stream, ?_, by rw [haccounts]⟩
  simp only [Connection.accountedBytes, haccounts]
  rfl

theorem Audited.step {swept : Nat} (h : c.Audited swept) (hf : c.AcksFlight op)
    (hs : step c op = .ok c') : c'.Audited (swept + c.sweptBytes op) := by
  have ho := step_outcome h.atRest hs
  obtain ⟨hbytes, hneutered⟩ := ho.accountedBytes h.atRest h.mirrored hf
  have hledger := h.ledger
  exact ⟨h.toSynced.step hs, by omega, hneutered.trans h.neutered⟩

/-- The books balance after every run whose acks name packets in flight. -/
theorem exec_audited {now : Int} {stream : Nat → Nat} {ops : List Operation}
    (hrun : exec (createBbr σ now stream) ops = .ok c)
    (hf : Along AcksFlight (createBbr σ now stream) ops) :
    c.Audited (sweptTotal (createBbr σ now stream) ops) :=
  PartialRun.invariant_observed (fun _ _ _ _ h hf hs => h.step hf hs) (createBbr_audited now stream)
    hf hrun

end Connection

end BbrChrome
