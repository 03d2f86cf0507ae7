import BbrChrome.Quic.ByteLedger

/-!
# The conservation law of the send-time snapshots

A snapshot takes its bytes in flight from the packet map and its totals from the
sampler. The sweep of a retransmission timeout changes only the former.
-/

namespace BbrChrome

open QuicUnackedPacketMap QuicSentPacketManager

/-- The law in the comment on `SendTimeState::bytes_in_flight`. -/
def SendTimeState.Conserves (state : SendTimeState) (neuteredBytes : Nat) : Prop :=
  (state.bytesInFlight : Int) =
    state.totalBytesSent - (state.totalBytesAcked + state.totalBytesLost + neuteredBytes)

instance (state : SendTimeState) (neuteredBytes : Nat) :
    Decidable (state.Conserves neuteredBytes) := by
  unfold SendTimeState.Conserves
  infer_instance

namespace Connection

variable {σ : Type} [SendAlgorithmInterface σ] [SamplesBandwidth σ] {c : Connection σ}

/-- The snapshot that the sampler holds of a packet. -/
def snapshot? (c : Connection σ) (packetNumber : Nat) : Option SendTimeState :=
  (c.manager.accounts.connectionStateMap.getEntry (.number packetNumber)).map (·.sendTimeState)

/-- The packet sent next gets a snapshot that keeps the law. -/
def SendConserves (c : Connection σ) (length : PacketLength) (sendTime : Int) : Prop :=
  ∃ state, (c.send length sendTime).snapshot? (c.recentPacketNumber + 1) = some state ∧
    state.Conserves (c.send length sendTime).manager.accounts.totalBytesNeutered

instance (c : Connection σ) (length : PacketLength) (sendTime : Int) :
    Decidable (c.SendConserves length sendTime) :=
  decidable_of_iff (((c.send length sendTime).snapshot? (c.recentPacketNumber + 1)).any
      fun state => state.Conserves
        (c.send length sendTime).manager.accounts.totalBytesNeutered) (by
    unfold SendConserves
    cases (c.send length sendTime).snapshot? (c.recentPacketNumber + 1) <;> simp)

def SweepsFlight (c : Connection σ) : Operation → Prop
  | .timeout _ => c.manager.getRetransmissionMode = .rtoMode ∧ 0 < c.map.bytesInFlight
  | _ => False

omit [SendAlgorithmInterface σ] [SamplesBandwidth σ] in
theorem sweptBytes_eq_zero_iff {op : Operation} : c.sweptBytes op = 0 ↔ ¬ c.SweepsFlight op := by
  cases op with
  | timeout now =>
      cases hmode : c.manager.getRetransmissionMode <;> simp [sweptBytes, SweepsFlight, hmode]
  | _ => simp [sweptBytes, SweepsFlight]

theorem Synced.snapshot?_send (h : c.Synced) (length : PacketLength) (sendTime : Int) :
    ∃ state, (c.send length sendTime).snapshot? (c.recentPacketNumber + 1) = some state ∧
      state.totalBytesSent = c.manager.accounts.totalBytesSent + length.bytes ∧
      state.totalBytesAcked = c.manager.accounts.totalBytesAcked ∧
      state.totalBytesLost = c.manager.accounts.totalBytesLost ∧
      state.bytesInFlight = c.map.bytesInFlight + length.bytes := by
  obtain ⟨e, haccounts, _, hstate⟩ := send_accounts (c := c) length sendTime
  rcases h.mirrored with ⟨first, entries, hdense, hend, _⟩
  have hnumber : c.recentPacketNumber + 1 = first + entries.length := by rw [hend, h.atRest.next]
  refine ⟨e.sendTimeState, ?_, hstate⟩
  rw [snapshot?, haccounts, (hdense.emplace hnumber).getEntry (by omega),
    List.getElem?_append_right (by omega),
    show c.recentPacketNumber + 1 - first - entries.length = 0 by omega]
  rfl

/-- The snapshot keeps the law exactly when nothing was swept before. -/
theorem Audited.sendConserves_iff {swept : Nat} (h : c.Audited swept) (length : PacketLength)
    (sendTime : Int) : c.SendConserves length sendTime ↔ swept = 0 := by
  obtain ⟨state, hstate, hsent, hacked, hlost, hflight⟩ := h.toSynced.snapshot?_send length sendTime
  have hneutered : (c.send length sendTime).manager.accounts.totalBytesNeutered = 0 := by
    obtain ⟨e, haccounts, _⟩ := send_accounts (c := c) length sendTime
    rw [haccounts]
    exact h.neutered
  have hledger := h.ledger
  unfold accountedBytes at hledger
  have hlaw : c.SendConserves length sendTime ↔ state.Conserves 0 := by
    unfold SendConserves
    rw [hstate, hneutered]
    simp
  rw [hlaw, SendTimeState.Conserves, hsent, hacked, hlost, hflight]
  change (((c.manager.unackedPackets.bytesInFlight + length.bytes : Nat) : Int) = _) ↔ _
  change c.manager.unackedPackets.bytesInFlight + _ + _ + _ = _ at hledger
  omega

/-- Every snapshot of a run without repeated acks keeps the law exactly when no packet is
sent after a retransmission timeout that found bytes in flight. -/
theorem snapshots_conserve_iff (now : Int) (stream : Nat → Nat) (ops : List Operation)
    (hnodup : (Operation.ackedNumbers ops).Nodup) :
    (∀ pre length sendTime post c, ops = pre ++ .send length sendTime :: post →
        exec (createBbr σ now stream) pre = .ok c → c.SendConserves length sendTime) ↔
      ∀ pre length sendTime post c, ops = pre ++ .send length sendTime :: post →
        exec (createBbr σ now stream) pre = .ok c →
        Along (fun c op => ¬ c.SweepsFlight op) (createBbr σ now stream) pre := by
  have hsend : ∀ pre length sendTime post c, ops = pre ++ .send length sendTime :: post →
      exec (createBbr σ now stream) pre = .ok c →
      (c.SendConserves length sendTime ↔
        Along (fun c op => ¬ c.SweepsFlight op) (createBbr σ now stream) pre) := by
    intro pre length sendTime post c hsplit hpre
    have hpreNodup : (Operation.ackedNumbers pre).Nodup := by
      rw [hsplit, Operation.ackedNumbers_append, List.nodup_append] at hnodup
      exact hnodup.1
    have haudit := exec_audited hpre (along_acksFlight hpre hpreNodup)
    rw [haudit.sendConserves_iff, sweptTotal, PartialRun.observed_add_eq_zero_iff hpre]
    simp only [true_and, sweptBytes_eq_zero_iff]
  constructor
  · intro h pre length sendTime post c hsplit hpre
    exact (hsend pre length sendTime post c hsplit hpre).mp
      (h pre length sendTime post c hsplit hpre)
  · intro h pre length sendTime post c hsplit hpre
    exact (hsend pre length sendTime post c hsplit hpre).mpr
      (h pre length sendTime post c hsplit hpre)

/-- A packet acked in time and a timeout with nothing in flight break no law. -/
theorem snapshots_conserve_iff_of_echo :
    (∀ pre length sendTime post c,
        [.send defaultPacketLength 1000, .ack 1 51000 51001, .timeout 900000,
          .send defaultPacketLength 900001] = pre ++ .send length sendTime :: post →
        exec (createBbr Bbr2Sender 1 fun _ => 0) pre = .ok c → c.SendConserves length sendTime) ↔
      ∀ pre length sendTime post c,
        [.send defaultPacketLength 1000, .ack 1 51000 51001, .timeout 900000,
          .send defaultPacketLength 900001] = pre ++ .send length sendTime :: post →
        exec (createBbr Bbr2Sender 1 fun _ => 0) pre = .ok c →
        Along (fun c op => ¬ c.SweepsFlight op) (createBbr Bbr2Sender 1 fun _ => 0) pre :=
  snapshots_conserve_iff 1 _ _ (by decide)

/-- Packet 1 is swept by a timeout, and the snapshot of packet 2 misses its bytes. -/
theorem snapshot_behind_sweep :
    (Operation.ackedNumbers [.send defaultPacketLength 1000, .timeout 900000,
        .send defaultPacketLength 900001]).Nodup ∧
      ∃ c, exec (createBbr Bbr2Sender 1 fun _ => 0)
          [.send defaultPacketLength 1000, .timeout 900000] = .ok c ∧
        ¬ c.SendConserves defaultPacketLength 900001 := by
  refine ⟨by decide, ?_⟩
  obtain ⟨c, hrun, hbreaks⟩ := PartialRun.exists_of_endsIn
    (p := fun c : Connection Bbr2Sender => ¬ c.SendConserves defaultPacketLength 900001)
    (r := exec (createBbr Bbr2Sender 1 fun _ => 0)
      [.send defaultPacketLength 1000, .timeout 900000]) (by decide +kernel)
  exact ⟨c, hrun, of_decide_eq_true hbreaks⟩

end Connection

end BbrChrome
