import BbrChrome.Quic.ByteLedger

/-!
# Credits for acks

The sampler adds the size of a packet to its acked bytes each time the packet is acked
while it has a slot. Nothing on the way tells a second ack from the first.
-/

namespace BbrChrome

open QuicUnackedPacketMap QuicSentPacketManager

namespace Connection

variable {σ : Type} [SendAlgorithmInterface σ] [SamplesBandwidth σ] {c c' : Connection σ}
  {op : Operation}

abbrev totalBytesAcked (c : Connection σ) : Nat := c.manager.accounts.totalBytesAcked

abbrev totalBytesSent (c : Connection σ) : Nat := c.manager.accounts.totalBytesSent

/-- The packet whose ack made `total_bytes_acked_` grow in a step, if it grew. -/
def credited? (c : Connection σ) (op : Operation) (c' : Connection σ) : Option Nat :=
  if c.totalBytesAcked < c'.totalBytesAcked then op.acked? else none

/-- The packets whose bytes a run adds to `total_bytes_acked_`, one entry for each addition. -/
def creditHistory (c : Connection σ) (ops : List Operation) : List Nat :=
  PartialRun.observed step (fun history c op c' => history ++ (c.credited? op c').toList) c [] ops

/-- Every packet is credited at most once, and no more is acked than was sent. -/
structure CountedOnce (c : Connection σ) (ops : List Operation) : Prop where
  once : (c.creditHistory ops).Nodup
  bounded : ∀ pre post c', ops = pre ++ post → exec c pre = .ok c' →
    c'.totalBytesAcked ≤ c'.totalBytesSent

/-- Each ack whose slot is there is a credit, whatever was acked before. -/
theorem Outcome.credited?_eq (h : c.AtRest) (hm : c.Mirrored) (ho : c.Outcome op c') :
    c.credited? op c' = op.acked? := by
  cases ho with
  | @ack n info hi ackReceiveTime now =>
      have hpos : 0 < info.bytesSent := (h.manager.map.slot n info hi).pos
      apply if_pos
      simp only [totalBytesAcked, afterAck_accounts, SamplerAccounts.record, SamplerAccounts.debit,
        SamplerAccounts.credit, SamplerAccounts.trim, hm.creditedBytes hi]
      omega
  | _ => simp [credited?, Operation.acked?]

/-- A run without faults credits exactly what it acks. -/
theorem creditHistory_eq (h : c.Synced) {ops : List Operation} (hrun : exec c ops = .ok c') :
    c.creditHistory ops = Operation.ackedNumbers ops := by
  have hfold : ∀ history, PartialRun.observed step
      (fun history c op c' => history ++ (c.credited? op c').toList) c history ops =
        history ++ Operation.ackedNumbers ops := by
    induction ops generalizing c with
    | nil => simp [PartialRun.observed, Operation.ackedNumbers]
    | cons op ops ih =>
        intro history
        obtain ⟨next, hs, hrest⟩ := PartialRun.exec_cons_ok hrun
        have hcredit := (step_outcome h.atRest hs).credited?_eq h.atRest h.mirrored
        rw [PartialRun.observed_cons_of_ok hs, ih (h.step hs) hrest, hcredit]
        cases hop : op.acked? <;> simp [Operation.ackedNumbers, hop]
  exact hfold []

/-- A packet's size is added to the acked bytes at most once, and these never exceed the
bytes sent, exactly when no packet is acked twice. -/
theorem counted_once_iff (now : Int) (stream : Nat → Nat) (ops : List Operation)
    (hrun : exec (createBbr σ now stream) ops = .ok c) :
    CountedOnce (createBbr σ now stream) ops ↔ (Operation.ackedNumbers ops).Nodup := by
  constructor
  · intro h
    have hnodup := h.once
    rw [creditHistory_eq (createBbr_synced now stream) hrun] at hnodup
    exact hnodup
  · intro hnodup
    have hcredited := creditHistory_eq (createBbr_synced now stream) hrun
    refine ⟨hcredited ▸ hnodup, fun pre post c' hsplit hpre => ?_⟩
    subst ops
    rw [Operation.ackedNumbers_append] at hnodup
    have hflight := along_acksFlight hpre (List.nodup_append.mp hnodup).1
    have hledger := (exec_audited hpre hflight).ledger
    unfold accountedBytes at hledger
    change c'.manager.accounts.totalBytesAcked ≤ c'.manager.accounts.totalBytesSent
    omega

/-- The sends and acks of a run in which packet 2 is echoed three times behind packet 1. -/
def echoedThrice : List Operation :=
  [.send defaultPacketLength 1000, .send defaultPacketLength 1001, .ack 2 2000 2001,
    .ack 2 2100 2101, .ack 2 2200 2201]

theorem counted_once_iff_of_reorderedRun :
    CountedOnce (createBbr Bbr2Sender 1 fun _ => 0) reorderedRun := by
  obtain ⟨c, hrun, _⟩ := PartialRun.exists_of_endsIn (p := fun _ => true)
    (r := exec (createBbr Bbr2Sender 1 fun _ => 0) reorderedRun) (by decide +kernel)
  exact (counted_once_iff 1 _ _ hrun).mpr (by decide)

/-- Three echoes of one packet of 1472 bytes are credited with 4416 bytes, out of 2944 sent. -/
theorem echoes_counted_thrice :
    ∃ c, exec (createBbr Bbr2Sender 1 fun _ => 0) echoedThrice = .ok c ∧
      creditHistory (createBbr Bbr2Sender 1 fun _ => 0) echoedThrice = [2, 2, 2] ∧
      c.totalBytesSent < c.totalBytesAcked := by
  obtain ⟨c, hrun, hless⟩ := PartialRun.exists_of_endsIn
    (p := fun c : Connection Bbr2Sender => c.totalBytesSent < c.totalBytesAcked)
    (r := exec (createBbr Bbr2Sender 1 fun _ => 0) echoedThrice) (by decide +kernel)
  exact ⟨c, hrun, by decide +kernel, of_decide_eq_true hless⟩

end Connection

end BbrChrome
