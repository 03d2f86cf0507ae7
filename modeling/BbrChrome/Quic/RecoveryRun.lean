import BbrChrome.Congestion.LossRecovery
import BbrChrome.Quic.SenderRun

/-!
# The run of BBRv1 in a connection

A connection numbers its packets in order and reports acks of sent packets only. Its loss timer
reports losses without acks.
-/

namespace BbrChrome

open QuicUnackedPacketMap QuicSentPacketManager

def CongestionCall.bbrCall (call : CongestionCall BbrSender) : BbrCall :=
  .congestionEvent call.manager.rttStats call.manager.unackedPackets call.priorInFlight
    call.eventTime call.manager.packetsAcked call.manager.packetsLost

namespace Connection

def bbrCall? (c : Connection BbrSender) : Operation → Option BbrCall
  | .send length sendTime =>
      some (.packetSent sendTime c.map.bytesInFlight (c.recentPacketNumber + 1) length.bytes)
  | op => (c.report? op).map (·.bbrCall)

def bbrCalls (c : Connection BbrSender) (ops : List Operation) : List BbrCall :=
  PartialRun.observed step (fun calls c op _ => calls ++ (c.bbrCall? op).toList) c [] ops

variable {c c' : Connection BbrSender} {op : Operation} {calls : List BbrCall}

theorem Synced.step_bbrSender (h : c.Synced) (hs : Connection.step c op = .ok c') :
    c'.sender = (c.bbrCall? op).elim c.sender c.sender.call := by
  have hreported : (c.report? op).elim c.sender (·.nextSender) =
      ((c.report? op).map (·.bbrCall)).elim c.sender c.sender.call := by
    cases hreport : c.report? op with
    | none => rfl
    | some call =>
        change call.nextSender = c.sender.call call.bbrCall
        rw [← h.report_sender hs hreport]
        rfl
  rw [h.step_nextSender hs fun _ _ => rfl]
  cases op with
  | send => rfl
  | ack => exact hreported
  | timeout => exact hreported

/-- The sender is in the run of the calls, which number the packets sent so far. -/
structure BbrRun (start : BbrSender) (c : Connection BbrSender) (calls : List BbrCall) : Prop where
  synced : c.Synced
  sender : c.sender = start.run calls
  sent : ∀ n, n ∈ sentPackets calls ↔ 1 ≤ n ∧ n ≤ c.recentPacketNumber
  orderly : Orderly [] calls

theorem Synced.report_acked (h : c.Synced) (hs : Connection.step c op = .ok c')
    {call : CongestionCall BbrSender} (hreport : c.report? op = some call) :
    ∀ p ∈ call.manager.packetsAcked,
      1 ≤ p.packetNumber ∧ p.packetNumber ≤ c.recentPacketNumber := by
  have hcall := congestionCall_of_report hreport
  cases step_outcome h.atRest hs with
  | send => cases hcall
  | @ack n info hi ackReceiveTime now =>
      rw [congestionCall_of_info h.atRest hi] at hcall
      cases hcall
      intro p hp
      cases List.mem_singleton.mp hp
      have hrange := range_of_info hi
      have hleast : 1 ≤ c.map.leastUnacked := h.atRest.manager.least
      rw [h.atRest.next] at hrange
      change 1 ≤ n ∧ n ≤ c.recentPacketNumber
      omega
  | @lossTimeout L harmed hL now =>
      rw [congestionCall_of_armed h.atRest harmed hL] at hcall
      cases hcall
      intro p hp
      have hnone : (c.manager.lossTimeoutEvent L now).packetsAcked = [] :=
        h.atRest.manager.packetsAcked
      rw [hnone] at hp
      cases hp
  | rto hidle now =>
      have hmode : c.manager.getRetransmissionMode = .rtoMode := if_neg (not_not_intro hidle)
      simp [congestionCall, hmode] at hcall

theorem Synced.bbrCall_acked (h : c.Synced) (hs : Connection.step c op = .ok c') {b : BbrCall}
    (hb : c.bbrCall? op = some b) :
    ∀ n ∈ b.lastAcked?, 1 ≤ n ∧ n ≤ c.recentPacketNumber := by
  have hreported : (c.report? op).map (·.bbrCall) = some b →
      ∀ n ∈ b.lastAcked?, 1 ≤ n ∧ n ≤ c.recentPacketNumber := by
    intro hsome n hn
    obtain ⟨call, hreport, rfl⟩ := Option.map_eq_some_iff.mp hsome
    obtain ⟨p, hp, rfl⟩ := Option.map_eq_some_iff.mp hn
    exact h.report_acked hs hreport p (List.mem_of_getLast? hp)
  cases op with
  | send =>
      cases hb
      exact nofun
  | ack => exact hreported hb
  | timeout => exact hreported hb

theorem Synced.bbrCall_sent (h : c.Synced) (hs : Connection.step c op = .ok c') :
    (∃ b, c.bbrCall? op = some b ∧ b.sentPacket? = some (c.recentPacketNumber + 1) ∧
        c'.recentPacketNumber = c.recentPacketNumber + 1) ∨
      (∀ b, c.bbrCall? op = some b → b.sentPacket? = none) ∧
        c'.recentPacketNumber = c.recentPacketNumber := by
  have hreported : ∀ b, (c.report? op).map (·.bbrCall) = some b → b.sentPacket? = none := by
    intro b hsome
    obtain ⟨call, _, rfl⟩ := Option.map_eq_some_iff.mp hsome
    rfl
  cases step_outcome h.atRest hs with
  | send length sendTime => exact .inl ⟨_, rfl, rfl, rfl⟩
  | ack => exact .inr ⟨hreported, rfl⟩
  | lossTimeout => exact .inr ⟨hreported, rfl⟩
  | rto => exact .inr ⟨hreported, rfl⟩

theorem BbrRun.step {start : BbrSender} (h : BbrRun start c calls)
    (hs : Connection.step c op = .ok c') :
    BbrRun start c' (calls ++ (c.bbrCall? op).toList) := by
  have hsynced := h.synced.step hs
  have hsender := h.synced.step_bbrSender hs
  have hacked : ∀ b, c.bbrCall? op = some b →
      ∀ n ∈ b.lastAcked?, 1 ≤ n ∧ n ≤ c.recentPacketNumber :=
    fun _ hb => h.synced.bbrCall_acked hs hb
  have hsent := h.synced.bbrCall_sent hs
  cases hb : c.bbrCall? op with
  | none =>
      rw [hb] at hsender hsent
      simp only [Option.elim, reduceCtorEq, false_and, exists_false, false_or, false_implies,
        implies_true, true_and] at hsender hsent
      rw [Option.toList_none, List.append_nil]
      refine ⟨hsynced, hsender.trans h.sender, ?_, h.orderly⟩
      rw [hsent]
      exact h.sent
  | some b =>
      rw [hb] at hsender
      have hacked := hacked b hb
      rw [Option.toList_some]
      refine ⟨hsynced, ?_, ?_, ?_⟩
      · rw [BbrSender.run_append, ← h.sender]
        exact hsender
      · intro n
        rw [sentPackets_concat, List.mem_append, h.sent]
        rcases hsent with ⟨b', hb', hnumber, hrecent⟩ | ⟨hnone, hrecent⟩
        · cases hb.symm.trans hb'
          simp only [hnumber, Option.toList_some, List.mem_singleton]
          omega
        · simp [hnone b hb, hrecent]
      · rw [orderly_append]
        refine ⟨h.orderly, ?_, ?_, trivial⟩
        · intro n hn m hm
          have hm := (h.sent m).mp hm
          rcases hsent with ⟨b', hb', hnumber, hrecent⟩ | ⟨hnone, hrecent⟩
          · cases hb.symm.trans hb'
            cases hnumber.symm.trans hn
            omega
          · exact nomatch (hnone b hb).symm.trans hn
        · intro n hn
          exact (h.sent n).mpr (hacked n hn)

/-- The sender of a connection is in an orderly run of its own. -/
theorem exec_bbrRun {now : Int} {stream : Nat → Nat} {ops : List Operation}
    (hrun : exec (bbrConnection now stream) ops = .ok c) :
    BbrRun (bbrConnection now stream).sender c ((bbrConnection now stream).bbrCalls ops) := by
  have hstart : BbrRun (bbrConnection now stream).sender (bbrConnection now stream) [] :=
    ⟨createBbr_synced now stream, rfl, by
      intro n
      change n ∈ [] ↔ 1 ≤ n ∧ n ≤ 0
      simp only [List.not_mem_nil, false_iff]
      omega, trivial⟩
  have hany : PartialRun.Along Connection.step (fun _ _ => True) (bbrConnection now stream) ops :=
    PartialRun.along_iff_prefix.mpr fun _ _ _ _ _ _ => trivial
  have hstep : ∀ c calls op c', BbrRun (bbrConnection now stream).sender c calls → True →
      Connection.step c op = .ok c' →
      BbrRun (bbrConnection now stream).sender c' (calls ++ (c.bbrCall? op).toList) :=
    fun _ _ _ _ h _ hs => h.step hs
  exact PartialRun.invariant_observed hstep hstart hany hrun

omit c c' op calls in
theorem bbrCalls_concat {c d d' : Connection BbrSender} {ops : List Operation} {op : Operation}
    (hrun : exec c ops = .ok d) (hs : Connection.step d op = .ok d') :
    c.bbrCalls (ops ++ [op]) = c.bbrCalls ops ++ (d.bbrCall? op).toList := by
  unfold bbrCalls
  rw [PartialRun.observed_append hrun, PartialRun.observed_cons_of_ok hs]
  rfl

/-- The ack of packet 10 reports two losses, the loss timer the other two after packet 11 was
sent, and the ack of packet 11 ends the recovery. -/
theorem recovery_left_within_lossy_round :
    let start := bbrConnection 1 fun _ => 0
    let before := (List.range 5).flatMap (fun (i : Nat) => roundTrip (i + 1) (2000 * i + 1)) ++
      [.send defaultPacketLength 20001, .send defaultPacketLength 20101,
        .send defaultPacketLength 20201, .send defaultPacketLength 20301,
        .send defaultPacketLength 20401, .ack 10 21401 21401, .send defaultPacketLength 21501,
        .timeout 21701]
    ¬ start.sender.LeavesAfterCleanRounds (start.bbrCalls (before ++ [.ack 11 22501 22501])) := by
  intro start before hall
  obtain ⟨d, hbefore, hd⟩ := PartialRun.exists_of_endsIn (r := exec start before)
    (p := fun d => (d.bbrCall? (.ack 11 22501 22501)).any fun b =>
      PartialRun.endsIn (fun _ => true) (step d (.ack 11 22501 22501)) &&
        decide ((start.sender.run (start.bbrCalls before)).LeavesRecovery b ∧
          ¬ BbrSender.AfterCleanRound (start.bbrCalls before) b)) (by decide +kernel)
  obtain ⟨b, hb, hd⟩ := (Option.any_eq_true _ _).mp hd
  rw [Bool.and_eq_true, decide_eq_true_eq] at hd
  obtain ⟨hends, hleaves, hdirty⟩ := hd
  obtain ⟨d', hs, _⟩ := PartialRun.exists_of_endsIn hends
  have hcalls := bbrCalls_concat hbefore hs
  rw [hb] at hcalls
  exact hdirty (hall (start.bbrCalls before) b [] hcalls hleaves)

end Connection

end BbrChrome
