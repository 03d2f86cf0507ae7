import BbrChrome.Congestion.Bbr2Run
import BbrChrome.Quic.FlightRefinement

/-!
# The run of the sender in a connection

An operation makes at most one call of the sender, so that the sender of a connection is in a
run of its own.
-/

namespace BbrChrome

open QuicUnackedPacketMap QuicSentPacketManager

section Reports

variable {σ : Type}

instance (call : CongestionCall σ) : Decidable call.Reports :=
  decidable_of_iff ((call.rttUpdated || !call.manager.packetsAcked.isEmpty ||
    !call.manager.packetsLost.isEmpty) = true) (by
      simp [CongestionCall.Reports, or_assoc])

def CongestionCall.nextSender [SendAlgorithmInterface σ] (call : CongestionCall σ) : σ :=
  SendAlgorithmInterface.onCongestionEvent call.manager.sendAlgorithm call.manager.rttStats
    call.manager.unackedPackets call.rttUpdated call.priorInFlight call.eventTime
    call.manager.packetsAcked call.manager.packetsLost

namespace Connection

abbrev sender (c : Connection σ) : σ := c.manager.sendAlgorithm

/-- Send a packet and get it acked a millisecond later. -/
def roundTrip (packetNumber : Nat) (sendTime : Int) : List Operation :=
  [.send defaultPacketLength sendTime, .ack packetNumber (sendTime + 1000) (sendTime + 1000)]

def report? (c : Connection σ) (op : Operation) : Option (CongestionCall σ) :=
  match c.congestionCall op with
  | .ok (some call) => if call.Reports then some call else none
  | _ => none

def nextSender [SendAlgorithmInterface σ] (c : Connection σ) : Operation → σ
  | .send length sendTime =>
      SendAlgorithmInterface.onPacketSent c.sender sendTime c.map.bytesInFlight
        (c.recentPacketNumber + 1) length.bytes
  | op => (c.report? op).elim c.sender (·.nextSender)

variable {c c' : Connection σ} {op : Operation} {call : CongestionCall σ}

theorem congestionCall_of_report (hreport : c.report? op = some call) :
    c.congestionCall op = .ok (some call) := by
  unfold report? at hreport
  split at hreport
  · rename_i called hcall
    split at hreport
    · cases hreport
      exact hcall
    · cases hreport
  · cases hreport

variable [SendAlgorithmInterface σ] [SamplesBandwidth σ]

theorem Synced.congestionCall_sender (h : c.Synced) (hs : Connection.step c op = .ok c')
    (hcall : c.congestionCall op = .ok (some call)) : call.manager.sendAlgorithm = c.sender := by
  cases step_outcome h.atRest hs with
  | send => cases hcall
  | ack hi ackReceiveTime now =>
      rw [congestionCall_of_info h.atRest hi] at hcall
      cases hcall
      rfl
  | lossTimeout harmed hL now =>
      rw [congestionCall_of_armed h.atRest harmed hL] at hcall
      cases hcall
      rfl
  | rto hidle now =>
      have hmode : c.manager.getRetransmissionMode = .rtoMode := if_neg (not_not_intro hidle)
      simp [congestionCall, hmode] at hcall

theorem Synced.report_sender (h : c.Synced) (hs : Connection.step c op = .ok c')
    (hreport : c.report? op = some call) : call.manager.sendAlgorithm = c.sender :=
  h.congestionCall_sender hs (congestionCall_of_report hreport)

omit [SamplesBandwidth σ] in
theorem maybeInvokeCongestionEvent_sender
    (hrto : ∀ (s : σ) b, SendAlgorithmInterface.onRetransmissionTimeout s b = s)
    (call : CongestionCall σ) :
    ((call.manager.maybeInvokeCongestionEvent call.rttUpdated call.priorInFlight
        call.eventTime).resetConsecutiveRtoCount call.rttUpdated).sendAlgorithm =
      if call.Reports then call.nextSender else call.manager.sendAlgorithm := by
  have hreset : ∀ m : QuicSentPacketManager σ,
      (m.resetConsecutiveRtoCount call.rttUpdated).sendAlgorithm = m.sendAlgorithm := by
    intro m
    unfold resetConsecutiveRtoCount
    split
    · dsimp only
      split
      · exact hrto _ _
      · rfl
    · rfl
  rw [hreset]
  unfold maybeInvokeCongestionEvent
  by_cases hreports : call.Reports
  · have hsome : ¬ (!call.rttUpdated && call.manager.packetsAcked.isEmpty &&
        call.manager.packetsLost.isEmpty) = true := by
      intro hnone
      simp only [Bool.and_eq_true, Bool.not_eq_true', List.isEmpty_iff] at hnone
      obtain ⟨⟨hrtt, hacked⟩, hlost⟩ := hnone
      rcases hreports with hreports | hreports | hreports
      · rw [hrtt] at hreports
        cases hreports
      · exact hreports hacked
      · exact hreports hlost
    rw [if_neg hsome, if_pos hreports]
    rfl
  · have hnone : (!call.rttUpdated && call.manager.packetsAcked.isEmpty &&
        call.manager.packetsLost.isEmpty) = true := by
      simpa [CongestionCall.Reports, and_assoc] using hreports
    rw [if_pos hnone, if_neg hreports]

/-- A sender that ignores retransmission timeouts hears of sent packets and reported events. -/
theorem Synced.step_nextSender (h : c.Synced) (hs : Connection.step c op = .ok c')
    (hrto : ∀ (s : σ) b, SendAlgorithmInterface.onRetransmissionTimeout s b = s) :
    c'.sender = c.nextSender op := by
  have hreported : ∀ call, c.congestionCall op = .ok (some call) →
      c'.sender = (c.report? op).elim c.sender (·.nextSender) := by
    intro call hcall
    have hsame := h.congestionCall_sender hs hcall
    have hstep := step_of_congestionCall hcall
    rw [hs] at hstep
    cases hstep
    simp only [report?, hcall]
    rw [← hsame]
    apply (maybeInvokeCongestionEvent_sender hrto call).trans
    split
    · rfl
    · rfl
  cases step_outcome h.atRest hs with
  | send => rfl
  | ack hi ackReceiveTime now => exact hreported _ (congestionCall_of_info h.atRest hi _ _)
  | lossTimeout harmed hL now => exact hreported _ (congestionCall_of_armed h.atRest harmed hL _)
  | rto hidle now =>
      have hmode : c.manager.getRetransmissionMode = .rtoMode := if_neg (not_not_intro hidle)
      have hnone : c.report? (.timeout now) = none := by
        simp [report?, congestionCall, hmode]
      change _ = (c.report? (.timeout now)).elim c.sender (·.nextSender)
      rw [hnone]
      rfl

end Connection

end Reports

/-! ## The run of BBRv2 -/

def CongestionCall.senderCall (call : CongestionCall Bbr2Sender) : Bbr2Call :=
  .congestionEvent call.manager.unackedPackets.leastUnacked call.priorInFlight call.eventTime
    call.manager.packetsAcked call.manager.packetsLost

namespace Connection

def senderCall? (c : Connection Bbr2Sender) : Operation → Option Bbr2Call
  | .send length sendTime =>
      some (.packetSent sendTime c.map.bytesInFlight (c.recentPacketNumber + 1) length.bytes)
  | op => (c.report? op).map (·.senderCall)

variable {c c' : Connection Bbr2Sender} {op : Operation} {call : CongestionCall Bbr2Sender}

/-- The sender after an operation is the one that its call makes. -/
theorem Synced.step_sender (h : c.Synced) (hs : Connection.step c op = .ok c') :
    c'.sender = (c.senderCall? op).elim c.sender c.sender.call := by
  have hreported : (c.report? op).elim c.sender (·.nextSender) =
      ((c.report? op).map (·.senderCall)).elim c.sender c.sender.call := by
    cases hreport : c.report? op with
    | none => rfl
    | some call =>
        change call.nextSender = c.sender.call call.senderCall
        rw [← h.report_sender hs hreport]
        rfl
  rw [h.step_nextSender hs fun _ _ => rfl]
  cases op with
  | send => rfl
  | ack => exact hreported
  | timeout => exact hreported

/-- The flight of a reported event is the one that the operation leaves behind. -/
theorem Synced.report_flight (h : c.Synced) (hf : c.AcksFlight op)
    (hs : Connection.step c op = .ok c') (hreport : c.report? op = some call) :
    call.event.bytesInFlight = c'.map.bytesInFlight := by
  have hcall := congestionCall_of_report hreport
  have hstep := step_of_congestionCall hcall
  rw [hs] at hstep
  cases hstep
  rw [(h.refines hf hcall).flight]
  change _ = (QuicSentPacketManager.resetConsecutiveRtoCount _ _).unackedPackets.bytesInFlight
  rw [resetConsecutiveRtoCount_unackedPackets, maybeInvokeCongestionEvent_bytesInFlight]

theorem Synced.flight_le (h : c.Synced) (hf : c.AcksFlight op)
    (hs : Connection.step c op = .ok c') (hsend : ∀ length sendTime, op ≠ .send length sendTime) :
    c'.map.bytesInFlight ≤ c.map.bytesInFlight := by
  cases step_outcome h.atRest hs with
  | send length sendTime => exact absurd rfl (hsend length sendTime)
  | @ack n info hi ackReceiveTime now =>
      obtain ⟨info', hi', hflight⟩ := hf
      cases hi.symm.trans hi'
      have hevent := ackEvent_bytesInFlight h.atRest.manager.map hi hflight ackReceiveTime now
      have hafter : (c.manager.afterAck n info ackReceiveTime now).unackedPackets.bytesInFlight =
          (c.manager.ackEvent n info ackReceiveTime now).unackedPackets.bytesInFlight := by
        simp [afterAck]
      change (c.manager.afterAck n info ackReceiveTime now).unackedPackets.bytesInFlight ≤
        c.manager.unackedPackets.bytesInFlight
      omega
  | @lossTimeout L harmed hL now =>
      have hevent := lossTimeoutEvent_bytesInFlight (L := L) h.atRest.manager.map now
      have hafter : (c.manager.afterLossTimeout L now).unackedPackets.bytesInFlight =
          (c.manager.lossTimeoutEvent L now).unackedPackets.bytesInFlight := by
        simp [afterLossTimeout]
      change (c.manager.afterLossTimeout L now).unackedPackets.bytesInFlight ≤
        c.manager.unackedPackets.bytesInFlight
      omega
  | rto hidle now => exact Nat.zero_le _

def senderCalls (c : Connection Bbr2Sender) (ops : List Operation) : List Bbr2Call :=
  PartialRun.observed step (fun calls c op _ => calls ++ (c.senderCall? op).toList) c [] ops

/-- The sender of a connection is in a run of its own. -/
theorem exec_sender {now : Int} {stream : Nat → Nat} {ops : List Operation}
    (hrun : exec (bbr2Connection now stream) ops = .ok c) :
    c.sender = (bbr2Connection now stream).sender.run
      ((bbr2Connection now stream).senderCalls ops) := by
  have hany : PartialRun.Along step (fun _ _ => True) (bbr2Connection now stream) ops :=
    PartialRun.along_iff_prefix.mpr fun _ _ _ _ _ _ => trivial
  have hstart : (bbr2Connection now stream).Synced := createBbr_synced now stream
  have hstep : ∀ (c : Connection Bbr2Sender) calls op c',
      c.Synced ∧ c.sender = (bbr2Connection now stream).sender.run calls → True →
      step c op = .ok c' → c'.Synced ∧ c'.sender =
        (bbr2Connection now stream).sender.run (calls ++ (c.senderCall? op).toList) := by
    rintro c calls op c' ⟨h, hsender⟩ _ hs
    refine ⟨h.step hs, ?_⟩
    rw [Bbr2Sender.run_append, ← hsender, h.step_sender hs]
    cases c.senderCall? op with
    | none => rfl
    | some call => rfl
  exact (PartialRun.invariant_observed hstep ⟨hstart, rfl⟩ hany hrun).2

end Connection

end BbrChrome
