import BbrChrome.Congestion.Bbr2Event
import BbrChrome.Quic.ByteLedger

/-!
# The sender's view of the flight

At a congestion event BBRv2 computes the bytes in flight from the ones before the
event and from what its sampler credited. The packet map has its own count.
-/

namespace BbrChrome

open QuicUnackedPacketMap QuicSentPacketManager

/-- Where an operation stands when it calls `MaybeInvokeCongestionEvent`. -/
structure CongestionCall (σ : Type) where
  manager : QuicSentPacketManager σ
  rttUpdated : Bool
  priorInFlight : Nat
  eventTime : Int

/-- There is something to report, so that `OnCongestionEvent` is called. -/
def CongestionCall.Reports {σ : Type} (call : CongestionCall σ) : Prop :=
  call.rttUpdated = true ∨ call.manager.packetsAcked ≠ [] ∨ call.manager.packetsLost ≠ []

/-- The event that `OnCongestionEventStart` fills in. -/
def CongestionCall.event (call : CongestionCall Bbr2Sender) : Bbr2CongestionEvent :=
  let sender := call.manager.sendAlgorithm
  (sender.model.onCongestionEventStart call.eventTime call.manager.packetsAcked
    call.manager.packetsLost (sender.startCongestionEvent call.priorInFlight)).2

namespace Connection

section Calls

variable {σ : Type} [SendAlgorithmInterface σ] {c : Connection σ} {op : Operation}
  {call : CongestionCall σ}

/-- Run an operation up to its call of `MaybeInvokeCongestionEvent`, if it makes one. -/
def congestionCall (c : Connection σ) : Operation → Except Fault (Option (CongestionCall σ))
  | .send _ _ => .ok none
  | .ack packetNumber ackReceiveTime now => do
      let m ← c.manager.onAckFrameStart packetNumber ackReceiveTime
      let m := m.onAckRange packetNumber (packetNumber + 1) now
      let priorInFlight := m.unackedPackets.bytesInFlight
      let m ← m.handleAckedPackets ackReceiveTime
      let rttUpdated := m.rttUpdated
      let m ← m.invokeLossDetection ackReceiveTime
      return some { manager := m, rttUpdated, priorInFlight, eventTime := ackReceiveTime }
  | .timeout now =>
      match c.manager.getRetransmissionMode with
      | .lossMode => do
          let m ← c.manager.countLossTimeout.invokeLossDetection now
          return some
            { manager := m, rttUpdated := false, eventTime := now
              priorInFlight := c.manager.unackedPackets.bytesInFlight }
      | .rtoMode => .ok none

theorem step_of_congestionCall (hcall : c.congestionCall op = .ok (some call)) :
    step c op = .ok { c with
      manager := (call.manager.maybeInvokeCongestionEvent call.rttUpdated call.priorInFlight
        call.eventTime).resetConsecutiveRtoCount call.rttUpdated } := by
  cases op with
  | send length sendTime => cases hcall
  | ack packetNumber ackReceiveTime now =>
      simp only [congestionCall, step, ack, onAckFrameEnd, postProcessNewlyAckedPackets, bind,
        Except.bind, pure, Except.pure] at hcall ⊢
      cases hstart : c.manager.onAckFrameStart packetNumber ackReceiveTime with
      | error e => simp [hstart] at hcall
      | ok started =>
          simp only [hstart] at hcall ⊢
          cases hhandle : (started.onAckRange packetNumber (packetNumber + 1)
              now).handleAckedPackets ackReceiveTime with
          | error e => simp [hhandle] at hcall
          | ok handled =>
              simp only [hhandle] at hcall ⊢
              cases hdetect : handled.invokeLossDetection ackReceiveTime with
              | error e => simp [hdetect] at hcall
              | ok detected =>
                  simp only [hdetect] at hcall ⊢
                  cases hcall
                  rfl
  | timeout now =>
      simp only [congestionCall, countLossTimeout, step, timeout, onRetransmissionTimeout]
        at hcall ⊢
      cases hmode : c.manager.getRetransmissionMode with
      | rtoMode => simp [hmode] at hcall
      | lossMode =>
          simp only [hmode, bind, Except.bind, pure, Except.pure] at hcall ⊢
          split at hcall
          · cases hcall
          · cases hcall
            rfl

omit [SendAlgorithmInterface σ]

theorem congestionCall_of_info {n : Nat} {info : QuicTransmissionInfo} (h : c.AtRest)
    (hi : c.map.info? n = some info) (ackReceiveTime now : Int) :
    c.congestionCall (.ack n ackReceiveTime now) =
      .ok (some
        { manager := c.manager.ackEvent n info ackReceiveTime now
          rttUpdated := takesRttSample info
          priorInFlight := c.map.bytesInFlight
          eventTime := ackReceiveTime }) := by
  have hstart := onAckFrameStart_eq h.manager.map hi ackReceiveTime
  have hhandle := handleAcked_eq h.manager hi ackReceiveTime now
  rw [hstart] at hhandle
  simp only [bind, Except.bind] at hhandle
  simp only [congestionCall, hstart, hhandle, ackEvent_eq h.manager hi, bind, Except.bind, pure,
    Except.pure]
  rfl

theorem congestionCall_of_armed {L : Nat} (h : c.AtRest)
    (harmed : c.manager.lossAlgorithm.lossDetectionTimeout ≠ 0)
    (hL : c.manager.largestNewlyAcked = .number L) (now : Int) :
    c.congestionCall (.timeout now) =
      .ok (some
        { manager := c.manager.lossTimeoutEvent L now
          rttUpdated := false
          priorInFlight := c.map.bytesInFlight
          eventTime := now }) := by
  have hmode : c.manager.getRetransmissionMode = .lossMode := if_pos harmed
  simp only [congestionCall, hmode, lossTimeoutEvent_eq h.manager hL, bind, Except.bind, pure,
    Except.pure]

end Calls

/-- The sampler has an entry of the right size for every packet in flight. -/
def FlightKnown {σ : Type} [SendAlgorithmInterface σ] [SamplesBandwidth σ] (c : Connection σ) :
    Prop :=
  ∀ n info, c.map.info? n = some info → info.inFlight = true →
    ∃ e, c.manager.accounts.connectionStateMap.getEntry (.number n) = some e ∧
      e.size = info.bytesSent

variable {c : Connection Bbr2Sender} {op : Operation} {call : CongestionCall Bbr2Sender}

theorem Mirrored.flightKnown (h : c.Mirrored) : c.FlightKnown := by
  intro n info hi _
  have hsize := h.size? hi
  rw [SamplerAccounts.size?, Option.map_eq_some_iff] at hsize
  exact hsize

/-- The flight of the event is the flight of the map, and no more leaves it than was in it. -/
structure Refines (call : CongestionCall Bbr2Sender) : Prop where
  noUnderflow : call.event.bytesAcked + call.event.bytesLost ≤ call.priorInFlight
  difference : call.event.bytesInFlight =
    call.priorInFlight - call.event.bytesAcked - call.event.bytesLost
  flight : call.event.bytesInFlight = call.manager.unackedPackets.bytesInFlight

/-- A call refines the map when what it reports accounts for what left the flight. -/
theorem refines_of_balance
    (hbalance : call.manager.unackedPackets.bytesInFlight +
      call.manager.accounts.creditedBytes call.manager.packetsAcked +
      (call.manager.packetsLost.map (·.bytesLost)).sum = call.priorInFlight) : Refines call := by
  have hacked : call.event.bytesAcked =
      call.manager.accounts.creditedBytes call.manager.packetsAcked :=
    Bbr2NetworkModel.onCongestionEventStart_bytesAcked _ _ _ _ _
  have hlost : call.event.bytesLost = (call.manager.packetsLost.map (·.bytesLost)).sum :=
    Bbr2NetworkModel.onCongestionEventStart_bytesLost _ _ _ _ _
  have hflight : call.event.bytesInFlight = call.manager.unackedPackets.bytesInFlight :=
    Bbr2NetworkModel.onCongestionEventStart_bytesInFlight _ _ _ _ _ hbalance
  exact ⟨by omega, by omega, hflight⟩

theorem Synced.refines (h : c.Synced) (hf : c.AcksFlight op)
    (hcall : c.congestionCall op = .ok (some call)) : Refines call := by
  cases op with
  | send length sendTime => cases hcall
  | ack n ackReceiveTime now =>
      rcases hf with ⟨info, hi, hflight⟩
      rw [congestionCall_of_info h.atRest hi] at hcall
      cases hcall
      apply refines_of_balance
      have hevent := ackEvent_bytesInFlight h.atRest.manager.map hi hflight ackReceiveTime now
      have hcredit : (c.manager.ackEvent n info ackReceiveTime now).accounts.creditedBytes
          (c.manager.ackEvent n info ackReceiveTime now).packetsAcked = info.bytesSent :=
        h.mirrored.creditedBytes hi _ _
      rw [← hcredit] at hevent
      exact hevent
  | timeout now =>
      by_cases hidle : c.manager.lossAlgorithm.lossDetectionTimeout = 0
      · have hmode : c.manager.getRetransmissionMode = .rtoMode := if_neg (not_not_intro hidle)
        simp [congestionCall, hmode] at hcall
      · obtain ⟨_, L, _, _, hL, _⟩ := h.atRest.manager.alarm hidle
        rw [congestionCall_of_armed h.atRest hidle hL] at hcall
        cases hcall
        apply refines_of_balance
        have hevent := lossTimeoutEvent_bytesInFlight (L := L) h.atRest.manager.map now
        have hacked : (c.manager.lossTimeoutEvent L now).packetsAcked = [] :=
          h.atRest.manager.packetsAcked
        rw [hacked]
        exact hevent

/-- When every ack names a packet in flight, the sampler knows the flight of the map, and
every congestion event computes it. -/
theorem flight_refined (now : Int) (stream : Nat → Nat) (ops : List Operation)
    (hf : Along AcksFlight (bbr2Connection now stream) ops) :
    (∀ pre post c, ops = pre ++ post → exec (bbr2Connection now stream) pre = .ok c →
        c.FlightKnown) ∧
      ∀ pre op post c call, ops = pre ++ op :: post →
        exec (bbr2Connection now stream) pre = .ok c →
        c.congestionCall op = .ok (some call) → call.Reports → Refines call := by
  constructor
  · intro pre post c _ hpre
    exact (exec_synced hpre).mirrored.flightKnown
  · intro pre op post c call hsplit hpre hcall _
    have hop := PartialRun.along_iff_prefix.mp hf pre op post c hsplit hpre
    exact (exec_synced hpre).refines hop hcall

/-- Packet 1 is lost to the ack of packet 4, the others to the timers. -/
def lossyRun : List Operation :=
  [.send defaultPacketLength 1000, .send defaultPacketLength 1001, .send defaultPacketLength 1002,
    .send defaultPacketLength 1003, .ack 4 51000 51001, .timeout 200000,
    .send defaultPacketLength 300000, .timeout 900000]

theorem flight_refined_of_losses :
    (∀ pre post c, lossyRun = pre ++ post → exec (bbr2Connection 1 fun _ => 0) pre = .ok c →
        c.FlightKnown) ∧
      ∀ pre op post c call, lossyRun = pre ++ op :: post →
        exec (bbr2Connection 1 fun _ => 0) pre = .ok c →
        c.congestionCall op = .ok (some call) → call.Reports → Refines call :=
  flight_refined 1 _ _ (by decide +kernel)

end Connection

end BbrChrome
