import BbrChrome.Client.ControlCopy
import BbrChrome.Client.TimeoutGate
import BbrChrome.Congestion.WindowLimits
import BbrChrome.Library.Emission
import BbrChrome.Quic.LossAlarm
import BbrChrome.Quic.PacketFate

/-!
# Progress of the client

When the network falls silent, the polls whose deadline has passed empty the flight. An empty
flight always leaves room in the window, so that the client goes on to send.
-/

namespace BbrChrome

open QuicUnackedPacketMap QuicSentPacketManager

/-! ## The flight after an operation -/

def Operation.sentBytes : Operation → Nat
  | .send length _ => length.bytes
  | _ => 0

namespace Connection

section Flight

variable {σ : Type} [SendAlgorithmInterface σ] {c c' : Connection σ} {op : Operation}

theorem Outcome.bytesInFlight_le (h : c.AtRest) (ho : c.Outcome op c') :
    c'.map.bytesInFlight ≤ c.map.bytesInFlight + op.sentBytes := by
  cases ho with
  | send length sendTime => exact le_of_eq addSentPacket_bytesInFlight
  | @ack n info hi ackReceiveTime now =>
      have hacked : (c.manager.acknowledge n info ackReceiveTime now).unackedPackets.bytesInFlight ≤
          c.map.bytesInFlight := by
        simp only [acknowledge]
        rw [settle_bytesInFlight hi]
        split <;> omega
      have hdetect := detect_bytesInFlight (L := n)
        (m := c.manager.acknowledge n info ackReceiveTime now)
        (h.manager.map.settle .acked hi (.inl rfl)) ackReceiveTime
      have hafter : (c.manager.afterAck n info ackReceiveTime now).unackedPackets.bytesInFlight =
          (c.manager.ackEvent n info ackReceiveTime now).unackedPackets.bytesInFlight := by
        simp [afterAck]
      change (c.manager.afterAck n info ackReceiveTime now).unackedPackets.bytesInFlight ≤ _
      rw [hafter, ackEvent]
      exact (Nat.le_of_add_right_le (le_of_eq hdetect)).trans hacked
  | @lossTimeout L harmed hL now =>
      have hevent := lossTimeoutEvent_bytesInFlight (L := L) h.manager.map now
      have hafter : (c.manager.afterLossTimeout L now).unackedPackets.bytesInFlight =
          (c.manager.lossTimeoutEvent L now).unackedPackets.bytesInFlight := by
        simp [afterLossTimeout]
      change (c.manager.afterLossTimeout L now).unackedPackets.bytesInFlight ≤ _
      rw [hafter]
      exact Nat.le_of_add_right_le (le_of_eq hevent)
  | rto hidle now => exact Nat.zero_le _

/-- From its deadline on, a timeout succeeds and takes a packet out of the flight, if there is
one. -/
theorem WholePackets.timeout_drains (h : c.WholePackets) {now : Int}
    (hexpired : c.manager.getRetransmissionTime ≤ now) :
    ∃ c', c.timeout now = .ok c' ∧
      c'.map.packetsInFlight ≤ c.map.packetsInFlight - 1 ∧
      c'.recentPacketNumber = c.recentPacketNumber := by
  by_cases hidle : c.manager.lossAlgorithm.lossDetectionTimeout = 0
  · have ho : c.Outcome (.timeout now) { c with manager := c.manager.afterRto } := .rto hidle now
    exact ⟨_, ho.step_eq h.atRest, Nat.zero_le _, rfl⟩
  · -- The alarm is set for a packet in flight, which is lost once it has expired.
    obtain ⟨l, L, info, hl, hL, hi, hf, hle, _, ht⟩ := h.atRest.manager.alarm hidle
    have ho : c.Outcome (.timeout now) { c with manager := c.manager.afterLossTimeout L now } :=
      .lossTimeout hidle hL now
    have hhas : c.map.hasInFlightPackets = true :=
      h.atRest.manager.map.hasInFlightPackets_iff.mpr ⟨l, info, hi, hf⟩
    have hmode : c.manager.getRetransmissionMode = .lossMode := if_pos hidle
    simp only [getRetransmissionTime, hhas, hmode, Bool.not_true, Bool.false_eq_true, if_false]
      at hexpired
    rw [ht] at hexpired
    have hlost := h.atRest.alarm_loses hl hi hf hle hexpired
    obtain ⟨p, hp, _⟩ := List.mem_map.mp hlost
    obtain ⟨pinfo, hpi, _, hbytes, _⟩ := LossRule.lost_spec hp
    have hone : defaultPacketSize ≤
        ((c.manager.lossTimeoutEvent L now).packetsLost.map (·.bytesLost)).sum := by
      rw [← h.size _ _ hpi, hbytes]
      exact List.le_sum_of_mem (List.mem_map_of_mem hp)
    have hless : (c.manager.afterLossTimeout L now).unackedPackets.bytesInFlight +
        defaultPacketSize ≤ c.map.bytesInFlight := by
      have hevent := lossTimeoutEvent_bytesInFlight (L := L) h.atRest.manager.map now
      have hafter : (c.manager.afterLossTimeout L now).unackedPackets.bytesInFlight =
          (c.manager.lossTimeoutEvent L now).unackedPackets.bytesInFlight := by
        simp [afterLossTimeout]
      rw [hafter]
      exact (Nat.add_le_add_left hone _).trans (le_of_eq hevent)
    have hwhole : Connection.WholePackets { c with manager := c.manager.afterLossTimeout L now } :=
      h.step (show Client.SendsDefault (.timeout now) from trivial) (ho.step_eq h.atRest)
    have hthen : (c.manager.afterLossTimeout L now).unackedPackets.bytesInFlight =
        defaultPacketSize * (c.manager.afterLossTimeout L now).unackedPackets.packetsInFlight :=
      hwhole.bytesInFlight
    refine ⟨_, ho.step_eq h.atRest, ?_, rfl⟩
    rw [hthen, h.bytesInFlight, ← Nat.mul_succ] at hless
    exact Nat.le_sub_one_of_lt (Nat.le_of_mul_le_mul_left hless (by decide))

end Flight

end Connection

namespace Client

variable {c c' : Client} {call : ClientCall} {now : TimeOfDay} {stream : Nat → Nat}
  {calls polls : List ClientCall}

/-! ## The window in packets -/

/-- The largest window, in packets: `kMaxInitialCongestionWindow` segments. -/
def maxWindowPackets : Nat := 100000 * kDefaultTCPMSS / defaultPacketSize

def minWindowPackets : Nat := 4 * kMaxSegmentSize / defaultPacketSize

def SenderInRun (start : Bbr2Sender) (c : Connection Bbr2Sender) : Prop :=
  c.Synced ∧ ∃ senderCalls, c.sender = start.run senderCalls

theorem SenderInRun.step {start : Bbr2Sender} {c c' : Connection Bbr2Sender} {op : Operation}
    (h : SenderInRun start c) (hs : Connection.step c op = .ok c') : SenderInRun start c' := by
  obtain ⟨hsynced, senderCalls, hsender⟩ := h
  refine ⟨hsynced.step hs, senderCalls ++ (c.senderCall? op).toList, ?_⟩
  rw [Bbr2Sender.run_append, ← hsender, hsynced.step_sender hs]
  cases c.senderCall? op with
  | none => rfl
  | some call => rfl

theorem exec_sender (hrun : exec (create now stream) calls = .ok c) :
    ∃ senderCalls, c.connection.sender =
      (Bbr2Sender.create now.now {} kInitialCongestionWindow 100000 stream).run senderCalls := by
  have hstart : SenderInRun (Bbr2Sender.create now.now {} kInitialCongestionWindow 100000 stream)
      (create now stream).connection := ⟨Connection.createBbr_synced now.now stream, [], rfl⟩
  have hstep : ∀ c call c',
      SenderInRun (Bbr2Sender.create now.now {} kInitialCongestionWindow 100000 stream)
        c.connection → step c call = .ok c' →
      SenderInRun (Bbr2Sender.create now.now {} kInitialCongestionWindow 100000 stream)
        c'.connection :=
    fun _ _ _ h hs => connection_invariant (fun _ _ _ _ h hs => h.step hs) h hs
  exact (PartialRun.invariant hstep hstart hrun).2

theorem exec_window (hrun : exec (create now stream) calls = .ok c) :
    minWindowPackets ≤ c.connection.sender.cwnd / defaultPacketSize ∧
      c.connection.sender.cwnd / defaultPacketSize ≤ maxWindowPackets := by
  obtain ⟨senderCalls, hsender⟩ := exec_sender hrun
  have hcreate := Bbr2Sender.create_hasDefaults now.now {} kInitialCongestionWindow 100000 stream
  have hwithin := (Bbr2Sender.create_windowWithin now.now {} kInitialCongestionWindow
    (by decide : 4 ≤ 100000) stream).run hcreate senderCalls
  have hlimits := congrArg Bbr2Params.cwndLimits (Bbr2Sender.run_params hcreate senderCalls).2
  have hfloor := hwithin.floor
  have hcap := hwithin.cap
  rw [hlimits, ← hsender] at hfloor hcap
  exact ⟨Nat.div_le_div_right hfloor, Nat.div_le_div_right hcap⟩

/-- The copy of the window and the flight stay between the bounds of the window. -/
structure WithinWindow (c : Client) : Prop where
  floor : minWindowPackets ≤ c.sendControl.cwnd
  cap : c.sendControl.cwnd ≤ maxWindowPackets
  flight : c.connection.map.packetsInFlight ≤ maxWindowPackets

theorem flight_of_send {length : PacketLength} {sendTime : Int}
    (hop : c.operation? call = some (.send length sendTime)) (h : c.connection.WholePackets) :
    c.connection.map.packetsInFlight < c.sendControl.cwnd := by
  have hopen : c.windowIsOpen = true := by
    cases call with
    | sendPacket gate schedule send =>
        simp only [operation?] at hop
        split at hop
        · rename_i hgate
          exact (Bool.and_eq_true_iff.mp hgate).1
        · cases hop
    | receivePacket echo first second =>
        cases echo with
        | some n => cases hop
        | none =>
            simp only [operation?] at hop
            split at hop <;> cases hop
  unfold windowIsOpen at hopen
  rw [decide_eq_true_iff, bytesInFlight, h.bytesInFlight, Nat.mul_div_cancel_left _ (by decide)]
    at hopen
  exact hopen

theorem WithinWindow.step (h : c.WithinWindow) (hwhole : c.connection.WholePackets)
    (hwindow : minWindowPackets ≤ c'.connection.sender.cwnd / defaultPacketSize ∧
      c'.connection.sender.cwnd / defaultPacketSize ≤ maxWindowPackets)
    (hs : Client.step c call = .ok c') : c'.WithinWindow := by
  obtain ⟨hperforms, hcwnd⟩ := step_spec hs
  have hcopy : minWindowPackets ≤ c'.sendControl.cwnd ∧ c'.sendControl.cwnd ≤ maxWindowPackets := by
    cases call with
    | sendPacket gate schedule send => exact hcwnd ▸ ⟨h.floor, h.cap⟩
    | receivePacket echo first second =>
        cases echo with
        | some n => exact hcwnd ▸ hwindow
        | none => exact hcwnd ▸ ⟨h.floor, h.cap⟩
  refine ⟨hcopy.1, hcopy.2, ?_⟩
  cases hop : c.operation? call with
  | none =>
      rw [hop] at hperforms
      rw [show c'.connection = c.connection from hperforms]
      exact h.flight
  | some op =>
      rw [hop] at hperforms
      have hdefault := operation?_sendsDefault hop
      have hwhole' := (hwhole.step hdefault hperforms).bytesInFlight
      have hprior := hwhole.bytesInFlight
      have hle := (Connection.step_outcome hwhole.atRest hperforms).bytesInFlight_le hwhole.atRest
      have hflight := h.flight
      cases op with
      | send length sendTime =>
          have hroom := flight_of_send hop hwhole
          have hcap := h.cap
          have hsent : (Operation.send length sendTime).sentBytes = defaultPacketSize :=
            congrArg PacketLength.bytes hdefault
          unfold defaultPacketSize at *
          omega
      | _ =>
          change _ ≤ _ + 0 at hle
          unfold defaultPacketSize at *
          omega

theorem exec_withinWindow (hrun : exec (create now stream) calls = .ok c) : c.WithinWindow := by
  refine PartialRun.exec_induction (motive := fun _ c => c.WithinWindow) ?_ ?_ hrun
  · have hfloor : minWindowPackets ≤ initialCwndSize := by decide
    have hcap : initialCwndSize ≤ maxWindowPackets := by decide
    exact ⟨hfloor, hcap, Nat.zero_le _⟩
  · intro calls c call c' hpre hs h
    have hrun : exec (create now stream) (calls ++ [call]) = .ok c' :=
      (PartialRun.exec_append_of_ok hpre).trans (PartialRun.exec_cons_of_ok hs [])
    exact h.step (exec_wholePackets hpre) (exec_window hrun) hs

/-! ## Silence -/

/-- A poll that finds no datagram although the time for a retransmission has passed. -/
def Expired (c : Client) : ClientCall → Prop
  | .receivePacket none first second =>
      c.connection.manager.getRetransmissionTime < first.now ∧ first.now ≤ second.now
  | _ => False

instance (c : Client) : ∀ call : ClientCall, Decidable (c.Expired call)
  | .receivePacket none first second =>
      inferInstanceAs (Decidable (c.connection.manager.getRetransmissionTime < first.now ∧
        first.now ≤ second.now))
  | .receivePacket (some _) _ _ => .isFalse id
  | .sendPacket _ _ _ => .isFalse id

theorem step_expired (h : c.connection.WholePackets) (hpoll : c.Expired call) :
    ∃ c', step c call = .ok c' ∧ c'.connection.WholePackets ∧
      c'.sendControl = c.sendControl ∧
      c'.connection.recentPacketNumber = c.connection.recentPacketNumber ∧
      c'.connection.map.packetsInFlight ≤ c.connection.map.packetsInFlight - 1 := by
  cases call with
  | sendPacket gate schedule send => cases hpoll
  | receivePacket echo first second =>
      cases echo with
      | some n => cases hpoll
      | none =>
          obtain ⟨hexpired, hlater⟩ := hpoll
          obtain ⟨connection, htimeout, hdrained, hrecent⟩ := h.timeout_drains
            (show c.connection.manager.getRetransmissionTime ≤ second.now by omega)
          have hs : step c (.receivePacket none first second) = .ok { c with connection } := by
            simp only [step, receivePacket, hexpired, if_true, htimeout, bind, Except.bind, pure,
              Except.pure]
          have hwhole : connection.WholePackets :=
            h.step (show SendsDefault (.timeout second.now) from trivial) htimeout
          exact ⟨_, hs, hwhole, rfl, hrecent, hdrained⟩

theorem exec_expired (h : c.connection.WholePackets) (hpolls : Along Expired c polls) :
    ∃ drained, exec c polls = .ok drained ∧ drained.connection.WholePackets ∧
      drained.sendControl = c.sendControl ∧
      drained.connection.recentPacketNumber = c.connection.recentPacketNumber ∧
      drained.connection.map.packetsInFlight ≤
        c.connection.map.packetsInFlight - polls.length := by
  induction polls generalizing c with
  | nil => exact ⟨c, rfl, h, rfl, rfl, le_refl _⟩
  | cons poll polls ih =>
      obtain ⟨mid, hs, hmid, hcontrol, hrecent, hless⟩ := step_expired h hpolls.1
      obtain ⟨drained, hrun, hwhole, hcontrols, hrecents, hrest⟩ := ih hmid (hpolls.2 mid hs)
      refine ⟨drained, (PartialRun.exec_cons_of_ok hs polls).trans hrun, hwhole,
        hcontrols.trans hcontrol, hrecents.trans hrecent, ?_⟩
      rw [List.length_cons]
      omega

/-- With an empty flight the client sends as soon as its schedule allows. -/
theorem sendPacket_of_idle (hwhole : c.connection.WholePackets) (hcwnd : 0 < c.sendControl.cwnd)
    (hempty : c.connection.map.packetsInFlight = 0) (hrate : 0 < c.sendControl.pacingRate)
    {gate : TimeOfDay} (hgate : c.sendControl.nextSendTimestamp < gate.now)
    (schedule send : TimeOfDay) :
    ∃ sent, c.sendPacket gate schedule send = .ok sent ∧
      sent.connection.recentPacketNumber = c.connection.recentPacketNumber + 1 ∧
      sent.bytesInFlight = defaultPacketSize := by
  have hbytes := hwhole.bytesInFlight
  rw [hempty] at hbytes
  have hopen : c.windowIsOpen = true := by
    unfold windowIsOpen
    rw [decide_eq_true_iff, bytesInFlight, hbytes]
    exact hcwnd
  have hgated : (c.windowIsOpen && decide (c.sendControl.nextSendTimestamp < gate.now)) = true := by
    rw [hopen, decide_eq_true hgate]
    rfl
  have hsent : c.sendPacket gate schedule send = .ok (makePacketAndSendFromBuf
      { c with
        sendControl :=
          { c.sendControl with
            nextSendTimestamp :=
              schedule.now + durationBetweenSends c.sendControl.pacingRate } } send) := by
    simp only [sendPacket, isTimeToSendNextPacket, hgated, if_true, setNextSendTime, if_pos hrate,
      bind, Except.bind, pure, Except.pure]
  refine ⟨_, hsent, rfl, ?_⟩
  have hflight : (c.connection.send defaultPacketLength send.now).map.bytesInFlight =
      c.connection.map.bytesInFlight + defaultPacketSize := addSentPacket_bytesInFlight
  rw [hbytes] at hflight
  exact hflight

/-- However a run went, no silence of the network stops the client: its expired polls succeed,
each takes a packet out of the flight, which is never more than the largest window, and once the
flight is empty the client sends the next packet as soon as its schedule allows, unless it has
copied a rate of zero. -/
theorem silence_ends (now : TimeOfDay) (stream : Nat → Nat) (calls polls : List ClientCall)
    (hrun : exec (create now stream) calls = .ok c) (hpolls : Along Expired c polls) :
    c.connection.map.packetsInFlight ≤ maxWindowPackets ∧
    ∃ drained, exec c polls = .ok drained ∧
      drained.connection.map.packetsInFlight ≤
        c.connection.map.packetsInFlight - polls.length ∧
      (c.connection.map.packetsInFlight ≤ polls.length → 0 < c.sendControl.pacingRate →
        ∀ gate schedule send, c.sendControl.nextSendTimestamp < gate.now →
          ∃ sent, drained.sendPacket gate schedule send = .ok sent ∧
            sent.connection.recentPacketNumber = c.connection.recentPacketNumber + 1 ∧
            sent.bytesInFlight = defaultPacketSize) := by
  have hwithin := exec_withinWindow hrun
  obtain ⟨drained, hdrain, hwhole, hcontrol, hrecent, hless⟩ :=
    exec_expired (exec_wholePackets hrun) hpolls
  refine ⟨hwithin.flight, drained, hdrain, hless, ?_⟩
  intro henough hrate gate schedule send hgate
  rw [← hcontrol] at hrate hgate
  have hcwnd : 0 < drained.sendControl.cwnd := by
    rw [hcontrol]
    exact lt_of_lt_of_le (by decide) hwithin.floor
  obtain ⟨sent, hs, hnumber, hbytes⟩ :=
    sendPacket_of_idle hwhole hcwnd (by omega) hrate hgate schedule send
  exact ⟨sent, hs, by rw [hnumber, hrecent], hbytes⟩

/-- Packet 2 is echoed and packets 1 and 3 are not; the loss timer gives packet 1 up, the
retransmission timeout packet 3. -/
theorem silence_ends_of_silence :
    ∃ c, exec (create ⟨0, 0⟩ fun _ => 0) [sendAt 100000, sendAt 120000, sendAt 140000,
        receiveAt (some 2) 220000] = .ok c ∧
      ∃ drained, exec c [receiveAt none 400000, receiveAt none 2000000] = .ok drained ∧
        drained.connection.map.packetsInFlight ≤ c.connection.map.packetsInFlight - 2 := by
  obtain ⟨c, hrun, hpolls⟩ := PartialRun.exists_of_endsIn
    (p := fun c : Client =>
      decide (Along Expired c [receiveAt none 400000, receiveAt none 2000000]))
    (r := exec (create ⟨0, 0⟩ fun _ => 0) [sendAt 100000, sendAt 120000, sendAt 140000,
      receiveAt (some 2) 220000]) (by decide +kernel)
  obtain ⟨drained, hdrain, hless, _⟩ :=
    (silence_ends _ _ _ _ hrun (of_decide_eq_true hpolls)).2
  exact ⟨c, hrun, drained, hdrain, hless⟩

end Client

end BbrChrome
