import BbrChrome.Congestion.ProbeRtt
import BbrChrome.Quic.SenderRun

/-!
# PROBE_RTT is not left early

`exit_time_` is zero until it is scheduled, and the exit from quiescence compares the time
with it without asking. Quiescence implies that nothing is in flight, and an event that finds
nothing in flight schedules the exit.
-/

namespace BbrChrome

namespace Connection

def modeCalls (c : Connection Bbr2Sender) (op : Operation) : List ModeCall :=
  match c.senderCall? op with
  | some call => c.sender.callLog call
  | none => []

/-- The time of the event that an operation reports, if it leaves the sender in PROBE_RTT with a
flight of at most the target and the minimal window. -/
def smallFlight? (c : Connection Bbr2Sender) (op : Operation) (c' : Connection Bbr2Sender) :
    Option Int :=
  match c.report? op with
  | some call =>
      if c'.sender.mode = .probeRtt ∧ call.event.bytesInFlight ≤
          max c'.sender.probeRttInflightTarget c'.sender.getMinimumCongestionWindow then
        some call.eventTime
      else none
  | none => none

/-- The times of the events with a small flight since the mode was changed last. -/
def stayTimes (times : List Int) (c : Connection Bbr2Sender) (op : Operation)
    (c' : Connection Bbr2Sender) : List Int :=
  (if KeepsMode (c.modeCalls op) then times else []) ++ (c.smallFlight? op c').toList

variable {c c' : Connection Bbr2Sender} {op : Operation} {times : List Int}

/-- A stay in PROBE_RTT has its end scheduled by one of its events, or it is open and the sender is
not quiescent. -/
structure StayKept (c : Connection Bbr2Sender) (times : List Int) : Prop where
  synced : c.Synced
  defaults : c.sender.HasDefaults
  quiet : c.sender.lastQuiescenceStart ≠ 0 → c.map.bytesInFlight = 0
  stay : c.sender.mode = .probeRtt →
    c.sender.exitTime = 0 ∧ c.sender.lastQuiescenceStart = 0 ∨
      ∃ time ∈ times, c.sender.exitTime = time + c.sender.params.probeRttDuration

theorem StayKept.send (h : c.StayKept times) (length : PacketLength) (sendTime : Int) :
    (c.send length sendTime).StayKept
      (stayTimes times c (.send length sendTime) (c.send length sendTime)) := by
  have hmove := h.defaults.send_move sendTime c.map.bytesInFlight (c.recentPacketNumber + 1)
    length.bytes
  have hquiet : (c.send length sendTime).sender.lastQuiescenceStart = 0 :=
    hmove.lastQuiescenceStart h.defaults.avoids h.quiet
  have hs : Connection.step c (.send length sendTime) = .ok (c.send length sendTime) := rfl
  refine ⟨h.synced.step hs, h.defaults.call (.packetSent _ _ _ _),
    fun hne => absurd hquiet hne, ?_⟩
  intro hrtt
  obtain ⟨hkeeps, hmode, hexit⟩ := hmove.schedule hrtt
  have htimes : stayTimes times c (.send length sendTime) (c.send length sendTime) = times := by
    have hcalls : KeepsMode (c.modeCalls (.send length sendTime)) := hkeeps
    unfold stayTimes
    rw [if_pos hcalls]
    exact List.append_nil times
  rw [htimes]
  rcases h.stay hmode with ⟨hopen, _⟩ | ⟨time, hmem, hscheduled⟩
  · exact .inl ⟨hexit.trans hopen, hquiet⟩
  · refine .inr ⟨time, hmem, ?_⟩
    have hparams : (c.send length sendTime).sender.params = c.sender.params := hmove.params_eq
    rw [hparams]
    exact hexit.trans hscheduled

theorem StayKept.silent (h : c.StayKept times) (hs : Connection.step c op = .ok c')
    (hnone : c.senderCall? op = none) (hreport : c.report? op = none)
    (hle : c'.map.bytesInFlight ≤ c.map.bytesInFlight) :
    c'.StayKept (stayTimes times c op c') := by
  have hsender : c'.sender = c.sender := by
    rw [h.synced.step_sender hs, hnone]
    rfl
  have htimes : stayTimes times c op c' = times := by
    have hcalls : KeepsMode (c.modeCalls op) := by
      simp [modeCalls, hnone, KeepsMode]
    simp [stayTimes, hcalls, smallFlight?, hreport]
  rw [htimes]
  refine ⟨h.synced.step hs, ?_, ?_, ?_⟩
  · rw [hsender]
    exact h.defaults
  · rw [hsender]
    intro hne
    have hzero := h.quiet hne
    omega
  · rw [hsender]
    exact h.stay

theorem StayKept.report_move (h : c.StayKept times) {call : CongestionCall Bbr2Sender}
    (hsender : c'.sender = c.sender.call call.senderCall)
    (hcall : c.senderCall? op = some call.senderCall)
    (hsame : call.manager.sendAlgorithm = c.sender) :
    EventMove call.event c.sender.control (c.modeCalls op) c'.sender.control := by
  have hevent : call.event = c.sender.congestionEvent call.priorInFlight call.eventTime
      call.manager.packetsAcked call.manager.packetsLost := by
    rw [← hsame]
    rfl
  rw [hevent, hsender]
  unfold modeCalls
  rw [hcall]
  exact Bbr2Sender.onCongestionEvent_move h.defaults _ _ _ _ _

theorem StayKept.event (h : c.StayKept times) (hs : Connection.step c op = .ok c')
    {call : CongestionCall Bbr2Sender} (hreport : c.report? op = some call)
    (hcall : c.senderCall? op = some call.senderCall)
    (hsame : call.manager.sendAlgorithm = c.sender)
    (hflight : call.event.bytesInFlight = c'.map.bytesInFlight)
    (hle : c'.map.bytesInFlight ≤ c.map.bytesInFlight) :
    c'.StayKept (stayTimes times c op c') := by
  have hsender : c'.sender = c.sender.call call.senderCall := by
    rw [h.synced.step_sender hs, hcall]
    rfl
  have hmove := h.report_move hsender hcall hsame
  have hstart : c'.sender.lastQuiescenceStart =
      if call.event.bytesInFlight = 0 then call.event.eventTime
      else c.sender.lastQuiescenceStart :=
    hmove.lastQuiescenceStart h.defaults.avoids
  have hquiet : c.sender.lastQuiescenceStart ≠ 0 → call.event.bytesInFlight = 0 := by
    intro hne
    have hzero := h.quiet hne
    omega
  refine ⟨h.synced.step hs, ?_, ?_, ?_⟩
  · rw [hsender]
    exact h.defaults.call call.senderCall
  · intro hne
    rw [← hflight]
    by_contra hbusy
    rw [hstart, if_neg hbusy] at hne
    exact hbusy (hquiet hne)
  · intro hrtt
    have hparams : c'.sender.params = c.sender.params := hmove.params_eq
    rcases hmove.stayAfter.schedule hrtt with ⟨hopen, hlarge⟩ | ⟨hsmall, hexit⟩ |
        ⟨hkeeps, hmode, hset, hexit⟩
    · refine .inl ⟨hopen, ?_⟩
      have hbusy : call.event.bytesInFlight ≠ 0 := by omega
      rw [hstart, if_neg hbusy]
      by_contra hne
      exact hbusy (hquiet hne)
    · refine .inr ⟨call.eventTime, ?_, hexit⟩
      have hfound : c.smallFlight? op c' = some call.eventTime := by
        unfold smallFlight?
        rw [hreport]
        exact if_pos ⟨hrtt, hsmall⟩
      simp [stayTimes, hfound]
    · rcases h.stay hmode with ⟨hopen, _⟩ | ⟨time, hmem, hscheduled⟩
      · exact absurd hopen hset
      · refine .inr ⟨time, ?_, ?_⟩
        · simp [stayTimes, hkeeps, hmem]
        · rw [hparams]
          exact hexit.trans hscheduled

theorem StayKept.step (h : c.StayKept times) (hf : c.AcksFlight op)
    (hs : Connection.step c op = .ok c') : c'.StayKept (stayTimes times c op c') := by
  have hother : (∀ length sendTime, op ≠ .send length sendTime) →
      c.senderCall? op = (c.report? op).map (·.senderCall) →
      c'.StayKept (stayTimes times c op c') := by
    intro hsend hcall
    have hle := h.synced.flight_le hf hs hsend
    cases hreport : c.report? op with
    | none =>
        rw [hreport] at hcall
        exact h.silent hs hcall hreport hle
    | some call =>
        rw [hreport] at hcall
        exact h.event hs hreport hcall (h.synced.report_sender hs hreport)
          (h.synced.report_flight hf hs hreport) hle
  cases op with
  | send length sendTime =>
      cases hs
      exact h.send length sendTime
  | ack => exact hother nofun rfl
  | timeout => exact hother nofun rfl

/-- An operation leaves PROBE_RTT only when the schedule of the stay has passed. -/
theorem StayKept.leaves (h : c.StayKept times) {call : Bbr2Call}
    (hcall : c.senderCall? op = some call)
    (hleaves : LeavesProbeRtt c.sender.mode (c.sender.callLog call)) :
    ∃ time ∈ times, time + c.sender.params.probeRttDuration < call.time := by
  have hstay := h.stay
  cases call with
  | packetSent sentTime bytesInFlight packetNumber bytes =>
      obtain ⟨hmode, hquiet, hover⟩ :=
        (h.defaults.send_move sentTime bytesInFlight packetNumber bytes).leaves hleaves
      rcases hstay hmode with ⟨_, hnone⟩ | ⟨time, hmem, hexit⟩
      · exact absurd hnone hquiet
      · exact ⟨time, hmem, hexit ▸ hover⟩
  | congestionEvent leastUnacked priorInFlight eventTime ackedPackets lostPackets =>
      obtain ⟨hmode, hset, hover⟩ := (Bbr2Sender.onCongestionEvent_move h.defaults leastUnacked
        priorInFlight eventTime ackedPackets lostPackets).stayAfter.leaves hleaves
      rcases hstay hmode with ⟨hopen, _⟩ | ⟨time, hmem, hexit⟩
      · exact absurd hopen hset
      · exact ⟨time, hmem, hexit ▸ hover⟩

theorem bbr2Connection_stayKept (now : Int) (stream : Nat → Nat) :
    (bbr2Connection now stream).StayKept [] where
  synced := createBbr_synced now stream
  defaults := Bbr2Sender.create_hasDefaults _ _ _ _ _
  quiet h := absurd rfl h
  stay h := by cases h

/-- When every ack names a packet in flight, the sender changes from PROBE_RTT to PROBE_BW only at
a time behind `T + probe_rtt_duration`, for the time `T` of an event of the same stay with a small
flight. -/
theorem probe_rtt_not_left_early (now : Int) (stream : Nat → Nat) (ops : List Operation)
    (hf : Along AcksFlight (bbr2Connection now stream) ops) :
    ∀ pre op post c call, ops = pre ++ op :: post →
      exec (bbr2Connection now stream) pre = .ok c → c.senderCall? op = some call →
      LeavesProbeRtt c.sender.mode (c.sender.callLog call) →
      ∃ time ∈ PartialRun.observed step stayTimes (bbr2Connection now stream) [] pre,
        time + c.sender.params.probeRttDuration < call.time := by
  intro pre op post c call hsplit hpre hcall hleaves
  subst hsplit
  have hstep : ∀ c times op c', StayKept c times → c.AcksFlight op → step c op = .ok c' →
      c'.StayKept (stayTimes times c op c') := fun _ _ _ _ h hf hs => h.step hf hs
  have hkept := PartialRun.invariant_observed hstep (bbr2Connection_stayKept now stream)
    (hf.append hpre).1 hpre
  exact hkept.leaves hcall hleaves

/-- A send leaves a stay that an event with an empty flight has scheduled to end. -/
theorem probe_rtt_left_by_send :
    let start := bbr2Connection 1 fun _ => 0
    let pre := roundTrip 1 1 ++ roundTrip 2 2001 ++ roundTrip 3 4001 ++ roundTrip 4 6001 ++
      roundTrip 5 300001 ++ roundTrip 6 400001
    ∃ c, exec start pre = .ok c ∧ c.sender.mode = .probeRtt ∧
      (c.send defaultPacketLength 600001).sender.mode = .probeBw ∧
      ∃ time ∈ PartialRun.observed step stayTimes start [] pre,
        time + c.sender.params.probeRttDuration < 600001 := by
  intro start pre
  let call (c : Connection Bbr2Sender) : Bbr2Call :=
    .packetSent 600001 c.map.bytesInFlight (c.recentPacketNumber + 1) defaultPacketLength.bytes
  obtain ⟨c, hpre, hc⟩ := PartialRun.exists_of_endsIn (r := exec start pre)
    (p := fun c => decide (c.sender.mode = .probeRtt ∧
      (c.send defaultPacketLength 600001).sender.mode = .probeBw ∧
      LeavesProbeRtt c.sender.mode (c.sender.callLog (call c)))) (by decide +kernel)
  obtain ⟨hmode, hnext, hleaves⟩ := of_decide_eq_true hc
  have hf : Along AcksFlight start (pre ++ [.send defaultPacketLength 600001]) := by
    decide +kernel
  exact ⟨c, hpre, hmode, hnext, probe_rtt_not_left_early 1 (fun _ => 0) _ hf pre
    (.send defaultPacketLength 600001) [] c (call c) rfl hpre rfl hleaves⟩

end Connection

end BbrChrome
