import BbrChrome.Client.ClientRun

/-!
# Timeouts of the client

Without packets in flight the retransmission time is `QuicTime::Zero()`, and every
reading of the clock is later. A poll that finds no datagram then takes a timeout.
-/

namespace BbrChrome

open QuicUnackedPacketMap QuicSentPacketManager

namespace QuicSentPacketManager

variable {σ : Type} {m : QuicSentPacketManager σ}

theorem Consistent.getRetransmissionTime_eq_zero (h : m.Consistent)
    (hidle : ∀ n, ¬ m.unackedPackets.InFlight n) : m.getRetransmissionTime = 0 := by
  have hno : m.unackedPackets.hasInFlightPackets = false := by
    rw [Bool.eq_false_iff, Ne, h.map.hasInFlightPackets_iff]
    exact fun ⟨n, hn⟩ => hidle n hn
  simp [getRetransmissionTime, hno]

variable [SendAlgorithmInterface σ]

theorem maybeInvokeCongestionEvent_consecutiveRtoCount {rttUpdated : Bool} {priorInFlight : Nat}
    {eventTime : Int} :
    (m.maybeInvokeCongestionEvent rttUpdated priorInFlight eventTime).consecutiveRtoCount =
      m.consecutiveRtoCount := by
  unfold maybeInvokeCongestionEvent
  split <;> rfl

theorem maybeInvokeCongestionEvent_rttUpdated {rttUpdated : Bool} {priorInFlight : Nat}
    {eventTime : Int} :
    (m.maybeInvokeCongestionEvent rttUpdated priorInFlight eventTime).rttUpdated =
      m.rttUpdated := by
  unfold maybeInvokeCongestionEvent
  split <;> rfl

variable (m) in
/-- An ack clears the count of timeouts exactly when it takes an RTT sample. -/
theorem afterAck_consecutiveRtoCount (n : Nat) (info : QuicTransmissionInfo)
    (ackReceiveTime now : Int) :
    (m.afterAck n info ackReceiveTime now).rttUpdated = takesRttSample info ∧
      (m.afterAck n info ackReceiveTime now).consecutiveRtoCount =
        if takesRttSample info then 0 else m.consecutiveRtoCount := by
  have hcount : (m.ackEvent n info ackReceiveTime now).consecutiveRtoCount =
      m.consecutiveRtoCount := rfl
  have hupdated : (m.ackEvent n info ackReceiveTime now).rttUpdated = takesRttSample info := rfl
  unfold afterAck resetConsecutiveRtoCount
  split
  · exact ⟨maybeInvokeCongestionEvent_rttUpdated.trans hupdated, rfl⟩
  · exact ⟨maybeInvokeCongestionEvent_rttUpdated.trans hupdated,
      maybeInvokeCongestionEvent_consecutiveRtoCount.trans hcount⟩

end QuicSentPacketManager

namespace Client

variable {c c' : Client} {call : ClientCall}

/-- A poll that finds no datagram although nothing is in flight. -/
def IdlePoll (c : Client) : ClientCall → Prop
  | .receivePacket none _ _ => ∀ n, ¬ c.connection.map.InFlight n
  | _ => False

/-- A poll that finds no datagram takes a genuine retransmission timeout: a packet is in
flight and the time for its retransmission has passed. -/
def GenuineTimeout (c : Client) : ClientCall → Prop
  | .receivePacket none first _ =>
      c.connection.manager.getRetransmissionMode = .rtoMode ∧
        c.connection.map.hasInFlightPackets = true ∧
        c.connection.map.lastInflightPacketSentTime +
          c.connection.manager.getRetransmissionDelay < first.now
  | _ => False

instance (c : Client) (call : ClientCall) : Decidable (c.GenuineTimeout call) := by
  unfold GenuineTimeout
  split <;> infer_instance

/-- Count a genuine timeout, start again when an ack takes an RTT sample. -/
def countTimeout (count : Nat) (c : Client) (call : ClientCall) (c' : Client) : Nat :=
  match call with
  | .receivePacket (some _) _ _ => if c'.connection.manager.rttUpdated then 0 else count
  | _ => if c.GenuineTimeout call then count + 1 else count

/-- The genuine timeouts of a run since it last took an RTT sample. -/
def genuineTimeouts (c : Client) (calls : List ClientCall) : Nat :=
  PartialRun.observed step countTimeout c 0 calls

def RunsHandler (c : Client) (call : ClientCall) : Prop :=
  ∃ now, c.operation? call = some (.timeout now)

/-- The timeouts of a run are genuine: the handler runs only for packets in flight whose
deadline has passed, a poll of an idle connection changes nothing, and the manager counts
the genuine timeouts. -/
structure TimeoutsGenuine (c : Client) (calls : List ClientCall) : Prop where
  handler : ∀ pre first second post m, calls = pre ++ .receivePacket none first second :: post →
    exec c pre = .ok m → m.RunsHandler (.receivePacket none first second) →
      (∃ n, m.connection.map.InFlight n) ∧
        m.connection.manager.getRetransmissionTime < first.now
  idle : ∀ pre first second post m m', calls = pre ++ .receivePacket none first second :: post →
    exec c pre = .ok m → (∀ n, ¬ m.connection.map.InFlight n) →
      step m (.receivePacket none first second) = .ok m' →
        m'.connection.manager.consecutiveRtoCount = m.connection.manager.consecutiveRtoCount ∧
          m'.connection.manager.stats.rtoCount = m.connection.manager.stats.rtoCount ∧
          m'.connection.map = m.connection.map
  counted : ∀ pre post m, calls = pre ++ post → exec c pre = .ok m →
    m.connection.manager.consecutiveRtoCount = c.genuineTimeouts pre

/-! ## One call -/

theorem runsHandler_iff {first second : TimeOfDay} :
    c.RunsHandler (.receivePacket none first second) ↔
      c.connection.manager.getRetransmissionTime < first.now := by
  simp only [RunsHandler, operation?]
  split
  · next hexpired => exact ⟨fun _ => hexpired, fun _ => ⟨_, rfl⟩⟩
  · next hpending =>
      constructor
      · rintro ⟨_, hop⟩
        cases hop
      · intro hexpired
        exact absurd hexpired hpending

/-- An idle poll runs the handler: every reading of the clock is later than zero. -/
theorem runsHandler_of_idle (h : c.connection.AtRest)
    (hidle : ∀ n, ¬ c.connection.map.InFlight n) (first second : TimeOfDay) :
    c.RunsHandler (.receivePacket none first second) := by
  rw [runsHandler_iff, h.manager.getRetransmissionTime_eq_zero hidle]
  exact first.now_pos

/-- With a packet in flight a timeout is genuine when the handler runs in `RTO_MODE`. -/
theorem genuineTimeout_iff (h : c.connection.AtRest)
    (hflight : ∃ n, c.connection.map.InFlight n) (first second : TimeOfDay) :
    c.GenuineTimeout (.receivePacket none first second) ↔
      c.connection.manager.getRetransmissionMode = .rtoMode ∧
        c.connection.manager.getRetransmissionTime < first.now := by
  have hhas : c.connection.manager.unackedPackets.hasInFlightPackets = true :=
    h.manager.map.hasInFlightPackets_iff.mpr hflight
  unfold GenuineTimeout getRetransmissionTime
  constructor
  · intro ⟨hmode, _, hpassed⟩
    exact ⟨hmode, by simpa [hhas, hmode] using hpassed⟩
  · intro ⟨hmode, hpassed⟩
    exact ⟨hmode, hhas, by simpa [hhas, hmode] using hpassed⟩

theorem countTimeout_eq (h : c.connection.AtRest) (hpoll : ¬ c.IdlePoll call)
    (hs : step c call = .ok c') :
    c'.connection.manager.consecutiveRtoCount =
      countTimeout c.connection.manager.consecutiveRtoCount c call c' := by
  have hperforms := (step_spec hs).1
  cases call with
  | sendPacket gate schedule send =>
      have hcount : countTimeout c.connection.manager.consecutiveRtoCount c
          (.sendPacket gate schedule send) c' = c.connection.manager.consecutiveRtoCount := rfl
      rw [hcount]
      simp only [operation?] at hperforms
      split at hperforms
      · rw [← Except.ok.inj hperforms]
        rfl
      · rw [show c'.connection = c.connection from hperforms]
  | receivePacket echo first second =>
      cases echo with
      | some packetNumber =>
          rcases c' with ⟨connection, sendControl⟩
          cases Connection.step_outcome h hperforms with
          | @ack _ info hi _ _ =>
              obtain ⟨hsample, hcount⟩ := c.connection.manager.afterAck_consecutiveRtoCount
                packetNumber info first.now second.now
              simp only [countTimeout, hsample, hcount]
      | none =>
          have hflight : ∃ n, c.connection.map.InFlight n := by
            by_contra hidle
            exact hpoll fun n hn => hidle ⟨n, hn⟩
          have hgenuine := genuineTimeout_iff h hflight first second
          simp only [countTimeout]
          simp only [operation?] at hperforms
          split at hperforms
          · rename_i hexpired
            rcases c' with ⟨connection, sendControl⟩
            cases Connection.step_outcome h hperforms with
            | lossTimeout harmed hL now =>
                have hmode : c.connection.manager.getRetransmissionMode = .lossMode :=
                  if_pos harmed
                rw [if_neg (by rw [hgenuine, hmode]; simp)]
                exact maybeInvokeCongestionEvent_consecutiveRtoCount
            | rto hidle now =>
                have hmode : c.connection.manager.getRetransmissionMode = .rtoMode :=
                  if_neg (not_not_intro hidle)
                rw [if_pos (hgenuine.mpr ⟨hmode, hexpired⟩)]
                rfl
          · rename_i hpending
            rw [if_neg (fun hg => hpending (hgenuine.mp hg).2),
              show c'.connection = c.connection from hperforms]

/-- The manager is at rest and has counted `count` timeouts. -/
structure Counts (c : Client) (count : Nat) : Prop where
  atRest : c.connection.AtRest
  count : c.connection.manager.consecutiveRtoCount = count

theorem Counts.step {count : Nat} (h : c.Counts count) (hpoll : ¬ c.IdlePoll call)
    (hs : Client.step c call = .ok c') : c'.Counts (countTimeout count c call c') := by
  refine ⟨connection_invariant (fun _ _ _ _ => Connection.step_atRest) h.atRest hs, ?_⟩
  rw [countTimeout_eq h.atRest hpoll hs, h.count]

/-- A run without idle polls counts its genuine timeouts. -/
theorem exec_counted {now : TimeOfDay} {stream : Nat → Nat} {calls : List ClientCall}
    (hpolls : Along (fun c call => ¬ c.IdlePoll call) (create now stream) calls)
    (hrun : exec (create now stream) calls = .ok c) :
    c.connection.manager.consecutiveRtoCount = (create now stream).genuineTimeouts calls := by
  have hcreate : (create now stream).Counts 0 := ⟨Connection.create_atRest _, rfl⟩
  exact (PartialRun.invariant_observed (fun _ _ _ _ h hpoll hs => h.step hpoll hs) hcreate hpolls
    hrun).count

/-- The timeouts of a run are genuine exactly when every poll that finds no datagram is
made with a packet in flight. -/
theorem timeouts_genuine_iff (now : TimeOfDay) (stream : Nat → Nat) (calls : List ClientCall) :
    TimeoutsGenuine (create now stream) calls ↔
      Along (fun c call => ¬ c.IdlePoll call) (create now stream) calls := by
  constructor
  · intro h
    apply PartialRun.along_iff_prefix.mpr
    intro pre call post m hsplit hpre hpoll
    cases call with
    | sendPacket gate schedule send => exact hpoll
    | receivePacket echo first second =>
        cases echo with
        | some packetNumber => exact hpoll
        | none =>
            have hruns := runsHandler_of_idle (exec_wholePackets hpre).atRest hpoll first second
            obtain ⟨⟨n, hn⟩, _⟩ := h.handler pre first second post m hsplit hpre hruns
            exact hpoll n hn
  · intro hpolls
    have hbusy : ∀ pre first second post m,
        calls = pre ++ .receivePacket none first second :: post →
        exec (create now stream) pre = .ok m → ∃ n, m.connection.map.InFlight n := by
      intro pre first second post m hsplit hpre
      by_contra hidle
      exact PartialRun.along_iff_prefix.mp hpolls pre _ post m hsplit hpre
        fun n hn => hidle ⟨n, hn⟩
    refine
      { handler := fun pre first second post m hsplit hpre hruns =>
          ⟨hbusy pre first second post m hsplit hpre, runsHandler_iff.mp hruns⟩
        idle := fun pre first second post m _ hsplit hpre hidle _ => ?_
        counted := fun pre post m hsplit hpre => ?_ }
    · obtain ⟨n, hn⟩ := hbusy pre first second post m hsplit hpre
      exact absurd hn (hidle n)
    · subst calls
      exact exec_counted (hpolls.append hpre).1 hpre

/-- The first poll of a new client, before it has sent anything, is a timeout. -/
theorem idle_poll_times_out :
    ∃ c, exec (create ⟨0, 0⟩ fun _ => 0) [.receivePacket none ⟨0, 1⟩ ⟨0, 2⟩] = .ok c ∧
      c.connection.manager.consecutiveRtoCount = 1 ∧ c.connection.manager.stats.rtoCount = 1 ∧
      (create ⟨0, 0⟩ fun _ => 0).genuineTimeouts [.receivePacket none ⟨0, 1⟩ ⟨0, 2⟩] = 0 := by
  refine ⟨_, rfl, ?_⟩
  decide +kernel

end Client

end BbrChrome
