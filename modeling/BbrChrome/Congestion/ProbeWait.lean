import BbrChrome.Congestion.Bbr2Run

/-!
# The wait between probes

The bounds on the wait are checked inside the updates of PROBE_DOWN and PROBE_CRUISE. The
last handler of an event runs the update of the phase that the event ends in, so the bounds
hold at the end of the event however the phase was reached.
-/

namespace BbrChrome

variable {event : Bbr2CongestionEvent} {now t : Int} {c c₁ c' : Control} {nextMode : Bbr2Mode}
  {calls calls' : List ModeCall}

/-! ## What the last update has checked -/

/-- At the time `now` neither the cycle nor PROBE_DOWN has lasted too long. -/
structure Control.WaitBounded (c : Control) (now : Int) : Prop where
  rounds : c.phase = .probeDown ∨ c.phase = .probeCruise →
    c.roundsSinceProbe < c.params.probeBwProbeMaxRounds
  cycle : c.phase = .probeDown ∨ c.phase = .probeCruise →
    now - c.cycleStartTime ≤ c.probeWaitTime
  phase : c.phase = .probeDown → now - c.phaseStartTime ≤ c.minRttFilter.minRtt

theorem Control.WaitBounded.of_otherPhase (hdown : c.phase ≠ .probeDown)
    (hcruise : c.phase ≠ .probeCruise) : c.WaitBounded now where
  rounds h := by
    rcases h with h | h
    · exact absurd h hdown
    · exact absurd h hcruise
  cycle h := by
    rcases h with h | h
    · exact absurd h hdown
    · exact absurd h hcruise
  phase h := absurd h hdown

theorem Control.Waits.rounds_lt (h : c.Waits now) (hdefault : c.params.IsDefault) :
    c.roundsSinceProbe < c.params.probeBwProbeMaxRounds := by
  obtain ⟨cwndLimits, hparams⟩ := hdefault
  apply h.rounds
  · rw [hparams]
  · rw [hparams]
    exact (by decide : 63 < 2 ^ 53)

theorem Control.enterProbeDown_waitBounded (hdefault : c.params.IsDefault)
    (hrtt : 0 ≤ c.minRttFilter.minRtt) (rounds wait : Nat) :
    (c.enterProbeDown rounds wait now).WaitBounded now := by
  obtain ⟨cwndLimits, hparams⟩ := hdefault
  refine ⟨fun _ => ?_, fun _ => ?_, fun _ => ?_⟩
  · simp only [enterProbeDown, hparams]
    omega
  · simp only [enterProbeDown, hparams, Time.fromMilliseconds]
    omega
  · simp only [enterProbeDown]
    omega

theorem Control.leaveProbeDown_cycle :
    c.leaveProbeDown.roundsSinceProbe = c.roundsSinceProbe ∧
      c.leaveProbeDown.cycleStartTime = c.cycleStartTime ∧
      c.leaveProbeDown.probeWaitTime = c.probeWaitTime := by
  unfold leaveProbeDown
  split
  · exact ⟨rfl, rfl, rfl⟩
  · exact ⟨rfl, rfl, rfl⟩

theorem PhaseMove.waitBounded (h : PhaseMove event c calls c') (hdefault : c.params.IsDefault)
    (hrtt : 0 ≤ c.minRttFilter.minRtt) : c'.WaitBounded event.eventTime := by
  cases h with
  | notStarted hphase => exact .of_otherPhase (by simp [hphase]) (by simp [hphase])
  | up hphase => exact .of_otherPhase (by simp [hphase]) (by simp [hphase])
  | upToDown => exact Control.enterProbeDown_waitBounded hdefault hrtt _ _
  | down hphase hwaits hshort =>
      exact ⟨fun _ => hwaits.rounds_lt hdefault, fun _ => hwaits.time, fun _ => hshort⟩
  | downToCruise hphase hwaits inflightLo =>
      obtain ⟨hrounds, hstart, hwait⟩ := c.leaveProbeDown_cycle
      have hparams := (c.cycleOnly_enterProbeCruise inflightLo event.eventTime).params
      refine ⟨fun _ => ?_, fun _ => ?_, nofun⟩
      · have hlt := hwaits.rounds_lt hdefault
        rw [hparams]
        exact hrounds.trans_lt hlt
      · have hle := hwaits.time
        change event.eventTime - c.leaveProbeDown.cycleStartTime ≤ c.leaveProbeDown.probeWaitTime
        rw [hstart, hwait]
        exact hle
  | downToRefill => exact .of_otherPhase CyclePhase.noConfusion CyclePhase.noConfusion
  | cruise hphase hwaits =>
      exact ⟨fun _ => hwaits.rounds_lt hdefault, fun _ => hwaits.time, by simp [hphase]⟩
  | cruiseToRefill => exact .of_otherPhase CyclePhase.noConfusion CyclePhase.noConfusion
  | refill hphase => exact .of_otherPhase (by simp [hphase]) (by simp [hphase])
  | refillToUp => exact .of_otherPhase CyclePhase.noConfusion CyclePhase.noConfusion

theorem CycleMove.waitBounded (h : CycleMove event c calls c') (hdefault : c.params.IsDefault)
    (hrtt : 0 ≤ c.minRttFilter.minRtt) : c'.WaitBounded event.eventTime := by
  cases h with
  | update hfirst hmove =>
      cases hfirst with
      | skip => exact hmove.waitBounded hdefault hrtt
      | advance => exact hmove.waitBounded hdefault hrtt

/-! ## The minimal round trip -/

/-- The minimal round trip is not negative. -/
structure Control.Ready (c : Control) : Prop where
  params : c.params.IsDefault
  minRtt : 0 ≤ c.minRttFilter.minRtt

theorem Control.CycleOnly.ready (h : c.CycleOnly c') (hc : c.Ready) : c'.Ready where
  params := by
    rw [h.params]
    exact hc.params
  minRtt := by
    rw [h.minRttFilter]
    exact hc.minRtt

theorem ModeMove.ready (h : ModeMove event c calls c' nextMode) (hc : c.Ready)
    (hsample : 0 ≤ event.sampleMinRtt) : c'.Ready := by
  cases h with
  | probeBw hmode hcycle =>
      have hready := hcycle.cycleOnly_of_atEvent.ready hc
      exact ⟨hready.params, hready.minRtt⟩
  | minRttExpired hmode hcycle =>
      exact ⟨(hcycle.cycleOnly_of_atEvent.ready hc).params, hsample⟩
  | _ => exact ⟨hc.params, hc.minRtt⟩

theorem ModeChange.ready (h : ModeChange now c nextMode calls c') (hc : c.Ready) : c'.Ready := by
  cases nextMode with
  | probeBw => exact h.cycleOnly.ready ⟨hc.params, hc.minRtt⟩
  | _ =>
      cases h
      exact ⟨hc.params, hc.minRtt⟩

theorem Sampling.ready (h : Sampling event c c') (hc : c.Ready)
    (hsample : 0 ≤ event.sampleMinRtt) : c'.Ready := by
  cases h with
  | mk maxFilter minFilter bandwidthLo inflightLo hmax hmin =>
      refine ⟨hc.params, ?_⟩
      rcases hmin with rfl | rfl
      · exact hc.minRtt
      · change 0 ≤ (c.minRttFilter.update event.sampleMinRtt event.eventTime).minRtt
        unfold MinRttFilter.update
        split
        · exact hsample
        · exact hc.minRtt

theorem SendMove.ready {bytesInFlight : Nat} (h : SendMove now bytesInFlight c calls c')
    (hc : c.Ready) : c'.Ready := by
  cases h with
  | probeRttOver hmode hquiet hover hchange =>
      have hready := hchange.ready hc
      exact ⟨hready.params, hready.minRtt⟩
  | _ => exact ⟨hc.params, hc.minRtt⟩

/-- An event leaves the minimal round trip and the waits within their bounds. -/
theorem EventMove.waitBounded (h : EventMove event c calls c') (hc : c.Ready)
    (hsample : 0 ≤ event.sampleMinRtt) :
    c'.Ready ∧ (c'.mode = .probeBw → c'.WaitBounded event.eventTime) := by
  have hdone : ∀ c calls c', c.Ready → ModeMove event c calls c' c.mode →
      c'.Ready ∧ (c'.mode = .probeBw → c'.WaitBounded event.eventTime) := by
    intro c calls c' hc hmove
    refine ⟨hmove.ready hc hsample, fun hmode => ?_⟩
    rw [← hmove.mode_eq, hmode] at hmove
    cases hmove with
    | drained hdrain => exact absurd hmode (by simp [Control.setGains, hdrain])
    | probeRttOver hrtt => exact absurd hmode (by simp [hrtt])
    | probeBw _ hcycle =>
        have hcounted := (@Control.cycleOnly_atEvent event c).ready hc
        have hbounded := hcycle.waitBounded hcounted.params hcounted.minRtt
        exact ⟨hbounded.rounds, hbounded.cycle, hbounded.phase⟩
  cases h with
  | react hsampling hloop =>
      obtain ⟨hready, hbounded⟩ := hloop.preserves hdone
        (fun _ _ _ _ _ _ hc hmove _ hchange => hchange.ready (hmove.ready hc hsample))
        (hsampling.ready hc hsample)
      unfold Control.maybeEnterQuiescence
      split
      · exact ⟨⟨hready.params, hready.minRtt⟩, fun hmode => ⟨(hbounded hmode).rounds,
          (hbounded hmode).cycle, (hbounded hmode).phase⟩⟩
      · exact ⟨hready, hbounded⟩

/-! ## Samples of the round trip -/

namespace BandwidthSampler

variable {s : BandwidthSampler}

def SentBefore (s : BandwidthSampler) (t : Int) : Prop :=
  s.connectionStateMap.Holds fun e => e.sentTime ≤ t

theorem SentBefore.later {t t' : Int} (h : s.SentBefore t) (hle : t ≤ t') : s.SentBefore t' :=
  h.mono fun _ he => he.trans hle

theorem SentBefore.packetSent {sentTime : Int} (h : s.SentBefore sentTime)
    (packetNumber bytes bytesInFlight : Nat) :
    (s.onPacketSent sentTime packetNumber bytes bytesInFlight).SentBefore sentTime := by
  obtain ⟨e, hmap, htime, _⟩ :=
    s.onPacketSent_connectionStateMap sentTime packetNumber bytes bytesInFlight
  unfold SentBefore
  rw [hmap]
  exact PacketNumberIndexedQueue.Holds.emplace h htime.le

theorem SentBefore.packetAcknowledged (h : s.SentBefore t) (ackTime : Int) (packetNumber : Nat) :
    (s.onPacketAcknowledged ackTime packetNumber).1.SentBefore t := by
  have hmap : (s.onPacketAcknowledged ackTime packetNumber).1.connectionStateMap =
      s.connectionStateMap :=
    congrArg SamplerAccounts.connectionStateMap (s.accounts_onPacketAcknowledged ackTime
      packetNumber)
  unfold SentBefore
  rw [hmap]
  exact h

theorem SentBefore.rtt_nonneg {ackTime : Int} (h : s.SentBefore ackTime) (packetNumber : Nat) :
    0 ≤ (s.onPacketAcknowledged ackTime packetNumber).2.rtt := by
  unfold onPacketAcknowledged
  split
  · exact le_refl _
  · rename_i e he
    have hsent : e.sentTime ≤ ackTime := h e (PacketNumberIndexedQueue.mem_of_getEntry he)
    rcases s.onPacketAcknowledgedInner_snd ackTime packetNumber e with heq | ⟨_, _, heq⟩
    · rw [heq]
    · rw [heq]
      exact Int.sub_nonneg.mpr hsent

theorem SentBefore.sampleRtt_nonneg {ackTime : Int} (h : s.SentBefore ackTime)
    (ackedPackets : List AckedPacket) (lostPackets : List LostPacket)
    (maxBandwidth estBandwidthUpperBound : QuicBandwidth) (roundTripCount : Nat) :
    0 ≤ (s.onCongestionEvent ackTime ackedPackets lostPackets maxBandwidth estBandwidthUpperBound
      roundTripCount).2.sampleRtt := by
  have hinfinite : (0 : Int) ≤ Time.infinite := by decide
  have hlost : (onPacketsLost lostPackets s {}).1.SentBefore ackTime := by
    rw [onPacketsLost_fst]
    exact h
  unfold onCongestionEvent
  dsimp only
  split
  · exact hinfinite
  · refine @onPacketsAcknowledged_sample _ (·.SentBefore ackTime) (fun event => 0 ≤ event.sampleRtt)
      ackTime (fun _ packetNumber h => h.packetAcknowledged ackTime packetNumber) ?_ hlost
      ackedPackets {} hinfinite {}
    intro s packetNumber event total h hevent
    have hsample := h.rtt_nonneg packetNumber
    unfold mergeSample
    dsimp only
    split
    · exact hevent
    · exact le_min hevent hsample

end BandwidthSampler

/-! ## Runs -/

namespace Bbr2Sender

variable {s : Bbr2Sender}

theorem sampleMinRtt_nonneg {eventTime : Int}
    (h : s.model.bandwidthSampler.SentBefore eventTime) (priorInFlight : Nat)
    (ackedPackets : List AckedPacket) (lostPackets : List LostPacket) :
    0 ≤ (s.congestionEvent priorInFlight eventTime ackedPackets lostPackets).sampleMinRtt := by
  have hinfinite : (0 : Int) ≤ Time.infinite := by decide
  have hsample := fun maxBandwidth bandwidthLo rounds =>
    h.sampleRtt_nonneg ackedPackets lostPackets maxBandwidth bandwidthLo rounds
  have hchosen : ∀ rtt : Int, 0 ≤ rtt → 0 ≤ if rtt = Time.infinite then Time.infinite else rtt := by
    intro rtt hrtt
    split
    · exact hinfinite
    · exact hrtt
  unfold congestionEvent Bbr2NetworkModel.onCongestionEventStart
  dsimp only [Bbr2NetworkModel.sampleCongestionEvent]
  split
  · exact hchosen _ (hsample _ _ _)
  · exact hchosen _ (hsample _ _ _)

/-- What holds between the calls of a run, the last one at the time `t`. -/
structure Timed (t : Int) (s : Bbr2Sender) : Prop where
  ready : s.control.Ready
  sent : s.model.bandwidthSampler.SentBefore t

theorem Timed.packetSent {sentTime : Int} (h : s.Timed t) (hle : t ≤ sentTime)
    (bytesInFlight packetNumber bytes : Nat) :
    (s.onPacketSent sentTime bytesInFlight packetNumber bytes).Timed sentTime := by
  have hdefault : s.HasDefaults := h.ready.params
  have hsampler := (s.onPacketSent_frame sentTime bytesInFlight packetNumber bytes).1
  refine ⟨(hdefault.send_move sentTime bytesInFlight packetNumber bytes).ready h.ready, ?_⟩
  rw [hsampler]
  exact (h.sent.later hle).packetSent packetNumber bytes bytesInFlight

theorem Timed.congestionEvent {eventTime : Int} (h : s.Timed t) (hle : t ≤ eventTime)
    (leastUnacked priorInFlight : Nat) (ackedPackets : List AckedPacket)
    (lostPackets : List LostPacket) :
    (s.onCongestionEvent leastUnacked priorInFlight eventTime ackedPackets
        lostPackets).Timed eventTime ∧
      ((s.onCongestionEvent leastUnacked priorInFlight eventTime ackedPackets
          lostPackets).mode = .probeBw →
        (s.onCongestionEvent leastUnacked priorInFlight eventTime ackedPackets
          lostPackets).control.WaitBounded eventTime) := by
  have hsent := h.sent.later hle
  have hmove := onCongestionEvent_move h.ready.params leastUnacked priorInFlight eventTime
    ackedPackets lostPackets
  obtain ⟨hready, hbounded⟩ := hmove.waitBounded h.ready
    (sampleMinRtt_nonneg hsent priorInFlight ackedPackets lostPackets)
  have hmap := congrArg SamplerAccounts.connectionStateMap
    (s.onCongestionEvent_accounts leastUnacked priorInFlight eventTime ackedPackets lostPackets)
  refine ⟨⟨hready, ?_⟩, hbounded⟩
  unfold BandwidthSampler.SentBefore
  rw [show (s.onCongestionEvent _ _ _ _ _).model.bandwidthSampler.connectionStateMap = _ from hmap]
  exact PacketNumberIndexedQueue.Holds.removeUpTo hsent leastUnacked

theorem create_timed (now : Int) (samples : List (Int × Int × Int)) (initialCwnd maxCwnd : Nat)
    (stream : Nat → Nat) (t : Int) :
    (create now (.afterSamples samples) initialCwnd maxCwnd stream).Timed t where
  ready := ⟨create_hasDefaults now (.afterSamples samples) initialCwnd maxCwnd stream,
    (RttStats.afterSamples_nonneg samples).smoothedOrInitialRtt⟩
  sent := by
    intro e he
    cases he

/-- At the end of a congestion event the sender has not waited too long for the next probe. -/
theorem probe_wait_bounded (now : Int) (samples : List (Int × Int × Int))
    (initialCwnd maxCwnd : Nat) (stream : Nat → Nat) (calls : List Bbr2Call)
    (leastUnacked priorInFlight : Nat) (eventTime : Int) (ackedPackets : List AckedPacket)
    (lostPackets : List LostPacket)
    (hsorted : (calls.map Bbr2Call.time ++ [eventTime]).Pairwise (· ≤ ·)) :
    let s := ((create now (.afterSamples samples) initialCwnd maxCwnd stream).run
      calls).onCongestionEvent leastUnacked priorInFlight eventTime ackedPackets lostPackets
    s.mode = .probeBw →
      (s.probeBw.cycle.phase = .probeDown ∨ s.probeBw.cycle.phase = .probeCruise →
        s.probeBw.cycle.roundsSinceProbe < 63 ∧
          eventTime - s.probeBw.cycle.cycleStartTime ≤ s.probeBw.cycle.probeWaitTime) ∧
      (s.probeBw.cycle.phase = .probeDown →
        eventTime - s.probeBw.cycle.phaseStartTime ≤ s.model.minRtt) := by
  intro s hmode
  obtain ⟨start, hstart⟩ := exists_start hsorted
  have hclock : calls.filterMap (some ∘ Bbr2Call.time) = calls.map Bbr2Call.time :=
    congrFun List.filterMap_eq_map calls
  have hcall : ∀ t (s : Bbr2Sender) (log : List ModeCall) (c : Bbr2Call), s.Timed t →
      (∀ t', (some ∘ Bbr2Call.time) c = some t' → t ≤ t') → (s.call c).Timed c.time := by
    intro t s _ c h hle
    cases c with
    | packetSent => exact h.packetSent (hle _ rfl) _ _ _
    | congestionEvent => exact (h.congestionEvent (hle _ rfl) _ _ _ _).1
  have hbefore : (start :: calls.filterMap (some ∘ Bbr2Call.time)).Pairwise (· ≤ ·) := by
    rw [hclock]
    exact (List.pairwise_append.mp (List.cons_append ▸ hstart)).1
  have htimed := @run_invariant_timed _ (some ∘ Bbr2Call.time) (fun t s _ => s.Timed t) hcall
    start [] (create_timed now samples initialCwnd maxCwnd stream start) calls hbefore
  rw [hclock] at htimed
  have hbounded := htimed.congestionEvent (getLastD_le hstart) leastUnacked priorInFlight
    ackedPackets lostPackets
  have hwait := hbounded.2 hmode
  obtain ⟨cwndLimits, hparams⟩ := hbounded.1.ready.params
  refine ⟨fun hphase => ⟨?_, hwait.cycle hphase⟩, hwait.phase⟩
  have hrounds := hwait.rounds hphase
  rw [hparams] at hrounds
  exact hrounds

/-- After five of these round trips the sender cruises. -/
theorem probe_wait_in_cruise :
    let s := ((create 0 (.afterSamples []) 32 2000 id).run (roundTrips 5 14600)).onCongestionEvent
      5 0 10000 [] []
    s.probeBw.cycle.phase = .probeCruise ∧ s.probeBw.cycle.roundsSinceProbe < 63 ∧
      10000 - s.probeBw.cycle.cycleStartTime ≤ s.probeBw.cycle.probeWaitTime :=
  have hsorted : ((roundTrips 5 14600).map Bbr2Call.time ++ [10000]).Pairwise (· ≤ ·) := by
    decide +kernel
  have hbounded := probe_wait_bounded 0 [] 32 2000 id (roundTrips 5 14600) 5 0 10000 [] [] hsorted
    (by decide +kernel)
  ⟨by decide +kernel, hbounded.1 (Or.inr (by decide +kernel))⟩

end Bbr2Sender

end BbrChrome
