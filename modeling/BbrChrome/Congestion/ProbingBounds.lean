import BbrChrome.Congestion.Bbr2Run

/-!
# Bounds while probing

The short-term bounds are written under a flag that is latched before an event, and the
phase may change later in the same event. In a probing phase they are unset all the same.
-/

namespace BbrChrome

variable {event : Bbr2CongestionEvent} {now : Int} {c c₁ c' : Control} {nextMode : Bbr2Mode}
  {calls calls' : List ModeCall}

namespace Control

def Unbounded (c : Control) : Prop := c.bandwidthLo = .infinite ∧ c.inflightLo = maxUint64

structure ProbesFreely (c : Control) : Prop where
  placed : c.Placed
  unbounded : c.isProbingForBandwidth → c.Unbounded

theorem isProbingForBandwidth_of_probeBw (hmode : c.mode = .probeBw) :
    c.isProbingForBandwidth ↔ c.phase = .probeRefill ∨ c.phase = .probeUp := by
  simp [isProbingForBandwidth, hmode]

theorem not_probing (hstartup : c.mode ≠ .startup) (hprobeBw : c.mode ≠ .probeBw) :
    ¬ c.isProbingForBandwidth := by
  simp [isProbingForBandwidth, hstartup, hprobeBw]

end Control

/-! ## The moves -/

theorem FirstRound.unbounded_iff (h : FirstRound event c calls c') :
    c'.Unbounded ↔ c.Unbounded := by
  cases h <;> exact Iff.rfl

/-- A probing phase is entered with the bounds cleared or from another probing phase. -/
theorem PhaseMove.unbounded (h : PhaseMove event c calls c')
    (hprobing : c'.phase = .probeRefill ∨ c'.phase = .probeUp)
    (hbefore : c.phase = .probeRefill ∨ c.phase = .probeUp → c.Unbounded) : c'.Unbounded := by
  cases h with
  | notStarted hphase => simp [hphase] at hprobing
  | up hphase => exact hbefore (.inr hphase)
  | upToDown => simp [Control.enterProbeDown] at hprobing
  | down hphase => simp [hphase] at hprobing
  | downToCruise => simp [Control.enterProbeCruise] at hprobing
  | downToRefill => exact ⟨rfl, rfl⟩
  | cruise hphase => simp [hphase] at hprobing
  | cruiseToRefill => exact ⟨rfl, rfl⟩
  | refill hphase => exact hbefore (.inl hphase)
  | refillToUp hphase => exact hbefore (.inl hphase)

theorem CycleMove.unbounded (h : CycleMove event c calls c')
    (hprobing : c'.phase = .probeRefill ∨ c'.phase = .probeUp)
    (hbefore : c.phase = .probeRefill ∨ c.phase = .probeUp → c.Unbounded) : c'.Unbounded := by
  cases h with
  | update hfirst hmove =>
      apply hmove.unbounded hprobing
      intro hphase
      rw [hfirst.phase_eq] at hphase
      exact hfirst.unbounded_iff.mpr (hbefore hphase)

theorem Control.ProbesFreely.handled (h : c.ProbesFreely)
    (hmove : ModeMove event c calls c' c.mode) : c'.ProbesFreely := by
  refine ⟨h.placed.handled hmove, ?_⟩
  have hkept : c'.mode = c.mode := hmove.mode_eq
  rintro (hmode | ⟨hmode, hphase⟩)
  · have hstartup : c.mode = .startup := hkept.symm.trans hmode
    have hbounds := h.unbounded (.inl hstartup)
    rw [hstartup] at hmove
    cases hmove with
    | startup => exact hbounds
  · have hprobeBw : c.mode = .probeBw := hkept.symm.trans hmode
    rw [hprobeBw] at hmove
    cases hmove with
    | drained hdrain => simp [hprobeBw] at hdrain
    | probeRttOver hrtt => simp [hprobeBw] at hrtt
    | probeBw _ hcycle =>
        apply hcycle.unbounded hphase
        intro hbefore
        rw [Control.atEvent_phase] at hbefore
        have hbounds := h.unbounded (.inr ⟨hprobeBw, hbefore⟩)
        unfold Control.atEvent
        split
        · exact hbounds
        · exact hbounds

theorem ModeChange.unbounded (h : ModeChange now c .probeBw calls c') (hplaced : c.phase ≠ .probeUp)
    (hprobing : c'.isProbingForBandwidth) : c'.Unbounded := by
  have hphase := (Control.isProbingForBandwidth_of_probeBw h.mode_eq).mp hprobing
  cases h with
  | firstCycle => simp [Control.enterProbeDown] at hphase
  | cruise => simp [Control.enterProbeCruise] at hphase
  | refill => exact ⟨rfl, rfl⟩
  | otherPhase hother =>
      rcases hother with hup | hdown
      · exact absurd hup hplaced
      · simp [Control.switch, hdown] at hphase

theorem Control.ProbesFreely.changed (h : c.ProbesFreely)
    (hmove : ModeMove event c calls c₁ nextMode)
    (hne : nextMode ≠ c.mode) (hchange : ModeChange now c₁ nextMode calls' c') :
    c'.ProbesFreely := by
  refine ⟨h.placed.changed hmove hne hchange, fun hprobing => ?_⟩
  cases hmove.leaving hne with
  | startupFull hmode =>
      have hdrain : c'.mode = .drain := hchange.mode_eq
      exact absurd hprobing (Control.not_probing (by simp [hdrain]) (by simp [hdrain]))
  | minRttExpired hmode =>
      have hrtt : c'.mode = .probeRtt := hchange.mode_eq
      exact absurd hprobing (Control.not_probing (by simp [hrtt]) (by simp [hrtt]))
  | drained hmode =>
      refine hchange.unbounded ?_ hprobing
      have hphase := h.placed.early (.inr hmode)
      simp [Control.setGains, hphase]
  | probeRttOver hmode =>
      refine hchange.unbounded ?_ hprobing
      rcases h.placed.probeRtt hmode with hphase | hphase <;> simp [hphase]

/-- Sampling leaves the bounds alone while the sender is probing. -/
theorem Control.ProbesFreely.sampling (h : c.ProbesFreely) (hsampling : Sampling event c c') :
    c'.ProbesFreely := by
  refine ⟨h.placed.of_same hsampling.mode_eq hsampling.phase_eq, ?_⟩
  cases hsampling with
  | mk _ _ _ _ _ _ hkept =>
      intro hprobing
      have hsame := hkept hprobing
      have hbounds := h.unbounded hprobing
      exact ⟨hsame.1.trans hbounds.1, hsame.2.trans hbounds.2⟩

theorem Control.ProbesFreely.loopMove (h : c.ProbesFreely) (hloop : LoopMove event c calls c') :
    c'.ProbesFreely :=
  hloop.preserves (fun _ _ _ h hmove => h.handled hmove)
    (fun _ _ _ _ _ _ h hmove hne hchange => h.changed hmove hne hchange) h

theorem Control.ProbesFreely.eventMove (h : c.ProbesFreely) (hmove : EventMove event c calls c') :
    c'.ProbesFreely := by
  refine ⟨h.placed.eventMove hmove, ?_⟩
  cases hmove with
  | react hsampling hloop =>
      have hlooped := (h.sampling hsampling).loopMove hloop
      unfold Control.maybeEnterQuiescence
      split
      · exact hlooped.unbounded
      · exact hlooped.unbounded

theorem Control.ProbesFreely.sendMove {bytesInFlight : Nat} (h : c.ProbesFreely)
    (hmove : SendMove now bytesInFlight c calls c') : c'.ProbesFreely := by
  refine ⟨h.placed.sendMove hmove, ?_⟩
  cases hmove with
  | busy => exact h.unbounded
  | early => exact h.unbounded
  | probeBw => exact h.unbounded
  | probeRttLasts => exact h.unbounded
  | probeRttOver hmode hquiet hover hchange =>
      apply hchange.unbounded
      rcases h.placed.probeRtt hmode with hphase | hphase <;> simp [hphase]

namespace Bbr2Sender

variable {s : Bbr2Sender}

theorem create_probesFreely (now : Int) (rttStats : RttStats) (initialCwnd maxCwnd : Nat)
    (stream : Nat → Nat) : (create now rttStats initialCwnd maxCwnd stream).control.ProbesFreely :=
  ⟨create_placed now rttStats initialCwnd maxCwnd stream, fun _ => ⟨rfl, rfl⟩⟩

/-! ## `inflight_hi_` in STARTUP -/

theorem sampled_inflightHi (priorInFlight : Nat) (eventTime : Int)
    (ackedPackets : List AckedPacket) (lostPackets : List LostPacket) :
    (s.sampled priorInFlight eventTime ackedPackets lostPackets).model.inflightHi =
      s.model.inflightHi :=
  (sampled_model_changes priorInFlight eventTime ackedPackets lostPackets).keeps
    Bbr2NetworkModel.inflightHi rfl

theorem checkExcessiveLosses_inflightHi (hgrowth :
    (s.checkExcessiveLosses event).model.fullBandwidthReached = false) :
    (s.checkExcessiveLosses event).model.inflightHi = s.model.inflightHi := by
  unfold checkExcessiveLosses at *
  split
  · rfl
  · rename_i hnot
    rw [if_neg hnot] at hgrowth
    split
    · rename_i hhigh
      rw [if_pos hhigh] at hgrowth
      cases hgrowth
    · rfl

theorem checkStartupExit_inflightHi (hgrowth :
    (s.checkStartupExit event).model.fullBandwidthReached = false) :
    (s.checkStartupExit event).model.inflightHi = s.model.inflightHi := by
  have hkept : (s.model.checkBandwidthGrowth event).1.inflightHi = s.model.inflightHi :=
    Bbr2NetworkModel.checkBandwidthGrowth_changes.keeps Bbr2NetworkModel.inflightHi rfl
  unfold checkStartupExit at *
  split
  · rename_i hround
    rw [if_pos hround] at hgrowth
    dsimp only at *
    split
    · rename_i hcheck
      rw [if_pos hcheck] at hgrowth
      exact (checkExcessiveLosses_inflightHi hgrowth).trans hkept
    · exact hkept
  · rfl

/-- With the default parameters the handler of STARTUP is its check. -/
theorem startupOnCongestionEvent_eq
    (hpacing : s.model.params.decreaseStartupPacingAtEndOfRound = false) :
    s.startupOnCongestionEvent event =
      (s.checkStartupExit event,
        if (s.checkStartupExit event).model.fullBandwidthReached then .drain else .startup) := by
  have hparams : (s.checkStartupExit event).params = s.model.params :=
    checkStartupExit_changes.keeps (·.model.params) rfl
  have hskip : (s.checkStartupExit event).params.decreaseStartupPacingAtEndOfRound ≠ true := by
    simp [hparams, hpacing]
  unfold startupOnCongestionEvent
  dsimp only
  rw [if_neg hskip]

theorem startup_inflightHi
    (hpacing : s.model.params.decreaseStartupPacingAtEndOfRound = false)
    (hstay : (s.startupOnCongestionEvent event).2 = .startup) :
    (s.startupOnCongestionEvent event).1.model.inflightHi = s.model.inflightHi := by
  rw [startupOnCongestionEvent_eq hpacing] at hstay ⊢
  apply checkStartupExit_inflightHi
  by_contra hfull
  dsimp only at hstay
  rw [if_pos (by simpa using hfull)] at hstay
  cases hstay

/-- A sender that is in STARTUP behind the loop has only run the handler of STARTUP. -/
theorem runModes_eq_startup (hs : s.HasDefaults) (priorInFlight : Nat)
    (hstay : (runModes priorInFlight event.eventTime event
      (kMaxModeChangesPerCongestionEvent + 1) s).mode = .startup) :
    s.mode = .startup ∧ (s.startupOnCongestionEvent event).2 = .startup ∧
      runModes priorInFlight event.eventTime event (kMaxModeChangesPerCongestionEvent + 1) s =
        (s.startupOnCongestionEvent event).1 := by
  have hhandler : s.mode = .startup →
      s.modeOnCongestionEvent priorInFlight event.eventTime event =
        s.startupOnCongestionEvent event := by
    intro hstartup
    simp only [modeOnCongestionEvent, hstartup]
  obtain ⟨⟨t, nextMode⟩, hhandled⟩ :
    ∃ r, s.modeOnCongestionEvent priorInFlight event.eventTime event = r := ⟨_, rfl⟩
  have hturn := modeOnCongestionEvent_turn hs hhandled
  unfold runModes at *
  rw [hhandled] at hhandler hstay ⊢
  dsimp only at *
  split at hstay
  · rename_i hsame
    have hstartup : s.mode = .startup := hturn.mode_eq.symm.trans hstay
    rw [if_pos hsame, ← hhandler hstartup]
    exact ⟨hstartup, hsame.trans hstay, rfl⟩
  · -- A mode that was changed to is not STARTUP, and STARTUP does not come back.
    rename_i hne
    exfalso
    rw [hturn.mode_eq] at hne
    have hfuel : (t.changeMode nextMode event.eventTime).control.changesLeft <
        kMaxModeChangesPerCongestionEvent :=
      Nat.lt_of_le_of_lt (Control.changesLeft_le _) (by decide)
    have hloop := @runModes_move _ event hturn.params priorInFlight _ hfuel
    refine hloop.mode_ne_startup ?_ hstay
    rw [hturn.change.mode_eq]
    exact (hturn.move.next_of_ne hne).1

/-! ## Runs -/

/-- A congestion event behind which the sender is in STARTUP: sampling, the handler of STARTUP and
the update of the rate and the window. -/
theorem onCongestionEvent_eq_startup (hs : s.HasDefaults) (leastUnacked priorInFlight : Nat)
    (eventTime : Int) (ackedPackets : List AckedPacket) (lostPackets : List LostPacket)
    (hstay : (s.onCongestionEvent leastUnacked priorInFlight eventTime ackedPackets
      lostPackets).mode = .startup) :
    let event := s.congestionEvent priorInFlight eventTime ackedPackets lostPackets
    let started := s.sampled priorInFlight eventTime ackedPackets lostPackets
    s.mode = .startup ∧ (started.startupOnCongestionEvent event).2 = .startup ∧
      s.onCongestionEvent leastUnacked priorInFlight eventTime ackedPackets lostPackets =
        (started.startupOnCongestionEvent event).1.finishCongestionEvent leastUnacked event := by
  intro event started
  have hsampling := s.sampled_move hs.bwLoMode priorInFlight eventTime ackedPackets lostPackets
  have hparams := hs.sampled priorInFlight eventTime ackedPackets lostPackets
  have hlooped : (runModes priorInFlight event.eventTime event
      (kMaxModeChangesPerCongestionEvent + 1) started).mode = .startup := by
    have hfinished := congrArg Control.mode (@control_finishCongestionEvent
      (runModes priorInFlight event.eventTime event
        (kMaxModeChangesPerCongestionEvent + 1) started) event leastUnacked)
    rw [Control.maybeEnterQuiescence_mode] at hfinished
    exact hfinished.symm.trans hstay
  obtain ⟨hmode, hnext, heq⟩ := runModes_eq_startup hparams priorInFlight hlooped
  refine ⟨hsampling.mode_eq.symm.trans hmode, hnext, ?_⟩
  rw [onCongestionEvent_eq]
  exact congrArg (·.finishCongestionEvent leastUnacked event) heq

theorem startup_of_call (hs : s.HasDefaults) (c : Bbr2Call) (hstay : (s.call c).mode = .startup) :
    s.mode = .startup := by
  cases c with
  | packetSent sentTime bytesInFlight packetNumber bytes =>
      by_contra hne
      exact (hs.send_move sentTime bytesInFlight packetNumber bytes).mode_ne_startup hne hstay
  | congestionEvent => exact (onCongestionEvent_eq_startup hs _ _ _ _ _ hstay).1

theorem onPacketSent_eq_startup (hmode : s.mode = .startup) (sentTime : Int)
    (bytesInFlight packetNumber bytes : Nat) :
    ∃ connectionStats lastQuiescenceStart,
      s.onPacketSent sentTime bytesInFlight packetNumber bytes =
        { s with
          connectionStats, lastQuiescenceStart
          model := s.model.onPacketSent sentTime bytesInFlight packetNumber bytes } := by
  unfold onPacketSent onExitQuiescence modeOnExitQuiescence
  simp only [hmode, if_true, ne_eq, not_true_eq_false, if_false]
  split
  · split
    · exact ⟨_, _, rfl⟩
    · exact ⟨_, _, rfl⟩
  · exact ⟨_, _, rfl⟩

def UnsetInStartup (s : Bbr2Sender) : Prop := s.mode = .startup → s.model.inflightHi = maxUint64

theorem finishCongestionEvent_inflightHi (leastUnacked : Nat) :
    (s.finishCongestionEvent leastUnacked event).model.inflightHi = s.model.inflightHi :=
  (finishCongestionEvent_changes leastUnacked).keeps (·.model.inflightHi) rfl

theorem UnsetInStartup.congestionEvent (hs : s.HasDefaults) (h : s.UnsetInStartup)
    (leastUnacked priorInFlight : Nat) (eventTime : Int) (ackedPackets : List AckedPacket)
    (lostPackets : List LostPacket) :
    (s.onCongestionEvent leastUnacked priorInFlight eventTime ackedPackets
      lostPackets).UnsetInStartup := by
  intro hstay
  obtain ⟨hmode, hnext, heq⟩ := onCongestionEvent_eq_startup hs leastUnacked priorInFlight
    eventTime ackedPackets lostPackets hstay
  have hparams := hs.sampled priorInFlight eventTime ackedPackets lostPackets
  rw [heq, finishCongestionEvent_inflightHi, startup_inflightHi hparams.startupPacing hnext,
    sampled_inflightHi]
  exact h hmode

theorem UnsetInStartup.packetSent (hs : s.HasDefaults) (h : s.UnsetInStartup) (sentTime : Int)
    (bytesInFlight packetNumber bytes : Nat) :
    (s.onPacketSent sentTime bytesInFlight packetNumber bytes).UnsetInStartup := by
  intro hstay
  have hmode := startup_of_call hs (.packetSent sentTime bytesInFlight packetNumber bytes) hstay
  obtain ⟨stats, quiescenceStart, heq⟩ := onPacketSent_eq_startup hmode sentTime bytesInFlight
    packetNumber bytes
  rw [heq]
  exact h hmode

theorem UnsetInStartup.call (hs : s.HasDefaults) (h : s.UnsetInStartup) (c : Bbr2Call) :
    (s.call c).UnsetInStartup := by
  cases c with
  | packetSent => exact h.packetSent hs _ _ _ _
  | congestionEvent => exact h.congestionEvent hs _ _ _ _ _

/-- While the sender probes for bandwidth, the short-term bounds are unset, so that the estimate
is the maximum of the filter and `inflight_hi_` alone limits the window. -/
theorem probing_uncapped (now : Int) (rttStats : RttStats) (initialCwnd maxCwnd : Nat)
    (stream : Nat → Nat) (calls : List Bbr2Call) :
    let s := (create now rttStats initialCwnd maxCwnd stream).run calls
    s.isProbingForBandwidth = true →
      s.model.bandwidthLo = .infinite ∧ s.model.inflightLo = maxUint64 ∧
      s.model.bandwidthEstimate = s.model.maxBandwidth ∧
      ∀ cwnd ≤ maxUint64,
        s.getCwndLimitsByMode.applyLimits cwnd = min s.model.inflightHi cwnd := by
  have hdefault := create_hasDefaults now rttStats initialCwnd maxCwnd stream
  have hfree := (run_control (fun _ _ _ _ _ _ h hmove => h.sendMove hmove)
    (fun _ _ _ _ _ h hmove => h.eventMove hmove) hdefault
    (create_probesFreely now rttStats initialCwnd maxCwnd stream) calls).2
  have hmeasured := run_measured hdefault (Nat.zero_le _) calls
  have hunset := @run_invariant (create now rttStats initialCwnd maxCwnd stream)
    (fun s => s.HasDefaults ∧ s.UnsetInStartup) (fun _ c h => ⟨h.1.call c, h.2.call h.1 c⟩)
    ⟨hdefault, fun _ => rfl⟩ calls
  intro s hprobing
  have hbounds := hfree.unbounded (isProbingForBandwidth_iff.mp hprobing)
  have hunbounded : s.model.bandwidthLo = .infinite := hbounds.1
  have hestimate : s.model.bandwidthEstimate = s.model.maxBandwidth := by
    unfold Bbr2NetworkModel.bandwidthEstimate
    rw [hunbounded]
    exact min_eq_left hmeasured
  refine ⟨hbounds.1, hbounds.2, hestimate, fun cwnd hcwnd => ?_⟩
  have hlo : s.model.inflightLo = maxUint64 := hbounds.2
  unfold getCwndLimitsByMode Limits.applyLimits Limits.noGreaterThan
  cases hmode : s.mode with
  | startup =>
      have hhi : s.model.inflightHi = maxUint64 := hunset.2 hmode
      simp only [hlo, hhi]
      omega
  | probeBw =>
      have hphase := (Control.isProbingForBandwidth_of_probeBw (c := s.control) hmode).mp
        (isProbingForBandwidth_iff.mp hprobing)
      have hcruise : s.probeBw.cycle.phase ≠ .probeCruise := by
        intro hcruise
        rcases hphase with hphase | hphase
        · cases hcruise.symm.trans hphase
        · cases hcruise.symm.trans hphase
      simp only [if_neg hcruise, hlo]
      omega
  | drain => simp [isProbingForBandwidth, hmode] at hprobing
  | probeRtt => simp [isProbingForBandwidth, hmode] at hprobing

/-- After six round trips the sender is in PROBE_UP. -/
theorem uncapped_in_probe_up :
    let s := (create 0 {} 32 2000 id).run (roundTrips 6 1000)
    s.probeBw.cycle.phase = .probeUp ∧
      s.model.bandwidthLo = .infinite ∧ s.model.inflightLo = maxUint64 ∧
      s.model.bandwidthEstimate = s.model.maxBandwidth ∧
      ∀ cwnd ≤ maxUint64, s.getCwndLimitsByMode.applyLimits cwnd = min s.model.inflightHi cwnd :=
  ⟨by decide +kernel, probing_uncapped 0 {} 32 2000 id (roundTrips 6 1000) (by decide +kernel)⟩

end Bbr2Sender

end BbrChrome
