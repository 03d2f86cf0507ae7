import BbrChrome.Congestion.Bbr2Run

/-!
# Modes, gains and the full-bandwidth flag

The gains are set in the handlers of some modes and on the entry of others, and a change of
the mode may skip either. At the end of an event they are the ones of the current mode.
-/

namespace BbrChrome

variable {event : Bbr2CongestionEvent} {now : Int} {c c₁ c' : Control} {nextMode mode : Bbr2Mode}
  {calls calls' log : List ModeCall}

/-! ## Gains -/

namespace Control

def gainsOfMode (c : Control) : Rat × Rat :=
  match c.mode with
  | .startup => (c.params.startupPacingGain, c.params.startupCwndGain)
  | .drain => (c.params.drainPacingGain, c.params.drainCwndGain)
  | .probeBw => (c.pacingGainForPhase, c.params.probeBwCwndGain)
  | .probeRtt => (1, 1)

def Settled (c : Control) : Prop := (c.pacingGain, c.cwndGain) = c.gainsOfMode

/-- What holds before every handler. The gains of DRAIN and of PROBE_BW are set by their
handlers, the gains of the other modes on entry. -/
structure Coherent (c : Control) (log : List ModeCall) : Prop where
  full : c.mode = .startup ↔ c.fullBandwidthReached = false
  startup : .changeMode .startup ∉ log
  drain : log.count (.changeMode .drain) = if c.mode = .startup then 0 else 1
  gains : c.mode = .startup ∨ c.mode = .probeRtt → c.Settled

end Control

theorem ModeChange.full_eq (h : ModeChange now c nextMode calls c') :
    c'.fullBandwidthReached = c.fullBandwidthReached := by
  cases nextMode with
  | probeBw => exact h.cycleOnly.fullBandwidthReached
  | _ =>
      cases h
      rfl

/-- The flag is set when STARTUP is left, and it stays. -/
theorem ModeMove.full_of_ne (h : ModeMove event c calls c' nextMode) (hne : nextMode ≠ c.mode)
    (hfull : c.mode = .startup ↔ c.fullBandwidthReached = false) :
    c'.fullBandwidthReached = true := by
  have hset : c.mode ≠ .startup → c.fullBandwidthReached = true := by
    intro hmode
    rw [Ne, hfull] at hmode
    simpa using hmode
  cases h.leaving hne with
  | startupFull hmode => rfl
  | drained hmode => exact hset (by simp [hmode])
  | minRttExpired hmode hcycle =>
      have hkept := hcycle.cycleOnly_of_atEvent.fullBandwidthReached
      exact hkept.trans (hset (by simp [hmode]))
  | probeRttOver hmode => exact hset (by simp [hmode])

namespace Control.Coherent

theorem of_same (h : c.Coherent log) (hmode : c'.mode = c.mode)
    (hfull : c'.fullBandwidthReached = c.fullBandwidthReached)
    (hcalls : ∀ mode, .changeMode mode ∉ calls)
    (hgains : c'.mode = .startup ∨ c'.mode = .probeRtt → c'.Settled) :
    c'.Coherent (log ++ calls) where
  full := by
    rw [hmode, hfull]
    exact h.full
  startup hmem := by
    rcases List.mem_append.mp hmem with hmem | hmem
    · exact h.startup hmem
    · exact hcalls _ hmem
  drain := by
    rw [hmode, List.count_append, List.count_eq_zero.mpr (hcalls _)]
    exact h.drain
  gains := hgains

theorem entered (h : c.Coherent log) (hcalls : ∀ mode, .changeMode mode ∉ calls)
    (hchange : ∃ rest, calls' = .changeMode nextMode :: rest ∧ ∀ mode, .changeMode mode ∉ rest)
    (hnext : nextMode ≠ .startup ∧ (nextMode = .drain ↔ c.mode = .startup))
    (hmode : c'.mode = nextMode) (hfull : c'.fullBandwidthReached = true)
    (hgains : nextMode = .probeRtt → c'.Settled) : c'.Coherent (log ++ calls ++ calls') := by
  obtain ⟨rest, rfl, hrest⟩ := hchange
  refine ⟨?_, ?_, ?_, ?_⟩
  · rw [hmode, hfull]
    simp [hnext.1]
  · intro hmem
    rcases List.mem_append.mp hmem with hmem | hmem
    · rcases List.mem_append.mp hmem with hmem | hmem
      · exact h.startup hmem
      · exact hcalls _ hmem
    · rcases List.mem_cons.mp hmem with heq | hmem
      · cases heq
        exact hnext.1 rfl
      · exact hrest _ hmem
  · have hcount := h.drain
    have hnone := List.count_eq_zero.mpr (hcalls .drain)
    have hnone' := List.count_eq_zero.mpr (hrest .drain)
    have hentered : (if ModeCall.changeMode nextMode == .changeMode .drain then 1 else 0) =
        if c.mode = .startup then 1 else 0 := by
      simp [hnext.2]
    rw [hmode, if_neg hnext.1, List.count_append, List.count_append, List.count_cons, hcount,
      hnone, hnone', hentered]
    split
    · rfl
    · rfl
  · rintro (hstartup | hrtt)
    · exact absurd (hmode.symm.trans hstartup) hnext.1
    · exact hgains (hmode.symm.trans hrtt)

theorem handled (h : c.Coherent log) (hmove : ModeMove event c calls c' c.mode) :
    c'.Coherent (log ++ calls) ∧ c'.Settled := by
  have hcalls : ∀ mode, .changeMode mode ∉ calls := fun _ => hmove.changeMode_notMem
  have hmode : c'.mode = c.mode := hmove.mode_eq
  have hsettled : c'.Settled ∧ c'.fullBandwidthReached = c.fullBandwidthReached := by
    generalize hnext : c.mode = nextMode at hmove
    cases hmove with
    | startup hstartup => exact ⟨h.gains (.inl hstartup), rfl⟩
    | startupFull hstartup => simp [hstartup] at hnext
    | drain hdrain =>
        refine ⟨?_, rfl⟩
        simp [Control.Settled, Control.gainsOfMode, Control.setGains, hdrain]
    | drained hdrain => simp [hdrain] at hnext
    | @probeBw c₂ _ hprobeBw hcycle =>
        have hkept := hcycle.cycleOnly_of_atEvent
        refine ⟨?_, hkept.fullBandwidthReached⟩
        have hmode₂ : c₂.mode = .probeBw := hkept.mode.trans hprobeBw
        simp [Control.Settled, Control.gainsOfMode, Control.setGains, Control.pacingGainForPhase,
          hmode₂]
    | minRttExpired hprobeBw => simp [hprobeBw] at hnext
    | probeRtt hrtt => exact ⟨h.gains (.inr hrtt), rfl⟩
    | probeRttScheduled hrtt => exact ⟨h.gains (.inr hrtt), rfl⟩
    | probeRttLasts hrtt => exact ⟨h.gains (.inr hrtt), rfl⟩
    | probeRttOver hrtt => simp [hrtt] at hnext
  exact ⟨h.of_same hmode hsettled.2 hcalls fun _ => hsettled.1, hsettled.1⟩

theorem changed (h : c.Coherent log) (hmove : ModeMove event c calls c₁ nextMode)
    (hne : nextMode ≠ c.mode) (hchange : ModeChange now c₁ nextMode calls' c') :
    c'.Coherent (log ++ calls ++ calls') := by
  have hfull := hchange.full_eq.trans (hmove.full_of_ne hne h.full)
  refine h.entered (fun _ => hmove.changeMode_notMem) hchange.changeMode_mem
    (hmove.next_of_ne hne) hchange.mode_eq hfull ?_
  rintro rfl
  cases hchange
  rfl

theorem sampling (h : c.Coherent log) (hsampling : Sampling event c c') : c'.Coherent log := by
  cases hsampling
  exact ⟨h.full, h.startup, h.drain, h.gains⟩

theorem eventMove (h : c.Coherent log) (hmove : EventMove event c calls c') :
    c'.Coherent (log ++ calls) ∧ c'.Settled := by
  cases hmove with
  | react hsampling hloop =>
      obtain ⟨hlooped, hsettled⟩ := @LoopMove.induct _ _ _ _ Control.Coherent
        (fun c log => c.Coherent log ∧ c.Settled) (fun _ _ _ _ h hmove => h.handled hmove)
        (fun _ _ _ _ _ _ _ h hmove hne hchange => h.changed hmove hne hchange) hloop _
        (h.sampling hsampling)
      unfold Control.maybeEnterQuiescence
      split
      · exact ⟨⟨hlooped.full, hlooped.startup, hlooped.drain, hlooped.gains⟩, hsettled⟩
      · exact ⟨hlooped, hsettled⟩

theorem sendMove {bytesInFlight : Nat} (h : c.Coherent log)
    (hmove : SendMove now bytesInFlight c calls c') : c'.Coherent (log ++ calls) := by
  cases hmove with
  | busy => exact h.of_same rfl rfl (fun _ => List.not_mem_nil) h.gains
  | early => exact h.of_same rfl rfl (fun _ => List.not_mem_nil) h.gains
  | probeBw => exact h.of_same rfl rfl (fun _ => List.not_mem_nil) h.gains
  | probeRttLasts => exact h.of_same rfl rfl (fun _ => List.not_mem_nil) h.gains
  | @probeRttOver c₂ _ hmode hquiet hover hchange =>
      have hset : c.fullBandwidthReached = true := by
        by_contra hfull
        have hstartup := h.full.mpr (Bool.eq_false_iff.mpr hfull)
        simp [hmode] at hstartup
      have hentered := @entered c c₂ .probeBw [] calls log h (fun _ => List.not_mem_nil)
        hchange.changeMode_mem (by simp [hmode]) hchange.mode_eq (hchange.full_eq.trans hset) nofun
      rw [List.append_nil] at hentered
      exact ⟨hentered.full, hentered.startup, hentered.drain, hentered.gains⟩

end Control.Coherent

/-! ## Runs -/

namespace Bbr2Sender

def gainsOfMode (s : Bbr2Sender) : Rat × Rat :=
  match s.mode with
  | .startup => (s.params.startupPacingGain, s.params.startupCwndGain)
  | .drain => (s.params.drainPacingGain, s.params.drainCwndGain)
  | .probeBw => (s.pacingGainForPhase s.probeBw.cycle.phase, s.params.probeBwCwndGain)
  | .probeRtt => (1, 1)

theorem create_coherent (now : Int) (rttStats : RttStats) (initialCwnd maxCwnd : Nat)
    (stream : Nat → Nat) :
    (create now rttStats initialCwnd maxCwnd stream).control.Coherent [] where
  full := ⟨fun _ => rfl, fun _ => rfl⟩
  startup := List.not_mem_nil
  drain := rfl
  gains _ := rfl

/-- What holds between the calls of a run. -/
structure RunsCoherent (s : Bbr2Sender) (log : List ModeCall) : Prop where
  defaults : s.HasDefaults
  coherent : s.control.Coherent log
  mode : s.mode = modeAfter .startup log

variable {s : Bbr2Sender} {log : List ModeCall}

theorem RunsCoherent.call (h : s.RunsCoherent log) (c : Bbr2Call) :
    (s.call c).RunsCoherent (log ++ s.callLog c) where
  defaults := h.defaults.call c
  coherent := by
    cases c with
    | packetSent => exact h.coherent.sendMove (h.defaults.send_move _ _ _ _)
    | congestionEvent =>
        exact (h.coherent.eventMove (onCongestionEvent_move h.defaults _ _ _ _ _)).1
  mode := by
    obtain ⟨filter, _, hlogged⟩ := h.defaults.call_logged c
    rw [modeAfter_append, ← h.mode]
    exact hlogged.mode

theorem run_coherent (now : Int) (rttStats : RttStats) (initialCwnd maxCwnd : Nat)
    (stream : Nat → Nat) (calls : List Bbr2Call) :
    ((create now rttStats initialCwnd maxCwnd stream).run calls).RunsCoherent
      ((create now rttStats initialCwnd maxCwnd stream).runLog calls) :=
  @run_invariant_logged _ RunsCoherent (fun _ _ c h => h.call c) []
    ⟨create_hasDefaults _ _ _ _ _, create_coherent _ _ _ _ _, rfl⟩ calls

/-- At the end of every congestion event the mode, the flag and the gains fit together, and in
the whole run STARTUP and DRAIN were not entered again. -/
theorem modes_coherent (now : Int) (rttStats : RttStats) (initialCwnd maxCwnd : Nat)
    (stream : Nat → Nat) (calls : List Bbr2Call) (leastUnacked priorInFlight : Nat)
    (eventTime : Int) (ackedPackets : List AckedPacket) (lostPackets : List LostPacket) :
    let start := create now rttStats initialCwnd maxCwnd stream
    let calls := calls ++
      [.congestionEvent leastUnacked priorInFlight eventTime ackedPackets lostPackets]
    let s := start.run calls
    (s.mode = .startup ↔ s.model.fullBandwidthReached = false) ∧
      (s.mode = modeAfter .startup (start.runLog calls) ∧
        .changeMode .startup ∉ start.runLog calls ∧
        (start.runLog calls).count (.changeMode .drain) ≤ 1) ∧
      (s.model.pacingGain, s.model.cwndGain) = s.gainsOfMode := by
  intro start calls' s
  have hbefore := run_coherent now rttStats initialCwnd maxCwnd stream calls
  have hafter := run_coherent now rttStats initialCwnd maxCwnd stream calls'
  have hmove := hbefore.coherent.eventMove (onCongestionEvent_move hbefore.defaults leastUnacked
    priorInFlight eventTime ackedPackets lostPackets)
  have hsettled : s.control.Settled := by
    simp only [s, calls', run_append]
    exact hmove.2
  have hdrain := hafter.coherent.drain
  refine ⟨hafter.coherent.full, ⟨hafter.mode, hafter.coherent.startup, ?_⟩, hsettled⟩
  rw [hdrain]
  split <;> omega

end Bbr2Sender

end BbrChrome
