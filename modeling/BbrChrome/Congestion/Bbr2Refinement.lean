import BbrChrome.Congestion.Bbr2Writes
import BbrChrome.Congestion.Bbr2Machine
import BbrChrome.Congestion.SamplerRun

/-!
# The sender refines the mode machine

`control` forgets what the machine leaves out, and the `…Calls` functions list the calls
that a handler makes. Every handler is a move of the machine with just these calls.
-/

namespace BbrChrome

namespace Bbr2Sender

def control (s : Bbr2Sender) : Control :=
  { params := s.model.params
    mode := s.mode
    phase := s.probeBw.cycle.phase
    cycleStartTime := s.probeBw.cycle.cycleStartTime
    phaseStartTime := s.probeBw.cycle.phaseStartTime
    roundsInPhase := s.probeBw.cycle.roundsInPhase
    roundsSinceProbe := s.probeBw.cycle.roundsSinceProbe
    probeWaitTime := s.probeBw.cycle.probeWaitTime
    hasAdvancedMaxBw := s.probeBw.cycle.hasAdvancedMaxBw
    exitTime := s.exitTime
    lastQuiescenceStart := s.lastQuiescenceStart
    bandwidthLo := s.model.bandwidthLo
    inflightLo := s.model.inflightLo
    pacingGain := s.model.pacingGain
    cwndGain := s.model.cwndGain
    fullBandwidthReached := s.model.fullBandwidthReached
    maxBandwidthFilter := s.model.maxBandwidthFilter
    minRttFilter := s.model.minRttFilter
    numCycles := s.connectionStats.bbrNumCycles }

/-! ## The calls of the handlers -/

def endFirstRoundCalls (s : Bbr2Sender) (event : Bbr2CongestionEvent) : List ModeCall :=
  if event.lastSampleIsAppLimited then []
  else [.advanceMaxBandwidthFilter s.probeBw.cycle.phase]

def continueProbeDownCalls (s : Bbr2Sender) (event : Bbr2CongestionEvent) : List ModeCall :=
  let s := (s.maybeAdaptUpperBounds event).1
  let (s, timeToProbe) := s.isTimeToProbeBandwidth event
  if timeToProbe then s.control.leaveProbeDownCalls
  else if s.hasPhaseLasted s.model.minRtt event then s.control.leaveProbeDownCalls
  else if s.model.inflightHiWithHeadroom < event.bytesInFlight then []
  else if event.bytesInFlight < s.model.bdp s.model.maxBandwidth then
    s.control.leaveProbeDownCalls
  else []

def updateProbeDownCalls (s : Bbr2Sender) (event : Bbr2CongestionEvent) : List ModeCall :=
  if s.probeBw.cycle.roundsInPhase = 1 ∧ event.endOfRoundTrip = true then
    let calls := s.endFirstRoundCalls event
    let s := s.endFirstRoundOfProbeDown event
    if s.probeBw.lastCycleStoppedRiskyProbe && !s.probeBw.lastCycleProbedTooHigh then
      calls ++ s.control.leaveProbeDownCalls
    else calls ++ s.continueProbeDownCalls event
  else s.continueProbeDownCalls event

def updateProbeCruiseCalls (s : Bbr2Sender) (event : Bbr2CongestionEvent) : List ModeCall :=
  let s := (s.maybeAdaptUpperBounds event).1
  let (s, timeToProbe) := s.isTimeToProbeBandwidth event
  if timeToProbe then s.control.leaveProbeDownCalls else []

def updateProbeUpCalls (s : Bbr2Sender) (priorInFlight : Nat) (event : Bbr2CongestionEvent) :
    List ModeCall :=
  let (s, result) := s.maybeAdaptUpperBounds event
  if result = .adaptedProbedTooHigh then [.enterProbeDown]
  else
    let s := s.probeInflightHighUpward event
    let isRisky := s.probeBw.lastCycleProbedTooHigh && s.model.inflightHi ≤ priorInFlight
    let isQueuing := !isRisky && 0 < s.probeBw.cycle.roundsInPhase &&
      s.queuingThreshold ≤ event.bytesInFlight
    if isRisky || isQueuing then [.enterProbeDown] else []

def updatePhaseCalls (s : Bbr2Sender) (priorInFlight : Nat) (event : Bbr2CongestionEvent) :
    List ModeCall :=
  match s.probeBw.cycle.phase with
  | .probeUp => s.updateProbeUpCalls priorInFlight event
  | .probeDown => s.updateProbeDownCalls event
  | .probeCruise => s.updateProbeCruiseCalls event
  | .probeRefill => []
  | .probeNotStarted => []

def modeOnCongestionEventCalls (s : Bbr2Sender) (priorInFlight : Nat) (eventTime : Int)
    (event : Bbr2CongestionEvent) : List ModeCall :=
  match s.mode with
  | .probeBw =>
      (if event.endOfRoundTrip then s.countRound eventTime else s).updatePhaseCalls priorInFlight
        event
  | _ => []

def probeBwEnterCalls (s : Bbr2Sender) (now : Int) : List ModeCall :=
  match s.probeBw.cycle.phase with
  | .probeNotStarted => [.enterProbeDown]
  | phase =>
      let s := s.setCycle { s.probeBw.cycle with cycleStartTime := now }
      if phase = .probeCruise ∨ phase = .probeRefill then s.control.leaveProbeDownCalls else []

def changeModeCalls (s : Bbr2Sender) (nextMode : Bbr2Mode) (now : Int) : List ModeCall :=
  let s := { s.leaveMode now with mode := nextMode }
  .changeMode nextMode :: match nextMode with
    | .probeBw => s.probeBwEnterCalls now
    | _ => []

def runModesCalls (priorInFlight : Nat) (eventTime : Int) (event : Bbr2CongestionEvent) :
    Nat → Bbr2Sender → List ModeCall
  | 0, _ => []
  | changes + 1, s =>
      let calls := s.modeOnCongestionEventCalls priorInFlight eventTime event
      let (s, nextMode) := s.modeOnCongestionEvent priorInFlight eventTime event
      if nextMode = s.mode then calls
      else calls ++ s.changeModeCalls nextMode eventTime ++
        runModesCalls priorInFlight eventTime event changes (s.changeMode nextMode eventTime)

def onCongestionEventCalls (s : Bbr2Sender) (priorInFlight : Nat) (eventTime : Int)
    (ackedPackets : List AckedPacket) (lostPackets : List LostPacket) : List ModeCall :=
  runModesCalls priorInFlight eventTime
    (s.congestionEvent priorInFlight eventTime ackedPackets lostPackets)
    (kMaxModeChangesPerCongestionEvent + 1)
    (s.sampled priorInFlight eventTime ackedPackets lostPackets)

def onExitQuiescenceCalls (s : Bbr2Sender) (now : Int) : List ModeCall :=
  if s.lastQuiescenceStart ≠ 0 then
    let (s, nextMode) := s.modeOnExitQuiescence now (min now s.lastQuiescenceStart)
    if nextMode ≠ s.mode then s.changeModeCalls nextMode now else []
  else []

def onPacketSentCalls (s : Bbr2Sender) (sentTime : Int) (bytesInFlight bytes : Nat) :
    List ModeCall :=
  let s := s.countPacketSent bytes
  if bytesInFlight = 0 ∧ s.params.avoidUnnecessaryProbeRtt = true then
    s.onExitQuiescenceCalls sentTime
  else []

/-! ## What the machine does not see -/

variable {s s' : Bbr2Sender} {event : Bbr2CongestionEvent}

theorem control_askToProbe :
    ((s.maybeAdaptUpperBounds event).1.isTimeToProbeBandwidth event).1.control = s.control :=
  calc _ = _ := isTimeToProbeBandwidth_changes.keeps control rfl
    _ = _ := maybeAdaptUpperBounds_changes.keeps control rfl

/-! ## The operations of the cycle -/

theorem control_enterProbeDown (hlo : s.model.params.bwLoMode = .default)
    (probedTooHigh stoppedRiskyProbe : Bool) (now : Int) :
    (s.enterProbeDown probedTooHigh stoppedRiskyProbe now).control =
      s.control.enterProbeDown (s.random.stream s.random.calls)
        (s.random.stream (s.random.calls + 1)) now := by
  have hkept : (if s.params.bwLoMode ≠ .default then s.model.clearBandwidthLo else s.model) =
      s.model := if_neg (not_not_intro hlo)
  unfold enterProbeDown
  simp only [hkept]
  rfl

theorem control_leaveProbeDown : s.leaveProbeDown.control = s.control.leaveProbeDown := by
  unfold leaveProbeDown exitProbeDown Control.leaveProbeDown
  by_cases hphase : s.probeBw.cycle.phase = .probeDown
  · cases hadvanced : s.probeBw.cycle.hasAdvancedMaxBw with
    | true =>
        have hkeeps : ¬ s.control.MustAdvance := fun h => by
          have hflag : s.probeBw.cycle.hasAdvancedMaxBw = false := h.2
          rw [hadvanced] at hflag
          cases hflag
        rw [if_pos hphase, if_pos rfl, if_neg hkeeps]
    | false =>
        have hmust : s.control.MustAdvance := ⟨hphase, hadvanced⟩
        rw [if_pos hphase, if_neg (by simp), if_pos hmust]
        rfl
  · have hkeeps : ¬ s.control.MustAdvance := fun h => hphase h.1
    rw [if_neg hphase, if_neg hkeeps]

theorem control_enterProbeCruise (now : Int) :
    ∃ inflightLo, (s.enterProbeCruise now).control =
      s.control.enterProbeCruise inflightLo now := by
  refine ⟨(s.leaveProbeDown.model.capInflightLo s.leaveProbeDown.model.inflightHi).inflightLo, ?_⟩
  have hcap : ∀ m : Bbr2NetworkModel, ∀ cap,
      m.capInflightLo cap = { m with inflightLo := (m.capInflightLo cap).inflightLo } :=
    fun _ _ => Bbr2NetworkModel.capInflightLo_changes _
  unfold enterProbeCruise Control.enterProbeCruise
  rw [← control_leaveProbeDown]
  dsimp only
  rw [hcap]
  rfl

theorem control_enterProbeRefill (probeUpRounds : Nat) (now : Int) :
    (s.enterProbeRefill probeUpRounds now).control = s.control.enterProbeRefill now := by
  unfold enterProbeRefill Control.enterProbeRefill
  rw [← control_leaveProbeDown]
  generalize s.leaveProbeDown = left
  rfl

/-! ## The phases -/

theorem endFirstRound_move (hphase : s.probeBw.cycle.phase = .probeDown)
    (hrounds : s.probeBw.cycle.roundsInPhase = 1) (hend : event.endOfRoundTrip = true) :
    FirstRound event s.control (s.endFirstRoundCalls event)
      (s.endFirstRoundOfProbeDown event).control := by
  unfold endFirstRoundOfProbeDown endFirstRoundCalls
  split
  · exact .skip _
  · exact .advance hphase hrounds hend

/-- The reno check fails only for a cycle that has rounds left. -/
theorem rounds_of_not_reno (hreno : s.isTimeToProbeForRenoCoexistence 1 = false)
    (hcheck : s.params.enableRenoCoexistence = true)
    (hsmall : s.params.probeBwProbeMaxRounds < 2 ^ 53) :
    s.probeBw.cycle.roundsSinceProbe < s.params.probeBwProbeMaxRounds := by
  by_contra hge
  have hrule : ∀ rounds, rounds ≤ s.params.probeBwProbeMaxRounds →
      float64 (float64 rounds * 1) ≤ float64 s.probeBw.cycle.roundsSinceProbe := by
    intro rounds hle
    have hexact : float64 (rounds : Rat) = rounds :=
      Rounding.roundSig_natCast_of_lt (lt_of_le_of_lt hle hsmall)
    rw [mul_one, hexact]
    exact Rounding.roundSig_natCast_le (by omega) (lt_of_le_of_lt hle hsmall)
  simp only [isTimeToProbeForRenoCoexistence, hcheck, Bool.not_true, Bool.false_eq_true, if_false,
    decide_eq_false_iff_not] at hreno
  apply hreno
  split
  · exact hrule _ (min_le_left _ _)
  · exact hrule _ (le_refl _)

theorem waits_of_not_timeToProbe (h : (s.isTimeToProbeBandwidth event).2 = false) :
    s.control.Waits event.eventTime := by
  unfold isTimeToProbeBandwidth at h
  split at h
  · cases h
  · rename_i hcycle
    split at h
    · cases h
    · rename_i hreno
      simp only [hasCycleLasted, decide_eq_true_eq, not_lt] at hcycle
      exact ⟨hcycle, rounds_of_not_reno (Bool.eq_false_iff.mpr hreno)⟩

theorem continueProbeDown_move (hphase : s.probeBw.cycle.phase = .probeDown) :
    PhaseMove event s.control (s.continueProbeDownCalls event)
      (s.continueProbeDown event).control := by
  have hsame := @control_askToProbe s event
  unfold continueProbeDown continueProbeDownCalls
  dsimp only
  cases hprobe : ((s.maybeAdaptUpperBounds event).1.isTimeToProbeBandwidth event).2 with
  | true =>
      simp only [if_true]
      rw [control_enterProbeRefill, hsame]
      exact .downToRefill hphase
  | false =>
      have hwaits := waits_of_not_timeToProbe hprobe
      rw [maybeAdaptUpperBounds_changes.keeps control rfl] at hwaits
      simp only [Bool.false_eq_true, if_false]
      generalize ((s.maybeAdaptUpperBounds event).1.isTimeToProbeBandwidth event).1 = t at *
      have hcruise : PhaseMove event s.control t.control.leaveProbeDownCalls
          (t.enterProbeCruise event.eventTime).control := by
        obtain ⟨inflightLo, hcontrol⟩ := t.control_enterProbeCruise event.eventTime
        rw [hcontrol, hsame]
        exact .downToCruise hphase hwaits inflightLo
      split
      · exact hcruise
      · rename_i hlasted
        have hshort : event.eventTime - s.control.phaseStartTime ≤
            s.control.minRttFilter.minRtt := by
          simp only [hasPhaseLasted, decide_eq_true_eq, not_lt] at hlasted
          rw [← hsame]
          exact hlasted
        split
        · rw [hsame]
          exact .down hphase hwaits hshort
        · split
          · exact hcruise
          · rw [hsame]
            exact .down hphase hwaits hshort

theorem updateProbeDown_move (hphase : s.probeBw.cycle.phase = .probeDown) :
    CycleMove event s.control (s.updateProbeDownCalls event) (s.updateProbeDown event).control := by
  unfold updateProbeDown updateProbeDownCalls
  split
  · rename_i hround
    have hfirst := endFirstRound_move hphase hround.1 hround.2
    have hdown : (s.endFirstRoundOfProbeDown event).probeBw.cycle.phase = .probeDown :=
      (endFirstRoundOfProbeDown_changes.keeps (·.probeBw.cycle.phase) rfl).trans hphase
    dsimp only
    split
    · rw [control_enterProbeRefill]
      exact .update hfirst (.downToRefill hdown)
    · exact .update hfirst (continueProbeDown_move hdown)
  · exact .update (.skip _) (continueProbeDown_move hphase)

theorem updateProbeCruise_move (hphase : s.probeBw.cycle.phase = .probeCruise) :
    PhaseMove event s.control (s.updateProbeCruiseCalls event)
      (s.updateProbeCruise event).control := by
  have hsame := @control_askToProbe s event
  unfold updateProbeCruise updateProbeCruiseCalls
  dsimp only
  cases hprobe : ((s.maybeAdaptUpperBounds event).1.isTimeToProbeBandwidth event).2 with
  | true =>
      simp only [if_true]
      rw [control_enterProbeRefill, hsame]
      exact .cruiseToRefill hphase
  | false =>
      have hwaits := waits_of_not_timeToProbe hprobe
      rw [maybeAdaptUpperBounds_changes.keeps control rfl] at hwaits
      simp only [Bool.false_eq_true, if_false]
      rw [hsame]
      exact .cruise hphase hwaits

theorem updateProbeRefill_move (hphase : s.probeBw.cycle.phase = .probeRefill) :
    PhaseMove event s.control [] (s.updateProbeRefill event).control := by
  unfold updateProbeRefill
  dsimp only
  split
  · have hup : ((s.maybeAdaptUpperBounds event).1.enterProbeUp event.eventTime).control =
        (s.maybeAdaptUpperBounds event).1.control.enterProbeUp event.eventTime := rfl
    rw [hup, maybeAdaptUpperBounds_changes.keeps control rfl]
    exact .refillToUp hphase
  · rw [maybeAdaptUpperBounds_changes.keeps control rfl]
    exact .refill hphase

theorem updateProbeUp_move (hlo : s.model.params.bwLoMode = .default)
    (hphase : s.probeBw.cycle.phase = .probeUp) (priorInFlight : Nat) :
    PhaseMove event s.control (s.updateProbeUpCalls priorInFlight event)
      (s.updateProbeUp priorInFlight event).control := by
  have hdown : ∀ t : Bbr2Sender, t.control = s.control → ∀ probedTooHigh stoppedRiskyProbe,
      PhaseMove event s.control [.enterProbeDown]
        (t.enterProbeDown probedTooHigh stoppedRiskyProbe event.eventTime).control := by
    intro t ht probedTooHigh stoppedRiskyProbe
    have hmode : t.model.params.bwLoMode = .default := by
      rw [← hlo]
      exact congrArg (·.params.bwLoMode) ht
    rw [control_enterProbeDown hmode, ht]
    exact .upToDown hphase _ _
  unfold updateProbeUp updateProbeUpCalls
  dsimp only
  split
  · exact hdown _ (maybeAdaptUpperBounds_changes.keeps control rfl) _ _
  · have hsame : ((s.maybeAdaptUpperBounds event).1.probeInflightHighUpward event).control =
        s.control := by
      rw [probeInflightHighUpward_changes.keeps control rfl,
        maybeAdaptUpperBounds_changes.keeps control rfl]
    split
    · exact hdown _ hsame _ _
    · rw [hsame]
      exact .up hphase

/-! ## The modes -/

theorem control_checkStartupExit :
    (s.checkStartupExit event).control = s.control ∨
      (s.checkStartupExit event).control = { s.control with fullBandwidthReached := true } := by
  cases hbefore : s.model.fullBandwidthReached with
  | true =>
      have hskips : s.checkStartupExit event = s := if_neg (by simp [hbefore])
      exact .inl (congrArg control hskips)
  | false =>
      have hflag : (s.checkStartupExit event).control =
          { s.control with
            fullBandwidthReached := (s.checkStartupExit event).model.fullBandwidthReached } :=
        congrArg control checkStartupExit_changes
      rw [hflag]
      cases (s.checkStartupExit event).model.fullBandwidthReached with
      | true => exact .inr rfl
      | false =>
          left
          rw [← hbefore]
          rfl

theorem startupOnCongestionEvent_move (hmode : s.mode = .startup)
    (hpacing : s.model.params.decreaseStartupPacingAtEndOfRound = false) :
    ModeMove event s.control [] (s.startupOnCongestionEvent event).1.control
      (s.startupOnCongestionEvent event).2 := by
  have hskip : (s.checkStartupExit event).params.decreaseStartupPacingAtEndOfRound = false := by
    rw [← hpacing]
    exact congrArg (·.decreaseStartupPacingAtEndOfRound) (checkStartupExit_changes.keeps params rfl)
  unfold startupOnCongestionEvent
  dsimp only
  rw [hskip]
  simp only [Bool.false_eq_true, if_false]
  have hfull : (s.checkStartupExit event).control.fullBandwidthReached =
    (s.checkStartupExit event).model.fullBandwidthReached := rfl
  rw [← hfull]
  rcases @control_checkStartupExit s event with hsame | hreached
  · rw [hsame]
    cases hflag : s.control.fullBandwidthReached with
    | true =>
        have heq : s.control = { s.control with fullBandwidthReached := true } := by
          rw [← hflag]
        rw [if_pos rfl]
        nth_rewrite 2 [heq]
        exact .startupFull hmode
    | false => exact .startup hmode hflag
  · rw [hreached]
    exact .startupFull hmode

theorem updatePhase_move (hlo : s.model.params.bwLoMode = .default) (priorInFlight : Nat) :
    ∃ c', CycleMove event s.control (s.updatePhaseCalls priorInFlight event) c' ∧
      ((s.updatePhase priorInFlight event).2 = false ∧
          (s.updatePhase priorInFlight event).1.control = c' ∨
        (s.updatePhase priorInFlight event).2 = true ∧
          (s.updatePhase priorInFlight event).1.control =
            { c' with minRttFilter := ⟨event.sampleMinRtt, event.eventTime⟩ } ∧
          s.control.phase = .probeDown ∧ c'.phase ≠ .probeDown) := by
  unfold updatePhase updatePhaseCalls
  cases hphase : s.probeBw.cycle.phase with
  | probeNotStarted => exact ⟨_, .update (.skip _) (.notStarted hphase), .inl ⟨rfl, rfl⟩⟩
  | probeUp => exact ⟨_, .update (.skip _) (updateProbeUp_move hlo hphase _), .inl ⟨rfl, rfl⟩⟩
  | probeCruise => exact ⟨_, .update (.skip _) (updateProbeCruise_move hphase), .inl ⟨rfl, rfl⟩⟩
  | probeRefill => exact ⟨_, .update (.skip _) (updateProbeRefill_move hphase), .inl ⟨rfl, rfl⟩⟩
  | probeDown =>
      refine ⟨_, updateProbeDown_move hphase, ?_⟩
      dsimp only
      split
      · rename_i hleft
        unfold Bbr2NetworkModel.maybeExpireMinRtt
        split
        · exact .inl ⟨rfl, rfl⟩
        · split
          · exact .inl ⟨rfl, rfl⟩
          · exact .inr ⟨rfl, rfl, hphase, hleft⟩
      · exact .inl ⟨rfl, rfl⟩

/-- The sender with the gains of its phase. -/
def withPhaseGains (s : Bbr2Sender) : Bbr2Sender :=
  { s with
    model := s.model.setGains (s.pacingGainForPhase s.probeBw.cycle.phase)
      s.params.probeBwCwndGain }

theorem probeBwOnCongestionEvent_move (hmode : s.mode = .probeBw)
    (hlo : s.model.params.bwLoMode = .default) (priorInFlight : Nat) :
    ModeMove event s.control
      (s.modeOnCongestionEventCalls priorInFlight event.eventTime event)
      (s.probeBwOnCongestionEvent priorInFlight event.eventTime event).1.control
      (s.probeBwOnCongestionEvent priorInFlight event.eventTime event).2 := by
  let t := if event.endOfRoundTrip then s.countRound event.eventTime else s
  have hcounted : t.control = s.control.atEvent event := by
    simp only [t, Control.atEvent]
    split <;> rfl
  have hlo' : t.model.params.bwLoMode = .default := by
    simp only [t]
    split
    · exact hlo
    · exact hlo
  have hcalls : s.modeOnCongestionEventCalls priorInFlight event.eventTime event =
      t.updatePhaseCalls priorInFlight event := by
    simp only [modeOnCongestionEventCalls, hmode, t]
  obtain ⟨c', hcycle, hend⟩ := @updatePhase_move t event hlo' priorInFlight
  rw [hcounted] at hcycle
  have heq : s.probeBwOnCongestionEvent priorInFlight event.eventTime event =
      if (t.updatePhase priorInFlight event).2 then
        ((t.updatePhase priorInFlight event).1, .probeRtt)
      else
        ((t.updatePhase priorInFlight event).1.withPhaseGains, .probeBw) := rfl
  rw [hcalls, heq]
  rcases hend with ⟨hstay, hcontrol⟩ | ⟨hswitch, hcontrol, hbefore, hafter⟩
  · have hgains : ModeMove event s.control (t.updatePhaseCalls priorInFlight event)
        (c'.setGains c'.pacingGainForPhase c'.params.probeBwCwndGain) .probeBw :=
      .probeBw hmode hcycle
    rw [← hcontrol] at hgains
    rw [hstay, if_neg Bool.false_ne_true]
    exact hgains
  · rw [hswitch, if_pos rfl, hcontrol]
    have hphase : (s.control.atEvent event).phase = s.control.phase := by
      unfold Control.atEvent
      split <;> rfl
    rw [hcounted, hphase] at hbefore
    exact .minRttExpired hmode hcycle hbefore hafter

theorem probeRttOnCongestionEvent_move (hmode : s.mode = .probeRtt) :
    ModeMove event s.control [] (s.probeRttOnCongestionEvent event).1.control
      (s.probeRttOnCongestionEvent event).2 := by
  have htarget : s.control.probeRttFlight =
    max s.probeRttInflightTarget s.getMinimumCongestionWindow := rfl
  unfold probeRttOnCongestionEvent
  by_cases hunset : s.exitTime = 0
  · rw [if_pos hunset]
    split
    · rename_i hflight
      exact .probeRttScheduled hmode hunset (by rw [htarget]; omega)
    · rename_i hflight
      exact .probeRtt hmode hunset (by rw [htarget]; omega)
  · rw [if_neg hunset]
    dsimp only
    split
    · rename_i hover
      exact .probeRttOver hmode hunset hover
    · rename_i hlasts
      exact .probeRttLasts hmode hunset (Int.not_lt.mp hlasts)

theorem drainOnCongestionEvent_move (hmode : s.mode = .drain) :
    ModeMove event s.control [] (s.drainOnCongestionEvent event).1.control
      (s.drainOnCongestionEvent event).2 := by
  unfold drainOnCongestionEvent
  dsimp only
  split
  · exact .drained hmode
  · exact .drain hmode

/-- Every handler is a move of the machine. -/
theorem modeOnCongestionEvent_move (hdefault : s.model.params.IsDefault) (priorInFlight : Nat) :
    ModeMove event s.control
      (s.modeOnCongestionEventCalls priorInFlight event.eventTime event)
      (s.modeOnCongestionEvent priorInFlight event.eventTime event).1.control
      (s.modeOnCongestionEvent priorInFlight event.eventTime event).2 := by
  unfold modeOnCongestionEvent
  cases hmode : s.mode with
  | startup =>
      simp only [modeOnCongestionEventCalls, hmode]
      exact startupOnCongestionEvent_move hmode hdefault.startupPacing
  | drain =>
      simp only [modeOnCongestionEventCalls, hmode]
      exact drainOnCongestionEvent_move hmode
  | probeBw => exact probeBwOnCongestionEvent_move hmode hdefault.bwLoMode priorInFlight
  | probeRtt =>
      simp only [modeOnCongestionEventCalls, hmode]
      exact probeRttOnCongestionEvent_move hmode

theorem control_switch (nextMode : Bbr2Mode) (now : Int) :
    ({ s.leaveMode now with mode := nextMode } : Bbr2Sender).control =
      s.control.switch nextMode := by
  unfold leaveMode Control.switch
  cases hmode : s.mode <;> simp [control, hmode, Bbr2NetworkModel.clearBandwidthLo]

theorem leaveProbeDownCalls_of_ne {c : Control} (hphase : c.phase ≠ .probeDown) :
    c.leaveProbeDownCalls = [] :=
  if_neg fun h => hphase h.1

theorem probeBwEnter_move {c : Control} (hlo : s.model.params.bwLoMode = .default)
    (hcontrol : s.control = c.switch .probeBw) (now : Int) :
    ModeChange now c .probeBw (.changeMode .probeBw :: s.probeBwEnterCalls now)
      (s.probeBwEnter now).control := by
  let t := s.setCycle { s.probeBw.cycle with cycleStartTime := now }
  have ht : t.control = { c.switch .probeBw with cycleStartTime := now } := by
    rw [← hcontrol]
    rfl
  have hphase : s.probeBw.cycle.phase = c.phase := congrArg Control.phase hcontrol
  unfold probeBwEnter probeBwEnterCalls
  cases hc : s.probeBw.cycle.phase with
  | probeNotStarted =>
      simp only
      rw [control_enterProbeDown hlo, hcontrol]
      exact .firstCycle (hphase.symm.trans hc) _ _
  | probeUp =>
      simp only [reduceCtorEq, if_false, or_self]
      change ModeChange now c _ _ t.control
      rw [ht]
      exact .otherPhase (.inl (hphase.symm.trans hc))
  | probeDown =>
      simp only [reduceCtorEq, if_false, or_self]
      change ModeChange now c _ _ t.control
      rw [ht]
      exact .otherPhase (.inr (hphase.symm.trans hc))
  | probeCruise =>
      simp only [if_true, reduceCtorEq, or_false]
      change ModeChange now c _ (_ :: t.control.leaveProbeDownCalls)
        (t.enterProbeCruise now).control
      obtain ⟨inflightLo, hcruise⟩ := t.control_enterProbeCruise now
      have hnot : t.control.phase ≠ .probeDown := by
        change s.probeBw.cycle.phase ≠ _
        rw [hc]
        exact CyclePhase.noConfusion
      rw [leaveProbeDownCalls_of_ne hnot, hcruise, ht]
      exact .cruise (hphase.symm.trans hc) inflightLo
  | probeRefill =>
      simp only [if_true, reduceCtorEq, false_or, if_false]
      change ModeChange now c _ (_ :: t.control.leaveProbeDownCalls)
        (t.enterProbeRefill _ now).control
      have hnot : t.control.phase ≠ .probeDown := by
        change s.probeBw.cycle.phase ≠ _
        rw [hc]
        exact CyclePhase.noConfusion
      rw [leaveProbeDownCalls_of_ne hnot, control_enterProbeRefill, ht]
      exact .refill (hphase.symm.trans hc)

/-- Every change of the mode is one of the machine. -/
theorem changeMode_move (hlo : s.model.params.bwLoMode = .default) (nextMode : Bbr2Mode)
    (now : Int) :
    ModeChange now s.control nextMode (s.changeModeCalls nextMode now)
      (s.changeMode nextMode now).control := by
  have hswitch := s.control_switch nextMode now
  have hparams : ({ s.leaveMode now with mode := nextMode } : Bbr2Sender).model.params.bwLoMode =
      .default := by
    rw [← hlo]
    exact congrArg (·.params.bwLoMode) hswitch
  unfold changeMode changeModeCalls enterMode
  generalize ({ s.leaveMode now with mode := nextMode } : Bbr2Sender) = t at *
  cases nextMode with
  | startup =>
      have hmode : t.mode = .startup := congrArg Control.mode hswitch
      simp only [hmode, hswitch]
      exact .startup _
  | drain =>
      have hmode : t.mode = .drain := congrArg Control.mode hswitch
      simp only [hmode, hswitch]
      exact .drain _
  | probeRtt =>
      have hmode : t.mode = .probeRtt := congrArg Control.mode hswitch
      have hrtt : t.probeRttEnter.control = { t.control.setGains 1 1 with exitTime := 0 } := rfl
      simp only [hmode, hrtt, hswitch]
      exact .probeRtt _
  | probeBw =>
      have hmode : t.mode = .probeBw := congrArg Control.mode hswitch
      simp only [hmode]
      exact probeBwEnter_move hparams hswitch now

/-- One turn of the loop over the modes: the handler of the mode leaves `t` and asks for
`nextMode`, and `t` changes to it. -/
structure Turn (event : Bbr2CongestionEvent) (s : Bbr2Sender) (handlerCalls : List ModeCall)
    (t : Bbr2Sender) (nextMode : Bbr2Mode) : Prop where
  mode_eq : t.mode = s.mode
  move : ModeMove event s.control handlerCalls t.control nextMode
  change : ModeChange event.eventTime t.control nextMode
    (t.changeModeCalls nextMode event.eventTime)
    (t.changeMode nextMode event.eventTime).control
  params : (t.changeMode nextMode event.eventTime).model.params.IsDefault
  cwnd : (t.changeMode nextMode event.eventTime).cwnd = s.cwnd

theorem modeOnCongestionEvent_turn (hdefault : s.model.params.IsDefault) {priorInFlight : Nat}
    {t : Bbr2Sender} {nextMode : Bbr2Mode}
    (hhandled : s.modeOnCongestionEvent priorInFlight event.eventTime event = (t, nextMode)) :
    Turn event s (s.modeOnCongestionEventCalls priorInFlight event.eventTime event) t nextMode := by
  have hmove := @modeOnCongestionEvent_move s event hdefault priorInFlight
  have hhandler := @modeOnCongestionEvent_changes s event priorInFlight event.eventTime
  have hchange := @changeMode_changes t nextMode event.eventTime
  rw [hhandled] at hmove hhandler
  have hdefault' : t.model.params.IsDefault :=
    (hhandler.keeps (·.model.params) rfl).symm ▸ hdefault
  refine ⟨hmove.mode_eq, hmove, t.changeMode_move hdefault'.bwLoMode nextMode event.eventTime,
    ?_, (hchange.keeps cwnd rfl).trans (hhandler.keeps cwnd rfl)⟩
  rw [hchange.keeps (·.model.params) rfl]
  exact hdefault'

/-- The loop over the modes is one of the machine; its bound on the changes is never met. -/
theorem runModes_move (hdefault : s.model.params.IsDefault) (priorInFlight : Nat) {changes : Nat}
    (hchanges : s.control.changesLeft < changes) :
    LoopMove event s.control (runModesCalls priorInFlight event.eventTime event changes s)
      (runModes priorInFlight event.eventTime event changes s).control := by
  induction changes generalizing s with
  | zero => exact absurd hchanges (Nat.not_lt_zero _)
  | succ changes ih =>
      unfold runModes runModesCalls
      obtain ⟨⟨t, nextMode⟩, hhandled⟩ :
        ∃ r, s.modeOnCongestionEvent priorInFlight event.eventTime event = r := ⟨_, rfl⟩
      have hturn := modeOnCongestionEvent_turn hdefault hhandled
      have hmove := hturn.move
      rw [hhandled]
      dsimp only
      split
      · rename_i hsame
        rw [hsame, hturn.mode_eq] at hmove
        exact .done hmove
      · rename_i hne
        rw [hturn.mode_eq] at hne
        have hless := changesLeft_lt hmove hne hturn.change
        exact .change hmove hne hturn.change (ih hturn.params (by omega))

/-! ## The sampling of an event -/

theorem isProbingForBandwidth_iff :
    s.isProbingForBandwidth = true ↔ s.control.isProbingForBandwidth := by
  unfold isProbingForBandwidth Control.isProbingForBandwidth control
  cases s.mode <;> simp

theorem recordCongestionEvent_probing {m : Bbr2NetworkModel} (hlo : m.params.bwLoMode = .default)
    (sample : CongestionEventSample) (hprobing : event.isProbingForBandwidth = true) :
    (m.recordCongestionEvent sample event).bandwidthLo = m.bandwidthLo ∧
      (m.recordCongestionEvent sample event).inflightLo = m.inflightLo := by
  have hskips : ∀ m : Bbr2NetworkModel, m.adaptLowerBoundsDefault event = m :=
    fun _ => if_pos (by simp [hprobing])
  unfold Bbr2NetworkModel.recordCongestionEvent Bbr2NetworkModel.adaptLowerBounds
  dsimp only
  rw [if_pos hlo, hskips]
  split <;> exact ⟨rfl, rfl⟩

theorem control_recordCongestionEvent (hlo : s.model.params.bwLoMode = .default)
    (sample : CongestionEventSample) :
    ∃ bandwidthLo inflightLo,
      ({ s with model := s.model.recordCongestionEvent sample event } : Bbr2Sender).control =
        { s.control with bandwidthLo, inflightLo } ∧
      (event.isProbingForBandwidth = true →
        bandwidthLo = s.model.bandwidthLo ∧ inflightLo = s.model.inflightLo) := by
  have hrecorded := @Bbr2NetworkModel.recordCongestionEvent_changes s.model event sample
  refine ⟨(s.model.recordCongestionEvent sample event).bandwidthLo,
    (s.model.recordCongestionEvent sample event).inflightLo, ?_,
    recordCongestionEvent_probing hlo sample⟩
  exact congrArg (fun model => ({ s with model } : Bbr2Sender).control) hrecorded

theorem control_sampleCongestionEvent (eventTime : Int) (ackedPackets : List AckedPacket)
    (lostPackets : List LostPacket) :
    let r := s.model.sampleCongestionEvent eventTime ackedPackets lostPackets event
    r.2.2.isProbingForBandwidth = event.isProbingForBandwidth ∧ r.2.2.eventTime = eventTime ∧
      ∃ maxBandwidthFilter minRttFilter,
        ({ s with model := r.1 } : Bbr2Sender).control =
          { s.control with maxBandwidthFilter, minRttFilter } ∧
        (maxBandwidthFilter = s.model.maxBandwidthFilter ∨
          ∃ sample ≤ QuicBandwidth.infinite,
            maxBandwidthFilter = s.model.maxBandwidthFilter.update sample) ∧
        (minRttFilter = s.model.minRttFilter ∨
          minRttFilter = s.model.minRttFilter.update r.2.2.sampleMinRtt eventTime) := by
  have hbound : ∀ maxBandwidth bandwidthLo rounds,
      (s.model.bandwidthSampler.onCongestionEvent eventTime ackedPackets lostPackets maxBandwidth
        bandwidthLo rounds).2.sampleMaxBandwidth ≤ .infinite :=
    fun _ _ _ => BandwidthSampler.onCongestionEvent_sampleMaxBandwidth _ _ _ _ _ _
  refine ⟨rfl, rfl, _, _, rfl, ?_, ?_⟩
  · dsimp only [Bbr2NetworkModel.sampleCongestionEvent]
    split <;> split
    · exact .inr ⟨_, hbound _ _ _, rfl⟩
    · exact .inl rfl
    · exact .inr ⟨_, hbound _ _ _, rfl⟩
    · exact .inl rfl
  · dsimp only [Bbr2NetworkModel.sampleCongestionEvent]
    split <;> split
    · exact .inl rfl
    · exact .inr rfl
    · exact .inl rfl
    · exact .inr rfl

theorem sampled_move (hlo : s.model.params.bwLoMode = .default) (priorInFlight : Nat)
    (eventTime : Int) (ackedPackets : List AckedPacket) (lostPackets : List LostPacket) :
    Sampling (s.congestionEvent priorInFlight eventTime ackedPackets lostPackets) s.control
      (s.sampled priorInFlight eventTime ackedPackets lostPackets).control := by
  obtain ⟨hprobing, htime, maxBandwidthFilter, minRttFilter, hcontrol, hmax, hmin⟩ :=
    @control_sampleCongestionEvent s (s.startCongestionEvent priorInFlight) eventTime ackedPackets
      lostPackets
  unfold sampled congestionEvent Bbr2NetworkModel.onCongestionEventStart
  dsimp only
  rw [(countSlowStart_changes _).keeps control rfl]
  generalize s.model.sampleCongestionEvent eventTime ackedPackets lostPackets
    (s.startCongestionEvent priorInFlight) = r at *
  let t : Bbr2Sender := { s with model := r.1 }
  have hlo' : t.model.params.bwLoMode = .default := by
    rw [← hlo]
    exact congrArg (·.params.bwLoMode) hcontrol
  obtain ⟨bandwidthLo, inflightLo, hrecorded, hkept⟩ :=
    @control_recordCongestionEvent t r.2.2 hlo' r.2.1
  change Sampling r.2.2 s.control
    ({ t with model := t.model.recordCongestionEvent r.2.1 r.2.2 } : Bbr2Sender).control
  rw [hrecorded, show t.control = _ from hcontrol]
  have hsame : t.model.bandwidthLo = s.control.bandwidthLo ∧
      t.model.inflightLo = s.control.inflightLo :=
    ⟨congrArg Control.bandwidthLo hcontrol, congrArg Control.inflightLo hcontrol⟩
  refine .mk s.control maxBandwidthFilter minRttFilter bandwidthLo inflightLo hmax ?_ ?_
  · rw [htime]
    exact hmin
  · intro hc
    have hevent : r.2.2.isProbingForBandwidth = true :=
      hprobing.trans (isProbingForBandwidth_iff.mpr hc)
    exact ⟨(hkept hevent).1.trans hsame.1, (hkept hevent).2.trans hsame.2⟩

/-! ## The operations of the sender -/

theorem control_maybeEnterQuiescence {eventTime : Int} (htime : event.eventTime = eventTime) :
    (s.maybeEnterQuiescence event eventTime).control = s.control.maybeEnterQuiescence event := by
  unfold maybeEnterQuiescence
  by_cases hquiet : event.bytesInFlight = 0 ∧ s.params.avoidUnnecessaryProbeRtt = true
  · have hmachine : s.control.maybeEnterQuiescence event =
        { s.control with lastQuiescenceStart := event.eventTime } := if_pos hquiet
    rw [if_pos hquiet, hmachine, htime]
    rfl
  · have hmachine : s.control.maybeEnterQuiescence event = s.control := if_neg hquiet
    rw [if_neg hquiet, hmachine]

theorem control_finishCongestionEvent (leastUnacked : Nat) :
    (s.finishCongestionEvent leastUnacked event).control =
      s.control.maybeEnterQuiescence event := by
  unfold finishCongestionEvent
  rw [control_maybeEnterQuiescence rfl, (writeOutputs_changes _).keeps control rfl]

/-- A congestion event is a move of the machine. -/
theorem onCongestionEvent_move (hdefault : s.model.params.IsDefault)
    (leastUnacked priorInFlight : Nat) (eventTime : Int) (ackedPackets : List AckedPacket)
    (lostPackets : List LostPacket) :
    EventMove (s.congestionEvent priorInFlight eventTime ackedPackets lostPackets) s.control
      (s.onCongestionEventCalls priorInFlight eventTime ackedPackets lostPackets)
      (s.onCongestionEvent leastUnacked priorInFlight eventTime ackedPackets
        lostPackets).control := by
  have hsampling := s.sampled_move hdefault.bwLoMode priorInFlight eventTime ackedPackets
    lostPackets
  have htime : (s.congestionEvent priorInFlight eventTime ackedPackets lostPackets).eventTime =
    eventTime := rfl
  rw [onCongestionEvent_eq, control_finishCongestionEvent]
  unfold onCongestionEventCalls
  generalize s.congestionEvent priorInFlight eventTime ackedPackets lostPackets = event at *
  generalize s.sampled priorInFlight eventTime ackedPackets lostPackets = started at *
  subst htime
  have hkept : started.model.params = s.model.params := hsampling.params_eq
  have hparams : started.model.params.IsDefault := by
    rw [hkept]
    exact hdefault
  have hfuel : started.control.changesLeft < kMaxModeChangesPerCongestionEvent + 1 :=
    Nat.lt_of_le_of_lt started.control.changesLeft_le (by decide)
  exact .react hsampling (runModes_move hparams priorInFlight hfuel)

theorem onExitQuiescence_stays {now : Int} {t : Int → Bbr2Sender}
    (hquiet : s.lastQuiescenceStart ≠ 0)
    (hexit : ∀ start, s.modeOnExitQuiescence now start = (t start, (t start).mode)) :
    s.onExitQuiescenceCalls now = [] ∧
      s.onExitQuiescence now =
        { t (min now s.lastQuiescenceStart) with lastQuiescenceStart := 0 } := by
  have hsame : ¬ (t (min now s.lastQuiescenceStart)).mode ≠
      (t (min now s.lastQuiescenceStart)).mode := not_not_intro rfl
  unfold onExitQuiescence onExitQuiescenceCalls
  rw [if_pos hquiet, if_pos hquiet, hexit]
  dsimp only
  rw [if_neg hsame, if_neg hsame]
  exact ⟨rfl, rfl⟩

theorem onExitQuiescence_move (hlo : s.model.params.bwLoMode = .default) (now : Int) :
    SendMove now 0 s.control (s.onExitQuiescenceCalls now) (s.onExitQuiescence now).control := by
  by_cases hquiet : s.lastQuiescenceStart = 0
  · unfold onExitQuiescence onExitQuiescenceCalls
    rw [if_neg (not_not_intro hquiet), if_neg (not_not_intro hquiet)]
    exact .busy fun _ _ => hquiet
  · cases hmode : s.mode with
    | startup =>
        have hexit : ∀ start, s.modeOnExitQuiescence now start = (s, s.mode) := by
          simp only [modeOnExitQuiescence, hmode, implies_true]
        obtain ⟨hcalls, hsender⟩ := onExitQuiescence_stays hquiet hexit
        rw [hcalls, hsender]
        exact .early (.inl hmode)
    | drain =>
        have hexit : ∀ start, s.modeOnExitQuiescence now start = (s, s.mode) := by
          simp only [modeOnExitQuiescence, hmode, implies_true]
        obtain ⟨hcalls, hsender⟩ := onExitQuiescence_stays hquiet hexit
        rw [hcalls, hsender]
        exact .early (.inr hmode)
    | probeBw =>
        have hexit : ∀ start, s.modeOnExitQuiescence now start =
            ({ s with model := s.model.postponeMinRttTimestamp (now - start) }, s.mode) := by
          simp only [modeOnExitQuiescence, hmode, implies_true]
        obtain ⟨hcalls, hsender⟩ := onExitQuiescence_stays hquiet hexit
        rw [hcalls, hsender]
        exact .probeBw hmode _
    | probeRtt =>
        have hcontrol : s.control.mode = .probeRtt := hmode
        by_cases hover : s.exitTime < now
        · have hexit : ∀ start, s.modeOnExitQuiescence now start = (s, .probeBw) := by
            simp only [modeOnExitQuiescence, hmode, if_pos hover, implies_true]
          have hleaves : Bbr2Mode.probeBw ≠ s.mode := by
            rw [hmode]
            exact Bbr2Mode.noConfusion
          unfold onExitQuiescence onExitQuiescenceCalls
          simp only [if_pos hquiet, hexit, if_pos hleaves]
          exact .probeRttOver hcontrol hquiet hover (s.changeMode_move hlo .probeBw now)
        · have hexit : ∀ start, s.modeOnExitQuiescence now start = (s, s.mode) := by
            simp only [modeOnExitQuiescence, hmode, if_neg hover, implies_true]
          have hlasts : now ≤ s.control.exitTime := Int.not_lt.mp hover
          obtain ⟨hcalls, hsender⟩ := onExitQuiescence_stays hquiet hexit
          rw [hcalls, hsender]
          exact .probeRttLasts hcontrol hlasts

theorem onPacketSent_move (hlo : s.model.params.bwLoMode = .default) (sentTime : Int)
    (bytesInFlight packetNumber bytes : Nat) :
    SendMove sentTime bytesInFlight s.control (s.onPacketSentCalls sentTime bytesInFlight bytes)
      (s.onPacketSent sentTime bytesInFlight packetNumber bytes).control := by
  have hcounted := (@countPacketSent_changes s bytes).keeps control rfl
  have hlo' : (s.countPacketSent bytes).model.params.bwLoMode = .default := by
    rw [← hlo]
    exact congrArg (·.params.bwLoMode) hcounted
  change SendMove sentTime bytesInFlight s.control _
    (s.beforePacketSent sentTime bytesInFlight bytes).control
  unfold onPacketSentCalls beforePacketSent
  rw [← hcounted]
  generalize s.countPacketSent bytes = t at *
  by_cases hidle : bytesInFlight = 0 ∧ t.params.avoidUnnecessaryProbeRtt = true
  · simp only [if_pos hidle]
    rw [hidle.1]
    exact t.onExitQuiescence_move hlo' sentTime
  · simp only [if_neg hidle]
    exact .busy fun hzero havoid => absurd ⟨hzero, havoid⟩ hidle

end Bbr2Sender

end BbrChrome
