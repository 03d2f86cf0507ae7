import BbrChrome.Congestion.Bbr2Sender

/-!
# The mode machine of BBRv2

What the modes are for, without the sampler and the windows: a machine over the mode, the
cycle of PROBE_BW, the short-term bounds, the gains and the two filters. Its moves leave
open what the sender decides by measurement; the guards say what a decision has checked.
-/

namespace BbrChrome

/-- The calls of interest that an operation makes, in order. -/
inductive ModeCall
  | changeMode (nextMode : Bbr2Mode)
  | enterProbeDown
  | advanceMaxBandwidthFilter (phase : CyclePhase)
deriving DecidableEq, Repr

structure Control where
  params : Bbr2Params
  mode : Bbr2Mode
  phase : CyclePhase
  cycleStartTime : Int
  phaseStartTime : Int
  roundsInPhase : Nat
  roundsSinceProbe : Nat
  probeWaitTime : Int
  hasAdvancedMaxBw : Bool
  exitTime : Int
  lastQuiescenceStart : Int
  bandwidthLo : QuicBandwidth
  inflightLo : Nat
  pacingGain : Rat
  cwndGain : Rat
  fullBandwidthReached : Bool
  maxBandwidthFilter : Bbr2MaxBandwidthFilter
  minRttFilter : MinRttFilter
  numCycles : Nat

/-- The parameters that the constructor chooses, over any limits of the window. -/
def Bbr2Params.IsDefault (params : Bbr2Params) : Prop := ∃ cwndLimits, params = { cwndLimits }

theorem Bbr2Params.IsDefault.bwLoMode {params : Bbr2Params} (h : params.IsDefault) :
    params.bwLoMode = .default := by
  obtain ⟨cwndLimits, rfl⟩ := h
  rfl

theorem Bbr2Params.IsDefault.startupPacing {params : Bbr2Params} (h : params.IsDefault) :
    params.decreaseStartupPacingAtEndOfRound = false := by
  obtain ⟨cwndLimits, rfl⟩ := h
  rfl

namespace Control

/-! ## Operations -/

def setGains (c : Control) (pacingGain cwndGain : Rat) : Control := { c with pacingGain, cwndGain }

def advanceMaxBandwidth (c : Control) : Control :=
  { c with hasAdvancedMaxBw := true, maxBandwidthFilter := c.maxBandwidthFilter.advance }

/-- `rounds` and `wait` are results of `rand()`. -/
def enterProbeDown (c : Control) (rounds wait : Nat) (now : Int) : Control :=
  { c with
    phase := .probeDown
    cycleStartTime := now
    phaseStartTime := now
    roundsInPhase := 0
    roundsSinceProbe := rounds % c.params.probeBwMaxProbeRandRounds
    probeWaitTime := c.params.probeBwProbeBaseDuration +
      (wait % c.params.probeBwProbeMaxRandDuration.toNat : Nat)
    hasAdvancedMaxBw := false
    numCycles := c.numCycles + 1 }

/-- PROBE_DOWN is left with a window that has not advanced yet. -/
def MustAdvance (c : Control) : Prop := c.phase = .probeDown ∧ c.hasAdvancedMaxBw = false

instance (c : Control) : Decidable c.MustAdvance := by unfold MustAdvance; infer_instance

def leaveProbeDown (c : Control) : Control := if c.MustAdvance then c.advanceMaxBandwidth else c

def leaveProbeDownCalls (c : Control) : List ModeCall :=
  if c.MustAdvance then [.advanceMaxBandwidthFilter c.phase] else []

def enterProbeCruise (c : Control) (inflightLo : Nat) (now : Int) : Control :=
  { c.leaveProbeDown with
    phase := .probeCruise, roundsInPhase := 0, phaseStartTime := now, inflightLo }

def enterProbeRefill (c : Control) (now : Int) : Control :=
  { c.leaveProbeDown with
    phase := .probeRefill, roundsInPhase := 0, phaseStartTime := now
    bandwidthLo := .infinite, inflightLo := maxUint64 }

def enterProbeUp (c : Control) (now : Int) : Control :=
  { c with phase := .probeUp, roundsInPhase := 0, phaseStartTime := now }

def countRound (c : Control) (now : Int) : Control :=
  { c with
    roundsSinceProbe :=
      if c.cycleStartTime ≠ now then c.roundsSinceProbe + 1 else c.roundsSinceProbe
    roundsInPhase := if c.phaseStartTime ≠ now then c.roundsInPhase + 1 else c.roundsInPhase }

/-- The cycle at an event: a round that ends with it is counted first. -/
def atEvent (c : Control) (event : Bbr2CongestionEvent) : Control :=
  if event.endOfRoundTrip then c.countRound event.eventTime else c

def pacingGainForPhase (c : Control) : Rat :=
  match c.phase with
  | .probeUp => c.params.probeBwProbeUpPacingGain
  | .probeDown => c.params.probeBwProbeDownPacingGain
  | _ => c.params.probeBwDefaultPacingGain

/-- The flight at which the stay in PROBE_RTT starts to count. -/
def probeRttFlight (c : Control) : Nat :=
  max (toByteCount (float32 (float32
      (c.maxBandwidthFilter.get.toBytesPerPeriod c.minRttFilter.minRtt) *
        c.params.probeRttInflightTargetBdpFraction)))
    c.params.cwndLimits.min

/-- The mode has changed and neither mode has reacted to it, apart from leaving STARTUP. -/
def switch (c : Control) (nextMode : Bbr2Mode) : Control :=
  { c with
    mode := nextMode
    bandwidthLo := if c.mode = .startup then .infinite else c.bandwidthLo }

def isProbingForBandwidth (c : Control) : Prop :=
  c.mode = .startup ∨ c.mode = .probeBw ∧ (c.phase = .probeRefill ∨ c.phase = .probeUp)

/-- It was checked that neither the time nor the rounds ask for a new probe. -/
structure Waits (c : Control) (now : Int) : Prop where
  time : now - c.cycleStartTime ≤ c.probeWaitTime
  rounds : c.params.enableRenoCoexistence = true → c.params.probeBwProbeMaxRounds < 2 ^ 53 →
    c.roundsSinceProbe < c.params.probeBwProbeMaxRounds

end Control

/-! ## Moves of the cycle -/

/-- The end of the first round of PROBE_DOWN, unless its samples are app-limited. -/
inductive FirstRound (event : Bbr2CongestionEvent) : Control → List ModeCall → Control → Prop
  | skip (c : Control) : FirstRound event c [] c
  | advance {c : Control} (hphase : c.phase = .probeDown) (hrounds : c.roundsInPhase = 1)
      (hend : event.endOfRoundTrip = true) :
      FirstRound event c [.advanceMaxBandwidthFilter c.phase] c.advanceMaxBandwidth

inductive PhaseMove (event : Bbr2CongestionEvent) : Control → List ModeCall → Control → Prop
  | notStarted {c : Control} (hphase : c.phase = .probeNotStarted) : PhaseMove event c [] c
  | up {c : Control} (hphase : c.phase = .probeUp) : PhaseMove event c [] c
  | upToDown {c : Control} (hphase : c.phase = .probeUp) (rounds wait : Nat) :
      PhaseMove event c [.enterProbeDown] (c.enterProbeDown rounds wait event.eventTime)
  | down {c : Control} (hphase : c.phase = .probeDown) (hwaits : c.Waits event.eventTime)
      (hshort : event.eventTime - c.phaseStartTime ≤ c.minRttFilter.minRtt) :
      PhaseMove event c [] c
  | downToCruise {c : Control} (hphase : c.phase = .probeDown) (hwaits : c.Waits event.eventTime)
      (inflightLo : Nat) :
      PhaseMove event c c.leaveProbeDownCalls (c.enterProbeCruise inflightLo event.eventTime)
  | downToRefill {c : Control} (hphase : c.phase = .probeDown) :
      PhaseMove event c c.leaveProbeDownCalls (c.enterProbeRefill event.eventTime)
  | cruise {c : Control} (hphase : c.phase = .probeCruise) (hwaits : c.Waits event.eventTime) :
      PhaseMove event c [] c
  | cruiseToRefill {c : Control} (hphase : c.phase = .probeCruise) :
      PhaseMove event c c.leaveProbeDownCalls (c.enterProbeRefill event.eventTime)
  | refill {c : Control} (hphase : c.phase = .probeRefill) : PhaseMove event c [] c
  | refillToUp {c : Control} (hphase : c.phase = .probeRefill) :
      PhaseMove event c [] (c.enterProbeUp event.eventTime)

inductive CycleMove (event : Bbr2CongestionEvent) : Control → List ModeCall → Control → Prop
  | update {c c₁ c' : Control} {calls calls' : List ModeCall}
      (hfirst : FirstRound event c calls c₁) (hmove : PhaseMove event c₁ calls' c') :
      CycleMove event c (calls ++ calls') c'

/-! ## Moves of the modes -/

/-- The handler of the current mode, with the mode that it asks for. -/
inductive ModeMove (event : Bbr2CongestionEvent) :
    Control → List ModeCall → Control → Bbr2Mode → Prop
  | startup {c : Control} (hmode : c.mode = .startup) (hgrowth : c.fullBandwidthReached = false) :
      ModeMove event c [] c .startup
  | startupFull {c : Control} (hmode : c.mode = .startup) :
      ModeMove event c [] { c with fullBandwidthReached := true } .drain
  | drain {c : Control} (hmode : c.mode = .drain) :
      ModeMove event c [] (c.setGains c.params.drainPacingGain c.params.drainCwndGain) .drain
  | drained {c : Control} (hmode : c.mode = .drain) :
      ModeMove event c [] (c.setGains c.params.drainPacingGain c.params.drainCwndGain) .probeBw
  | probeBw {c c' : Control} {calls : List ModeCall} (hmode : c.mode = .probeBw)
      (hcycle : CycleMove event (c.atEvent event) calls c') :
      ModeMove event c calls (c'.setGains c'.pacingGainForPhase c'.params.probeBwCwndGain) .probeBw
  | minRttExpired {c c' : Control} {calls : List ModeCall} (hmode : c.mode = .probeBw)
      (hcycle : CycleMove event (c.atEvent event) calls c')
      (hbefore : c.phase = .probeDown) (hafter : c'.phase ≠ .probeDown) :
      ModeMove event c calls { c' with minRttFilter := ⟨event.sampleMinRtt, event.eventTime⟩ }
        .probeRtt
  | probeRtt {c : Control} (hmode : c.mode = .probeRtt) (hunset : c.exitTime = 0)
      (hflight : c.probeRttFlight < event.bytesInFlight) : ModeMove event c [] c .probeRtt
  | probeRttScheduled {c : Control} (hmode : c.mode = .probeRtt) (hunset : c.exitTime = 0)
      (hflight : event.bytesInFlight ≤ c.probeRttFlight) :
      ModeMove event c [] { c with exitTime := event.eventTime + c.params.probeRttDuration }
        .probeRtt
  | probeRttLasts {c : Control} (hmode : c.mode = .probeRtt) (hset : c.exitTime ≠ 0)
      (hlasts : event.eventTime ≤ c.exitTime) : ModeMove event c [] c .probeRtt
  | probeRttOver {c : Control} (hmode : c.mode = .probeRtt) (hset : c.exitTime ≠ 0)
      (hover : c.exitTime < event.eventTime) : ModeMove event c [] c .probeBw

/-- The handlers that ask for another mode. -/
inductive LeavingMove (event : Bbr2CongestionEvent) :
    Control → List ModeCall → Control → Bbr2Mode → Prop
  | startupFull {c : Control} (hmode : c.mode = .startup) :
      LeavingMove event c [] { c with fullBandwidthReached := true } .drain
  | drained {c : Control} (hmode : c.mode = .drain) :
      LeavingMove event c [] (c.setGains c.params.drainPacingGain c.params.drainCwndGain) .probeBw
  | minRttExpired {c c' : Control} {calls : List ModeCall} (hmode : c.mode = .probeBw)
      (hcycle : CycleMove event (c.atEvent event) calls c')
      (hbefore : c.phase = .probeDown) (hafter : c'.phase ≠ .probeDown) :
      LeavingMove event c calls { c' with minRttFilter := ⟨event.sampleMinRtt, event.eventTime⟩ }
        .probeRtt
  | probeRttOver {c : Control} (hmode : c.mode = .probeRtt) (hset : c.exitTime ≠ 0)
      (hover : c.exitTime < event.eventTime) : LeavingMove event c [] c .probeBw

theorem ModeMove.leaving {event : Bbr2CongestionEvent} {c c' : Control} {calls : List ModeCall}
    {nextMode : Bbr2Mode} (h : ModeMove event c calls c' nextMode) (hne : nextMode ≠ c.mode) :
    LeavingMove event c calls c' nextMode := by
  cases h with
  | startup hmode => exact absurd hmode.symm hne
  | drain hmode => exact absurd hmode.symm hne
  | probeBw hmode => exact absurd hmode.symm hne
  | probeRtt hmode => exact absurd hmode.symm hne
  | probeRttScheduled hmode => exact absurd hmode.symm hne
  | probeRttLasts hmode => exact absurd hmode.symm hne
  | startupFull hmode => exact .startupFull hmode
  | drained hmode => exact .drained hmode
  | minRttExpired hmode hcycle hbefore hafter =>
      exact .minRttExpired hmode hcycle hbefore hafter
  | probeRttOver hmode hset hover => exact .probeRttOver hmode hset hover

/-- A change to `nextMode` at the time `now`. -/
inductive ModeChange (now : Int) : Control → Bbr2Mode → List ModeCall → Control → Prop
  | startup (c : Control) : ModeChange now c .startup [.changeMode .startup] (c.switch .startup)
  | drain (c : Control) : ModeChange now c .drain [.changeMode .drain] (c.switch .drain)
  | probeRtt (c : Control) :
      ModeChange now c .probeRtt [.changeMode .probeRtt]
        { (c.switch .probeRtt).setGains 1 1 with exitTime := 0 }
  | firstCycle {c : Control} (hphase : c.phase = .probeNotStarted) (rounds wait : Nat) :
      ModeChange now c .probeBw [.changeMode .probeBw, .enterProbeDown]
        ((c.switch .probeBw).enterProbeDown rounds wait now)
  | cruise {c : Control} (hphase : c.phase = .probeCruise) (inflightLo : Nat) :
      ModeChange now c .probeBw [.changeMode .probeBw]
        ({ c.switch .probeBw with cycleStartTime := now }.enterProbeCruise inflightLo now)
  | refill {c : Control} (hphase : c.phase = .probeRefill) :
      ModeChange now c .probeBw [.changeMode .probeBw]
        ({ c.switch .probeBw with cycleStartTime := now }.enterProbeRefill now)
  | otherPhase {c : Control} (hphase : c.phase = .probeUp ∨ c.phase = .probeDown) :
      ModeChange now c .probeBw [.changeMode .probeBw]
        { c.switch .probeBw with cycleStartTime := now }

/-- The loop over the modes ends with the handler of a mode that asks for itself. -/
inductive LoopMove (event : Bbr2CongestionEvent) : Control → List ModeCall → Control → Prop
  | done {c c' : Control} {calls : List ModeCall} (hmove : ModeMove event c calls c' c.mode) :
      LoopMove event c calls c'
  | change {c c₁ c₂ c' : Control} {nextMode : Bbr2Mode} {calls calls' calls'' : List ModeCall}
      (hmove : ModeMove event c calls c₁ nextMode) (hne : nextMode ≠ c.mode)
      (hchange : ModeChange event.eventTime c₁ nextMode calls' c₂)
      (hrest : LoopMove event c₂ calls'' c') :
      LoopMove event c (calls ++ calls' ++ calls'') c'

/-! ## Moves of the sender -/

/-- The filters take the samples of an event in. The short-term bounds adapt to its losses,
unless the sender is probing. -/
inductive Sampling (event : Bbr2CongestionEvent) : Control → Control → Prop
  | mk (c : Control) (maxBandwidthFilter : Bbr2MaxBandwidthFilter) (minRttFilter : MinRttFilter)
      (bandwidthLo : QuicBandwidth) (inflightLo : Nat)
      (hmax : maxBandwidthFilter = c.maxBandwidthFilter ∨
        ∃ sample ≤ QuicBandwidth.infinite, maxBandwidthFilter = c.maxBandwidthFilter.update sample)
      (hmin : minRttFilter = c.minRttFilter ∨
        minRttFilter = c.minRttFilter.update event.sampleMinRtt event.eventTime)
      (hprobing : c.isProbingForBandwidth →
        bandwidthLo = c.bandwidthLo ∧ inflightLo = c.inflightLo) :
      Sampling event c { c with maxBandwidthFilter, minRttFilter, bandwidthLo, inflightLo }

def Control.maybeEnterQuiescence (c : Control) (event : Bbr2CongestionEvent) : Control :=
  if event.bytesInFlight = 0 ∧ c.params.avoidUnnecessaryProbeRtt = true then
    { c with lastQuiescenceStart := event.eventTime }
  else c

inductive EventMove (event : Bbr2CongestionEvent) : Control → List ModeCall → Control → Prop
  | react {c c₁ c₂ : Control} {calls : List ModeCall} (hsampling : Sampling event c c₁)
      (hloop : LoopMove event c₁ calls c₂) :
      EventMove event c calls (c₂.maybeEnterQuiescence event)

/-- A packet is sent at the time `now`, with `bytesInFlight` before it. -/
inductive SendMove (now : Int) (bytesInFlight : Nat) :
    Control → List ModeCall → Control → Prop
  | busy {c : Control} (hbusy : bytesInFlight = 0 → c.params.avoidUnnecessaryProbeRtt = true →
      c.lastQuiescenceStart = 0) : SendMove now bytesInFlight c [] c
  | early {c : Control} (hmode : c.mode = .startup ∨ c.mode = .drain) :
      SendMove now bytesInFlight c [] { c with lastQuiescenceStart := 0 }
  | probeBw {c : Control} (hmode : c.mode = .probeBw) (timestamp : Int) :
      SendMove now bytesInFlight c []
        { c with lastQuiescenceStart := 0, minRttFilter := ⟨c.minRttFilter.minRtt, timestamp⟩ }
  | probeRttLasts {c : Control} (hmode : c.mode = .probeRtt) (hlasts : now ≤ c.exitTime) :
      SendMove now bytesInFlight c [] { c with lastQuiescenceStart := 0 }
  | probeRttOver {c c' : Control} {calls : List ModeCall} (hmode : c.mode = .probeRtt)
      (hquiet : c.lastQuiescenceStart ≠ 0) (hover : c.exitTime < now)
      (hchange : ModeChange now c .probeBw calls c') :
      SendMove now bytesInFlight c calls { c' with lastQuiescenceStart := 0 }

/-! ## The cycle moves on its own -/

variable {event : Bbr2CongestionEvent} {now : Int} {c c₁ c' c'' : Control} {nextMode : Bbr2Mode}
  {calls calls' : List ModeCall}

/-- The two differ in the cycle, the short-term bounds and the filter of the bandwidth. -/
structure Control.CycleOnly (c c' : Control) : Prop where
  params : c'.params = c.params
  mode : c'.mode = c.mode
  exitTime : c'.exitTime = c.exitTime
  lastQuiescenceStart : c'.lastQuiescenceStart = c.lastQuiescenceStart
  pacingGain : c'.pacingGain = c.pacingGain
  cwndGain : c'.cwndGain = c.cwndGain
  fullBandwidthReached : c'.fullBandwidthReached = c.fullBandwidthReached
  minRttFilter : c'.minRttFilter = c.minRttFilter

theorem Control.CycleOnly.refl (c : Control) : c.CycleOnly c :=
  ⟨rfl, rfl, rfl, rfl, rfl, rfl, rfl, rfl⟩

theorem Control.CycleOnly.trans (h : c.CycleOnly c') (h' : c'.CycleOnly c'') : c.CycleOnly c'' where
  params := h'.params.trans h.params
  mode := h'.mode.trans h.mode
  exitTime := h'.exitTime.trans h.exitTime
  lastQuiescenceStart := h'.lastQuiescenceStart.trans h.lastQuiescenceStart
  pacingGain := h'.pacingGain.trans h.pacingGain
  cwndGain := h'.cwndGain.trans h.cwndGain
  fullBandwidthReached := h'.fullBandwidthReached.trans h.fullBandwidthReached
  minRttFilter := h'.minRttFilter.trans h.minRttFilter

theorem Control.cycleOnly_leaveProbeDown : c.CycleOnly c.leaveProbeDown := by
  unfold leaveProbeDown
  split
  · exact ⟨rfl, rfl, rfl, rfl, rfl, rfl, rfl, rfl⟩
  · exact .refl c

theorem Control.cycleOnly_enterProbeCruise (inflightLo : Nat) (now : Int) :
    c.CycleOnly (c.enterProbeCruise inflightLo now) :=
  c.cycleOnly_leaveProbeDown.trans ⟨rfl, rfl, rfl, rfl, rfl, rfl, rfl, rfl⟩

theorem Control.cycleOnly_enterProbeRefill (now : Int) : c.CycleOnly (c.enterProbeRefill now) :=
  c.cycleOnly_leaveProbeDown.trans ⟨rfl, rfl, rfl, rfl, rfl, rfl, rfl, rfl⟩

theorem Control.cycleOnly_atEvent : c.CycleOnly (c.atEvent event) := by
  unfold atEvent
  split
  · exact ⟨rfl, rfl, rfl, rfl, rfl, rfl, rfl, rfl⟩
  · exact .refl c

theorem PhaseMove.cycleOnly (h : PhaseMove event c calls c') : c.CycleOnly c' := by
  cases h with
  | upToDown => exact ⟨rfl, rfl, rfl, rfl, rfl, rfl, rfl, rfl⟩
  | downToCruise => exact Control.cycleOnly_enterProbeCruise _ _
  | downToRefill => exact Control.cycleOnly_enterProbeRefill _
  | cruiseToRefill => exact Control.cycleOnly_enterProbeRefill _
  | refillToUp => exact ⟨rfl, rfl, rfl, rfl, rfl, rfl, rfl, rfl⟩
  | _ => exact .refl c

theorem CycleMove.cycleOnly (h : CycleMove event c calls c') : c.CycleOnly c' := by
  cases h with
  | update hfirst hmove =>
      refine .trans ?_ hmove.cycleOnly
      cases hfirst with
      | skip => exact .refl c
      | advance => exact ⟨rfl, rfl, rfl, rfl, rfl, rfl, rfl, rfl⟩

theorem CycleMove.cycleOnly_of_atEvent (h : CycleMove event (c.atEvent event) calls c') :
    c.CycleOnly c' :=
  Control.cycleOnly_atEvent.trans h.cycleOnly

theorem ModeChange.cycleOnly (h : ModeChange now c .probeBw calls c') :
    (c.switch .probeBw).CycleOnly c' := by
  have hstart : (c.switch .probeBw).CycleOnly { c.switch .probeBw with cycleStartTime := now } :=
    ⟨rfl, rfl, rfl, rfl, rfl, rfl, rfl, rfl⟩
  cases h with
  | firstCycle => exact ⟨rfl, rfl, rfl, rfl, rfl, rfl, rfl, rfl⟩
  | cruise => exact hstart.trans (Control.cycleOnly_enterProbeCruise _ _)
  | refill => exact hstart.trans (Control.cycleOnly_enterProbeRefill _)
  | otherPhase => exact hstart

/-! ## The handlers leave the mode to the loop -/

/-- A handler asks for a mode and leaves the change to the loop. -/
theorem ModeMove.mode_eq (h : ModeMove event c calls c' nextMode) : c'.mode = c.mode := by
  cases h with
  | probeBw hmode hcycle => exact hcycle.cycleOnly_of_atEvent.mode
  | minRttExpired hmode hcycle => exact hcycle.cycleOnly_of_atEvent.mode
  | _ => rfl

theorem ModeChange.mode_eq (h : ModeChange now c nextMode calls c') : c'.mode = nextMode := by
  cases nextMode with
  | probeBw => exact h.cycleOnly.mode
  | _ =>
      cases h
      rfl

/-! ## What the loop never touches -/

/-- The two have the same parameters and the same start of the quiescence. -/
structure Control.Keeps (c c' : Control) : Prop where
  params : c'.params = c.params
  lastQuiescenceStart : c'.lastQuiescenceStart = c.lastQuiescenceStart

theorem Control.Keeps.trans (h : c.Keeps c') (h' : c'.Keeps c'') : c.Keeps c'' where
  params := h'.params.trans h.params
  lastQuiescenceStart := h'.lastQuiescenceStart.trans h.lastQuiescenceStart

theorem Control.CycleOnly.keeps (h : c.CycleOnly c') : c.Keeps c' :=
  ⟨h.params, h.lastQuiescenceStart⟩

theorem ModeMove.keeps (h : ModeMove event c calls c' nextMode) : c.Keeps c' := by
  cases h with
  | probeBw hmode hcycle =>
      have hkept := hcycle.cycleOnly_of_atEvent.keeps
      exact ⟨hkept.params, hkept.lastQuiescenceStart⟩
  | minRttExpired hmode hcycle =>
      have hkept := hcycle.cycleOnly_of_atEvent.keeps
      exact ⟨hkept.params, hkept.lastQuiescenceStart⟩
  | _ => exact ⟨rfl, rfl⟩

theorem ModeChange.keeps (h : ModeChange now c nextMode calls c') : c.Keeps c' := by
  cases nextMode with
  | probeBw => exact ⟨h.cycleOnly.params, h.cycleOnly.lastQuiescenceStart⟩
  | _ =>
      cases h
      exact ⟨rfl, rfl⟩

theorem LoopMove.keeps (h : LoopMove event c calls c') : c.Keeps c' := by
  induction h with
  | done hmove => exact hmove.keeps
  | change hmove hne hchange hrest ih => exact (hmove.keeps.trans hchange.keeps).trans ih

theorem Sampling.mode_eq (h : Sampling event c c') : c'.mode = c.mode := by
  cases h
  rfl

theorem Sampling.phase_eq (h : Sampling event c c') : c'.phase = c.phase := by
  cases h
  rfl

theorem Sampling.fullBandwidthReached_eq (h : Sampling event c c') :
    c'.fullBandwidthReached = c.fullBandwidthReached := by
  cases h
  rfl

theorem Sampling.params_eq (h : Sampling event c c') : c'.params = c.params := by
  cases h
  rfl

@[simp] theorem Control.maybeEnterQuiescence_mode :
    (c.maybeEnterQuiescence event).mode = c.mode := by
  unfold maybeEnterQuiescence
  split <;> rfl

@[simp] theorem Control.maybeEnterQuiescence_phase :
    (c.maybeEnterQuiescence event).phase = c.phase := by
  unfold maybeEnterQuiescence
  split <;> rfl

@[simp] theorem Control.maybeEnterQuiescence_params :
    (c.maybeEnterQuiescence event).params = c.params := by
  unfold maybeEnterQuiescence
  split <;> rfl

theorem EventMove.params_eq (h : EventMove event c calls c') : c'.params = c.params := by
  cases h with
  | react hsampling hloop =>
      rw [Control.maybeEnterQuiescence_params, hloop.keeps.params, hsampling.params_eq]

theorem SendMove.params_eq {bytesInFlight : Nat} (h : SendMove now bytesInFlight c calls c') :
    c'.params = c.params := by
  cases h with
  | probeRttOver hmode hquiet hover hchange => exact hchange.keeps.params
  | _ => rfl

/-! ## The loop ends -/

/-- The mode changes that one event can still make. -/
def Control.changesLeft (c : Control) : Nat :=
  match c.mode with
  | .startup => 3
  | .drain => 2
  | .probeBw => if c.phase = .probeDown then 1 else 0
  | .probeRtt => if c.exitTime = 0 then 0 else 2

theorem Control.changesLeft_le (c : Control) : c.changesLeft ≤ 3 := by
  unfold changesLeft
  split
  · omega
  · omega
  · split <;> omega
  · split <;> omega

/-- Every change of the mode within an event brings the loop closer to its end. -/
theorem changesLeft_lt (hmove : ModeMove event c calls c₁ nextMode) (hne : nextMode ≠ c.mode)
    (hchange : ModeChange now c₁ nextMode calls' c') : c'.changesLeft < c.changesLeft := by
  have hprobeBw : nextMode = .probeBw → c'.changesLeft ≤ 1 := by
    intro hnext
    have hmode := hchange.mode_eq.trans hnext
    simp only [Control.changesLeft, hmode]
    split <;> omega
  cases hmove.leaving hne with
  | startupFull hmode =>
      cases hchange
      simp [Control.changesLeft, hmode, Control.switch]
  | drained hmode =>
      have hle := hprobeBw rfl
      simp only [Control.changesLeft, hmode]
      exact Nat.lt_succ_of_le hle
  | minRttExpired hmode hcycle hbefore =>
      cases hchange
      simp [Control.changesLeft, hmode, hbefore, Control.switch, Control.setGains]
  | probeRttOver hmode hset =>
      have hle := hprobeBw rfl
      simp only [Control.changesLeft, hmode, if_neg hset]
      exact Nat.lt_succ_of_le hle

/-! ## Induction over the loop -/

/-- An invariant of the changes of the mode turns into what the last handler makes of it. -/
theorem LoopMove.induct {Inv Post : Control → List ModeCall → Prop}
    (hdone : ∀ c log calls c', Inv c log → ModeMove event c calls c' c.mode →
      Post c' (log ++ calls))
    (hchange : ∀ c log calls c₁ nextMode calls' c₂, Inv c log →
      ModeMove event c calls c₁ nextMode → nextMode ≠ c.mode →
      ModeChange event.eventTime c₁ nextMode calls' c₂ → Inv c₂ (log ++ calls ++ calls'))
    (h : LoopMove event c calls c') {log : List ModeCall} (hc : Inv c log) :
    Post c' (log ++ calls) := by
  induction h generalizing log with
  | done hmove => exact hdone _ _ _ _ hc hmove
  | change hmove hne hmodeChange hrest ih =>
      have hnext := hchange _ _ _ _ _ _ _ hc hmove hne hmodeChange
      have hpost := ih hnext
      simpa only [List.append_assoc] using hpost

theorem LoopMove.preserves {Inv Post : Control → Prop}
    (hdone : ∀ c calls c', Inv c → ModeMove event c calls c' c.mode → Post c')
    (hchange : ∀ c calls c₁ nextMode calls' c₂, Inv c → ModeMove event c calls c₁ nextMode →
      nextMode ≠ c.mode → ModeChange event.eventTime c₁ nextMode calls' c₂ → Inv c₂)
    (h : LoopMove event c calls c') (hc : Inv c) : Post c' :=
  @LoopMove.induct event c c' calls (fun c _ => Inv c) (fun c _ => Post c)
    (fun c _ => hdone c) (fun c _ => hchange c) h [] hc

end BbrChrome
