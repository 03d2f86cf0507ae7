import BbrChrome.Congestion.Bbr2Machine
import Mathlib.Logic.Function.Iterate

/-!
# Laws of the mode machine

Which phase goes with which mode, and what the calls of a move say about its states.
-/

namespace BbrChrome

variable {event : Bbr2CongestionEvent} {now : Int} {c c₁ c' c'' : Control}
  {nextMode mode : Bbr2Mode} {calls calls' : List ModeCall}

/-! ## The phase that goes with a mode -/

/-- The cycle starts with the first entry of PROBE_BW, and PROBE_RTT suspends it in a phase
behind PROBE_DOWN. -/
structure Control.Placed (c : Control) : Prop where
  early : c.mode = .startup ∨ c.mode = .drain → c.phase = .probeNotStarted
  probeBw : c.mode = .probeBw → c.phase ≠ .probeNotStarted
  probeRtt : c.mode = .probeRtt → c.phase = .probeCruise ∨ c.phase = .probeRefill

theorem FirstRound.phase_eq (h : FirstRound event c calls c') : c'.phase = c.phase := by
  cases h <;> rfl

/-- The phases of a cycle follow one another. -/
theorem CycleMove.phase_next (h : CycleMove event c calls c') :
    c'.phase = c.phase ∨
      (c.phase = .probeUp ∧ c'.phase = .probeDown) ∨
      (c.phase = .probeDown ∧ (c'.phase = .probeCruise ∨ c'.phase = .probeRefill)) ∨
      (c.phase = .probeCruise ∧ c'.phase = .probeRefill) ∨
      (c.phase = .probeRefill ∧ c'.phase = .probeUp) := by
  cases h with
  | update hfirst hmove =>
      rw [← hfirst.phase_eq]
      cases hmove with
      | notStarted => exact .inl rfl
      | up => exact .inl rfl
      | down => exact .inl rfl
      | cruise => exact .inl rfl
      | refill => exact .inl rfl
      | upToDown hup => exact .inr (.inl ⟨hup, rfl⟩)
      | downToCruise hdown => exact .inr (.inr (.inl ⟨hdown, .inl rfl⟩))
      | downToRefill hdown => exact .inr (.inr (.inl ⟨hdown, .inr rfl⟩))
      | cruiseToRefill hcruise => exact .inr (.inr (.inr (.inl ⟨hcruise, rfl⟩)))
      | refillToUp hrefill => exact .inr (.inr (.inr (.inr ⟨hrefill, rfl⟩)))

@[simp] theorem Control.atEvent_phase : (c.atEvent event).phase = c.phase := by
  unfold atEvent
  split <;> rfl

theorem Control.placed_of_probeBw (hmode : c.mode = .probeBw)
    (hphase : c.phase ≠ .probeNotStarted) : c.Placed where
  early h := by simp [hmode] at h
  probeBw _ := hphase
  probeRtt h := by simp [hmode] at h

theorem Control.Placed.of_same (h : c.Placed) (hmode : c'.mode = c.mode)
    (hphase : c'.phase = c.phase) : c'.Placed where
  early hc := by
    rw [hphase]
    exact h.early (by rwa [hmode] at hc)
  probeBw hc := by
    rw [hphase]
    exact h.probeBw (hmode.symm.trans hc)
  probeRtt hc := by
    rw [hphase]
    exact h.probeRtt (hmode.symm.trans hc)

theorem Control.Placed.cycle (h : c.Placed) (hmode : c.mode = .probeBw)
    (hcycle : CycleMove event (c.atEvent event) calls c') : c'.phase ≠ .probeNotStarted := by
  have hphase := h.probeBw hmode
  have hnext := hcycle.phase_next
  rw [Control.atEvent_phase] at hnext
  rcases hnext with hsame | ⟨_, hnext⟩ | ⟨_, hnext | hnext⟩ | ⟨_, hnext⟩ | ⟨_, hnext⟩
  · rw [hsame]
    exact hphase
  · simp [hnext]
  · simp [hnext]
  · simp [hnext]
  · simp [hnext]
  · simp [hnext]

theorem Control.Placed.handled (h : c.Placed) (hmove : ModeMove event c calls c' c.mode) :
    c'.Placed := by
  generalize hnext : c.mode = nextMode at hmove
  cases hmove with
  | startup hmode => exact h
  | startupFull hmode => exact h.of_same rfl rfl
  | drain hmode => exact h.of_same rfl rfl
  | drained hmode => exact h.of_same rfl rfl
  | probeBw hmode hcycle =>
      have hkept := hcycle.cycleOnly_of_atEvent.mode.trans hmode
      have hphase := h.cycle hmode hcycle
      exact Control.placed_of_probeBw hkept hphase
  | minRttExpired hmode => simp [hmode] at hnext
  | probeRtt hmode => exact h
  | probeRttScheduled hmode => exact h.of_same rfl rfl
  | probeRttLasts hmode => exact h
  | probeRttOver hmode => exact h

theorem ModeChange.placed_of_probeBw (h : ModeChange now c .probeBw calls c') : c'.Placed := by
  apply Control.placed_of_probeBw h.mode_eq
  cases h with
  | firstCycle hphase => exact CyclePhase.noConfusion
  | cruise hphase => exact CyclePhase.noConfusion
  | refill hphase => exact CyclePhase.noConfusion
  | otherPhase hphase =>
      rcases hphase with hphase | hphase
      · simp [Control.switch, hphase]
      · simp [Control.switch, hphase]

theorem Control.Placed.changed (h : c.Placed) (hmove : ModeMove event c calls c₁ nextMode)
    (hne : nextMode ≠ c.mode) (hchange : ModeChange now c₁ nextMode calls' c') : c'.Placed := by
  cases hmove.leaving hne with
  | startupFull hmode =>
      have hphase := h.early (.inl hmode)
      cases hchange
      exact ⟨fun _ => hphase, by simp [Control.switch], by simp [Control.switch]⟩
  | drained hmode => exact hchange.placed_of_probeBw
  | probeRttOver hmode => exact hchange.placed_of_probeBw
  | @minRttExpired c₂ _ hmode hcycle hbefore hafter =>
      -- PROBE_DOWN was left for one of its two successors.
      have hphase : c₂.phase = .probeCruise ∨ c₂.phase = .probeRefill := by
        have hnext := hcycle.phase_next
        rw [Control.atEvent_phase, hbefore] at hnext
        simpa [hafter] using hnext
      cases hchange
      exact ⟨by simp [Control.switch, Control.setGains], by simp [Control.switch, Control.setGains],
        fun _ => hphase⟩

theorem Control.Placed.loopMove (h : c.Placed) (hloop : LoopMove event c calls c') : c'.Placed :=
  hloop.preserves (fun _ _ _ h hmove => h.handled hmove)
    (fun _ _ _ _ _ _ h hmove hne hchange => h.changed hmove hne hchange) h

theorem Control.Placed.eventMove (h : c.Placed) (hmove : EventMove event c calls c') :
    c'.Placed := by
  cases hmove with
  | react hsampling hloop =>
      have hsampled := h.of_same hsampling.mode_eq hsampling.phase_eq
      exact (hsampled.loopMove hloop).of_same Control.maybeEnterQuiescence_mode
        Control.maybeEnterQuiescence_phase

theorem Control.Placed.sendMove {bytesInFlight : Nat} (h : c.Placed)
    (hmove : SendMove now bytesInFlight c calls c') : c'.Placed := by
  cases hmove with
  | busy => exact h
  | early hmode => exact h.of_same rfl rfl
  | probeBw hmode timestamp => exact h.of_same rfl rfl
  | probeRttLasts hmode => exact h.of_same rfl rfl
  | probeRttOver hmode hquiet hover hchange => exact hchange.placed_of_probeBw.of_same rfl rfl

/-! ## STARTUP and DRAIN are left for good -/

/-- DRAIN follows STARTUP, and no mode asks for STARTUP but itself. -/
theorem ModeMove.next_of_ne (h : ModeMove event c calls c' nextMode) (hne : nextMode ≠ c.mode) :
    nextMode ≠ .startup ∧ (nextMode = .drain ↔ c.mode = .startup) := by
  cases h.leaving hne with
  | startupFull hmode => simp [hmode]
  | drained hmode => simp [hmode]
  | minRttExpired hmode => simp [hmode]
  | probeRttOver hmode => simp [hmode]

theorem LoopMove.mode_ne_startup (h : LoopMove event c calls c') (hc : c.mode ≠ .startup) :
    c'.mode ≠ .startup := by
  have hdone : ∀ (c : Control) calls c', c.mode ≠ .startup → ModeMove event c calls c' c.mode →
      c'.mode ≠ .startup := by
    intro c calls c' hc hmove
    rw [hmove.mode_eq]
    exact hc
  refine h.preserves hdone ?_ hc
  intro c calls c₁ nextMode calls' c₂ _ hmove hne hchange
  rw [hchange.mode_eq]
  exact (hmove.next_of_ne hne).1

theorem SendMove.mode_ne_startup {bytesInFlight : Nat}
    (h : SendMove now bytesInFlight c calls c') (hc : c.mode ≠ .startup) : c'.mode ≠ .startup := by
  cases h with
  | busy => exact hc
  | early => exact hc
  | probeBw => exact hc
  | probeRttLasts => exact hc
  | probeRttOver hmode hquiet hover hchange =>
      have hprobeBw := hchange.mode_eq
      simp [hprobeBw]

/-! ## Which calls change the mode -/

theorem Control.changeMode_notMem_leaveProbeDownCalls :
    .changeMode mode ∉ c.leaveProbeDownCalls := by
  unfold leaveProbeDownCalls
  split <;> simp

theorem PhaseMove.changeMode_notMem (h : PhaseMove event c calls c') :
    .changeMode mode ∉ calls := by
  cases h with
  | upToDown => simp
  | downToCruise => exact Control.changeMode_notMem_leaveProbeDownCalls
  | downToRefill => exact Control.changeMode_notMem_leaveProbeDownCalls
  | cruiseToRefill => exact Control.changeMode_notMem_leaveProbeDownCalls
  | _ => exact List.not_mem_nil

theorem CycleMove.changeMode_notMem (h : CycleMove event c calls c') :
    .changeMode mode ∉ calls := by
  cases h with
  | update hfirst hmove =>
      have hphase := @PhaseMove.changeMode_notMem _ _ _ mode _ hmove
      cases hfirst with
      | skip => exact hphase
      | advance => simpa using hphase

theorem ModeMove.changeMode_notMem (h : ModeMove event c calls c' nextMode) :
    .changeMode mode ∉ calls := by
  cases h with
  | probeBw hmode hcycle => exact hcycle.changeMode_notMem
  | minRttExpired hmode hcycle => exact hcycle.changeMode_notMem
  | _ => exact List.not_mem_nil

theorem ModeChange.changeMode_mem (h : ModeChange now c nextMode calls c') :
    ∃ rest, calls = .changeMode nextMode :: rest ∧ ∀ mode, .changeMode mode ∉ rest := by
  cases h with
  | firstCycle => exact ⟨_, rfl, fun _ => by simp⟩
  | _ => exact ⟨_, rfl, fun _ => List.not_mem_nil⟩

/-! ## What the calls say about the state -/

def ModeCall.isAdvance : ModeCall → Bool
  | advanceMaxBandwidthFilter _ => true
  | _ => false

def modeAfter (mode : Bbr2Mode) : List ModeCall → Bbr2Mode
  | [] => mode
  | .changeMode nextMode :: calls => modeAfter nextMode calls
  | _ :: calls => modeAfter mode calls

theorem modeAfter_append (mode : Bbr2Mode) (calls calls' : List ModeCall) :
    modeAfter mode (calls ++ calls') = modeAfter (modeAfter mode calls) calls' := by
  induction calls generalizing mode with
  | nil => rfl
  | cons call calls ih => cases call <;> exact ih _

/-- The listed calls are the ones that changed the mode, advanced the filter and counted a
cycle. -/
structure Logged (c : Control) (calls : List ModeCall) (c' : Control) : Prop where
  mode : c'.mode = modeAfter c.mode calls
  filter : c'.maxBandwidthFilter =
    Bbr2MaxBandwidthFilter.advance^[calls.countP ModeCall.isAdvance] c.maxBandwidthFilter
  cycles : c'.numCycles = c.numCycles + calls.count .enterProbeDown

theorem Logged.refl (c : Control) : Logged c [] c := ⟨rfl, rfl, rfl⟩

theorem Logged.trans (h : Logged c calls c') (h' : Logged c' calls' c'') :
    Logged c (calls ++ calls') c'' where
  mode := by rw [modeAfter_append, ← h.mode, h'.mode]
  filter := by
    rw [h'.filter, h.filter, ← Function.iterate_add_apply, List.countP_append, Nat.add_comm]
  cycles := by rw [h'.cycles, h.cycles, List.count_append, Nat.add_assoc]

theorem Control.leaveProbeDown_logged (c : Control) :
    Logged c c.leaveProbeDownCalls c.leaveProbeDown := by
  unfold leaveProbeDownCalls leaveProbeDown
  split
  · exact ⟨rfl, rfl, rfl⟩
  · exact .refl c

theorem FirstRound.logged (h : FirstRound event c calls c') : Logged c calls c' := by
  cases h with
  | skip => exact .refl c
  | advance => exact ⟨rfl, rfl, rfl⟩

theorem PhaseMove.logged (h : PhaseMove event c calls c') : Logged c calls c' := by
  have hleave := c.leaveProbeDown_logged
  cases h with
  | upToDown => exact ⟨rfl, rfl, rfl⟩
  | downToCruise => exact ⟨hleave.mode, hleave.filter, hleave.cycles⟩
  | downToRefill => exact ⟨hleave.mode, hleave.filter, hleave.cycles⟩
  | cruiseToRefill => exact ⟨hleave.mode, hleave.filter, hleave.cycles⟩
  | refillToUp => exact ⟨rfl, rfl, rfl⟩
  | _ => exact .refl c

theorem CycleMove.logged (h : CycleMove event c calls c') : Logged c calls c' := by
  cases h with
  | update hfirst hmove => exact hfirst.logged.trans hmove.logged

theorem Control.atEvent_logged (c : Control) : Logged c [] (c.atEvent event) := by
  unfold atEvent
  split <;> exact ⟨rfl, rfl, rfl⟩

theorem ModeMove.logged (h : ModeMove event c calls c' nextMode) : Logged c calls c' := by
  cases h with
  | probeBw hmode hcycle =>
      have hlogged := c.atEvent_logged.trans hcycle.logged
      exact ⟨hlogged.mode, hlogged.filter, hlogged.cycles⟩
  | minRttExpired hmode hcycle =>
      have hlogged := c.atEvent_logged.trans hcycle.logged
      exact ⟨hlogged.mode, hlogged.filter, hlogged.cycles⟩
  | _ => exact ⟨rfl, rfl, rfl⟩

theorem Control.leaveProbeDown_of_ne (hphase : c.phase ≠ .probeDown) : c.leaveProbeDown = c :=
  if_neg fun h => hphase h.1

theorem ModeChange.logged (h : ModeChange now c nextMode calls c') : Logged c calls c' := by
  cases h with
  | cruise hphase inflightLo =>
      have hkept : ({ c.switch .probeBw with cycleStartTime := now } : Control).leaveProbeDown =
          { c.switch .probeBw with cycleStartTime := now } :=
        Control.leaveProbeDown_of_ne (by simp [Control.switch, hphase])
      unfold Control.enterProbeCruise
      rw [hkept]
      exact ⟨rfl, rfl, rfl⟩
  | refill hphase =>
      have hkept : ({ c.switch .probeBw with cycleStartTime := now } : Control).leaveProbeDown =
          { c.switch .probeBw with cycleStartTime := now } :=
        Control.leaveProbeDown_of_ne (by simp [Control.switch, hphase])
      unfold Control.enterProbeRefill
      rw [hkept]
      exact ⟨rfl, rfl, rfl⟩
  | _ => exact ⟨rfl, rfl, rfl⟩

theorem LoopMove.logged (h : LoopMove event c calls c') : Logged c calls c' := by
  induction h with
  | done hmove => exact hmove.logged
  | change hmove hne hchange hrest ih => exact (hmove.logged.trans hchange.logged).trans ih

theorem SendMove.logged {bytesInFlight : Nat} (h : SendMove now bytesInFlight c calls c') :
    Logged c calls c' := by
  cases h with
  | probeRttOver hmode hquiet hover hchange =>
      have hlogged := hchange.logged
      exact ⟨hlogged.mode, hlogged.filter, hlogged.cycles⟩
  | _ => exact ⟨rfl, rfl, rfl⟩

/-- Over an event the filter takes in at most one sample, before any of the calls. -/
theorem EventMove.logged (h : EventMove event c calls c') :
    ∃ filter, (filter = c.maxBandwidthFilter ∨
        ∃ sample ≤ QuicBandwidth.infinite, filter = c.maxBandwidthFilter.update sample) ∧
      Logged { c with maxBandwidthFilter := filter } calls c' := by
  cases h with
  | react hsampling hloop =>
      cases hsampling with
      | mk filter minRttFilter bandwidthLo inflightLo hmax =>
          have hlogged := hloop.logged
          refine ⟨filter, hmax, ?_⟩
          unfold Control.maybeEnterQuiescence
          split
          · exact ⟨hlogged.mode, hlogged.filter, hlogged.cycles⟩
          · exact ⟨hlogged.mode, hlogged.filter, hlogged.cycles⟩

end BbrChrome
