import BbrChrome.Congestion.Bbr2Run
import Mathlib.Data.List.DropRight

/-!
# The bandwidth window of a cycle

The maximum of the bandwidth is taken over two windows. The window advances once per cycle
of PROBE_BW, at one of two places that share a flag.
-/

namespace BbrChrome

variable {event : Bbr2CongestionEvent} {now t t' : Int} {c c₁ c' : Control} {nextMode : Bbr2Mode}
  {calls calls' log : List ModeCall}

def advancesInCycle (log : List ModeCall) : Nat :=
  (log.rtakeWhile (· ≠ .enterProbeDown)).countP ModeCall.isAdvance

@[simp] theorem advancesInCycle_nil : advancesInCycle [] = 0 := rfl

@[simp] theorem advancesInCycle_enterProbeDown :
    advancesInCycle (log ++ [.enterProbeDown]) = 0 := by
  simp [advancesInCycle]

@[simp] theorem advancesInCycle_advance (phase : CyclePhase) :
    advancesInCycle (log ++ [.advanceMaxBandwidthFilter phase]) = advancesInCycle log + 1 := by
  simp [advancesInCycle, ModeCall.isAdvance]

@[simp] theorem advancesInCycle_changeMode (mode : Bbr2Mode) :
    advancesInCycle (log ++ [.changeMode mode]) = advancesInCycle log := by
  simp [advancesInCycle, ModeCall.isAdvance]

/-- What the calls of a run may say about the window. -/
structure AdvancesOnce (log : List ModeCall) : Prop where
  once : ∀ log', log' <+: log → advancesInCycle log' ≤ 1
  inDown : ∀ phase, .advanceMaxBandwidthFilter phase ∈ log → phase = .probeDown

theorem AdvancesOnce.snoc {call : ModeCall} (h : AdvancesOnce log)
    (honce : advancesInCycle (log ++ [call]) ≤ 1)
    (hdown : ∀ phase, call = .advanceMaxBandwidthFilter phase → phase = .probeDown) :
    AdvancesOnce (log ++ [call]) where
  once log' hprefix := by
    rcases List.prefix_concat_iff.mp hprefix with rfl | hprefix
    · exact honce
    · exact h.once log' hprefix
  inDown phase hmem := by
    rcases List.mem_append.mp hmem with hmem | hmem
    · exact h.inDown phase hmem
    · exact hdown phase (List.mem_singleton.mp hmem).symm

/-! ## The flag counts the advances -/

/-- `has_advanced_max_bw` says whether the window has advanced in the cycle. -/
structure Flagged (c : Control) (log : List ModeCall) : Prop where
  advances : AdvancesOnce log
  flag : advancesInCycle log = if c.hasAdvancedMaxBw then 1 else 0

theorem Flagged.of_same (h : Flagged c log) (hflag : c'.hasAdvancedMaxBw = c.hasAdvancedMaxBw) :
    Flagged c' log where
  advances := h.advances
  flag := by
    rw [hflag]
    exact h.flag

theorem Flagged.advance (h : Flagged c log) (hphase : c.phase = .probeDown)
    (hflag : c.hasAdvancedMaxBw = false) :
    Flagged c.advanceMaxBandwidth (log ++ [.advanceMaxBandwidthFilter c.phase]) := by
  have hnone : advancesInCycle log = 0 := by simp [h.flag, hflag]
  refine ⟨h.advances.snoc ?_ ?_, ?_⟩
  · rw [advancesInCycle_advance]
    omega
  · rintro phase heq
    cases heq
    exact hphase
  · rw [advancesInCycle_advance, hnone]
    rfl

theorem Flagged.leaveProbeDown (h : Flagged c log) :
    Flagged c.leaveProbeDown (log ++ c.leaveProbeDownCalls) := by
  unfold Control.leaveProbeDown Control.leaveProbeDownCalls
  split
  · rename_i hmust
    exact h.advance hmust.1 hmust.2
  · rw [List.append_nil]
    exact h

theorem Flagged.enterProbeDown (h : Flagged c log) (rounds wait : Nat) (now : Int) :
    Flagged (c.enterProbeDown rounds wait now) (log ++ [.enterProbeDown]) where
  advances := h.advances.snoc (by simp) nofun
  flag := by simp [Control.enterProbeDown]

theorem Flagged.changeMode (h : Flagged c log) (mode : Bbr2Mode) :
    Flagged c (log ++ [.changeMode mode]) := by
  have hsame := @advancesInCycle_changeMode log mode
  refine ⟨h.advances.snoc ?_ nofun, hsame.trans h.flag⟩
  rw [hsame]
  exact h.advances.once log (List.prefix_refl log)

theorem Control.leaveProbeDown_advanced (hphase : c.phase = .probeDown) :
    c.leaveProbeDown.hasAdvancedMaxBw = true := by
  unfold leaveProbeDown
  split
  · rfl
  · rename_i hkept
    simpa [MustAdvance, hphase] using hkept

/-! ## The invariant of a cycle -/

/-- Behind PROBE_DOWN the window has advanced. In PROBE_DOWN it advances at the end of a round
that is counted only behind the time at which the phase started. -/
structure CycleKept (t : Int) (c : Control) (log : List ModeCall) : Prop extends Flagged c log where
  behind : c.phase = .probeCruise ∨ c.phase = .probeRefill ∨ c.phase = .probeUp →
    c.hasAdvancedMaxBw = true
  started : c.phase = .probeDown → c.phaseStartTime ≤ t
  counted : c.phase = .probeDown → 1 ≤ c.roundsInPhase → c.phaseStartTime < t
  early : c.phase = .probeDown → c.hasAdvancedMaxBw = true → 1 ≤ c.roundsInPhase

namespace CycleKept

theorem of_same (h : CycleKept t c log) (hphase : c'.phase = c.phase)
    (hstart : c'.phaseStartTime = c.phaseStartTime) (hrounds : c'.roundsInPhase = c.roundsInPhase)
    (hflag : c'.hasAdvancedMaxBw = c.hasAdvancedMaxBw) : CycleKept t c' log where
  toFlagged := h.toFlagged.of_same hflag
  behind := by
    rw [hphase, hflag]
    exact h.behind
  started := by
    rw [hphase, hstart]
    exact h.started
  counted := by
    rw [hphase, hstart, hrounds]
    exact h.counted
  early := by
    rw [hphase, hflag, hrounds]
    exact h.early

theorem later (h : CycleKept t c log) (hle : t ≤ t') : CycleKept t' c log where
  toFlagged := h.toFlagged
  behind := h.behind
  started hphase := (h.started hphase).trans hle
  counted hphase hrounds := lt_of_lt_of_le (h.counted hphase hrounds) hle
  early := h.early

theorem of_behind (hflagged : Flagged c log) (hflag : c.hasAdvancedMaxBw = true)
    (hphase : c.phase ≠ .probeDown) : CycleKept t c log where
  toFlagged := hflagged
  behind _ := hflag
  started hdown := absurd hdown hphase
  counted hdown := absurd hdown hphase
  early hdown := absurd hdown hphase

theorem enterProbeDown (h : Flagged c log) (rounds wait : Nat) :
    CycleKept t (c.enterProbeDown rounds wait t) (log ++ [.enterProbeDown]) where
  toFlagged := h.enterProbeDown rounds wait t
  behind hphase := by simp [Control.enterProbeDown] at hphase
  started _ := le_refl t
  counted _ hrounds := by simp [Control.enterProbeDown] at hrounds
  early _ hflag := by simp [Control.enterProbeDown] at hflag

/-! ## The moves -/

theorem atEvent (h : CycleKept event.eventTime c log) :
    CycleKept event.eventTime (c.atEvent event) log ∧
      (c.phase = .probeDown → event.endOfRoundTrip = true →
        (c.atEvent event).roundsInPhase = 1 → (c.atEvent event).hasAdvancedMaxBw = false) := by
  unfold Control.atEvent
  cases hend : event.endOfRoundTrip with
  | false =>
      rw [if_neg Bool.false_ne_true]
      exact ⟨h, nofun⟩
  | true =>
      rw [if_pos rfl]
      by_cases hnew : c.phaseStartTime = event.eventTime
      · have hsame : (c.countRound event.eventTime).roundsInPhase = c.roundsInPhase :=
          if_neg (not_not_intro hnew)
        refine ⟨h.of_same rfl rfl hsame rfl, fun hphase _ hrounds => ?_⟩
        have hbefore := h.counted hphase (by omega)
        omega
      · have hnext : (c.countRound event.eventTime).roundsInPhase = c.roundsInPhase + 1 :=
          if_pos hnew
        refine ⟨⟨h.toFlagged.of_same rfl, h.behind, h.started, ?_, ?_⟩, ?_⟩
        · intro hphase _
          have hle := h.started hphase
          change c.phaseStartTime < event.eventTime
          omega
        · intro _ _
          omega
        · intro hphase _ hrounds
          have hnone : ¬ 1 ≤ c.roundsInPhase := by omega
          by_contra hflag
          exact hnone (h.early hphase (Bool.eq_true_of_not_eq_false hflag))

theorem firstRound (h : CycleKept event.eventTime c log)
    (hearly : c.phase = .probeDown → event.endOfRoundTrip = true → c.roundsInPhase = 1 →
      c.hasAdvancedMaxBw = false)
    (hmove : FirstRound event c calls c') : CycleKept event.eventTime c' (log ++ calls) := by
  cases hmove with
  | skip =>
      rw [List.append_nil]
      exact h
  | advance hphase hrounds hend =>
      have hflag := hearly hphase hend hrounds
      refine ⟨h.toFlagged.advance hphase hflag, ?_, h.started, h.counted, ?_⟩
      · exact fun _ => rfl
      · intro _ _
        exact hrounds.ge

theorem phaseMove (h : CycleKept event.eventTime c log) (hmove : PhaseMove event c calls c') :
    CycleKept event.eventTime c' (log ++ calls) := by
  have hleft := h.toFlagged.leaveProbeDown
  have hcruise : c.phase = .probeCruise → c.leaveProbeDown.hasAdvancedMaxBw = true := by
    intro hphase
    rw [Control.leaveProbeDown_of_ne (by simp [hphase])]
    exact h.behind (.inl hphase)
  cases hmove with
  | upToDown => exact enterProbeDown h.toFlagged _ _
  | downToCruise hphase =>
      exact of_behind (hleft.of_same rfl) (Control.leaveProbeDown_advanced hphase)
        CyclePhase.noConfusion
  | downToRefill hphase =>
      exact of_behind (hleft.of_same rfl) (Control.leaveProbeDown_advanced hphase)
        CyclePhase.noConfusion
  | cruiseToRefill hphase =>
      exact of_behind (hleft.of_same rfl) (hcruise hphase) CyclePhase.noConfusion
  | refillToUp hphase =>
      rw [List.append_nil]
      exact of_behind (h.toFlagged.of_same rfl) (h.behind (.inr (.inl hphase)))
        CyclePhase.noConfusion
  | notStarted =>
      rw [List.append_nil]
      exact h
  | up =>
      rw [List.append_nil]
      exact h
  | down =>
      rw [List.append_nil]
      exact h
  | cruise =>
      rw [List.append_nil]
      exact h
  | refill =>
      rw [List.append_nil]
      exact h

theorem cycleMove (h : CycleKept event.eventTime c log)
    (hmove : CycleMove event (c.atEvent event) calls c') :
    CycleKept event.eventTime c' (log ++ calls) := by
  have hcounted := h.atEvent
  cases hmove with
  | update hfirst hphase =>
      rw [← List.append_assoc]
      have hearly := hcounted.2
      rw [← @Control.atEvent_phase event c] at hearly
      exact (hcounted.1.firstRound hearly hfirst).phaseMove hphase

theorem handled (h : CycleKept event.eventTime c log)
    (hmove : ModeMove event c calls c' nextMode) :
    CycleKept event.eventTime c' (log ++ calls) := by
  cases hmove with
  | probeBw hmode hcycle => exact (h.cycleMove hcycle).of_same rfl rfl rfl rfl
  | minRttExpired hmode hcycle => exact (h.cycleMove hcycle).of_same rfl rfl rfl rfl
  | _ =>
      rw [List.append_nil]
      exact h.of_same rfl rfl rfl rfl

theorem switch (h : CycleKept t c log) (mode : Bbr2Mode) :
    CycleKept t (c.switch mode) (log ++ [.changeMode mode]) where
  toFlagged := (h.toFlagged.changeMode mode).of_same rfl
  behind := h.behind
  started := h.started
  counted := h.counted
  early := h.early

theorem resumed (h : CycleKept t c log) (hchange : ModeChange now c .probeBw calls c')
    (hphase : c.phase = .probeCruise ∨ c.phase = .probeRefill) :
    CycleKept t c' (log ++ calls) := by
  have hswitched := h.switch .probeBw
  cases hchange with
  | firstCycle hnone => simp [hnone] at hphase
  | cruise hcruise =>
      have hleft : ({ c.switch .probeBw with cycleStartTime := now } : Control).leaveProbeDown =
          { c.switch .probeBw with cycleStartTime := now } :=
        Control.leaveProbeDown_of_ne (by simp [Control.switch, hcruise])
      have hflag : c.hasAdvancedMaxBw = true := h.behind (.inl hcruise)
      unfold Control.enterProbeCruise
      rw [hleft]
      exact of_behind (hswitched.toFlagged.of_same rfl) hflag CyclePhase.noConfusion
  | refill hrefill =>
      have hleft : ({ c.switch .probeBw with cycleStartTime := now } : Control).leaveProbeDown =
          { c.switch .probeBw with cycleStartTime := now } :=
        Control.leaveProbeDown_of_ne (by simp [Control.switch, hrefill])
      have hflag : c.hasAdvancedMaxBw = true := h.behind (.inr (.inl hrefill))
      unfold Control.enterProbeRefill
      rw [hleft]
      exact of_behind (hswitched.toFlagged.of_same rfl) hflag CyclePhase.noConfusion
  | otherPhase hother => exact hswitched.of_same rfl rfl rfl rfl

theorem changed (h : CycleKept now c log) (hchange : ModeChange now c nextMode calls c') :
    CycleKept now c' (log ++ calls) := by
  cases hchange with
  | startup => exact h.switch .startup
  | drain => exact h.switch .drain
  | probeRtt => exact (h.switch .probeRtt).of_same rfl rfl rfl rfl
  | firstCycle hphase rounds wait =>
      have hentered : CycleKept now ((c.switch .probeBw).enterProbeDown rounds wait now)
          (log ++ [.changeMode .probeBw] ++ [.enterProbeDown]) :=
        enterProbeDown (h.switch .probeBw).toFlagged rounds wait
      rw [List.append_assoc] at hentered
      exact hentered
  | cruise hphase inflightLo => exact h.resumed (.cruise hphase inflightLo) (.inl hphase)
  | refill hphase => exact h.resumed (.refill hphase) (.inr hphase)
  | otherPhase => exact (h.switch .probeBw).of_same rfl rfl rfl rfl

theorem sampling (h : CycleKept t c log) (hsampling : Sampling event c c') :
    CycleKept t c' log := by
  cases hsampling
  exact h.of_same rfl rfl rfl rfl

theorem eventMove (h : CycleKept t c log) (hle : t ≤ event.eventTime)
    (hmove : EventMove event c calls c') : CycleKept event.eventTime c' (log ++ calls) := by
  cases hmove with
  | react hsampling hloop =>
      have hlooped := @LoopMove.induct _ _ _ _ (CycleKept event.eventTime)
        (CycleKept event.eventTime) (fun _ _ _ _ h hmove => h.handled hmove)
        (fun _ _ _ _ _ _ _ h hmove _ hchange => (h.handled hmove).changed hchange)
        hloop _ ((h.later hle).sampling hsampling)
      unfold Control.maybeEnterQuiescence
      split
      · exact hlooped.of_same rfl rfl rfl rfl
      · exact hlooped

theorem sendMove {bytesInFlight : Nat} (h : CycleKept t c log) (hplaced : c.Placed)
    (hmove : SendMove now bytesInFlight c calls c') : CycleKept t c' (log ++ calls) := by
  cases hmove with
  | probeRttOver hmode hquiet hover hchange =>
      exact (h.resumed hchange (hplaced.probeRtt hmode)).of_same rfl rfl rfl rfl
  | _ =>
      rw [List.append_nil]
      exact h.of_same rfl rfl rfl rfl

end CycleKept

/-! ## Runs -/

namespace Bbr2Sender

theorem create_cycleKept (now : Int) (rttStats : RttStats) (initialCwnd maxCwnd : Nat)
    (stream : Nat → Nat) (t : Int) :
    CycleKept t (create now rttStats initialCwnd maxCwnd stream).control [] where
  advances := ⟨by simp, by simp⟩
  flag := rfl
  behind := by simp [create, control]
  started := by simp [create, control]
  counted := by simp [create, control]
  early := by simp [create, control]

/-- Each call of the run does what its log lists: apart from the sample that a congestion event may
give to the filter, the filter advances once for each `Advance` of the log, and the number of cycles
and the mode change with the log too. -/
def CallsLogged (s : Bbr2Sender) (calls : List Bbr2Call) : Prop :=
  ∀ pre c post, calls = pre ++ c :: post →
    ∃ filter, (filter = (s.run pre).model.maxBandwidthFilter ∨
        ∃ sample ≤ QuicBandwidth.infinite,
          filter = (s.run pre).model.maxBandwidthFilter.update sample) ∧
      Logged { (s.run pre).control with maxBandwidthFilter := filter } ((s.run pre).callLog c)
        ((s.run pre).call c).control

theorem HasDefaults.callsLogged {s : Bbr2Sender} (hs : s.HasDefaults) (calls : List Bbr2Call) :
    s.CallsLogged calls := by
  intro pre c post _
  have hpre : (s.run pre).HasDefaults := run_invariant (fun _ c hs => hs.call c) hs pre
  exact hpre.call_logged c

/-- The window advances at most once between two entries of PROBE_DOWN, only in PROBE_DOWN, and
it has advanced when PROBE_DOWN is left. -/
theorem window_advances_once (now : Int) (rttStats : RttStats) (initialCwnd maxCwnd : Nat)
    (stream : Nat → Nat) (calls : List Bbr2Call)
    (hsorted : (calls.filterMap Bbr2Call.eventTime?).Pairwise (· ≤ ·)) :
    let s := create now rttStats initialCwnd maxCwnd stream
    (∀ log, log <+: s.runLog calls → advancesInCycle log ≤ 1) ∧
      (∀ phase, .advanceMaxBandwidthFilter phase ∈ s.runLog calls → phase = .probeDown) ∧
      ((s.run calls).probeBw.cycle.phase = .probeCruise ∨
          (s.run calls).probeBw.cycle.phase = .probeRefill ∨
          (s.run calls).probeBw.cycle.phase = .probeUp →
        (s.run calls).probeBw.cycle.hasAdvancedMaxBw = true ∧
          advancesInCycle (s.runLog calls) = 1) ∧
      s.CallsLogged calls := by
  intro s
  have hstep : ∀ t (s : Bbr2Sender) log (c : Bbr2Call),
      s.HasDefaults ∧ s.control.Placed ∧ CycleKept t s.control log →
      (∀ t', c.eventTime? = some t' → t ≤ t') →
      (s.call c).HasDefaults ∧ (s.call c).control.Placed ∧
        CycleKept (c.eventTime?.getD t) (s.call c).control (log ++ s.callLog c) := by
    rintro t s log c ⟨hs, hplaced, hkept⟩ hle
    refine ⟨hs.call c, ?_⟩
    cases c with
    | packetSent sentTime bytesInFlight packetNumber bytes =>
        have hmove := hs.send_move sentTime bytesInFlight packetNumber bytes
        exact ⟨hplaced.sendMove hmove, hkept.sendMove hplaced hmove⟩
    | congestionEvent leastUnacked priorInFlight eventTime ackedPackets lostPackets =>
        have hmove := onCongestionEvent_move hs leastUnacked priorInFlight eventTime ackedPackets
          lostPackets
        exact ⟨hplaced.eventMove hmove, hkept.eventMove (hle eventTime rfl) hmove⟩
  obtain ⟨start, hstart⟩ := exists_start hsorted
  obtain ⟨_, _, hkept⟩ := run_invariant_timed hstep
    ⟨create_hasDefaults now rttStats initialCwnd maxCwnd stream,
      create_placed now rttStats initialCwnd maxCwnd stream,
      create_cycleKept now rttStats initialCwnd maxCwnd stream start⟩ hstart
  refine ⟨hkept.advances.once, hkept.advances.inDown, fun hphase => ?_,
    (create_hasDefaults now rttStats initialCwnd maxCwnd stream).callsLogged calls⟩
  have hflag := hkept.behind hphase
  have hcount := hkept.flag
  rw [hflag, if_pos rfl] at hcount
  exact ⟨hflag, hcount⟩

theorem window_advanced_in_probe_up :
    ((create 0 {} 32 2000 id).run (roundTrips 6 1000)).probeBw.cycle.phase = .probeUp ∧
      ((create 0 {} 32 2000 id).run (roundTrips 6 1000)).probeBw.cycle.hasAdvancedMaxBw = true ∧
      advancesInCycle ((create 0 {} 32 2000 id).runLog (roundTrips 6 1000)) = 1 := by
  have hphase :
      ((create 0 {} 32 2000 id).run (roundTrips 6 1000)).probeBw.cycle.phase = .probeUp := by
    decide +kernel
  have hadvances := window_advances_once 0 {} 32 2000 id (roundTrips 6 1000) (by decide +kernel)
  obtain ⟨_, _, hadvanced, _⟩ := hadvances
  exact ⟨hphase, hadvanced (.inr (.inr hphase))⟩

end Bbr2Sender

end BbrChrome
