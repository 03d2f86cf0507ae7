import BbrChrome.Congestion.BbrModes
import BbrChrome.Library.History

/-!
# Coherence of the modes of BBRv1

The gains follow the mode and the sender never goes back to STARTUP or DRAIN, except from a visit
to PROBE_RTT before full bandwidth.
-/

namespace BbrChrome

open Rounding

namespace BbrControl

/-- The settings that the constructor makes. -/
def defaultSettings : Nat × Rat × Rat × Rat × Rat × Bool :=
  (4 * kMaxSegmentSize, kDefaultHighGain, 2, float32 (1 / kDefaultHighGain), 2, false)

/-- The gains follow the mode, and the modes behind STARTUP have full bandwidth. -/
structure GainsFollow (m : BbrControl) : Prop where
  settings : m.settings = defaultSettings
  windowGain : m.congestionWindowGain = 2
  startup : m.mode = .startup → m.pacingGain = kDefaultHighGain
  drain : m.mode = .drain →
    m.isAtFullBandwidth = true ∧ m.pacingGain = float32 (1 / kDefaultHighGain)
  probeBw : m.mode = .probeBw → m.isAtFullBandwidth = true ∧
    m.cycleCurrentOffset < kGainCycleLength ∧
      m.pacingGain = BbrSender.pacingGainAt m.cycleCurrentOffset
  probeRtt : m.mode = .probeRtt → m.pacingGain = 1

/-- Between two calls STARTUP does not have full bandwidth either. -/
structure Coherent (m : BbrControl) : Prop extends m.GainsFollow where
  notFull : m.mode = .startup → m.isAtFullBandwidth = false

/-- How far the sender has come on its way to PROBE_BW. In PROBE_RTT the flag of full bandwidth
decides what comes next. -/
def progress (m : BbrControl) : Nat :=
  match m.mode with
  | .startup => 0
  | .drain => 1
  | .probeBw => 2
  | .probeRtt => if m.isAtFullBandwidth then 2 else 0

variable {m m' : BbrControl} {now minRtt : Int} {target : Rat → Nat}
  {bytesInFlight priorInFlight : Nat} {expired small isRoundStart hasLosses : Bool}

/-! ## The moves keep the gains -/

theorem GainsFollow.constant (h : m.GainsFollow) :
    m.highGain = kDefaultHighGain ∧ m.highCwndGain = 2 ∧
      m.drainGain = float32 (1 / kDefaultHighGain) ∧ m.congestionWindowGainConstant = 2 := by
  have hsettings := h.settings
  simp only [BbrControl.settings, defaultSettings, Prod.mk.injEq] at hsettings
  exact ⟨hsettings.2.1, hsettings.2.2.1, hsettings.2.2.2.1, hsettings.2.2.2.2.1⟩

theorem GainsFollow.drainToTarget (h : m.GainsFollow) : m.drainToTarget = false :=
  congrArg (fun settings => settings.2.2.2.2.2) h.settings

theorem GainsFollow.cycleFrom (h : m.GainsFollow) (hfull : m.isAtFullBandwidth = true)
    {offset : Nat} (hlt : offset < kGainCycleLength) : (m.cycleFrom now offset).Coherent where
  settings := h.settings
  windowGain := h.constant.2.2.2
  startup := fun hmode => nomatch hmode
  drain := fun hmode => nomatch hmode
  probeBw := fun _ => ⟨hfull, hlt, rfl⟩
  probeRtt := fun hmode => nomatch hmode
  notFull := fun hmode => nomatch hmode

theorem SampleMove.coherent (hmove : m.SampleMove now expired m') (h : m.Coherent) :
    m'.Coherent ∧ m'.progress = m.progress := by
  cases hmove with
  | keep => exact ⟨h, rfl⟩
  | take =>
      exact ⟨⟨⟨h.settings, h.windowGain, h.startup, h.drain, h.probeBw, h.probeRtt⟩, h.notFull⟩,
        rfl⟩

theorem CycleMove.coherent
    (hmove : m.CycleMove now minRtt target bytesInFlight priorInFlight hasLosses m')
    (h : m.Coherent) : m'.Coherent ∧ m'.progress = m.progress := by
  cases hmove with
  | keep => exact ⟨h, rfl⟩
  | advance hmode =>
      have hother : ∀ mode, mode ≠ BbrMode.probeBw → (m.nextPhase now).mode ≠ mode := by
        intro mode hne hnext
        exact hne (hnext.symm.trans hmode)
      refine ⟨⟨⟨h.settings, h.windowGain, ?_, ?_, ?_, ?_⟩, ?_⟩, rfl⟩
      · exact fun hstartup => absurd hstartup (hother _ (by decide))
      · exact fun hdrain => absurd hdrain (hother _ (by decide))
      · exact fun _ => ⟨(h.probeBw hmode).1, Nat.mod_lt _ (by decide), rfl⟩
      · exact fun hrtt => absurd hrtt (hother _ (by decide))
      · exact fun hstartup => absurd hstartup (hother _ (by decide))

theorem FlagMove.gainsFollow (hmove : m.FlagMove isRoundStart m') (h : m.Coherent) :
    m'.GainsFollow ∧ m.progress ≤ m'.progress := by
  cases hmove with
  | keep => exact ⟨h.toGainsFollow, le_refl _⟩
  | raise hround hbefore =>
      refine ⟨⟨h.settings, h.windowGain, h.startup, ?_, ?_, h.probeRtt⟩, ?_⟩
      · exact fun hdrain => ⟨rfl, (h.drain hdrain).2⟩
      · exact fun hbw => ⟨rfl, (h.probeBw hbw).2⟩
      · unfold progress
        cases m.mode <;> simp [hbefore]

theorem ExitMove.coherent (hmove : m.ExitMove now m') (h : m.GainsFollow) :
    m'.Coherent ∧ m.progress ≤ m'.progress := by
  cases hmove with
  | keep hstay => exact ⟨⟨h, hstay⟩, le_refl _⟩
  | drain hmode hfull =>
      have hprogress : m.progress = 0 := by rw [progress, hmode]
      refine ⟨⟨⟨h.settings, h.constant.2.1, ?_, ?_, ?_, ?_⟩, ?_⟩, by omega⟩
      · exact fun hstartup => nomatch hstartup
      · exact fun _ => ⟨hfull, h.constant.2.2.1⟩
      · exact fun hbw => nomatch hbw
      · exact fun hrtt => nomatch hrtt
      · exact fun hstartup => nomatch hstartup
  | cycle hready offset hlt hne =>
      have hfull : m.isAtFullBandwidth = true := by
        rcases hready with hdrain | ⟨_, hfull⟩
        · exact (h.drain hdrain).1
        · exact hfull
      have hprogress : m.progress ≤ 2 := by
        unfold progress
        split
        · omega
        · omega
        · omega
        · split <;> omega
      exact ⟨h.cycleFrom hfull hlt, hprogress⟩

theorem Coherent.awaitFlight (h : m.Coherent) (now : Int) (small : Bool) :
    (m.awaitFlight now small).Coherent ∧ (m.awaitFlight now small).progress = m.progress := by
  unfold BbrControl.awaitFlight
  split
  · exact ⟨⟨⟨h.settings, h.windowGain, h.startup, h.drain, h.probeBw, h.probeRtt⟩, h.notFull⟩, rfl⟩
  · exact ⟨h, rfl⟩

theorem Coherent.progress_le (h : m.Coherent) :
    m.progress ≤ if m.isAtFullBandwidth then 2 else 0 := by
  cases hmode : m.mode with
  | startup => simp [progress, hmode]
  | drain => simp [progress, hmode, (h.drain hmode).1]
  | probeBw => simp [progress, hmode, (h.probeBw hmode).1]
  | probeRtt => simp [progress, hmode]

theorem ProbeRttMove.coherent (hmove : m.ProbeRttMove now expired small isRoundStart m')
    (h : m.Coherent) : m'.Coherent ∧ m.progress ≤ m'.progress := by
  cases hmove with
  | outside => exact ⟨h, le_refl _⟩
  | enter hexpired hmode =>
      have hentered : m.toProbeRtt.Coherent :=
        ⟨⟨h.settings, h.windowGain, (fun hstartup => nomatch hstartup),
          (fun hdrain => nomatch hdrain), (fun hbw => nomatch hbw), fun _ => rfl⟩,
          fun hstartup => nomatch hstartup⟩
      obtain ⟨hwaits, hprogress⟩ := hentered.awaitFlight now small
      exact ⟨hwaits, h.progress_le.trans (le_of_eq hprogress.symm)⟩
  | wait hmode hunset =>
      obtain ⟨hwaits, hprogress⟩ := h.awaitFlight now small
      exact ⟨hwaits, le_of_eq hprogress.symm⟩
  | stay hmode hset =>
      exact ⟨⟨⟨h.settings, h.windowGain, h.startup, h.drain, h.probeBw, h.probeRtt⟩, h.notFull⟩,
        le_refl _⟩
  | resume hmode hset hdue hround hfull offset hlt hne =>
      have hpassed : ({ m with
          probeRttRoundPassed := isRoundStart || m.probeRttRoundPassed
          minRttTimestamp := now } : BbrControl).GainsFollow :=
        ⟨h.settings, h.windowGain, h.startup, h.drain, h.probeBw, h.probeRtt⟩
      refine ⟨hpassed.cycleFrom hfull hlt, h.progress_le.trans ?_⟩
      rw [hfull]
      exact le_refl 2
  | restart hmode hset hdue hround hfull =>
      obtain ⟨hhigh, hwindow, _⟩ := h.constant
      refine ⟨⟨⟨h.settings, hwindow, fun _ => hhigh, ?_, ?_, ?_⟩, fun _ => hfull⟩, ?_⟩
      · exact fun hdrain => nomatch hdrain
      · exact fun hbw => nomatch hbw
      · exact fun hrtt => nomatch hrtt
      · have hle := h.progress_le
        rw [hfull] at hle
        exact hle

end BbrControl

namespace BbrSender

variable {s s' : BbrSender} {c : BbrCall} {calls : List BbrCall}

/-! ## Runs -/

theorem Coherent.call (h : s.control.Coherent) (c : BbrCall) :
    (s.call c).control.Coherent ∧ s.control.progress ≤ (s.call c).control.progress := by
  cases c with
  | packetSent => exact ⟨h, le_refl _⟩
  | congestionEvent rttStats map priorInFlight eventTime ackedPackets lostPackets =>
      obtain ⟨_, _, _, _, _, hsample, hcycle, hflag, hexit, hrtt⟩ := (onCongestionEvent_moves
        h.drainToTarget rttStats map priorInFlight eventTime ackedPackets lostPackets).moves
      obtain ⟨hsampled, hfirst⟩ := hsample.coherent h
      obtain ⟨hcycled, hsecond⟩ := hcycle.coherent hsampled
      obtain ⟨hflagged, hthird⟩ := hflag.gainsFollow hcycled
      obtain ⟨hexited, hfourth⟩ := hexit.coherent hflagged
      obtain ⟨hend, hfifth⟩ := hrtt.coherent hexited
      refine ⟨hend, ?_⟩
      change s.control.progress ≤ (s.onCongestionEvent rttStats map priorInFlight eventTime
        ackedPackets lostPackets).control.progress
      omega

theorem Coherent.run (h : s.control.Coherent) (calls : List BbrCall) :
    (s.run calls).control.Coherent ∧ s.control.progress ≤ (s.run calls).control.progress := by
  induction calls generalizing s with
  | nil => exact ⟨h, le_refl _⟩
  | cons c calls ih =>
      obtain ⟨hnext, hstep⟩ := Coherent.call h c
      obtain ⟨hlast, hrest⟩ := ih hnext
      exact ⟨hlast, hstep.trans hrest⟩

theorem create_coherent (now : Int) (initialCwnd maxCwnd : Nat) (stream : Nat → Nat) :
    (create now initialCwnd maxCwnd stream).control.Coherent where
  settings := rfl
  windowGain := rfl
  startup := fun _ => rfl
  drain := fun h => nomatch h
  probeBw := fun h => nomatch h
  probeRtt := fun h => nomatch h
  notFull := fun _ => rfl

/-- In every run the gains and the flag of full bandwidth follow the mode, and the sender only
goes forward from STARTUP over DRAIN to PROBE_BW, whatever visits to PROBE_RTT lie between. -/
theorem run_modesCoherent (now : Int) (initialCwnd maxCwnd : Nat) (stream : Nat → Nat)
    (calls : List BbrCall) :
    ((create now initialCwnd maxCwnd stream).run calls).control.Coherent ∧
      ∀ later, ((create now initialCwnd maxCwnd stream).run calls).control.progress ≤
        ((create now initialCwnd maxCwnd stream).run (calls ++ later)).control.progress := by
  obtain ⟨hcoherent, _⟩ := Coherent.run (create_coherent now initialCwnd maxCwnd stream) calls
  refine ⟨hcoherent, fun later => ?_⟩
  rw [run_append]
  exact (Coherent.run hcoherent later).2

/-! ## The gain cycle -/

/-- An entry of the record of a run: a call and the state that it meets. -/
abbrev Entry := BbrSender × BbrCall

namespace Entry

def after (e : Entry) : BbrControl := (e.1.call e.2).control

def BeginsPhase (e : Entry) : Prop :=
  e.after.mode = .probeBw ∧
    (e.1.mode ≠ .probeBw ∨ e.after.cycleCurrentOffset ≠ e.1.cycleCurrentOffset)

def BeginsPhaseAt (time : Int) (e : Entry) : Prop := e.2.eventTime? = some time ∧ e.BeginsPhase

/-- The entry leaves a phase, for the next one or for another mode. -/
def LeavesPhase (e : Entry) : Prop := e.after.mode ≠ .probeBw ∨ e.BeginsPhase

end Entry

end BbrSender

namespace BbrControl

variable {m m' sampled cycled flagged exited : BbrControl} {now minRtt : Int} {target : Rat → Nat}
  {bytesInFlight priorInFlight : Nat} {expired small isRoundStart hasLosses : Bool}

theorem SampleMove.phase (h : m.SampleMove now expired m') :
    m'.mode = m.mode ∧ m'.cycleCurrentOffset = m.cycleCurrentOffset ∧
      m'.lastCycleStart = m.lastCycleStart ∧ m'.pacingGain = m.pacingGain := by
  cases h <;> exact ⟨rfl, rfl, rfl, rfl⟩

theorem FlagMove.phase (h : m.FlagMove isRoundStart m') :
    m'.mode = m.mode ∧ m'.cycleCurrentOffset = m.cycleCurrentOffset ∧
      m'.lastCycleStart = m.lastCycleStart := by
  cases h <;> exact ⟨rfl, rfl, rfl⟩

/-- Behind the gain cycle a phase only starts when PROBE_BW is entered. -/
theorem ExitMove.phase (h : m.ExitMove now m') (hmode : m'.mode = .probeBw) :
    m' = m ∨ m.mode ≠ .probeBw ∧ m'.lastCycleStart = now := by
  cases h with
  | keep => exact .inl rfl
  | drain => cases hmode
  | cycle hready =>
      refine .inr ⟨?_, rfl⟩
      rcases hready with hready | ⟨hready, _⟩ <;> simp [hready]

theorem ProbeRttMove.phase (h : m.ProbeRttMove now expired small isRoundStart m')
    (hmode : m'.mode = .probeBw) : m' = m ∨ m.mode = .probeRtt ∧ m'.lastCycleStart = now := by
  have hawait : ∀ m : BbrControl, (m.awaitFlight now small).mode = m.mode := by
    intro m
    unfold awaitFlight
    split <;> rfl
  cases h with
  | outside => exact .inl rfl
  | enter =>
      rw [hawait] at hmode
      cases hmode
  | wait hrtt =>
      rw [hawait, hrtt] at hmode
      cases hmode
  | stay hrtt =>
      rw [show _ = BbrMode.probeRtt from hrtt] at hmode
      cases hmode
  | resume hrtt => exact .inr ⟨hrtt, rfl⟩
  | restart => cases hmode

end BbrControl

namespace BbrSender

variable {s s' : BbrSender} {c : BbrCall}

/-- What a call that ends in PROBE_BW does to the phase. -/
inductive PhaseMove (s s' : BbrSender) : BbrCall → Prop
  | same {c : BbrCall} (hmode : s.mode = .probeBw)
      (hoffset : s'.cycleCurrentOffset = s.cycleCurrentOffset)
      (hstart : s'.lastCycleStart = s.lastCycleStart) : PhaseMove s s' c
  | enter {c : BbrCall} (hmode : s.mode ≠ .probeBw)
      (hstart : c.eventTime? = some s'.lastCycleStart) : PhaseMove s s' c
  | next {rttStats : RttStats} {map : QuicUnackedPacketMap} {priorInFlight : Nat} {now : Int}
      {ackedPackets : List AckedPacket} {lostPackets : List LostPacket} (hmode : s.mode = .probeBw)
      (hstart : s'.lastCycleStart = now)
      (hoffset : s'.cycleCurrentOffset = (s.cycleCurrentOffset + 1) % kGainCycleLength)
      (hlong : s'.getMinRtt rttStats < now - s.lastCycleStart ∨
        s.pacingGain < 1 ∧ map.bytesInFlight ≤ s'.getTargetCongestionWindow rttStats 1)
      (hfull : 1 < s.pacingGain → lostPackets ≠ [] ∨
        s'.getTargetCongestionWindow rttStats s.pacingGain ≤ priorInFlight) :
      PhaseMove s s'
        (.congestionEvent rttStats map priorInFlight now ackedPackets lostPackets)

theorem call_phase (h : s.control.Coherent) (c : BbrCall) (hmode : (s.call c).mode = .probeBw) :
    PhaseMove s (s.call c) c := by
  cases c with
  | packetSent => exact .same hmode rfl rfl
  | congestionEvent rttStats map priorInFlight now ackedPackets lostPackets =>
      obtain ⟨_, sampled, cycled, flagged, exited, hsample, hcycle, hflag, hexit, hrtt⟩ :=
        (onCongestionEvent_moves h.drainToTarget rttStats map priorInFlight now ackedPackets
          lostPackets).moves
      change (s.onCongestionEvent rttStats map priorInFlight now ackedPackets
        lostPackets).control.mode = .probeBw at hmode
      change PhaseMove s (s.onCongestionEvent rttStats map priorInFlight now ackedPackets
        lostPackets) _
      generalize s.onCongestionEvent rttStats map priorInFlight now ackedPackets lostPackets = s'
        at *
      obtain ⟨hmode₁, hoffset₁, hstart₁, hgain₁⟩ := hsample.phase
      have hmode₂ : cycled.mode = sampled.mode := by cases hcycle <;> rfl
      obtain ⟨hmode₃, hoffset₃, hstart₃⟩ := hflag.phase
      have hbefore : flagged.mode = s.mode := hmode₃.trans (hmode₂.trans hmode₁)
      rcases hrtt.phase hmode with hsame | ⟨hvisit, hnow⟩
      · rcases hexit.phase (hsame ▸ hmode) with hkept | ⟨hother, hnow⟩
        · -- Only the gain cycle is left to start a phase.
          have hend : s'.control = flagged := hsame.trans hkept
          have hin : s.mode = .probeBw := by rw [← hbefore, ← hend, hmode]
          have hoffset : s'.cycleCurrentOffset = cycled.cycleCurrentOffset :=
            (congrArg BbrControl.cycleCurrentOffset hend).trans hoffset₃
          have hstart : s'.lastCycleStart = cycled.lastCycleStart :=
            (congrArg BbrControl.lastCycleStart hend).trans hstart₃
          cases hcycle with
          | keep => exact .same hin (hoffset.trans hoffset₁) (hstart.trans hstart₁)
          | advance _ hlong hfull =>
              rw [hstart₁, hgain₁] at hlong
              rw [hgain₁] at hfull
              refine .next hin hstart ?_ hlong ?_
              · rw [hoffset]
                exact congrArg (fun offset => (offset + 1) % kGainCycleLength) hoffset₁
              · intro hhigh
                rcases hfull hhigh with hlost | hreached
                · exact .inl (by simpa using hlost)
                · exact .inr hreached
        · refine .enter (hbefore ▸ hother) ?_
          rw [← hnow, ← hsame]
          rfl
      · refine .enter ?_ (by rw [← hnow]; rfl)
        intro hin
        have hflagged : flagged.mode = .probeBw := hbefore.trans hin
        cases hexit with
        | keep => rw [hflagged] at hvisit; cases hvisit
        | drain => cases hvisit
        | cycle => cases hvisit

/-- In PROBE_BW the start of the cycle is the time of the event that began the phase. -/
structure PhaseKnown (s : BbrSender) (history : List Entry) : Prop where
  coherent : s.control.Coherent
  since : s.mode = .probeBw →
    History.SinceLast (Entry.BeginsPhaseAt s.lastCycleStart) Entry.LeavesPhase history

theorem PhaseKnown.call {history : List Entry} (h : s.PhaseKnown history) (c : BbrCall) :
    (s.call c).PhaseKnown (history ++ [(s, c)]) := by
  refine ⟨(Coherent.call h.coherent c).1, fun hmode => ?_⟩
  rw [History.sinceLast_concat]
  cases call_phase h.coherent c hmode with
  | same hbefore hoffset hstart =>
      refine .inr ⟨hstart ▸ h.since hbefore, ?_⟩
      rintro (hleft | ⟨_, hother | hchanged⟩)
      · exact hleft hmode
      · exact hother hbefore
      · exact hchanged hoffset
  | enter hbefore hstart => exact .inl ⟨hstart, hmode, .inl hbefore⟩
  | next hbefore hstart hoffset =>
      refine .inl ⟨congrArg some hstart.symm, hmode, .inr ?_⟩
      intro hsame
      have hchanged : s.cycleCurrentOffset = (s.cycleCurrentOffset + 1) % kGainCycleLength :=
        hsame.symm.trans hoffset
      have hlt := (h.coherent.probeBw hbefore).2.1
      change s.cycleCurrentOffset < 8 at hlt
      change s.cycleCurrentOffset = (s.cycleCurrentOffset + 1) % 8 at hchanged
      omega

/-- Only phase 1 drains, and only phase 0 probes. -/
theorem pacingGainAt_cases (offset : Nat) :
    (pacingGainAt offset < 1 → offset = 1) ∧ (1 < pacingGainAt offset ↔ offset = 0) := by
  match offset with
  | 0 => decide +kernel
  | 1 => decide +kernel
  | 2 | 3 | 4 | 5 | 6 | 7 => decide +kernel
  | offset + 8 => simp [pacingGainAt, kPacingGain]

/-- In every run of PROBE_BW the phases follow in their order, each but the draining one lasts
longer than the minimum RTT since the event that began it, the draining one as long unless the
flight is down to the target, and the probing one until it has seen a loss or filled its larger
target. -/
theorem gainCycle_law (start : Int) (initialCwnd maxCwnd : Nat) (stream : Nat → Nat)
    (calls : List BbrCall) (rttStats : RttStats) (map : QuicUnackedPacketMap) (priorInFlight : Nat)
    (now : Int) (ackedPackets : List AckedPacket) (lostPackets : List LostPacket) {s s' : BbrSender}
    (hs : s = (create start initialCwnd maxCwnd stream).run calls)
    (hs' : s' = s.onCongestionEvent rttStats map priorInFlight now ackedPackets lostPackets)
    (hbefore : s.mode = .probeBw) (hafter : s'.mode = .probeBw)
    (hchange : s'.cycleCurrentOffset ≠ s.cycleCurrentOffset) :
    s'.cycleCurrentOffset = (s.cycleCurrentOffset + 1) % kGainCycleLength ∧
    (∃ begun, History.SinceLast (Entry.BeginsPhaseAt begun) Entry.LeavesPhase
        (History.trace call (create start initialCwnd maxCwnd stream) calls) ∧
      (s'.getMinRtt rttStats < now - begun ∨
        s.cycleCurrentOffset = 1 ∧ map.bytesInFlight ≤ s'.getTargetCongestionWindow rttStats 1)) ∧
    (s.cycleCurrentOffset = 0 → lostPackets ≠ [] ∨
      s'.getTargetCongestionWindow rttStats (5 / 4) ≤ priorInFlight) := by
  have hknown : s.PhaseKnown
      (History.trace call (create start initialCwnd maxCwnd stream) calls) := by
    have hcreate : (create start initialCwnd maxCwnd stream).PhaseKnown [] :=
      ⟨create_coherent _ _ _ _, fun hmode => nomatch hmode⟩
    have hstep : ∀ (s : BbrSender) (history : List Entry) (c : BbrCall), s.PhaseKnown history →
        (s.call c).PhaseKnown (history ++ [(s, c)]) := fun _ _ c h => h.call c
    rw [hs]
    exact History.trace_invariant hstep hcreate calls
  obtain ⟨_, _, hgain⟩ := hknown.coherent.probeBw hbefore
  change s.pacingGain = pacingGainAt s.cycleCurrentOffset at hgain
  have hcall : s.call
      (.congestionEvent rttStats map priorInFlight now ackedPackets lostPackets) = s' := hs'.symm
  have hmove := call_phase hknown.coherent
    (.congestionEvent rttStats map priorInFlight now ackedPackets lostPackets)
    (by rw [hcall]; exact hafter)
  rw [hcall] at hmove
  cases hmove with
  | same _ hoffset => exact absurd hoffset hchange
  | enter hother => exact absurd hbefore hother
  | next _ _ hoffset hlong hfull =>
      refine ⟨hoffset, ⟨_, hknown.since hbefore, ?_⟩, ?_⟩
      · rcases hlong with hlong | ⟨hlow, hsmall⟩
        · exact .inl hlong
        · rw [hgain] at hlow
          exact .inr ⟨(pacingGainAt_cases _).1 hlow, hsmall⟩
      · intro hprobe
        have hhigh : s.pacingGain = 5 / 4 := by rw [hgain, hprobe]; rfl
        rw [hhigh] at hfull
        exact hfull (by norm_num)

/-- Five round trips lead to PROBE_BW; a loss ends its first probing phase. -/
def probingSends : List BbrCall :=
  roundTrips 5 ++ [.packetSent 100001 0 6 defaultPacketSize,
    .packetSent 100101 defaultPacketSize 7 defaultPacketSize]

theorem gainCycle_law_of_loss :
    let s := (create 1 32 2000 id).run probingSends
    let s' := s.onCongestionEvent {} {} (2 * defaultPacketSize) 115101
      [⟨7, defaultPacketSize, 115101⟩] [⟨6, defaultPacketSize⟩]
    s'.cycleCurrentOffset = (s.cycleCurrentOffset + 1) % kGainCycleLength :=
  (gainCycle_law 1 32 2000 id probingSends {} {} (2 * defaultPacketSize) 115101
    [⟨7, defaultPacketSize, 115101⟩] [⟨6, defaultPacketSize⟩] rfl rfl (by decide +kernel)
    (by decide +kernel) (by decide +kernel)).1

end BbrSender

end BbrChrome
