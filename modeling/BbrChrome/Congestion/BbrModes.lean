import BbrChrome.Congestion.LossRecovery

/-!
# The modes of BBRv1

A congestion event takes one move of each kind, in this order: the RTT sample, the gain cycle, the
flag of full bandwidth, the way out of STARTUP and DRAIN, and PROBE_RTT. What they start from and
what they write is the control part of the sender.
-/

namespace BbrChrome

open Rounding

def BbrCall.eventTime? : BbrCall → Option Int
  | packetSent .. => none
  | congestionEvent _ _ _ eventTime _ _ => some eventTime

/-- The part of the sender that its modes read and write. -/
structure BbrControl where
  mode : BbrMode
  pacingGain : Rat
  congestionWindowGain : Rat
  cycleCurrentOffset : Nat
  lastCycleStart : Int
  isAtFullBandwidth : Bool
  minRtt : Int
  minRttTimestamp : Int
  exitProbeRttAt : Int
  probeRttRoundPassed : Bool
  minCongestionWindow : Nat
  highGain : Rat
  highCwndGain : Rat
  drainGain : Rat
  congestionWindowGainConstant : Rat
  drainToTarget : Bool
deriving DecidableEq, Repr

def BbrSender.control (s : BbrSender) : BbrControl :=
  { mode := s.mode
    pacingGain := s.pacingGain
    congestionWindowGain := s.congestionWindowGain
    cycleCurrentOffset := s.cycleCurrentOffset
    lastCycleStart := s.lastCycleStart
    isAtFullBandwidth := s.isAtFullBandwidth
    minRtt := s.minRtt
    minRttTimestamp := s.minRttTimestamp
    exitProbeRttAt := s.exitProbeRttAt
    probeRttRoundPassed := s.probeRttRoundPassed
    minCongestionWindow := s.minCongestionWindow
    highGain := s.highGain
    highCwndGain := s.highCwndGain
    drainGain := s.drainGain
    congestionWindowGainConstant := s.congestionWindowGainConstant
    drainToTarget := s.drainToTarget }

namespace BbrControl

/-- PROBE_BW from `offset` of the gain cycle on. -/
def cycleFrom (m : BbrControl) (now : Int) (offset : Nat) : BbrControl :=
  { m with
    mode := .probeBw
    congestionWindowGain := m.congestionWindowGainConstant
    cycleCurrentOffset := offset
    lastCycleStart := now
    pacingGain := BbrSender.pacingGainAt offset }

def nextPhase (m : BbrControl) (now : Int) : BbrControl :=
  { m with
    cycleCurrentOffset := (m.cycleCurrentOffset + 1) % kGainCycleLength
    lastCycleStart := now
    pacingGain := BbrSender.pacingGainAt ((m.cycleCurrentOffset + 1) % kGainCycleLength) }

/-- PROBE_RTT before its flight is found small. -/
def toProbeRtt (m : BbrControl) : BbrControl :=
  { m with mode := .probeRtt, pacingGain := 1, exitProbeRttAt := 0 }

/-- The time to leave PROBE_RTT is set once the flight is small. -/
def awaitFlight (m : BbrControl) (now : Int) (small : Bool) : BbrControl :=
  if small then { m with exitProbeRttAt := now + kProbeRttTime, probeRttRoundPassed := false }
  else m

/-! ## Moves -/

/-- The sample of the minimum RTT; `expired` says that it was due. -/
inductive SampleMove (now : Int) (m : BbrControl) : Bool → BbrControl → Prop
  | keep : SampleMove now m false m
  | take (expired : Bool) (hdue : expired = true →
      m.minRtt ≠ 0 ∧ m.minRttTimestamp + kMinRttExpiry < now) (minRtt : Int) :
      SampleMove now m expired { m with minRtt, minRttTimestamp := now }

/-- One step of the gain cycle, with the minimum RTT and the target window for a gain. -/
inductive CycleMove (now minRtt : Int) (target : Rat → Nat) (bytesInFlight priorInFlight : Nat)
    (hasLosses : Bool) (m : BbrControl) : BbrControl → Prop
  | keep : CycleMove now minRtt target bytesInFlight priorInFlight hasLosses m m
  | advance (hmode : m.mode = .probeBw)
      (hlong : minRtt < now - m.lastCycleStart ∨ m.pacingGain < 1 ∧ bytesInFlight ≤ target 1)
      (hfull : 1 < m.pacingGain → hasLosses = true ∨ target m.pacingGain ≤ priorInFlight) :
      CycleMove now minRtt target bytesInFlight priorInFlight hasLosses m (m.nextPhase now)

/-- The flag of full bandwidth only rises, when a round starts. -/
inductive FlagMove (isRoundStart : Bool) (m : BbrControl) : BbrControl → Prop
  | keep : FlagMove isRoundStart m m
  | raise (hround : isRoundStart = true) (hbefore : m.isAtFullBandwidth = false) :
      FlagMove isRoundStart m { m with isAtFullBandwidth := true }

/-- The way out of STARTUP and DRAIN. -/
inductive ExitMove (now : Int) (m : BbrControl) : BbrControl → Prop
  | keep (hstay : m.mode = .startup → m.isAtFullBandwidth = false) : ExitMove now m m
  | drain (hmode : m.mode = .startup) (hfull : m.isAtFullBandwidth = true) :
      ExitMove now m
        { m with mode := .drain, pacingGain := m.drainGain, congestionWindowGain := m.highCwndGain }
  | cycle (hready : m.mode = .drain ∨ m.mode = .startup ∧ m.isAtFullBandwidth = true)
      (offset : Nat) (hlt : offset < kGainCycleLength) (hne : offset ≠ 1) :
      ExitMove now m (m.cycleFrom now offset)

/-- The way into PROBE_RTT, through it and out of it. -/
inductive ProbeRttMove (now : Int) (expired small isRoundStart : Bool) (m : BbrControl) :
    BbrControl → Prop
  | outside (hmode : m.mode ≠ .probeRtt) : ProbeRttMove now expired small isRoundStart m m
  | enter (hexpired : expired = true) (hmode : m.mode ≠ .probeRtt) :
      ProbeRttMove now expired small isRoundStart m (m.toProbeRtt.awaitFlight now small)
  | wait (hmode : m.mode = .probeRtt) (hunset : m.exitProbeRttAt = 0) :
      ProbeRttMove now expired small isRoundStart m (m.awaitFlight now small)
  | stay (hmode : m.mode = .probeRtt) (hset : m.exitProbeRttAt ≠ 0) :
      ProbeRttMove now expired small isRoundStart m
        { m with probeRttRoundPassed := isRoundStart || m.probeRttRoundPassed }
  | resume (hmode : m.mode = .probeRtt) (hset : m.exitProbeRttAt ≠ 0)
      (hdue : m.exitProbeRttAt ≤ now)
      (hround : (isRoundStart || m.probeRttRoundPassed) = true)
      (hfull : m.isAtFullBandwidth = true) (offset : Nat) (hlt : offset < kGainCycleLength)
      (hne : offset ≠ 1) :
      ProbeRttMove now expired small isRoundStart m
        ({ m with
           probeRttRoundPassed := isRoundStart || m.probeRttRoundPassed
           minRttTimestamp := now }.cycleFrom now offset)
  | restart (hmode : m.mode = .probeRtt) (hset : m.exitProbeRttAt ≠ 0)
      (hdue : m.exitProbeRttAt ≤ now)
      (hround : (isRoundStart || m.probeRttRoundPassed) = true)
      (hfull : m.isAtFullBandwidth = false) :
      ProbeRttMove now expired small isRoundStart m
        { m with
          probeRttRoundPassed := isRoundStart || m.probeRttRoundPassed
          minRttTimestamp := now
          mode := .startup
          pacingGain := m.highGain
          congestionWindowGain := m.highCwndGain }

def settings (m : BbrControl) : Nat × Rat × Rat × Rat × Rat × Bool :=
  (m.minCongestionWindow, m.highGain, m.highCwndGain, m.drainGain, m.congestionWindowGainConstant,
    m.drainToTarget)

variable {m m' : BbrControl} {now minRtt : Int} {target : Rat → Nat}
  {bytesInFlight priorInFlight : Nat} {expired small isRoundStart hasLosses : Bool}

theorem SampleMove.settings (h : m.SampleMove now expired m') : m'.settings = m.settings := by
  cases h <;> rfl

theorem CycleMove.settings
    (h : m.CycleMove now minRtt target bytesInFlight priorInFlight hasLosses m') :
    m'.settings = m.settings := by
  cases h <;> rfl

theorem FlagMove.settings (h : m.FlagMove isRoundStart m') : m'.settings = m.settings := by
  cases h <;> rfl

theorem ExitMove.settings (h : m.ExitMove now m') : m'.settings = m.settings := by
  cases h <;> rfl

theorem awaitFlight_settings (m : BbrControl) :
    (m.awaitFlight now small).settings = m.settings := by
  unfold awaitFlight
  split <;> rfl

theorem ProbeRttMove.settings (h : m.ProbeRttMove now expired small isRoundStart m') :
    m'.settings = m.settings := by
  cases h with
  | enter => exact awaitFlight_settings _
  | wait => exact awaitFlight_settings _
  | _ => rfl

end BbrControl

namespace BbrSender

variable {s s' : BbrSender} {c : BbrCall}

/-- The flight that PROBE_RTT waits for. -/
def flightIsSmall (s : BbrSender) (bytesInFlight : Nat) : Bool :=
  bytesInFlight < s.probeRttCongestionWindow + kMaxOutgoingPacketSize

theorem flightIsSmall_of_settings (h : s'.control.settings = s.control.settings)
    (bytesInFlight : Nat) : s'.flightIsSmall bytesInFlight = s.flightIsSmall bytesInFlight := by
  unfold flightIsSmall probeRttCongestionWindow
  rw [show s'.minCongestionWindow = s.minCongestionWindow from congrArg Prod.fst h]

/-! ## One move of each kind -/

theorem maybeUpdateMinRtt_move (now sampleMinRtt : Int) :
    s.control.SampleMove now (s.maybeUpdateMinRtt now sampleMinRtt).2
      (s.maybeUpdateMinRtt now sampleMinRtt).1.control := by
  unfold maybeUpdateMinRtt
  dsimp only
  split
  · exact .take _ (fun hdue => of_decide_eq_true hdue) _
  · rename_i hkeep
    simp only [Bool.or_eq_true, not_or, Bool.not_eq_true] at hkeep
    rw [hkeep.1.1]
    exact .keep

theorem recordSample_move (sample : CongestionEventSample) (anyAcked : Bool) (eventTime : Int)
    (lostPackets : List LostPacket) (bytesLost : Nat) :
    s.control.SampleMove eventTime
      (s.recordSample sample anyAcked eventTime lostPackets bytesLost).2
      (s.recordSample sample anyAcked eventTime lostPackets bytesLost).1.control := by
  have hfilter : ((s.recordSendState sample.lastPacketSendState).updateMaxBandwidth sample
      anyAcked).control = s.control := (recordBandwidthSample_changes _ _).keeps control rfl
  have hcount : ∀ s : BbrSender, (s.countLosses lostPackets bytesLost).control = s.control :=
    fun _ => rfl
  unfold recordSample
  dsimp only
  split
  · rw [hcount, hfilter]
    exact .keep
  · rw [hcount, ← hfilter]
    exact maybeUpdateMinRtt_move _ _

theorem updateGainCyclePhase_move (hmode : s.mode = .probeBw) (hdrain : s.drainToTarget = false)
    (rttStats : RttStats) (bytesInFlight : Nat) (now : Int) (priorInFlight : Nat)
    (hasLosses : Bool) :
    s.control.CycleMove now (s.getMinRtt rttStats) (s.getTargetCongestionWindow rttStats)
      bytesInFlight priorInFlight hasLosses
      (s.updateGainCyclePhase rttStats bytesInFlight now priorInFlight hasLosses).control := by
  unfold updateGainCyclePhase
  dsimp only
  generalize hadvance : (if s.pacingGain < 1 ∧
    bytesInFlight ≤ s.getTargetCongestionWindow rttStats 1
    then true else _) = advance
  cases advance with
  | false => exact .keep
  | true =>
      have hmove : s.control.CycleMove now (s.getMinRtt rttStats)
          (s.getTargetCongestionWindow rttStats) bytesInFlight priorInFlight hasLosses
          (s.control.nextPhase now) := by
        refine .advance hmode ?_ ?_
        · split at hadvance
          · next hlow => exact .inr hlow
          · split at hadvance
            · cases hadvance
            · exact .inl (of_decide_eq_true hadvance)
        · intro hhigh
          have hnotlow : ¬ (s.pacingGain < 1 ∧
              bytesInFlight ≤ s.getTargetCongestionWindow rttStats 1) :=
            fun hlow => absurd hlow.1 (not_lt.mpr (le_of_lt hhigh))
          rw [if_neg hnotlow] at hadvance
          split at hadvance
          · cases hadvance
          · rename_i hreached
            cases hasLosses with
            | true => exact .inl rfl
            | false => exact .inr (Nat.not_lt.mp fun hless => hreached ⟨hhigh, rfl, hless⟩)
      exact Eq.subst (by simp [control, BbrControl.nextPhase, hdrain]) hmove

theorem checkIfFullBandwidthReached_move (hbefore : s.isAtFullBandwidth = false)
    (lastPacketSendState : SendTimeState) :
    s.control.FlagMove true (s.checkIfFullBandwidthReached lastPacketSendState).control := by
  unfold checkIfFullBandwidthReached
  dsimp only
  split
  · exact .keep
  · split
    · exact .keep
    · split
      · exact .raise rfl hbefore
      · split
        · exact .raise rfl hbefore
        · exact .keep

theorem enterProbeBandwidthMode_control (s : BbrSender) (now : Int) :
    ∃ offset, offset < kGainCycleLength ∧ offset ≠ 1 ∧
      (s.enterProbeBandwidthMode now).control = s.control.cycleFrom now offset := by
  have hlength : kGainCycleLength = 8 := rfl
  have hdraw : (s.random.next (kGainCycleLength - 1)).2 < 7 := Nat.mod_lt _ (by decide)
  refine ⟨if 1 ≤ (s.random.next (kGainCycleLength - 1)).2 then
    (s.random.next (kGainCycleLength - 1)).2 + 1 else (s.random.next (kGainCycleLength - 1)).2,
    ?_, ?_, rfl⟩
  · split <;> omega
  · split <;> omega

theorem maybeExitStartupOrDrain_move (rttStats : RttStats) (bytesInFlight : Nat) (now : Int) :
    s.control.ExitMove now (s.maybeExitStartupOrDrain rttStats bytesInFlight now).control := by
  unfold maybeExitStartupOrDrain
  dsimp only
  by_cases hready : s.mode = .startup ∧ s.isAtFullBandwidth = true
  · rw [if_pos hready]
    split
    · obtain ⟨offset, hlt, hne, hcontrol⟩ := enterProbeBandwidthMode_control
        { s.onExitStartup now with
          mode := .drain, pacingGain := s.drainGain, congestionWindowGain := s.highCwndGain } now
      have hcycle : s.control.ExitMove now (s.control.cycleFrom now offset) :=
        .cycle (.inr hready) offset hlt hne
      exact Eq.subst (motive := s.control.ExitMove now) hcontrol.symm hcycle
    · exact .drain hready.1 hready.2
  · rw [if_neg hready]
    split
    · rename_i hdrained
      obtain ⟨offset, hlt, hne, hcontrol⟩ := enterProbeBandwidthMode_control s now
      rw [hcontrol]
      exact .cycle (.inl hdrained.1) offset hlt hne
    · refine .keep fun hstartup => ?_
      exact Bool.eq_false_iff.mpr fun hfull => hready ⟨hstartup, hfull⟩

theorem continueProbeRtt_waits (hunset : s.exitProbeRttAt = 0) (bytesInFlight : Nat) (now : Int)
    (isRoundStart : Bool) :
    (s.continueProbeRtt bytesInFlight now isRoundStart).control =
      s.control.awaitFlight now (s.flightIsSmall bytesInFlight) := by
  unfold continueProbeRtt
  dsimp only
  rw [if_pos hunset]
  split
  · rename_i hsmall
    rw [show s.flightIsSmall bytesInFlight = true from decide_eq_true hsmall]
    rfl
  · rename_i hlarge
    rw [show s.flightIsSmall bytesInFlight = false from decide_eq_false hlarge]
    rfl

theorem continueProbeRtt_move (hmode : s.mode = .probeRtt) (bytesInFlight : Nat) (now : Int)
    (expired isRoundStart : Bool) :
    s.control.ProbeRttMove now expired (s.flightIsSmall bytesInFlight) isRoundStart
      (s.continueProbeRtt bytesInFlight now isRoundStart).control := by
  by_cases hunset : s.exitProbeRttAt = 0
  · rw [continueProbeRtt_waits hunset]
    exact .wait hmode hunset
  · unfold continueProbeRtt
    dsimp only
    rw [if_neg hunset]
    split
    · rename_i hdone
      obtain ⟨hdue, hround⟩ := Bool.and_eq_true_iff.mp hdone
      split
      · rename_i hfull
        obtain ⟨offset, hlt, hne, hcontrol⟩ := enterProbeBandwidthMode_control
          { s with
            sampler := s.sampler.onAppLimited
            probeRttRoundPassed := isRoundStart || s.probeRttRoundPassed
            minRttTimestamp := now } now
        rw [hcontrol]
        exact .resume hmode hunset (of_decide_eq_true hdue) hround hfull offset hlt hne
      · rename_i hfull
        exact .restart hmode hunset (of_decide_eq_true hdue) hround (Bool.eq_false_iff.mpr hfull)
    · exact .stay hmode hunset

theorem enterProbeRtt_control (s : BbrSender) (now : Int) :
    (s.enterProbeRtt now).control = s.control.toProbeRtt := by
  unfold enterProbeRtt
  dsimp only
  split <;> rfl

theorem maybeEnterOrExitProbeRtt_move (bytesInFlight : Nat) (now : Int)
    (isRoundStart expired : Bool) :
    s.control.ProbeRttMove now expired (s.flightIsSmall bytesInFlight) isRoundStart
      (s.maybeEnterOrExitProbeRtt bytesInFlight now isRoundStart expired).control := by
  have hend : ∀ t : BbrSender,
      (({ t with exitingQuiescence := false } : BbrSender)).control = t.control := fun _ => rfl
  unfold maybeEnterOrExitProbeRtt
  rw [hend]
  by_cases henters : (expired && !s.exitingQuiescence && s.mode != .probeRtt) = true
  · obtain ⟨hboth, hother⟩ := Bool.and_eq_true_iff.mp henters
    have hentered := enterProbeRtt_control s now
    have hmode : (s.enterProbeRtt now).mode = .probeRtt := congrArg BbrControl.mode hentered
    have hflight : (s.enterProbeRtt now).flightIsSmall bytesInFlight =
        s.flightIsSmall bytesInFlight :=
      flightIsSmall_of_settings ((congrArg BbrControl.settings hentered).trans rfl) _
    rw [if_pos henters, if_pos hmode,
      continueProbeRtt_waits (congrArg BbrControl.exitProbeRttAt hentered), hentered, hflight]
    have houtside : s.mode ≠ .probeRtt := by simpa using hother
    exact .enter (Bool.and_eq_true_iff.mp hboth).1 houtside
  · rw [if_neg henters]
    split
    · rename_i hmode
      exact continueProbeRtt_move hmode _ _ _ _
    · rename_i hmode
      exact .outside hmode

/-! ## What the sampling of an event decides -/

/-- What an event does not write once it has recorded its sample. `GetTargetCongestionWindow` reads
no more than that. -/
def measured (s : BbrSender) : WindowedFilter QuicBandwidth × Int × Nat × Nat × Nat :=
  (s.maxBandwidth, s.minRtt, s.roundTripCount, s.initialCongestionWindow, s.minCongestionWindow)

theorem target_of_measured (h : s'.measured = s.measured) (rttStats : RttStats) :
    s'.getMinRtt rttStats = s.getMinRtt rttStats ∧
      s'.getTargetCongestionWindow rttStats = s.getTargetCongestionWindow rttStats := by
  simp only [measured, Prod.mk.injEq] at h
  obtain ⟨hmax, hmin, _, hinitial, hfloor⟩ := h
  have hrtt : s'.getMinRtt rttStats = s.getMinRtt rttStats := by
    unfold getMinRtt
    rw [hmin]
  refine ⟨hrtt, ?_⟩
  unfold getTargetCongestionWindow bandwidthEstimate
  rw [hmax, hrtt, hinitial, hfloor]

/-! ## The moves of an event -/

/-- The moves of a congestion event, the gain cycle by the estimates that it leaves behind. -/
structure EventMoves (s : BbrSender) (rttStats : RttStats) (bytesInFlight priorInFlight : Nat)
    (now : Int) (hasLosses isRoundStart : Bool) (s' : BbrSender) : Prop where
  moves : ∃ expired sampled cycled flagged exited,
    s.control.SampleMove now expired sampled ∧
      sampled.CycleMove now (s'.getMinRtt rttStats) (s'.getTargetCongestionWindow rttStats)
        bytesInFlight priorInFlight hasLosses cycled ∧
      cycled.FlagMove isRoundStart flagged ∧
      flagged.ExitMove now exited ∧
      exited.ProbeRttMove now expired (s.flightIsSmall bytesInFlight) isRoundStart s'.control

theorem updateMode_moves (hdrain : s.drainToTarget = false) (rttStats : RttStats)
    (bytesInFlight priorInFlight : Nat) (now : Int) (hasLosses isRoundStart expired : Bool)
    (lastPacketSendState : SendTimeState) :
    ∃ cycled flagged exited,
      s.control.CycleMove now (s.getMinRtt rttStats) (s.getTargetCongestionWindow rttStats)
        bytesInFlight priorInFlight hasLosses cycled ∧
      cycled.FlagMove isRoundStart flagged ∧
      flagged.ExitMove now exited ∧
      exited.ProbeRttMove now expired (s.flightIsSmall bytesInFlight) isRoundStart
        (s.updateMode rttStats bytesInFlight priorInFlight now hasLosses isRoundStart expired
          lastPacketSendState).control := by
  unfold updateMode
  dsimp only
  generalize hcycled : (if s.mode = .probeBw then s.updateGainCyclePhase rttStats bytesInFlight now
    priorInFlight hasLosses else s) = cycled
  generalize hflagged : (if (isRoundStart && !cycled.isAtFullBandwidth) = true then
    cycled.checkIfFullBandwidthReached lastPacketSendState else cycled) = flagged
  have hcycle : s.control.CycleMove now (s.getMinRtt rttStats)
      (s.getTargetCongestionWindow rttStats) bytesInFlight priorInFlight hasLosses
      cycled.control := by
    rw [← hcycled]
    split
    · rename_i hmode
      exact updateGainCyclePhase_move hmode hdrain _ _ _ _ _
    · exact .keep
  have hflag : cycled.control.FlagMove isRoundStart flagged.control := by
    rw [← hflagged]
    split
    · rename_i hround
      obtain ⟨hround, hbefore⟩ := Bool.and_eq_true_iff.mp hround
      rw [hround]
      exact checkIfFullBandwidthReached_move (by simpa using hbefore) _
    · exact .keep
  have hexit := maybeExitStartupOrDrain_move (s := flagged) rttStats bytesInFlight now
  have hsmall : (flagged.maybeExitStartupOrDrain rttStats bytesInFlight now).flightIsSmall
      bytesInFlight = s.flightIsSmall bytesInFlight :=
    flightIsSmall_of_settings (hexit.settings.trans (hflag.settings.trans hcycle.settings)) _
  have hrtt := maybeEnterOrExitProbeRtt_move
    (s := flagged.maybeExitStartupOrDrain rttStats bytesInFlight now) bytesInFlight now
    isRoundStart expired
  rw [hsmall] at hrtt
  exact ⟨_, _, _, hcycle, hflag, hexit, hrtt⟩

theorem onCongestionEvent_moves (hdrain : s.drainToTarget = false) (rttStats : RttStats)
    (map : QuicUnackedPacketMap) (priorInFlight : Nat) (eventTime : Int)
    (ackedPackets : List AckedPacket) (lostPackets : List LostPacket) :
    s.EventMoves rttStats map.bytesInFlight priorInFlight eventTime (!lostPackets.isEmpty)
      (s.beginAcks ackedPackets !lostPackets.isEmpty).2
      (s.onCongestionEvent rttStats map priorInFlight eventTime ackedPackets lostPackets) := by
  have hbegin := (@beginAcks_changes s ackedPackets !lostPackets.isEmpty).keeps control rfl
  constructor
  unfold onCongestionEvent reactToSample
  dsimp only
  generalize s.beginAcks ackedPackets (!lostPackets.isEmpty) = begun at hbegin ⊢
  generalize begun.1.sampler.onCongestionEvent eventTime ackedPackets lostPackets
    begun.1.maxBandwidth.getBest .infinite begun.1.roundTripCount = sampling
  generalize subUint64 sampling.1.totalBytesAcked s.sampler.totalBytesAcked = bytesAcked
  generalize subUint64 sampling.1.totalBytesLost s.sampler.totalBytesLost = bytesLost
  have hsample := recordSample_move (s := { begun.1 with sampler := sampling.1 }) sampling.2
    (s.sampler.totalBytesAcked != sampling.1.totalBytesAcked) eventTime lostPackets bytesLost
  generalize ({ begun.1 with sampler := sampling.1 } : BbrSender).recordSample sampling.2 _ _ _ _ =
    recorded at hsample ⊢
  have hkept : ({ begun.1 with sampler := sampling.1 } : BbrSender).control = s.control := hbegin
  rw [hkept] at hsample
  have hdrained : recorded.1.drainToTarget = false :=
    (congrArg (fun settings => settings.2.2.2.2.2) hsample.settings).trans hdrain
  have hsmall := flightIsSmall_of_settings hsample.settings map.bytesInFlight
  obtain ⟨cycled, flagged, exited, hcycle, hflag, hexit, hrtt⟩ :=
    updateMode_moves hdrained rttStats map.bytesInFlight priorInFlight eventTime
      (!lostPackets.isEmpty) begun.2 recorded.2 sampling.2.lastPacketSendState
  have hbase := (@updateMode_changes recorded.1 rttStats map.bytesInFlight priorInFlight
    eventTime (!lostPackets.isEmpty) begun.2 recorded.2
    sampling.2.lastPacketSendState).keeps measured rfl
  generalize recorded.1.updateMode rttStats map.bytesInFlight priorInFlight eventTime _ _ _ _ =
    moved at hrtt hbase ⊢
  have houtputs := @writeOutputs_changes moved rttStats map.bytesInFlight bytesAcked bytesLost
    sampling.2.extraAcked map.leastUnacked begun.2
  unfold writeOutputs at houtputs
  have hmeasured := (houtputs.keeps measured rfl).trans hbase
  obtain ⟨hminRtt, htarget⟩ := target_of_measured hmeasured rttStats
  rw [hminRtt, htarget, houtputs.keeps control rfl, ← hsmall]
  exact ⟨_, _, _, _, _, hsample, hcycle, hflag, hexit, hrtt⟩

end BbrSender

end BbrChrome
