import BbrChrome.Congestion.BbrSender
import BbrChrome.Library.Overlay

/-!
# What the functions of BBRv1 write

One overlay for each step of a congestion event and one lemma for each function on the fields that
it may change. Every result on what a function leaves alone reads it off its overlay.
-/

namespace BbrChrome

namespace BbrSender

/-! ## The fields -/

def roundFields : Overlay BbrSender where
  put s t :=
    { s with
      roundTripCount := t.roundTripCount
      currentRoundTripEnd := t.currentRoundTripEnd
      stats := t.stats }
  put_self _ := rfl
  put_put _ _ _ := rfl

def recoveryFields : Overlay BbrSender where
  put s t :=
    { s with
      currentRoundTripEnd := t.currentRoundTripEnd
      recoveryState := t.recoveryState
      endRecoveryAt := t.endRecoveryAt
      recoveryWindow := t.recoveryWindow }
  put_self _ := rfl
  put_put _ _ _ := rfl

def ackFields : Overlay BbrSender where
  put s t :=
    { s with
      stats := t.stats
      roundTripCount := t.roundTripCount
      currentRoundTripEnd := t.currentRoundTripEnd
      recoveryState := t.recoveryState
      endRecoveryAt := t.endRecoveryAt
      recoveryWindow := t.recoveryWindow }
  put_self _ := rfl
  put_put _ _ _ := rfl

def sendStateFields : Overlay BbrSender where
  put s t :=
    { s with
      stats := t.stats
      lastSampleIsAppLimited := t.lastSampleIsAppLimited
      hasNonAppLimitedSample := t.hasNonAppLimitedSample }
  put_self _ := rfl
  put_put _ _ _ := rfl

def bandwidthSampleFields : Overlay BbrSender where
  put s t :=
    { s with
      stats := t.stats
      maxBandwidth := t.maxBandwidth
      lastSampleIsAppLimited := t.lastSampleIsAppLimited
      hasNonAppLimitedSample := t.hasNonAppLimitedSample }
  put_self _ := rfl
  put_put _ _ _ := rfl

def minRttFields : Overlay BbrSender where
  put s t := { s with minRtt := t.minRtt, minRttTimestamp := t.minRttTimestamp }
  put_self _ := rfl
  put_put _ _ _ := rfl

def sampleFields : Overlay BbrSender where
  put s t :=
    { s with
      stats := t.stats
      numLossEventsInRound := t.numLossEventsInRound
      bytesLostInRound := t.bytesLostInRound
      maxBandwidth := t.maxBandwidth
      minRtt := t.minRtt
      minRttTimestamp := t.minRttTimestamp
      lastSampleIsAppLimited := t.lastSampleIsAppLimited
      hasNonAppLimitedSample := t.hasNonAppLimitedSample }
  put_self _ := rfl
  put_put _ _ _ := rfl

/-- The check of the full bandwidth may restart the tracker of the ack heights. -/
def fullBandwidthFields : Overlay BbrSender where
  put s t :=
    { s with
      stats := t.stats
      sampler := { s.sampler with maxAckHeightTracker := t.sampler.maxAckHeightTracker }
      isAtFullBandwidth := t.isAtFullBandwidth
      roundsWithoutBandwidthGain := t.roundsWithoutBandwidthGain
      bandwidthAtLastRound := t.bandwidthAtLastRound }
  put_self _ := rfl
  put_put _ _ _ := rfl

/-- PROBE_RTT marks the sampler as app-limited. -/
def modeFields : Overlay BbrSender where
  put s t :=
    { s with
      stats := t.stats
      mode := t.mode
      sampler :=
        { s.sampler with
          isAppLimited := t.sampler.isAppLimited
          endOfAppLimitedPhase := t.sampler.endOfAppLimitedPhase }
      minRttTimestamp := t.minRttTimestamp
      pacingGain := t.pacingGain
      congestionWindowGain := t.congestionWindowGain
      cycleCurrentOffset := t.cycleCurrentOffset
      lastCycleStart := t.lastCycleStart
      exitingQuiescence := t.exitingQuiescence
      exitProbeRttAt := t.exitProbeRttAt
      probeRttRoundPassed := t.probeRttRoundPassed
      random := t.random }
  put_self _ := rfl
  put_put _ _ _ := rfl

def updateModeFields : Overlay BbrSender where
  put s t :=
    { s with
      stats := t.stats
      mode := t.mode
      sampler :=
        { s.sampler with
          isAppLimited := t.sampler.isAppLimited
          endOfAppLimitedPhase := t.sampler.endOfAppLimitedPhase
          maxAckHeightTracker := t.sampler.maxAckHeightTracker }
      minRttTimestamp := t.minRttTimestamp
      pacingGain := t.pacingGain
      congestionWindowGain := t.congestionWindowGain
      cycleCurrentOffset := t.cycleCurrentOffset
      lastCycleStart := t.lastCycleStart
      isAtFullBandwidth := t.isAtFullBandwidth
      roundsWithoutBandwidthGain := t.roundsWithoutBandwidthGain
      bandwidthAtLastRound := t.bandwidthAtLastRound
      exitingQuiescence := t.exitingQuiescence
      exitProbeRttAt := t.exitProbeRttAt
      probeRttRoundPassed := t.probeRttRoundPassed
      random := t.random }
  put_self _ := rfl
  put_put _ _ _ := rfl

def rateFields : Overlay BbrSender where
  put s t :=
    { s with
      stats := t.stats
      pacingRate := t.pacingRate
      detectOvershooting := t.detectOvershooting
      bytesLostWhileDetectingOvershooting := t.bytesLostWhileDetectingOvershooting }
  put_self _ := rfl
  put_put _ _ _ := rfl

def congestionWindowField : Overlay BbrSender where
  put s t := { s with congestionWindow := t.congestionWindow }
  put_self _ := rfl
  put_put _ _ _ := rfl

def recoveryWindowField : Overlay BbrSender where
  put s t := { s with recoveryWindow := t.recoveryWindow }
  put_self _ := rfl
  put_put _ _ _ := rfl

def lossCountFields : Overlay BbrSender where
  put s t :=
    { s with
      numLossEventsInRound := t.numLossEventsInRound
      bytesLostInRound := t.bytesLostInRound }
  put_self _ := rfl
  put_put _ _ _ := rfl

/-- What follows the sampling leaves the round, the recovery and the byte accounts alone. -/
def reactFields : Overlay BbrSender where
  put s t :=
    { t with
      sampler :=
        { s.sampler with
          isAppLimited := t.sampler.isAppLimited
          endOfAppLimitedPhase := t.sampler.endOfAppLimitedPhase
          maxAckHeightTracker := t.sampler.maxAckHeightTracker }
      roundTripCount := s.roundTripCount
      lastSentPacket := s.lastSentPacket
      currentRoundTripEnd := s.currentRoundTripEnd
      recoveryState := s.recoveryState
      endRecoveryAt := s.endRecoveryAt }
  put_self _ := rfl
  put_put _ _ _ := rfl

def outputFields : Overlay BbrSender where
  put s t :=
    { s with
      stats := t.stats
      sampler := { s.sampler with connectionStateMap := t.sampler.connectionStateMap }
      numLossEventsInRound := t.numLossEventsInRound
      bytesLostInRound := t.bytesLostInRound
      congestionWindow := t.congestionWindow
      pacingRate := t.pacingRate
      recoveryWindow := t.recoveryWindow
      detectOvershooting := t.detectOvershooting
      bytesLostWhileDetectingOvershooting := t.bytesLostWhileDetectingOvershooting }
  put_self _ := rfl
  put_put _ _ _ := rfl

variable {s : BbrSender}

/-! ## Rounds and recovery -/

theorem updateRoundTripCounter_changes (lastAckedPacket : Nat) :
    roundFields.Changes s (s.updateRoundTripCounter lastAckedPacket).1 := by
  unfold updateRoundTripCounter
  split <;> exact rfl

theorem maybeExitRecovery_changes (lastAckedPacket : Nat) (hasLosses : Bool) :
    recoveryFields.Changes s (s.maybeExitRecovery lastAckedPacket hasLosses) := .ite rfl

theorem moveRecoveryState_changes (lastAckedPacket : Nat) (hasLosses isRoundStart : Bool) :
    recoveryFields.Changes s (s.moveRecoveryState lastAckedPacket hasLosses isRoundStart) := by
  unfold moveRecoveryState
  split
  · exact .ite rfl
  · refine .trans ?_ (maybeExitRecovery_changes _ _)
    exact .ite rfl
  · exact maybeExitRecovery_changes _ _

theorem updateRecoveryState_changes (lastAckedPacket : Nat) (hasLosses isRoundStart : Bool) :
    recoveryFields.Changes s (s.updateRecoveryState lastAckedPacket hasLosses isRoundStart) := by
  unfold updateRecoveryState
  split
  · exact .refl _ s
  · refine .trans ?_ (moveRecoveryState_changes _ _ _)
    exact .ite rfl

theorem beginAcks_changes (ackedPackets : List AckedPacket) (hasLosses : Bool) :
    ackFields.Changes s (s.beginAcks ackedPackets hasLosses).1 := by
  unfold beginAcks
  split
  · exact .refl _ s
  · exact .trans ((updateRoundTripCounter_changes _).mono rfl)
      ((updateRecoveryState_changes _ _ _).mono rfl)

/-! ## The sample of an event -/

theorem recordSendState_changes (state : SendTimeState) :
    sendStateFields.Changes s (s.recordSendState state) := .ite rfl

theorem recordBandwidthSample_changes (sample : CongestionEventSample) (anyAcked : Bool) :
    bandwidthSampleFields.Changes s
      ((s.recordSendState sample.lastPacketSendState).updateMaxBandwidth sample anyAcked) := by
  refine .trans ((recordSendState_changes sample.lastPacketSendState).mono rfl) ?_
  exact .ite rfl

theorem maybeUpdateMinRtt_changes (now sampleMinRtt : Int) :
    minRttFields.Changes s (s.maybeUpdateMinRtt now sampleMinRtt).1 := by
  unfold maybeUpdateMinRtt
  dsimp only
  split <;> exact rfl

theorem recordSample_changes (sample : CongestionEventSample) (anyAcked : Bool) (eventTime : Int)
    (lostPackets : List LostPacket) (bytesLost : Nat) :
    sampleFields.Changes s
      (s.recordSample sample anyAcked eventTime lostPackets bytesLost).1 := by
  have hfilter : sampleFields.Changes s
      ((s.recordSendState sample.lastPacketSendState).updateMaxBandwidth sample anyAcked) :=
    (recordBandwidthSample_changes _ _).mono rfl
  have hcount : ∀ s : BbrSender, sampleFields.Changes s (s.countLosses lostPackets bytesLost) :=
    fun _ => rfl
  unfold recordSample
  dsimp only
  split
  · exact hfilter.trans (hcount _)
  · exact (hfilter.trans ((maybeUpdateMinRtt_changes _ _).mono rfl)).trans (hcount _)

/-! ## The modes -/

theorem updateGainCyclePhase_changes (rttStats : RttStats) (bytesInFlight : Nat) (now : Int)
    (priorInFlight : Nat) (hasLosses : Bool) :
    modeFields.Changes s
      (s.updateGainCyclePhase rttStats bytesInFlight now priorInFlight hasLosses) := .ite rfl

theorem checkIfFullBandwidthReached_changes (lastPacketSendState : SendTimeState) :
    fullBandwidthFields.Changes s (s.checkIfFullBandwidthReached lastPacketSendState) := by
  unfold checkIfFullBandwidthReached
  dsimp only
  repeat' split
  all_goals exact rfl

theorem maybeExitStartupOrDrain_changes (rttStats : RttStats) (bytesInFlight : Nat) (now : Int) :
    modeFields.Changes s (s.maybeExitStartupOrDrain rttStats bytesInFlight now) := by
  unfold maybeExitStartupOrDrain
  dsimp only
  split <;> split <;> exact rfl

theorem enterProbeRtt_changes (now : Int) : modeFields.Changes s (s.enterProbeRtt now) := by
  unfold enterProbeRtt
  dsimp only
  split <;> exact rfl

theorem continueProbeRtt_changes (bytesInFlight : Nat) (now : Int) (isRoundStart : Bool) :
    modeFields.Changes s (s.continueProbeRtt bytesInFlight now isRoundStart) := by
  unfold continueProbeRtt
  dsimp only
  repeat' split
  all_goals exact rfl

theorem maybeEnterOrExitProbeRtt_changes (bytesInFlight : Nat) (now : Int)
    (isRoundStart minRttExpired : Bool) :
    modeFields.Changes s
      (s.maybeEnterOrExitProbeRtt bytesInFlight now isRoundStart minRttExpired) := by
  have hclear : ∀ s : BbrSender, modeFields.Changes s { s with exitingQuiescence := false } :=
    fun _ => rfl
  exact .trans (.trans (.ite (enterProbeRtt_changes _)) (.ite (continueProbeRtt_changes _ _ _)))
    (hclear _)

theorem updateMode_changes (rttStats : RttStats) (bytesInFlight priorInFlight : Nat)
    (eventTime : Int) (hasLosses isRoundStart minRttExpired : Bool)
    (lastPacketSendState : SendTimeState) :
    updateModeFields.Changes s (s.updateMode rttStats bytesInFlight priorInFlight eventTime
      hasLosses isRoundStart minRttExpired lastPacketSendState) := by
  have hcycle : updateModeFields.Changes s (s.updateGainCyclePhase rttStats bytesInFlight eventTime
      priorInFlight hasLosses) := (updateGainCyclePhase_changes _ _ _ _ _).mono rfl
  have hcheck : ∀ s : BbrSender,
      updateModeFields.Changes s (s.checkIfFullBandwidthReached lastPacketSendState) :=
    fun _ => (checkIfFullBandwidthReached_changes _).mono rfl
  have hexit : ∀ s : BbrSender,
      updateModeFields.Changes s (s.maybeExitStartupOrDrain rttStats bytesInFlight eventTime) :=
    fun _ => (maybeExitStartupOrDrain_changes _ _ _).mono rfl
  exact .trans (.trans (.trans (.ite hcycle) (.ite (hcheck _))) (hexit _))
    ((maybeEnterOrExitProbeRtt_changes _ _ _ _).mono rfl)

theorem updateMode_full (rttStats : RttStats) (bytesInFlight priorInFlight : Nat)
    (eventTime : Int) (hasLosses isRoundStart minRttExpired : Bool)
    (lastPacketSendState : SendTimeState) (hfull : s.isAtFullBandwidth = true) :
    (s.updateMode rttStats bytesInFlight priorInFlight eventTime hasLosses isRoundStart
      minRttExpired lastPacketSendState).isAtFullBandwidth = true := by
  have hcycle : modeFields.Changes s (if s.mode = .probeBw then s.updateGainCyclePhase rttStats
      bytesInFlight eventTime priorInFlight hasLosses else s) :=
    .ite (updateGainCyclePhase_changes _ _ _ _ _)
  unfold updateMode
  dsimp only
  generalize (if s.mode = .probeBw then s.updateGainCyclePhase rttStats bytesInFlight eventTime
    priorInFlight hasLosses else s) = cycled at hcycle ⊢
  have hcycled : cycled.isAtFullBandwidth = true :=
    (hcycle.keeps isAtFullBandwidth rfl).trans hfull
  rw [hcycled, Bool.not_true, Bool.and_false, if_neg Bool.false_ne_true]
  calc _ = _ := (maybeEnterOrExitProbeRtt_changes _ _ _ _).keeps isAtFullBandwidth rfl
    _ = _ := (maybeExitStartupOrDrain_changes _ _ _).keeps isAtFullBandwidth rfl
    _ = true := hcycled

/-! ## The rate and the windows -/

theorem handleOvershooting_changes (rttStats : RttStats) (targetRate : QuicBandwidth)
    (bytesLost : Nat) :
    rateFields.Changes s (s.handleOvershooting rttStats targetRate bytesLost) := by
  unfold handleOvershooting
  dsimp only
  split <;> exact rfl

theorem calculatePacingRate_changes (rttStats : RttStats) (bytesLost : Nat) :
    rateFields.Changes s (s.calculatePacingRate rttStats bytesLost) := by
  have hrate : ∀ (s : BbrSender) pacingRate,
      rateFields.Changes s ({ s with pacingRate } : BbrSender) := fun _ _ => rfl
  unfold calculatePacingRate
  dsimp only
  split
  · exact .refl _ s
  · split
    · exact hrate _ _
    · split
      · exact hrate _ _
      · exact .trans (.ite (handleOvershooting_changes _ _ _)) (hrate _ _)

theorem calculateCongestionWindow_changes (rttStats : RttStats) (bytesAcked excessAcked : Nat) :
    congestionWindowField.Changes s
      (s.calculateCongestionWindow rttStats bytesAcked excessAcked) := by
  unfold calculateCongestionWindow
  split <;> exact rfl

theorem calculateRecoveryWindow_changes (bytesInFlight bytesAcked bytesLost : Nat) :
    recoveryWindowField.Changes s
      (s.calculateRecoveryWindow bytesInFlight bytesAcked bytesLost) := by
  unfold calculateRecoveryWindow
  dsimp only
  repeat' split
  all_goals exact rfl

theorem endCongestionEvent_changes (leastUnacked : Nat) (isRoundStart : Bool) :
    lossCountFields.Changes { s with sampler := s.sampler.removeObsoletePackets leastUnacked }
      (s.endCongestionEvent leastUnacked isRoundStart) := .ite rfl

/-! ## The event -/

theorem reactToSample_changes (rttStats : RttStats) (map : QuicUnackedPacketMap)
    (priorInFlight : Nat) (eventTime : Int) (lostPackets : List LostPacket)
    (ackedBefore lostBefore : Nat) (isRoundStart : Bool) (sample : CongestionEventSample) :
    reactFields.Changes s (s.reactToSample rttStats map priorInFlight eventTime lostPackets
      ackedBefore lostBefore isRoundStart sample) :=
  .trans (.trans (.trans (.trans ((recordSample_changes _ _ _ _ _).mono rfl)
      ((updateMode_changes _ _ _ _ _ _ _ _).mono rfl)) ((calculatePacingRate_changes _ _).mono rfl))
    ((calculateCongestionWindow_changes _ _ _).mono rfl))
    ((calculateRecoveryWindow_changes _ _ _).mono rfl)

theorem reactToSample_full (rttStats : RttStats) (map : QuicUnackedPacketMap)
    (priorInFlight : Nat) (eventTime : Int) (lostPackets : List LostPacket)
    (ackedBefore lostBefore : Nat) (isRoundStart : Bool) (sample : CongestionEventSample)
    (hfull : s.isAtFullBandwidth = true) :
    (s.reactToSample rttStats map priorInFlight eventTime lostPackets ackedBefore lostBefore
      isRoundStart sample).isAtFullBandwidth = true := by
  unfold reactToSample
  calc _ = _ := (calculateRecoveryWindow_changes _ _ _).keeps isAtFullBandwidth rfl
    _ = _ := (calculateCongestionWindow_changes _ _ _).keeps isAtFullBandwidth rfl
    _ = _ := (calculatePacingRate_changes _ _).keeps isAtFullBandwidth rfl
    _ = true := updateMode_full _ _ _ _ _ _ _ _
      (((recordSample_changes _ _ _ _ _).keeps isAtFullBandwidth rfl).trans hfull)

/-- The steps of an event behind its modes. -/
def writeOutputs (s : BbrSender) (rttStats : RttStats) (bytesInFlight bytesAcked bytesLost
    excessAcked leastUnacked : Nat) (isRoundStart : Bool) : BbrSender :=
  (((s.calculatePacingRate rttStats bytesLost).calculateCongestionWindow rttStats bytesAcked
    excessAcked).calculateRecoveryWindow bytesInFlight bytesAcked bytesLost).endCongestionEvent
      leastUnacked isRoundStart

theorem writeOutputs_changes (rttStats : RttStats) (bytesInFlight bytesAcked bytesLost excessAcked
    leastUnacked : Nat) (isRoundStart : Bool) :
    outputFields.Changes s (s.writeOutputs rttStats bytesInFlight bytesAcked bytesLost excessAcked
      leastUnacked isRoundStart) := by
  have htrim : ∀ s : BbrSender, outputFields.Changes s
      { s with sampler := s.sampler.removeObsoletePackets leastUnacked } := fun _ => rfl
  exact .trans (.trans (.trans ((calculatePacingRate_changes _ _).mono rfl)
    ((calculateCongestionWindow_changes _ _ _).mono rfl))
    ((calculateRecoveryWindow_changes _ _ _).mono rfl))
      ((htrim _).trans ((endCongestionEvent_changes _ _).mono rfl))

end BbrSender

end BbrChrome
