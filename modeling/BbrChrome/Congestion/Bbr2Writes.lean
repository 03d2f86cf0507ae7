import BbrChrome.Congestion.Bbr2Event
import BbrChrome.Library.Overlay

/-!
# What the functions of BBRv2 write

One overlay for each group of handlers and one lemma for each function on the fields that it may
change. No handler of a mode touches the sampler, the parameters, the rate or the window, so that a
congestion event is framed between its sampling and the update of the rate and the window.
-/

namespace BbrChrome

namespace Bbr2NetworkModel

/-! ## The fields of the model -/

def lowerBoundFields : Overlay Bbr2NetworkModel where
  put m n :=
    { m with
      bandwidthLo := n.bandwidthLo
      priorBandwidthLo := n.priorBandwidthLo
      inflightLo := n.inflightLo }
  put_self _ := rfl
  put_put _ _ _ := rfl

def recordFields : Overlay Bbr2NetworkModel where
  put m n :=
    { m with
      bytesLostInRound := n.bytesLostInRound
      lossEventsInRound := n.lossEventsInRound
      maxBytesDeliveredInRound := n.maxBytesDeliveredInRound
      bandwidthLatest := n.bandwidthLatest
      bandwidthLo := n.bandwidthLo
      priorBandwidthLo := n.priorBandwidthLo
      inflightLatest := n.inflightLatest
      inflightLo := n.inflightLo }
  put_self _ := rfl
  put_put _ _ _ := rfl

def roundCountFields : Overlay Bbr2NetworkModel where
  put m n :=
    { m with
      bytesLostInRound := n.bytesLostInRound
      lossEventsInRound := n.lossEventsInRound
      maxBytesDeliveredInRound := n.maxBytesDeliveredInRound }
  put_self _ := rfl
  put_put _ _ _ := rfl

def minRttField : Overlay Bbr2NetworkModel where
  put m n := { m with minRttFilter := n.minRttFilter }
  put_self _ := rfl
  put_put _ _ _ := rfl

def inflightLoField : Overlay Bbr2NetworkModel where
  put m n := { m with inflightLo := n.inflightLo }
  put_self _ := rfl
  put_put _ _ _ := rfl

def growthFields : Overlay Bbr2NetworkModel where
  put m n :=
    { m with
      fullBandwidthReached := n.fullBandwidthReached
      fullBandwidthBaseline := n.fullBandwidthBaseline
      roundsWithoutBandwidthGrowth := n.roundsWithoutBandwidthGrowth }
  put_self _ := rfl
  put_put _ _ _ := rfl

variable {m : Bbr2NetworkModel} {event : Bbr2CongestionEvent}

theorem adaptLowerBoundsDefault_changes :
    lowerBoundFields.Changes m (m.adaptLowerBoundsDefault event) := by
  unfold adaptLowerBoundsDefault
  dsimp only
  repeat' split
  all_goals exact rfl

theorem adaptLowerBoundsOnLoss_changes :
    lowerBoundFields.Changes m (m.adaptLowerBoundsOnLoss event) := by
  unfold adaptLowerBoundsOnLoss
  split
  · exact .refl _ m
  · split
    · exact .refl _ m
    · dsimp only
      split <;> exact rfl

theorem adaptLowerBounds_changes : lowerBoundFields.Changes m (m.adaptLowerBounds event) := by
  unfold adaptLowerBounds
  split
  · exact adaptLowerBoundsDefault_changes
  · exact adaptLowerBoundsOnLoss_changes

theorem recordCongestionEvent_changes (sample : CongestionEventSample) :
    recordFields.Changes m (m.recordCongestionEvent sample event) := by
  have hcount : ∀ m : Bbr2NetworkModel, ∀ bandwidthLatest inflightLatest,
      recordFields.Changes m { m with bandwidthLatest, inflightLatest } := fun _ _ _ => rfl
  unfold recordCongestionEvent
  dsimp only
  generalize hcounted : ({ m with
    bytesLostInRound := _
    lossEventsInRound := _
    maxBytesDeliveredInRound := _
    bandwidthLatest := _
    inflightLatest := _ } : Bbr2NetworkModel) = counted
  have hbefore : recordFields.Changes m counted := hcounted ▸ rfl
  have hadapted := hbefore.trans ((@adaptLowerBounds_changes counted event).mono rfl)
  split
  · exact hadapted
  · exact hadapted.trans (hcount _ _ _)

theorem maybeExpireMinRtt_changes : minRttField.Changes m (m.maybeExpireMinRtt event).1 := by
  unfold maybeExpireMinRtt
  repeat' split
  all_goals exact rfl

theorem capInflightLo_changes (cap : Nat) : inflightLoField.Changes m (m.capInflightLo cap) := by
  unfold capInflightLo
  repeat' split
  all_goals exact rfl

theorem checkBandwidthGrowth_changes :
    growthFields.Changes m (m.checkBandwidthGrowth event).1 := by
  unfold checkBandwidthGrowth
  dsimp only
  repeat' split
  all_goals exact rfl

theorem onCongestionEventFinish_changes (leastUnacked : Nat) :
    roundCountFields.Changes
      { m with bandwidthSampler := m.bandwidthSampler.removeObsoletePackets leastUnacked }
      (m.onCongestionEventFinish leastUnacked event) := by
  unfold onCongestionEventFinish
  dsimp only
  split <;> exact rfl

/-! ## The accounts -/

theorem accounts_onCongestionEventStart (eventTime : Int) (ackedPackets : List AckedPacket)
    (lostPackets : List LostPacket) :
    (m.onCongestionEventStart eventTime ackedPackets lostPackets
        event).1.bandwidthSampler.accounts =
      m.bandwidthSampler.accounts.record ackedPackets lostPackets := by
  unfold onCongestionEventStart
  dsimp only
  rw [(recordCongestionEvent_changes _).keeps bandwidthSampler rfl]
  unfold sampleCongestionEvent
  dsimp only
  exact BandwidthSampler.accounts_onCongestionEvent _ _ _ _ _ _

theorem accounts_onCongestionEventFinish (leastUnacked : Nat) :
    (m.onCongestionEventFinish leastUnacked event).bandwidthSampler.accounts =
      m.bandwidthSampler.accounts.trim leastUnacked :=
  (onCongestionEventFinish_changes leastUnacked).keeps (·.bandwidthSampler.accounts) rfl

end Bbr2NetworkModel

namespace Bbr2Sender

open Bbr2NetworkModel

/-! ## The fields of the sender -/

/-- The statistics but for the number of cycles. -/
def statsFields : Overlay Bbr2Sender where
  put s t :=
    { s with
      connectionStats :=
        { t.connectionStats with bbrNumCycles := s.connectionStats.bbrNumCycles } }
  put_self _ := rfl
  put_put _ _ _ := rfl

def lossExitFields : Overlay Bbr2Sender where
  put s t :=
    { s with
      connectionStats :=
        { s.connectionStats with
          bbrExitStartupDueToLoss := t.connectionStats.bbrExitStartupDueToLoss }
      model :=
        { s.model with
          inflightHi := t.model.inflightHi
          fullBandwidthReached := t.model.fullBandwidthReached } }
  put_self _ := rfl
  put_put _ _ _ := rfl

def startupExitFields : Overlay Bbr2Sender where
  put s t :=
    { s with
      connectionStats :=
        { s.connectionStats with
          bbrExitStartupDueToLoss := t.connectionStats.bbrExitStartupDueToLoss }
      model :=
        { s.model with
          inflightHi := t.model.inflightHi
          fullBandwidthReached := t.model.fullBandwidthReached
          fullBandwidthBaseline := t.model.fullBandwidthBaseline
          roundsWithoutBandwidthGrowth := t.model.roundsWithoutBandwidthGrowth } }
  put_self _ := rfl
  put_put _ _ _ := rfl

def startupPacingFields : Overlay Bbr2Sender where
  put s t :=
    { s with
      model :=
        { s.model with
          bandwidthLo := t.model.bandwidthLo
          pacingGain := t.model.pacingGain }
      maxBwAtRoundBeginning := t.maxBwAtRoundBeginning }
  put_self _ := rfl
  put_put _ _ _ := rfl

def startupFields : Overlay Bbr2Sender where
  put s t := startupPacingFields.put (startupExitFields.put s t) t
  put_self _ := rfl
  put_put _ _ _ := rfl

/-- The filter of the bandwidth and the flag that it has advanced. -/
def advanceFields : Overlay Bbr2Sender where
  put s t :=
    { s with
      model := { s.model with maxBandwidthFilter := t.model.maxBandwidthFilter }
      probeBw :=
        { s.probeBw with
          cycle :=
            { s.probeBw.cycle with hasAdvancedMaxBw := t.probeBw.cycle.hasAdvancedMaxBw } } }
  put_self _ := rfl
  put_put _ _ _ := rfl

/-- `inflight_hi_` and the variables of the bandwidth probe that decide on it. -/
def upperBoundFields : Overlay Bbr2Sender where
  put s t :=
    { s with
      model := { s.model with inflightHi := t.model.inflightHi }
      probeBw :=
        { s.probeBw with
          cycle :=
            { s.probeBw.cycle with
              probeUpRounds := t.probeBw.cycle.probeUpRounds
              probeUpBytes := t.probeBw.cycle.probeUpBytes
              probeUpAcked := t.probeBw.cycle.probeUpAcked
              isSampleFromProbing := t.probeBw.cycle.isSampleFromProbing } } }
  put_self _ := rfl
  put_put _ _ _ := rfl

def exitTimeField : Overlay Bbr2Sender where
  put s t := { s with exitTime := t.exitTime }
  put_self _ := rfl
  put_put _ _ _ := rfl

def leaveModeFields : Overlay Bbr2Sender where
  put s t :=
    { s with
      connectionStats :=
        { s.connectionStats with slowstartDuration := t.connectionStats.slowstartDuration }
      model := { s.model with bandwidthLo := t.model.bandwidthLo } }
  put_self _ := rfl
  put_put _ _ _ := rfl

def senderMinRttField : Overlay Bbr2Sender where
  put s t := { s with model := minRttField.put s.model t.model }
  put_self _ := rfl
  put_put _ _ _ := rfl

def senderInflightLoField : Overlay Bbr2Sender where
  put s t := { s with model := inflightLoField.put s.model t.model }
  put_self _ := rfl
  put_put _ _ _ := rfl

/-- What the handlers of the modes leave alone is taken from the sender before. -/
def handlerFields : Overlay Bbr2Sender where
  put s t :=
    { t with
      model :=
        { t.model with
          params := s.model.params
          bandwidthSampler := s.model.bandwidthSampler }
      initialCwnd := s.initialCwnd
      cwnd := s.cwnd
      pacingRate := s.pacingRate
      lastQuiescenceStart := s.lastQuiescenceStart }
  put_self _ := rfl
  put_put _ _ _ := rfl

/-- What comes before the sending of a packet may also end the quiescence. -/
def sendFields : Overlay Bbr2Sender where
  put s t := { handlerFields.put s t with lastQuiescenceStart := t.lastQuiescenceStart }
  put_self _ := rfl
  put_put _ _ _ := rfl

def pacingRateField : Overlay Bbr2Sender where
  put s t := { s with pacingRate := t.pacingRate }
  put_self _ := rfl
  put_put _ _ _ := rfl

def quiescenceField : Overlay Bbr2Sender where
  put s t := { s with lastQuiescenceStart := t.lastQuiescenceStart }
  put_self _ := rfl
  put_put _ _ _ := rfl

/-- The model and the statistics but for the number of cycles. -/
def samplingFields : Overlay Bbr2Sender where
  put s t := { statsFields.put s t with model := t.model }
  put_self _ := rfl
  put_put _ _ _ := rfl

def outputFields : Overlay Bbr2Sender where
  put s t :=
    { s with
      model :=
        { s.model with
          bandwidthSampler := t.model.bandwidthSampler
          bytesLostInRound := t.model.bytesLostInRound
          lossEventsInRound := t.model.lossEventsInRound
          maxBytesDeliveredInRound := t.model.maxBytesDeliveredInRound }
      cwnd := t.cwnd
      pacingRate := t.pacingRate }
  put_self _ := rfl
  put_put _ _ _ := rfl

def finishFields : Overlay Bbr2Sender where
  put s t := { outputFields.put s t with lastQuiescenceStart := t.lastQuiescenceStart }
  put_self _ := rfl
  put_put _ _ _ := rfl

variable {s : Bbr2Sender} {event : Bbr2CongestionEvent}

/-! ## STARTUP and DRAIN -/

theorem checkExcessiveLosses_changes :
    lossExitFields.Changes s (s.checkExcessiveLosses event) := by
  unfold checkExcessiveLosses
  dsimp only
  repeat' split
  all_goals exact rfl

theorem checkStartupExit_changes : startupExitFields.Changes s (s.checkStartupExit event) := by
  have hgrowth : startupExitFields.Changes s
      { s with model := (s.model.checkBandwidthGrowth event).1 } :=
    (@checkBandwidthGrowth_changes s.model event).lift (fun model => { s with model }) rfl
  unfold checkStartupExit
  dsimp only
  repeat' split
  · exact hgrowth.trans (.mono checkExcessiveLosses_changes rfl)
  · exact hgrowth
  · exact .refl _ s

theorem decreaseStartupPacing_changes :
    startupPacingFields.Changes s (s.decreaseStartupPacing event) := by
  unfold decreaseStartupPacing
  dsimp only
  repeat' split
  all_goals exact rfl

theorem startupOnCongestionEvent_changes :
    startupFields.Changes s (s.startupOnCongestionEvent event).1 :=
  .trans (.mono checkStartupExit_changes rfl) (.ite (.mono decreaseStartupPacing_changes rfl))

theorem drainOnCongestionEvent_changes :
    handlerFields.Changes s (s.drainOnCongestionEvent event).1 := rfl

/-! ## PROBE_BW -/

theorem setCycle_changes (cycle : Cycle) : handlerFields.Changes s (s.setCycle cycle) := rfl

theorem enterProbeDown_model (probedTooHigh stoppedRiskyProbe : Bool) (now : Int) :
    ∃ bandwidthLo, (s.enterProbeDown probedTooHigh stoppedRiskyProbe now).model =
      { s.model with bandwidthLo }.restartRoundEarly := by
  unfold enterProbeDown
  dsimp only
  split <;> exact ⟨_, rfl⟩

theorem enterProbeDown_changes (probedTooHigh stoppedRiskyProbe : Bool) (now : Int) :
    handlerFields.Changes s (s.enterProbeDown probedTooHigh stoppedRiskyProbe now) := by
  unfold enterProbeDown
  dsimp only
  split <;> exact rfl

theorem leaveProbeDown_changes : advanceFields.Changes s s.leaveProbeDown := by
  unfold leaveProbeDown exitProbeDown
  repeat' split
  all_goals exact rfl

theorem capSender_changes (cap : Nat) :
    senderInflightLoField.Changes s { s with model := s.model.capInflightLo cap } :=
  (@capInflightLo_changes s.model cap).lift (fun model => { s with model }) rfl

theorem enterProbeCruise_changes (now : Int) :
    handlerFields.Changes s (s.enterProbeCruise now) :=
  .trans (.trans (.mono leaveProbeDown_changes rfl) ((capSender_changes _).mono rfl))
    (setCycle_changes _)

theorem enterProbeRefill_changes (probeUpRounds : Nat) (now : Int) :
    handlerFields.Changes s (s.enterProbeRefill probeUpRounds now) := by
  have hleft : handlerFields.Changes s s.leaveProbeDown := .mono leaveProbeDown_changes rfl
  unfold enterProbeRefill
  generalize s.leaveProbeDown = left at *
  exact hleft.trans rfl

theorem raiseInflightHighSlope_changes : upperBoundFields.Changes s s.raiseInflightHighSlope := rfl

theorem enterProbeUp_changes (now : Int) : handlerFields.Changes s (s.enterProbeUp now) := rfl

theorem maybeAdaptUpperBounds_changes :
    upperBoundFields.Changes s (s.maybeAdaptUpperBounds event).1 := by
  unfold maybeAdaptUpperBounds
  dsimp only
  repeat' split
  all_goals exact rfl

theorem isTimeToProbeBandwidth_changes :
    statsFields.Changes s (s.isTimeToProbeBandwidth event).1 := by
  unfold isTimeToProbeBandwidth
  dsimp only
  repeat' split
  all_goals exact rfl

theorem askToProbe_changes : handlerFields.Changes s
    ((s.maybeAdaptUpperBounds event).1.isTimeToProbeBandwidth event).1 :=
  .trans (.mono maybeAdaptUpperBounds_changes rfl) (.mono isTimeToProbeBandwidth_changes rfl)

theorem continueProbeDown_changes : handlerFields.Changes s (s.continueProbeDown event) := by
  have hasked := @askToProbe_changes s event
  unfold continueProbeDown
  dsimp only
  repeat' split
  · exact hasked.trans (enterProbeRefill_changes _ _)
  · exact hasked.trans (enterProbeCruise_changes _)
  · exact hasked
  · exact hasked.trans (enterProbeCruise_changes _)
  · exact hasked

theorem endFirstRoundOfProbeDown_changes :
    advanceFields.Changes (s.setCycle { s.probeBw.cycle with isSampleFromProbing := false })
      (s.endFirstRoundOfProbeDown event) := by
  unfold endFirstRoundOfProbeDown
  dsimp only
  split <;> exact rfl

theorem updateProbeDown_changes : handlerFields.Changes s (s.updateProbeDown event) := by
  have hfirst : handlerFields.Changes s (s.endFirstRoundOfProbeDown event) :=
    (setCycle_changes _).trans (.mono endFirstRoundOfProbeDown_changes rfl)
  unfold updateProbeDown
  dsimp only
  repeat' split
  · exact hfirst.trans (enterProbeRefill_changes _ _)
  · exact hfirst.trans continueProbeDown_changes
  · exact continueProbeDown_changes

theorem updateProbeCruise_changes : handlerFields.Changes s (s.updateProbeCruise event) :=
  .trans askToProbe_changes (.ite (enterProbeRefill_changes _ _))

theorem updateProbeRefill_changes : handlerFields.Changes s (s.updateProbeRefill event) :=
  .trans (.mono maybeAdaptUpperBounds_changes rfl) (.ite (enterProbeUp_changes _))

theorem growInflightHi_changes (bytesAcked : Nat) :
    upperBoundFields.Changes s (s.growInflightHi bytesAcked) := by
  unfold growInflightHi
  dsimp only
  repeat' split
  all_goals exact rfl

theorem probeInflightHighUpward_changes :
    upperBoundFields.Changes s (s.probeInflightHighUpward event) := by
  unfold probeInflightHighUpward
  split
  · exact .refl _ s
  · split
    · exact .refl _ s
    · exact (growInflightHi_changes _).trans (.ite raiseInflightHighSlope_changes)

theorem updateProbeUp_changes (priorInFlight : Nat) :
    handlerFields.Changes s (s.updateProbeUp priorInFlight event) := by
  have hadapted : handlerFields.Changes s (s.maybeAdaptUpperBounds event).1 :=
    .mono maybeAdaptUpperBounds_changes rfl
  have hup : handlerFields.Changes s
      ((s.maybeAdaptUpperBounds event).1.probeInflightHighUpward event) :=
    hadapted.trans (.mono probeInflightHighUpward_changes rfl)
  unfold updateProbeUp
  dsimp only
  repeat' split
  · exact hadapted.trans (enterProbeDown_changes _ _ _)
  · exact hup.trans (enterProbeDown_changes _ _ _)
  · exact hup

theorem expireMinRtt_changes : senderMinRttField.Changes s
    { s with model := (s.model.maybeExpireMinRtt event).1 } :=
  (@maybeExpireMinRtt_changes s.model event).lift (fun model => { s with model }) rfl

theorem updatePhase_changes (priorInFlight : Nat) :
    handlerFields.Changes s (s.updatePhase priorInFlight event).1 := by
  unfold updatePhase
  split
  · exact updateProbeUp_changes _
  · dsimp only
    split
    · exact .trans updateProbeDown_changes (.mono expireMinRtt_changes rfl)
    · exact updateProbeDown_changes
  · exact updateProbeCruise_changes
  · exact updateProbeRefill_changes
  · exact .refl _ s

theorem probeBwOnCongestionEvent_changes (priorInFlight : Nat) (eventTime : Int) :
    handlerFields.Changes s (s.probeBwOnCongestionEvent priorInFlight eventTime event).1 := by
  have hcount : handlerFields.Changes s
      (if event.endOfRoundTrip then s.countRound eventTime else s) := .ite (setCycle_changes _)
  have hgains : ∀ s : Bbr2Sender, ∀ pacingGain cwndGain,
      handlerFields.Changes s { s with model := s.model.setGains pacingGain cwndGain } :=
    fun _ _ _ => rfl
  unfold probeBwOnCongestionEvent
  dsimp only
  generalize (if event.endOfRoundTrip then s.countRound eventTime else s) = counted at *
  split
  · exact hcount.trans (updatePhase_changes _)
  · exact (hcount.trans (updatePhase_changes _)).trans (hgains _ _ _)

theorem probeBwEnter_changes (now : Int) : handlerFields.Changes s (s.probeBwEnter now) := by
  unfold probeBwEnter
  split
  · exact enterProbeDown_changes _ _ _
  · dsimp only
    split
    · exact (setCycle_changes _).trans (enterProbeCruise_changes _)
    · exact (setCycle_changes _).trans (.ite (enterProbeRefill_changes _ _))

/-! ## The loop over the modes -/

theorem probeRttOnCongestionEvent_changes :
    exitTimeField.Changes s (s.probeRttOnCongestionEvent event).1 := by
  unfold probeRttOnCongestionEvent
  repeat' split
  all_goals exact rfl

theorem modeOnCongestionEvent_changes (priorInFlight : Nat) (eventTime : Int) :
    handlerFields.Changes s (s.modeOnCongestionEvent priorInFlight eventTime event).1 := by
  unfold modeOnCongestionEvent
  split
  · exact .mono startupOnCongestionEvent_changes rfl
  · exact probeBwOnCongestionEvent_changes _ _
  · exact drainOnCongestionEvent_changes
  · exact .mono probeRttOnCongestionEvent_changes rfl

theorem leaveMode_changes (now : Int) : leaveModeFields.Changes s (s.leaveMode now) := by
  unfold leaveMode
  split <;> exact rfl

theorem enterMode_changes (now : Int) : handlerFields.Changes s (s.enterMode now) := by
  unfold enterMode
  split
  · exact probeBwEnter_changes _
  · exact rfl
  · exact .refl _ s

theorem changeMode_changes (nextMode : Bbr2Mode) (now : Int) :
    handlerFields.Changes s (s.changeMode nextMode now) := by
  have hmode : handlerFields.Changes (s.leaveMode now) { s.leaveMode now with mode := nextMode } :=
    rfl
  exact .trans (.trans ((leaveMode_changes now).mono rfl) hmode) (enterMode_changes now)

theorem runModes_changes (priorInFlight : Nat) (eventTime : Int) (changes : Nat) :
    handlerFields.Changes s (runModes priorInFlight eventTime event changes s) := by
  induction changes generalizing s with
  | zero => exact .refl _ s
  | succ changes ih =>
      have hmode : handlerFields.Changes s
          (s.modeOnCongestionEvent priorInFlight eventTime event).1 :=
        modeOnCongestionEvent_changes _ _
      unfold runModes
      dsimp only
      split
      · exact hmode
      · exact (hmode.trans (changeMode_changes _ _)).trans ih

theorem countSlowStart_changes (lostPackets : List LostPacket) :
    statsFields.Changes s (s.countSlowStart event lostPackets) := .ite rfl

theorem updatePacingRate_changes (bytesAcked : Nat) :
    pacingRateField.Changes s (s.updatePacingRate bytesAcked) := by
  unfold updatePacingRate
  dsimp only
  repeat' split
  all_goals exact rfl

theorem maybeEnterQuiescence_changes (eventTime : Int) :
    quiescenceField.Changes s (s.maybeEnterQuiescence event eventTime) := .ite rfl

theorem modeOnExitQuiescence_changes (now quiescenceStartTime : Int) :
    senderMinRttField.Changes s (s.modeOnExitQuiescence now quiescenceStartTime).1 := by
  unfold modeOnExitQuiescence
  split <;> exact rfl

theorem onExitQuiescence_changes (now : Int) : sendFields.Changes s (s.onExitQuiescence now) := by
  have hend : ∀ s : Bbr2Sender, sendFields.Changes s { s with lastQuiescenceStart := 0 } :=
    fun _ => rfl
  have hmode : ∀ start, sendFields.Changes s (s.modeOnExitQuiescence now start).1 :=
    fun start => (modeOnExitQuiescence_changes now start).mono rfl
  unfold onExitQuiescence
  split
  · dsimp only
    split
    · exact ((hmode _).trans ((changeMode_changes _ _).mono rfl)).trans (hend _)
    · exact (hmode _).trans (hend _)
  · exact .refl _ s

/-- The first step of `OnPacketSent`. -/
def countPacketSent (s : Bbr2Sender) (bytes : Nat) : Bbr2Sender :=
  if s.mode = .startup then
    { s with
      connectionStats :=
        { s.connectionStats with
          slowstartPacketsSent := s.connectionStats.slowstartPacketsSent + 1
          slowstartBytesSent := s.connectionStats.slowstartBytesSent + bytes } }
  else s

theorem countPacketSent_changes (bytes : Nat) : statsFields.Changes s (s.countPacketSent bytes) :=
  .ite rfl

/-! ## The operations of the sender -/

/-- The steps of `OnPacketSent` before the packet is handed to the model. -/
def beforePacketSent (s : Bbr2Sender) (sentTime : Int) (bytesInFlight bytes : Nat) : Bbr2Sender :=
  if bytesInFlight = 0 ∧ (s.countPacketSent bytes).params.avoidUnnecessaryProbeRtt = true then
    (s.countPacketSent bytes).onExitQuiescence sentTime
  else s.countPacketSent bytes

theorem onPacketSent_eq (sentTime : Int) (bytesInFlight packetNumber bytes : Nat) :
    s.onPacketSent sentTime bytesInFlight packetNumber bytes =
      { s.beforePacketSent sentTime bytesInFlight bytes with
        model := (s.beforePacketSent sentTime bytesInFlight bytes).model.onPacketSent sentTime
          bytesInFlight packetNumber bytes } := rfl

theorem beforePacketSent_changes (sentTime : Int) (bytesInFlight bytes : Nat) :
    sendFields.Changes s (s.beforePacketSent sentTime bytesInFlight bytes) :=
  .trans ((countPacketSent_changes _).mono rfl) (.ite (onExitQuiescence_changes _))

theorem onPacketSent_frame (sentTime : Int) (bytesInFlight packetNumber bytes : Nat) :
    (s.onPacketSent sentTime bytesInFlight packetNumber bytes).model.bandwidthSampler =
        s.model.bandwidthSampler.onPacketSent sentTime packetNumber bytes bytesInFlight ∧
      (s.onPacketSent sentTime bytesInFlight packetNumber bytes).cwnd = s.cwnd ∧
      (s.onPacketSent sentTime bytesInFlight packetNumber bytes).pacingRate = s.pacingRate := by
  have hbefore := @beforePacketSent_changes s sentTime bytesInFlight bytes
  rw [onPacketSent_eq]
  exact ⟨congrArg (·.onPacketSent sentTime packetNumber bytes bytesInFlight)
    (hbefore.keeps (·.model.bandwidthSampler) rfl), hbefore.keeps cwnd rfl,
    hbefore.keeps pacingRate rfl⟩

/-- The sender after `OnCongestionEventStart`, when the loop over the modes starts. -/
def sampled (s : Bbr2Sender) (priorInFlight : Nat) (eventTime : Int)
    (ackedPackets : List AckedPacket) (lostPackets : List LostPacket) : Bbr2Sender :=
  let (model, event) := s.model.onCongestionEventStart eventTime ackedPackets lostPackets
    (s.startCongestionEvent priorInFlight)
  { s with model }.countSlowStart event lostPackets

theorem sampled_changes (priorInFlight : Nat) (eventTime : Int) (ackedPackets : List AckedPacket)
    (lostPackets : List LostPacket) :
    samplingFields.Changes s (s.sampled priorInFlight eventTime ackedPackets lostPackets) := by
  have hmodel : ∀ model, samplingFields.Changes s { s with model } := fun _ => rfl
  exact (hmodel _).trans ((countSlowStart_changes _).mono rfl)

theorem sampled_model (priorInFlight : Nat) (eventTime : Int) (ackedPackets : List AckedPacket)
    (lostPackets : List LostPacket) :
    (s.sampled priorInFlight eventTime ackedPackets lostPackets).model =
      (s.model.onCongestionEventStart eventTime ackedPackets lostPackets
        (s.startCongestionEvent priorInFlight)).1 :=
  (countSlowStart_changes _).keeps model rfl

theorem sampled_model_changes (priorInFlight : Nat) (eventTime : Int)
    (ackedPackets : List AckedPacket) (lostPackets : List LostPacket) :
    recordFields.Changes
      (s.model.sampleCongestionEvent eventTime ackedPackets lostPackets
        (s.startCongestionEvent priorInFlight)).1
      (s.sampled priorInFlight eventTime ackedPackets lostPackets).model := by
  rw [sampled_model]
  exact recordCongestionEvent_changes _

/-- The update of the rate and the window and the end of the round. -/
def writeOutputs (s : Bbr2Sender) (leastUnacked : Nat) (event : Bbr2CongestionEvent) :
    Bbr2Sender :=
  let s := (s.updatePacingRate event.bytesAcked).updateCongestionWindow event.bytesAcked
  { s with model := s.model.onCongestionEventFinish leastUnacked event }

/-- The steps of `OnCongestionEvent` behind the loop over the modes. -/
def finishCongestionEvent (s : Bbr2Sender) (leastUnacked : Nat) (event : Bbr2CongestionEvent) :
    Bbr2Sender :=
  (s.writeOutputs leastUnacked event).maybeEnterQuiescence event event.eventTime

theorem writeOutputs_changes (leastUnacked : Nat) :
    outputFields.Changes s (s.writeOutputs leastUnacked event) := by
  have hwindow : ∀ s : Bbr2Sender,
      outputFields.Changes s (s.updateCongestionWindow event.bytesAcked) := fun _ => rfl
  have hend : ∀ s : Bbr2Sender, outputFields.Changes s
      { s with model := s.model.onCongestionEventFinish leastUnacked event } := by
    intro s
    let trimmed : Bbr2NetworkModel :=
      { s.model with
        bandwidthSampler := s.model.bandwidthSampler.removeObsoletePackets leastUnacked }
    have htrim : outputFields.Changes s { s with model := trimmed } := rfl
    have hround : roundCountFields.Changes trimmed
        (s.model.onCongestionEventFinish leastUnacked event) := onCongestionEventFinish_changes _
    exact htrim.trans (hround.lift (fun model => { s with model }) rfl)
  exact .trans (.trans ((updatePacingRate_changes _).mono rfl) (hwindow _)) (hend _)

theorem finishCongestionEvent_changes (leastUnacked : Nat) :
    finishFields.Changes s (s.finishCongestionEvent leastUnacked event) :=
  .trans ((writeOutputs_changes _).mono rfl) ((maybeEnterQuiescence_changes _).mono rfl)

theorem finishCongestionEvent_model (leastUnacked : Nat) :
    (s.finishCongestionEvent leastUnacked event).model =
      s.model.onCongestionEventFinish leastUnacked event := by
  have hrate : (s.updatePacingRate event.bytesAcked).model = s.model :=
    (updatePacingRate_changes _).keeps model rfl
  calc _ = _ := (maybeEnterQuiescence_changes _).keeps model rfl
    _ = _ := congrArg (·.onCongestionEventFinish leastUnacked event) hrate

theorem updatePacingRate_updateCongestionWindow_cwnd (bytesAcked : Nat) :
    ((s.updatePacingRate bytesAcked).updateCongestionWindow bytesAcked).cwnd =
      (s.updateCongestionWindow bytesAcked).cwnd :=
  (updatePacingRate_changes bytesAcked).keeps
    (fun s => (s.updateCongestionWindow bytesAcked).cwnd) rfl

theorem finishCongestionEvent_cwnd (leastUnacked : Nat) :
    (s.finishCongestionEvent leastUnacked event).cwnd =
      (s.updateCongestionWindow event.bytesAcked).cwnd := by
  have hquiescence : (s.finishCongestionEvent leastUnacked event).cwnd =
      (s.writeOutputs leastUnacked event).cwnd := (maybeEnterQuiescence_changes _).keeps cwnd rfl
  exact hquiescence.trans (updatePacingRate_updateCongestionWindow_cwnd _)

theorem finishCongestionEvent_pacingRate (leastUnacked : Nat) :
    (s.finishCongestionEvent leastUnacked event).pacingRate =
      (s.updatePacingRate event.bytesAcked).pacingRate := by
  have hwindow : ∀ s : Bbr2Sender, (s.updateCongestionWindow event.bytesAcked).pacingRate =
      s.pacingRate := fun _ => rfl
  have hquiescence : (s.finishCongestionEvent leastUnacked event).pacingRate =
      (s.writeOutputs leastUnacked event).pacingRate :=
    (maybeEnterQuiescence_changes _).keeps pacingRate rfl
  exact hquiescence.trans (hwindow (s.updatePacingRate event.bytesAcked))

theorem onCongestionEvent_eq (leastUnacked priorInFlight : Nat) (eventTime : Int)
    (ackedPackets : List AckedPacket) (lostPackets : List LostPacket) :
    s.onCongestionEvent leastUnacked priorInFlight eventTime ackedPackets lostPackets =
      (runModes priorInFlight eventTime
          (s.congestionEvent priorInFlight eventTime ackedPackets lostPackets)
          (kMaxModeChangesPerCongestionEvent + 1)
          (s.sampled priorInFlight eventTime ackedPackets lostPackets)).finishCongestionEvent
        leastUnacked (s.congestionEvent priorInFlight eventTime ackedPackets lostPackets) := rfl

/-- The sampler after a congestion event is the one that sampled it, trimmed. -/
theorem onCongestionEvent_accounts (leastUnacked priorInFlight : Nat) (eventTime : Int)
    (ackedPackets : List AckedPacket) (lostPackets : List LostPacket) :
    (s.onCongestionEvent leastUnacked priorInFlight eventTime ackedPackets
        lostPackets).model.bandwidthSampler.accounts =
      (s.model.bandwidthSampler.accounts.record ackedPackets lostPackets).trim leastUnacked := by
  rw [onCongestionEvent_eq, finishCongestionEvent_model, accounts_onCongestionEventFinish,
    (runModes_changes _ _ _).keeps (·.model.bandwidthSampler) rfl, sampled_model,
    accounts_onCongestionEventStart]

end Bbr2Sender

end BbrChrome
