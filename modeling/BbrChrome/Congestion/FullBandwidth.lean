import BbrChrome.Congestion.ModeCoherence
import BbrChrome.Congestion.StartupGrowth
import BbrChrome.Library.History

/-!
# Rounds without growth

`CheckBandwidthGrowth` counts the checks that found no growth since the baseline was raised. A
check is made where a round ends, and a round ends with the ack of a packet that was sent behind
the end of the round before, so that the count is one of round trips.
-/

namespace BbrChrome

open History

namespace Bbr2Call

def sentNumbers : Bbr2Call → List Nat
  | packetSent _ _ packetNumber _ => [packetNumber]
  | congestionEvent _ _ _ _ _ => []

def ackedNumbers : Bbr2Call → List Nat
  | packetSent _ _ _ _ => []
  | congestionEvent _ _ _ ackedPackets _ => ackedPackets.map (·.packetNumber)

end Bbr2Call

/-- Packets are sent in increasing order and acked behind their sending. -/
structure SentInOrder (calls : List Bbr2Call) : Prop where
  increasing : (calls.flatMap Bbr2Call.sentNumbers).Pairwise (· < ·)
  acked : ∀ i (h : i < calls.length), ∀ n ∈ calls[i].ackedNumbers,
    n ∈ (calls.take i).flatMap Bbr2Call.sentNumbers

theorem SentInOrder.concat {calls : List Bbr2Call} {c : Bbr2Call}
    (h : SentInOrder (calls ++ [c])) :
    SentInOrder calls ∧
      (∀ n ∈ c.sentNumbers, ∀ m ∈ calls.flatMap Bbr2Call.sentNumbers, m < n) ∧
      ∀ n ∈ c.ackedNumbers, n ∈ calls.flatMap Bbr2Call.sentNumbers := by
  have hincreasing := h.increasing
  rw [List.flatMap_append, List.pairwise_append] at hincreasing
  refine ⟨⟨hincreasing.1, ?_⟩, ?_, ?_⟩
  · intro i hi n hn
    have hacked := h.acked i (by simp; omega) n (by simpa [List.getElem_append_left hi] using hn)
    rw [List.take_append_of_le_length (Nat.le_of_lt hi)] at hacked
    exact hacked
  · intro n hn m hm
    exact hincreasing.2.2 m hm n (by simpa using hn)
  · intro n hn
    have hacked := h.acked calls.length (by simp) n (by simpa using hn)
    rw [List.take_left] at hacked
    exact hacked

def sentIn (history : List (Bbr2Sender × Bbr2Call)) : List Nat :=
  history.flatMap fun x => x.2.sentNumbers

def ackedIn (history : List (Bbr2Sender × Bbr2Call)) : List Nat :=
  history.flatMap fun x => x.2.ackedNumbers

/-- A packet that was sent during `late` is acked there or by `x`. -/
def RoundBetween (late : List (Bbr2Sender × Bbr2Call)) (x : Bbr2Sender × Bbr2Call) : Prop :=
  ∃ n ∈ sentIn late, n ∈ ackedIn (late ++ [x])

/-- The end of a round in STARTUP, its last sample not app-limited, at which the maximum bandwidth
is below the growth that the baseline asks for. -/
def Stalls : Bbr2Sender × Bbr2Call → Prop
  | (_, .packetSent _ _ _ _) => False
  | (s, .congestionEvent _ priorInFlight eventTime ackedPackets lostPackets) =>
      let event := s.congestionEvent priorInFlight eventTime ackedPackets lostPackets
      let started := s.sampled priorInFlight eventTime ackedPackets lostPackets
      s.mode = .startup ∧ event.endOfRoundTrip = true ∧ event.lastSampleIsAppLimited = false ∧
        started.model.maxBandwidth <
          s.model.fullBandwidthBaseline.scale s.params.startupFullBwThreshold

/-- `CheckExcessiveLosses` sets `full_bandwidth_reached_`, which `CheckBandwidthGrowth` has left
unset. -/
def ExitsOnLoss : Bbr2Sender × Bbr2Call → Prop
  | (_, .packetSent _ _ _ _) => False
  | (s, .congestionEvent _ priorInFlight eventTime ackedPackets lostPackets) =>
      let event := s.congestionEvent priorInFlight eventTime ackedPackets lostPackets
      let started := s.sampled priorInFlight eventTime ackedPackets lostPackets
      (started.model.checkBandwidthGrowth event).1.fullBandwidthReached = false ∧
        (started.checkStartupExit event).model.fullBandwidthReached = true

/-! ## The round-trip counter -/

/-- The packets of the list are not beyond `p`. -/
def QuicPacketNumber.Covers (p : QuicPacketNumber) (sent : List Nat) : Prop :=
  ∀ n ∈ sent, ∃ last, p = .number last ∧ n ≤ last

theorem QuicPacketNumber.Covers.of_subset {p : QuicPacketNumber} {sent sent' : List Nat}
    (h : p.Covers sent) (hsubset : sent' ⊆ sent) : p.Covers sent' :=
  fun n hn => h n (hsubset hn)

namespace RoundTripCounter

/-- What the acks of an event do, and whether a round has ended. -/
def onAcks (counter : RoundTripCounter) (ackedPackets : List AckedPacket) :
    RoundTripCounter × Bool :=
  match ackedPackets.getLast? with
  | none => (counter, false)
  | some last => counter.onPacketsAcked last.packetNumber

def onCall (counter : RoundTripCounter) : Bbr2Call → RoundTripCounter
  | .packetSent _ _ packetNumber _ => counter.onPacketSent packetNumber
  | .congestionEvent _ _ _ ackedPackets _ => (counter.onAcks ackedPackets).1

variable {counter : RoundTripCounter} {ackedPackets : List AckedPacket}

theorem onAcks_lastSentPacket :
    (counter.onAcks ackedPackets).1.lastSentPacket = counter.lastSentPacket := by
  unfold onAcks
  cases ackedPackets.getLast? with
  | none => rfl
  | some last =>
      dsimp only
      unfold onPacketsAcked
      split <;> rfl

theorem onAcks_endOfRoundTrip :
    (counter.onAcks ackedPackets).1.endOfRoundTrip =
      if (counter.onAcks ackedPackets).2 then counter.lastSentPacket
      else counter.endOfRoundTrip := by
  unfold onAcks
  cases ackedPackets.getLast? with
  | none => rfl
  | some last =>
      dsimp only
      unfold onPacketsAcked
      split <;> rfl

/-- A round ends with the ack of a packet that its end does not cover. -/
theorem exists_acked_of_ended (hended : (counter.onAcks ackedPackets).2 = true) {sent : List Nat}
    (hcovers : counter.endOfRoundTrip.Covers sent) :
    ∃ n ∈ ackedPackets.map (·.packetNumber), n ∉ sent := by
  unfold onAcks at hended
  cases hlast : ackedPackets.getLast? with
  | none =>
      rw [hlast] at hended
      cases hended
  | some last =>
      rw [hlast] at hended
      have hmem : last ∈ ackedPackets := List.mem_of_getLast? hlast
      refine ⟨last.packetNumber, List.mem_map_of_mem hmem, fun hsent => ?_⟩
      obtain ⟨stop, hstop, hle⟩ := hcovers last.packetNumber hsent
      have hnot : ¬ stop < last.packetNumber := Nat.not_lt.mpr hle
      simp [onPacketsAcked, hstop, QuicPacketNumber.isInitialized, QuicPacketNumber.below,
        hnot] at hended

end RoundTripCounter

/-! ## A check -/

namespace Bbr2NetworkModel

/-- `m'` has the baseline and the count of `m`. -/
structure SameGrowth (m m' : Bbr2NetworkModel) : Prop where
  baseline : m'.fullBandwidthBaseline = m.fullBandwidthBaseline
  rounds : m'.roundsWithoutBandwidthGrowth = m.roundsWithoutBandwidthGrowth

/-- What an event may do to the count: its check finds growth, it finds none, or it is not made. -/
inductive Checked (stalls : Prop) (m m' : Bbr2NetworkModel) : Prop
  | grown (hrounds : m'.roundsWithoutBandwidthGrowth = 0)
  | stalled (hstalls : stalls) (hbaseline : m'.fullBandwidthBaseline = m.fullBandwidthBaseline)
      (hrounds : m'.roundsWithoutBandwidthGrowth = m.roundsWithoutBandwidthGrowth + 1)
  | unchecked (hbaseline : m'.fullBandwidthBaseline = m.fullBandwidthBaseline)
      (hrounds : m'.roundsWithoutBandwidthGrowth = m.roundsWithoutBandwidthGrowth)

variable {m m₁ m₂ m' : Bbr2NetworkModel} {event : Bbr2CongestionEvent} {stalls stalls' : Prop}

theorem Checked.framed (h : Checked stalls m₁ m₂) (himp : stalls → stalls')
    (hbefore : m.SameGrowth m₁) (hafter : m₂.SameGrowth m') : Checked stalls' m m' := by
  cases h with
  | grown hrounds => exact .grown (hafter.rounds.trans hrounds)
  | stalled hstalls hbaseline hrounds =>
      have hbaseline' : m'.fullBandwidthBaseline = m.fullBandwidthBaseline := by
        rw [hafter.baseline, hbaseline, hbefore.baseline]
      have hrounds' : m'.roundsWithoutBandwidthGrowth = m.roundsWithoutBandwidthGrowth + 1 := by
        rw [hafter.rounds, hrounds, hbefore.rounds]
      exact .stalled (himp hstalls) hbaseline' hrounds'
  | unchecked hbaseline hrounds =>
      have hbaseline' : m'.fullBandwidthBaseline = m.fullBandwidthBaseline := by
        rw [hafter.baseline, hbaseline, hbefore.baseline]
      have hrounds' : m'.roundsWithoutBandwidthGrowth = m.roundsWithoutBandwidthGrowth := by
        rw [hafter.rounds, hrounds, hbefore.rounds]
      exact .unchecked hbaseline' hrounds'

theorem checkBandwidthGrowth_checked :
    Checked (event.lastSampleIsAppLimited = false ∧
        m.maxBandwidth < m.fullBandwidthBaseline.scale m.params.startupFullBwThreshold)
      m (m.checkBandwidthGrowth event).1 ∧
      (m.checkBandwidthGrowth event).1.roundTripCounter = m.roundTripCounter := by
  unfold checkBandwidthGrowth
  split
  · exact ⟨.unchecked rfl rfl, rfl⟩
  · rename_i happLimited
    split
    · exact ⟨.grown rfl, rfl⟩
    · rename_i hless
      have hstalls : event.lastSampleIsAppLimited = false ∧
          m.maxBandwidth < m.fullBandwidthBaseline.scale m.params.startupFullBwThreshold :=
        ⟨Bool.eq_false_of_not_eq_true happLimited, not_le.mp hless⟩
      dsimp only
      split
      · exact ⟨.stalled hstalls rfl rfl, rfl⟩
      · exact ⟨.stalled hstalls rfl rfl, rfl⟩

/-- Full bandwidth is reached by the last check of enough that found no growth. -/
theorem checkBandwidthGrowth_reached (hbefore : m.fullBandwidthReached = false)
    (hafter : (m.checkBandwidthGrowth event).1.fullBandwidthReached = true) :
    event.lastSampleIsAppLimited = false ∧
      m.maxBandwidth < m.fullBandwidthBaseline.scale m.params.startupFullBwThreshold ∧
      m.params.startupFullBwRounds ≤ m.roundsWithoutBandwidthGrowth + 1 := by
  have hnot : m.fullBandwidthReached ≠ true := by simp [hbefore]
  unfold checkBandwidthGrowth at hafter
  split at hafter
  · exact absurd hafter hnot
  · rename_i happLimited
    split at hafter
    · exact absurd hafter hnot
    · rename_i hless
      dsimp only at hafter
      split at hafter
      · rename_i hrounds
        exact ⟨Bool.eq_false_of_not_eq_true happLimited, not_le.mp hless, hrounds⟩
      · exact absurd hafter hnot

theorem sameGrowth_onCongestionEventFinish (leastUnacked : Nat) :
    m.SameGrowth (m.onCongestionEventFinish leastUnacked event) ∧
      (m.onCongestionEventFinish leastUnacked event).roundTripCounter = m.roundTripCounter := by
  have hfinished := @onCongestionEventFinish_changes m event leastUnacked
  exact ⟨⟨hfinished.keeps fullBandwidthBaseline rfl,
      hfinished.keeps roundsWithoutBandwidthGrowth rfl⟩,
    hfinished.keeps roundTripCounter rfl⟩

end Bbr2NetworkModel

namespace Bbr2Sender

open Bbr2NetworkModel

variable {s : Bbr2Sender} {event : Bbr2CongestionEvent}

theorem congestionEvent_endOfRoundTrip (priorInFlight : Nat) (eventTime : Int)
    (ackedPackets : List AckedPacket) (lostPackets : List LostPacket) :
    (s.congestionEvent priorInFlight eventTime ackedPackets lostPackets).endOfRoundTrip =
      (s.model.roundTripCounter.onAcks ackedPackets).2 := rfl

theorem sameGrowth_sampled (priorInFlight : Nat) (eventTime : Int)
    (ackedPackets : List AckedPacket) (lostPackets : List LostPacket) :
    s.model.SameGrowth (s.sampled priorInFlight eventTime ackedPackets lostPackets).model ∧
      (s.sampled priorInFlight eventTime ackedPackets lostPackets).model.roundTripCounter =
        (s.model.roundTripCounter.onAcks ackedPackets).1 := by
  have hsampled := @sampled_model_changes s priorInFlight eventTime ackedPackets lostPackets
  exact ⟨⟨hsampled.keeps fullBandwidthBaseline rfl,
      hsampled.keeps roundsWithoutBandwidthGrowth rfl⟩,
    hsampled.keeps roundTripCounter rfl⟩

theorem sameGrowth_checkExcessiveLosses :
    s.model.SameGrowth (s.checkExcessiveLosses event).model ∧
      (s.checkExcessiveLosses event).model.roundTripCounter = s.model.roundTripCounter := by
  have hchecked := @checkExcessiveLosses_changes s event
  exact ⟨⟨hchecked.keeps (·.model.fullBandwidthBaseline) rfl,
    hchecked.keeps (·.model.roundsWithoutBandwidthGrowth) rfl⟩,
    hchecked.keeps (·.model.roundTripCounter) rfl⟩

theorem checkStartupExit_checked :
    Checked (event.endOfRoundTrip = true ∧ event.lastSampleIsAppLimited = false ∧
        s.model.maxBandwidth <
          s.model.fullBandwidthBaseline.scale s.params.startupFullBwThreshold)
      s.model (s.checkStartupExit event).model ∧
      (s.checkStartupExit event).model.roundTripCounter = s.model.roundTripCounter := by
  obtain ⟨hchecked, hcounter⟩ := @checkBandwidthGrowth_checked s.model event
  unfold checkStartupExit
  split
  · rename_i hround
    have hended : event.endOfRoundTrip = true := by
      rw [Bool.and_eq_true] at hround
      exact hround.2
    dsimp only
    split
    · obtain ⟨hkept, hcounter'⟩ := @sameGrowth_checkExcessiveLosses
        { s with model := (s.model.checkBandwidthGrowth event).1 } event
      exact ⟨hchecked.framed (fun hstalls => ⟨hended, hstalls⟩) ⟨rfl, rfl⟩ hkept,
        hcounter'.trans hcounter⟩
    · exact ⟨hchecked.framed (fun hstalls => ⟨hended, hstalls⟩) ⟨rfl, rfl⟩ ⟨rfl, rfl⟩, hcounter⟩
  · exact ⟨.unchecked rfl rfl, rfl⟩

/-! ## A call in STARTUP -/

theorem call_checked (hs : s.HasDefaults) (c : Bbr2Call) (hstay : (s.call c).mode = .startup) :
    Checked (Stalls (s, c)) s.model (s.call c).model ∧
      (s.call c).model.roundTripCounter = s.model.roundTripCounter.onCall c := by
  cases c with
  | packetSent sentTime bytesInFlight packetNumber bytes =>
      have hmode := startup_of_call hs (.packetSent sentTime bytesInFlight packetNumber bytes) hstay
      obtain ⟨stats, quiescenceStart, heq⟩ := onPacketSent_eq_startup hmode sentTime bytesInFlight
        packetNumber bytes
      have hmodel : (s.call (.packetSent sentTime bytesInFlight packetNumber bytes)).model =
          s.model.onPacketSent sentTime bytesInFlight packetNumber bytes :=
        congrArg Bbr2Sender.model heq
      rw [hmodel]
      exact ⟨.unchecked rfl rfl, rfl⟩
  | congestionEvent leastUnacked priorInFlight eventTime ackedPackets lostPackets =>
      obtain ⟨hmode, -, heq⟩ := onCongestionEvent_eq_startup hs leastUnacked priorInFlight
        eventTime ackedPackets lostPackets hstay
      have hparams := hs.sampled priorInFlight eventTime ackedPackets lostPackets
      have hkept : (s.sampled priorInFlight eventTime ackedPackets lostPackets).params =
          s.params := (s.sampled_move hs.bwLoMode priorInFlight eventTime ackedPackets
            lostPackets).params_eq
      obtain ⟨hbefore, hcounted⟩ :=
        @sameGrowth_sampled s priorInFlight eventTime ackedPackets lostPackets
      rw [startupOnCongestionEvent_eq hparams.startupPacing] at heq
      dsimp only [Stalls]
      generalize s.congestionEvent priorInFlight eventTime ackedPackets lostPackets = event at *
      generalize s.sampled priorInFlight eventTime ackedPackets lostPackets = started at *
      obtain ⟨hchecked, hcounter⟩ := @checkStartupExit_checked started event
      obtain ⟨hafter, hfinished⟩ := @sameGrowth_onCongestionEventFinish
        (started.checkStartupExit event).model event leastUnacked
      have hmodel : (s.call (.congestionEvent leastUnacked priorInFlight eventTime ackedPackets
          lostPackets)).model =
          (started.checkStartupExit event).model.onCongestionEventFinish leastUnacked event :=
        (congrArg Bbr2Sender.model heq).trans (finishCongestionEvent_model leastUnacked)
      rw [hmodel]
      constructor
      · apply hchecked.framed _ hbefore hafter
        rintro ⟨hended, happLimited, hless⟩
        rw [hbefore.baseline, hkept] at hless
        exact ⟨hmode, hended, happLimited, hless⟩
      · rw [hfinished, hcounter, hcounted]
        rfl

theorem runModes_of_unreached (hs : s.HasDefaults) (hmode : s.mode = .startup)
    (hunreached : (s.checkStartupExit event).model.fullBandwidthReached = false)
    (priorInFlight : Nat) :
    runModes priorInFlight event.eventTime event (kMaxModeChangesPerCongestionEvent + 1) s =
      s.checkStartupExit event := by
  have hhandler : s.modeOnCongestionEvent priorInFlight event.eventTime event =
      (s.checkStartupExit event, .startup) := by
    simp [modeOnCongestionEvent, hmode, startupOnCongestionEvent_eq hs.startupPacing, hunreached]
  have hkept := (modeOnCongestionEvent_turn hs hhandler).mode_eq
  rw [hmode] at hkept
  unfold runModes
  rw [hhandler]
  exact if_pos hkept.symm

/-- A check that declares full bandwidth, not for losses, finds no growth once too often. -/
theorem checkStartupExit_reached (hbefore : s.model.fullBandwidthReached = false)
    (hafter : (s.checkStartupExit event).model.fullBandwidthReached = true)
    (hgrowth : (s.model.checkBandwidthGrowth event).1.fullBandwidthReached = true) :
    event.endOfRoundTrip = true ∧ event.lastSampleIsAppLimited = false ∧
      s.model.maxBandwidth <
        s.model.fullBandwidthBaseline.scale s.params.startupFullBwThreshold ∧
      s.params.startupFullBwRounds ≤ s.model.roundsWithoutBandwidthGrowth + 1 := by
  have hended : event.endOfRoundTrip = true := by
    by_contra hnot
    simp [checkStartupExit, hnot, hbefore] at hafter
  exact ⟨hended, checkBandwidthGrowth_reached hbefore hgrowth⟩

theorem finishCongestionEvent_fullBandwidthReached (leastUnacked : Nat) :
    (s.finishCongestionEvent leastUnacked event).model.fullBandwidthReached =
      s.model.fullBandwidthReached :=
  (finishCongestionEvent_changes leastUnacked).keeps (·.model.fullBandwidthReached) rfl

/-- Full bandwidth that is not declared for losses is declared by a check that finds no growth. -/
theorem stalls_of_reached (hs : s.HasDefaults) (hmode : s.mode = .startup)
    (hbefore : s.model.fullBandwidthReached = false) {c : Bbr2Call}
    (hafter : (s.call c).model.fullBandwidthReached = true) (hloss : ¬ ExitsOnLoss (s, c)) :
    Stalls (s, c) ∧ s.params.startupFullBwRounds ≤ s.model.roundsWithoutBandwidthGrowth + 1 := by
  cases c with
  | packetSent sentTime bytesInFlight packetNumber bytes =>
      obtain ⟨stats, quiescenceStart, heq⟩ := onPacketSent_eq_startup hmode sentTime bytesInFlight
        packetNumber bytes
      have hkept : (s.call (.packetSent sentTime bytesInFlight packetNumber
          bytes)).model.fullBandwidthReached = s.model.fullBandwidthReached :=
        congrArg (·.model.fullBandwidthReached) heq
      simp [hkept, hbefore] at hafter
  | congestionEvent leastUnacked priorInFlight eventTime ackedPackets lostPackets =>
      have hsampling := s.sampled_move hs.bwLoMode priorInFlight eventTime ackedPackets lostPackets
      have hparams := hs.sampled priorInFlight eventTime ackedPackets lostPackets
      have hsame := (@sameGrowth_sampled s priorInFlight eventTime ackedPackets lostPackets).1
      have hlooped : (runModes priorInFlight eventTime
          (s.congestionEvent priorInFlight eventTime ackedPackets lostPackets)
          (kMaxModeChangesPerCongestionEvent + 1)
          (s.sampled priorInFlight eventTime ackedPackets
            lostPackets)).model.fullBandwidthReached = true := by
        rw [← @finishCongestionEvent_fullBandwidthReached _
          (s.congestionEvent priorInFlight eventTime ackedPackets lostPackets) leastUnacked]
        exact hafter
      have htime : (s.congestionEvent priorInFlight eventTime ackedPackets lostPackets).eventTime =
        eventTime := rfl
      dsimp only [ExitsOnLoss, Stalls] at hloss ⊢
      generalize s.congestionEvent priorInFlight eventTime ackedPackets lostPackets = event at *
      generalize s.sampled priorInFlight eventTime ackedPackets lostPackets = started at *
      subst htime
      have hkept : started.params = s.params := hsampling.params_eq
      have hstarted : started.model.fullBandwidthReached = false :=
        hsampling.fullBandwidthReached_eq.trans hbefore
      have hchecked : (started.checkStartupExit event).model.fullBandwidthReached = true := by
        by_contra hunreached
        rw [runModes_of_unreached hparams (hsampling.mode_eq.trans hmode)
          (Bool.eq_false_of_not_eq_true hunreached)] at hlooped
        exact hunreached hlooped
      have hgrowth : (started.model.checkBandwidthGrowth event).1.fullBandwidthReached = true := by
        by_contra hnot
        exact hloss ⟨Bool.eq_false_of_not_eq_true hnot, hchecked⟩
      obtain ⟨hended, happLimited, hless, hrounds⟩ :=
        checkStartupExit_reached hstarted hchecked hgrowth
      rw [hsame.rounds, hkept] at hrounds
      rw [hsame.baseline, hkept] at hless
      exact ⟨⟨hmode, hended, happLimited, hless⟩, hrounds⟩

/-! ## Runs -/

def StallsAt (b : QuicBandwidth) (x : Bbr2Sender × Bbr2Call) : Prop :=
  Stalls x ∧ x.1.model.fullBandwidthBaseline = b

/-- A stretch with the baseline `b` in which a round trip is made. -/
def RoundAt (b : QuicBandwidth) (late : List (Bbr2Sender × Bbr2Call))
    (x : Bbr2Sender × Bbr2Call) : Prop :=
  (∀ y ∈ late, y.1.model.fullBandwidthBaseline = b) ∧ RoundBetween late x

/-- What the counters of a sender in STARTUP say about the record: the last packet sent is the
largest, and as many stalls as were counted follow one another, each behind the end of the round
before it. -/
structure CountsRounds (s : Bbr2Sender) (history : List (Bbr2Sender × Bbr2Call)) : Prop where
  covers : s.model.roundTripCounter.lastSentPacket.Covers (sentIn history)
  streak : s.model.roundsWithoutBandwidthGrowth = 0 ∨
    ∃ early x late, history = early ++ x :: late ∧
      Streak (StallsAt s.model.fullBandwidthBaseline) (RoundAt s.model.fullBandwidthBaseline)
        s.model.roundsWithoutBandwidthGrowth early x ∧
      (∀ y ∈ late, y.1.model.fullBandwidthBaseline = s.model.fullBandwidthBaseline) ∧
      s.model.roundTripCounter.endOfRoundTrip.Covers (sentIn (early ++ [x]))

variable {history late : List (Bbr2Sender × Bbr2Call)} {c : Bbr2Call}

theorem sentIn_append : sentIn (history ++ late) = sentIn history ++ sentIn late :=
  List.flatMap_append

theorem sentIn_trace (calls : List Bbr2Call) :
    sentIn (trace call s calls) = calls.flatMap Bbr2Call.sentNumbers := by
  have hcalls := @trace_map_snd _ _ call s calls
  rw [← hcalls, List.flatMap_map, hcalls]
  rfl

/-- A stall acks a packet that the end of the round before it does not cover. -/
theorem exists_acked_of_stalls (hstalls : Stalls (s, c)) {sent : List Nat}
    (hcovers : s.model.roundTripCounter.endOfRoundTrip.Covers sent) :
    ∃ n ∈ c.ackedNumbers, n ∉ sent := by
  cases c with
  | packetSent => exact hstalls.elim
  | congestionEvent leastUnacked priorInFlight eventTime ackedPackets lostPackets =>
      obtain ⟨-, hended, -⟩ := hstalls
      rw [congestionEvent_endOfRoundTrip] at hended
      exact RoundTripCounter.exists_acked_of_ended hended hcovers

theorem CountsRounds.streak_of_stalls (h : CountsRounds s history) (hstalls : Stalls (s, c))
    (hacked : ∀ n ∈ c.ackedNumbers, n ∈ sentIn history) :
    Streak (StallsAt s.model.fullBandwidthBaseline) (RoundAt s.model.fullBandwidthBaseline)
      (s.model.roundsWithoutBandwidthGrowth + 1) history (s, c) := by
  rcases h.streak with hnone | ⟨early, x, late, rfl, hstreak, hbaseline, hcovers⟩
  · rw [hnone]
    exact .first ⟨hstalls, rfl⟩
  · have hround : RoundBetween late (s, c) := by
      obtain ⟨n, hmem, hnew⟩ := exists_acked_of_stalls hstalls hcovers
      have hsent : n ∈ sentIn (early ++ [x]) ++ sentIn late := by
        rw [← sentIn_append, List.append_assoc]
        exact hacked n hmem
      have hin : n ∈ ackedIn (late ++ [(s, c)]) := by
        unfold ackedIn
        rw [List.flatMap_append]
        exact List.mem_append_right _ (by simpa using hmem)
      exact ⟨n, (List.mem_append.mp hsent).resolve_left hnew, hin⟩
    exact .next hstreak ⟨hbaseline, hround⟩ ⟨hstalls, rfl⟩

theorem CountsRounds.call_covers (h : CountsRounds s history)
    (hincreasing : ∀ n ∈ c.sentNumbers, ∀ m ∈ sentIn history, m < n) :
    (s.model.roundTripCounter.onCall c).lastSentPacket.Covers (sentIn (history ++ [(s, c)])) := by
  rw [sentIn_append]
  cases c with
  | packetSent sentTime bytesInFlight packetNumber bytes =>
      intro n hn
      refine ⟨packetNumber, rfl, ?_⟩
      rcases List.mem_append.mp hn with hbefore | hnew
      · exact Nat.le_of_lt (hincreasing packetNumber List.mem_cons_self n hbefore)
      · have heq : n = packetNumber := by simpa [sentIn, Bbr2Call.sentNumbers] using hnew
        exact Nat.le_of_eq heq
  | congestionEvent leastUnacked priorInFlight eventTime ackedPackets lostPackets =>
      intro n hn
      have hbefore : n ∈ sentIn history := by
        simpa [sentIn, Bbr2Call.sentNumbers] using hn
      unfold RoundTripCounter.onCall
      rw [RoundTripCounter.onAcks_lastSentPacket]
      exact h.covers n hbefore

theorem endOfRoundTrip_covers {counter : RoundTripCounter} {sent : List Nat}
    (hstop : counter.endOfRoundTrip.Covers sent)
    (hlast : (counter.onCall c).lastSentPacket.Covers sent) :
    (counter.onCall c).endOfRoundTrip.Covers sent := by
  cases c with
  | packetSent => exact hstop
  | congestionEvent leastUnacked priorInFlight eventTime ackedPackets lostPackets =>
      unfold RoundTripCounter.onCall at *
      rw [RoundTripCounter.onAcks_lastSentPacket] at hlast
      rw [RoundTripCounter.onAcks_endOfRoundTrip]
      split
      · exact hlast
      · exact hstop

/-- Behind a stall the next round ends with a packet that is yet to be sent. -/
theorem endOfRoundTrip_of_stalls (hstalls : Stalls (s, c)) :
    (s.model.roundTripCounter.onCall c).endOfRoundTrip =
      (s.model.roundTripCounter.onCall c).lastSentPacket := by
  cases c with
  | packetSent => exact hstalls.elim
  | congestionEvent leastUnacked priorInFlight eventTime ackedPackets lostPackets =>
      obtain ⟨-, hended, -⟩ := hstalls
      rw [congestionEvent_endOfRoundTrip] at hended
      unfold RoundTripCounter.onCall
      rw [RoundTripCounter.onAcks_lastSentPacket, RoundTripCounter.onAcks_endOfRoundTrip,
        if_pos hended]

theorem CountsRounds.call (hs : s.HasDefaults) (h : CountsRounds s history)
    (hstay : (s.call c).mode = .startup)
    (hincreasing : ∀ n ∈ c.sentNumbers, ∀ m ∈ sentIn history, m < n)
    (hacked : ∀ n ∈ c.ackedNumbers, n ∈ sentIn history) :
    CountsRounds (s.call c) (history ++ [(s, c)]) := by
  obtain ⟨hchecked, hcounter⟩ := call_checked hs c hstay
  have hcovers := h.call_covers hincreasing
  generalize s.call c = s' at *
  refine ⟨hcounter ▸ hcovers, ?_⟩
  rw [hcounter]
  cases hchecked with
  | grown hrounds => exact .inl hrounds
  | stalled hstalls hbaseline hrounds =>
      refine .inr ⟨history, (s, c), [], rfl, ?_, List.forall_mem_nil _, ?_⟩
      · rw [hbaseline, hrounds]
        exact h.streak_of_stalls hstalls hacked
      · rw [endOfRoundTrip_of_stalls hstalls]
        exact hcovers
  | unchecked hbaseline hrounds =>
      rw [hbaseline, hrounds]
      rcases h.streak with hnone | ⟨early, x, late, rfl, hstreak, hkept, hstop⟩
      · exact .inl hnone
      · refine .inr ⟨early, x, late ++ [(s, c)], by simp, hstreak, ?_, ?_⟩
        · intro y hy
          rcases List.mem_append.mp hy with hy | hy
          · exact hkept y hy
          · rw [List.mem_singleton.mp hy]
        · have hsplit : early ++ x :: late ++ [(s, c)] = early ++ [x] ++ (late ++ [(s, c)]) := by
            simp
          rw [hsplit, sentIn_append] at hcovers
          exact endOfRoundTrip_covers hstop (hcovers.of_subset (List.subset_append_left _ _))

theorem run_countsRounds (hs : s.HasDefaults)
    (hstart : s.model.roundsWithoutBandwidthGrowth = 0) {calls : List Bbr2Call}
    (horder : SentInOrder calls) (hstay : (s.run calls).mode = .startup) :
    CountsRounds (s.run calls) (trace call s calls) := by
  induction calls using List.reverseRecOn with
  | nil => exact ⟨List.forall_mem_nil _, .inl hstart⟩
  | append_singleton calls c ih =>
      obtain ⟨hbefore, hincreasing, hacked⟩ := horder.concat
      have hdefaults : (s.run calls).HasDefaults :=
        @run_invariant s HasDefaults (fun _ c h => h.call c) hs calls
      rw [run_append] at hstay ⊢
      rw [trace_append]
      have hrun := ih hbefore (startup_of_call hdefaults c hstay)
      rw [← @sentIn_trace s calls] at hincreasing hacked
      exact hrun.call hdefaults hstay hincreasing hacked

theorem threeStalls_of_streak {b : QuicBandwidth} {n : Nat} {x₃ : Bbr2Sender × Bbr2Call}
    (h : Streak (StallsAt b) (RoundAt b) (n + 3) history x₃) :
    ∃ early x₁ late₁ x₂ late₂, history = early ++ x₁ :: late₁ ++ x₂ :: late₂ ∧
      (Stalls x₁ ∧ Stalls x₂ ∧ Stalls x₃) ∧
      (∀ y ∈ x₁ :: late₁ ++ x₂ :: late₂, y.1.model.fullBandwidthBaseline = b) ∧
      RoundBetween late₁ x₂ ∧ RoundBetween late₂ x₃ := by
  obtain ⟨early₂, x₂, late₂, rfl, h₂, hround₂⟩ := h.previous (by omega)
  obtain ⟨early₁, x₁, late₁, rfl, h₁, hround₁⟩ := h₂.previous (by omega)
  refine ⟨early₁, x₁, late₁, x₂, late₂, rfl, ⟨h₁.last.1, h₂.last.1, h.last.1⟩, ?_, hround₁.2,
    hround₂.2⟩
  intro y hy
  rcases List.mem_append.mp hy with hy | hy
  · rcases List.mem_cons.mp hy with rfl | hy
    · exact h₁.last.2
    · exact hround₁.1 y hy
  · rcases List.mem_cons.mp hy with rfl | hy
    · exact h₂.last.2
    · exact hround₂.1 y hy

/-- In every run with packets sent in order, full bandwidth that is not declared for losses is
declared at the third of three stalls in STARTUP. From the first of them on the baseline stays the
same, and between any two of them a packet is sent that is acked by the later one. -/
theorem fullBandwidth_of_threeRounds (now : Int) (rttStats : RttStats) (initialCwnd maxCwnd : Nat)
    (stream : Nat → Nat) (calls : List Bbr2Call) (c : Bbr2Call)
    (horder : SentInOrder (calls ++ [c]))
    (hbefore : ((create now rttStats initialCwnd maxCwnd stream).run
      calls).model.fullBandwidthReached = false)
    (hafter : ((create now rttStats initialCwnd maxCwnd stream).run
      (calls ++ [c])).model.fullBandwidthReached = true)
    (hloss : ¬ ExitsOnLoss ((create now rttStats initialCwnd maxCwnd stream).run calls, c)) :
    let s := create now rttStats initialCwnd maxCwnd stream
    let x₃ := (s.run calls, c)
    ∃ early x₁ late₁ x₂ late₂, trace call s calls = early ++ x₁ :: late₁ ++ x₂ :: late₂ ∧
      (Stalls x₁ ∧ Stalls x₂ ∧ Stalls x₃) ∧
      (∀ y ∈ x₁ :: late₁ ++ x₂ :: late₂, y.1.model.fullBandwidthBaseline =
        x₃.1.model.fullBandwidthBaseline) ∧
      RoundBetween late₁ x₂ ∧ RoundBetween late₂ x₃ := by
  intro s x₃
  have hs : s.HasDefaults := create_hasDefaults now rttStats initialCwnd maxCwnd stream
  have hrun : (s.run calls).RunsCoherent (s.runLog calls) :=
    run_coherent now rttStats initialCwnd maxCwnd stream calls
  have hmode : (s.run calls).mode = .startup := hrun.coherent.full.mpr hbefore
  obtain ⟨hsent, -, hacked⟩ := horder.concat
  have hcounts : CountsRounds (s.run calls) (trace call s calls) :=
    run_countsRounds hs rfl hsent hmode
  rw [run_append] at hafter
  obtain ⟨hstalls, hrounds⟩ := stalls_of_reached hrun.defaults hmode hbefore hafter hloss
  rw [← @sentIn_trace s calls] at hacked
  have hstreak := hcounts.streak_of_stalls hstalls hacked
  have hthree : (s.run calls).params.startupFullBwRounds = 3 := by
    obtain ⟨cwndLimits, hparams⟩ := hrun.defaults
    exact congrArg Bbr2Params.startupFullBwRounds hparams
  obtain ⟨n, hn⟩ : ∃ n, (s.run calls).model.roundsWithoutBandwidthGrowth + 1 = n + 3 :=
    ⟨(s.run calls).model.roundsWithoutBandwidthGrowth - 2, by omega⟩
  rw [hn] at hstreak
  exact threeStalls_of_streak hstreak

instance (x : Bbr2Sender × Bbr2Call) : Decidable (ExitsOnLoss x) :=
  match x with
  | (_, .packetSent _ _ _ _) => inferInstanceAs (Decidable False)
  | (_, .congestionEvent _ _ _ _ _) => inferInstanceAs (Decidable (_ ∧ _))

/-- A path on which every round trip has the same bandwidth. -/
theorem fullBandwidth_of_fiveRounds :
    let s := create 0 {} 32 2000 id
    let calls := roundTrips 4 1000 ++ [.packetSent 8001 0 5 1000]
    let c := .congestionEvent 5 1000 9001 [⟨5, 1000, 9001⟩] []
    let x₃ := (s.run calls, c)
    ∃ early x₁ late₁ x₂ late₂, trace call s calls = early ++ x₁ :: late₁ ++ x₂ :: late₂ ∧
      (Stalls x₁ ∧ Stalls x₂ ∧ Stalls x₃) ∧
      (∀ y ∈ x₁ :: late₁ ++ x₂ :: late₂, y.1.model.fullBandwidthBaseline =
        x₃.1.model.fullBandwidthBaseline) ∧
      RoundBetween late₁ x₂ ∧ RoundBetween late₂ x₃ :=
  fullBandwidth_of_threeRounds 0 {} 32 2000 id (roundTrips 4 1000 ++ [.packetSent 8001 0 5 1000])
    (.congestionEvent 5 1000 9001 [⟨5, 1000, 9001⟩] []) ⟨by decide +kernel, by decide +kernel⟩
    (by decide +kernel) (by decide +kernel) (by decide +kernel)

end Bbr2Sender

end BbrChrome
