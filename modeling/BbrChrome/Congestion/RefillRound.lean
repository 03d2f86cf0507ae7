import BbrChrome.Congestion.FullBandwidth

/-!
# The round of PROBE_REFILL

PROBE_REFILL restarts the round when it is entered, so that the round at whose end PROBE_UP follows
is one of packets that were sent in PROBE_REFILL.
-/

namespace BbrChrome

open History

namespace Bbr2Sender

variable {s s' s'' : Bbr2Sender} {event : Bbr2CongestionEvent} {ended : Bool}

def roundState (s : Bbr2Sender) : RoundTripCounter × CyclePhase :=
  (s.model.roundTripCounter, s.probeBw.cycle.phase)

/-- The way into PROBE_REFILL restarts the round, and PROBE_UP starts at the end of one. -/
structure RoundMove (ended : Bool) (s s' : Bbr2Sender) : Prop where
  counter : s'.model.roundTripCounter = s.model.roundTripCounter.restartRound ∨
    s'.model.roundTripCounter = s.model.roundTripCounter ∧
      (s'.probeBw.cycle.phase = .probeRefill → s.probeBw.cycle.phase = .probeRefill)
  up : s'.probeBw.cycle.phase = .probeUp → s.probeBw.cycle.phase = .probeUp ∨ ended = true

theorem RoundMove.trans (h : RoundMove ended s s') (h' : RoundMove ended s' s'') :
    RoundMove ended s s'' where
  counter := by
    rcases h'.counter with hrestart | ⟨hsame, hphase⟩
    · rcases h.counter with hfirst | ⟨hfirst, _⟩
      · rw [hrestart, hfirst]
        exact .inl rfl
      · rw [hrestart, hfirst]
        exact .inl rfl
    · rw [hsame]
      exact h.counter.imp_right fun ⟨hfirst, hbefore⟩ => ⟨hfirst, hbefore ∘ hphase⟩
  up hup := by
    rcases h'.up hup with hbefore | hend
    · exact h.up hbefore
    · exact .inr hend

theorem roundMove_of_same (h : s'.roundState = s.roundState) : RoundMove ended s s' := by
  obtain ⟨hcounter, hphase⟩ := Prod.mk.inj h
  exact ⟨.inr ⟨hcounter, fun hrefill => hphase.symm.trans hrefill⟩,
    fun hup => .inl (hphase.symm.trans hup)⟩

theorem roundMove_of_changes {o : Overlay Bbr2Sender} (h : o.Changes s s')
    (hkept : (fun s t => (o.put s t).roundState) = fun s _ => s.roundState) :
    RoundMove ended s s' := roundMove_of_same (h.keeps roundState hkept)

theorem roundMove_refl : RoundMove ended s s := roundMove_of_same rfl

/-! ## The phases -/

theorem roundMove_enterProbeDown (probedTooHigh stoppedRiskyProbe : Bool) (now : Int) :
    RoundMove ended s (s.enterProbeDown probedTooHigh stoppedRiskyProbe now) := by
  obtain ⟨bandwidthLo, hmodel⟩ := s.enterProbeDown_model probedTooHigh stoppedRiskyProbe now
  exact ⟨.inl (congrArg Bbr2NetworkModel.roundTripCounter hmodel), fun hup => nomatch hup⟩

theorem roundMove_enterProbeCruise (now : Int) : RoundMove ended s (s.enterProbeCruise now) := by
  have hcapped := (@capSender_changes s.leaveProbeDown
    s.leaveProbeDown.model.inflightHi).keeps (·.model.roundTripCounter) rfl
  have hcounter : (s.enterProbeCruise now).model.roundTripCounter = s.model.roundTripCounter :=
    hcapped.trans (leaveProbeDown_changes.keeps (·.model.roundTripCounter) rfl)
  exact ⟨.inr ⟨hcounter, fun hrefill => nomatch hrefill⟩, fun hup => nomatch hup⟩

theorem roundMove_enterProbeRefill (probeUpRounds : Nat) (now : Int) :
    RoundMove ended s (s.enterProbeRefill probeUpRounds now) := by
  have hleft : s.leaveProbeDown.model.roundTripCounter = s.model.roundTripCounter :=
    leaveProbeDown_changes.keeps (·.model.roundTripCounter) rfl
  have hcounter : (s.enterProbeRefill probeUpRounds now).model.roundTripCounter =
      s.model.roundTripCounter.restartRound := congrArg RoundTripCounter.restartRound hleft
  exact ⟨.inl hcounter, fun hup => nomatch hup⟩

theorem roundMove_askToProbe : RoundMove ended s
    ((s.maybeAdaptUpperBounds event).1.isTimeToProbeBandwidth event).1 :=
  roundMove_of_same ((isTimeToProbeBandwidth_changes.keeps roundState rfl).trans
    (maybeAdaptUpperBounds_changes.keeps roundState rfl))

theorem roundMove_continueProbeDown : RoundMove ended s (s.continueProbeDown event) := by
  have hprobe := @roundMove_askToProbe s event ended
  unfold continueProbeDown
  dsimp only
  repeat' split
  · exact hprobe.trans (roundMove_enterProbeRefill _ _)
  · exact hprobe.trans (roundMove_enterProbeCruise _)
  · exact hprobe
  · exact hprobe.trans (roundMove_enterProbeCruise _)
  · exact hprobe

theorem roundMove_updateProbeDown : RoundMove ended s (s.updateProbeDown event) := by
  have hfirst : RoundMove ended s (s.endFirstRoundOfProbeDown event) :=
    roundMove_of_same (endFirstRoundOfProbeDown_changes.keeps roundState rfl)
  unfold updateProbeDown
  dsimp only
  repeat' split
  · exact hfirst.trans (roundMove_enterProbeRefill _ _)
  · exact hfirst.trans roundMove_continueProbeDown
  · exact roundMove_continueProbeDown

theorem roundMove_updateProbeCruise : RoundMove ended s (s.updateProbeCruise event) := by
  have hprobe := @roundMove_askToProbe s event ended
  unfold updateProbeCruise
  dsimp only
  split
  · exact hprobe.trans (roundMove_enterProbeRefill _ _)
  · exact hprobe

theorem roundMove_updateProbeRefill :
    RoundMove event.endOfRoundTrip s (s.updateProbeRefill event) := by
  have hadapt : RoundMove event.endOfRoundTrip s (s.maybeAdaptUpperBounds event).1 :=
    roundMove_of_changes maybeAdaptUpperBounds_changes rfl
  unfold updateProbeRefill
  dsimp only
  split
  · next hround => exact hadapt.trans ⟨.inl rfl, fun _ => .inr hround.2⟩
  · exact hadapt

theorem roundMove_updateProbeUp (priorInFlight : Nat) :
    RoundMove ended s (s.updateProbeUp priorInFlight event) := by
  have hadapt : RoundMove ended s (s.maybeAdaptUpperBounds event).1 :=
    roundMove_of_changes maybeAdaptUpperBounds_changes rfl
  have hprobe : RoundMove ended s
      ((s.maybeAdaptUpperBounds event).1.probeInflightHighUpward event) :=
    hadapt.trans (roundMove_of_changes probeInflightHighUpward_changes rfl)
  unfold updateProbeUp
  dsimp only
  repeat' split
  · exact hadapt.trans (roundMove_enterProbeDown _ _ _)
  · exact hprobe.trans (roundMove_enterProbeDown _ _ _)
  · exact hprobe

theorem roundMove_updatePhase (priorInFlight : Nat) :
    RoundMove event.endOfRoundTrip s (s.updatePhase priorInFlight event).1 := by
  unfold updatePhase
  split
  · exact roundMove_updateProbeUp _
  · dsimp only
    split
    · exact roundMove_updateProbeDown.trans (roundMove_of_changes expireMinRtt_changes rfl)
    · exact roundMove_updateProbeDown
  · exact roundMove_updateProbeCruise
  · exact roundMove_updateProbeRefill
  · exact roundMove_refl

/-! ## The modes -/

theorem roundMove_probeBwOnCongestionEvent (priorInFlight : Nat) (eventTime : Int) :
    RoundMove event.endOfRoundTrip s
      (s.probeBwOnCongestionEvent priorInFlight eventTime event).1 := by
  have hcount : RoundMove event.endOfRoundTrip s
      (if event.endOfRoundTrip then s.countRound eventTime else s) := by
    split
    · exact roundMove_of_same rfl
    · exact roundMove_refl
  have hgains : ∀ s : Bbr2Sender, ∀ pacingGain cwndGain,
      ({ s with model := s.model.setGains pacingGain cwndGain } : Bbr2Sender).roundState =
        s.roundState := fun _ _ _ => rfl
  unfold probeBwOnCongestionEvent
  dsimp only
  generalize (if event.endOfRoundTrip then s.countRound eventTime else s) = counted at *
  split
  · exact hcount.trans (roundMove_updatePhase _)
  · exact (hcount.trans (roundMove_updatePhase _)).trans (roundMove_of_same (hgains _ _ _))

theorem roundMove_modeOnCongestionEvent (priorInFlight : Nat) (eventTime : Int) :
    RoundMove event.endOfRoundTrip s
      (s.modeOnCongestionEvent priorInFlight eventTime event).1 := by
  unfold modeOnCongestionEvent
  split
  · exact roundMove_of_changes startupOnCongestionEvent_changes rfl
  · exact roundMove_probeBwOnCongestionEvent _ _
  · exact roundMove_of_same rfl
  · exact roundMove_of_changes probeRttOnCongestionEvent_changes rfl

theorem roundMove_probeBwEnter (now : Int) : RoundMove ended s (s.probeBwEnter now) := by
  have hcycle : RoundMove ended s
      (s.setCycle { s.probeBw.cycle with cycleStartTime := now }) := roundMove_of_same rfl
  unfold probeBwEnter
  split
  · exact roundMove_enterProbeDown _ _ _
  · dsimp only
    split
    · exact hcycle.trans (roundMove_enterProbeCruise _)
    · split
      · exact hcycle.trans (roundMove_enterProbeRefill _ _)
      · exact hcycle

theorem roundMove_enterMode (now : Int) : RoundMove ended s (s.enterMode now) := by
  unfold enterMode
  split
  · exact roundMove_probeBwEnter _
  · exact roundMove_of_same rfl
  · exact roundMove_refl

theorem roundMove_changeMode (nextMode : Bbr2Mode) (now : Int) :
    RoundMove ended s (s.changeMode nextMode now) := by
  have hswitch : RoundMove ended s { s.leaveMode now with mode := nextMode } :=
    roundMove_of_same ((leaveMode_changes now).keeps roundState rfl)
  exact hswitch.trans (roundMove_enterMode now)

theorem roundMove_runModes (priorInFlight : Nat) (eventTime : Int) (changes : Nat) :
    RoundMove event.endOfRoundTrip s (runModes priorInFlight eventTime event changes s) := by
  induction changes generalizing s with
  | zero => exact roundMove_refl
  | succ changes ih =>
      have hmode := @roundMove_modeOnCongestionEvent s event priorInFlight eventTime
      unfold runModes
      dsimp only
      split
      · exact hmode
      · exact (hmode.trans (roundMove_changeMode _ _)).trans ih

/-! ## A call -/

theorem roundMove_onExitQuiescence (now : Int) : RoundMove false s (s.onExitQuiescence now) := by
  have hmode : ∀ start, RoundMove false s (s.modeOnExitQuiescence now start).1 :=
    fun start => roundMove_of_changes (modeOnExitQuiescence_changes now start) rfl
  have hend : ∀ s : Bbr2Sender,
      RoundMove false s ({ s with lastQuiescenceStart := 0 } : Bbr2Sender) :=
    fun _ => roundMove_of_same rfl
  unfold onExitQuiescence
  split
  · dsimp only
    split
    · exact ((hmode _).trans (roundMove_changeMode _ _)).trans (hend _)
    · exact (hmode _).trans (hend _)
  · exact roundMove_refl

structure RoundCall (s s' : Bbr2Sender) (c : Bbr2Call) : Prop where
  last : s'.model.roundTripCounter.lastSentPacket =
    (s.model.roundTripCounter.onCall c).lastSentPacket
  refill : s'.probeBw.cycle.phase = .probeRefill →
    s'.model.roundTripCounter.endOfRoundTrip = s.model.roundTripCounter.lastSentPacket ∨
      s.probeBw.cycle.phase = .probeRefill ∧
        s'.model.roundTripCounter.endOfRoundTrip =
          (s.model.roundTripCounter.onCall c).endOfRoundTrip
  up : s'.probeBw.cycle.phase = .probeUp → s.probeBw.cycle.phase = .probeUp ∨
    ∃ leastUnacked priorInFlight eventTime ackedPackets lostPackets,
      c = .congestionEvent leastUnacked priorInFlight eventTime ackedPackets lostPackets ∧
        (s.model.roundTripCounter.onAcks ackedPackets).2 = true

theorem onPacketSent_round (sentTime : Int) (bytesInFlight packetNumber bytes : Nat) :
    RoundCall s (s.onPacketSent sentTime bytesInFlight packetNumber bytes)
      (.packetSent sentTime bytesInFlight packetNumber bytes) := by
  have hcounted : RoundMove false s (s.countPacketSent bytes) :=
    roundMove_of_changes (countPacketSent_changes bytes) rfl
  have hmove : RoundMove false s (s.beforePacketSent sentTime bytesInFlight bytes) := by
    unfold beforePacketSent
    split
    · exact hcounted.trans (roundMove_onExitQuiescence _)
    · exact hcounted
  rw [onPacketSent_eq]
  generalize s.beforePacketSent sentTime bytesInFlight bytes = t at *
  refine ⟨rfl, fun hrefill => ?_, fun hup => ?_⟩
  · rcases hmove.counter with hrestart | ⟨hsame, hphase⟩
    · exact .inl (congrArg RoundTripCounter.endOfRoundTrip hrestart)
    · have hstop : t.model.roundTripCounter.endOfRoundTrip =
          s.model.roundTripCounter.endOfRoundTrip := congrArg RoundTripCounter.endOfRoundTrip hsame
      exact .inr ⟨hphase hrefill, hstop⟩
  · exact .inl ((hmove.up hup).resolve_right Bool.false_ne_true)

theorem onCongestionEvent_round (hs : s.HasDefaults) (leastUnacked priorInFlight : Nat)
    (eventTime : Int) (ackedPackets : List AckedPacket) (lostPackets : List LostPacket) :
    RoundCall s (s.onCongestionEvent leastUnacked priorInFlight eventTime ackedPackets lostPackets)
      (.congestionEvent leastUnacked priorInFlight eventTime ackedPackets lostPackets) := by
  have hended := s.congestionEvent_endOfRoundTrip priorInFlight eventTime ackedPackets lostPackets
  have hcounter := (@sameGrowth_sampled s priorInFlight eventTime ackedPackets lostPackets).2
  have hphase : (s.sampled priorInFlight eventTime ackedPackets lostPackets).probeBw.cycle.phase =
      s.probeBw.cycle.phase :=
    (s.sampled_move hs.bwLoMode priorInFlight eventTime ackedPackets lostPackets).phase_eq
  rw [onCongestionEvent_eq]
  generalize s.congestionEvent priorInFlight eventTime ackedPackets lostPackets = event at hended ⊢
  generalize s.sampled priorInFlight eventTime ackedPackets lostPackets = started at *
  have hmove := @roundMove_runModes started event priorInFlight eventTime
    (kMaxModeChangesPerCongestionEvent + 1)
  generalize runModes priorInFlight eventTime event (kMaxModeChangesPerCongestionEvent + 1)
    started = reacted at hmove ⊢
  obtain ⟨hfinish, hfinishPhase⟩ := Prod.mk.inj
    ((@finishCongestionEvent_changes reacted event leastUnacked).keeps roundState rfl)
  generalize reacted.finishCongestionEvent leastUnacked event = s' at hfinish hfinishPhase ⊢
  have hlast := @RoundTripCounter.onAcks_lastSentPacket s.model.roundTripCounter ackedPackets
  refine ⟨?_, fun hrefill => ?_, fun hup => ?_⟩
  · rw [hfinish]
    rcases hmove.counter with hrestart | ⟨hsame, _⟩
    · rw [hrestart, hcounter]
      rfl
    · rw [hsame, hcounter]
      rfl
  · rw [hfinish]
    rw [hfinishPhase] at hrefill
    rcases hmove.counter with hrestart | ⟨hsame, hbefore⟩
    · rw [hrestart, hcounter]
      exact .inl hlast
    · rw [hsame, hcounter, ← hphase]
      exact .inr ⟨hbefore hrefill, rfl⟩
  · rw [hfinishPhase] at hup
    rcases hmove.up hup with hbefore | hend
    · exact .inl (hphase ▸ hbefore)
    · exact .inr ⟨_, _, _, _, _, rfl, hended ▸ hend⟩

theorem call_round (hs : s.HasDefaults) (c : Bbr2Call) : RoundCall s (s.call c) c := by
  cases c with
  | packetSent => exact onPacketSent_round _ _ _ _
  | congestionEvent => exact onCongestionEvent_round hs _ _ _ _ _

/-! ## Runs -/

variable {history : List (Bbr2Sender × Bbr2Call)} {c : Bbr2Call}

/-- PROBE_REFILL has lasted since `x`, and the running round ends behind what was sent before. -/
structure RefillSince (s : Bbr2Sender) (history early late : List (Bbr2Sender × Bbr2Call))
    (x : Bbr2Sender × Bbr2Call) : Prop where
  split : history = early ++ x :: late
  entered : x.1.probeBw.cycle.phase ≠ .probeRefill
  stayed : ∀ y ∈ x :: late, (y.1.call y.2).probeBw.cycle.phase = .probeRefill
  covers : s.model.roundTripCounter.endOfRoundTrip.Covers (sentIn early)

structure RefillKnown (s : Bbr2Sender) (history : List (Bbr2Sender × Bbr2Call)) : Prop where
  defaults : s.HasDefaults
  last : s.model.roundTripCounter.lastSentPacket.Covers (sentIn history)
  refill : s.probeBw.cycle.phase = .probeRefill → ∃ early x late, RefillSince s history early late x

theorem lastSentPacket_covers {counter : RoundTripCounter}
    (h : counter.lastSentPacket.Covers (sentIn history))
    (hincreasing : ∀ n ∈ c.sentNumbers, ∀ m ∈ sentIn history, m < n) :
    (counter.onCall c).lastSentPacket.Covers (sentIn (history ++ [(s, c)])) := by
  intro n hn
  rw [sentIn_append, List.mem_append] at hn
  cases c with
  | packetSent sentTime bytesInFlight packetNumber bytes =>
      refine ⟨packetNumber, rfl, ?_⟩
      rcases hn with hbefore | hnew
      · exact (hincreasing packetNumber List.mem_cons_self n hbefore).le
      · exact (List.mem_singleton.mp hnew).le
  | congestionEvent leastUnacked priorInFlight eventTime ackedPackets lostPackets =>
      obtain ⟨last, hlast, hle⟩ := h n (hn.resolve_right List.not_mem_nil)
      exact ⟨last, RoundTripCounter.onAcks_lastSentPacket.trans hlast, hle⟩

theorem RefillKnown.call (h : s.RefillKnown history) (c : Bbr2Call)
    (hincreasing : ∀ n ∈ c.sentNumbers, ∀ m ∈ sentIn history, m < n) :
    (s.call c).RefillKnown (history ++ [(s, c)]) := by
  have hround := call_round h.defaults c
  have hcovers := lastSentPacket_covers (s := s) h.last hincreasing
  refine ⟨h.defaults.call c, hround.last ▸ hcovers, fun hrefill => ?_⟩
  by_cases hbefore : s.probeBw.cycle.phase = .probeRefill
  · obtain ⟨early, x, late, rfl, hentered, hstayed, hstop⟩ := h.refill hbefore
    refine ⟨early, x, late ++ [(s, c)], by simp, hentered, ?_, ?_⟩
    · intro y hmem
      rw [← List.cons_append, List.mem_append, List.mem_singleton] at hmem
      rcases hmem with hmem | rfl
      · exact hstayed y hmem
      · exact hrefill
    · have hearly : ∀ {p : QuicPacketNumber}, p.Covers (sentIn (early ++ x :: late)) →
          p.Covers (sentIn early) := by
        intro p hp
        rw [sentIn_append] at hp
        exact hp.of_subset (List.subset_append_left _ _)
      rcases hround.refill hrefill with hrestart | ⟨_, hsame⟩
      · rw [hrestart]
        exact hearly h.last
      · rw [hsame]
        rw [sentIn_append] at hcovers
        exact endOfRoundTrip_covers hstop
          (hearly (hcovers.of_subset (List.subset_append_left _ _)))
  · have hrestart := (hround.refill hrefill).resolve_right fun hsame => hbefore hsame.1
    refine ⟨history, (s, c), [], rfl, hbefore, ?_, ?_⟩
    · intro y hmem
      rw [List.mem_singleton.mp hmem]
      exact hrefill
    · rw [hrestart]
      exact h.last

theorem run_refillKnown (now : Int) (rttStats : RttStats) (initialCwnd maxCwnd : Nat)
    (stream : Nat → Nat) {calls : List Bbr2Call} (horder : SentInOrder calls) :
    let s := create now rttStats initialCwnd maxCwnd stream
    (s.run calls).RefillKnown (trace call s calls) := by
  intro s
  induction calls using List.reverseRecOn with
  | nil =>
      exact ⟨create_hasDefaults now rttStats initialCwnd maxCwnd stream, List.forall_mem_nil _,
        fun hrefill => nomatch hrefill⟩
  | append_singleton calls c ih =>
      obtain ⟨hbefore, hincreasing, _⟩ := horder.concat
      rw [← @sentIn_trace s calls] at hincreasing
      rw [run_append, trace_append]
      exact (ih hbefore).call c hincreasing

/-- In every run with packets sent in increasing order and acked behind their sending, the event
that leads from PROBE_REFILL to PROBE_UP acks a packet that was not sent before PROBE_REFILL was
entered. -/
theorem probeUp_after_refill (now : Int) (rttStats : RttStats) (initialCwnd maxCwnd : Nat)
    (stream : Nat → Nat) (calls : List Bbr2Call) (c : Bbr2Call)
    (horder : SentInOrder (calls ++ [c])) {s : Bbr2Sender}
    (hs : s = (create now rttStats initialCwnd maxCwnd stream).run calls)
    (hbefore : s.probeBw.cycle.phase = .probeRefill)
    (hafter : (s.call c).probeBw.cycle.phase = .probeUp) :
    ∃ early x late,
      trace call (create now rttStats initialCwnd maxCwnd stream) calls = early ++ x :: late ∧
      x.1.probeBw.cycle.phase ≠ .probeRefill ∧
      (∀ y ∈ x :: late, (y.1.call y.2).probeBw.cycle.phase = .probeRefill) ∧
      ∃ n ∈ c.ackedNumbers, n ∉ sentIn early ∧ n ∈ sentIn (x :: late) := by
  obtain ⟨horder, _, hacked⟩ := horder.concat
  have hknown := run_refillKnown now rttStats initialCwnd maxCwnd stream horder
  rw [← @sentIn_trace (create now rttStats initialCwnd maxCwnd stream) calls] at hacked
  dsimp only at hknown
  rw [← hs] at hknown
  obtain ⟨early, x, late, hsplit, hentered, hstayed, hstop⟩ := hknown.refill hbefore
  have hround := (call_round hknown.defaults c).up hafter
  obtain ⟨_, _, _, ackedPackets, _, rfl, hended⟩ :=
    hround.resolve_left fun hup => nomatch hup.symm.trans hbefore
  obtain ⟨n, hmem, hnew⟩ := RoundTripCounter.exists_acked_of_ended hended hstop
  refine ⟨early, x, late, hsplit, hentered, hstayed, n, hmem, hnew, ?_⟩
  have hsent := hacked n hmem
  rw [hsplit, sentIn_append] at hsent
  exact (List.mem_append.mp hsent).resolve_left hnew

/-- The fifth round trip enters PROBE_REFILL and the sixth one leads on to PROBE_UP. -/
theorem probeUp_after_refill_of_sixRounds :
    let s := create 0 {} 32 2000 id
    let calls := roundTrips 5 1000 ++ [.packetSent 10001 0 6 1000]
    let c : Bbr2Call := .congestionEvent 6 1000 11001 [⟨6, 1000, 11001⟩] []
    ∃ early x late, trace call s calls = early ++ x :: late ∧
      x.1.probeBw.cycle.phase ≠ .probeRefill ∧
      (∀ y ∈ x :: late, (y.1.call y.2).probeBw.cycle.phase = .probeRefill) ∧
      ∃ n ∈ c.ackedNumbers, n ∉ sentIn early ∧ n ∈ sentIn (x :: late) :=
  probeUp_after_refill 0 {} 32 2000 id (roundTrips 5 1000 ++ [.packetSent 10001 0 6 1000])
    (.congestionEvent 6 1000 11001 [⟨6, 1000, 11001⟩] []) ⟨by decide +kernel, by decide +kernel⟩
    rfl (by decide +kernel) (by decide +kernel)

end Bbr2Sender

end BbrChrome
