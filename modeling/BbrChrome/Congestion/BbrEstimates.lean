import BbrChrome.Congestion.BbrProbeRtt
import BbrChrome.Congestion.WindowedExtremum

/-!
# What BBRv1 believes about the path

The bandwidth estimate and the minimum RTT are samples of the run, and nothing that came later was
better. The bandwidth is forgotten by rounds, the minimum RTT by the clock.
-/

namespace BbrChrome

namespace BbrSender

variable {s : BbrSender} {history : List Entry}

/-! ## The samples of a run -/

namespace Entry

/-- What the sampler answers to the event of the entry. -/
def sampling (e : Entry) : BandwidthSampler × CongestionEventSample :=
  match e.2 with
  | .packetSent .. => (e.1.sampler, {})
  | .congestionEvent _ _ _ eventTime ackedPackets lostPackets =>
      let begun := (e.1.beginAcks ackedPackets !lostPackets.isEmpty).1
      begun.sampler.onCongestionEvent eventTime ackedPackets lostPackets begun.maxBandwidth.getBest
        .infinite begun.roundTripCount

/-- The bandwidth that the event of the entry gives to the filter, with the round. -/
def bandwidthSample (e : Entry) : Option (FilterSample QuicBandwidth) :=
  match e.2 with
  | .packetSent .. => none
  | .congestionEvent _ _ _ _ ackedPackets lostPackets =>
      let begun := (e.1.beginAcks ackedPackets !lostPackets.isEmpty).1
      let (sampler, sample) := e.sampling
      if e.1.sampler.totalBytesAcked ≠ sampler.totalBytesAcked ∧
          (sample.sampleIsAppLimited = false ∨
            begun.maxBandwidth.getBest < sample.sampleMaxBandwidth) then
        some ⟨sample.sampleMaxBandwidth, begun.roundTripCount⟩
      else none

/-- The RTT that the event of the entry samples. -/
def rttSample (e : Entry) : Option Int :=
  match e.2 with
  | .packetSent .. => none
  | .congestionEvent .. =>
      if e.sampling.2.sampleRtt = Time.infinite then none else some e.sampling.2.sampleRtt

def recorded (e : Entry) : BbrSender :=
  match e.2 with
  | .packetSent .. => e.1
  | .congestionEvent _ _ _ eventTime ackedPackets lostPackets =>
      let begun := (e.1.beginAcks ackedPackets !lostPackets.isEmpty).1
      let (sampler, sample) := e.sampling
      ({ begun with sampler }.recordSample sample
        (e.1.sampler.totalBytesAcked != sampler.totalBytesAcked) eventTime lostPackets
        (subUint64 sampler.totalBytesLost e.1.sampler.totalBytesLost)).1

def EndsVisit (e : Entry) : Prop := e.1.mode = .probeRtt ∧ e.after.mode ≠ .probeRtt

end Entry

/-! ## One event -/

theorem beginAcks_measured (ackedPackets : List AckedPacket) (hasLosses : Bool) :
    ∃ rounds, s.roundTripCount ≤ rounds ∧
      (s.beginAcks ackedPackets hasLosses).1.measured =
        ({ s with roundTripCount := rounds } : BbrSender).measured := by
  unfold beginAcks
  split
  · exact ⟨_, le_refl _, rfl⟩
  · rw [(updateRecoveryState_changes _ _ _).keeps measured rfl]
    unfold updateRoundTripCounter
    split
    · exact ⟨_, Nat.le_succ _, rfl⟩
    · exact ⟨_, le_refl _, rfl⟩

/-- Behind the recording of its sample an event leaves the estimates alone, but for the stamp when
a visit to PROBE_RTT ends. -/
theorem call_recorded (h : s.control.Coherent) (c : BbrCall) :
    (s.call c).measured = (Entry.recorded (s, c)).measured ∧
      ((s.call c).minRttTimestamp = (Entry.recorded (s, c)).minRttTimestamp ∨
        Entry.EndsVisit (s, c) ∧ c.eventTime? = some (s.call c).minRttTimestamp) := by
  cases c with
  | packetSent => exact ⟨rfl, .inl rfl⟩
  | congestionEvent rttStats map priorInFlight eventTime ackedPackets lostPackets =>
      have hbegin := (@beginAcks_changes s ackedPackets !lostPackets.isEmpty).keeps control rfl
      unfold Entry.EndsVisit Entry.after Entry.recorded Entry.sampling call onCongestionEvent
        reactToSample
      dsimp only
      generalize s.beginAcks ackedPackets (!lostPackets.isEmpty) = begun at hbegin ⊢
      generalize begun.1.sampler.onCongestionEvent eventTime ackedPackets lostPackets
        begun.1.maxBandwidth.getBest .infinite begun.1.roundTripCount = sampling
      have hsample := recordSample_move (s := { begun.1 with sampler := sampling.1 }) sampling.2
        (s.sampler.totalBytesAcked != sampling.1.totalBytesAcked) eventTime lostPackets
        (subUint64 sampling.1.totalBytesLost s.sampler.totalBytesLost)
      generalize ({ begun.1 with sampler := sampling.1 } : BbrSender).recordSample sampling.2 _ _ _
        _ = recorded at hsample ⊢
      have hkept : ({ begun.1 with sampler := sampling.1 } : BbrSender).control = s.control :=
        hbegin
      rw [hkept] at hsample
      have hdrained : recorded.1.drainToTarget = false :=
        (congrArg (fun settings => settings.2.2.2.2.2) hsample.settings).trans h.drainToTarget
      obtain ⟨cycled, flagged, exited, hcycle, hflag, hexit, hrtt⟩ :=
        updateMode_moves hdrained rttStats map.bytesInFlight priorInFlight eventTime
          (!lostPackets.isEmpty) begun.2 recorded.2 sampling.2.lastPacketSendState
      have hbase := (@updateMode_changes recorded.1 rttStats map.bytesInFlight priorInFlight
        eventTime (!lostPackets.isEmpty) begun.2 recorded.2
        sampling.2.lastPacketSendState).keeps measured rfl
      generalize recorded.1.updateMode rttStats map.bytesInFlight priorInFlight eventTime _ _ _ _ =
        moved at hrtt hbase ⊢
      have houtputs := @writeOutputs_changes moved rttStats map.bytesInFlight
        (subUint64 sampling.1.totalBytesAcked s.sampler.totalBytesAcked)
        (subUint64 sampling.1.totalBytesLost s.sampler.totalBytesLost) sampling.2.extraAcked
        map.leastUnacked begun.2
      have hcontrol := houtputs.keeps control rfl
      refine ⟨(houtputs.keeps measured rfl).trans hbase, ?_⟩
      unfold writeOutputs at hcontrol
      obtain ⟨hcycleVisit, hcycleStamp⟩ := hcycle.visit
      obtain ⟨hflagVisit, hflagStamp⟩ := hflag.visit
      obtain ⟨hexitVisit, hexitStamp⟩ := hexit.visit
      have hstamp : exited.minRttTimestamp = recorded.1.minRttTimestamp :=
        hexitStamp.trans (hflagStamp.trans hcycleStamp)
      have hvisit : exited.visit = s.control.visit :=
        hexitVisit.trans (hflagVisit.trans (hcycleVisit.trans hsample.visit))
      generalize (((moved.calculatePacingRate rttStats _).calculateCongestionWindow rttStats _
        _).calculateRecoveryWindow map.bytesInFlight _ _).endCongestionEvent map.leastUnacked
          begun.2 = s' at hcontrol ⊢
      rw [← hcontrol] at hrtt
      rcases hrtt.renews with hkept | ⟨hbefore, hother, hnow⟩
      · exact .inl (hkept.trans hstamp)
      · exact .inr ⟨⟨(BbrControl.mode_of_visit hvisit).mp hbefore, hother⟩,
          congrArg some hnow.symm⟩

theorem recordSample_filter (sample : CongestionEventSample) (anyAcked : Bool) (eventTime : Int)
    (lostPackets : List LostPacket) (bytesLost : Nat) :
    (s.recordSample sample anyAcked eventTime lostPackets bytesLost).1.maxBandwidth =
        (if anyAcked && (!sample.sampleIsAppLimited ||
            s.maxBandwidth.getBest < sample.sampleMaxBandwidth) then
          s.maxBandwidth.update maxFilter sample.sampleMaxBandwidth s.roundTripCount
        else s.maxBandwidth) ∧
      (s.recordSample sample anyAcked eventTime lostPackets bytesLost).1.roundTripCount =
        s.roundTripCount := by
  have hstate := @recordSendState_changes s sample.lastPacketSendState
  have hfilter : ((s.recordSendState sample.lastPacketSendState).updateMaxBandwidth sample
        anyAcked).maxBandwidth =
      if anyAcked && (!sample.sampleIsAppLimited ||
          s.maxBandwidth.getBest < sample.sampleMaxBandwidth) then
        s.maxBandwidth.update maxFilter sample.sampleMaxBandwidth s.roundTripCount
      else s.maxBandwidth := by
    unfold updateMaxBandwidth
    rw [hstate.keeps maxBandwidth rfl, hstate.keeps roundTripCount rfl]
    split
    · rfl
    · exact hstate.keeps maxBandwidth rfl
  refine ⟨?_, (recordSample_changes _ _ _ _ _).keeps roundTripCount rfl⟩
  unfold recordSample
  dsimp only
  split
  · exact hfilter
  · exact ((maybeUpdateMinRtt_changes _ _).keeps maxBandwidth rfl).trans hfilter

theorem recorded_maxBandwidth (e : Entry) :
    e.recorded.maxBandwidth =
        (e.bandwidthSample.elim e.1.maxBandwidth fun new =>
          e.1.maxBandwidth.update maxFilter new.sample new.time) ∧
      e.1.roundTripCount ≤ e.recorded.roundTripCount ∧
      ∀ new, e.bandwidthSample = some new → new.time = e.recorded.roundTripCount := by
  obtain ⟨s, c⟩ := e
  cases c with
  | packetSent => exact ⟨rfl, le_refl _, fun _ h => nomatch h⟩
  | congestionEvent rttStats map priorInFlight eventTime ackedPackets lostPackets =>
      obtain ⟨rounds, hle, hbegun⟩ := beginAcks_measured (s := s) ackedPackets
        !lostPackets.isEmpty
      unfold Entry.bandwidthSample Entry.recorded Entry.sampling
      dsimp only
      generalize s.beginAcks ackedPackets (!lostPackets.isEmpty) = begun at hbegun ⊢
      simp only [measured, Prod.mk.injEq] at hbegun
      generalize begun.1.sampler.onCongestionEvent eventTime ackedPackets lostPackets
        begun.1.maxBandwidth.getBest .infinite begun.1.roundTripCount = sampling
      obtain ⟨hfilter, hrounds⟩ := recordSample_filter (s := { begun.1 with sampler := sampling.1 })
        sampling.2 (s.sampler.totalBytesAcked != sampling.1.totalBytesAcked) eventTime lostPackets
        (subUint64 sampling.1.totalBytesLost s.sampler.totalBytesLost)
      rw [hfilter, hrounds]
      dsimp only
      have htaken : ((s.sampler.totalBytesAcked != sampling.1.totalBytesAcked) &&
          (!sampling.2.sampleIsAppLimited ||
            decide (begun.1.maxBandwidth.getBest < sampling.2.sampleMaxBandwidth))) = true ↔
          s.sampler.totalBytesAcked ≠ sampling.1.totalBytesAcked ∧
            (sampling.2.sampleIsAppLimited = false ∨
              begun.1.maxBandwidth.getBest < sampling.2.sampleMaxBandwidth) := by
        simp
      rw [if_congr htaken rfl rfl, hbegun.1]
      refine ⟨?_, hle.trans hbegun.2.2.1.ge, ?_⟩
      · split
        · rfl
        · rfl
      · intro new hnew
        split at hnew
        · cases hnew
          rfl
        · cases hnew

/-- A sample of the RTT replaces the minimum unless this is known, not expired and no larger. -/
inductive MinRttMove (now rtt : Int) (s s' : BbrSender) : Prop
  | take (hmin : s'.minRtt = rtt) (hstamp : s'.minRttTimestamp = now)
  | keep (hmin : s'.minRtt = s.minRtt) (hstamp : s'.minRttTimestamp = s.minRttTimestamp)
      (hknown : s.minRtt ≠ 0) (hle : s.minRtt ≤ rtt)
      (hfresh : now ≤ s.minRttTimestamp + kMinRttExpiry)

theorem maybeUpdateMinRtt_takes (now rtt : Int) :
    MinRttMove now rtt s (s.maybeUpdateMinRtt now rtt).1 := by
  unfold maybeUpdateMinRtt
  dsimp only
  split
  · exact .take rfl rfl
  · rename_i hkeep
    simp only [Bool.or_eq_true, decide_eq_true_eq, not_or, not_and, not_lt] at hkeep
    exact .keep rfl rfl hkeep.2 hkeep.1.2 (hkeep.1.1 hkeep.2)

theorem recordSample_minRtt (sample : CongestionEventSample) (anyAcked : Bool) (eventTime : Int)
    (lostPackets : List LostPacket) (bytesLost : Nat) :
    (sample.sampleRtt = Time.infinite →
        (s.recordSample sample anyAcked eventTime lostPackets bytesLost).1.minRtt = s.minRtt ∧
          (s.recordSample sample anyAcked eventTime lostPackets bytesLost).1.minRttTimestamp =
            s.minRttTimestamp) ∧
      (sample.sampleRtt ≠ Time.infinite → MinRttMove eventTime sample.sampleRtt s
        (s.recordSample sample anyAcked eventTime lostPackets bytesLost).1) := by
  have hfilter := @recordBandwidthSample_changes s sample anyAcked
  have hmin := hfilter.keeps minRtt rfl
  have hstamp := hfilter.keeps minRttTimestamp rfl
  unfold recordSample
  dsimp only
  split
  · rename_i hinfinite
    exact ⟨fun _ => ⟨hmin, hstamp⟩, fun hsampled => absurd hinfinite hsampled⟩
  · rename_i hsampled
    refine ⟨fun hinfinite => absurd hinfinite hsampled, fun _ => ?_⟩
    have hmove := maybeUpdateMinRtt_takes (s := (s.recordSendState
      sample.lastPacketSendState).updateMaxBandwidth sample anyAcked) eventTime sample.sampleRtt
    cases hmove with
    | take hmin' hstamp' => exact .take hmin' hstamp'
    | keep hmin' hstamp' hknown hle hfresh =>
        rw [hmin] at hmin' hknown hle
        rw [hstamp] at hstamp' hfresh
        exact .keep hmin' hstamp' hknown hle hfresh

theorem recorded_minRtt (e : Entry) :
    (e.rttSample = none → e.recorded.minRtt = e.1.minRtt ∧
        e.recorded.minRttTimestamp = e.1.minRttTimestamp) ∧
      ∀ rtt, e.rttSample = some rtt →
        ∃ now, e.2.eventTime? = some now ∧ MinRttMove now rtt e.1 e.recorded := by
  obtain ⟨s, c⟩ := e
  cases c with
  | packetSent => exact ⟨fun _ => ⟨rfl, rfl⟩, fun _ h => nomatch h⟩
  | congestionEvent rttStats map priorInFlight eventTime ackedPackets lostPackets =>
      have hbegin := (@beginAcks_changes s ackedPackets !lostPackets.isEmpty).keeps control rfl
      unfold Entry.rttSample Entry.recorded
      dsimp only
      generalize Entry.sampling _ = sampling
      generalize s.beginAcks ackedPackets (!lostPackets.isEmpty) = begun at hbegin ⊢
      have hmin : begun.1.minRtt = s.minRtt := congrArg BbrControl.minRtt hbegin
      have hstamp : begun.1.minRttTimestamp = s.minRttTimestamp :=
        congrArg BbrControl.minRttTimestamp hbegin
      obtain ⟨hnone, hsome⟩ := recordSample_minRtt (s := { begun.1 with sampler := sampling.1 })
        sampling.2 (s.sampler.totalBytesAcked != sampling.1.totalBytesAcked) eventTime lostPackets
        (subUint64 sampling.1.totalBytesLost s.sampler.totalBytesLost)
      split
      · rename_i hinfinite
        obtain ⟨hmin', hstamp'⟩ := hnone hinfinite
        exact ⟨fun _ => ⟨hmin'.trans hmin, hstamp'.trans hstamp⟩, fun _ => (nomatch ·)⟩
      · rename_i hsampled
        refine ⟨(nomatch ·), fun rtt hrtt => ⟨eventTime, rfl, ?_⟩⟩
        rw [← Option.some_inj.mp hrtt]
        cases hsome hsampled with
        | take hmin' hstamp' => exact .take hmin' hstamp'
        | keep hmin' hstamp' hknown hle hfresh =>
            rw [hmin] at hmin' hknown hle
            rw [hstamp] at hstamp' hfresh
            exact .keep hmin' hstamp' hknown hle hfresh

/-! ## The bandwidth -/

def bandwidthSamples (history : List Entry) : List (FilterSample QuicBandwidth) :=
  history.filterMap Entry.bandwidthSample

/-- The filter has taken in the samples on record, in the order of their rounds. -/
structure BandwidthKnown (s : BbrSender) (history : List Entry) : Prop where
  coherent : s.control.Coherent
  filter : s.maxBandwidth = (WindowedFilter.create kBandwidthWindowSize .zero 0).run maxFilter
    (bandwidthSamples history)
  sorted : ((bandwidthSamples history).map (·.time)).Pairwise (· ≤ ·)
  rounds : ∀ new ∈ bandwidthSamples history, new.time ≤ s.roundTripCount

theorem BandwidthKnown.call (h : s.BandwidthKnown history) (c : BbrCall) :
    (s.call c).BandwidthKnown (history ++ [(s, c)]) := by
  have hmeasured := (call_recorded h.coherent c).1
  simp only [measured, Prod.mk.injEq] at hmeasured
  obtain ⟨hmax, _, hrounds, _⟩ := hmeasured
  obtain ⟨hfilter, hle, htime⟩ := recorded_maxBandwidth (s, c)
  rw [← hrounds] at hle htime
  rw [← hmax] at hfilter
  have hcoherent := (Coherent.call h.coherent c).1
  cases hsample : Entry.bandwidthSample (s, c) with
  | none =>
      have hsame : bandwidthSamples (history ++ [(s, c)]) = bandwidthSamples history := by
        simp [bandwidthSamples, hsample]
      rw [hsample] at hfilter
      refine ⟨hcoherent, ?_, ?_, ?_⟩
      · rw [hsame, hfilter]
        exact h.filter
      · rw [hsame]
        exact h.sorted
      · rw [hsame]
        exact fun new hmem => (h.rounds new hmem).trans hle
  | some new =>
      have hgrown : bandwidthSamples (history ++ [(s, c)]) = bandwidthSamples history ++ [new] := by
        simp [bandwidthSamples, hsample]
      have hlast : new.time = (s.call c).roundTripCount := htime new hsample
      rw [hsample] at hfilter
      refine ⟨hcoherent, ?_, ?_, ?_⟩
      · rw [hgrown, hfilter]
        simp [WindowedFilter.run, h.filter]
      · rw [hgrown, List.map_append, List.pairwise_append]
        refine ⟨h.sorted, List.pairwise_singleton _ _, fun time hmem last hin => ?_⟩
        obtain ⟨old, hold, rfl⟩ := List.mem_map.mp hmem
        rw [List.mem_singleton.mp hin]
        exact (h.rounds old hold).trans (hle.trans hlast.ge)
      · rw [hgrown]
        intro x hmem
        rcases List.mem_append.mp hmem with hmem | hmem
        · exact (h.rounds x hmem).trans hle
        · rw [List.mem_singleton.mp hmem]
          exact hlast.le

/-- The bandwidth estimate is a sample that the filter was given, within `kBandwidthWindowSize`
rounds of the last one, and no sample behind it is larger. -/
theorem run_bandwidthEstimate (now : Int) (initialCwnd maxCwnd : Nat) (stream : Nat → Nat)
    (calls : List BbrCall) :
    let s := create now initialCwnd maxCwnd stream
    let samples := bandwidthSamples (History.trace call s calls)
    let estimate := (s.run calls).bandwidthEstimate
    (samples = [] → estimate = .zero) ∧
      ∀ pre new, samples = pre ++ [new] → ∃ before round after,
        samples = before ++ ⟨estimate, round⟩ :: after ∧
        (∀ x ∈ after, x.sample ≤ estimate) ∧ new.time ≤ round + kBandwidthWindowSize := by
  intro s samples estimate
  have hknown : (s.run calls).BandwidthKnown (History.trace call s calls) := by
    have hcreate : s.BandwidthKnown [] :=
      ⟨create_coherent now initialCwnd maxCwnd stream, rfl, .nil, fun _ hmem => nomatch hmem⟩
    have hstep : ∀ (s : BbrSender) (history : List Entry) (c : BbrCall),
        s.BandwidthKnown history → (s.call c).BandwidthKnown (history ++ [(s, c)]) :=
      fun _ _ c h => h.call c
    exact History.trace_invariant hstep hcreate calls
  have hfilter := hknown.filter
  constructor
  · intro hnone
    show (s.run calls).maxBandwidth.getBest = .zero
    rw [hfilter, show bandwidthSamples (History.trace call s calls) = [] from hnone]
    rfl
  · intro pre new hsamples
    have hsorted := hknown.sorted
    change (s.run calls).maxBandwidth = WindowedFilter.run maxFilter _ samples at hfilter
    change (samples.map (·.time)).Pairwise (· ≤ ·) at hsorted
    have hlength : (s.run calls).maxBandwidth.windowLength = kBandwidthWindowSize := by
      rw [hfilter]
      exact WindowedFilter.run_windowLength samples
    have hlaw : (s.run calls).maxBandwidth.ExtremumLaw maxFilter samples new.time := by
      rw [hfilter]
      rw [hsamples] at hsorted ⊢
      exact WindowedFilter.run_extremumLaw maxFilter_order pre rfl hsorted
    obtain ⟨before, after, hsplit, hafter⟩ := hlaw.best
    have hwindow := hlaw.window
    rw [hlength] at hwindow
    exact ⟨before, (s.run calls).maxBandwidth.best.time, after, hsplit,
      fun x hx => of_decide_eq_true (hafter x hx), by omega⟩

/-! ## The minimum RTT -/

namespace Entry

def Samples (rtt : Int) (e : Entry) : Prop := e.rttSample = some rtt

def SamplesBelow (rtt : Int) (e : Entry) : Prop :=
  ∃ sample, e.rttSample = some sample ∧ sample < rtt

end Entry

/-- What a call does to the minimum RTT and its stamp. -/
inductive MinRttStep (s s' : BbrSender) (c : BbrCall) : Prop
  | unsampled (hnone : Entry.rttSample (s, c) = none) (hmin : s'.minRtt = s.minRtt)
      (hstamp : s'.minRttTimestamp = s.minRttTimestamp ∨
        Entry.EndsVisit (s, c) ∧ c.eventTime? = some s'.minRttTimestamp)
  | take (hsample : Entry.Samples s'.minRtt (s, c))
      (hstamp : c.eventTime? = some s'.minRttTimestamp)
  | keep (rtt : Int) (hsample : Entry.Samples rtt (s, c)) (hmin : s'.minRtt = s.minRtt)
      (hknown : s.minRtt ≠ 0) (hle : s.minRtt ≤ rtt)
      (hstamp : s'.minRttTimestamp = s.minRttTimestamp ∧
          (∀ now, c.eventTime? = some now → now ≤ s.minRttTimestamp + kMinRttExpiry) ∨
        Entry.EndsVisit (s, c) ∧ c.eventTime? = some s'.minRttTimestamp)

theorem call_minRtt (h : s.control.Coherent) (c : BbrCall) : MinRttStep s (s.call c) c := by
  obtain ⟨hmeasured, hrenewed⟩ := call_recorded h c
  have hmin : (s.call c).minRtt = (Entry.recorded (s, c)).minRtt :=
    congrArg (fun measured => measured.2.1) hmeasured
  obtain ⟨hnone, hsome⟩ := recorded_minRtt (s, c)
  cases hsample : Entry.rttSample (s, c) with
  | none =>
      obtain ⟨hmin', hstamp'⟩ := hnone hsample
      rw [hmin'] at hmin
      rw [hstamp'] at hrenewed
      exact .unsampled hsample hmin hrenewed
  | some rtt =>
      obtain ⟨now, hnow, hmove⟩ := hsome rtt hsample
      cases hmove with
      | take hmin' hstamp' =>
          rw [hmin'] at hmin
          refine .take (hsample.trans (congrArg some hmin.symm)) ?_
          rcases hrenewed with hkept | ⟨_, hrenewed⟩
          · rw [hkept, hstamp']
            exact hnow
          · exact hrenewed
      | keep hmin' hstamp' hknown hle hfresh =>
          refine .keep rtt hsample (hmin.trans hmin') hknown hle (hrenewed.imp_left fun hkept => ?_)
          refine ⟨hkept.trans hstamp', fun time htime => ?_⟩
          rw [← Option.some_inj.mp (hnow.symm.trans htime)]
          exact hfresh

def eventTimes (history : List Entry) : List Int := history.filterMap fun e => e.2.eventTime?

/-- The minimum RTT is a sample on record, and no sample behind it is smaller. The stamp is the time
of an event that took the minimum or ended a visit to PROBE_RTT. -/
structure MinRttHeld (s : BbrSender) (history : List Entry) : Prop where
  since : History.SinceLast (Entry.Samples s.minRtt) (Entry.SamplesBelow s.minRtt) history
  stamp : ∃ e ∈ history, e.2.eventTime? = some s.minRttTimestamp ∧
    (e.Samples s.minRtt ∨ e.EndsVisit)

structure MinRttKnown (s : BbrSender) (history : List Entry) : Prop where
  coherent : s.control.Coherent
  held : (∀ e ∈ history, e.rttSample = none) ∧ s.minRtt = 0 ∨ s.MinRttHeld history
  fresh : (eventTimes history).Pairwise (· ≤ ·) → ∀ e ∈ history, e.rttSample ≠ none →
    ∀ now, e.2.eventTime? = some now → now ≤ s.minRttTimestamp + kMinRttExpiry

theorem MinRttHeld.concat {s' : BbrSender} {d : Entry} (h : s.MinRttHeld history)
    (hmin : s'.minRtt = s.minRtt) (hlarger : ¬ d.SamplesBelow s.minRtt)
    (hstamp : s'.minRttTimestamp = s.minRttTimestamp ∨
      d.EndsVisit ∧ d.2.eventTime? = some s'.minRttTimestamp) : s'.MinRttHeld (history ++ [d]) := by
  refine ⟨?_, ?_⟩
  · rw [hmin]
    exact History.sinceLast_concat.mpr (.inr ⟨h.since, hlarger⟩)
  · rw [hmin]
    rcases hstamp with hkept | ⟨hends, htime⟩
    · obtain ⟨e, hmem, htime, hwhy⟩ := h.stamp
      exact ⟨e, List.mem_append_left _ hmem, htime.trans (congrArg some hkept.symm), hwhy⟩
    · exact ⟨d, List.mem_append_right _ List.mem_cons_self, htime, .inr hends⟩

theorem MinRttHeld.call (h : s.MinRttKnown history) (c : BbrCall) :
    (∀ e ∈ history ++ [(s, c)], e.rttSample = none) ∧ (s.call c).minRtt = 0 ∨
      (s.call c).MinRttHeld (history ++ [(s, c)]) := by
  cases call_minRtt h.coherent c with
  | unsampled hnone hmin hstamp =>
      have hlarger : ∀ rtt, ¬ Entry.SamplesBelow rtt (s, c) := by
        rintro rtt ⟨sample, hsample, _⟩
        cases hnone.symm.trans hsample
      rcases h.held with ⟨hnever, hzero⟩ | hheld
      · refine .inl ⟨fun e hmem => ?_, hmin.trans hzero⟩
        rcases List.mem_append.mp hmem with hmem | hmem
        · exact hnever e hmem
        · rw [List.mem_singleton.mp hmem]
          exact hnone
      · exact .inr (hheld.concat hmin (hlarger _) hstamp)
  | take hsample hstamp =>
      refine .inr ⟨History.sinceLast_concat.mpr (.inl hsample), (s, c), ?_, hstamp, .inl hsample⟩
      exact List.mem_append_right _ List.mem_cons_self
  | keep rtt hsample hmin hknown hle hstamp =>
      have hlarger : ¬ Entry.SamplesBelow s.minRtt (s, c) := by
        rintro ⟨sample, hother, hless⟩
        rw [Option.some_inj.mp (hother.symm.trans hsample)] at hless
        omega
      rcases h.held with ⟨_, hzero⟩ | hheld
      · exact absurd hzero hknown
      · exact .inr (hheld.concat hmin hlarger (hstamp.imp_left And.left))

theorem MinRttKnown.call (h : s.MinRttKnown history) (c : BbrCall) :
    (s.call c).MinRttKnown (history ++ [(s, c)]) := by
  refine ⟨(Coherent.call h.coherent c).1, MinRttHeld.call h c, fun hsorted => ?_⟩
  rw [eventTimes, List.filterMap_append, List.pairwise_append] at hsorted
  obtain ⟨hold, _, hlast⟩ := hsorted
  have hexpiry : 0 ≤ kMinRttExpiry := by decide
  -- An event that sets the stamp is not earlier than those before it.
  have hrenewed : c.eventTime? = some (s.call c).minRttTimestamp →
      ∀ e ∈ history ++ [(s, c)], ∀ now, e.2.eventTime? = some now →
        now ≤ (s.call c).minRttTimestamp + kMinRttExpiry := by
    intro hstamp e hmem now hnow
    rcases List.mem_append.mp hmem with hmem | hmem
    · have hlater := hlast now (List.mem_filterMap.mpr ⟨e, hmem, hnow⟩)
        (s.call c).minRttTimestamp (List.mem_filterMap.mpr ⟨(s, c), List.mem_cons_self, hstamp⟩)
      omega
    · rw [List.mem_singleton.mp hmem] at hnow
      have hsame := Option.some_inj.mp (hnow.symm.trans hstamp)
      omega
  intro e hmem hsampled now hnow
  cases call_minRtt h.coherent c with
  | unsampled hnone _ hstamp =>
      rcases hstamp with hkept | ⟨_, hstamp⟩
      · rw [hkept]
        rcases List.mem_append.mp hmem with hmem | hmem
        · exact h.fresh hold e hmem hsampled now hnow
        · rw [List.mem_singleton.mp hmem] at hsampled
          exact absurd hnone hsampled
      · exact hrenewed hstamp e hmem now hnow
  | take _ hstamp => exact hrenewed hstamp e hmem now hnow
  | keep rtt _ _ _ _ hstamp =>
      rcases hstamp with ⟨hkept, hdue⟩ | ⟨_, hstamp⟩
      · rw [hkept]
        rcases List.mem_append.mp hmem with hmem | hmem
        · exact h.fresh hold e hmem hsampled now hnow
        · rw [List.mem_singleton.mp hmem] at hnow
          exact hdue now hnow
      · exact hrenewed hstamp e hmem now hnow

/-- In every run the minimum RTT is a sample, none behind it is smaller, and it is forgotten by the
first sample that comes more than `kMinRttExpiry` after its stamp. -/
theorem run_minRtt (now : Int) (initialCwnd maxCwnd : Nat) (stream : Nat → Nat)
    (calls : List BbrCall) :
    let s := create now initialCwnd maxCwnd stream
    let history : List Entry := History.trace call s calls
    ((∀ e ∈ history, e.rttSample = none) ∧ (s.run calls).minRtt = 0 ∨
        (s.run calls).MinRttHeld history) ∧
      ((eventTimes history).Pairwise (· ≤ ·) → ∀ e ∈ history, e.rttSample ≠ none →
        ∀ time, e.2.eventTime? = some time →
          time ≤ (s.run calls).minRttTimestamp + kMinRttExpiry) := by
  intro s history
  have hknown : (s.run calls).MinRttKnown history := by
    have hcreate : s.MinRttKnown [] :=
      ⟨create_coherent now initialCwnd maxCwnd stream, .inl ⟨by simp, rfl⟩, by simp⟩
    have hstep : ∀ (s : BbrSender) (history : List Entry) (c : BbrCall),
        s.MinRttKnown history → (s.call c).MinRttKnown (history ++ [(s, c)]) :=
      fun _ _ c h => h.call c
    exact History.trace_invariant hstep hcreate calls
  exact ⟨hknown.held, hknown.fresh⟩

theorem run_minRtt_of_visitCalls :
    let s := create 1 32 2000 id
    let calls := visitCalls ++ [lastOfVisit]
    let history : List Entry := History.trace call s calls
    (s.run calls).MinRttHeld history ∧
      ∀ e ∈ history, e.rttSample ≠ none → ∀ time, e.2.eventTime? = some time →
        time ≤ (s.run calls).minRttTimestamp + kMinRttExpiry := by
  intro s calls history
  obtain ⟨hheld, hfresh⟩ := run_minRtt 1 32 2000 id calls
  have hknown : (s.run calls).minRtt ≠ 0 := by decide +kernel
  refine ⟨hheld.resolve_left fun hnever => hknown hnever.2, ?_⟩
  exact hfresh (by decide +kernel)

end BbrSender

end BbrChrome
