import BbrChrome.Congestion.CycleWindow
import BbrChrome.Library.IntervalMaximum

/-!
# The maximum bandwidth

What `MaxBandwidth` answers depends on the samples that the filter has been given and on where it
was advanced among them. A cycle of PROBE_BW advances it once, so what was measured behind
PROBE_DOWN counts until the end of the next cycle.
-/

namespace BbrChrome

open IntervalMaximum

instance : OrderBot QuicBandwidth where
  bot := .zero
  bot_le bandwidth := Nat.zero_le bandwidth.bitsPerSecond

namespace Bbr2MaxBandwidthFilter

def maxima (filter : Bbr2MaxBandwidthFilter) : Maxima QuicBandwidth :=
  ⟨filter.previous, filter.current⟩

theorem maxima_get (filter : Bbr2MaxBandwidthFilter) : filter.maxima.get = filter.get := rfl

theorem maxima_update (filter : Bbr2MaxBandwidthFilter) (sample : QuicBandwidth) :
    (filter.update sample).maxima = filter.maxima.step (.sample sample) := rfl

theorem maxima_advance (filter : Bbr2MaxBandwidthFilter) :
    filter.advance.maxima = filter.maxima.step .advance := by
  have hzero : filter.current.isZero = true ↔ filter.maxima.current = ⊥ := by
    rw [QuicBandwidth.isZero, beq_iff_eq]
    exact ⟨fun h => QuicBandwidth.ext h, fun h => congrArg QuicBandwidth.bitsPerSecond h⟩
  unfold advance Maxima.step
  by_cases hempty : filter.maxima.current = ⊥
  · rw [if_pos (hzero.mpr hempty)]
    exact (if_pos hempty).symm
  · rw [if_neg (mt hzero.mp hempty)]
    exact (if_neg hempty).symm

theorem maxima_update_if (filter : Bbr2MaxBandwidthFilter) (accepted : Prop) [Decidable accepted]
    (sample : QuicBandwidth) :
    (if accepted then filter.update sample else filter).maxima =
      ((if accepted then some sample else none).toList.map Input.sample).foldl Maxima.step
        filter.maxima := by
  split
  · rw [maxima_update]
    rfl
  · rfl

theorem maxima_iterate (filter : Bbr2MaxBandwidthFilter) (n : Nat) :
    (advance^[n] filter).maxima = (List.replicate n Input.advance).foldl Maxima.step
      filter.maxima := by
  induction n generalizing filter with
  | zero => rfl
  | succ n ih =>
      rw [Function.iterate_succ_apply, ih, maxima_advance, List.replicate_succ, List.foldl_cons]

end Bbr2MaxBandwidthFilter

/-! ## What an event gives to the filter -/

namespace Bbr2NetworkModel

variable {event : Bbr2CongestionEvent}

/-- The sample with which `OnCongestionEventStart` updates the filter, if it does. -/
def acceptedSample (m : Bbr2NetworkModel) (eventTime : Int) (ackedPackets : List AckedPacket)
    (lostPackets : List LostPacket) (event : Bbr2CongestionEvent) : Option QuicBandwidth :=
  let (sampled, sample, _) := m.sampleCongestionEvent eventTime ackedPackets lostPackets event
  if m.totalBytesAcked ≠ sampled.totalBytesAcked ∧
      (sample.sampleIsAppLimited = false ∨ m.maxBandwidth < sample.sampleMaxBandwidth) then
    some sample.sampleMaxBandwidth
  else none

theorem maxima_onCongestionEventStart {m : Bbr2NetworkModel} (eventTime : Int)
    (ackedPackets : List AckedPacket) (lostPackets : List LostPacket) :
    (m.onCongestionEventStart eventTime ackedPackets lostPackets
        event).1.maxBandwidthFilter.maxima =
      ((m.acceptedSample eventTime ackedPackets lostPackets event).toList.map Input.sample).foldl
        Maxima.step m.maxBandwidthFilter.maxima := by
  have hsampled : (m.sampleCongestionEvent eventTime ackedPackets lostPackets
      event).1.maxBandwidthFilter.maxima =
      ((m.acceptedSample eventTime ackedPackets lostPackets event).toList.map Input.sample).foldl
        Maxima.step m.maxBandwidthFilter.maxima :=
    m.maxBandwidthFilter.maxima_update_if _ _
  exact (congrArg Bbr2MaxBandwidthFilter.maxima
    ((recordCongestionEvent_changes _).keeps maxBandwidthFilter rfl)).trans hsampled

end Bbr2NetworkModel

/-! ## Cycles of the record -/

theorem advancesInCycle_append {log log' : List ModeCall} (h : .enterProbeDown ∉ log') :
    advancesInCycle (log ++ log') = advancesInCycle log + log'.countP ModeCall.isAdvance := by
  induction log' using List.reverseRecOn with
  | nil => simp
  | append_singleton log' call ih =>
      simp only [List.mem_append, List.mem_singleton, not_or] at h
      rw [← List.append_assoc, List.countP_append, ← Nat.add_assoc, ← ih h.1]
      cases call with
      | enterProbeDown => exact absurd rfl h.2
      | advanceMaxBandwidthFilter phase => rw [advancesInCycle_advance]; rfl
      | changeMode mode => rw [advancesInCycle_changeMode]; rfl

theorem AdvancesOnce.countP_le {log log' : List ModeCall} (h : AdvancesOnce (log ++ log'))
    (hcycles : log'.count .enterProbeDown = 0 ∨
      log'.count .enterProbeDown = 1 ∧ 1 ≤ advancesInCycle log) :
    log'.countP ModeCall.isAdvance ≤ 1 := by
  rcases hcycles with hnone | ⟨hone, hadvanced⟩
  · have hlast := h.once _ (List.prefix_refl _)
    rw [advancesInCycle_append (List.count_eq_zero.mp hnone)] at hlast
    omega
  · obtain ⟨old, new, rfl⟩ := List.append_of_mem (List.one_le_count_iff.mp hone.ge)
    rw [List.count_append, List.count_cons_self] at hone
    have hold : ModeCall.enterProbeDown ∉ old := List.count_eq_zero.mp (by omega)
    have hnew : ModeCall.enterProbeDown ∉ new := List.count_eq_zero.mp (by omega)
    -- The cycle that has advanced does not advance again, and the next one advances once.
    have hfirst := h.once (log ++ old) (by simp)
    rw [advancesInCycle_append hold] at hfirst
    have hsecond := h.once _ (List.prefix_refl _)
    rw [List.append_cons, ← List.append_assoc, ← List.append_assoc, advancesInCycle_append hnew,
      advancesInCycle_enterProbeDown] at hsecond
    rw [List.countP_append, List.countP_cons]
    have hentry : ModeCall.enterProbeDown.isAdvance = false := rfl
    rw [hentry, if_neg Bool.false_ne_true]
    omega

/-! ## Runs -/

@[simp] theorem Control.maybeEnterQuiescence_maxBandwidthFilter {c : Control}
    {event : Bbr2CongestionEvent} :
    (c.maybeEnterQuiescence event).maxBandwidthFilter = c.maxBandwidthFilter := by
  unfold maybeEnterQuiescence
  split
  · rfl
  · rfl

namespace Bbr2Sender

variable {s : Bbr2Sender}

def acceptedSample (s : Bbr2Sender) : Bbr2Call → Option QuicBandwidth
  | .packetSent _ _ _ _ => none
  | .congestionEvent _ priorInFlight eventTime ackedPackets lostPackets =>
      s.model.acceptedSample eventTime ackedPackets lostPackets
        (s.startCongestionEvent priorInFlight)

/-- What a call gives to the filter: the sample first, then the advances of the modes. -/
def bandwidthInputs (s : Bbr2Sender) (c : Bbr2Call) : List (Input QuicBandwidth) :=
  (s.acceptedSample c).toList.map .sample ++
    List.replicate ((s.callLog c).countP ModeCall.isAdvance) .advance

def runBandwidthInputs (s : Bbr2Sender) : List Bbr2Call → List (Input QuicBandwidth)
  | [] => []
  | c :: calls => s.bandwidthInputs c ++ (s.call c).runBandwidthInputs calls

theorem maxima_onCongestionEvent (hs : s.HasDefaults) (leastUnacked priorInFlight : Nat)
    (eventTime : Int) (ackedPackets : List AckedPacket) (lostPackets : List LostPacket) :
    (s.onCongestionEvent leastUnacked priorInFlight eventTime ackedPackets
        lostPackets).model.maxBandwidthFilter.maxima =
      (s.bandwidthInputs (.congestionEvent leastUnacked priorInFlight eventTime ackedPackets
        lostPackets)).foldl Maxima.step s.model.maxBandwidthFilter.maxima := by
  have hsampled := @Bbr2NetworkModel.maxima_onCongestionEventStart
    (s.startCongestionEvent priorInFlight) s.model eventTime ackedPackets lostPackets
  rw [← sampled_model] at hsampled
  have hdefaults := hs.sampled priorInFlight eventTime ackedPackets lostPackets
  have htime : (s.congestionEvent priorInFlight eventTime ackedPackets lostPackets).eventTime =
    eventTime := rfl
  unfold bandwidthInputs callLog acceptedSample onCongestionEventCalls
  dsimp only
  rw [List.foldl_append, ← hsampled, onCongestionEvent_eq]
  generalize s.congestionEvent priorInFlight eventTime ackedPackets lostPackets = event at htime ⊢
  generalize s.sampled priorInFlight eventTime ackedPackets lostPackets = started at hdefaults ⊢
  subst htime
  have hfuel : started.control.changesLeft < kMaxModeChangesPerCongestionEvent + 1 :=
    Nat.lt_of_le_of_lt started.control.changesLeft_le (by decide)
  have hloop := (@runModes_move started event hdefaults priorInFlight _ hfuel).logged.filter
  generalize runModes priorInFlight event.eventTime event (kMaxModeChangesPerCongestionEvent + 1)
    started = reacted at hloop ⊢
  have hfinish := congrArg Control.maxBandwidthFilter
    (@control_finishCongestionEvent reacted event leastUnacked)
  rw [Control.maybeEnterQuiescence_maxBandwidthFilter, hloop] at hfinish
  exact (congrArg Bbr2MaxBandwidthFilter.maxima hfinish).trans
    (started.model.maxBandwidthFilter.maxima_iterate _)

theorem maxima_onPacketSent (hs : s.HasDefaults) (sentTime : Int)
    (bytesInFlight packetNumber bytes : Nat) :
    (s.onPacketSent sentTime bytesInFlight packetNumber
        bytes).model.maxBandwidthFilter.maxima =
      (s.bandwidthInputs (.packetSent sentTime bytesInFlight packetNumber bytes)).foldl
        Maxima.step s.model.maxBandwidthFilter.maxima := by
  have hmove := (hs.send_move sentTime bytesInFlight packetNumber bytes).logged.filter
  exact (congrArg Bbr2MaxBandwidthFilter.maxima hmove).trans
    (s.model.maxBandwidthFilter.maxima_iterate _)

/-- A run does to the filter what its inputs do to the two maxima. -/
theorem maxima_run (hs : s.HasDefaults) (calls : List Bbr2Call) :
    (s.run calls).model.maxBandwidthFilter.maxima =
      (s.runBandwidthInputs calls).foldl Maxima.step s.model.maxBandwidthFilter.maxima := by
  induction calls generalizing s with
  | nil => rfl
  | cons c calls ih =>
      have hcall : (s.call c).model.maxBandwidthFilter.maxima =
          (s.bandwidthInputs c).foldl Maxima.step s.model.maxBandwidthFilter.maxima := by
        cases c with
        | packetSent => exact maxima_onPacketSent hs _ _ _ _
        | congestionEvent => exact maxima_onCongestionEvent hs _ _ _ _ _
      rw [run_cons, ih (hs.call c), hcall, runBandwidthInputs, List.foldl_append]

theorem create_spans (now : Int) (rttStats : RttStats) (initialCwnd maxCwnd : Nat)
    (stream : Nat → Nat) (calls : List Bbr2Call) :
    let s := create now rttStats initialCwnd maxCwnd stream
    Spans (s.run calls).model.maxBandwidthFilter.maxima (s.runBandwidthInputs calls) := by
  intro s
  rw [maxima_run (create_hasDefaults now rttStats initialCwnd maxCwnd stream) calls]
  exact spans_empty.foldl (s.runBandwidthInputs calls)

/-- The maximum bandwidth is not below a sample with at most one advance behind it, and is itself
a sample behind which no second interval has ended. -/
theorem run_maxBandwidth (now : Int) (rttStats : RttStats) (initialCwnd maxCwnd : Nat)
    (stream : Nat → Nat) (calls : List Bbr2Call) :
    let s := create now rttStats initialCwnd maxCwnd stream
    let maxBandwidth := (s.run calls).model.maxBandwidth
    (∀ early x late, s.runBandwidthInputs calls = early ++ .sample x :: late →
        late.countP Input.isAdvance ≤ 1 → x ≤ maxBandwidth) ∧
      (maxBandwidth = .zero ∨ ∃ early late,
        s.runBandwidthInputs calls = early ++ .sample maxBandwidth :: late ∧ ¬ Outdated late) := by
  intro s maxBandwidth
  have hspans := create_spans now rttStats initialCwnd maxCwnd stream calls
  have hget : (s.run calls).model.maxBandwidthFilter.maxima.get = maxBandwidth :=
    Bbr2MaxBandwidthFilter.maxima_get _
  rw [← hget]
  refine ⟨hspans.le_get, ?_⟩
  by_cases hzero : (s.run calls).model.maxBandwidthFilter.maxima.get = .zero
  · exact .inl hzero
  · exact .inr (hspans.get_mem hzero)

/-! ## The cycles of PROBE_BW -/

theorem runBandwidthInputs_append (calls calls' : List Bbr2Call) :
    s.runBandwidthInputs (calls ++ calls') =
      s.runBandwidthInputs calls ++ (s.run calls).runBandwidthInputs calls' := by
  induction calls generalizing s with
  | nil => rfl
  | cons c calls ih =>
      rw [List.cons_append, runBandwidthInputs, runBandwidthInputs, run_cons, ih, List.append_assoc]

theorem countP_bandwidthInputs (c : Bbr2Call) :
    (s.bandwidthInputs c).countP Input.isAdvance = (s.callLog c).countP ModeCall.isAdvance := by
  have hsamples : ((s.acceptedSample c).toList.map Input.sample).countP Input.isAdvance = 0 := by
    rw [List.countP_eq_zero]
    simp [Input.isAdvance]
  have hadvances : ∀ n, (List.replicate n (Input.advance : Input QuicBandwidth)).countP
      Input.isAdvance = n := by
    intro n
    rw [List.countP_replicate]
    rfl
  rw [bandwidthInputs, List.countP_append, hsamples, hadvances, Nat.zero_add]

theorem countP_runBandwidthInputs (calls : List Bbr2Call) :
    (s.runBandwidthInputs calls).countP Input.isAdvance =
      (s.runLog calls).countP ModeCall.isAdvance := by
  induction calls generalizing s with
  | nil => rfl
  | cons c calls ih =>
      rw [runBandwidthInputs, runLog, List.countP_append, List.countP_append, ih,
        countP_bandwidthInputs]

theorem runLog_append (calls calls' : List Bbr2Call) :
    s.runLog (calls ++ calls') = s.runLog calls ++ (s.run calls).runLog calls' := by
  induction calls generalizing s with
  | nil => rfl
  | cons c calls ih => rw [List.cons_append, runLog, runLog, run_cons, ih, List.append_assoc]

structure InCycle (t : Int) (s : Bbr2Sender) (log : List ModeCall) : Prop where
  defaults : s.HasDefaults
  placed : s.control.Placed
  kept : CycleKept t s.control log

theorem InCycle.call {t : Int} {log : List ModeCall} (h : InCycle t s log) (c : Bbr2Call)
    (hle : ∀ t', c.eventTime? = some t' → t ≤ t') :
    InCycle (c.eventTime?.getD t) (s.call c) (log ++ s.callLog c) := by
  refine ⟨h.defaults.call c, ?_, ?_⟩
  · exact h.defaults.control_call (fun _ _ _ _ _ _ hplaced hmove => hplaced.sendMove hmove)
      (fun _ _ _ _ _ hplaced hmove => hplaced.eventMove hmove) h.placed c
  · cases c with
    | packetSent sentTime bytesInFlight packetNumber bytes =>
        exact h.kept.sendMove h.placed
          (h.defaults.send_move sentTime bytesInFlight packetNumber bytes)
    | congestionEvent leastUnacked priorInFlight eventTime ackedPackets lostPackets =>
        exact h.kept.eventMove (hle eventTime rfl) (onCongestionEvent_move h.defaults leastUnacked
          priorInFlight eventTime ackedPackets lostPackets)

theorem run_inCycle (now : Int) (rttStats : RttStats) (initialCwnd maxCwnd : Nat)
    (stream : Nat → Nat) {calls : List Bbr2Call}
    (hsorted : (calls.filterMap Bbr2Call.eventTime?).Pairwise (· ≤ ·)) :
    let s := create now rttStats initialCwnd maxCwnd stream
    ∃ t, InCycle t (s.run calls) (s.runLog calls) := by
  intro s
  obtain ⟨start, hstart⟩ := exists_start hsorted
  have hcreate : InCycle start s [] :=
    ⟨create_hasDefaults now rttStats initialCwnd maxCwnd stream,
      create_placed now rttStats initialCwnd maxCwnd stream,
      create_cycleKept now rttStats initialCwnd maxCwnd stream start⟩
  exact ⟨_, run_invariant_timed (fun _ _ _ c h hle => h.call c hle) hcreate hstart⟩

/-- The maximum bandwidth is not below a sample of the running cycle, nor below one that the cycle
before took when it was behind PROBE_DOWN. -/
theorem maxBandwidth_of_cycle (now : Int) (rttStats : RttStats) (initialCwnd maxCwnd : Nat)
    (stream : Nat → Nat) (before : List Bbr2Call) (c : Bbr2Call) (after : List Bbr2Call)
    (x : QuicBandwidth)
    (hsorted : ((before ++ c :: after).filterMap Bbr2Call.eventTime?).Pairwise (· ≤ ·))
    (hsample : ((create now rttStats initialCwnd maxCwnd stream).run before).acceptedSample c =
      some x)
    (hcycles :
      let s := (create now rttStats initialCwnd maxCwnd stream).run before
      (s.runLog (c :: after)).count .enterProbeDown = 0 ∨
        (s.runLog (c :: after)).count .enterProbeDown = 1 ∧
          (s.probeBw.cycle.phase = .probeCruise ∨ s.probeBw.cycle.phase = .probeRefill ∨
            s.probeBw.cycle.phase = .probeUp)) :
    x ≤ ((create now rttStats initialCwnd maxCwnd stream).run
      (before ++ c :: after)).model.maxBandwidth := by
  have hbefore : (before.filterMap Bbr2Call.eventTime?).Pairwise (· ≤ ·) := by
    rw [List.filterMap_append, List.pairwise_append] at hsorted
    exact hsorted.1
  obtain ⟨_, hearly⟩ := run_inCycle now rttStats initialCwnd maxCwnd stream hbefore
  obtain ⟨_, hlast⟩ := run_inCycle now rttStats initialCwnd maxCwnd stream hsorted
  have hspans := create_spans now rttStats initialCwnd maxCwnd stream (before ++ c :: after)
  dsimp only at hcycles hspans
  have honce := hlast.kept.advances
  rw [runLog_append] at honce
  rw [runBandwidthInputs_append] at hspans
  generalize (create now rttStats initialCwnd maxCwnd stream).run before = s at *
  have hbehind : (s.runLog (c :: after)).countP ModeCall.isAdvance ≤ 1 := by
    refine honce.countP_le (hcycles.imp_right fun ⟨hone, hphase⟩ => ⟨hone, ?_⟩)
    have hflag := hearly.kept.flag
    rw [hearly.kept.behind hphase, if_pos rfl] at hflag
    exact hflag.ge
  rw [← countP_runBandwidthInputs] at hbehind
  have hinputs : s.runBandwidthInputs (c :: after) = .sample x ::
      (List.replicate ((s.callLog c).countP ModeCall.isAdvance) .advance ++
        (s.call c).runBandwidthInputs after) := by
    rw [runBandwidthInputs, bandwidthInputs, hsample]
    rfl
  rw [hinputs, List.countP_cons_of_neg Bool.false_ne_true] at hbehind
  rw [hinputs] at hspans
  exact hspans.le_get _ x _ rfl hbehind

/-- A flight of 32 packets of which all but the first and the last one are lost. -/
def lossyFlight : List Bbr2Call :=
  (List.range 32).map (fun (i : Nat) => .packetSent 12001 (1000 * i) (i + 7) 1000) ++
    .congestionEvent 7 32000 13001 [⟨7, 1000, 13001⟩] [] ::
      (List.range 30).map fun (i : Nat) => .congestionEvent 8 31000 13002 [] [⟨i + 8, 30000⟩]

theorem maxBandwidth_of_cycle_of_lossyFlight :
    let s := (create 0 {} 32 2000 id).run (roundTrips 6 1000 ++ lossyFlight)
    let c := Bbr2Call.congestionEvent 38 1000 13004 [⟨38, 1000, 13004⟩] []
    let after := [Bbr2Call.packetSent 13006 0 39 1000,
      .congestionEvent 39 1000 14006 [⟨39, 1000, 14006⟩] []]
    s.acceptedSample c = some ⟨15952143⟩ ∧ (s.runLog (c :: after)).count .enterProbeDown = 1 ∧
      ⟨15952143⟩ ≤ (s.run (c :: after)).model.maxBandwidth := by
  intro s c after
  have hsample : s.acceptedSample c = some ⟨15952143⟩ := by decide +kernel
  have hentry : (s.runLog (c :: after)).count .enterProbeDown = 1 := by
    decide +kernel
  have hphase : ((create 0 {} 32 2000 id).run
      (roundTrips 6 1000 ++ lossyFlight)).probeBw.cycle.phase = .probeUp := by
    decide +kernel
  have hcovers := maxBandwidth_of_cycle 0 {} 32 2000 id (roundTrips 6 1000 ++ lossyFlight) c after
    ⟨15952143⟩ (by decide +kernel) hsample (.inr ⟨hentry, .inr (.inr hphase)⟩)
  rw [run_append] at hcovers
  exact ⟨hsample, hentry, hcovers⟩

end Bbr2Sender

end BbrChrome
