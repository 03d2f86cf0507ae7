import BbrChrome.Congestion.SamplerRun
import BbrChrome.Library.History

/-!
# Ack aggregation

The tracker subtracts what the estimated bandwidth would have delivered since the start
of the epoch from the bytes of the epoch. These stay at what the first ack event of the
epoch credited, and no later event starts another epoch.
-/

namespace BbrChrome

/-! ## The values of a filter -/

namespace WindowedFilter

variable {α : Type} {P Q : α → Prop} {filter : WindowedFilter α} {compare : α → α → Bool}

structure All (P : α → Prop) (filter : WindowedFilter α) : Prop where
  best : P filter.best.sample
  second : P filter.second.sample
  third : P filter.third.sample

theorem All.mono (h : filter.All P) (hpq : ∀ a, P a → Q a) : filter.All Q :=
  ⟨hpq _ h.best, hpq _ h.second, hpq _ h.third⟩

theorem All.insert (h : filter.All P) (compare : α → α → Bool) {new : FilterSample α}
    (hnew : P new.sample) : (filter.insert compare new).All P := by
  unfold WindowedFilter.insert
  split
  · exact ⟨h.best, hnew, hnew⟩
  · split
    · exact ⟨h.best, h.second, hnew⟩
    · exact h

theorem All.promote (h : filter.All P) {new : FilterSample α} (hnew : P new.sample) :
    (filter.promote new).All P := by
  unfold WindowedFilter.promote
  dsimp only
  split
  · exact ⟨h.third, hnew, hnew⟩
  · exact ⟨h.second, h.third, hnew⟩

theorem All.update [DecidableEq α] (h : filter.All P) {newSample : α} (hnew : P newSample)
    (newTime : Nat) : (filter.update compare newSample newTime).All P := by
  have hinsert : (filter.insert compare ⟨newSample, newTime⟩).All P := h.insert compare hnew
  unfold WindowedFilter.update
  dsimp only
  split
  · exact ⟨hnew, hnew, hnew⟩
  · split
    · exact hinsert.promote hnew
    · split
      · exact ⟨hinsert.best, hnew, hnew⟩
      · split
        · exact ⟨hinsert.best, hinsert.second, hnew⟩
        · exact hinsert

end WindowedFilter

/-! ## The calls of the tracker -/

/-- A call of `MaxAckHeightTracker::Update`. -/
structure UpdateCall where
  tracker : MaxAckHeightTracker
  bandwidthEstimate : QuicBandwidth
  roundTripCount : Nat
  ackTime : Int
  bytesAcked : Nat
deriving DecidableEq, Repr

namespace UpdateCall

/-- The tracker after the call and the value that it returns. -/
def result (call : UpdateCall) : MaxAckHeightTracker × Nat :=
  call.tracker.update call.bandwidthEstimate call.roundTripCount call.ackTime call.bytesAcked

/-- What the estimated bandwidth delivers from `startTime` up to the call. -/
def dueBytes (call : UpdateCall) (startTime : Int) : Nat :=
  call.bandwidthEstimate.toBytesPerPeriod (call.ackTime - startTime)

/-- The subtraction does not wrap, and the value is at most what the epoch acked. -/
structure Sound (call : UpdateCall) (ackedInEpoch : Nat) : Prop where
  noWrap : call.tracker.aggregationEpochStartTime ≠ 0 →
    call.dueBytes call.tracker.aggregationEpochStartTime ≤ call.tracker.aggregationEpochBytes
  bounded : call.result.2 ≤ ackedInEpoch

end UpdateCall

/-- An aggregation epoch: when it started, what its first ack event credited and what
was acked before it. -/
structure Epoch where
  startTime : Int
  firstBytes : Nat
  ackedBefore : Nat
deriving DecidableEq, Repr

namespace BandwidthSampler

def ackEventEndCall? (s : BandwidthSampler) (bandwidthEstimate : QuicBandwidth)
    (roundTripCount : Nat) : Option UpdateCall :=
  let bytesAcked := subUint64 s.totalBytesAcked s.totalBytesAckedAfterLastAckEvent
  if bytesAcked = 0 then none
  else
    some
      { tracker := s.maxAckHeightTracker, bandwidthEstimate, roundTripCount, bytesAcked
        ackTime := s.lastAckedPacketAckTime }

def updateCall? (s : BandwidthSampler) : SamplerCall → Option UpdateCall
  | .congestionEvent ackTime ackedPackets lostPackets maxBandwidth estBandwidthUpperBound
      roundTripCount =>
        let (s, _) := onPacketsLost lostPackets s {}
        if ackedPackets.isEmpty then none
        else
          let (s, event, _) := onPacketsAcknowledged ackTime ackedPackets s {} {}
          s.ackEventEndCall?
            (min estBandwidthUpperBound (max maxBandwidth event.sampleMaxBandwidth)) roundTripCount
  | _ => none

/-- The current epoch after an operation: a call that finds no start time starts one. -/
def nextEpoch (epoch : Option Epoch) (s : BandwidthSampler) (op : SamplerCall) :
    Option Epoch :=
  match s.updateCall? op with
  | some update =>
      if update.tracker.aggregationEpochStartTime = 0 then
        some
          { startTime := update.ackTime, firstBytes := update.bytesAcked
            ackedBefore := s.totalBytesAcked }
      else epoch
  | none => epoch

def epochOf (s : BandwidthSampler) (ops : List SamplerCall) : Option Epoch :=
  (History.trace call s ops).foldl (fun epoch (s, op) => nextEpoch epoch s op) none

variable {s s' : BandwidthSampler} {op : SamplerCall} {update : UpdateCall}

/-! ## What one operation does to the tracker -/

/-- `s'` has the tracker of `s` and the totals of the same last ack event. -/
structure TrackerKept (s s' : BandwidthSampler) : Prop where
  tracker : s'.maxAckHeightTracker = s.maxAckHeightTracker
  lastTotal : s'.totalBytesAckedAfterLastAckEvent = s.totalBytesAckedAfterLastAckEvent

theorem TrackerKept.trans {s'' : BandwidthSampler} (h : TrackerKept s s')
    (h' : TrackerKept s' s'') : TrackerKept s s'' :=
  ⟨h'.tracker.trans h.tracker, h'.lastTotal.trans h.lastTotal⟩

theorem trackerKept_onPacketsLost (lostPackets : List LostPacket) (lastState : SendTimeState) :
    TrackerKept s (onPacketsLost lostPackets s lastState).1 := by
  induction lostPackets generalizing s lastState with
  | nil => exact ⟨rfl, rfl⟩
  | cons p lostPackets ih =>
      have hlost : TrackerKept s (s.onPacketLost p.packetNumber p.bytesLost).1 := ⟨rfl, rfl⟩
      exact hlost.trans (ih _)

theorem trackerKept_onPacketAcknowledgedInner (ackTime : Int) (packetNumber : Nat)
    (e : ConnectionStateOnSentPacket) :
    TrackerKept s (s.onPacketAcknowledgedInner ackTime packetNumber e).1 := by
  unfold onPacketAcknowledgedInner
  dsimp only
  split
  · exact ⟨rfl, rfl⟩
  · split <;> split <;> exact ⟨rfl, rfl⟩

theorem trackerKept_onPacketAcknowledged (ackTime : Int) (packetNumber : Nat) :
    TrackerKept s (s.onPacketAcknowledged ackTime packetNumber).1 := by
  unfold onPacketAcknowledged
  cases s.connectionStateMap.getEntry (.number packetNumber) with
  | none => exact ⟨rfl, rfl⟩
  | some e => exact trackerKept_onPacketAcknowledgedInner ackTime packetNumber e

theorem trackerKept_onPacketsAcknowledged (ackTime : Int) (ackedPackets : List AckedPacket)
    (event : CongestionEventSample) (lastState : SendTimeState) :
    TrackerKept s (onPacketsAcknowledged ackTime ackedPackets s event lastState).1 := by
  induction ackedPackets generalizing s event lastState with
  | nil => exact ⟨rfl, rfl⟩
  | cons p ackedPackets ih =>
      have hacked := trackerKept_onPacketAcknowledged (s := s) ackTime p.packetNumber
      unfold onPacketsAcknowledged
      dsimp only
      split
      · exact hacked.trans (ih _ _)
      · exact hacked.trans (ih _ _)

theorem exists_ackEventEnd (ackTime : Int) {ackedPackets : List AckedPacket}
    (hne : ackedPackets.isEmpty = false) (lostPackets : List LostPacket)
    (maxBandwidth estBandwidthUpperBound : QuicBandwidth) (roundTripCount : Nat) :
    ∃ mid bandwidthEstimate, TrackerKept s mid ∧ s.totalBytesAcked ≤ mid.totalBytesAcked ∧
      s.call (.congestionEvent ackTime ackedPackets lostPackets maxBandwidth
        estBandwidthUpperBound roundTripCount) =
          (mid.onAckEventEnd bandwidthEstimate roundTripCount).1 ∧
      s.updateCall? (.congestionEvent ackTime ackedPackets lostPackets maxBandwidth
        estBandwidthUpperBound roundTripCount) =
          mid.ackEventEndCall? bandwidthEstimate roundTripCount := by
  have hkept := (trackerKept_onPacketsLost (s := s) lostPackets {}).trans
    (trackerKept_onPacketsAcknowledged ackTime ackedPackets {} {})
  have htotal := congrArg SamplerAccounts.totalBytesAcked
    (accounts_onPacketsAcknowledged (s := (onPacketsLost lostPackets s {}).1) ackTime
      ackedPackets {} {})
  rw [accounts_onPacketsLost] at htotal
  let bandwidthEstimate := min estBandwidthUpperBound (max maxBandwidth
    (onPacketsAcknowledged ackTime ackedPackets
      (onPacketsLost lostPackets s {}).1 {} {}).2.1.sampleMaxBandwidth)
  refine ⟨_, bandwidthEstimate, hkept, Nat.le.intro htotal.symm, ?_, ?_⟩
  · simp only [call, onCongestionEvent, hne]
    rfl
  · simp only [updateCall?, hne]
    rfl

theorem ackEventEndCall?_eq_none (h : s.totalBytesAckedAfterLastAckEvent ≤ s.totalBytesAcked)
    {bandwidthEstimate : QuicBandwidth} {roundTripCount : Nat}
    (hcall : s.ackEventEndCall? bandwidthEstimate roundTripCount = none) :
    s.totalBytesAcked = s.totalBytesAckedAfterLastAckEvent ∧
      s.onAckEventEnd bandwidthEstimate roundTripCount = (s, 0) := by
  simp only [ackEventEndCall?] at hcall
  split at hcall
  · rename_i hzero
    refine ⟨?_, by simp [onAckEventEnd, hzero]⟩
    rw [subUint64_of_le h] at hzero
    omega
  · cases hcall

theorem ackEventEndCall?_eq_some {bandwidthEstimate : QuicBandwidth} {roundTripCount : Nat}
    (hcall : s.ackEventEndCall? bandwidthEstimate roundTripCount = some update) :
    update.tracker = s.maxAckHeightTracker ∧
      update.bytesAcked = subUint64 s.totalBytesAcked s.totalBytesAckedAfterLastAckEvent ∧
      (s.onAckEventEnd bandwidthEstimate roundTripCount).1.maxAckHeightTracker = update.result.1 ∧
      (s.onAckEventEnd bandwidthEstimate roundTripCount).1.totalBytesAcked = s.totalBytesAcked ∧
      (s.onAckEventEnd bandwidthEstimate roundTripCount).1.totalBytesAckedAfterLastAckEvent =
        s.totalBytesAcked := by
  simp only [ackEventEndCall?] at hcall
  split at hcall
  · cases hcall
  · rename_i hne
    cases hcall
    unfold onAckEventEnd
    dsimp only
    rw [if_neg hne]
    exact ⟨rfl, rfl, rfl, rfl, rfl⟩

/-- Between two operations the totals of the last ack event are the current ones. -/
def Settled (s : BandwidthSampler) : Prop := s.totalBytesAckedAfterLastAckEvent = s.totalBytesAcked

theorem call_of_no_update (h : s.Settled) (hcall : s.updateCall? op = none) :
    (s.call op).maxAckHeightTracker = s.maxAckHeightTracker ∧
      (s.call op).totalBytesAcked = s.totalBytesAcked ∧ (s.call op).Settled := by
  cases op with
  | packetSent sentTime packetNumber bytes bytesInFlight =>
      simp only [call, onPacketSent, Settled]
      split
      · exact ⟨rfl, rfl, h⟩
      · exact ⟨rfl, rfl, h⟩
  | appLimited => exact ⟨rfl, rfl, h⟩
  | removeObsoletePackets leastUnacked => exact ⟨rfl, rfl, h⟩
  | enableOverestimateAvoidance => exact ⟨rfl, rfl, h⟩
  | congestionEvent ackTime ackedPackets lostPackets maxBandwidth estBandwidthUpperBound
      roundTripCount =>
      cases hne : ackedPackets.isEmpty with
      | true =>
          have hlost := trackerKept_onPacketsLost (s := s) lostPackets {}
          have htotal := congrArg SamplerAccounts.totalBytesAcked
            (accounts_onPacketsLost (s := s) lostPackets {})
          simp only [call, onCongestionEvent, hne, if_true]
          exact ⟨hlost.tracker, htotal, hlost.lastTotal.trans (h.trans htotal.symm)⟩
      | false =>
          obtain ⟨mid, bandwidthEstimate, hkept, hle, hcalled, hmid⟩ :=
            s.exists_ackEventEnd ackTime hne lostPackets maxBandwidth estBandwidthUpperBound
              roundTripCount
          have hlast : mid.totalBytesAckedAfterLastAckEvent = s.totalBytesAcked :=
            hkept.lastTotal.trans h
          obtain ⟨hsame, hend⟩ := ackEventEndCall?_eq_none (hlast ▸ hle) (hmid ▸ hcall)
          rw [hcalled, hend]
          exact ⟨hkept.tracker, hsame.trans hlast, hsame.symm⟩

theorem call_of_update (h : s.Settled) (hcall : s.updateCall? op = some update) :
    update.tracker = s.maxAckHeightTracker ∧
      (s.call op).maxAckHeightTracker = update.result.1 ∧
      (s.call op).totalBytesAcked = s.totalBytesAcked + update.bytesAcked ∧
      (s.call op).Settled := by
  cases op with
  | packetSent sentTime packetNumber bytes bytesInFlight => cases hcall
  | appLimited => cases hcall
  | removeObsoletePackets leastUnacked => cases hcall
  | enableOverestimateAvoidance => cases hcall
  | congestionEvent ackTime ackedPackets lostPackets maxBandwidth estBandwidthUpperBound
      roundTripCount =>
      cases hne : ackedPackets.isEmpty with
      | true => simp [updateCall?, hne] at hcall
      | false =>
          obtain ⟨mid, bandwidthEstimate, hkept, hle, hcalled, hmid⟩ :=
            s.exists_ackEventEnd ackTime hne lostPackets maxBandwidth estBandwidthUpperBound
              roundTripCount
          have hlast : mid.totalBytesAckedAfterLastAckEvent = s.totalBytesAcked :=
            hkept.lastTotal.trans h
          obtain ⟨htracker, hbytes, hresult, htotal, hnewLast⟩ :=
            ackEventEndCall?_eq_some (hmid ▸ hcall)
          rw [hlast, subUint64_of_le hle] at hbytes
          rw [hcalled]
          refine ⟨htracker.trans hkept.tracker, hresult, ?_, hnewLast.trans htotal.symm⟩
          omega

/-! ## The epoch of a run -/

/-- The tracker remembers the start of the current epoch and the bytes of its first ack
event, and these are part of what the epoch acked. -/
structure Tracks (s : BandwidthSampler) (epoch : Option Epoch) : Prop where
  settled : s.Settled
  unstarted : epoch = none → s.maxAckHeightTracker.aggregationEpochStartTime = 0
  started : ∀ e, epoch = some e →
    s.maxAckHeightTracker.aggregationEpochStartTime = e.startTime ∧
      s.maxAckHeightTracker.aggregationEpochBytes = e.firstBytes ∧
      e.ackedBefore + e.firstBytes ≤ s.totalBytesAcked

theorem UpdateCall.result_of_unstarted
    (h : update.tracker.aggregationEpochStartTime = 0) :
    update.result.1.aggregationEpochStartTime = update.ackTime ∧
      update.result.1.aggregationEpochBytes = update.bytesAcked ∧
      update.result.1.maxAckHeightFilter = update.tracker.maxAckHeightFilter ∧
      update.result.2 = 0 := by
  simp [UpdateCall.result, MaxAckHeightTracker.update, h]

theorem UpdateCall.result_of_started
    (h : update.tracker.aggregationEpochStartTime ≠ 0) :
    update.result.1.aggregationEpochStartTime = update.tracker.aggregationEpochStartTime ∧
      update.result.1.aggregationEpochBytes = update.tracker.aggregationEpochBytes ∧
      update.result.1.maxAckHeightFilter =
        update.tracker.maxAckHeightFilter.update maxFilter update.result.2 update.roundTripCount ∧
      update.result.2 = subUint64 update.tracker.aggregationEpochBytes
        (update.dueBytes update.tracker.aggregationEpochStartTime) := by
  simp [UpdateCall.result, MaxAckHeightTracker.update, h, UpdateCall.dueBytes]

theorem Tracks.call {epoch : Option Epoch} (h : s.Tracks epoch) (op : SamplerCall) :
    (s.call op).Tracks (nextEpoch epoch s op) := by
  cases hcall : s.updateCall? op with
  | none =>
      obtain ⟨htracker, htotal, hsettled⟩ := call_of_no_update h.settled hcall
      simp only [nextEpoch, hcall]
      refine ⟨hsettled, ?_, ?_⟩
      · rw [htracker]
        exact h.unstarted
      · rw [htracker, htotal]
        exact h.started
  | some update =>
      obtain ⟨htracker, hresult, htotal, hsettled⟩ := call_of_update h.settled hcall
      simp only [nextEpoch, hcall]
      by_cases hstart : update.tracker.aggregationEpochStartTime = 0
      · obtain ⟨hnewStart, hnewBytes, _⟩ := UpdateCall.result_of_unstarted hstart
        rw [if_pos hstart]
        refine ⟨hsettled, fun hnone => ?_, fun e he => ?_⟩
        · cases hnone
        · cases he
          rw [hresult, hnewStart, hnewBytes, htotal]
          exact ⟨rfl, rfl, le_refl _⟩
      · obtain ⟨hsameStart, hsameBytes, _⟩ := UpdateCall.result_of_started hstart
        rw [if_neg hstart]
        rw [htracker] at hsameStart hsameBytes
        refine ⟨hsettled, ?_, fun e he => ?_⟩
        · rw [hresult, hsameStart]
          exact h.unstarted
        · obtain ⟨hs, hb, hle⟩ := h.started e he
          rw [hresult, hsameStart, hsameBytes, htotal]
          exact ⟨hs, hb, by omega⟩

/-- A new sampler, with or without the avoidance of overestimates. -/
def start (window : Nat) (overestimateAvoidance : Bool) : BandwidthSampler :=
  if overestimateAvoidance then (create window).enableOverestimateAvoidance else create window

variable {window : Nat} {overestimateAvoidance : Bool} {ops : List SamplerCall}

theorem start_tracks : (start window overestimateAvoidance).Tracks none := by
  cases overestimateAvoidance with
  | false => exact ⟨rfl, fun _ => rfl, by simp⟩
  | true => exact ⟨rfl, fun _ => rfl, by simp⟩

/-- The tracker is in step with the epoch after every run. -/
theorem run_tracks (ops : List SamplerCall) :
    ((start window overestimateAvoidance).run ops).Tracks
      (epochOf (start window overestimateAvoidance) ops) := by
  let epoch : List (BandwidthSampler × SamplerCall) → Option Epoch :=
    List.foldl (fun epoch (s, op) => nextEpoch epoch s op) none
  have hstep : ∀ (s : BandwidthSampler) history op, s.Tracks (epoch history) →
      (s.call op).Tracks (epoch (history ++ [(s, op)])) := by
    intro s history op h
    simp only [epoch, List.foldl_append, List.foldl_cons, List.foldl_nil]
    exact h.call op
  exact @History.trace_invariant _ _ call (fun s history => s.Tracks (epoch history)) hstep _ []
    start_tracks ops

/-! ## The bound on the ack height -/

/-- At each call of a run the measurement is sound, and the ack height never exceeds the
acked bytes. -/
structure AggregationSound (s : BandwidthSampler) (ops : List SamplerCall) : Prop where
  measured : ∀ pre op post update, ops = pre ++ op :: post →
    (s.run pre).updateCall? op = some update →
      ∃ e, nextEpoch (s.epochOf pre) (s.run pre) op = some e ∧
        update.Sound (((s.run pre).call op).totalBytesAcked - e.ackedBefore)
  height : ∀ pre post, ops = pre ++ post → (s.run pre).maxAckHeight ≤ (s.run pre).totalBytesAcked

/-- No later ack event of an epoch comes at a time when the estimated bandwidth would have
delivered more since the start of the epoch than its first ack event credited. -/
def AheadOfFirst (s : BandwidthSampler) (ops : List SamplerCall) : Prop :=
  ∀ pre op post update e, ops = pre ++ op :: post → (s.run pre).updateCall? op = some update →
    s.epochOf pre = some e → e.startTime ≠ 0 → update.dueBytes e.startTime ≤ e.firstBytes

/-- The subtraction of the call that an operation makes does not wrap. -/
def NoWrap (s : BandwidthSampler) (op : SamplerCall) : Prop :=
  ∀ update, s.updateCall? op = some update → update.tracker.aggregationEpochStartTime ≠ 0 →
    update.dueBytes update.tracker.aggregationEpochStartTime ≤ update.tracker.aggregationEpochBytes

theorem aheadOfFirst_iff :
    AheadOfFirst (start window overestimateAvoidance) ops ↔
      ∀ pre op post, ops = pre ++ op :: post →
        ((start window overestimateAvoidance).run pre).NoWrap op := by
  constructor
  · intro h pre op post hsplit update hcall hstart
    have htracks := @run_tracks window overestimateAvoidance pre
    obtain ⟨htracker, _⟩ := call_of_update htracks.settled hcall
    rw [htracker] at hstart ⊢
    cases hepoch : (start window overestimateAvoidance).epochOf pre with
    | none => exact absurd (htracks.unstarted hepoch) hstart
    | some e =>
        obtain ⟨hs, hb, _⟩ := htracks.started e hepoch
        rw [hs] at hstart ⊢
        rw [hb]
        exact h pre op post update e hsplit hcall hepoch hstart
  · intro h pre op post update e hsplit hcall hepoch hstart
    have htracks := @run_tracks window overestimateAvoidance pre
    obtain ⟨htracker, _⟩ := call_of_update htracks.settled hcall
    obtain ⟨hs, hb, _⟩ := htracks.started e hepoch
    have hno := h pre op post hsplit update hcall
    rw [htracker, hs, hb] at hno
    exact hno hstart

theorem Tracks.sound {epoch : Option Epoch} (h : s.Tracks epoch) (hno : s.NoWrap op)
    (hcall : s.updateCall? op = some update) :
    ∃ e, nextEpoch epoch s op = some e ∧
      update.Sound ((s.call op).totalBytesAcked - e.ackedBefore) := by
  obtain ⟨htracker, _, htotal, _⟩ := call_of_update h.settled hcall
  simp only [nextEpoch, hcall]
  by_cases hstart : update.tracker.aggregationEpochStartTime = 0
  · obtain ⟨_, _, _, hzero⟩ := UpdateCall.result_of_unstarted hstart
    rw [if_pos hstart]
    exact ⟨_, rfl, ⟨fun hne => absurd hstart hne, by rw [hzero]; exact Nat.zero_le _⟩⟩
  · obtain ⟨_, _, _, hvalue⟩ := UpdateCall.result_of_started hstart
    have hdue := hno update hcall hstart
    rw [if_neg hstart]
    cases epoch with
    | none => exact absurd (htracker ▸ h.unstarted rfl) hstart
    | some e =>
        obtain ⟨_, hb, hle⟩ := h.started e rfl
        refine ⟨e, rfl, ⟨fun _ => hdue, ?_⟩⟩
        rw [hvalue, subUint64_of_le hdue, htracker, hb, htotal]
        omega

def HeightBounded (s : BandwidthSampler) : Prop :=
  s.maxAckHeightTracker.maxAckHeightFilter.All (· ≤ s.totalBytesAcked)

theorem HeightBounded.call {epoch : Option Epoch} (h : s.HeightBounded) (ht : s.Tracks epoch)
    (hno : s.NoWrap op) : (s.call op).HeightBounded := by
  unfold HeightBounded
  cases hcall : s.updateCall? op with
  | none =>
      obtain ⟨htracker, htotal, _⟩ := call_of_no_update ht.settled hcall
      rw [htracker, htotal]
      exact h
  | some update =>
      obtain ⟨htracker, hresult, htotal, _⟩ := call_of_update ht.settled hcall
      have hgrown := h.mono fun a ha =>
        (show a ≤ (s.call op).totalBytesAcked by
          rw [htotal]
          exact ha.trans (Nat.le_add_right _ _))
      rw [hresult]
      by_cases hstart : update.tracker.aggregationEpochStartTime = 0
      · obtain ⟨_, _, hfilter, _⟩ := UpdateCall.result_of_unstarted hstart
        rw [hfilter, htracker]
        exact hgrown
      · obtain ⟨_, _, hfilter, _⟩ := UpdateCall.result_of_started hstart
        obtain ⟨e, _, hsound⟩ := ht.sound hno hcall
        rw [hfilter, htracker]
        exact hgrown.update (hsound.bounded.trans (Nat.sub_le _ _)) update.roundTripCount

theorem start_heightBounded : (start window overestimateAvoidance).HeightBounded := by
  cases overestimateAvoidance with
  | false => exact ⟨le_refl 0, le_refl 0, le_refl 0⟩
  | true => exact ⟨le_refl 0, le_refl 0, le_refl 0⟩

theorem run_heightBounded (hno : ∀ pre op post, ops = pre ++ op :: post →
    ((start window overestimateAvoidance).run pre).NoWrap op) :
    ((start window overestimateAvoidance).run ops).HeightBounded := by
  induction ops using List.reverseRecOn with
  | nil => exact start_heightBounded
  | append_singleton ops op ih =>
      have hbefore := ih fun pre op' post hsplit => hno pre op' (post ++ [op]) (by simp [hsplit])
      rw [run_append]
      exact hbefore.call (run_tracks ops) (hno ops op [] rfl)

/-- The ack-aggregation measurement stays within what was really acked exactly when no ack
event behind the first of its epoch is overdue. -/
theorem aggregation_sound_iff (window : Nat) (overestimateAvoidance : Bool)
    (ops : List SamplerCall) :
    AggregationSound (start window overestimateAvoidance) ops ↔
      AheadOfFirst (start window overestimateAvoidance) ops := by
  rw [aheadOfFirst_iff]
  constructor
  · intro h pre op post hsplit update hcall
    obtain ⟨_, _, hsound⟩ := h.measured pre op post update hsplit hcall
    exact hsound.noWrap
  · intro hno
    refine ⟨fun pre op post update hsplit hcall => ?_, fun pre post hsplit => ?_⟩
    · exact (run_tracks pre).sound (hno pre op post hsplit) hcall
    · have hheight : ((start window overestimateAvoidance).run pre).HeightBounded :=
        run_heightBounded fun pre' op post' hprefix =>
          hno pre' op (post' ++ post) (by simp [hsplit, hprefix])
      exact hheight.best

/-- Two packets of 1472 bytes are acked 50 ms apart, at an estimate of 1 Mbit/s. -/
def spacedAcks : List SamplerCall :=
  [.packetSent 1000 1 1472 0, .packetSent 1001 2 1472 1472,
    .congestionEvent 51000 [⟨1, 1472, 51000⟩] [] ⟨1000000⟩ .infinite 0,
    .congestionEvent 101000 [⟨2, 1472, 101000⟩] [] ⟨1000000⟩ .infinite 1]

/-- The second ack is due 6250 bytes, the epoch holds 1472: the height wraps. -/
theorem ack_height_wraps :
    ((start 4 false).run spacedAcks).totalBytesAcked = 2944 ∧
      ((start 4 false).run spacedAcks).maxAckHeight = 2 ^ 64 - 4778 := by
  decide +kernel

end BandwidthSampler

end BbrChrome
