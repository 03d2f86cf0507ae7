import BbrChrome.Congestion.Bbr2Event
import BbrChrome.Congestion.Bbr2Run

/-!
# The window of BBRv2

The window stays between its limits, it grows by no more than the bytes that are acked, and an
event leaves it within the limit of the mode that the event ends in.
-/

namespace BbrChrome

namespace Limits

variable {limits : Limits} {raw limit : Nat}

theorem min_le_applyLimits (h : limits.min ≤ limits.max) : limits.min ≤ limits.applyLimits raw :=
  le_min h (le_max_left _ _)

theorem applyLimits_le (hraw : raw ≤ limit) :
    limits.applyLimits raw ≤ Max.max limits.min limit :=
  (min_le_right _ _).trans (max_le_max_left _ hraw)

theorem noGreaterThan_le (max raw : Nat) :
    (noGreaterThan max).applyLimits raw ≤ max ∧ (noGreaterThan max).applyLimits raw ≤ raw :=
  ⟨min_le_left _ _, (min_le_right _ _).trans (max_le (Nat.zero_le _) (le_refl _))⟩

end Limits

namespace Bbr2Sender

variable {s : Bbr2Sender} {event : Bbr2CongestionEvent}

/-! ## One update -/

/-- The largest window that the mode allows. -/
def modeLimit (s : Bbr2Sender) : Nat := s.getCwndLimitsByMode.max

theorem getCwndLimitsByMode_eq (s : Bbr2Sender) :
    s.getCwndLimitsByMode = .noGreaterThan s.modeLimit := by
  unfold modeLimit getCwndLimitsByMode
  cases s.mode with
  | probeBw =>
      dsimp only
      split <;> rfl
  | _ => rfl

/-- The update raises the window by what was acked, at most up to the limit of the mode. -/
theorem updateCongestionWindow_bounds (bytesAcked : Nat) :
    (s.updateCongestionWindow bytesAcked).cwnd ≤
        max s.params.cwndLimits.min (s.cwnd + bytesAcked) ∧
      (s.updateCongestionWindow bytesAcked).cwnd ≤ max s.params.cwndLimits.min s.modeLimit ∧
      (s.updateCongestionWindow bytesAcked).cwnd ≤ s.params.cwndLimits.max ∧
      (s.params.cwndLimits.min ≤ s.params.cwndLimits.max →
        s.params.cwndLimits.min ≤ (s.updateCongestionWindow bytesAcked).cwnd) := by
  unfold updateCongestionWindow
  rw [getCwndLimitsByMode_eq]
  dsimp only
  refine ⟨Limits.applyLimits_le ?_, Limits.applyLimits_le (Limits.noGreaterThan_le _ _).1,
    min_le_left _ _, Limits.min_le_applyLimits⟩
  apply (Limits.noGreaterThan_le _ _).2.trans
  split
  · exact min_le_left _ _
  · split
    · exact le_refl _
    · exact Nat.le_add_right _ _

/-- What follows the update of the window keeps the limit of the mode. -/
theorem finishCongestionEvent_modeLimit (leastUnacked : Nat) :
    (s.finishCongestionEvent leastUnacked event).modeLimit = s.modeLimit :=
  (finishCongestionEvent_changes leastUnacked).keeps modeLimit rfl

/-! ## Over a run -/

structure WindowWithin (start : Nat) (s : Bbr2Sender) : Prop where
  range : s.params.cwndLimits.min ≤ s.params.cwndLimits.max
  floor : s.params.cwndLimits.min ≤ s.cwnd
  cap : s.cwnd ≤ s.params.cwndLimits.max
  acked : s.cwnd ≤ start + s.model.totalBytesAcked

variable {start : Nat}

theorem onCongestionEvent_window (hs : s.HasDefaults) (h : s.WindowWithin start)
    (leastUnacked priorInFlight : Nat) (eventTime : Int) (ackedPackets : List AckedPacket)
    (lostPackets : List LostPacket) :
    (s.onCongestionEvent leastUnacked priorInFlight eventTime ackedPackets
        lostPackets).WindowWithin start ∧
      (s.onCongestionEvent leastUnacked priorInFlight eventTime ackedPackets lostPackets).cwnd ≤
        max s.params.cwndLimits.min (s.onCongestionEvent leastUnacked priorInFlight eventTime
          ackedPackets lostPackets).modeLimit := by
  have hparams : (s.onCongestionEvent leastUnacked priorInFlight eventTime ackedPackets
      lostPackets).params = s.params :=
    hs.call_params (.congestionEvent leastUnacked priorInFlight eventTime ackedPackets lostPackets)
  have hbytes : (s.congestionEvent priorInFlight eventTime ackedPackets lostPackets).bytesAcked =
      s.model.bandwidthSampler.accounts.creditedBytes ackedPackets :=
    Bbr2NetworkModel.onCongestionEventStart_bytesAcked ..
  have hacked : (s.onCongestionEvent leastUnacked priorInFlight eventTime ackedPackets
      lostPackets).model.totalBytesAcked =
        s.model.totalBytesAcked + s.model.bandwidthSampler.accounts.creditedBytes ackedPackets :=
    congrArg SamplerAccounts.totalBytesAcked (onCongestionEvent_accounts leastUnacked priorInFlight
      eventTime ackedPackets lostPackets)
  -- The loop over the modes keeps the window and the parameters.
  have hreacted := @runModes_changes
    (s.sampled priorInFlight eventTime ackedPackets lostPackets)
    (s.congestionEvent priorInFlight eventTime ackedPackets lostPackets) priorInFlight eventTime
    (kMaxModeChangesPerCongestionEvent + 1)
  have hcwnd := (hreacted.keeps cwnd rfl).trans
    ((sampled_changes priorInFlight eventTime ackedPackets lostPackets).keeps cwnd rfl)
  have hlimits := (hreacted.keeps (·.model.params) rfl).trans
    (s.sampled_move hs.bwLoMode priorInFlight eventTime ackedPackets lostPackets).params_eq
  rw [onCongestionEvent_eq] at hparams hacked ⊢
  rw [finishCongestionEvent_modeLimit]
  generalize runModes priorInFlight eventTime _ _ _ = t at hparams hacked hcwnd hlimits ⊢
  obtain ⟨hgrow, hmode, hcap, hfloor⟩ := @updateCongestionWindow_bounds t
    (s.congestionEvent priorInFlight eventTime ackedPackets lostPackets).bytesAcked
  have hfinal : (t.finishCongestionEvent leastUnacked
      (s.congestionEvent priorInFlight eventTime ackedPackets lostPackets)).cwnd = _ :=
    finishCongestionEvent_cwnd leastUnacked
  have htparams : t.params = s.params := hlimits
  rw [htparams, hcwnd] at hgrow
  rw [← hbytes] at hacked
  rw [htparams] at hmode hcap hfloor
  have hbefore := h.acked
  have hfloor' := h.floor
  refine ⟨⟨?_, ?_, ?_, ?_⟩, ?_⟩
  · rw [hparams]
    exact h.range
  · rw [hparams, hfinal]
    exact hfloor h.range
  · rw [hparams, hfinal]
    exact hcap
  · rw [hacked, hfinal]
    omega
  · rw [hfinal]
    exact hmode

theorem WindowWithin.call (h : s.WindowWithin start) (hs : s.HasDefaults) (c : Bbr2Call) :
    (s.call c).WindowWithin start := by
  cases c with
  | packetSent sentTime bytesInFlight packetNumber bytes =>
      obtain ⟨hsampler, hcwnd, -⟩ :=
        @onPacketSent_frame s sentTime bytesInFlight packetNumber bytes
      have hacked : (s.onPacketSent sentTime bytesInFlight packetNumber
          bytes).model.totalBytesAcked = s.model.totalBytesAcked := by
        obtain ⟨e, haccounts, _⟩ := BandwidthSampler.accounts_onPacketSent
          (s := s.model.bandwidthSampler) sentTime packetNumber bytes bytesInFlight
        rw [← hsampler] at haccounts
        exact congrArg SamplerAccounts.totalBytesAcked haccounts
      have hlimits : (s.onPacketSent sentTime bytesInFlight packetNumber bytes).params = s.params :=
        hs.call_params (.packetSent sentTime bytesInFlight packetNumber bytes)
      change (s.onPacketSent sentTime bytesInFlight packetNumber bytes).WindowWithin start
      refine ⟨?_, ?_, ?_, ?_⟩
      · rw [hlimits]
        exact h.range
      · rw [hlimits, hcwnd]
        exact h.floor
      · rw [hlimits, hcwnd]
        exact h.cap
      · rw [hacked, hcwnd]
        exact h.acked
  | congestionEvent leastUnacked priorInFlight eventTime ackedPackets lostPackets =>
      exact (onCongestionEvent_window hs h _ _ _ _ _).1

theorem create_windowWithin (now : Int) (rttStats : RttStats) (initialCwnd : Nat) {maxCwnd : Nat}
    (hmax : 4 ≤ maxCwnd) (stream : Nat → Nat) :
    (create now rttStats initialCwnd maxCwnd stream).WindowWithin
      (create now rttStats initialCwnd maxCwnd stream).cwnd := by
  have hrange : 4 * kMaxSegmentSize ≤ maxCwnd * kDefaultTCPMSS := Nat.mul_le_mul_right _ hmax
  exact ⟨hrange, Limits.min_le_applyLimits hrange, min_le_left _ _, Nat.le_add_right _ _⟩

theorem WindowWithin.run (h : s.WindowWithin start) (hs : s.HasDefaults) (calls : List Bbr2Call) :
    (s.run calls).WindowWithin start := by
  have hcall : ∀ (t : Bbr2Sender) c, t.HasDefaults ∧ t.WindowWithin start →
      (t.call c).HasDefaults ∧ (t.call c).WindowWithin start :=
    fun _ c ⟨ht, h⟩ => ⟨ht.call c, h.call ht c⟩
  exact (run_invariant hcall ⟨hs, h⟩ calls).2

theorem run_params (hs : s.HasDefaults) (calls : List Bbr2Call) :
    (s.run calls).HasDefaults ∧ (s.run calls).params = s.params := by
  have hcall : ∀ (t : Bbr2Sender) c, t.HasDefaults ∧ t.params = s.params →
      (t.call c).HasDefaults ∧ (t.call c).params = s.params :=
    fun t c ⟨ht, hsame⟩ => ⟨ht.call c, (ht.call_params c).trans hsame⟩
  exact run_invariant hcall ⟨hs, rfl⟩ calls

/-- In every run the window lies between four segments and the largest window, if that one has room
for four, it exceeds the initial one by no more than the bytes acked, and every congestion event
leaves it within the limit of the mode in which the event ends, unless that limit lies below four
segments. -/
theorem run_windowWithin (now : Int) (rttStats : RttStats) (initialCwnd maxCwnd : Nat)
    (stream : Nat → Nat) (calls : List Bbr2Call) (hmax : 4 ≤ maxCwnd) :
    (4 * kMaxSegmentSize ≤ ((create now rttStats initialCwnd maxCwnd stream).run calls).cwnd ∧
      ((create now rttStats initialCwnd maxCwnd stream).run calls).cwnd ≤
        maxCwnd * kDefaultTCPMSS ∧
      ((create now rttStats initialCwnd maxCwnd stream).run calls).cwnd ≤
        (create now rttStats initialCwnd maxCwnd stream).cwnd +
          ((create now rttStats initialCwnd maxCwnd stream).run calls).model.totalBytesAcked) ∧
    ∀ leastUnacked priorInFlight eventTime ackedPackets lostPackets,
      (((create now rttStats initialCwnd maxCwnd stream).run calls).onCongestionEvent leastUnacked
          priorInFlight eventTime ackedPackets lostPackets).cwnd ≤
        max (4 * kMaxSegmentSize)
          (((create now rttStats initialCwnd maxCwnd stream).run calls).onCongestionEvent
            leastUnacked priorInFlight eventTime ackedPackets lostPackets).modeLimit := by
  have hcreate := create_hasDefaults now rttStats initialCwnd maxCwnd stream
  obtain ⟨hs, hparams⟩ := run_params hcreate calls
  have hlimits : ((create now rttStats initialCwnd maxCwnd stream).run calls).params.cwndLimits =
      ⟨4 * kMaxSegmentSize, maxCwnd * kDefaultTCPMSS⟩ := congrArg Bbr2Params.cwndLimits hparams
  have hwithin := (create_windowWithin now rttStats initialCwnd hmax stream).run hcreate calls
  generalize (create now rttStats initialCwnd maxCwnd stream).run calls = s at *
  have hfloor := hwithin.floor
  have hcap := hwithin.cap
  rw [hlimits] at hfloor hcap
  refine ⟨⟨hfloor, hcap, hwithin.acked⟩, ?_⟩
  intro leastUnacked priorInFlight eventTime ackedPackets lostPackets
  have hmode := (onCongestionEvent_window hs hwithin leastUnacked priorInFlight eventTime
    ackedPackets lostPackets).2
  rw [hlimits] at hmode
  exact hmode

/-- A run from STARTUP into PROBE_BW, and an event that reports a loss behind it. -/
theorem run_windowWithin_of_roundTrips :
    let start := create 1 {} 32 100000 fun _ => 0
    let s := start.run (roundTrips 8 1460)
    let lossy := s.onCongestionEvent 9 2920 18001 [⟨10, 1460, 18001⟩] [⟨9, 1460⟩]
    s.mode = .probeBw ∧
      (4 * kMaxSegmentSize ≤ s.cwnd ∧ s.cwnd ≤ 100000 * kDefaultTCPMSS ∧
        s.cwnd ≤ start.cwnd + s.model.totalBytesAcked) ∧
      lossy.cwnd ≤ max (4 * kMaxSegmentSize) lossy.modeLimit := by
  obtain ⟨hwindow, hmode⟩ :=
    run_windowWithin 1 {} 32 100000 (fun _ => 0) (roundTrips 8 1460) (by decide)
  exact ⟨by decide +kernel, hwindow, hmode 9 2920 18001 [⟨10, 1460, 18001⟩] [⟨9, 1460⟩]⟩

end Bbr2Sender

end BbrChrome
