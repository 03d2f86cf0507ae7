import BbrChrome.Congestion.LossRecovery

/-!
# The windows of BBRv1

PROBE_RTT, the congestion window and the recovery window each have their own bound. The recovery
window is zero while the recovery starts, and it keeps a stale value outside of it; within one
event it is written last, so what is read afterwards is never either of them.
-/

namespace BbrChrome

namespace BbrSender

/-- The windows that only the last two steps of an event write. -/
def windows (s : BbrSender) : Nat × Nat × Nat :=
  (s.congestionWindow, s.minCongestionWindow, s.maxCongestionWindow)

structure WindowInLimits (s : BbrSender) : Prop where
  min_le : s.minCongestionWindow ≤ s.congestionWindow
  le_max : s.congestionWindow ≤ s.maxCongestionWindow

/-- In recovery the recovery window allows the minimum, and a reply to what was acked. -/
structure RecoveryAllows (s : BbrSender) (bytesInFlight bytesAcked : Nat) : Prop where
  min_le : s.minCongestionWindow ≤ s.recoveryWindow
  reply_le : bytesInFlight + bytesAcked ≤ s.recoveryWindow

structure WindowsBounded (s : BbrSender) : Prop where
  limits : s.WindowInLimits
  recovery : s.inRecovery = true → s.minCongestionWindow ≤ s.recoveryWindow

variable {s s' : BbrSender} {c : BbrCall}

theorem WindowInLimits.of_windows (h : s.WindowInLimits) (hwindows : s'.windows = s.windows) :
    s'.WindowInLimits := by
  have hcwnd : s'.congestionWindow = s.congestionWindow := congrArg Prod.fst hwindows
  have hmin : s'.minCongestionWindow = s.minCongestionWindow :=
    congrArg (fun windows => windows.2.1) hwindows
  have hmax : s'.maxCongestionWindow = s.maxCongestionWindow :=
    congrArg (fun windows => windows.2.2) hwindows
  exact ⟨by rw [hmin, hcwnd]; exact h.min_le, by rw [hmax, hcwnd]; exact h.le_max⟩

/-! ## The two steps that write them -/

/-- The limits are enforced last, except in PROBE_RTT, where the window does not move. -/
theorem calculateCongestionWindow_limits (rttStats : RttStats) (bytesAcked excessAcked : Nat)
    (h : s.WindowInLimits) :
    (s.calculateCongestionWindow rttStats bytesAcked excessAcked).WindowInLimits ∧
      (s.calculateCongestionWindow rttStats bytesAcked excessAcked).windows.2 = s.windows.2 := by
  have hlimits : s.minCongestionWindow ≤ s.maxCongestionWindow := h.min_le.trans h.le_max
  unfold calculateCongestionWindow
  dsimp only
  split
  · exact ⟨h, rfl⟩
  · exact ⟨⟨le_min (le_max_right _ _) hlimits, min_le_right _ _⟩, rfl⟩

/-- Both branches end with the same two bounds, whatever was left of the window before. -/
theorem calculateRecoveryWindow_allows (bytesInFlight bytesAcked bytesLost : Nat)
    (hrecovery : (s.calculateRecoveryWindow bytesInFlight bytesAcked bytesLost).inRecovery =
      true) :
    (s.calculateRecoveryWindow bytesInFlight bytesAcked bytesLost).RecoveryAllows bytesInFlight
      bytesAcked := by
  unfold calculateRecoveryWindow at *
  dsimp only at *
  split
  · next hnone => simp [inRecovery, hnone] at hrecovery
  · split
    · exact ⟨le_max_left _ _, le_max_right _ _⟩
    · exact ⟨le_max_left _ _, (le_max_right _ _).trans (le_max_right _ _)⟩

theorem reactToSample_windows (h : s.WindowInLimits) (rttStats : RttStats)
    (map : QuicUnackedPacketMap) (priorInFlight : Nat) (eventTime : Int)
    (lostPackets : List LostPacket) (ackedBefore lostBefore : Nat) (isRoundStart : Bool)
    (sample : CongestionEventSample) :
    (s.reactToSample rttStats map priorInFlight eventTime lostPackets ackedBefore lostBefore
        isRoundStart sample).WindowInLimits ∧
      (s.reactToSample rttStats map priorInFlight eventTime lostPackets ackedBefore lostBefore
        isRoundStart sample).windows.2 = s.windows.2 ∧
      ((s.reactToSample rttStats map priorInFlight eventTime lostPackets ackedBefore lostBefore
        isRoundStart sample).inRecovery = true →
        (s.reactToSample rttStats map priorInFlight eventTime lostPackets ackedBefore lostBefore
          isRoundStart sample).RecoveryAllows map.bytesInFlight
            (subUint64 s.sampler.totalBytesAcked ackedBefore)) := by
  unfold reactToSample
  dsimp only
  generalize subUint64 s.sampler.totalBytesAcked ackedBefore = bytesAcked
  generalize subUint64 s.sampler.totalBytesLost lostBefore = bytesLost
  generalize hr : s.recordSample sample _ eventTime lostPackets bytesLost = r
  generalize hpaced : (r.1.updateMode rttStats map.bytesInFlight priorInFlight eventTime
    (!lostPackets.isEmpty) isRoundStart r.2 sample.lastPacketSendState).calculatePacingRate
      rttStats bytesLost = paced
  have hbefore : paced.windows = s.windows := by
    rw [← hpaced, (calculatePacingRate_changes _ _).keeps windows rfl,
      (updateMode_changes _ _ _ _ _ _ _ _).keeps windows rfl, ← hr]
    exact (recordSample_changes _ _ _ _ _).keeps windows rfl
  obtain ⟨hlimits, hconstant⟩ := calculateCongestionWindow_limits rttStats bytesAcked
    sample.extraAcked (h.of_windows hbefore)
  have hkept := (@calculateRecoveryWindow_changes
    (paced.calculateCongestionWindow rttStats bytesAcked sample.extraAcked) map.bytesInFlight
    bytesAcked bytesLost).keeps windows rfl
  refine ⟨hlimits.of_windows hkept, ?_, calculateRecoveryWindow_allows _ _ _⟩
  rw [hkept, hconstant, hbefore]

/-! ## Calls -/

/-- After an event: the congestion window in its limits, and a recovery window that allows the
reply to what the event acked. -/
theorem onCongestionEvent_windows (h : s.WindowInLimits) (rttStats : RttStats)
    (map : QuicUnackedPacketMap) (priorInFlight : Nat) (eventTime : Int)
    (ackedPackets : List AckedPacket) (lostPackets : List LostPacket) :
    (s.onCongestionEvent rttStats map priorInFlight eventTime ackedPackets
        lostPackets).WindowInLimits ∧
      (s.onCongestionEvent rttStats map priorInFlight eventTime ackedPackets
        lostPackets).windows.2 = s.windows.2 ∧
      ((s.onCongestionEvent rttStats map priorInFlight eventTime ackedPackets
        lostPackets).inRecovery = true →
        (s.onCongestionEvent rttStats map priorInFlight eventTime ackedPackets
          lostPackets).RecoveryAllows map.bytesInFlight
            (s.sampler.accounts.creditedBytes ackedPackets)) := by
  have hbegun := @beginAcks_changes s ackedPackets !lostPackets.isEmpty
  have hbegin := hbegun.keeps windows rfl
  have hframed := hbegun.keeps (·.sampler.accounts) rfl
  unfold onCongestionEvent
  dsimp only
  generalize s.beginAcks ackedPackets (!lostPackets.isEmpty) = r at hbegin hframed ⊢
  have hrecord := BandwidthSampler.accounts_onCongestionEvent (s := r.1.sampler) eventTime
    ackedPackets lostPackets r.1.maxBandwidth.getBest .infinite r.1.roundTripCount
  generalize r.1.sampler.onCongestionEvent eventTime ackedPackets lostPackets
    r.1.maxBandwidth.getBest .infinite r.1.roundTripCount = sampled at hrecord ⊢
  have hacked : subUint64 sampled.1.totalBytesAcked s.sampler.totalBytesAcked =
      s.sampler.accounts.creditedBytes ackedPackets := by
    have htotal : sampled.1.totalBytesAcked =
        s.sampler.totalBytesAcked + s.sampler.accounts.creditedBytes ackedPackets := by
      rw [hframed] at hrecord
      exact congrArg SamplerAccounts.totalBytesAcked hrecord
    rw [htotal, subUint64_of_le (Nat.le_add_right _ _), Nat.add_sub_cancel_left]
  have hreact := reactToSample_windows (s := { r.1 with sampler := sampled.1 })
    (h.of_windows hbegin) rttStats map priorInFlight eventTime lostPackets
    s.sampler.totalBytesAcked s.sampler.totalBytesLost r.2 sampled.2
  dsimp only at hreact
  rw [hacked] at hreact
  generalize { r.1 with sampler := sampled.1 }.reactToSample rttStats map priorInFlight eventTime
    lostPackets s.sampler.totalBytesAcked s.sampler.totalBytesLost r.2 sampled.2 = t at hreact ⊢
  obtain ⟨hlimits, hconstant, hallows⟩ := hreact
  have hlast := @endCongestionEvent_changes t map.leastUnacked r.2
  have hend : (t.endCongestionEvent map.leastUnacked r.2).windows = t.windows :=
    hlast.keeps windows rfl
  have hmin : (t.endCongestionEvent map.leastUnacked r.2).minCongestionWindow =
      t.minCongestionWindow := hlast.keeps minCongestionWindow rfl
  have hwindow : (t.endCongestionEvent map.leastUnacked r.2).recoveryWindow = t.recoveryWindow :=
    hlast.keeps recoveryWindow rfl
  refine ⟨hlimits.of_windows hend, ?_, fun hin => ?_⟩
  · rw [hend, hconstant]
    exact congrArg Prod.snd hbegin
  · have hallowed := hallows ((hlast.keeps inRecovery rfl).symm.trans hin)
    exact ⟨by rw [hmin, hwindow]; exact hallowed.min_le, by rw [hwindow]; exact hallowed.reply_le⟩

theorem WindowsBounded.getCongestionWindow (h : s.WindowsBounded) :
    s.minCongestionWindow ≤ s.getCongestionWindow ∧
      s.getCongestionWindow ≤ s.maxCongestionWindow := by
  have hmin := h.limits.min_le
  have hmax := h.limits.le_max
  unfold BbrSender.getCongestionWindow probeRttCongestionWindow
  split
  · exact ⟨le_refl _, hmin.trans hmax⟩
  · split
    · next hrecovery =>
        exact ⟨le_min hmin (h.recovery hrecovery), (min_le_left _ _).trans hmax⟩
    · exact ⟨hmin, hmax⟩

theorem WindowsBounded.call (h : s.WindowsBounded) (c : BbrCall) :
    (s.call c).WindowsBounded ∧ (s.call c).windows.2 = s.windows.2 := by
  cases c with
  | packetSent sentTime bytesInFlight packetNumber bytes =>
      exact ⟨⟨h.limits.of_windows rfl, h.recovery⟩, rfl⟩
  | congestionEvent rttStats map priorInFlight eventTime ackedPackets lostPackets =>
      obtain ⟨hlimits, hconstant, hallows⟩ := onCongestionEvent_windows h.limits rttStats map
        priorInFlight eventTime ackedPackets lostPackets
      exact ⟨⟨hlimits, fun hrecovery => (hallows hrecovery).min_le⟩, hconstant⟩

theorem WindowsBounded.run (h : s.WindowsBounded) (calls : List BbrCall) :
    (s.run calls).WindowsBounded ∧ (s.run calls).windows.2 = s.windows.2 := by
  induction calls generalizing s with
  | nil => exact ⟨h, rfl⟩
  | cons c calls ih =>
      obtain ⟨hnext, hconstant⟩ := h.call c
      obtain ⟨hlast, hrest⟩ := ih hnext
      exact ⟨hlast, hrest.trans hconstant⟩

theorem create_windowsBounded (now : Int) {initialCwnd maxCwnd : Nat} (hmin : 4 ≤ initialCwnd)
    (hmax : initialCwnd ≤ maxCwnd) (stream : Nat → Nat) :
    (create now initialCwnd maxCwnd stream).WindowsBounded where
  limits :=
    { min_le := by
        show 4 * kMaxSegmentSize ≤ initialCwnd * kDefaultTCPMSS
        exact Nat.mul_le_mul_right kDefaultTCPMSS hmin
      le_max := by
        show initialCwnd * kDefaultTCPMSS ≤ maxCwnd * kDefaultTCPMSS
        exact Nat.mul_le_mul_right kDefaultTCPMSS hmax }
  recovery := fun h => nomatch h

/-- In every run the reported window is within the limits that the constructor has set, and in
recovery after an event the recovery window allows the minimum and the reply to what the event
acked. The window that the constructor is given has to lie within these limits from the start;
`SendAlgorithmInterface::Create` passes 32 and 100000 packets. -/
theorem run_windows (now : Int) {initialCwnd maxCwnd : Nat} (hmin : 4 ≤ initialCwnd)
    (hmax : initialCwnd ≤ maxCwnd) (stream : Nat → Nat) (calls : List BbrCall) :
    let s := (create now initialCwnd maxCwnd stream).run calls
    (s.minCongestionWindow = 4 * kMaxSegmentSize ∧
      s.maxCongestionWindow = maxCwnd * kDefaultTCPMSS) ∧
    (s.minCongestionWindow ≤ s.getCongestionWindow ∧
      s.getCongestionWindow ≤ s.maxCongestionWindow) ∧
    ∀ rttStats map priorInFlight eventTime ackedPackets lostPackets,
      let s' := s.call
        (.congestionEvent rttStats map priorInFlight eventTime ackedPackets lostPackets)
      s'.inRecovery = true →
        s'.RecoveryAllows map.bytesInFlight (s.sampler.accounts.creditedBytes ackedPackets) := by
  obtain ⟨hbounded, hconstant⟩ :=
    (create_windowsBounded now hmin hmax stream).run calls
  refine ⟨⟨congrArg Prod.fst hconstant, congrArg Prod.snd hconstant⟩,
    hbounded.getCongestionWindow, ?_⟩
  intro rttStats map priorInFlight eventTime ackedPackets lostPackets
  exact (onCongestionEvent_windows hbounded.limits rttStats map priorInFlight eventTime
    ackedPackets lostPackets).2.2

/-- A loss that is reported with an ack, at full bandwidth, leads into recovery. -/
theorem run_windows_default :
    let s := (create 1 kInitialCongestionWindow 100000 id).run (roundTrips 6 ++
      [.packetSent 200001 0 7 defaultPacketSize,
        .packetSent 200101 defaultPacketSize 8 defaultPacketSize,
        .packetSent 200201 (2 * defaultPacketSize) 9 defaultPacketSize])
    let s' := s.call (.congestionEvent {} { bytesInFlight := defaultPacketSize }
      (3 * defaultPacketSize) 210101 [⟨8, defaultPacketSize, 210101⟩] [⟨7, defaultPacketSize⟩])
    (s.minCongestionWindow ≤ s.getCongestionWindow ∧
      s.getCongestionWindow ≤ s.maxCongestionWindow) ∧
    s'.inRecovery = true ∧ s'.RecoveryAllows defaultPacketSize defaultPacketSize := by
  intro s s'
  have hinitial : 4 ≤ kInitialCongestionWindow := by decide
  have hmax : kInitialCongestionWindow ≤ 100000 := by decide
  obtain ⟨_, hwindow, hrecovery⟩ := run_windows 1 hinitial hmax id (roundTrips 6 ++
    [.packetSent 200001 0 7 defaultPacketSize,
      .packetSent 200101 defaultPacketSize 8 defaultPacketSize,
      .packetSent 200201 (2 * defaultPacketSize) 9 defaultPacketSize])
  have hin : s'.inRecovery = true := by decide +kernel
  have hcredited : s.sampler.accounts.creditedBytes [⟨8, defaultPacketSize, 210101⟩] =
      defaultPacketSize := by decide +kernel
  have hallows : s'.RecoveryAllows defaultPacketSize
      (s.sampler.accounts.creditedBytes [⟨8, defaultPacketSize, 210101⟩]) :=
    hrecovery {} { bytesInFlight := defaultPacketSize } (3 * defaultPacketSize) 210101
      [⟨8, defaultPacketSize, 210101⟩] [⟨7, defaultPacketSize⟩] hin
  rw [hcredited] at hallows
  exact ⟨hwindow, hin, hallows⟩

end BbrSender

end BbrChrome
