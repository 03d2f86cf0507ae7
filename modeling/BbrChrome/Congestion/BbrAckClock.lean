import BbrChrome.Congestion.BbrModes
import BbrChrome.Congestion.RecoveryWindow

/-!
# The ack clock of BBRv1

The window grows by what was acked and no more. Up to full bandwidth neither the window nor the
pacing rate gives way, whatever is lost.
-/

namespace BbrChrome

namespace BbrSender

variable {s s' s'' : BbrSender} {c : BbrCall}

/-! ## The end of an event -/

/-- What only `calculatePacingRate` writes. -/
def rate (s : BbrSender) : QuicBandwidth × Bool := (s.pacingRate, s.detectOvershooting)

/-- The steps before the outputs leave the rate and the windows alone, and the outputs are given the
bytes that the sampler has credited. -/
theorem onCongestionEvent_writes (s : BbrSender) (rttStats : RttStats) (map : QuicUnackedPacketMap)
    (priorInFlight : Nat) (eventTime : Int) (ackedPackets : List AckedPacket)
    (lostPackets : List LostPacket) :
    ∃ (moved : BbrSender) (bytesLost excessAcked : Nat) (isRoundStart : Bool),
      moved.rate = s.rate ∧ moved.windows = s.windows ∧
      s.onCongestionEvent rttStats map priorInFlight eventTime ackedPackets lostPackets =
        moved.writeOutputs rttStats map.bytesInFlight
          (s.sampler.accounts.creditedBytes ackedPackets) bytesLost excessAcked map.leastUnacked
          isRoundStart := by
  have hbegun := @beginAcks_changes s ackedPackets !lostPackets.isEmpty
  have hrate := hbegun.keeps rate rfl
  have hwindows := hbegun.keeps windows rfl
  have hframed := hbegun.keeps (·.sampler.accounts) rfl
  unfold onCongestionEvent reactToSample
  dsimp only
  generalize s.beginAcks ackedPackets (!lostPackets.isEmpty) = begun at hrate hwindows hframed ⊢
  have hrecord := BandwidthSampler.accounts_onCongestionEvent (s := begun.1.sampler) eventTime
    ackedPackets lostPackets begun.1.maxBandwidth.getBest .infinite begun.1.roundTripCount
  generalize begun.1.sampler.onCongestionEvent eventTime ackedPackets lostPackets
    begun.1.maxBandwidth.getBest .infinite begun.1.roundTripCount = sampling at hrecord ⊢
  have hacked : subUint64 sampling.1.totalBytesAcked s.sampler.totalBytesAcked =
      s.sampler.accounts.creditedBytes ackedPackets := by
    have htotal : sampling.1.totalBytesAcked =
        s.sampler.totalBytesAcked + s.sampler.accounts.creditedBytes ackedPackets := by
      rw [hframed] at hrecord
      exact congrArg SamplerAccounts.totalBytesAcked hrecord
    rw [htotal, subUint64_of_le (Nat.le_add_right _ _), Nat.add_sub_cancel_left]
  rw [hacked]
  refine ⟨_, _, _, _, ?_, ?_, rfl⟩
  · rw [(updateMode_changes _ _ _ _ _ _ _ _).keeps rate rfl,
      (recordSample_changes _ _ _ _ _).keeps rate rfl]
    exact hrate
  · rw [(updateMode_changes _ _ _ _ _ _ _ _).keeps windows rfl,
      (recordSample_changes _ _ _ _ _).keeps windows rfl]
    exact hwindows

theorem writeOutputs_frame (s : BbrSender) (rttStats : RttStats) (bytesInFlight bytesAcked
    bytesLost excessAcked leastUnacked : Nat) (isRoundStart : Bool) :
    let s' := s.writeOutputs rttStats bytesInFlight bytesAcked bytesLost excessAcked leastUnacked
      isRoundStart
    s'.control = s.control ∧ s'.rate = (s.calculatePacingRate rttStats bytesLost).rate ∧
      s'.windows = ((s.calculatePacingRate rttStats bytesLost).calculateCongestionWindow rttStats
        bytesAcked excessAcked).windows := by
  have hend : ∀ s : BbrSender,
      (s.endCongestionEvent leastUnacked isRoundStart).rate = s.rate ∧
        (s.endCongestionEvent leastUnacked isRoundStart).windows = s.windows :=
    fun _ => ⟨(endCongestionEvent_changes _ _).keeps rate rfl,
      (endCongestionEvent_changes _ _).keeps windows rfl⟩
  refine ⟨(writeOutputs_changes _ _ _ _ _ _ _).keeps control rfl, ?_, ?_⟩
  · unfold writeOutputs
    rw [(hend _).1, (calculateRecoveryWindow_changes _ _ _).keeps rate rfl,
      (calculateCongestionWindow_changes _ _ _).keeps rate rfl]
  · unfold writeOutputs
    rw [(hend _).2, (calculateRecoveryWindow_changes _ _ _).keeps windows rfl]

/-! ## The two updates -/

/-- Overshooting is not detected by default. -/
theorem calculatePacingRate_grows (hdetect : s.detectOvershooting = false) (rttStats : RttStats)
    (bytesLost : Nat) :
    (s.calculatePacingRate rttStats bytesLost).detectOvershooting = false ∧
      (s.isAtFullBandwidth = false →
        s.pacingRate ≤ (s.calculatePacingRate rttStats bytesLost).pacingRate) := by
  unfold calculatePacingRate
  dsimp only
  split
  · exact ⟨hdetect, fun _ => le_refl _⟩
  · split
    · next hfull => exact ⟨hdetect, fun hnot => by rw [hnot] at hfull; cases hfull⟩
    · split
      · next hzero =>
          refine ⟨hdetect, fun _ => ?_⟩
          have hnone : s.pacingRate = .zero :=
            QuicBandwidth.ext (by simpa [QuicBandwidth.isZero, QuicBandwidth.zero] using hzero.1)
          rw [hnone]
          exact Nat.zero_le _
      · rw [hdetect, if_neg Bool.false_ne_true]
        exact ⟨hdetect, fun _ => le_max_left _ _⟩

theorem calculateCongestionWindow_grows (h : s.WindowInLimits) (rttStats : RttStats)
    (bytesAcked excessAcked : Nat) :
    (s.isAtFullBandwidth = false → s.congestionWindow ≤
        (s.calculateCongestionWindow rttStats bytesAcked excessAcked).congestionWindow) ∧
      (s.calculateCongestionWindow rttStats bytesAcked excessAcked).congestionWindow ≤
        s.congestionWindow + bytesAcked := by
  unfold calculateCongestionWindow
  dsimp only
  split
  · exact ⟨fun _ => le_refl _, Nat.le_add_right _ _⟩
  · have hmin : s.minCongestionWindow ≤ s.congestionWindow + bytesAcked :=
      h.min_le.trans (Nat.le_add_right _ _)
    generalize (if (!s.isAtFullBandwidth && s.enableAckAggregationDuringStartup) = true then _
      else _) = target
    constructor
    · intro hnot
      rw [hnot, if_neg Bool.false_ne_true]
      refine le_min (le_max_of_le_left ?_) h.le_max
      split
      · exact Nat.le_add_right _ _
      · exact le_refl _
    · refine (min_le_left _ _).trans (max_le ?_ hmin)
      split
      · exact min_le_right _ _
      · split
        · exact le_refl _
        · exact Nat.le_add_right _ _

/-! ## Runs -/

/-- `s'` has the pacing rate and the window of `s`, or larger ones. -/
structure NotSlower (s s' : BbrSender) : Prop where
  rate : s.pacingRate ≤ s'.pacingRate
  window : s.congestionWindow ≤ s'.congestionWindow

/-- From `s` to `s'` the window has grown by what was acked at most, and up to full bandwidth
nothing has given way. -/
structure Grows (s s' : BbrSender) : Prop where
  acked : s'.congestionWindow + s.sampler.totalBytesAcked ≤
    s.congestionWindow + s'.sampler.totalBytesAcked
  notFull : s'.isAtFullBandwidth = false → NotSlower s s'

theorem Grows.trans (h : Grows s s') (h' : Grows s' s'')
    (hfull : s'.isAtFullBandwidth = true → s''.isAtFullBandwidth = true) : Grows s s'' where
  acked := by
    have hfirst := h.acked
    have hsecond := h'.acked
    omega
  notFull := by
    intro hnot
    have hbefore : s'.isAtFullBandwidth = false := by
      cases hs : s'.isAtFullBandwidth with
      | false => rfl
      | true => rw [hfull hs] at hnot; cases hnot
    have hfirst := h.notFull hbefore
    have hsecond := h'.notFull hnot
    exact ⟨hfirst.rate.trans hsecond.rate, hfirst.window.trans hsecond.window⟩

theorem call_grows (hlimits : s.WindowInLimits) (hdetect : s.detectOvershooting = false)
    (c : BbrCall) : Grows s (s.call c) ∧ (s.call c).detectOvershooting = false := by
  cases c with
  | packetSent sentTime bytesInFlight packetNumber bytes =>
      obtain ⟨_, haccounts, _⟩ := BandwidthSampler.accounts_onPacketSent (s := s.sampler) sentTime
        packetNumber bytes bytesInFlight
      have hacked : (s.call (.packetSent sentTime bytesInFlight packetNumber
          bytes)).sampler.totalBytesAcked = s.sampler.totalBytesAcked :=
        congrArg SamplerAccounts.totalBytesAcked haccounts
      exact ⟨⟨by rw [hacked]; rfl, fun _ => ⟨le_refl _, le_refl _⟩⟩, hdetect⟩
  | congestionEvent rttStats map priorInFlight eventTime ackedPackets lostPackets =>
      have haccounts := onCongestionEvent_accounts (s := s) rttStats map priorInFlight eventTime
        ackedPackets lostPackets
      obtain ⟨moved, bytesLost, excessAcked, isRoundStart, hrate, hwindows, heq⟩ :=
        s.onCongestionEvent_writes rttStats map priorInFlight eventTime ackedPackets lostPackets
      obtain ⟨hcontrol, hpaced, hlast⟩ := moved.writeOutputs_frame rttStats map.bytesInFlight
        (s.sampler.accounts.creditedBytes ackedPackets) bytesLost excessAcked map.leastUnacked
        isRoundStart
      rw [← heq] at hcontrol hpaced hlast
      have hacked := congrArg SamplerAccounts.totalBytesAcked haccounts
      change Grows s (s.onCongestionEvent rttStats map priorInFlight eventTime ackedPackets
        lostPackets) ∧ _
      change _ ∧ (s.onCongestionEvent rttStats map priorInFlight eventTime ackedPackets
        lostPackets).detectOvershooting = false
      generalize s.onCongestionEvent rttStats map priorInFlight eventTime ackedPackets lostPackets =
        s' at *
      obtain ⟨hstill, hfaster⟩ := calculatePacingRate_grows (s := moved)
        ((congrArg Prod.snd hrate).trans hdetect) rttStats bytesLost
      have hkept := (@calculatePacingRate_changes moved rttStats bytesLost).keeps windows rfl
      obtain ⟨hwider, hclock⟩ := calculateCongestionWindow_grows
        (s := moved.calculatePacingRate rttStats bytesLost)
        (hlimits.of_windows (hkept.trans hwindows)) rttStats
        (s.sampler.accounts.creditedBytes ackedPackets) excessAcked
      have hold : (moved.calculatePacingRate rttStats bytesLost).congestionWindow =
          s.congestionWindow := congrArg Prod.fst (hkept.trans hwindows)
      have hnew : s'.congestionWindow = ((moved.calculatePacingRate rttStats
          bytesLost).calculateCongestionWindow rttStats
            (s.sampler.accounts.creditedBytes ackedPackets) excessAcked).congestionWindow :=
        congrArg Prod.fst hlast
      rw [← hnew, hold] at hclock hwider
      refine ⟨⟨?_, fun hnot => ?_⟩, (congrArg Prod.snd hpaced).trans hstill⟩
      · change s'.sampler.totalBytesAcked = s.sampler.totalBytesAcked + _ at hacked
        omega
      · have hmoved : moved.isAtFullBandwidth = false :=
          (congrArg BbrControl.isAtFullBandwidth hcontrol).symm.trans hnot
        have hpacedFull :
            (moved.calculatePacingRate rttStats bytesLost).isAtFullBandwidth = false :=
          ((calculatePacingRate_changes _ _).keeps isAtFullBandwidth rfl).trans hmoved
        refine ⟨?_, hwider hpacedFull⟩
        have hsame : moved.pacingRate = s.pacingRate := congrArg Prod.fst hrate
        have hend : s'.pacingRate = (moved.calculatePacingRate rttStats bytesLost).pacingRate :=
          congrArg Prod.fst hpaced
        rw [hend, ← hsame]
        exact hfaster hmoved

theorem run_full (h : s.isAtFullBandwidth = true) (calls : List BbrCall) :
    (s.run calls).isAtFullBandwidth = true := by
  induction calls generalizing s with
  | nil => exact h
  | cons c calls ih => exact ih (call_full h c)

theorem Grows.run (hbounded : s.WindowsBounded) (hdetect : s.detectOvershooting = false)
    (calls : List BbrCall) : Grows s (s.run calls) ∧ (s.run calls).detectOvershooting = false := by
  induction calls generalizing s with
  | nil => exact ⟨⟨le_refl _, fun _ => ⟨le_refl _, le_refl _⟩⟩, hdetect⟩
  | cons c calls ih =>
      obtain ⟨hstep, hnext⟩ := call_grows hbounded.limits hdetect c
      obtain ⟨hrest, hlast⟩ := ih (hbounded.call c).1 hnext
      exact ⟨hstep.trans hrest fun hfull => run_full hfull calls, hlast⟩

/-- Over every stretch of every run the congestion window grows by no more than the bytes that
were acked, and where the stretch ends before full bandwidth, neither the window nor the pacing
rate has given way in it. The initial window has to lie between four packets and the largest one;
`SendAlgorithmInterface::Create` passes 32 and 100000. -/
theorem run_grows (now : Int) {initialCwnd maxCwnd : Nat} (hmin : 4 ≤ initialCwnd)
    (hmax : initialCwnd ≤ maxCwnd) (stream : Nat → Nat) (early late : List BbrCall) :
    Grows ((create now initialCwnd maxCwnd stream).run early)
      ((create now initialCwnd maxCwnd stream).run (early ++ late)) := by
  have hbounded := create_windowsBounded now hmin hmax stream
  obtain ⟨_, hdetect⟩ := Grows.run hbounded rfl early
  rw [run_append]
  exact (Grows.run (hbounded.run early).1 hdetect late).1

theorem run_grows_of_roundTrips :
    Grows ((create 0 kInitialCongestionWindow 100000 id).run (roundTrips 2))
      ((create 0 kInitialCongestionWindow 100000 id).run (roundTrips 2 ++ roundTrips 1)) :=
  run_grows 0 (by decide) (by decide) id (roundTrips 2) (roundTrips 1)

end BbrSender

end BbrChrome
