import BbrChrome.Congestion.CubicRun
import Mathlib.Data.Nat.NthRoot.Defs

/-!
# The budget of the proportional rate reduction

In recovery a sender may send in proportion to what the acks have delivered since the loss. The
sender forwards losses and acks to its `PrrSender`, but not the packets it sends, so the budget
is never used up.
-/

namespace BbrChrome

/-- What has happened since the loss that opened the current loss event. -/
structure RecoveryHistory where
  sent : Nat := 0
  delivered : Nat := 0
  acks : Nat := 0
  priorInFlight : Nat := 0
deriving DecidableEq, Repr

/-- The history after an operation that the sender is about to perform. -/
def RecoveryHistory.observe (h : RecoveryHistory) (s : TcpCubicSenderBytes) :
    CubicOperation → RecoveryHistory
  | .packetLost packetNumber _ priorInFlight =>
      if s.isSameLossEvent packetNumber then h else { priorInFlight }
  | .packetAcked _ _ ackedBytes _ _ =>
      { h with delivered := h.delivered + ackedBytes, acks := h.acks + 1 }
  | .packetSent _ _ _ bytes => { h with sent := h.sent + bytes }
  | .exitCheck _ _ => h
  | .retransmissionTimeout _ => h

namespace PrrSender

theorem canSend_iff {p : PrrSender} {congestionWindow bytesInFlight slowstartThreshold : Nat} :
    p.canSend congestionWindow bytesInFlight slowstartThreshold = true ↔
      p.bytesSentSinceLoss = 0 ∨ bytesInFlight < kMaxSegmentSize ∨
        (bytesInFlight < congestionWindow ∧
          p.bytesSentSinceLoss <
            p.bytesDeliveredSinceLoss + p.ackCountSinceLoss * kMaxSegmentSize) ∨
        (congestionWindow ≤ bytesInFlight ∧
          p.bytesSentSinceLoss * p.bytesInFlightBeforeLoss <
            p.bytesDeliveredSinceLoss * slowstartThreshold) := by
  unfold canSend
  split
  · next hfree => simp [or_assoc.symm, hfree]
  · next hcounted =>
      rw [not_or] at hcounted
      split
      · next hbelow =>
          have hnot : ¬ congestionWindow ≤ bytesInFlight := Nat.not_le.mpr hbelow
          simp [hcounted, hbelow, hnot]
      · next hnot =>
          have habove : congestionWindow ≤ bytesInFlight := Nat.le_of_not_lt hnot
          simp [hcounted, hnot, habove]

end PrrSender

/-- What the rate reduction depends on. -/
structure ReductionState where
  noPrr : Bool
  largeReduction : Bool
  minimum : Nat
  prr : PrrSender
  window : Nat
  largestAcked : QuicPacketNumber
  cutback : QuicPacketNumber

namespace ReductionState

/-- The loss event of the last cutback goes on: nothing sent after the cutback has been acked. -/
def LossEventOpen (r : ReductionState) : Prop :=
  r.cutback.isInitialized = true ∧ ∀ n, r.largestAcked = .number n → n ≤ r.cutback.toUint64

/-- While the loss event goes on, the counters follow the history, apart from the bytes sent, and
the window is not below its minimum. -/
structure Reducing (r : ReductionState) (h : RecoveryHistory) : Prop where
  noPrr : r.noPrr = false
  largeReduction : r.largeReduction = false
  minimum : r.minimum = kDefaultMinimumCongestionWindow
  unsent : r.prr.bytesSentSinceLoss = 0
  window : r.LossEventOpen → r.minimum ≤ r.window
  counters : r.LossEventOpen →
    r.prr.bytesDeliveredSinceLoss = h.delivered ∧ r.prr.ackCountSinceLoss = h.acks ∧
      r.prr.bytesInFlightBeforeLoss = h.priorInFlight

variable {r : ReductionState} {h : RecoveryHistory}

theorem Reducing.of_not_open (hreducing : r.Reducing h) (window : Nat)
    (largestAcked cutback : QuicPacketNumber)
    (hclosed : ¬ ({ r with window, largestAcked, cutback } : ReductionState).LossEventOpen)
    (h' : RecoveryHistory) :
    ({ r with window, largestAcked, cutback } : ReductionState).Reducing h' where
  noPrr := hreducing.noPrr
  largeReduction := hreducing.largeReduction
  minimum := hreducing.minimum
  unsent := hreducing.unsent
  window hopen := absurd hopen hclosed
  counters hopen := absurd hopen hclosed

end ReductionState

namespace TcpCubicSenderBytes

def reductionState (s : TcpCubicSenderBytes) : ReductionState where
  noPrr := s.noPrr
  largeReduction := s.slowStartLargeReduction
  minimum := s.minCongestionWindow
  prr := s.prr
  window := s.congestionWindow
  largestAcked := s.largestAckedPacketNumber
  cutback := s.largestSentAtLastCutback

def observe : TcpCubicSenderBytes × RecoveryHistory → CubicOperation →
    TcpCubicSenderBytes × RecoveryHistory
  | (s, h), operation => (s.perform operation, h.observe s operation)

def history (s : TcpCubicSenderBytes) (calls : List CubicCall) : RecoveryHistory :=
  ((calls.flatMap CubicCall.operations).foldl observe (s, {})).2

/-- Whatever is sent in recovery is within the budget, which is computed from the bytes actually
sent: one segment for each ack while the window allows more, a share of the delivered bytes
otherwise. -/
def ReductionLaw (s : TcpCubicSenderBytes) (h : RecoveryHistory) : Prop :=
  ∀ bytesInFlight, s.inRecovery = true → s.canSend bytesInFlight = true → 0 < h.sent →
    kMaxSegmentSize ≤ bytesInFlight →
    (bytesInFlight < s.congestionWindow ∧ h.sent < h.delivered + h.acks * kMaxSegmentSize) ∨
      (s.congestionWindow ≤ bytesInFlight ∧
        h.sent * h.priorInFlight < h.delivered * s.slowstartThreshold)

structure BudgetLeft (s : TcpCubicSenderBytes) (h : RecoveryHistory) : Prop where
  perAck : h.sent < h.delivered + h.acks * kMaxSegmentSize
  proportional : h.sent * h.priorInFlight < h.delivered * s.slowstartThreshold

variable {s : TcpCubicSenderBytes} {h : RecoveryHistory}

theorem lossEventOpen_of_inRecovery (hrecovery : s.inRecovery = true) :
    s.reductionState.LossEventOpen := by
  unfold inRecovery at hrecovery
  simp only [Bool.and_eq_true, decide_eq_true_eq] at hrecovery
  obtain ⟨⟨_, hcutback⟩, hle⟩ := hrecovery
  refine ⟨hcutback, fun n hn => ?_⟩
  have hlargest : s.largestAckedPacketNumber = .number n := hn
  rw [hlargest] at hle
  exact hle

theorem inRecovery_of_lossEventOpen (hopen : s.reductionState.LossEventOpen)
    (hacked : s.largestAckedPacketNumber.isInitialized = true) : s.inRecovery = true := by
  have hcutback : s.largestSentAtLastCutback.isInitialized = true := hopen.1
  unfold inRecovery
  rw [hacked, hcutback]
  cases hlargest : s.largestAckedPacketNumber with
  | number n => exact decide_eq_true (hopen.2 n hlargest)
  | uninitialized =>
      rw [hlargest] at hacked
      cases hacked

theorem lossEventOpen_of_updateLargestAcked {ackedPacketNumber : Nat}
    (hopen : (s.updateLargestAcked ackedPacketNumber).reductionState.LossEventOpen) :
    s.reductionState.LossEventOpen := by
  refine ⟨hopen.1, fun n hn => ?_⟩
  have hlargest : s.largestAckedPacketNumber = .number n := hn
  have hupdated : (s.updateLargestAcked ackedPacketNumber).largestAckedPacketNumber =
      .number (max n ackedPacketNumber) := by
    unfold updateLargestAcked
    rw [hlargest]
    rfl
  exact (Nat.le_max_left _ _).trans (hopen.2 _ hupdated)

theorem not_lossEventOpen_of_updateLargestAcked {ackedPacketNumber : Nat}
    (hnot : ¬ (s.updateLargestAcked ackedPacketNumber).inRecovery = true) :
    ¬ (s.updateLargestAcked ackedPacketNumber).reductionState.LossEventOpen := by
  have hacked : (s.updateLargestAcked
      ackedPacketNumber).largestAckedPacketNumber.isInitialized = true := by
    unfold updateLargestAcked
    cases s.largestAckedPacketNumber with
    | number n => rfl
    | uninitialized => rfl
  exact fun hopen => hnot (inRecovery_of_lossEventOpen hopen hacked)

/-! ## One operation -/

theorem reductionState_maybeExitSlowStart (rttStats : RttStats) (rttUpdated : Bool) :
    (s.maybeExitSlowStart rttStats rttUpdated).reductionState = s.reductionState := by
  rcases maybeExitSlowStart_cases s rttStats rttUpdated with heq | ⟨_, _, heq | heq⟩
  · rw [heq]
  · rw [heq]
    rfl
  · rw [heq]
    rfl

theorem reductionState_onRepeatedLoss (hlarge : s.slowStartLargeReduction = false)
    (lostBytes : Nat) : (s.onRepeatedLoss lostBytes).reductionState = s.reductionState := by
  rw [onRepeatedLoss_eq hlarge lostBytes]
  rfl

theorem reductionState_reduceWindow (hlarge : s.slowStartLargeReduction = false) :
    s.reduceWindow.reductionState =
      { s.reductionState with window := s.reduceWindow.congestionWindow } := by
  unfold reduceWindow
  rw [if_neg (by simp [hlarge])]
  split
  · rfl
  · rfl

theorem reductionState_maybeIncreaseCwnd (rttStats : RttStats) (ackedBytes priorInFlight : Nat)
    (eventTime : Int) :
    (s.maybeIncreaseCwnd rttStats ackedBytes priorInFlight eventTime).reductionState =
      { s.reductionState with
        window :=
          (s.maybeIncreaseCwnd rttStats ackedBytes priorInFlight eventTime).congestionWindow } := by
  unfold maybeIncreaseCwnd
  split
  · rfl
  split
  · rfl
  split
  · rfl
  split
  · dsimp only
    split
    · rfl
    · rfl
  · rfl

theorem reducing_cutBack (hreducing : s.reductionState.Reducing h) (priorInFlight : Nat) :
    (s.cutBack priorInFlight).reductionState.Reducing { priorInFlight } := by
  have hopen : (s.openLossEvent priorInFlight).reductionState =
      { s.reductionState with prr := s.prr.onPacketLost priorInFlight } := by
    have hnoPrr : s.noPrr = false := hreducing.noPrr
    simp [openLossEvent, reductionState, hnoPrr]
  have hlarge : (s.openLossEvent priorInFlight).slowStartLargeReduction = false :=
    hreducing.largeReduction
  have hreduced := reductionState_reduceWindow hlarge
  rw [hopen] at hreduced
  unfold cutBack
  generalize (s.openLossEvent priorInFlight).reduceWindow = t at *
  have hprr : t.prr = s.prr.onPacketLost priorInFlight := congrArg ReductionState.prr hreduced
  refine ⟨?_, ?_, ?_, ?_, fun _ => ?_, fun _ => ?_⟩
  · exact (congrArg ReductionState.noPrr hreduced).trans hreducing.noPrr
  · exact (congrArg ReductionState.largeReduction hreduced).trans hreducing.largeReduction
  · exact (congrArg ReductionState.minimum hreduced).trans hreducing.minimum
  · exact congrArg PrrSender.bytesSentSinceLoss hprr
  · dsimp only [reductionState]
    split
    · exact Nat.le_refl _
    · next hnot => exact Nat.le_of_not_lt hnot
  · dsimp only [reductionState]
    rw [hprr]
    exact ⟨rfl, rfl, rfl⟩

theorem reducing_onPacketAcked (hreducing : s.reductionState.Reducing h) (rttStats : RttStats)
    (ackedPacketNumber ackedBytes priorInFlight : Nat) (eventTime : Int) :
    (s.onPacketAcked rttStats ackedPacketNumber ackedBytes priorInFlight
      eventTime).reductionState.Reducing
        { h with delivered := h.delivered + ackedBytes, acks := h.acks + 1 } := by
  have hnoPrr : (s.updateLargestAcked ackedPacketNumber).noPrr = false := hreducing.noPrr
  unfold onPacketAcked
  dsimp only
  split
  · next hrecovery =>
      rw [if_neg (by simp [hnoPrr])]
      have hopen : s.reductionState.LossEventOpen :=
        lossEventOpen_of_updateLargestAcked (lossEventOpen_of_inRecovery hrecovery)
      obtain ⟨hdelivered, hacks, hprior⟩ := hreducing.counters hopen
      exact ⟨hreducing.noPrr, hreducing.largeReduction, hreducing.minimum, hreducing.unsent,
        fun _ => hreducing.window hopen, fun _ => ⟨congrArg (· + ackedBytes) hdelivered,
          congrArg (· + 1) hacks, hprior⟩⟩
  · next hnot =>
      have hclosed := not_lossEventOpen_of_updateLargestAcked hnot
      have hbefore : (s.updateLargestAcked ackedPacketNumber).reductionState.Reducing h :=
        hreducing.of_not_open _ _ _ hclosed h
      generalize s.updateLargestAcked ackedPacketNumber = t at *
      have hgrown := @reductionState_maybeIncreaseCwnd t rttStats ackedBytes priorInFlight eventTime
      generalize t.maybeIncreaseCwnd rttStats ackedBytes priorInFlight eventTime = u at *
      have hafter : u.reductionState.Reducing
          { h with delivered := h.delivered + ackedBytes, acks := h.acks + 1 } := by
        rw [hgrown]
        exact hbefore.of_not_open u.congestionWindow _ _ hclosed _
      split
      · exact hafter
      · exact hafter

theorem reducing_onRetransmissionTimeout (hreducing : s.reductionState.Reducing h)
    (packetsRetransmitted : Bool) :
    (s.onRetransmissionTimeout packetsRetransmitted).reductionState.Reducing h := by
  unfold onRetransmissionTimeout
  dsimp only
  split
  · exact hreducing.of_not_open _ _ .uninitialized (fun hopen => Bool.false_ne_true hopen.1) h
  · exact hreducing.of_not_open _ _ .uninitialized (fun hopen => Bool.false_ne_true hopen.1) h

theorem reducing_perform (hreducing : s.reductionState.Reducing h) (operation : CubicOperation) :
    (s.perform operation).reductionState.Reducing (h.observe s operation) := by
  cases operation with
  | exitCheck rttStats rttUpdated =>
      show (s.maybeExitSlowStart rttStats rttUpdated).reductionState.Reducing h
      rw [reductionState_maybeExitSlowStart]
      exact hreducing
  | packetLost packetNumber lostBytes priorInFlight =>
      unfold perform onPacketLost RecoveryHistory.observe
      dsimp only
      split
      · rw [reductionState_onRepeatedLoss hreducing.largeReduction]
        exact hreducing
      · exact reducing_cutBack hreducing priorInFlight
  | packetAcked rttStats number ackedBytes priorInFlight eventTime =>
      exact reducing_onPacketAcked hreducing rttStats number ackedBytes priorInFlight eventTime
  | packetSent sentTime bytesInFlight packetNumber bytes =>
      exact ⟨hreducing.noPrr, hreducing.largeReduction, hreducing.minimum, hreducing.unsent,
        hreducing.window, hreducing.counters⟩
  | retransmissionTimeout packetsRetransmitted =>
      exact reducing_onRetransmissionTimeout hreducing packetsRetransmitted

/-! ## Runs -/

/-- The counters follow the history of every run, apart from the bytes sent. -/
theorem reducing_run (reno : Bool) (initialTcpCongestionWindow maxCongestionWindow : Nat)
    (cbrt : Nat → Nat) (calls : List CubicCall) :
    ((create reno initialTcpCongestionWindow maxCongestionWindow cbrt).run
      calls).reductionState.Reducing
        ((create reno initialTcpCongestionWindow maxCongestionWindow cbrt).history calls) := by
  have hfresh : (create reno initialTcpCongestionWindow maxCongestionWindow
      cbrt).reductionState.Reducing {} :=
    ⟨rfl, rfl, rfl, rfl, fun hopen => absurd hopen.1 Bool.false_ne_true,
      fun hopen => absurd hopen.1 Bool.false_ne_true⟩
  rw [run_eq_perform]
  unfold history
  generalize create reno initialTcpCongestionWindow maxCongestionWindow cbrt = s at *
  generalize ({} : RecoveryHistory) = h at *
  generalize calls.flatMap CubicCall.operations = operations
  induction operations generalizing s h with
  | nil => exact hfresh
  | cons operation operations ih => exact ih _ _ (reducing_perform hfresh operation)

theorem canSend_eq_prr (hrecovery : s.inRecovery = true) (hnoPrr : s.noPrr = false)
    (bytesInFlight : Nat) :
    s.canSend bytesInFlight =
      s.prr.canSend s.congestionWindow bytesInFlight s.slowstartThreshold := by
  unfold canSend
  rw [if_pos (by simp [hnoPrr, hrecovery])]

/-- The sender never refuses in recovery: its `PrrSender` has heard of no packet. -/
theorem canSend_of_inRecovery (hreducing : s.reductionState.Reducing h)
    (hrecovery : s.inRecovery = true) (bytesInFlight : Nat) : s.canSend bytesInFlight = true := by
  rw [canSend_eq_prr hrecovery hreducing.noPrr, PrrSender.canSend_iff]
  exact .inl hreducing.unsent

/-- With the bytes sent forwarded, `PrrSender` enforces the budget. -/
theorem reductionLaw_of_forwarded (hreducing : s.reductionState.Reducing h) :
    ReductionLaw { s with prr := s.prr.onPacketSent h.sent } h := by
  intro bytesInFlight hrecovery hcan hsent hsegment
  have hopen : s.reductionState.LossEventOpen := lossEventOpen_of_inRecovery hrecovery
  obtain ⟨hdelivered, hacks, hprior⟩ := hreducing.counters hopen
  have hforwarded : (s.prr.onPacketSent h.sent).bytesSentSinceLoss = h.sent := by
    show s.reductionState.prr.bytesSentSinceLoss + h.sent = h.sent
    rw [hreducing.unsent, Nat.zero_add]
  rw [canSend_eq_prr hrecovery hreducing.noPrr, PrrSender.canSend_iff] at hcan
  rcases hcan with hnone | hsmall | ⟨hbelow, hlimit⟩ | ⟨habove, hlimit⟩
  · exact absurd (hforwarded.symm.trans hnone) (Nat.ne_of_gt hsent)
  · exact absurd hsmall (Nat.not_lt.mpr hsegment)
  · refine .inl ⟨hbelow, ?_⟩
    rw [← hforwarded, ← hdelivered, ← hacks]
    exact hlimit
  · refine .inr ⟨habove, ?_⟩
    rw [← hprior, ← hdelivered]
    have hcount : (s.prr.onPacketSent h.sent).bytesSentSinceLoss *
        s.prr.bytesInFlightBeforeLoss < _ := hlimit
    rw [hforwarded] at hcount
    exact hcount

theorem reductionLaw_of_reducing (hreducing : s.reductionState.Reducing h) :
    s.ReductionLaw h ↔ (s.inRecovery = true → 0 < h.sent → s.BudgetLeft h) := by
  constructor
  · intro hlaw hrecovery hsent
    have hwindow : s.minCongestionWindow ≤ s.congestionWindow :=
      hreducing.window (lossEventOpen_of_inRecovery hrecovery)
    have hmin : s.minCongestionWindow = 2 * 1460 := hreducing.minimum
    have hsegment : kMaxSegmentSize = 1460 := rfl
    refine ⟨?_, ?_⟩
    · have hcan := canSend_of_inRecovery hreducing hrecovery kMaxSegmentSize
      rcases hlaw _ hrecovery hcan hsent (Nat.le_refl _) with hpart | hpart
      · exact hpart.2
      · omega
    · have hcan := canSend_of_inRecovery hreducing hrecovery s.congestionWindow
      rcases hlaw _ hrecovery hcan hsent (by omega) with hpart | hpart
      · exact absurd hpart.1 (Nat.lt_irrefl _)
      · exact hpart.2
  · intro hbudget bytesInFlight hrecovery _ hsent _
    have hleft := hbudget hrecovery hsent
    by_cases hbelow : bytesInFlight < s.congestionWindow
    · exact .inl ⟨hbelow, hleft.perAck⟩
    · exact .inr ⟨Nat.le_of_not_lt hbelow, hleft.proportional⟩

theorem reductionLaw_iff (reno : Bool) (initialTcpCongestionWindow maxCongestionWindow : Nat)
    (cbrt : Nat → Nat) (calls : List CubicCall) :
    let s := create reno initialTcpCongestionWindow maxCongestionWindow cbrt
    (s.run calls).ReductionLaw (s.history calls) ↔
      ((s.run calls).inRecovery = true → 0 < (s.history calls).sent →
        (s.run calls).BudgetLeft (s.history calls)) :=
  reductionLaw_of_reducing
    (reducing_run reno initialTcpCongestionWindow maxCongestionWindow cbrt calls)

def burstInRecovery : List CubicCall :=
  [.packetSent 1 0 1 1460, .packetSent 2 1460 2 1460, .packetSent 3 2920 3 1460,
    .congestionEvent {} false 4380 100000 [⟨2, 1460, 100000⟩] [⟨1, 1460⟩],
    .packetSent 100001 1460 4 1460, .packetSent 100002 2920 5 1460,
    .packetSent 100003 4380 6 1460]

/-- The ack of one packet lets any number of packets go. -/
theorem burst_exceeds_budget :
    ((createCubicBytes kInitialCongestionWindow (Nat.nthRoot 3)).run
        burstInRecovery).inRecovery = true ∧
      (createCubicBytes kInitialCongestionWindow (Nat.nthRoot 3)).history burstInRecovery =
        ⟨4380, 1460, 1, 4380⟩ ∧
      ¬ ((createCubicBytes kInitialCongestionWindow (Nat.nthRoot 3)).run
          burstInRecovery).ReductionLaw
        ((createCubicBytes kInitialCongestionWindow (Nat.nthRoot 3)).history burstInRecovery) := by
  have hrecovery : ((createCubicBytes kInitialCongestionWindow (Nat.nthRoot 3)).run
      burstInRecovery).inRecovery = true := by decide +kernel
  have hhistory : (createCubicBytes kInitialCongestionWindow (Nat.nthRoot 3)).history
      burstInRecovery = ⟨4380, 1460, 1, 4380⟩ := by decide +kernel
  refine ⟨hrecovery, hhistory, fun hlaw => ?_⟩
  rw [hhistory] at hlaw
  have hlimit := hlaw 1460 hrecovery (by decide +kernel) (by decide) (by decide)
  have hwindow : 1460 < ((createCubicBytes kInitialCongestionWindow (Nat.nthRoot 3)).run
      burstInRecovery).congestionWindow := by decide +kernel
  rcases hlimit with hpart | hpart
  · exact absurd hpart.2 (by decide)
  · omega

end TcpCubicSenderBytes

end BbrChrome
