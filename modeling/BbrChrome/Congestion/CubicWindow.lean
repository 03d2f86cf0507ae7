import BbrChrome.Congestion.CubicRun
import Mathlib.Data.Nat.NthRoot.Defs

/-!
# The window of the CUBIC sender stays in its bounds

Slow start adds a segment whenever the window is below its bound. It does not pass the bound:
until the first loss or delay the window counts whole segments, and from then on the threshold
leaves room for one more.
-/

namespace BbrChrome

/-- The settings that the bounds of the window depend on. -/
structure WindowSettings where
  reno : Bool
  largeReduction : Bool
  minimum : Nat
  maximum : Nat
  connections : Nat

def cubicBytesSettings : WindowSettings where
  reno := false
  largeReduction := false
  minimum := 2 * kDefaultTCPMSS
  maximum := 100000 * kDefaultTCPMSS
  connections := kDefaultNumConnections

/-- What the bounds of the window depend on. -/
structure WindowState where
  settings : WindowSettings
  epoch : Int
  estimate : Nat
  window : Nat
  threshold : Nat

namespace WindowState

/-- Why slow start does not pass the bound: the threshold leaves room for a segment, or it still
is the initial one and the window counts whole segments. -/
def HasRoom (w : WindowState) : Prop :=
  w.threshold + kDefaultTCPMSS ≤ w.settings.maximum ∨
    w.threshold = w.settings.maximum ∧ kDefaultTCPMSS ∣ w.window

structure Bounded (w : WindowState) : Prop where
  settings : w.settings = cubicBytesSettings
  minimum_le : w.settings.minimum ≤ w.window
  le_maximum : w.window ≤ w.settings.maximum
  estimate : w.epoch ≠ 0 → w.settings.minimum ≤ w.estimate
  room : w.HasRoom

variable {w : WindowState}

theorem HasRoom.threshold_le (h : w.HasRoom) : w.threshold ≤ w.settings.maximum := by
  rcases h with hroom | ⟨heq, _⟩
  · omega
  · omega

theorem Bounded.add_segment_le (h : w.Bounded) (hslow : w.window < w.threshold) :
    w.window + kDefaultTCPMSS ≤ w.settings.maximum := by
  rcases h.room with hroom | ⟨heq, k, hk⟩
  · omega
  · have hmax : w.settings.maximum = 100000 * kDefaultTCPMSS :=
      congrArg WindowSettings.maximum h.settings
    rw [heq, hk, hmax, Nat.mul_comm] at hslow
    have hlt : k < 100000 := Nat.lt_of_mul_lt_mul_right hslow
    rw [hk, hmax]
    calc kDefaultTCPMSS * k + kDefaultTCPMSS = (k + 1) * kDefaultTCPMSS := by
          rw [Nat.succ_mul, Nat.mul_comm]
      _ ≤ 100000 * kDefaultTCPMSS := Nat.mul_le_mul_right _ hlt

end WindowState

namespace TcpCubicSenderBytes

structure WindowInBounds (s : TcpCubicSenderBytes) : Prop where
  minimum_le : s.minCongestionWindow ≤ s.congestionWindow
  le_maximum : s.congestionWindow ≤ s.maxCongestionWindow
  threshold_le : s.slowstartThreshold ≤ s.maxCongestionWindow

def windowState (s : TcpCubicSenderBytes) : WindowState where
  settings :=
    { reno := s.reno
      largeReduction := s.slowStartLargeReduction
      minimum := s.minCongestionWindow
      maximum := s.maxCongestionWindow
      connections := s.cubic.numConnections }
  epoch := s.cubic.epoch
  estimate := s.cubic.estimatedTcpCongestionWindow
  window := s.congestionWindow
  threshold := s.slowstartThreshold

def WindowBounded (s : TcpCubicSenderBytes) : Prop := s.windowState.Bounded

variable {s t : TcpCubicSenderBytes}

theorem WindowBounded.of_eq (h : s.WindowBounded) (heq : t.windowState = s.windowState) :
    t.WindowBounded := by
  unfold WindowBounded
  rw [heq]
  exact h

theorem WindowBounded.reno_eq (h : s.WindowBounded) : s.reno = false :=
  congrArg WindowSettings.reno h.settings

theorem WindowBounded.largeReduction_eq (h : s.WindowBounded) :
    s.slowStartLargeReduction = false := congrArg WindowSettings.largeReduction h.settings

theorem WindowBounded.minimum_eq (h : s.WindowBounded) :
    s.minCongestionWindow = 2 * kDefaultTCPMSS := congrArg WindowSettings.minimum h.settings

theorem WindowBounded.maximum_eq (h : s.WindowBounded) :
    s.maxCongestionWindow = 100000 * kDefaultTCPMSS := congrArg WindowSettings.maximum h.settings

theorem WindowBounded.connections_eq (h : s.WindowBounded) :
    s.cubic.numConnections = kDefaultNumConnections :=
  congrArg WindowSettings.connections h.settings

/-! ## One operation -/

theorem WindowBounded.maybeExitSlowStart (h : s.WindowBounded) (rttStats : RttStats)
    (rttUpdated : Bool) : (s.maybeExitSlowStart rttStats rttUpdated).WindowBounded := by
  rcases maybeExitSlowStart_cases s rttStats rttUpdated with heq | ⟨_, hslow, heq | heq⟩
  · rw [heq]
    exact h
  · rw [heq]
    exact h.of_eq rfl
  · have hroom := h.add_segment_le (of_decide_eq_true hslow)
    rw [heq]
    exact ⟨h.settings, h.minimum_le, h.le_maximum, h.estimate, .inl hroom⟩

theorem WindowBounded.onRepeatedLoss (h : s.WindowBounded) (lostBytes : Nat) :
    (s.onRepeatedLoss lostBytes).WindowBounded := by
  rw [onRepeatedLoss_eq h.largeReduction_eq lostBytes]
  exact h.of_eq rfl

theorem reduceWindow_eq (hlarge : s.slowStartLargeReduction = false) (hreno : s.reno = false) :
    s.reduceWindow =
      { s with
        cubic := (s.cubic.congestionWindowAfterPacketLoss s.congestionWindow).1
        congestionWindow := (s.cubic.congestionWindowAfterPacketLoss s.congestionWindow).2 } := by
  unfold reduceWindow
  rw [if_neg (by simp [hlarge]), if_neg (by simp [hreno])]

/-- A loss takes at least an eighth of the window, or it leaves the minimum. -/
theorem WindowBounded.cutBack (h : s.WindowBounded) (priorInFlight : Nat) :
    (s.cutBack priorInFlight).WindowBounded := by
  have hopen : (s.openLossEvent priorInFlight).WindowBounded := h.of_eq rfl
  unfold TcpCubicSenderBytes.cutBack
  generalize s.openLossEvent priorInFlight = t at *
  have hmin : t.minCongestionWindow = 2 * 1460 := hopen.minimum_eq
  have hmax : t.maxCongestionWindow = 100000 * 1460 := hopen.maximum_eq
  have hhigh : t.congestionWindow ≤ t.maxCongestionWindow := hopen.le_maximum
  have hloss := CubicBytes.congestionWindowAfterPacketLoss_le hopen.connections_eq
    t.congestionWindow
  rw [reduceWindow_eq hopen.largeReduction_eq hopen.reno_eq]
  refine ⟨hopen.settings, ?_, ?_, fun hepoch => absurd rfl hepoch, .inl ?_⟩
  · dsimp only [windowState]
    split <;> omega
  · dsimp only [windowState]
    split <;> omega
  · dsimp only [windowState, kDefaultTCPMSS]
    split <;> omega

theorem WindowBounded.onPacketLost (h : s.WindowBounded)
    (packetNumber lostBytes priorInFlight : Nat) :
    (s.onPacketLost packetNumber lostBytes priorInFlight).WindowBounded := by
  unfold TcpCubicSenderBytes.onPacketLost
  split
  · exact h.onRepeatedLoss lostBytes
  · exact h.cutBack priorInFlight

/-- Outside slow start the initial threshold is passed only at the upper bound, where nothing is
added. -/
theorem WindowBounded.maybeIncreaseCwnd (h : s.WindowBounded) (rttStats : RttStats)
    (ackedBytes priorInFlight : Nat) (eventTime : Int) :
    (s.maybeIncreaseCwnd rttStats ackedBytes priorInFlight eventTime).WindowBounded := by
  unfold TcpCubicSenderBytes.maybeIncreaseCwnd
  split
  · exact ⟨h.settings, h.minimum_le, h.le_maximum, fun hepoch => absurd rfl hepoch, h.room⟩
  split
  · exact h
  next hbelow =>
  split
  · next hslow =>
      have hroom := h.add_segment_le (of_decide_eq_true hslow)
      refine ⟨h.settings, Nat.le_add_right_of_le h.minimum_le, hroom, h.estimate, ?_⟩
      exact h.room.imp_right fun hsegments =>
        ⟨hsegments.1, Nat.dvd_add hsegments.2 (Nat.dvd_refl _)⟩
  next hslow =>
  rw [if_neg (by simp [h.reno_eq])]
  have hsmall : s.minCongestionWindow < 2 ^ 24 := by
    rw [h.minimum_eq]
    decide
  have hwindow := CubicBytes.le_congestionWindowAfterAck h.connections_eq hsmall
    h.minimum_le h.estimate ackedBytes rttStats.minRtt eventTime
  have hroom : s.slowstartThreshold + kDefaultTCPMSS ≤ s.maxCongestionWindow := by
    rcases h.room with hroom | ⟨heq, _⟩
    · exact hroom
    · have habove : ¬ s.congestionWindow < s.slowstartThreshold := fun hlt =>
        hslow (decide_eq_true hlt)
      have heq' : s.slowstartThreshold = s.maxCongestionWindow := heq
      omega
  refine ⟨?_, ?_, Nat.min_le_left _ _, fun _ => hwindow.1, .inl hroom⟩
  · have hsettings := h.settings
    unfold windowState at hsettings ⊢
    dsimp only at hsettings ⊢
    rw [CubicBytes.numConnections_afterAck]
    exact hsettings
  · exact Nat.le_min.mpr ⟨h.minimum_le.trans h.le_maximum, hwindow.2⟩

theorem WindowBounded.onPacketAcked (h : s.WindowBounded) (rttStats : RttStats)
    (ackedPacketNumber ackedBytes priorInFlight : Nat) (eventTime : Int) :
    (s.onPacketAcked rttStats ackedPacketNumber ackedBytes priorInFlight
      eventTime).WindowBounded := by
  unfold TcpCubicSenderBytes.onPacketAcked
  dsimp only
  have hacked : (s.updateLargestAcked ackedPacketNumber).WindowBounded := h.of_eq rfl
  split
  · split
    · exact hacked
    · exact h.of_eq rfl
  · have hgrown := hacked.maybeIncreaseCwnd rttStats ackedBytes priorInFlight eventTime
    split
    · exact hgrown.of_eq rfl
    · exact hgrown

theorem WindowBounded.onRetransmissionTimeout (h : s.WindowBounded)
    (packetsRetransmitted : Bool) :
    (s.onRetransmissionTimeout packetsRetransmitted).WindowBounded := by
  unfold TcpCubicSenderBytes.onRetransmissionTimeout
  dsimp only
  split
  · have hhigh : s.congestionWindow ≤ s.maxCongestionWindow := h.le_maximum
    have hmax : s.maxCongestionWindow = 100000 * 1460 := h.maximum_eq
    refine ⟨h.settings, Nat.le_refl _, h.minimum_le.trans hhigh, fun hepoch => absurd rfl hepoch,
      .inl ?_⟩
    show s.congestionWindow / 2 + 1460 ≤ s.maxCongestionWindow
    omega
  · exact h.of_eq rfl

theorem WindowBounded.perform (h : s.WindowBounded) (operation : CubicOperation) :
    (s.perform operation).WindowBounded := by
  cases operation with
  | exitCheck rttStats rttUpdated => exact h.maybeExitSlowStart rttStats rttUpdated
  | packetLost packetNumber lostBytes priorInFlight =>
      exact h.onPacketLost packetNumber lostBytes priorInFlight
  | packetAcked rttStats packetNumber ackedBytes priorInFlight eventTime =>
      exact h.onPacketAcked rttStats packetNumber ackedBytes priorInFlight eventTime
  | packetSent => exact h.of_eq rfl
  | retransmissionTimeout packetsRetransmitted =>
      exact h.onRetransmissionTimeout packetsRetransmitted

/-! ## Runs -/

theorem createCubicBytes_windowBounded {initialCongestionWindow : Nat}
    (hlow : 2 ≤ initialCongestionWindow) (hhigh : initialCongestionWindow ≤ 100000)
    (cbrt : Nat → Nat) :
    (createCubicBytes initialCongestionWindow cbrt).WindowBounded :=
  ⟨rfl, Nat.mul_le_mul_right _ hlow, Nat.mul_le_mul_right _ hhigh,
    fun hepoch => absurd rfl hepoch, .inr ⟨rfl, Nat.dvd_mul_left _ _⟩⟩

/-- The window is within its bounds after any calls, for an initial window that is. -/
theorem run_windowInBounds (initialCongestionWindow : Nat) (cbrt : Nat → Nat)
    (calls : List CubicCall) (hlow : 2 ≤ initialCongestionWindow)
    (hhigh : initialCongestionWindow ≤ 100000) :
    ((createCubicBytes initialCongestionWindow cbrt).run calls).WindowInBounds := by
  have hbounded : ((createCubicBytes initialCongestionWindow cbrt).run calls).WindowBounded :=
    run_invariant (fun _ operation h => h.perform operation)
      (createCubicBytes_windowBounded hlow hhigh cbrt) calls
  exact ⟨hbounded.minimum_le, hbounded.le_maximum, hbounded.room.threshold_le⟩

def lossAndTimeout : List CubicCall :=
  [.packetSent 1 0 1 1460, .packetSent 2 1460 2 1460,
    .congestionEvent {} false 2920 100000 [⟨2, 1460, 100000⟩] [⟨1, 1460⟩],
    .retransmissionTimeout true]

theorem windowInBounds_lossAndTimeout :
    ((createCubicBytes kInitialCongestionWindow (Nat.nthRoot 3)).run
      lossAndTimeout).WindowInBounds :=
  run_windowInBounds kInitialCongestionWindow (Nat.nthRoot 3) lossAndTimeout (by decide) (by decide)

end TcpCubicSenderBytes

end BbrChrome
