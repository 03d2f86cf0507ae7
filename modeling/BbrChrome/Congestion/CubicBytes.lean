import BbrChrome.Quic.Types

/-!
# CUBIC in bytes

The back-off factors and the additive increase are exact rationals; what is computed with them
is rounded as the source rounds it. The cubic function counts time in 2^10 fractions of a
second.
-/

namespace BbrChrome

def kCubeScale : Nat := 40

def kCubeCongestionWindowScale : Nat := 410

/-- The cube factor for packets in bytes. -/
def kCubeFactor : Nat := 2 ^ kCubeScale / kCubeCongestionWindowScale / kDefaultTCPMSS

def kDefaultCubicBackoffFactor : Rat := 7 / 10

/-- The additional back-off in the concave part of the cubic curve. -/
def kBetaLastMax : Rat := 17 / 20

/-- `CubicBytes`; the epoch is unset while it is zero. -/
structure CubicBytes where
  numConnections : Nat := kDefaultNumConnections
  epoch : Int := 0
  lastMaxCongestionWindow : Nat := 0
  ackedBytesCount : Nat := 0
  estimatedTcpCongestionWindow : Nat := 0
  originPointCongestionWindow : Nat := 0
  timeToOriginPoint : Nat := 0
  lastTargetCongestionWindow : Nat := 0
  /-- The cube root of the C library, converted to `uint32_t`. -/
  cbrt : Nat → Nat

namespace CubicBytes

def beta (c : CubicBytes) : Rat :=
  ((c.numConnections : Rat) - 1 + kDefaultCubicBackoffFactor) / c.numConnections

def betaLastMax (c : CubicBytes) : Rat :=
  ((c.numConnections : Rat) - 1 + kBetaLastMax) / c.numConnections

def alpha (c : CubicBytes) : Rat :=
  3 * c.numConnections * c.numConnections * (1 - c.beta) / (1 + c.beta)

def resetCubicState (c : CubicBytes) : CubicBytes :=
  { c with
    epoch := 0
    lastMaxCongestionWindow := 0
    ackedBytesCount := 0
    estimatedTcpCongestionWindow := 0
    originPointCongestionWindow := 0
    timeToOriginPoint := 0
    lastTargetCongestionWindow := 0 }

/-- Without a full window the growth is frozen until the next epoch. -/
def onApplicationLimited (c : CubicBytes) : CubicBytes := { c with epoch := 0 }

def congestionWindowAfterPacketLoss (c : CubicBytes) (currentCongestionWindow : Nat) :
    CubicBytes × Nat :=
  ({ c with
      lastMaxCongestionWindow :=
        if currentCongestionWindow + kDefaultTCPMSS < c.lastMaxCongestionWindow then
          toByteCount (float32 (c.betaLastMax * float32 currentCongestionWindow))
        else currentCongestionWindow
      epoch := 0 },
    toByteCount (float32 (float32 currentCongestionWindow * c.beta)))

/-- The first ack after a loss event starts an epoch. -/
def startEpoch (c : CubicBytes) (ackedBytes currentCongestionWindow : Nat) (eventTime : Int) :
    CubicBytes :=
  { c with
    epoch := eventTime
    ackedBytesCount := ackedBytes
    estimatedTcpCongestionWindow := currentCongestionWindow
    timeToOriginPoint :=
      if c.lastMaxCongestionWindow ≤ currentCongestionWindow then 0
      else c.cbrt (kCubeFactor * (c.lastMaxCongestionWindow - currentCongestionWindow))
    originPointCongestionWindow :=
      if c.lastMaxCongestionWindow ≤ currentCongestionWindow then currentCongestionWindow
      else c.lastMaxCongestionWindow }

/-- The divisor is unsigned, so the shifted microseconds are converted first. -/
def elapsedTime (c : CubicBytes) (delayMin eventTime : Int) : Nat :=
  toUint64 ((eventTime + delayMin - c.epoch) * 2 ^ 10) / 1000000

/-- The value of the cubic function, with the wraps of `uint64_t`. -/
def cubicWindow (c : CubicBytes) (elapsedTime : Nat) : Nat :=
  let offset := ((c.timeToOriginPoint : Int) - elapsedTime).natAbs
  let deltaCongestionWindow :=
    kCubeCongestionWindowScale * offset * offset * offset * kDefaultTCPMSS % 2 ^ 64 / 2 ^ kCubeScale
  if c.timeToOriginPoint < elapsedTime then
    addUint64 c.originPointCongestionWindow deltaCongestionWindow
  else subUint64 c.originPointCongestionWindow deltaCongestionWindow

/-- The Reno estimate, which grows by about `alpha` segments for every window acked. -/
def grownEstimate (c : CubicBytes) : Nat :=
  let acked := float32 (float32 c.ackedBytesCount * float32 (c.alpha * kDefaultTCPMSS))
  let estimate := float32 c.estimatedTcpCongestionWindow
  toByteCount (float32 (estimate + float32 (acked / estimate)))

def congestionWindowAfterAck (c : CubicBytes) (ackedBytes currentCongestionWindow : Nat)
    (delayMin eventTime : Int) : CubicBytes × Nat :=
  let c := { c with ackedBytesCount := c.ackedBytesCount + ackedBytes }
  let c := if c.epoch = 0 then c.startEpoch ackedBytes currentCongestionWindow eventTime else c
  let targetCongestionWindow := min (c.cubicWindow (c.elapsedTime delayMin eventTime))
    (currentCongestionWindow + c.ackedBytesCount / 2)
  let c := { c with
    estimatedTcpCongestionWindow := c.grownEstimate
    ackedBytesCount := 0
    lastTargetCongestionWindow := targetCongestionWindow }
  (c,
    if targetCongestionWindow < c.estimatedTcpCongestionWindow then c.estimatedTcpCongestionWindow
    else targetCongestionWindow)

/-! ## The windows computed -/

variable {c : CubicBytes} {n : Nat}

theorem float32_nonneg {x : Rat} (hx : 0 ≤ x) : 0 ≤ float32 x := Rounding.roundSig_nonneg hx

theorem alpha_nonneg (h : c.numConnections = kDefaultNumConnections) : 0 ≤ c.alpha := by
  unfold alpha beta
  rw [h]
  norm_num [kDefaultNumConnections, kDefaultCubicBackoffFactor]

theorem beta_eq (h : c.numConnections = kDefaultNumConnections) : c.beta = 17 / 20 := by
  unfold beta
  rw [h]
  norm_num [kDefaultNumConnections, kDefaultCubicBackoffFactor]

/-- The two roundings add less than one part in a hundred to the back-off factor. -/
theorem congestionWindowAfterPacketLoss_le (h : c.numConnections = kDefaultNumConnections)
    (currentCongestionWindow : Nat) :
    100 * (c.congestionWindowAfterPacketLoss currentCongestionWindow).2 ≤
      86 * currentCongestionWindow := by
  have hcurrent : (0 : Rat) ≤ currentCongestionWindow := Nat.cast_nonneg _
  have hfloat : (0 : Rat) ≤ float32 currentCongestionWindow := float32_nonneg hcurrent
  have hproduct : 0 ≤ float32 currentCongestionWindow * c.beta := by
    rw [beta_eq h]
    linarith
  have hwindow : ((c.congestionWindowAfterPacketLoss currentCongestionWindow).2 : Rat) ≤
      float32 (float32 currentCongestionWindow * c.beta) := toByteCount_le (float32_nonneg hproduct)
  have hinner : float32 currentCongestionWindow ≤
      currentCongestionWindow * (1 + 2 / 2 ^ 24) := Rounding.roundSig_le hcurrent
  have houter : float32 (float32 currentCongestionWindow * c.beta) ≤
      float32 currentCongestionWindow * c.beta * (1 + 2 / 2 ^ 24) := Rounding.roundSig_le hproduct
  rw [beta_eq h] at houter hwindow
  have hle : (100 * (c.congestionWindowAfterPacketLoss currentCongestionWindow).2 : Rat) ≤
      86 * currentCongestionWindow := by
    norm_num at hinner houter
    linarith
  exact_mod_cast hle

/-- The estimate keeps every bound that a `float` can represent. -/
theorem le_grownEstimate (h : c.numConnections = kDefaultNumConnections) (hn : n < 2 ^ 24)
    (hle : n ≤ c.estimatedTcpCongestionWindow) : n ≤ c.grownEstimate := by
  have hestimate : (n : Rat) ≤ float32 c.estimatedTcpCongestionWindow :=
    Rounding.natCast_le_roundSig hn (by exact_mod_cast hle)
  have hacked : 0 ≤ float32 (float32 c.ackedBytesCount * float32 (c.alpha * kDefaultTCPMSS)) := by
    have hcount : 0 ≤ float32 c.ackedBytesCount := float32_nonneg (Nat.cast_nonneg _)
    have hsegment : 0 ≤ float32 (c.alpha * kDefaultTCPMSS) :=
      float32_nonneg (mul_nonneg (alpha_nonneg h) (Nat.cast_nonneg _))
    exact float32_nonneg (mul_nonneg hcount hsegment)
  have hgrowth := float32_nonneg (div_nonneg hacked ((Nat.cast_nonneg n).trans hestimate))
  unfold grownEstimate
  exact le_toByteCount (Rounding.natCast_le_roundSig hn (by linarith))

theorem le_congestionWindowAfterAck {currentCongestionWindow : Nat}
    (h : c.numConnections = kDefaultNumConnections) (hn : n < 2 ^ 24)
    (hcurrent : n ≤ currentCongestionWindow)
    (hestimate : c.epoch ≠ 0 → n ≤ c.estimatedTcpCongestionWindow)
    (ackedBytes : Nat) (delayMin eventTime : Int) :
    n ≤ (c.congestionWindowAfterAck ackedBytes currentCongestionWindow delayMin
        eventTime).1.estimatedTcpCongestionWindow ∧
      n ≤ (c.congestionWindowAfterAck ackedBytes currentCongestionWindow delayMin eventTime).2 := by
  have hgrown : n ≤ (c.congestionWindowAfterAck ackedBytes currentCongestionWindow delayMin
      eventTime).1.estimatedTcpCongestionWindow := by
    unfold congestionWindowAfterAck
    dsimp only
    split
    · exact le_grownEstimate h hn hcurrent
    · next hepoch => exact le_grownEstimate h hn (hestimate hepoch)
  refine ⟨hgrown, ?_⟩
  have hmax : (c.congestionWindowAfterAck ackedBytes currentCongestionWindow delayMin
      eventTime).1.estimatedTcpCongestionWindow ≤
      (c.congestionWindowAfterAck ackedBytes currentCongestionWindow delayMin eventTime).2 := by
    have hlarger : ∀ target estimate : Nat,
        estimate ≤ if target < estimate then estimate else target := by
      intro target estimate
      split <;> omega
    exact hlarger _ _
  exact hgrown.trans hmax

theorem numConnections_afterAck (ackedBytes currentCongestionWindow : Nat)
    (delayMin eventTime : Int) :
    (c.congestionWindowAfterAck ackedBytes currentCongestionWindow delayMin
      eventTime).1.numConnections = c.numConnections := by
  unfold congestionWindowAfterAck
  dsimp only
  split
  · rfl
  · rfl

end CubicBytes

end BbrChrome
