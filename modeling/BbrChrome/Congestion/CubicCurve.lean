import BbrChrome.Congestion.CubicBytes
import BbrChrome.Library.History
import Mathlib.Analysis.SpecialFunctions.Pow.NthRootLemmas
import Mathlib.Data.Int.ConditionallyCompleteOrder

/-!
# The cubic curve in 64 bits

Runs of `CubicBytes` against the curve with exact arithmetic. In the concave part the cube root
keeps the subtrahend below the origin point. In the convex part the time since the epoch has no
bound, and its cube leaves 64 bits half a minute after the origin point.
-/

namespace BbrChrome

structure CubicAck where
  ackedBytes : Nat
  currentCongestionWindow : Nat
  delayMin : Int
  eventTime : Int
deriving DecidableEq, Repr

inductive CubicBytesCall
  | afterAck (a : CubicAck)
  | afterPacketLoss (currentCongestionWindow : Nat)
  | applicationLimited
  | resetCubicState
deriving DecidableEq, Repr

namespace CubicBytesCall

def window? : CubicBytesCall → Option Nat
  | afterAck a => some a.currentCongestionWindow
  | afterPacketLoss currentCongestionWindow => some currentCongestionWindow
  | _ => none

def eventTime? : CubicBytesCall → Option Int
  | afterAck a => some a.eventTime
  | _ => none

def delayMin? : CubicBytesCall → Option Int
  | afterAck a => some a.delayMin
  | _ => none

end CubicBytesCall

namespace CubicBytes

def call (c : CubicBytes) : CubicBytesCall → CubicBytes
  | .afterAck a =>
      (c.congestionWindowAfterAck a.ackedBytes a.currentCongestionWindow a.delayMin a.eventTime).1
  | .afterPacketLoss currentCongestionWindow =>
      (c.congestionWindowAfterPacketLoss currentCongestionWindow).1
  | .applicationLimited => c.onApplicationLimited
  | .resetCubicState => c.resetCubicState

def trace (cbrt : Nat → Nat) (calls : List CubicBytesCall) : List (CubicBytes × CubicBytesCall) :=
  History.trace call { cbrt } calls

/-- Windows of 2 to 100000 segments, an RTT that is not negative, and times that do not run
backwards. -/
structure ValidCalls (calls : List CubicBytesCall) : Prop where
  windows : ∀ call ∈ calls, ∀ window ∈ call.window?,
    2 * kDefaultTCPMSS ≤ window ∧ window ≤ 100000 * kDefaultTCPMSS
  delays : ∀ call ∈ calls, ∀ delayMin ∈ call.delayMin?, 0 ≤ delayMin
  times : (calls.filterMap CubicBytesCall.eventTime?).Pairwise (· ≤ ·)

/-- All that is needed of the C library's `cbrt`, with the fraction dropped, on the arguments that
occur: it does not exceed the cube root. At a perfect cube it may be one below it, as `cbrt(3375.0)`
is just under 15, but an error of an ulp cannot carry it to an integer above the root of an argument
below `2 ^ 48`. -/
def CubeRootBelow (cbrt : Nat → Nat) : Prop := ∀ n < 2 ^ 48, cbrt n ^ 3 ≤ n

/-! ## The curve of an ack -/

/-- The state in which an ack evaluates the curve. -/
def opened (c : CubicBytes) (a : CubicAck) : CubicBytes :=
  if c.epoch = 0 then c.startEpoch a.ackedBytes a.currentCongestionWindow a.eventTime else c

/-- The cubic target before the cap of half the acked bytes. -/
def cubicTarget (c : CubicBytes) (a : CubicAck) : Nat :=
  (c.opened a).cubicWindow ((c.opened a).elapsedTime a.delayMin a.eventTime)

def cubeProduct (offset : Nat) : Nat :=
  kCubeCongestionWindowScale * offset * offset * offset * kDefaultTCPMSS

/-- What the code adds to the origin point or subtracts from it. -/
def deltaCongestionWindow (c : CubicBytes) (elapsedTime : Nat) : Nat :=
  cubeProduct ((c.timeToOriginPoint : Int) - elapsedTime).natAbs % 2 ^ 64 / 2 ^ kCubeScale

/-- The time since the epoch, one RTT ahead, in 2^10 fractions of a second. -/
def exactElapsed (c : CubicBytes) (a : CubicAck) : Int :=
  (a.eventTime + a.delayMin - (c.opened a).epoch) * 2 ^ 10 / 1000000

/-- The distance in time from the origin point. -/
def exactOffset (c : CubicBytes) (a : CubicAck) : Nat :=
  (((c.opened a).timeToOriginPoint : Int) - c.exactElapsed a).natAbs

def ContinuesEpoch : CubicBytes × CubicBytesCall → Prop
  | (c, .afterAck _) => c.epoch ≠ 0
  | _ => False

/-- The curve stays in 64 bits, and within one epoch its value does not fall. -/
structure CurveLaw (cbrt : Nat → Nat) (calls : List CubicBytesCall) : Prop where
  fits : ∀ c a, (c, .afterAck a) ∈ trace cbrt calls → cubeProduct (c.exactOffset a) < 2 ^ 64
  noWrap : ∀ c a, (c, .afterAck a) ∈ trace cbrt calls →
    (c.opened a).elapsedTime a.delayMin a.eventTime ≤ (c.opened a).timeToOriginPoint →
      (c.opened a).deltaCongestionWindow ((c.opened a).elapsedTime a.delayMin a.eventTime) ≤
        (c.opened a).originPointCongestionWindow
  monotone : ∀ before between after c a c' a',
    trace cbrt calls = before ++ (c, .afterAck a) :: between ++ (c', .afterAck a') :: after →
      (∀ entry ∈ between, ContinuesEpoch entry) → ContinuesEpoch (c', .afterAck a') →
        a.delayMin = a'.delayMin → c.cubicTarget a ≤ c'.cubicTarget a'

/-- The largest distance whose product fits, 30.6 seconds. -/
def maxCubicOffset : Nat := 31351

/-- Every ack comes within that distance of the origin point of its epoch. -/
def WithinCurve (cbrt : Nat → Nat) (calls : List CubicBytesCall) : Prop :=
  ∀ c a, (c, .afterAck a) ∈ trace cbrt calls → c.exactOffset a ≤ maxCubicOffset

variable {c : CubicBytes} {a : CubicAck} {cbrt : Nat → Nat}

theorem lastTargetCongestionWindow_afterAck :
    ∃ ackedBytesCount,
      (c.call (.afterAck a)).lastTargetCongestionWindow =
        min (c.cubicTarget a) (a.currentCongestionWindow + ackedBytesCount / 2) := by
  unfold call congestionWindowAfterAck cubicTarget opened
  dsimp only
  split
  · exact ⟨_, rfl⟩
  · exact ⟨_, rfl⟩

theorem cubicWindow_eq (elapsedTime : Nat) :
    c.cubicWindow elapsedTime =
      if c.timeToOriginPoint < elapsedTime then
        addUint64 c.originPointCongestionWindow (c.deltaCongestionWindow elapsedTime)
      else subUint64 c.originPointCongestionWindow (c.deltaCongestionWindow elapsedTime) := rfl

/-! ## Cubes -/

theorem cubeProduct_eq (offset : Nat) : cubeProduct offset = 598600 * offset ^ 3 := by
  unfold cubeProduct kCubeCongestionWindowScale kDefaultTCPMSS
  ring

theorem cubeProduct_mono {offset offset' : Nat} (h : offset ≤ offset') :
    cubeProduct offset ≤ cubeProduct offset' := by
  rw [cubeProduct_eq, cubeProduct_eq]
  exact Nat.mul_le_mul_left _ (Nat.pow_le_pow_left h 3)

theorem cubeProduct_lt_iff (offset : Nat) :
    cubeProduct offset < 2 ^ 64 ↔ offset ≤ maxCubicOffset := by
  constructor
  · intro hfits
    by_contra habove
    have hlow : cubeProduct (maxCubicOffset + 1) ≤ cubeProduct offset :=
      cubeProduct_mono (by omega)
    have hover : 2 ^ 64 ≤ cubeProduct (maxCubicOffset + 1) := by decide
    omega
  · intro hle
    have hhigh := cubeProduct_mono hle
    have hfits : cubeProduct maxCubicOffset < 2 ^ 64 := by decide
    omega

def exactCurve (timeToOriginPoint origin : Nat) (elapsed : Int) : Int :=
  if (timeToOriginPoint : Int) < elapsed then
    origin + (cubeProduct (elapsed - timeToOriginPoint).toNat / 2 ^ kCubeScale : Nat)
  else origin - (cubeProduct (timeToOriginPoint - elapsed).toNat / 2 ^ kCubeScale : Nat)

theorem exactCurve_mono (timeToOriginPoint origin : Nat) :
    Monotone (exactCurve timeToOriginPoint origin) := by
  intro elapsed elapsed' hle
  unfold exactCurve kCubeScale
  split
  · next hconvex =>
      rw [if_pos (by omega)]
      have hcube : cubeProduct (elapsed - timeToOriginPoint).toNat ≤
          cubeProduct (elapsed' - timeToOriginPoint).toNat := cubeProduct_mono (by omega)
      have hdelta := Nat.div_le_div_right (c := 2 ^ 40) hcube
      omega
  · next hconcave =>
      split
      · omega
      · have hcube : cubeProduct (timeToOriginPoint - elapsed').toNat ≤
            cubeProduct (timeToOriginPoint - elapsed).toNat := cubeProduct_mono (by omega)
        have hdelta := Nat.div_le_div_right (c := 2 ^ 40) hcube
        omega

/-! ## The origin point -/

def maxWindow : Nat := 100000 * kDefaultTCPMSS

/-- The origin point is above everything that the concave part subtracts from it. -/
structure OriginAbove (c : CubicBytes) : Prop where
  cube_le : cubeProduct c.timeToOriginPoint ≤ 2 ^ kCubeScale * c.originPointCongestionWindow
  origin_le : c.originPointCongestionWindow ≤ maxWindow
  time_lt : c.timeToOriginPoint < 2 ^ 16

theorem OriginAbove.delta_le (h : c.OriginAbove) {elapsedTime : Nat}
    (hconcave : elapsedTime ≤ c.timeToOriginPoint) :
    c.deltaCongestionWindow elapsedTime ≤ c.originPointCongestionWindow := by
  have hcube := cubeProduct_mono
    (show ((c.timeToOriginPoint : Int) - elapsedTime).natAbs ≤ c.timeToOriginPoint by omega)
  unfold deltaCongestionWindow
  calc cubeProduct ((c.timeToOriginPoint : Int) - elapsedTime).natAbs % 2 ^ 64 / 2 ^ kCubeScale
      ≤ cubeProduct ((c.timeToOriginPoint : Int) - elapsedTime).natAbs / 2 ^ kCubeScale :=
        Nat.div_le_div_right (Nat.mod_le _ _)
    _ ≤ 2 ^ kCubeScale * c.originPointCongestionWindow / 2 ^ kCubeScale :=
        Nat.div_le_div_right (hcube.trans h.cube_le)
    _ = c.originPointCongestionWindow := Nat.mul_div_cancel_left _ (by positivity)

theorem originAbove_startEpoch (hroot : CubeRootBelow c.cbrt)
    (hlast : c.lastMaxCongestionWindow ≤ maxWindow) {currentCongestionWindow : Nat}
    (hcurrent : currentCongestionWindow ≤ maxWindow) (ackedBytes : Nat) (eventTime : Int) :
    (c.startEpoch ackedBytes currentCongestionWindow eventTime).OriginAbove := by
  by_cases hbelow : c.lastMaxCongestionWindow ≤ currentCongestionWindow
  · refine ⟨?_, ?_, ?_⟩ <;> simp [startEpoch, hbelow, cubeProduct, hcurrent]
  · have hargument :
        kCubeFactor * (c.lastMaxCongestionWindow - currentCongestionWindow) < 2 ^ 48 := by
      have hfactor : kCubeFactor = 1836805 := by decide
      have hmax : maxWindow = 146000000 := by decide
      rw [hfactor]
      omega
    have hlow := hroot _ hargument
    have hroots : (c.startEpoch ackedBytes currentCongestionWindow eventTime).timeToOriginPoint =
        c.cbrt (kCubeFactor * (c.lastMaxCongestionWindow - currentCongestionWindow)) := by
      simp [startEpoch, hbelow]
    have horigin : (c.startEpoch ackedBytes currentCongestionWindow
        eventTime).originPointCongestionWindow = c.lastMaxCongestionWindow := by
      simp [startEpoch, hbelow]
    generalize c.cbrt (kCubeFactor * (c.lastMaxCongestionWindow - currentCongestionWindow)) = root
      at hlow hroots
    refine ⟨?_, horigin ▸ hlast, ?_⟩
    · rw [hroots, horigin, cubeProduct_eq]
      have hscale : 598600 * kCubeFactor ≤ 2 ^ kCubeScale := by decide
      calc 598600 * root ^ 3
          ≤ 598600 * (kCubeFactor * (c.lastMaxCongestionWindow - currentCongestionWindow)) :=
            Nat.mul_le_mul_left _ hlow
        _ = 598600 * kCubeFactor * (c.lastMaxCongestionWindow - currentCongestionWindow) :=
            (Nat.mul_assoc _ _ _).symm
        _ ≤ 2 ^ kCubeScale * c.lastMaxCongestionWindow :=
            Nat.mul_le_mul hscale (Nat.sub_le _ _)
    · rw [hroots]
      by_contra hlarge
      have hpow : (2 ^ 16) ^ 3 ≤ root ^ 3 := Nat.pow_le_pow_left (by omega) 3
      omega

/-- In range the code evaluates the exact curve. -/
theorem OriginAbove.cubicWindow_eq_exactCurve (h : c.OriginAbove) {elapsedTime : Nat}
    (hrange : ((c.timeToOriginPoint : Int) - elapsedTime).natAbs ≤ maxCubicOffset) :
    (c.cubicWindow elapsedTime : Int) =
      exactCurve c.timeToOriginPoint c.originPointCongestionWindow elapsedTime := by
  have hfits := (cubeProduct_lt_iff _).mpr hrange
  have hdelta : c.deltaCongestionWindow elapsedTime =
      cubeProduct ((c.timeToOriginPoint : Int) - elapsedTime).natAbs / 2 ^ kCubeScale := by
    unfold deltaCongestionWindow
    rw [Nat.mod_eq_of_lt hfits]
  rw [cubicWindow_eq]
  unfold exactCurve
  split
  · next hconvex =>
      rw [if_pos (by omega)]
      have hoffset : ((c.timeToOriginPoint : Int) - elapsedTime).natAbs =
          ((elapsedTime : Int) - c.timeToOriginPoint).toNat := by omega
      rw [hoffset] at hdelta hfits
      have horigin := h.origin_le
      have hmax : maxWindow = 146000000 := by decide
      unfold kCubeScale at hdelta ⊢
      unfold addUint64
      omega
  · next hconcave =>
      rw [if_neg (by omega)]
      have hoffset : ((c.timeToOriginPoint : Int) - elapsedTime).natAbs =
          ((c.timeToOriginPoint : Int) - elapsedTime).toNat := by omega
      have hle := h.delta_le (show elapsedTime ≤ c.timeToOriginPoint by omega)
      rw [subUint64_of_le hle]
      rw [hoffset] at hdelta
      unfold kCubeScale at hdelta ⊢
      omega

/-! ## Runs -/

/-- What the curve of an epoch depends on. -/
structure CurveOf where
  epoch : Int
  timeToOriginPoint : Nat
  origin : Nat
deriving DecidableEq

def curveOf (c : CubicBytes) : CurveOf :=
  ⟨c.epoch, c.timeToOriginPoint, c.originPointCongestionWindow⟩

/-- The invariant of a run, with the times of its acks. -/
structure CurveInvariant (cbrt : Nat → Nat) (c : CubicBytes) (times : List Int) : Prop where
  connections : c.numConnections = kDefaultNumConnections
  root : c.cbrt = cbrt
  last_le : c.lastMaxCongestionWindow ≤ maxWindow
  origin : c.epoch ≠ 0 → c.OriginAbove
  epoch : c.epoch = 0 ∨ c.epoch ∈ times

theorem curveOf_afterAck : (c.call (.afterAck a)).curveOf = (c.opened a).curveOf := by
  unfold call congestionWindowAfterAck opened
  dsimp only
  split
  · rfl
  · rfl

theorem opened_of_epoch (h : c.epoch ≠ 0) : c.opened a = c := if_neg h

theorem opened_epoch_cases :
    c.epoch = 0 ∧ (c.opened a).epoch = a.eventTime ∨ c.epoch ≠ 0 ∧ c.opened a = c := by
  by_cases h : c.epoch = 0
  · exact .inl ⟨h, by simp [opened, h, startEpoch]⟩
  · exact .inr ⟨h, opened_of_epoch h⟩

theorem CurveInvariant.opened {times : List Int} (h : CurveInvariant cbrt c times)
    (hroot : CubeRootBelow cbrt) (hwindow : a.currentCongestionWindow ≤ maxWindow) :
    (c.opened a).OriginAbove := by
  by_cases hepoch : c.epoch = 0
  · unfold CubicBytes.opened
    rw [if_pos hepoch]
    exact originAbove_startEpoch (h.root ▸ hroot) h.last_le hwindow _ _
  · rw [opened_of_epoch hepoch]
    exact h.origin hepoch

theorem backedOff_le (h : c.numConnections = kDefaultNumConnections) (window : Nat) :
    toByteCount (float32 (c.betaLastMax * float32 window)) ≤ window := by
  have hbeta : c.betaLastMax = 37 / 40 := by
    unfold betaLastMax
    rw [h]
    norm_num [kDefaultNumConnections, kBetaLastMax]
  have hcast : (0 : Rat) ≤ window := Nat.cast_nonneg _
  have hfloat : (0 : Rat) ≤ float32 window := float32_nonneg hcast
  have hproduct : 0 ≤ 37 / 40 * float32 window := by linarith
  have hcount : (toByteCount (float32 (37 / 40 * float32 window)) : Rat) ≤
      float32 (37 / 40 * float32 window) := toByteCount_le (float32_nonneg hproduct)
  have hinner : float32 window ≤ window * (1 + 2 / 2 ^ 24) := Rounding.roundSig_le hcast
  have houter : float32 (37 / 40 * float32 window) ≤
      37 / 40 * float32 window * (1 + 2 / 2 ^ 24) := Rounding.roundSig_le hproduct
  rw [hbeta]
  have hle : (toByteCount (float32 (37 / 40 * float32 window)) : Rat) ≤ window := by
    norm_num at hinner houter
    linarith
  exact_mod_cast hle

theorem CurveInvariant.call {times : List Int} (h : CurveInvariant cbrt c times)
    (hroot : CubeRootBelow cbrt) {x : CubicBytesCall}
    (hwindow : ∀ window ∈ x.window?, window ≤ maxWindow) :
    CurveInvariant cbrt (c.call x) (times ++ x.eventTime?.toList) := by
  cases x with
  | afterAck a =>
      have hcurve := curveOf_afterAck (c := c) (a := a)
      have habove := h.opened hroot (hwindow a.currentCongestionWindow rfl)
      have hepoch : (c.call (.afterAck a)).epoch = (c.opened a).epoch :=
        congrArg CurveOf.epoch hcurve
      have htime : (c.call (.afterAck a)).timeToOriginPoint = (c.opened a).timeToOriginPoint :=
        congrArg CurveOf.timeToOriginPoint hcurve
      have horigin : (c.call (.afterAck a)).originPointCongestionWindow =
          (c.opened a).originPointCongestionWindow := congrArg CurveOf.origin hcurve
      have hkept : (c.call (.afterAck a)).numConnections = c.numConnections ∧
          (c.call (.afterAck a)).cbrt = c.cbrt ∧
          (c.call (.afterAck a)).lastMaxCongestionWindow = c.lastMaxCongestionWindow := by
        unfold CubicBytes.call congestionWindowAfterAck
        dsimp only
        split
        · exact ⟨rfl, rfl, rfl⟩
        · exact ⟨rfl, rfl, rfl⟩
      refine ⟨hkept.1.trans h.connections, hkept.2.1.trans h.root, hkept.2.2 ▸ h.last_le, ?_, ?_⟩
      · intro _
        exact ⟨htime ▸ horigin ▸ habove.cube_le, horigin ▸ habove.origin_le,
          htime ▸ habove.time_lt⟩
      · rw [hepoch]
        rcases opened_epoch_cases (c := c) (a := a) with ⟨-, hstarted⟩ | ⟨hset, hsame⟩
        · exact .inr (by simp [hstarted, CubicBytesCall.eventTime?])
        · rw [hsame]
          exact .inr (by simp [h.epoch.resolve_left hset])
  | afterPacketLoss window =>
      have hle := hwindow window rfl
      refine ⟨h.connections, h.root, ?_, fun hset => absurd rfl hset, .inl rfl⟩
      show (if window + kDefaultTCPMSS < c.lastMaxCongestionWindow then
        toByteCount (float32 (c.betaLastMax * float32 window)) else window) ≤ maxWindow
      split
      · exact (backedOff_le h.connections window).trans hle
      · exact hle
  | applicationLimited =>
      exact ⟨h.connections, h.root, h.last_le, fun hset => absurd rfl hset, .inl rfl⟩
  | resetCubicState =>
      exact ⟨h.connections, h.root, Nat.zero_le _, fun hset => absurd rfl hset, .inl rfl⟩

theorem foldl_call_invariant (hroot : CubeRootBelow cbrt) {calls : List CubicBytesCall}
    (hwindows : ∀ x ∈ calls, ∀ window ∈ x.window?, window ≤ maxWindow) :
    CurveInvariant cbrt (calls.foldl call { cbrt })
      (calls.filterMap CubicBytesCall.eventTime?) := by
  induction calls using List.reverseRecOn with
  | nil => exact ⟨rfl, rfl, Nat.zero_le _, fun hset => absurd rfl hset, .inl rfl⟩
  | append_singleton calls x ih =>
      have hprior := ih fun y hy => hwindows y (by simp [hy])
      have hnext := hprior.call hroot (hwindows x (by simp))
      rw [List.foldl_append, List.filterMap_append]
      cases htime : x.eventTime? <;> simpa [htime] using hnext

theorem curveOf_of_continues {c' : CubicBytes} {x : CubicBytesCall} {calls : List CubicBytesCall}
    {between after : List (CubicBytes × CubicBytesCall)}
    (hsplit : History.trace call c calls = between ++ (c', x) :: after)
    (hcontinues : ∀ entry ∈ between, ContinuesEpoch entry) : c'.curveOf = c.curveOf := by
  induction between generalizing c calls with
  | nil =>
      cases calls with
      | nil => simp [History.trace] at hsplit
      | cons y calls =>
          simp only [History.trace, List.nil_append, List.cons.injEq, Prod.mk.injEq] at hsplit
          rw [hsplit.1.1]
  | cons entry between ih =>
      cases calls with
      | nil => simp [History.trace] at hsplit
      | cons y calls =>
          simp only [History.trace, List.cons_append, List.cons.injEq] at hsplit
          obtain ⟨rfl, hrest⟩ := hsplit
          have hentry := hcontinues (c, y) (by simp)
          rw [ih hrest fun entry hmem => hcontinues entry (by simp [hmem])]
          cases y with
          | afterAck a => rw [curveOf_afterAck, opened_of_epoch hentry]
          | afterPacketLoss window => exact hentry.elim
          | applicationLimited => exact hentry.elim
          | resetCubicState => exact hentry.elim

/-! ## The law -/

/-- An ack of a valid run, in range: time has passed since the epoch, and the code evaluates the
exact curve. -/
theorem cubicTarget_eq_exactCurve (habove : (c.opened a).OriginAbove)
    (helapsed : (c.opened a).epoch ≤ a.eventTime) (hdelay : 0 ≤ a.delayMin)
    (hrange : c.exactOffset a ≤ maxCubicOffset) :
    (c.cubicTarget a : Int) = exactCurve (c.opened a).timeToOriginPoint
      (c.opened a).originPointCongestionWindow (c.exactElapsed a) := by
  have htime : ((c.opened a).elapsedTime a.delayMin a.eventTime : Int) = c.exactElapsed a := by
    have hroot := habove.time_lt
    have hlow : 0 ≤ (a.eventTime + a.delayMin - (c.opened a).epoch) * 2 ^ 10 := by omega
    unfold exactOffset exactElapsed maxCubicOffset at hrange
    unfold elapsedTime exactElapsed toUint64
    generalize (a.eventTime + a.delayMin - (c.opened a).epoch) * 2 ^ 10 = time at hlow hrange ⊢
    have hhigh : time < 2 ^ 64 := by omega
    rw [Int.emod_eq_of_lt hlow hhigh]
    omega
  have hoffset : (((c.opened a).timeToOriginPoint : Int) -
      (c.opened a).elapsedTime a.delayMin a.eventTime).natAbs ≤ maxCubicOffset := by
    rw [htime]
    exact hrange
  unfold cubicTarget
  rw [habove.cubicWindow_eq_exactCurve hoffset, htime]

theorem ack_of_trace (hroot : CubeRootBelow cbrt) {calls : List CubicBytesCall}
    (hvalid : ValidCalls calls) {before after : List (CubicBytes × CubicBytesCall)}
    (hsplit : trace cbrt calls = before ++ (c, .afterAck a) :: after) :
    (c.opened a).OriginAbove ∧ (c.opened a).epoch ≤ a.eventTime ∧ 0 ≤ a.delayMin ∧
      ∀ c₀ a₀, (c₀, .afterAck a₀) ∈ before → a₀.eventTime ≤ a.eventTime := by
  obtain ⟨js, ks, hcalls, hbefore, hstate, -⟩ := History.trace_split hsplit
  have hmem : CubicBytesCall.afterAck a ∈ calls := by simp [hcalls]
  have hinv : CurveInvariant cbrt c (js.filterMap CubicBytesCall.eventTime?) := by
    rw [show c = js.foldl call { cbrt } from hstate]
    apply foldl_call_invariant hroot
    intro x hx window hwindow
    exact (hvalid.windows x (by simp [hcalls, hx]) window hwindow).2
  have htimes := hvalid.times
  rw [hcalls, List.filterMap_append, List.pairwise_append] at htimes
  have hlast : ∀ t ∈ js.filterMap CubicBytesCall.eventTime?, t ≤ a.eventTime :=
    fun t ht => htimes.2.2 t ht _ (by simp [CubicBytesCall.eventTime?])
  refine ⟨hinv.opened hroot (hvalid.windows _ hmem _ rfl).2, ?_, hvalid.delays _ hmem _ rfl, ?_⟩
  · rcases opened_epoch_cases (c := c) (a := a) with ⟨-, hstarted⟩ | ⟨hset, hsame⟩
    · exact hstarted.le
    · rw [hsame]
      exact hlast _ (hinv.epoch.resolve_left hset)
  · intro c₀ a₀ hmem₀
    rw [hbefore] at hmem₀
    exact hlast _ (List.mem_filterMap.mpr ⟨_, History.mem_of_mem_trace hmem₀, rfl⟩)

/-- The curve keeps its law exactly when every ack comes within range of the origin point. -/
theorem curveLaw_iff (hroot : CubeRootBelow cbrt) {calls : List CubicBytesCall}
    (hvalid : ValidCalls calls) : CurveLaw cbrt calls ↔ WithinCurve cbrt calls := by
  constructor
  · intro hlaw c a hmem
    exact (cubeProduct_lt_iff _).mp (hlaw.fits c a hmem)
  · intro hwithin
    refine ⟨fun c a hmem => (cubeProduct_lt_iff _).mpr (hwithin c a hmem), ?_, ?_⟩
    · intro c a hmem hconcave
      obtain ⟨before, after, hsplit⟩ := List.append_of_mem hmem
      exact (ack_of_trace hroot hvalid hsplit).1.delta_le hconcave
    · intro before between after c a c' a' hsplit hbetween hcontinues hdelay
      have hfirst : trace cbrt calls =
          before ++ (c, .afterAck a) :: (between ++ (c', .afterAck a') :: after) := by
        simpa using hsplit
      obtain ⟨js, ks, -, -, -, hpost⟩ := History.trace_split hfirst
      obtain ⟨habove, hepoch, hnonneg, -⟩ := ack_of_trace hroot hvalid hfirst
      obtain ⟨habove', hepoch', hnonneg', hordered⟩ := ack_of_trace hroot hvalid hsplit
      have hcurve : (c'.opened a').curveOf = (c.opened a).curveOf := by
        rw [opened_of_epoch hcontinues, curveOf_of_continues hpost.symm hbetween]
        exact curveOf_afterAck
      have hle : c.exactElapsed a ≤ c'.exactElapsed a' := by
        have hsame : (c'.opened a').epoch = (c.opened a).epoch := congrArg CurveOf.epoch hcurve
        have htime : a.eventTime ≤ a'.eventTime := hordered c a (by simp)
        unfold exactElapsed
        rw [hsame, ← hdelay]
        omega
      have htarget := cubicTarget_eq_exactCurve habove hepoch hnonneg
        (hwithin c a (by rw [hsplit]; simp))
      have htarget' := cubicTarget_eq_exactCurve habove' hepoch' hnonneg'
        (hwithin c' a' (by rw [hsplit]; simp))
      rw [show (c'.opened a').timeToOriginPoint = (c.opened a).timeToOriginPoint from
          congrArg CurveOf.timeToOriginPoint hcurve,
        show (c'.opened a').originPointCongestionWindow =
          (c.opened a).originPointCongestionWindow from congrArg CurveOf.origin hcurve] at htarget'
      have hmono := exactCurve_mono (c.opened a).timeToOriginPoint
        (c.opened a).originPointCongestionWindow hle
      rw [← htarget, ← htarget'] at hmono
      exact_mod_cast hmono

theorem cubeRootBelow_nthRoot : CubeRootBelow (Nat.nthRoot 3) :=
  fun _ _ => Nat.pow_nthRoot_le (.inl (by decide))

def OffsetInRange : CubicBytes × CubicBytesCall → Prop
  | (c, .afterAck a) => c.exactOffset a ≤ maxCubicOffset
  | _ => True

instance : DecidablePred OffsetInRange
  | (_, .afterAck _) => inferInstanceAs (Decidable (_ ≤ _))
  | (_, .afterPacketLoss _) => .isTrue trivial
  | (_, .applicationLimited) => .isTrue trivial
  | (_, .resetCubicState) => .isTrue trivial

theorem withinCurve_iff {calls : List CubicBytesCall} :
    WithinCurve cbrt calls ↔ ∀ entry ∈ trace cbrt calls, OffsetInRange entry := by
  constructor
  · rintro h ⟨c, x⟩ hmem
    cases x with
    | afterAck a => exact h c a hmem
    | afterPacketLoss window => trivial
    | applicationLimited => trivial
    | resetCubicState => trivial
  · intro h c a hmem
    exact h (c, .afterAck a) hmem

def acksAt (times : List Int) : List CubicBytesCall :=
  times.map fun eventTime => .afterAck ⟨1460, 14600, 0, eventTime⟩

theorem curveLaw_half_minute :
    CurveLaw (Nat.nthRoot 3) (.afterPacketLoss 29200 :: acksAt [1, 5000001, 30000001]) :=
  (curveLaw_iff cubeRootBelow_nthRoot ⟨by decide, by decide, by decide⟩).mpr
    (withinCurve_iff.mpr (by decide +kernel))

/-- After 30 s without a loss the target is 15.8 million bytes, and after 32 s it is 2.4 million. -/
theorem target_drops :
    CubeRootBelow (Nat.nthRoot 3) ∧ ValidCalls (acksAt [1, 30000001, 32000001]) ∧
      ¬ CurveLaw (Nat.nthRoot 3) (acksAt [1, 30000001, 32000001]) := by
  refine ⟨cubeRootBelow_nthRoot, ⟨by decide, by decide, by decide⟩, fun hlaw => ?_⟩
  have hle := hlaw.monotone [({ cbrt := Nat.nthRoot 3 }, .afterAck ⟨1460, 14600, 0, 1⟩)] [] []
    ((acksAt [1]).foldl call { cbrt := Nat.nthRoot 3 }) ⟨1460, 14600, 0, 30000001⟩
    ((acksAt [1, 30000001]).foldl call { cbrt := Nat.nthRoot 3 }) ⟨1460, 14600, 0, 32000001⟩
    rfl (by simp) (by show _ ≠ _; decide +kernel) rfl
  exact absurd hle (by decide +kernel)

end CubicBytes

end BbrChrome
