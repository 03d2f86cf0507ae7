import BbrChrome.Congestion.Bbr2NetworkModel
import BbrChrome.Library.NearestRounding

/-!
# The response to a loss never raises the bandwidth

Apart from the default mode `AdaptLowerBounds` decreases `bandwidth_lo_` "whenever there
is loss": by a difference of bandwidths, or by the part of the inflight or of the window
that was not lost. The part is a `double`, the product with it a `float`.
-/

namespace BbrChrome

open Rounding

theorem subUint64_eq_sub_iff (a b : Nat) : (subUint64 a b : Int) = a - b ↔ b ≤ a := by
  unfold subUint64
  split
  · omega
  · omega

/-! ## The part that was not lost -/

/-- `(whole - lost) / static_cast<double>(whole)`, as the `float` it is passed as. -/
def keptPart (whole lost : Nat) : Rat :=
  float32 (float64 (float64 (subUint64 whole lost) / float64 whole))

/-- The loss is so small a part of the whole that the `float` of what is kept is one. Where
both numbers fit into 53 bits this says `2 ^ 54 * lost ≤ (2 ^ 29 + 1) * whole`. -/
def LossVanishes (whole lost : Nat) : Prop :=
  (2 ^ 54 - 2 ^ 29 - 1) * float64 whole ≤ 2 ^ 54 * float64 (whole - lost : Nat)

variable {whole lost n : Nat}

theorem float64_pos {x : Rat} (hx : 0 < x) : 0 < float64 x := roundSig_pos (p := 52) hx

theorem float64_natCast_pos (hn : 0 < n) : 0 < float64 n := float64_pos (by exact_mod_cast hn)

theorem keptPart_all (whole : Nat) : keptPart whole whole = 0 := by
  have hzero : float64 ((0 : Nat) : Rat) = 0 := rfl
  unfold keptPart
  rw [subUint64_of_le (Nat.le_refl _), Nat.sub_self, hzero, zero_div]
  rfl

theorem keptPart_quotient (hlt : lost < whole) :
    0 < float64 (whole - lost : Nat) / float64 whole ∧
      float64 (whole - lost : Nat) / float64 whole ≤ 1 := by
  have hwhole := float64_natCast_pos (Nat.zero_lt_of_lt hlt)
  have hkept := float64_natCast_pos (Nat.sub_pos_of_lt hlt)
  have hcast : ((whole - lost : Nat) : Rat) ≤ whole := by exact_mod_cast Nat.sub_le whole lost
  have hpos : (0 : Rat) < (whole - lost : Nat) := by exact_mod_cast Nat.sub_pos_of_lt hlt
  have hmono : float64 (whole - lost : Nat) ≤ float64 whole := roundSig_mono (p := 52) hpos hcast
  exact ⟨div_pos hkept hwhole, (div_le_one hwhole).mpr hmono⟩

theorem roundSig_le_one {p : Nat} {x : Rat} (hx : 0 < x) (hle : x ≤ 1) :
    roundSig (p + 1) x ≤ 1 := by
  have h := roundSig_le_representable (p := p) (m := 1) (i := 0) hx Nat.one_le_two_pow
    (by simpa using hle)
  simpa using h

theorem keptPart_of_lt (hlt : lost < whole) :
    keptPart whole lost = float32 (float64 (float64 (whole - lost : Nat) / float64 whole)) := by
  rw [keptPart, subUint64_of_le (Nat.le_of_lt hlt)]

theorem keptPart_pos (hlt : lost < whole) : 0 < keptPart whole lost := by
  rw [keptPart_of_lt hlt]
  exact roundSig_pos (p := 23) (float64_pos (keptPart_quotient hlt).1)

theorem keptPart_le_one (hlt : lost < whole) : keptPart whole lost ≤ 1 := by
  obtain ⟨hpos, hle⟩ := keptPart_quotient hlt
  rw [keptPart_of_lt hlt]
  exact roundSig_le_one (p := 23) (float64_pos hpos) (roundSig_le_one (p := 52) hpos hle)

/-- A `double` reaches the midpoint between one and the `float` below one. -/
theorem one_le_float32_iff {x : Rat} (hx : 0 < x) :
    1 ≤ float32 x ↔ 2 ^ 25 - 1 ≤ 2 ^ 25 * x := by
  have hm : ((2 ^ 24 - 1 : Nat) : Rat) = 2 ^ 24 - 1 := by norm_num
  have hunit : (2 : Rat) ^ (-24 : Int) = 1 / 2 ^ 24 := by norm_num
  have h : (((2 ^ 24 - 1 : Nat) : Rat) + 1) * 2 ^ (-24 : Int) ≤ float32 x ↔
      (2 * ((2 ^ 24 - 1 : Nat) : Rat) + 1) * 2 ^ (-24 : Int) ≤ 2 * x :=
    le_roundSig_iff_midpoint_le (p := 23) (by norm_num) (by norm_num) (by norm_num) hx
  rw [hm, hunit] at h
  constructor
  · intro hone
    have := h.mp (by linarith)
    linarith
  · intro hmid
    have := h.mpr (by linarith)
    linarith

/-- The same for the quotient that is rounded to the `double`: it may miss the midpoint by
half a unit of the last of 53 bits. -/
theorem midpoint_le_float64_iff {x : Rat} (hx : 0 < x) :
    2 ^ 25 - 1 ≤ 2 ^ 25 * float64 x ↔ 2 ^ 54 - 2 ^ 29 - 1 ≤ 2 ^ 54 * x := by
  have hm : ((2 ^ 53 - 2 ^ 28 - 1 : Nat) : Rat) = 2 ^ 53 - 2 ^ 28 - 1 := by norm_num
  have hunit : (2 : Rat) ^ (-53 : Int) = 1 / 2 ^ 53 := by norm_num
  have h : (((2 ^ 53 - 2 ^ 28 - 1 : Nat) : Rat) + 1) * 2 ^ (-53 : Int) ≤ float64 x ↔
      (2 * ((2 ^ 53 - 2 ^ 28 - 1 : Nat) : Rat) + 1) * 2 ^ (-53 : Int) ≤ 2 * x :=
    le_roundSig_iff_midpoint_le (p := 52) (by norm_num) (by norm_num) (by norm_num) hx
  rw [hm, hunit] at h
  constructor
  · intro hmid
    have := h.mp (by linarith)
    linarith
  · intro hquot
    have := h.mpr (by linarith)
    linarith

theorem one_le_keptPart_iff (hlt : lost < whole) :
    1 ≤ keptPart whole lost ↔ LossVanishes whole lost := by
  obtain ⟨hpos, _⟩ := keptPart_quotient hlt
  have hwhole := float64_natCast_pos (Nat.zero_lt_of_lt hlt)
  rw [keptPart_of_lt hlt, one_le_float32_iff (float64_pos hpos),
    midpoint_le_float64_iff hpos, LossVanishes, ← mul_div_assoc, le_div_iff₀ hwhole]

/-- A loss that does not vanish leaves one `float` step less at least. -/
theorem keptPart_le_of_not_vanishes (hlt : lost < whole) (hloss : ¬ LossVanishes whole lost) :
    keptPart whole lost ≤ 1 - 1 / 2 ^ 24 := by
  obtain ⟨hpos, _⟩ := keptPart_quotient hlt
  have hdouble := float64_pos hpos
  rw [← one_le_keptPart_iff hlt, keptPart_of_lt hlt, one_le_float32_iff hdouble, not_le] at hloss
  have hm : ((2 ^ 24 - 1 : Nat) : Rat) = 2 ^ 24 - 1 := by norm_num
  have hunit : (2 : Rat) ^ (-24 : Int) = 1 / 2 ^ 24 := by norm_num
  have h : keptPart whole lost ≤ ((2 ^ 24 - 1 : Nat) : Rat) * 2 ^ (-24 : Int) := by
    rw [keptPart_of_lt hlt]
    apply roundSig_le_of_lt_midpoint (p := 23) (by norm_num) (by norm_num) hdouble
    rw [hm, hunit]
    linarith
  rw [hm, hunit] at h
  linarith

/-! ## Scaling by the kept part -/

theorem scale_le_iff (bandwidth : QuicBandwidth) (factor : Rat) :
    bandwidth.scale factor ≤ bandwidth ↔
      llround (float32 (float32 bandwidth.bitsPerSecond * factor)) ≤ bandwidth.bitsPerSecond := by
  show (llround _).toNat ≤ bandwidth.bitsPerSecond ↔ _
  exact Int.toNat_le

/-- The product with the kept part is not above the bandwidth, unless the loss vanishes and
the conversion of the bandwidth to `float` rounds up. -/
theorem scale_keptPart_le_iff (bandwidth : QuicBandwidth) (hlost : 0 < lost)
    (hle : lost ≤ whole) :
    bandwidth.scale (keptPart whole lost) ≤ bandwidth ↔
      (LossVanishes whole lost →
        float32 bandwidth.bitsPerSecond ≤ bandwidth.bitsPerSecond) := by
  rw [scale_le_iff]
  generalize bandwidth.bitsPerSecond = bits
  have hzero : float32 (0 : Rat) = 0 := rfl
  rcases Nat.eq_or_lt_of_le hle with rfl | hlt
  · -- Everything was lost.
    have hnone : ¬ LossVanishes lost lost := by
      have hpos := float64_natCast_pos hlost
      have hkept : float64 ((lost - lost : Nat) : Rat) = 0 := by
        rw [Nat.sub_self]
        rfl
      rw [LossVanishes, hkept]
      linarith
    rw [keptPart_all, mul_zero, hzero]
    exact iff_of_true (llround_le_natCast (by exact_mod_cast Nat.zero_le bits))
      fun h => absurd h hnone
  rcases Nat.eq_zero_or_pos bits with rfl | hbits
  · rw [Nat.cast_zero, hzero, zero_mul, hzero]
    exact iff_of_true (llround_le_natCast (le_of_eq Nat.cast_zero.symm)) fun _ => le_refl _
  have hpos : (0 : Rat) < bits := by exact_mod_cast hbits
  by_cases hloss : LossVanishes whole lost
  · have hone : keptPart whole lost = 1 :=
      le_antisymm (keptPart_le_one hlt) ((one_le_keptPart_iff hlt).mpr hloss)
    have htwice : float32 (float32 bits) = float32 bits := roundSig_roundSig (p := 23) hpos
    rw [hone, mul_one, htwice]
    constructor
    · intro hround _
      by_contra hup
      have hstep : (bits : Rat) + 1 ≤ float32 bits :=
        natCast_add_one_le_roundSig (p := 23) (not_le.mp hup)
      have := lt_llround hstep
      omega
    · intro hdown
      exact llround_le_natCast (hdown hloss)
  · have hcut := keptPart_le_of_not_vanishes hlt hloss
    have hscaled : float32 (float32 bits * keptPart whole lost) ≤ bits :=
      roundSig_mul_le (p := 23) hpos (keptPart_pos hlt) hcut
    exact iff_of_true (llround_le_natCast hscaled) fun h => absurd h hloss

/-! ## The reduction -/

namespace Bbr2NetworkModel

/-- The event changes the bounds: something was lost, and not while slowing down. -/
def Reduces (m : Bbr2NetworkModel) (event : Bbr2CongestionEvent) : Prop :=
  event.bytesLost ≠ 0 ∧ ¬ m.pacingGain < 1

instance (m : Bbr2NetworkModel) (event : Bbr2CongestionEvent) : Decidable (m.Reduces event) :=
  inferInstanceAs (Decidable (_ ∧ _))

/-- The model as the `switch` over the modes finds it: `bandwidth_lo_` is set and saved. -/
def startReduction (m : Bbr2NetworkModel) : Bbr2NetworkModel :=
  let bandwidthLo := if m.bandwidthLo.isInfinite then m.maxBandwidth else m.bandwidthLo
  { m with
    bandwidthLo
    priorBandwidthLo := if m.priorBandwidthLo.isZero then bandwidthLo else m.priorBandwidthLo }

/-- What follows the `switch`: the floors under the reduced value. -/
def raiseToFloors (m : Bbr2NetworkModel) (event : Bbr2CongestionEvent)
    (reduced : QuicBandwidth) : Bbr2NetworkModel :=
  let lastBandwidth :=
    if event.sampleMaxBandwidth.isZero then m.bandwidthLatest else event.sampleMaxBandwidth
  let floor :=
    if m.params.startupFullBwThreshold < m.pacingGain then
      lastBandwidth.scale (float32 (m.params.startupFullBwThreshold / m.pacingGain))
    else lastBandwidth
  if event.endOfRoundTrip then
    { m with
      bandwidthLo :=
        max (max reduced floor) (m.priorBandwidthLo.scale (float32 m.params.oneMinusBeta))
      priorBandwidthLo := .zero }
  else { m with bandwidthLo := max reduced floor }

variable {m : Bbr2NetworkModel} {event : Bbr2CongestionEvent}

theorem adaptLowerBounds_eq (hmode : m.params.bwLoMode ≠ .default) (h : m.Reduces event) :
    m.adaptLowerBounds event =
      m.startReduction.raiseToFloors event (m.startReduction.reducedBandwidthLo event) := by
  rw [adaptLowerBounds, if_neg hmode, adaptLowerBoundsOnLoss, if_neg h.1, if_neg h.2]
  rfl

theorem adaptLowerBounds_of_not_reduces (hmode : m.params.bwLoMode ≠ .default)
    (h : ¬ m.Reduces event) : m.adaptLowerBounds event = m := by
  rw [adaptLowerBounds, if_neg hmode, adaptLowerBoundsOnLoss]
  split
  · rfl
  · next hlost =>
      rw [if_pos (by_contra fun hgain => h ⟨hlost, hgain⟩)]

/-- The number of bytes that the lost ones are taken from, in the two modes that scale. -/
def reductionWhole (m : Bbr2NetworkModel) (event : Bbr2CongestionEvent) : Option Nat :=
  match m.params.bwLoMode with
  | .inflightReduction => some (max (m.bdp m.maxBandwidth) event.priorBytesInFlight)
  | .cwndReduction => some event.priorCwnd
  | _ => none

/-- The reduced value is not above the value reduced, and the difference of byte counts that
the mode computes does not wrap. -/
def NeverScalesUp (m : Bbr2NetworkModel) (event : Bbr2CongestionEvent) : Prop :=
  m.reducedBandwidthLo event ≤ m.bandwidthLo ∧
    ∀ whole ∈ m.reductionWhole event,
      (subUint64 whole event.bytesLost : Int) = whole - event.bytesLost

/-- No more is lost than the whole, and where the loss vanishes against the whole the
bandwidth is not rounded up. -/
def LossWithinWhole (m : Bbr2NetworkModel) (event : Bbr2CongestionEvent) : Prop :=
  ∀ whole ∈ m.reductionWhole event, event.bytesLost ≤ whole ∧
    (LossVanishes whole event.bytesLost →
      float32 m.bandwidthLo.bitsPerSecond ≤ m.bandwidthLo.bitsPerSecond)

theorem reducedBandwidthLo_of_whole {whole : Nat} (h : m.reductionWhole event = some whole) :
    m.reducedBandwidthLo event = m.bandwidthLo.scale (keptPart whole event.bytesLost) := by
  unfold reductionWhole at h
  unfold reducedBandwidthLo
  cases hmode : m.params.bwLoMode with
  | inflightReduction | cwndReduction =>
      rw [hmode] at h
      cases h
      rfl
  | default | minRttReduction =>
      rw [hmode] at h
      cases h

theorem reducedBandwidthLo_le_of_none (h : m.reductionWhole event = none) :
    m.reducedBandwidthLo event ≤ m.bandwidthLo := by
  unfold reductionWhole at h
  unfold reducedBandwidthLo
  cases hmode : m.params.bwLoMode with
  | inflightReduction | cwndReduction =>
      rw [hmode] at h
      cases h
  | default => exact le_refl _
  | minRttReduction =>
      show ((m.bandwidthLo.bitsPerSecond : Int) - _).toNat ≤ m.bandwidthLo.bitsPerSecond
      omega

/-- The reduction never scales up and never wraps exactly if the loss stays within the whole
and no vanishing loss meets a bandwidth that is rounded up. -/
theorem neverScalesUp_iff (m : Bbr2NetworkModel) (event : Bbr2CongestionEvent) :
    (m.Reduces event → m.startReduction.NeverScalesUp event) ↔
      (m.Reduces event → m.startReduction.LossWithinWhole event) := by
  apply imp_congr_right
  intro hreduces
  have hlost := Nat.pos_of_ne_zero hreduces.1
  generalize m.startReduction = started
  unfold NeverScalesUp LossWithinWhole
  cases hwhole : started.reductionWhole event with
  | none => simp [reducedBandwidthLo_le_of_none hwhole]
  | some whole =>
      rw [reducedBandwidthLo_of_whole hwhole]
      simp only [Option.mem_some_iff, forall_eq']
      rw [subUint64_eq_sub_iff, and_comm]
      exact and_congr_right fun hle => scale_keptPart_le_iff _ hlost hle

/-! ## A loss of more than the window -/

/-- After the window has been cut to four packets, five of ten packets in flight are lost. -/
def shrunkWindowModel : Bbr2NetworkModel :=
  { create { cwndLimits := ⟨4 * 1472, 256 * 1472⟩, bwLoMode := .cwndReduction } 100000 1 2 1 with
    bandwidthLo := ⟨2000⟩ }

def shrunkWindowLoss : Bbr2CongestionEvent :=
  { bytesLost := 5 * 1472, priorBytesInFlight := 10 * 1472, priorCwnd := 4 * 1472 }

theorem cwndReduction_scales_up :
    shrunkWindowModel.params.bwLoMode = .cwndReduction ∧ 0 < shrunkWindowModel.minRtt ∧
      0 < shrunkWindowLoss.bytesLost ∧
      shrunkWindowLoss.bytesLost ≤ shrunkWindowLoss.priorBytesInFlight ∧
      0 < shrunkWindowLoss.priorCwnd ∧
      shrunkWindowModel.Reduces shrunkWindowLoss ∧
      subUint64 shrunkWindowLoss.priorCwnd shrunkWindowLoss.bytesLost = 2 ^ 64 - 1472 ∧
      shrunkWindowModel.startReduction.bandwidthLo = ⟨2000⟩ ∧
      shrunkWindowModel.startReduction.bandwidthLo <
        shrunkWindowModel.startReduction.reducedBandwidthLo shrunkWindowLoss := by
  decide +kernel

end Bbr2NetworkModel

end BbrChrome
