import BbrChrome.Congestion.Bbr2Sender
import BbrChrome.Quic.SentPacketManager
import Mathlib.Data.Int.ConditionallyCompleteOrder

/-!
# The exponential backoff of the retransmission delay

The delay doubles with every timeout in a row, up to ten times, and was meant to be capped at
60 s. The cap compares milliseconds with the fraction dropped, so a delay of less than one
millisecond above it passes.
-/

namespace BbrChrome

namespace QuicSentPacketManager

variable {σ : Type}

def retransmissionDelayBase (m : QuicSentPacketManager σ) : Int :=
  if m.rttStats.smoothedRtt = 0 then Time.fromMilliseconds kDefaultRetransmissionTimeMs
  else max m.minRtoTimeout (m.rttStats.smoothedRtt + 4 * m.rttStats.meanDeviation)

/-- The delay after the given number of timeouts in a row. -/
def delayAfterTimeouts (m : QuicSentPacketManager σ) (consecutiveRtoCount : Nat) : Int :=
  { m with consecutiveRtoCount }.getRetransmissionDelay

/-- RTT statistics that leave room for ten doublings in 64 bits, and the minimum that the
constructor sets. -/
structure BackoffRange (m : QuicSentPacketManager σ) : Prop where
  smoothedRtt_nonneg : 0 ≤ m.rttStats.smoothedRtt
  smoothedRtt_lt : m.rttStats.smoothedRtt < 2 ^ 50
  meanDeviation_nonneg : 0 ≤ m.rttStats.meanDeviation
  meanDeviation_lt : m.rttStats.meanDeviation < 2 ^ 50
  minRtoTimeout : m.minRtoTimeout = Time.fromMilliseconds kMinRetransmissionTimeMs

/-- The delay is within its two bounds, does not shrink from one timeout to the next, and stops
growing after `kMaxRetransmissions` of them. -/
structure BackoffLaw (m : QuicSentPacketManager σ) : Prop where
  min_le : ∀ c, m.minRtoTimeout ≤ m.delayAfterTimeouts c
  le_max : ∀ c, m.delayAfterTimeouts c ≤ Time.fromMilliseconds kMaxRetransmissionTimeMs
  monotone : Monotone m.delayAfterTimeouts
  constant : ∀ c, kMaxRetransmissions ≤ c →
    m.delayAfterTimeouts c = m.delayAfterTimeouts kMaxRetransmissions

/-- No doubling of the base ends within the millisecond above the cap. -/
def SkipsCapMillisecond (m : QuicSentPacketManager σ) : Prop :=
  ∀ k ≤ kMaxRetransmissions,
    m.retransmissionDelayBase * 2 ^ k ≤ Time.fromMilliseconds kMaxRetransmissionTimeMs ∨
      Time.fromMilliseconds (kMaxRetransmissionTimeMs + 1) ≤ m.retransmissionDelayBase * 2 ^ k

variable {m : QuicSentPacketManager σ}

/-! ## The delay as a function of the count -/

theorem minRtoTimeout_le_base (h : m.BackoffRange) :
    m.minRtoTimeout ≤ m.retransmissionDelayBase := by
  unfold retransmissionDelayBase
  split
  · rw [h.minRtoTimeout]
    decide
  · exact le_max_left _ _

theorem base_nonneg (h : m.BackoffRange) : 0 ≤ m.retransmissionDelayBase := by
  have hmin : 0 ≤ m.minRtoTimeout := by
    rw [h.minRtoTimeout]
    decide
  exact hmin.trans (minRtoTimeout_le_base h)

theorem base_mul_lt (h : m.BackoffRange) {k : Nat} (hk : k ≤ kMaxRetransmissions) :
    m.retransmissionDelayBase * 2 ^ k < 2 ^ 63 := by
  have hbase : m.retransmissionDelayBase < 5 * 2 ^ 50 := by
    have hsmoothed := h.smoothedRtt_lt
    have hdeviation := h.meanDeviation_lt
    have hmin : m.minRtoTimeout < 2 ^ 50 := by
      rw [h.minRtoTimeout]
      decide
    unfold retransmissionDelayBase
    split
    · decide
    · omega
  have hpow : (2 : Int) ^ k ≤ 2 ^ 10 := pow_le_pow_right₀ (by decide) hk
  calc m.retransmissionDelayBase * 2 ^ k
      ≤ m.retransmissionDelayBase * 2 ^ 10 := mul_le_mul_of_nonneg_left hpow (base_nonneg h)
    _ < 2 ^ 63 := by omega

/-- The cap takes hold from a full millisecond above it. -/
theorem delayAfterTimeouts_eq (h : m.BackoffRange) (c : Nat) :
    m.delayAfterTimeouts c =
      if Time.fromMilliseconds (kMaxRetransmissionTimeMs + 1) ≤
          m.retransmissionDelayBase * 2 ^ min c kMaxRetransmissions
      then Time.fromMilliseconds kMaxRetransmissionTimeMs
      else m.retransmissionDelayBase * 2 ^ min c kMaxRetransmissions := by
  have hnonneg : 0 ≤ m.retransmissionDelayBase * 2 ^ min c kMaxRetransmissions :=
    mul_nonneg (base_nonneg h) (by positivity)
  show (if kMaxRetransmissionTimeMs <
        (m.retransmissionDelayBase * 2 ^ min c kMaxRetransmissions).tdiv 1000
      then Time.fromMilliseconds kMaxRetransmissionTimeMs
      else m.retransmissionDelayBase * 2 ^ min c kMaxRetransmissions) = _
  generalize m.retransmissionDelayBase * 2 ^ min c kMaxRetransmissions = delay at hnonneg
  rw [Int.tdiv_eq_ediv_of_nonneg hnonneg]
  have hcut : kMaxRetransmissionTimeMs < delay / 1000 ↔
      Time.fromMilliseconds (kMaxRetransmissionTimeMs + 1) ≤ delay := by
    unfold kMaxRetransmissionTimeMs Time.fromMilliseconds
    omega
  rw [if_congr hcut rfl rfl]

theorem base_le_mul (h : m.BackoffRange) (k : Nat) :
    m.retransmissionDelayBase ≤ m.retransmissionDelayBase * 2 ^ k :=
  le_mul_of_one_le_right (base_nonneg h) (one_le_pow₀ (by decide))

theorem delayAfterTimeouts_eq_min (h : m.BackoffRange) (hskips : m.SkipsCapMillisecond) (c : Nat) :
    m.delayAfterTimeouts c =
      min (m.retransmissionDelayBase * 2 ^ min c kMaxRetransmissions)
        (Time.fromMilliseconds kMaxRetransmissionTimeMs) := by
  have hside := hskips (min c kMaxRetransmissions) (min_le_right _ _)
  have hstep : Time.fromMilliseconds kMaxRetransmissionTimeMs <
      Time.fromMilliseconds (kMaxRetransmissionTimeMs + 1) := by decide
  rw [delayAfterTimeouts_eq h]
  split
  · next hcut => exact (min_eq_right (hstep.le.trans hcut)).symm
  · next hcut => exact (min_eq_left (hside.resolve_right hcut)).symm

/-! ## The law -/

/-- The law holds when no doubling ends within the millisecond above the cap, and only then. No
doubling leaves 63 bits. -/
theorem backoffLaw_iff (h : m.BackoffRange) :
    (m.BackoffLaw ↔ m.SkipsCapMillisecond) ∧
      ∀ k ≤ kMaxRetransmissions, m.retransmissionDelayBase * 2 ^ k < 2 ^ 63 := by
  refine ⟨⟨?_, ?_⟩, fun k hk => base_mul_lt h hk⟩
  · intro hlaw k hk
    have hle := hlaw.le_max k
    rw [delayAfterTimeouts_eq h, min_eq_left hk] at hle
    split at hle
    · next hcut => exact .inr hcut
    · exact .inl hle
  · intro hskips
    have hvalue := delayAfterTimeouts_eq_min h hskips
    refine ⟨fun c => ?_, fun c => ?_, fun c c' hle => ?_, fun c hc => ?_⟩
    · have hcap : m.minRtoTimeout ≤ Time.fromMilliseconds kMaxRetransmissionTimeMs := by
        rw [h.minRtoTimeout]
        decide
      rw [hvalue]
      exact le_min ((minRtoTimeout_le_base h).trans (base_le_mul h _)) hcap
    · rw [hvalue]
      exact min_le_right _ _
    · rw [hvalue, hvalue]
      have hpow : (2 : Int) ^ min c kMaxRetransmissions ≤ 2 ^ min c' kMaxRetransmissions :=
        pow_le_pow_right₀ (by decide) (min_le_min_right _ hle)
      exact min_le_min_right _ (mul_le_mul_of_nonneg_left hpow (base_nonneg h))
    · rw [hvalue, hvalue, min_eq_right hc, min_self]

def withEstimates (smoothedRtt meanDeviation : Int) : QuicSentPacketManager Bbr2Sender :=
  { sendAlgorithm := .create 0 {} 32 2000 fun _ => 0
    rttStats := { smoothedRtt, meanDeviation } }

/-- With a base of 300 ms the delays are 0.3 s, 0.6 s and so on to 38.4 s, and then 60 s. -/
theorem backoffLaw_of_short_trips : (withEstimates 100000 50000).BackoffLaw :=
  (backoffLaw_iff ⟨by decide, by decide, by decide, by decide, by decide⟩).1.mpr
    (by unfold SkipsCapMillisecond; decide +kernel)

/-- A base of 468752 microseconds doubled seven times is 60000256: the seventh delay is above
the cap, and the eighth one is shorter. -/
theorem backoff_passes_cap :
    (withEstimates 312752 39000).BackoffRange ∧ ¬ (withEstimates 312752 39000).BackoffLaw := by
  have hseventh : (withEstimates 312752 39000).delayAfterTimeouts 7 = 60000256 := by
    decide +kernel
  refine ⟨⟨by decide, by decide, by decide, by decide, by decide⟩, fun hlaw => ?_⟩
  have hmax := hlaw.le_max 7
  rw [hseventh] at hmax
  exact absurd hmax (by decide)

end QuicSentPacketManager

end BbrChrome
