import Mathlib.Data.Nat.Cast.Order.Field
import Mathlib.Data.Nat.Prime.Basic
import Mathlib.Data.Rat.Floor
import Mathlib.Tactic.FieldSimp
import Mathlib.Tactic.Linarith
import Mathlib.Tactic.Positivity
import Mathlib.Tactic.Ring

/-!
# Rounding to a number of significant bits

Binary floating-point results as exact rationals: `roundSig p` rounds to the
nearest rational with `p` significant bits, ties to even, and `llround` rounds
to the nearest integer, ties away from zero. Exponents are not bounded.
-/

namespace Rounding

/-- The quotient `n / d` rounded to the nearest natural number, ties to even. -/
def roundHalfEven (n d : Nat) : Nat :=
  let q := n / d
  let r := n % d
  if 2 * r < d then q else if d < 2 * r then q + 1 else q + q % 2

/-- The exponent `e` with `2 ^ e ≤ n / d < 2 ^ (e + 1)`. -/
def exponent (n d : Nat) : Int :=
  let e : Int := (Nat.log2 n : Int) - Nat.log2 d
  let reached : Bool := if 0 ≤ e then d * 2 ^ e.toNat ≤ n else d ≤ n * 2 ^ (-e).toNat
  if reached then e else e - 1

/-- The positive quotient `n / d` rounded to `p` significant bits. -/
def roundQuotient (p n d : Nat) : Rat :=
  let shift : Int := p - 1 - exponent n d
  if 0 ≤ shift then mkRat (roundHalfEven (n * 2 ^ shift.toNat) d) (2 ^ shift.toNat)
  else ((roundHalfEven n (d * 2 ^ (-shift).toNat) * 2 ^ (-shift).toNat : Nat) : Rat)

def roundSig (p : Nat) (x : Rat) : Rat :=
  if x = 0 then 0
  else if 0 < x then roundQuotient p x.num.natAbs x.den
  else -roundQuotient p x.num.natAbs x.den

/-- Round to the nearest integer, ties away from zero. -/
def llround (x : Rat) : Int :=
  if 0 ≤ x then (x + 1 / 2).floor else -(-x + 1 / 2).floor

/-- The conversion of a floating-point value to an integer drops the fraction. -/
def truncate (x : Rat) : Int :=
  if 0 ≤ x then x.floor else -(-x).floor

/-! ## Natural numbers

A natural number below `2 ^ p` needs no rounding to `p` bits.
-/

variable {p n d : Nat}

theorem roundHalfEven_one (n : Nat) : roundHalfEven n 1 = n := by
  simp [roundHalfEven, Nat.mod_one]

theorem div_le_roundHalfEven (n d : Nat) : n / d ≤ roundHalfEven n d := by
  unfold roundHalfEven
  dsimp only
  split
  · exact le_refl _
  · split
    · omega
    · omega

theorem roundHalfEven_le (n d : Nat) : roundHalfEven n d ≤ n / d + 1 := by
  unfold roundHalfEven
  dsimp only
  split
  · omega
  · split
    · omega
    · omega

theorem exponent_one (hn : n ≠ 0) : exponent n 1 = Nat.log2 n := by
  have hle : 2 ^ Nat.log2 n ≤ n := Nat.log2_self_le hn
  have hone : Nat.log2 1 = 0 := by decide
  simp [exponent, hone, hle]

theorem roundQuotient_of_lt (hn : n ≠ 0) (hp : n < 2 ^ p) : roundQuotient p n 1 = n := by
  have hlog : Nat.log2 n < p := (Nat.log2_lt hn).mpr hp
  have hshift : (0 : Int) ≤ p - 1 - Nat.log2 n := by omega
  unfold roundQuotient
  rw [exponent_one hn]
  dsimp only
  rw [if_pos hshift, roundHalfEven_one, Rat.mkRat_eq_div]
  have hpos : (2 ^ ((p : Int) - 1 - Nat.log2 n).toNat : Rat) ≠ 0 := by positivity
  push_cast
  field_simp

theorem roundSig_natCast_of_lt (hp : n < 2 ^ p) : roundSig p n = n := by
  by_cases hn : n = 0
  · simp [roundSig, hn]
  · have hpos : (0 : Rat) < n := by exact_mod_cast Nat.pos_of_ne_zero hn
    rw [roundSig, if_neg hpos.ne', if_pos hpos]
    exact roundQuotient_of_lt hn hp

/-! ## Dyadic quotients

A quotient by a power of two is exact as soon as its numerator has few enough bits.
-/

theorem exponent_two_pow (hn : n ≠ 0) (k : Nat) :
    exponent n (2 ^ k) = (Nat.log2 n : Int) - k := by
  have hle : 2 ^ Nat.log2 n ≤ n := Nat.log2_self_le hn
  unfold exponent
  rw [Nat.log2_two_pow]
  dsimp only
  by_cases hsign : (0 : Int) ≤ (Nat.log2 n : Int) - k
  · obtain ⟨j, hj⟩ := Int.eq_ofNat_of_zero_le hsign
    have hpow : 2 ^ k * 2 ^ j ≤ n := by
      rw [← pow_add, show k + j = Nat.log2 n by omega]
      exact hle
    rw [if_pos hsign, hj, Int.toNat_natCast, decide_eq_true hpow, if_pos rfl]
  · obtain ⟨j, hj⟩ := Int.eq_ofNat_of_zero_le
      (show (0 : Int) ≤ -((Nat.log2 n : Int) - k) by omega)
    have hpow : 2 ^ k ≤ n * 2 ^ j := by
      rw [show k = Nat.log2 n + j by omega, pow_add]
      exact Nat.mul_le_mul_right _ hle
    rw [if_neg hsign, hj, Int.toNat_natCast, decide_eq_true hpow, if_pos rfl]

theorem roundHalfEven_mul (n : Nat) (hd : 0 < d) : roundHalfEven (n * d) d = n := by
  simp [roundHalfEven, Nat.mul_div_cancel _ hd, hd]

theorem roundQuotient_two_pow (hn : n ≠ 0) (hp : n < 2 ^ p) (k : Nat) :
    roundQuotient p n (2 ^ k) = (n : Rat) / 2 ^ k := by
  have hlog : Nat.log2 n < p := (Nat.log2_lt hn).mpr hp
  obtain ⟨j, hj⟩ := Int.eq_ofNat_of_zero_le
    (show (0 : Int) ≤ (p : Int) - 1 - Nat.log2 n by omega)
  have hshift : (p : Int) - 1 - ((Nat.log2 n : Int) - k) = ((j + k : Nat) : Int) := by
    push_cast
    omega
  unfold roundQuotient
  rw [exponent_two_pow hn]
  dsimp only
  rw [hshift, if_pos (Int.natCast_nonneg _), Int.toNat_natCast, pow_add, ← mul_assoc,
    roundHalfEven_mul _ (by positivity), Rat.mkRat_eq_div]
  push_cast
  field_simp

theorem roundSig_div_two_pow (hp : n < 2 ^ p) (k : Nat) :
    roundSig p ((n : Rat) / 2 ^ k) = (n : Rat) / 2 ^ k := by
  by_cases hn : n = 0
  · simp [roundSig, hn]
  · have hpos : (0 : Rat) < (n : Rat) / 2 ^ k := by
      have : (0 : Rat) < n := by exact_mod_cast Nat.pos_of_ne_zero hn
      positivity
    -- The quotient in lowest terms has a power of two below as well, and a smaller numerator.
    have hden : ((n : Rat) / 2 ^ k).den ∣ 2 ^ k := by
      have h := Rat.den_dvd n ((2 ^ k : Nat) : Int)
      rw [Rat.divInt_eq_div] at h
      push_cast at h
      exact Int.natCast_dvd_natCast.mp (by push_cast; exact h)
    obtain ⟨j, -, hj⟩ := (Nat.dvd_prime_pow Nat.prime_two).mp hden
    have hnum : ((n : Rat) / 2 ^ k).num.natAbs ∣ n := by
      have h := Rat.num_dvd n (b := ((2 ^ k : Nat) : Int)) (by positivity)
      rw [Rat.divInt_eq_div] at h
      push_cast at h
      exact Int.natAbs_dvd_natAbs.mpr h
    have hle := Nat.le_of_dvd (Nat.pos_of_ne_zero hn) hnum
    have hne : ((n : Rat) / 2 ^ k).num.natAbs ≠ 0 := by
      have := Rat.num_pos.mpr hpos
      omega
    have hlow : ((((n : Rat) / 2 ^ k).num.natAbs : Rat)) / 2 ^ j = (n : Rat) / 2 ^ k := by
      have h := Rat.num_div_den ((n : Rat) / 2 ^ k)
      rw [hj] at h
      have hnonneg := (Rat.num_pos.mpr hpos).le
      rw [← Int.cast_natCast, Int.natAbs_of_nonneg hnonneg]
      exact_mod_cast h
    rw [roundSig, if_neg hpos.ne', if_pos hpos, hj,
      roundQuotient_two_pow hne (by omega), hlow]

theorem llround_div (n : Nat) (hd : 0 < d) :
    llround ((n : Rat) / d) = (((2 * n + d) / (2 * d) : Nat) : Int) := by
  have hnonneg : (0 : Rat) ≤ (n : Rat) / d := by positivity
  have hdne : (d : Rat) ≠ 0 := by exact_mod_cast hd.ne'
  have hsum : (n : Rat) / d + 1 / 2 = ((2 * n + d : Nat) : Rat) / (2 * d : Nat) := by
    push_cast
    field_simp
  rw [llround, if_pos hnonneg, hsum]
  exact Rat.floor_natCast_div_natCast (2 * n + d) (2 * d)

/-! ## Signs -/

theorem roundQuotient_nonneg (p n d : Nat) : 0 ≤ roundQuotient p n d := by
  unfold roundQuotient
  dsimp only
  split
  · exact Rat.mkRat_nonneg (Int.natCast_nonneg _) _
  · exact Nat.cast_nonneg _

theorem roundSig_nonneg {x : Rat} (hx : 0 ≤ x) : 0 ≤ roundSig p x := by
  unfold roundSig
  split
  · exact le_refl _
  · rename_i hne
    rw [if_pos (lt_of_le_of_ne hx (Ne.symm hne))]
    exact roundQuotient_nonneg _ _ _

theorem llround_nonneg {x : Rat} (hx : 0 ≤ x) : 0 ≤ llround x := by
  unfold llround
  rw [if_pos hx]
  have hhalf : (0 : Rat) ≤ x + 1 / 2 := by linarith
  exact Rat.le_floor_iff.mpr (by exact_mod_cast hhalf)

/-! ## Bounds on a rounded value -/

theorem two_zpow_exponent_le (hn : n ≠ 0) (hd : d ≠ 0) :
    (2 : Rat) ^ exponent n d ≤ (n : Rat) / d := by
  have hdpos : (0 : Rat) < d := by exact_mod_cast Nat.pos_of_ne_zero hd
  have hnlow : ((2 : Rat) ^ Nat.log2 n) ≤ n := by exact_mod_cast Nat.log2_self_le hn
  have hdhigh : (d : Rat) < 2 ^ (Nat.log2 d + 1) := by exact_mod_cast Nat.lt_log2_self
  rw [le_div_iff₀ hdpos]
  have hbelow : (2 : Rat) ^ ((Nat.log2 n : Int) - Nat.log2 d - 1) * d ≤ n := by
    have hexp : (2 : Rat) ^ ((Nat.log2 n : Int) - Nat.log2 d - 1) * 2 ^ (Nat.log2 d + 1) =
        2 ^ Nat.log2 n := by
      rw [← zpow_natCast, ← zpow_natCast, ← zpow_add₀ (by norm_num)]
      congr 1
      push_cast
      ring
    calc (2 : Rat) ^ ((Nat.log2 n : Int) - Nat.log2 d - 1) * d
        ≤ 2 ^ ((Nat.log2 n : Int) - Nat.log2 d - 1) * 2 ^ (Nat.log2 d + 1) :=
          mul_le_mul_of_nonneg_left hdhigh.le (zpow_nonneg (by norm_num) _)
      _ = 2 ^ Nat.log2 n := hexp
      _ ≤ n := hnlow
  unfold exponent
  generalize (Nat.log2 n : Int) - Nat.log2 d = e at *
  dsimp only
  by_cases hsign : 0 ≤ e
  · obtain ⟨k, rfl⟩ := Int.eq_ofNat_of_zero_le hsign
    rw [if_pos hsign, Int.toNat_natCast]
    by_cases hreached : d * 2 ^ k ≤ n
    · rw [decide_eq_true hreached, if_pos rfl, zpow_natCast, mul_comm]
      exact_mod_cast hreached
    · rw [decide_eq_false hreached]
      exact hbelow
  · obtain ⟨k, hk⟩ := Int.eq_ofNat_of_zero_le (show 0 ≤ -e by omega)
    rw [if_neg hsign, hk, Int.toNat_natCast]
    by_cases hreached : d ≤ n * 2 ^ k
    · have hexp : (2 : Rat) ^ e = (2 ^ k)⁻¹ := by
        rw [← zpow_natCast, ← hk, zpow_neg, inv_inv]
      rw [decide_eq_true hreached, if_pos rfl, hexp, inv_mul_le_iff₀ (by positivity), mul_comm]
      exact_mod_cast hreached
    · rw [decide_eq_false hreached]
      exact hbelow

/-- The rounded quotient exceeds the exact one by one unit of the last kept bit at most. -/
theorem roundQuotient_le_add (p n d : Nat) :
    roundQuotient p n d ≤ (n : Rat) / d + 2 ^ (exponent n d + 1 - p) := by
  have hround : ∀ n d : Nat, (roundHalfEven n d : Rat) ≤ (n : Rat) / d + 1 := by
    intro n d
    have hdiv : ((n / d : Nat) : Rat) ≤ (n : Rat) / d := Nat.cast_div_le
    have hle : (roundHalfEven n d : Rat) ≤ ((n / d : Nat) : Rat) + 1 := by
      exact_mod_cast roundHalfEven_le n d
    linarith
  unfold roundQuotient
  dsimp only
  generalize exponent n d = e
  split
  · next hshift =>
      obtain ⟨s, hs⟩ := Int.eq_ofNat_of_zero_le hshift
      have hexp : (2 : Rat) ^ (e + 1 - p) = (2 ^ s)⁻¹ := by
        rw [← zpow_natCast, ← zpow_neg]
        congr 1
        omega
      rw [hs, hexp, Int.toNat_natCast, Rat.mkRat_eq_div]
      have hle := hround (n * 2 ^ s) d
      have hpow : (0 : Rat) < 2 ^ s := by positivity
      push_cast at hle ⊢
      rw [div_le_iff₀ hpow, add_mul, inv_mul_cancel₀ hpow.ne', ← mul_div_right_comm]
      exact hle
  · next hshift =>
      obtain ⟨k, hk⟩ := Int.eq_ofNat_of_zero_le (show 0 ≤ -((p : Int) - 1 - e) by omega)
      have hexp : (2 : Rat) ^ (e + 1 - p) = 2 ^ k := by
        rw [← zpow_natCast]
        congr 1
        omega
      rw [hk, hexp, Int.toNat_natCast]
      have hle := hround n (d * 2 ^ k)
      have hpow : (0 : Rat) < 2 ^ k := by positivity
      push_cast at hle ⊢
      calc (roundHalfEven n (d * 2 ^ k) : Rat) * 2 ^ k
          ≤ ((n : Rat) / (d * 2 ^ k) + 1) * 2 ^ k := mul_le_mul_of_nonneg_right hle hpow.le
        _ = (n : Rat) / d + 2 ^ k := by
            rw [add_mul, one_mul, ← div_div, div_mul_cancel₀ _ hpow.ne']

theorem natAbs_div_den {x : Rat} (hx : 0 < x) : (x.num.natAbs : Rat) / x.den = x := by
  have hnum : ((x.num.natAbs : Int) : Rat) = x.num := by
    rw [Int.natAbs_of_nonneg (Rat.num_pos.mpr hx).le]
  rw [← Int.cast_natCast (x.num.natAbs), hnum, Rat.num_div_den]

/-- Rounding to `p` bits adds one part in `2 ^ (p - 1)` at most. -/
theorem roundSig_le {x : Rat} (hx : 0 ≤ x) : roundSig p x ≤ x * (1 + 2 / 2 ^ p) := by
  unfold roundSig
  split
  · next hzero => simp [hzero]
  · next hne =>
      have hpos : 0 < x := lt_of_le_of_ne hx (Ne.symm hne)
      have hnum : x.num.natAbs ≠ 0 := by
        have := Rat.num_pos.mpr hpos
        omega
      rw [if_pos hpos]
      have hle := roundQuotient_le_add p x.num.natAbs x.den
      have hexp := two_zpow_exponent_le hnum x.den_nz
      rw [natAbs_div_den hpos] at hle hexp
      have hunit : (2 : Rat) ^ (exponent x.num.natAbs x.den + 1 - p) =
          2 ^ exponent x.num.natAbs x.den * (2 / 2 ^ p) := by
        rw [add_sub_assoc, zpow_add₀ (by norm_num), zpow_sub₀ (by norm_num), zpow_one, zpow_natCast]
      have hmul := mul_le_mul_of_nonneg_right hexp (show (0 : Rat) ≤ 2 / 2 ^ p by positivity)
      rw [mul_add, mul_one]
      linarith

/-- A quotient of more than `p` bits keeps at least its leading one when its last `k` bits go. -/
theorem le_roundHalfEven_mul {a k : Nat} (hd : 0 < d) (hn : n ≤ 2 ^ (p + k))
    (hlow : 2 ^ (p + k) * d ≤ a) : n ≤ roundHalfEven a (d * 2 ^ k) * 2 ^ k := by
  have hquot : 2 ^ p ≤ a / (d * 2 ^ k) := by
    rw [Nat.le_div_iff_mul_le (by positivity)]
    calc 2 ^ p * (d * 2 ^ k) = 2 ^ (p + k) * d := by ring
      _ ≤ a := hlow
  calc n ≤ 2 ^ (p + k) := hn
    _ = 2 ^ p * 2 ^ k := pow_add _ _ _
    _ ≤ _ := Nat.mul_le_mul_right _ (hquot.trans (div_le_roundHalfEven _ _))

theorem natCast_le_roundQuotient {a : Nat} (ha : a ≠ 0) (hd : d ≠ 0) (hp : n < 2 ^ p)
    (hle : n * d ≤ a) : (n : Rat) ≤ roundQuotient p a d := by
  have hdpos : 0 < d := Nat.pos_of_ne_zero hd
  have hden : (0 : Rat) < d := by exact_mod_cast hdpos
  have hexp := two_zpow_exponent_le ha hd
  rw [le_div_iff₀ hden] at hexp
  unfold roundQuotient
  generalize exponent a d = e at *
  dsimp only
  split
  · rw [Rat.mkRat_eq_div, le_div_iff₀ (by positivity)]
    have hquot : n * 2 ^ ((p : Int) - 1 - e).toNat ≤ a * 2 ^ ((p : Int) - 1 - e).toNat / d := by
      rw [Nat.le_div_iff_mul_le hdpos, Nat.mul_right_comm]
      exact Nat.mul_le_mul_right _ hle
    exact_mod_cast hquot.trans (div_le_roundHalfEven _ _)
  · next hshift =>
      obtain ⟨k, hk⟩ := Int.eq_ofNat_of_zero_le (show 0 ≤ -((p : Int) - 1 - e) by omega)
      rw [hk, Int.toNat_natCast]
      cases p with
      | zero =>
          have hn : n = 0 := by omega
          rw [hn, Nat.cast_zero]
          exact Nat.cast_nonneg _
      | succ p =>
          push_cast at hk
          have hek : e = ((p + k : Nat) : Int) := by
            push_cast
            omega
          have hlow : 2 ^ (p + k) * d ≤ a := by
            rw [hek, zpow_natCast] at hexp
            exact_mod_cast hexp
          have hn : n ≤ 2 ^ (p + k) :=
            hp.le.trans (Nat.pow_le_pow_right (by omega) (by omega))
          exact_mod_cast le_roundHalfEven_mul hdpos hn hlow

/-- A natural number of at most `p` bits below a value stays below the rounded value. -/
theorem natCast_le_roundSig {x : Rat} (hp : n < 2 ^ p) (hle : (n : Rat) ≤ x) :
    (n : Rat) ≤ roundSig p x := by
  unfold roundSig
  split
  · next hzero =>
      rw [hzero] at hle
      exact hle
  · next hne =>
      have hpos : 0 < x := lt_of_le_of_ne ((Nat.cast_nonneg n).trans hle) (Ne.symm hne)
      have hnum : x.num.natAbs ≠ 0 := by
        have := Rat.num_pos.mpr hpos
        omega
      have hden : (0 : Rat) < x.den := by exact_mod_cast x.den_pos
      rw [← natAbs_div_den hpos, le_div_iff₀ hden] at hle
      rw [if_pos hpos]
      exact natCast_le_roundQuotient hnum x.den_nz hp (by exact_mod_cast hle)

/-- Two naturals that are in order stay so, if the lower one has few enough bits. -/
theorem roundSig_natCast_le {m : Nat} (hle : n ≤ m) (hp : n < 2 ^ p) :
    roundSig p n ≤ roundSig p m := by
  rw [roundSig_natCast_of_lt hp]
  have hcast : (n : Rat) ≤ m := by exact_mod_cast hle
  exact natCast_le_roundSig hp hcast

end Rounding
