import BbrChrome.Library.Rounding
import Mathlib.Algebra.Group.Even

/-!
# Rounding is to the nearest value

`roundSig p x` is a multiple `k * 2 ^ j` of the unit that belongs to the binade of
`x`, and `k` is nearest to `x / 2 ^ j`. From this: rounding is monotone, it keeps
what has `p` bits already, and a value between two neighbours goes to the nearer one.
-/

namespace Rounding

/-- `k` is a natural number nearest to `t`, the even one of two. -/
structure IsNearest (t : Rat) (k : Nat) : Prop where
  lower : 2 * (k : Rat) ≤ 2 * t + 1
  upper : 2 * t ≤ 2 * (k : Rat) + 1
  even : 2 * (k : Rat) = 2 * t + 1 ∨ 2 * t = 2 * (k : Rat) + 1 → k % 2 = 0

variable {t s x y g : Rat} {k l m n d p : Nat} {i : Int}

namespace IsNearest

theorem le_natCast (h : IsNearest t k) (hle : t ≤ n) : k ≤ n := by
  have hlow := h.lower
  have hk : 2 * (k : Rat) ≤ 2 * n + 1 := by linarith
  have hnat : 2 * k ≤ 2 * n + 1 := by exact_mod_cast hk
  omega

theorem natCast_le (h : IsNearest t k) (hle : (n : Rat) ≤ t) : n ≤ k := by
  have hup := h.upper
  have hn : 2 * (n : Rat) ≤ 2 * k + 1 := by linarith
  have hnat : 2 * n ≤ 2 * k + 1 := by exact_mod_cast hn
  omega

/-- Below the midpoint behind `n` the nearest number is `n` or less. -/
theorem le_of_lt_midpoint (h : IsNearest t k) (hlt : 2 * t < 2 * n + 1) : k ≤ n := by
  have hlow := h.lower
  have hk : 2 * (k : Rat) < 2 * n + 2 := by linarith
  have hnat : 2 * k < 2 * n + 2 := by exact_mod_cast hk
  omega

theorem lt_of_midpoint_le (h : IsNearest t k) (hodd : n % 2 = 1) (hle : 2 * (n : Rat) + 1 ≤ 2 * t) :
    n < k := by
  have hup := h.upper
  have hn : 2 * (n : Rat) ≤ 2 * k := by linarith
  have hnat : 2 * n ≤ 2 * k := by exact_mod_cast hn
  by_contra hnot
  have heq : n = k := by omega
  subst heq
  have heven := h.even (.inr (le_antisymm hup hle))
  omega

theorem mono (h : IsNearest t k) (h' : IsNearest s l) (hle : t ≤ s) : k ≤ l := by
  have hlow := h.lower
  have hup := h'.upper
  by_contra hnot
  have hsucc : (l : Rat) + 1 ≤ k := by exact_mod_cast Nat.lt_of_not_le hnot
  -- The only way left is a tie for both, and of two neighbours one is odd.
  have hk : 2 * (k : Rat) = 2 * t + 1 := by linarith
  have hl : 2 * s = 2 * (l : Rat) + 1 := by linarith
  have heq : k = l + 1 := by
    have hcast : (k : Rat) = ((l + 1 : Nat) : Rat) := by
      push_cast
      linarith
    exact_mod_cast hcast
  have hke := h.even (.inl hk)
  have hle := h'.even (.inr hl)
  omega

end IsNearest

/-- The rounded quotient differs from `n / d` by one half at most; at one half it is even. -/
theorem roundHalfEven_half (n : Nat) (hd : 0 < d) :
    2 * (roundHalfEven n d * d) ≤ 2 * n + d ∧ 2 * n ≤ 2 * (roundHalfEven n d * d) + d ∧
      (2 * (roundHalfEven n d * d) = 2 * n + d ∨ 2 * n = 2 * (roundHalfEven n d * d) + d →
        roundHalfEven n d % 2 = 0) := by
  have hdiv : n / d * d + n % d = n := Nat.div_add_mod' n d
  have hmod := Nat.mod_lt n hd
  have hsucc : (n / d + 1) * d = n / d * d + d := Nat.succ_mul _ _
  unfold roundHalfEven
  dsimp only
  by_cases hlow : 2 * (n % d) < d
  · rw [if_pos hlow]
    omega
  · rw [if_neg hlow]
    by_cases hhigh : d < 2 * (n % d)
    · rw [if_pos hhigh, hsucc]
      omega
    · rw [if_neg hhigh]
      rcases Nat.mod_two_eq_zero_or_one (n / d) with heven | hodd
      · rw [heven, Nat.add_zero]
        omega
      · rw [hodd, hsucc]
        omega

theorem roundHalfEven_isNearest (n : Nat) (hd : 0 < d) :
    IsNearest ((n : Rat) / d) (roundHalfEven n d) := by
  have hdpos : (0 : Rat) < d := by exact_mod_cast hd
  obtain ⟨hlow, hup, heven⟩ := roundHalfEven_half n hd
  generalize roundHalfEven n d = k at *
  have hquot : (n : Rat) = n / d * d := (div_mul_cancel₀ _ hdpos.ne').symm
  have hmul : ∀ a b : Rat, a * d ≤ b * d → a ≤ b := fun a b h => le_of_mul_le_mul_right h hdpos
  constructor
  · apply hmul
    have : 2 * ((k : Rat) * d) ≤ 2 * n + d := by exact_mod_cast hlow
    linarith
  · apply hmul
    have : 2 * (n : Rat) ≤ 2 * (k * d) + d := by exact_mod_cast hup
    linarith
  · rintro (htie | htie)
    · have hcast : 2 * ((k : Rat) * d) = 2 * n + d := by
        have : 2 * (k : Rat) * d = (2 * (n / d) + 1) * d := by rw [htie]
        linarith
      exact heven (.inl (by exact_mod_cast hcast))
    · have hcast : 2 * (n : Rat) = 2 * (k * d) + d := by
        have : 2 * (n / d) * d = (2 * (k : Rat) + 1) * d := by rw [htie]
        linarith
      exact heven (.inr (by exact_mod_cast hcast))

/-! ## The binade -/

/-- The exponent is the greatest one. -/
theorem lt_two_zpow_exponent (hd : d ≠ 0) : (n : Rat) / d < 2 ^ (exponent n d + 1) := by
  have hdpos : (0 : Rat) < d := by exact_mod_cast Nat.pos_of_ne_zero hd
  have hnhigh : (n : Rat) < 2 ^ (Nat.log2 n + 1) := by exact_mod_cast Nat.lt_log2_self
  have hdlow : ((2 : Rat) ^ Nat.log2 d) ≤ d := by exact_mod_cast Nat.log2_self_le hd
  rw [div_lt_iff₀ hdpos]
  have habove : (n : Rat) < 2 ^ ((Nat.log2 n : Int) - Nat.log2 d + 1) * d := by
    have hexp : (2 : Rat) ^ ((Nat.log2 n : Int) - Nat.log2 d + 1) * 2 ^ Nat.log2 d =
        2 ^ (Nat.log2 n + 1) := by
      rw [← zpow_natCast, ← zpow_natCast, ← zpow_add₀ (by norm_num)]
      congr 1
      push_cast
      ring
    calc (n : Rat) < 2 ^ (Nat.log2 n + 1) := hnhigh
      _ = 2 ^ ((Nat.log2 n : Int) - Nat.log2 d + 1) * 2 ^ Nat.log2 d := hexp.symm
      _ ≤ _ := mul_le_mul_of_nonneg_left hdlow (zpow_nonneg (by norm_num) _)
  unfold exponent
  generalize (Nat.log2 n : Int) - Nat.log2 d = e at *
  dsimp only
  by_cases hsign : 0 ≤ e
  · obtain ⟨j, rfl⟩ := Int.eq_ofNat_of_zero_le hsign
    rw [if_pos hsign, Int.toNat_natCast]
    by_cases hreached : d * 2 ^ j ≤ n
    · rw [decide_eq_true hreached, if_pos rfl]
      exact habove
    · rw [decide_eq_false hreached, if_neg Bool.false_ne_true, sub_add_cancel, zpow_natCast,
        mul_comm]
      exact_mod_cast Nat.lt_of_not_le hreached
  · obtain ⟨j, hj⟩ := Int.eq_ofNat_of_zero_le (show 0 ≤ -e by omega)
    rw [if_neg hsign, hj, Int.toNat_natCast]
    by_cases hreached : d ≤ n * 2 ^ j
    · rw [decide_eq_true hreached, if_pos rfl]
      exact habove
    · have hexp : (2 : Rat) ^ e = (2 ^ j)⁻¹ := by
        rw [← zpow_natCast, ← hj, zpow_neg, inv_inv]
      rw [decide_eq_false hreached, if_neg Bool.false_ne_true, sub_add_cancel, hexp,
        lt_inv_mul_iff₀ (by positivity), mul_comm]
      exact_mod_cast Nat.lt_of_not_le hreached

/-- The value of the rounded quotient in units of its last kept bit. -/
theorem roundQuotient_isNearest (p n : Nat) (hd : 0 < d) :
    ∃ k, IsNearest ((n : Rat) / d / 2 ^ (exponent n d + 1 - p)) k ∧
      roundQuotient p n d = k * 2 ^ (exponent n d + 1 - p) := by
  unfold roundQuotient
  generalize exponent n d = e
  dsimp only
  by_cases hshift : (0 : Int) ≤ p - 1 - e
  · obtain ⟨j, hj⟩ := Int.eq_ofNat_of_zero_le hshift
    have hunit : (2 : Rat) ^ (e + 1 - p) = (2 ^ j)⁻¹ := by
      rw [← zpow_natCast, ← zpow_neg]
      congr 1
      omega
    rw [if_pos hshift, hj, Int.toNat_natCast, hunit, Rat.mkRat_eq_div]
    refine ⟨roundHalfEven (n * 2 ^ j) d, ?_, by push_cast; rfl⟩
    have hnear := roundHalfEven_isNearest (n * 2 ^ j) hd
    push_cast at hnear
    rw [div_inv_eq_mul, ← mul_div_right_comm]
    exact hnear
  · obtain ⟨j, hj⟩ := Int.eq_ofNat_of_zero_le (show 0 ≤ -((p : Int) - 1 - e) by omega)
    have hunit : (2 : Rat) ^ (e + 1 - p) = 2 ^ j := by
      rw [← zpow_natCast]
      congr 1
      omega
    rw [if_neg hshift, hj, Int.toNat_natCast, hunit]
    refine ⟨roundHalfEven n (d * 2 ^ j), ?_, by push_cast; rfl⟩
    have hnear := roundHalfEven_isNearest n (Nat.mul_pos hd (Nat.two_pow_pos j))
    push_cast at hnear
    rw [div_div]
    exact hnear

/-- A rounded value: `x` lies in a binade of `2 ^ (p - 1)` to `2 ^ p` units `2 ^ j`, and
`k` of these units are nearest to it. -/
structure RoundedTo (p : Nat) (x : Rat) (j : Int) (k : Nat) : Prop where
  low : 2 ^ (j + p) ≤ 2 * x
  high : x < 2 ^ (j + p)
  nearest : IsNearest (x / 2 ^ j) k
  value : roundSig p x = k * 2 ^ j

theorem exists_roundedTo (p : Nat) (hx : 0 < x) : ∃ j k, RoundedTo p x j k := by
  have hnum : x.num.natAbs ≠ 0 := by
    have := Rat.num_pos.mpr hx
    omega
  have hquot := natAbs_div_den hx
  obtain ⟨k, hnear, hvalue⟩ := roundQuotient_isNearest p x.num.natAbs x.den_pos
  have hlow := two_zpow_exponent_le hnum x.den_nz
  have hhigh := @lt_two_zpow_exponent x.num.natAbs x.den x.den_nz
  rw [hquot] at hnear hlow hhigh
  generalize exponent x.num.natAbs x.den = e at *
  have hexp : e + 1 - (p : Int) + p = e + 1 := by ring
  refine ⟨e + 1 - p, k, ?_, ?_, hnear, ?_⟩
  · rw [hexp, zpow_add₀ (by norm_num), zpow_one, mul_comm]
    linarith
  · rw [hexp]
    exact hhigh
  · rw [roundSig, if_neg hx.ne', if_pos hx, hvalue]

/-! ## Order -/

namespace RoundedTo

variable {j : Int}

theorem unit_pos (j : Int) : (0 : Rat) < 2 ^ j := zpow_pos (by norm_num) j

theorem zpow_add_natCast (j : Int) (p : Nat) : (2 : Rat) ^ (j + p) = 2 ^ p * 2 ^ j := by
  rw [zpow_add₀ (by norm_num), zpow_natCast, mul_comm]

theorem le_two_pow (h : RoundedTo p x j k) : k ≤ 2 ^ p := by
  apply h.nearest.le_natCast
  have hhigh := h.high
  rw [zpow_add_natCast] at hhigh
  rw [div_le_iff₀ (unit_pos j)]
  push_cast
  exact hhigh.le

theorem two_pow_le (h : RoundedTo (p + 1) x j k) : 2 ^ p ≤ k := by
  apply h.nearest.natCast_le
  have hlow := h.low
  rw [zpow_add_natCast, pow_succ] at hlow
  rw [le_div_iff₀ (unit_pos j)]
  push_cast
  linarith

theorem unit_cases (i j : Int) :
    (∃ c : Nat, (2 : Rat) ^ i = 2 ^ c * 2 ^ j) ∨ 2 * (2 : Rat) ^ i ≤ 2 ^ j := by
  rcases lt_or_ge i j with hlt | hge
  · right
    have hle : (2 : Rat) ^ (i + 1) ≤ 2 ^ j := zpow_le_zpow_right₀ (by norm_num) hlt
    rw [zpow_add₀ (by norm_num), zpow_one] at hle
    linarith
  · left
    obtain ⟨c, hc⟩ := Int.eq_ofNat_of_zero_le (Int.sub_nonneg.mpr hge)
    refine ⟨c, ?_⟩
    rw [← zpow_natCast, ← zpow_add₀ (by norm_num), ← hc, sub_add_cancel]

/-- A value of at most `p + 1` bits below `x` stays below the rounded value. -/
theorem representable_le (h : RoundedTo (p + 1) x j k) (hm : m ≤ 2 ^ (p + 1))
    (hle : (m : Rat) * 2 ^ i ≤ x) : (m : Rat) * 2 ^ i ≤ roundSig (p + 1) x := by
  rw [h.value]
  have hj := unit_pos j
  rcases unit_cases i j with ⟨c, hc⟩ | hhalf
  · rw [hc, ← mul_assoc] at hle ⊢
    have hk : m * 2 ^ c ≤ k := by
      apply h.nearest.natCast_le
      rw [le_div_iff₀ hj]
      push_cast
      exact hle
    have hcast : (m : Rat) * 2 ^ c ≤ k := by exact_mod_cast hk
    exact mul_le_mul_of_nonneg_right hcast hj.le
  · -- All values with a smaller unit lie below the binade.
    have hmk : m ≤ 2 * k := by
      have := h.two_pow_le
      rw [pow_succ] at hm
      omega
    have hcast : (m : Rat) ≤ 2 * k := by exact_mod_cast hmk
    calc (m : Rat) * 2 ^ i ≤ 2 * k * 2 ^ i := mul_le_mul_of_nonneg_right hcast (unit_pos i).le
      _ = k * (2 * 2 ^ i) := by ring
      _ ≤ k * 2 ^ j := mul_le_mul_of_nonneg_left hhalf (Nat.cast_nonneg k)

theorem le_representable (h : RoundedTo (p + 1) x j k) (hm : m ≤ 2 ^ (p + 1))
    (hle : x ≤ (m : Rat) * 2 ^ i) : roundSig (p + 1) x ≤ (m : Rat) * 2 ^ i := by
  rw [h.value]
  have hj := unit_pos j
  rcases unit_cases i j with ⟨c, hc⟩ | hhalf
  · rw [hc, ← mul_assoc] at hle ⊢
    have hk : k ≤ m * 2 ^ c := by
      apply h.nearest.le_natCast
      rw [div_le_iff₀ hj]
      push_cast
      exact hle
    have hcast : (k : Rat) ≤ m * 2 ^ c := by exact_mod_cast hk
    exact mul_le_mul_of_nonneg_right hcast hj.le
  · -- With a smaller unit only the lower end of the binade is left.
    have hcast : (m : Rat) ≤ 2 ^ (p + 1) := by exact_mod_cast hm
    have hlow := h.low
    rw [zpow_add_natCast, pow_succ] at hlow
    have hmj : (m : Rat) * (2 * 2 ^ i) ≤ 2 ^ (p + 1) * 2 ^ j :=
      mul_le_mul hcast hhalf (by have := unit_pos i; positivity) (by positivity)
    rw [pow_succ] at hmj
    have hk : k ≤ 2 ^ p := by
      apply h.nearest.le_natCast
      rw [div_le_iff₀ hj]
      push_cast
      linarith
    have hkcast : (k : Rat) ≤ 2 ^ p := by exact_mod_cast hk
    have := mul_le_mul_of_nonneg_right hkcast hj.le
    linarith

end RoundedTo

theorem representable_le_roundSig (hx : 0 < x) (hm : m ≤ 2 ^ (p + 1))
    (hle : (m : Rat) * 2 ^ i ≤ x) : (m : Rat) * 2 ^ i ≤ roundSig (p + 1) x := by
  obtain ⟨j, k, h⟩ := exists_roundedTo (p + 1) hx
  exact h.representable_le hm hle

theorem roundSig_le_representable (hx : 0 < x) (hm : m ≤ 2 ^ (p + 1))
    (hle : x ≤ (m : Rat) * 2 ^ i) : roundSig (p + 1) x ≤ (m : Rat) * 2 ^ i := by
  obtain ⟨j, k, h⟩ := exists_roundedTo (p + 1) hx
  exact h.le_representable hm hle

theorem roundSig_pos (hx : 0 < x) : 0 < roundSig (p + 1) x := by
  obtain ⟨j, k, h⟩ := exists_roundedTo (p + 1) hx
  have hk : 0 < k := Nat.lt_of_lt_of_le (Nat.two_pow_pos p) h.two_pow_le
  have hcast : (0 : Rat) < k := by exact_mod_cast hk
  rw [h.value]
  exact mul_pos hcast (RoundedTo.unit_pos j)

/-- A rounded value has at most `p + 1` bits, so rounding it again changes nothing. -/
theorem roundSig_roundSig (hx : 0 < x) :
    roundSig (p + 1) (roundSig (p + 1) x) = roundSig (p + 1) x := by
  obtain ⟨j, k, h⟩ := exists_roundedTo (p + 1) hx
  have hk := h.le_two_pow
  have hpos := roundSig_pos (p := p) hx
  apply le_antisymm
  · rw [h.value] at hpos ⊢
    exact roundSig_le_representable hpos hk (le_refl _)
  · rw [h.value] at hpos ⊢
    exact representable_le_roundSig hpos hk (le_refl _)

theorem roundSig_mono (hx : 0 < x) (hle : x ≤ y) : roundSig (p + 1) x ≤ roundSig (p + 1) y := by
  obtain ⟨j, k, h⟩ := exists_roundedTo (p + 1) hx
  obtain ⟨i, l, h'⟩ := exists_roundedTo (p + 1) (lt_of_lt_of_le hx hle)
  rcases lt_trichotomy j i with hlt | rfl | hgt
  · -- The lower end of the binade of `y` lies between the two.
    have hunit : (2 : Rat) ^ (j + (p + 1 : Nat)) ≤ 2 ^ (i + (p : Nat)) :=
      zpow_le_zpow_right₀ (by norm_num) (by push_cast; omega)
    have hlow := h'.low
    rw [RoundedTo.zpow_add_natCast, pow_succ] at hlow
    rw [RoundedTo.zpow_add_natCast i p] at hunit
    have hmid : x ≤ ((2 ^ p : Nat) : Rat) * 2 ^ i := by
      push_cast
      exact (h.high.trans_le hunit).le
    have hmid' : ((2 ^ p : Nat) : Rat) * 2 ^ i ≤ y := by
      push_cast
      linarith
    have hbits : 2 ^ p ≤ 2 ^ (p + 1) := Nat.pow_le_pow_right (by omega) (by omega)
    exact (h.le_representable hbits hmid).trans (h'.representable_le hbits hmid')
  · rw [h.value, h'.value]
    have hj := RoundedTo.unit_pos j
    have hkl : k ≤ l := h.nearest.mono h'.nearest (div_le_div_of_nonneg_right hle hj.le)
    have hcast : (k : Rat) ≤ l := by exact_mod_cast hkl
    exact mul_le_mul_of_nonneg_right hcast hj.le
  · have hunit : (2 : Rat) ^ (i + (p + 1 : Nat)) ≤ 2 ^ (j + (p : Nat)) :=
      zpow_le_zpow_right₀ (by norm_num) (by push_cast; omega)
    have hlow := h.low
    have hhigh := h'.high
    rw [RoundedTo.zpow_add_natCast, pow_succ] at hlow
    rw [RoundedTo.zpow_add_natCast j p] at hunit
    linarith

/-! ## Neighbours

`m * 2 ^ i` and `(m + 1) * 2 ^ i` with `2 ^ p ≤ m < 2 ^ (p + 1)` are neighbours.
-/

theorem roundedTo_between (hlow : 2 ^ p ≤ m) (hhigh : m < 2 ^ (p + 1))
    (hm : (m : Rat) * 2 ^ i ≤ x) (hx : x < (m + 1) * 2 ^ i) :
    ∃ k, IsNearest (x / 2 ^ i) k ∧ roundSig (p + 1) x = k * 2 ^ i := by
  have hi := RoundedTo.unit_pos i
  have hlowcast : (2 : Rat) ^ p ≤ m := by exact_mod_cast hlow
  have hhighcast : (m : Rat) + 1 ≤ 2 ^ (p + 1) := by exact_mod_cast hhigh
  have hxlow : (2 : Rat) ^ p * 2 ^ i ≤ x := (mul_le_mul_of_nonneg_right hlowcast hi.le).trans hm
  have hxhigh : x < 2 ^ (p + 1) * 2 ^ i :=
    hx.trans_le (mul_le_mul_of_nonneg_right hhighcast hi.le)
  have hpos : 0 < x := lt_of_lt_of_le (by positivity) hxlow
  obtain ⟨j, k, h⟩ := exists_roundedTo (p + 1) hpos
  have hjlow := h.low
  have hjhigh := h.high
  rw [RoundedTo.zpow_add_natCast] at hjlow hjhigh
  -- `x` has one binade only.
  have hji : j = i := by
    have hpow : (0 : Rat) < 2 ^ (p + 1) := by positivity
    have hlt : (2 : Rat) ^ i < 2 ^ (j + 1) := by
      rw [zpow_add₀ (by norm_num), zpow_one]
      rw [pow_succ] at hjhigh
      have hp : (0 : Rat) < 2 ^ p := by positivity
      nlinarith
    have hgt : (2 : Rat) ^ j < 2 ^ (i + 1) := by
      rw [zpow_add₀ (by norm_num), zpow_one]
      have : (2 : Rat) ^ (p + 1) * 2 ^ j < 2 ^ (p + 1) * (2 ^ i * 2) := by linarith
      exact lt_of_mul_lt_mul_left this hpow.le
    have hij := (zpow_lt_zpow_iff_right₀ (by norm_num : (1 : Rat) < 2)).mp hlt
    have hji := (zpow_lt_zpow_iff_right₀ (by norm_num : (1 : Rat) < 2)).mp hgt
    omega
  subst hji
  exact ⟨k, h.nearest, h.value⟩

theorem roundSig_le_of_lt_midpoint (hlow : 2 ^ p ≤ m) (hhigh : m < 2 ^ (p + 1)) (hx : 0 < x)
    (hlt : 2 * x < (2 * m + 1) * 2 ^ i) : roundSig (p + 1) x ≤ m * 2 ^ i := by
  have hi := RoundedTo.unit_pos i
  rcases le_total x ((m : Rat) * 2 ^ i) with hle | hge
  · exact roundSig_le_representable hx hhigh.le hle
  · obtain ⟨k, hnear, hvalue⟩ := roundedTo_between hlow hhigh hge (by linarith)
    have hk : k ≤ m := by
      apply hnear.le_of_lt_midpoint
      rw [← mul_div_assoc, div_lt_iff₀ hi]
      exact hlt
    have hcast : (k : Rat) ≤ m := by exact_mod_cast hk
    rw [hvalue]
    exact mul_le_mul_of_nonneg_right hcast hi.le

/-- From the midpoint behind an odd value on, the upper neighbour is reached. -/
theorem le_roundSig_iff_midpoint_le (hlow : 2 ^ p ≤ m) (hhigh : m < 2 ^ (p + 1))
    (hodd : m % 2 = 1) (hx : 0 < x) :
    (m + 1) * 2 ^ i ≤ roundSig (p + 1) x ↔ (2 * m + 1) * 2 ^ i ≤ 2 * x := by
  have hi := RoundedTo.unit_pos i
  constructor
  · intro hreach
    by_contra hlt
    have hle := roundSig_le_of_lt_midpoint hlow hhigh hx (not_le.mp hlt)
    linarith
  · intro hmid
    have hge : (m : Rat) * 2 ^ i ≤ x := by linarith
    rcases lt_or_ge x (((m : Rat) + 1) * 2 ^ i) with hlt | hup
    · obtain ⟨k, hnear, hvalue⟩ := roundedTo_between hlow hhigh hge hlt
      have hk : m < k := by
        apply hnear.lt_of_midpoint_le hodd
        rw [← mul_div_assoc, le_div_iff₀ hi]
        exact hmid
      have hcast : (m : Rat) + 1 ≤ k := by exact_mod_cast hk
      rw [hvalue]
      exact mul_le_mul_of_nonneg_right hcast hi.le
    · have hup' : ((m + 1 : Nat) : Rat) * 2 ^ i ≤ x := by
        push_cast
        exact hup
      have hreach := representable_le_roundSig (p := p) hx hhigh hup'
      push_cast at hreach
      exact hreach

/-! ## Products with a factor below one -/

/-- A value between a rounded one and the one rounded has no lower neighbour in between. -/
theorem representable_le_of_lt_roundSig (hx : 0 < x) (hm : m ≤ 2 ^ (p + 1))
    (hlt : (m : Rat) * 2 ^ i < roundSig (p + 1) x) : (m : Rat) * 2 ^ i ≤ x := by
  by_contra hnot
  have hle := roundSig_le_representable hx hm (not_le.mp hnot).le
  linarith

theorem RoundedTo.cut_between {j : Int} {k : Nat} (h : RoundedTo (p + 1) x j k) (hx : 0 < x)
    (hpos : 0 < k * 2 ^ j * g)
    (hcut : (k : Rat) * 2 ^ j * g ≤ k * 2 ^ j * (1 - 1 / 2 ^ (p + 1))) (hk : 2 ^ p < k) :
    roundSig (p + 1) (k * 2 ^ j * g) ≤ x := by
  have hj := RoundedTo.unit_pos j
  have hhigh := h.le_two_pow
  obtain ⟨m, rfl⟩ : ∃ m, k = m + 1 := Nat.exists_eq_succ_of_ne_zero (by omega)
  push_cast at hcut hpos ⊢
  have hle : (m : Rat) * 2 ^ j ≤ x := by
    apply representable_le_of_lt_roundSig (p := p) hx (by omega)
    rw [h.value]
    push_cast
    linarith
  have hhalf : (2 : Rat) ^ (p + 1) < 2 * (m + 1) := by
    have hnat : 2 ^ (p + 1) < 2 * (m + 1) := by
      rw [pow_succ]
      omega
    exact_mod_cast hnat
  have hcutoff : 1 < 2 * ((m : Rat) + 1) * (1 / 2 ^ (p + 1)) := by
    rw [mul_one_div, one_lt_div (by positivity)]
    exact hhalf
  have hunits := mul_lt_mul_of_pos_right hcutoff hj
  have hmidpoint := roundSig_le_of_lt_midpoint (p := p) (m := m) (i := j) (by omega) (by omega)
    hpos (by linarith)
  exact hmidpoint.trans hle

theorem RoundedTo.cut_end {j : Int} {k : Nat} (h : RoundedTo (p + 1) x j k) (hx : 0 < x)
    (hpos : 0 < k * 2 ^ j * g)
    (hcut : (k : Rat) * 2 ^ j * g ≤ k * 2 ^ j * (1 - 1 / 2 ^ (p + 1))) (hk : 2 ^ p = k) :
    roundSig (p + 1) (k * 2 ^ j * g) ≤ x := by
  have hhalfunit : (2 : Rat) ^ (j - 1) * 2 = 2 ^ j := by
    rw [← zpow_add_one₀ (by norm_num), sub_add_cancel]
  have hbits : 2 ^ (p + 1) - 1 ≤ 2 ^ (p + 1) := Nat.sub_le _ _
  have hcast : ((2 ^ (p + 1) - 1 : Nat) : Rat) = 2 * k - 1 := by
    rw [Nat.cast_sub (Nat.one_le_two_pow), ← hk, pow_succ]
    push_cast
    ring
  have hhalf : (k : Rat) * (1 / 2 ^ (p + 1)) = 1 / 2 := by
    rw [← hk, pow_succ]
    push_cast
    field_simp
  have hle : ((2 ^ (p + 1) - 1 : Nat) : Rat) * 2 ^ (j - 1) ≤ x := by
    apply representable_le_of_lt_roundSig hx hbits
    rw [h.value, hcast, ← hhalfunit]
    have := RoundedTo.unit_pos (j - 1)
    linarith
  have hcutoff : (k : Rat) * 2 ^ j * (1 / 2 ^ (p + 1)) = 2 ^ (j - 1) := by
    rw [mul_right_comm, hhalf, ← hhalfunit]
    ring
  have hbelow : (k : Rat) * 2 ^ j * g ≤ ((2 ^ (p + 1) - 1 : Nat) : Rat) * 2 ^ (j - 1) := by
    rw [hcast]
    rw [← hhalfunit] at hcut hcutoff ⊢
    linarith
  exact (roundSig_le_representable hpos hbits hbelow).trans hle

/-- Rounding up is undone by every rounded factor below one. -/
theorem roundSig_mul_le (hx : 0 < x) (hg0 : 0 < g) (hg : g ≤ 1 - 1 / 2 ^ (p + 1)) :
    roundSig (p + 1) (roundSig (p + 1) x * g) ≤ x := by
  have hX := roundSig_pos (p := p) hx
  have hpos := mul_pos hX hg0
  have hunit : (0 : Rat) < 1 / 2 ^ (p + 1) := by positivity
  by_cases hup : roundSig (p + 1) x ≤ x
  · have hle : roundSig (p + 1) x * g ≤ roundSig (p + 1) x :=
      mul_le_of_le_one_right hX.le (by linarith)
    have hmono := roundSig_mono (p := p) hpos hle
    rw [roundSig_roundSig hx] at hmono
    exact hmono.trans hup
  · obtain ⟨j, k, h⟩ := exists_roundedTo (p + 1) hx
    have hcut := mul_le_mul_of_nonneg_left hg hX.le
    rw [h.value] at hcut hpos ⊢
    rcases Nat.lt_or_eq_of_le h.two_pow_le with hbetween | hend
    · exact h.cut_between hx hpos hcut hbetween
    · exact h.cut_end hx hpos hcut hend

/-! ## Integers -/

/-- A natural number that is rounded up at all is rounded up by one at least. -/
theorem natCast_add_one_le_roundSig (hup : (n : Rat) < roundSig (p + 1) n) :
    (n : Rat) + 1 ≤ roundSig (p + 1) n := by
  have hbig : 2 ^ (p + 1) ≤ n := by
    by_contra hsmall
    rw [roundSig_natCast_of_lt (Nat.lt_of_not_le hsmall)] at hup
    exact lt_irrefl _ hup
  have hpos : (0 : Rat) < n := by exact_mod_cast (Nat.two_pow_pos (p + 1)).trans_le hbig
  obtain ⟨j, k, h⟩ := exists_roundedTo (p + 1) hpos
  have hj : 0 ≤ j := by
    have hcast : (2 : Rat) ^ (((p + 1 : Nat) : Int)) ≤ n := by
      rw [zpow_natCast]
      exact_mod_cast hbig
    have hlt := (zpow_lt_zpow_iff_right₀ (by norm_num : (1 : Rat) < 2)).mp
      (hcast.trans_lt h.high)
    omega
  obtain ⟨c, rfl⟩ := Int.eq_ofNat_of_zero_le hj
  rw [h.value, zpow_natCast] at hup ⊢
  have hnat : n < k * 2 ^ c := by exact_mod_cast hup
  exact_mod_cast hnat

theorem llround_le_natCast (h : x ≤ n) : llround x ≤ n := by
  unfold llround
  split
  · have hfloor := Rat.floor_le (x + 1 / 2)
    have hlt : (((x + 1 / 2).floor : Int) : Rat) < ((n + 1 : Int) : Rat) := by
      push_cast
      linarith
    have := Int.cast_lt.mp hlt
    omega
  · next hneg =>
      have hfloor : (0 : Int) ≤ (-x + 1 / 2).floor := by
        apply Rat.le_floor_iff.mpr
        push_cast
        linarith
      omega

theorem lt_llround (h : (n : Rat) + 1 ≤ x) : (n : Int) < llround x := by
  have hn : (0 : Rat) ≤ n := Nat.cast_nonneg n
  unfold llround
  rw [if_pos (by linarith)]
  have hfloor : (n : Int) + 1 ≤ (x + 1 / 2).floor := by
    apply Rat.le_floor_iff.mpr
    push_cast
    linarith
  omega

/-- Rounding a quotient of two integers keeps its whole part, if the dividend has a bit to spare. -/
theorem floor_roundSig_div {a b : Nat} (hb : 0 < b) (ha : 2 * a < 2 ^ p) :
    (roundSig p ((a : Rat) / b)).floor = (a / b : Nat) := by
  have hden : (0 : Rat) < b := by exact_mod_cast hb
  have hlow : ((a / b : Nat) : Rat) ≤ roundSig p ((a : Rat) / b) :=
    natCast_le_roundSig (lt_of_le_of_lt (Nat.div_le_self a b) (by omega)) Nat.cast_div_le
  -- The error stays below the distance to the next integer, which is at least `1 / b`.
  have hhigh : roundSig p ((a : Rat) / b) < (a / b : Nat) + 1 := by
    have hnext : (a : Rat) + 1 ≤ ((a / b : Nat) + 1) * b := by
      exact_mod_cast Nat.lt_mul_of_div_lt (Nat.lt_succ_self _) hb
    have hsmall : (a : Rat) * (2 / 2 ^ p) < 1 := by
      rw [← mul_div_assoc, div_lt_one (by positivity), mul_comm]
      exact_mod_cast ha
    calc roundSig p ((a : Rat) / b) ≤ a / b * (1 + 2 / 2 ^ p) := roundSig_le (by positivity)
      _ = (a + a * (2 / 2 ^ p)) / b := by ring
      _ < (a + 1) / b := by gcongr
      _ ≤ (a / b : Nat) + 1 := by rwa [div_le_iff₀ hden]
  apply le_antisymm
  · have hlt : (roundSig p ((a : Rat) / b)).floor < (a / b : Nat) + 1 := by
      rw [Rat.floor_lt_iff]
      exact_mod_cast hhigh
    omega
  · rw [Rat.le_floor_iff]
    exact_mod_cast hlow
end Rounding
