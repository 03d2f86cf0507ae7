import Mathlib.Data.List.Basic
import Mathlib.Data.List.TakeWhile
import Mathlib.Tactic.Common
import Mathlib.Tactic.Ring

/-!
# Strings of bytes

The operations of `std::string` and the numeric conversions that a textual format
uses, over lists of bytes. `stoul` reads as much as `strtoul` does: blanks and a
sign in front of the digits, anything behind them.
-/

namespace ByteString

/-- What the operations throw. -/
inductive Exception
  | outOfRange
  | invalidArgument
deriving DecidableEq, Repr

/-! ## Operations -/

/-- The string that a pointer into `data` denotes. There is none when no byte is zero. -/
def ofCString (data : List UInt8) : Option (List UInt8) :=
  if 0 ∈ data then some (data.takeWhile (· ≠ 0)) else none

def substr (s : List UInt8) (pos count : Nat) : Except Exception (List UInt8) :=
  if s.length < pos then .error .outOfRange else .ok ((s.drop pos).take count)

def isSpace (b : UInt8) : Bool := b == 32 || (9 ≤ b && b ≤ 13)

def isDigit (b : UInt8) : Bool := 48 ≤ b && b ≤ 57

def digitsValue (ds : List UInt8) : Nat := ds.foldl (fun value d => 10 * value + (d.toNat - 48)) 0

/-- A sign in front of the digits: whether it is a minus, and what follows it. -/
def splitSign : List UInt8 → Bool × List UInt8
  | 45 :: s => (true, s)
  | 43 :: s => (false, s)
  | s => (false, s)

/-- `std::stoul`; a minus negates modulo `2 ^ 64`. -/
def stoul (s : List UInt8) : Except Exception Nat :=
  let (negative, rest) := splitSign (s.dropWhile isSpace)
  let ds := rest.takeWhile isDigit
  let value := digitsValue ds
  if ds = [] then .error .invalidArgument
  else if 2 ^ 64 ≤ value then .error .outOfRange
  else .ok (if negative then (2 ^ 64 - value) % 2 ^ 64 else value)

/-- `std::to_string`. -/
def toDecimal (n : Nat) : List UInt8 := (Nat.toDigits 10 n).map Char.toUInt8

/-! ## Digits -/

theorem isDigit_iff {b : UInt8} : isDigit b = true ↔ 48 ≤ b.toNat ∧ b.toNat ≤ 57 := by
  simp [isDigit, UInt8.le_iff_toNat_le]

theorem isDigit_zero : isDigit 48 = true := by decide

theorem ne_zero_of_isDigit {b : UInt8} (h : isDigit b = true) : b ≠ 0 := by
  rintro rfl
  simp [isDigit] at h

theorem not_isSpace_of_isDigit {b : UInt8} (h : isDigit b = true) : isSpace b = false := by
  have hdigit := isDigit_iff.mp h
  rw [isSpace, Bool.or_eq_false_iff, Bool.and_eq_false_iff]
  refine ⟨?_, .inr ?_⟩
  · rw [beq_eq_false_iff_ne]
    rintro rfl
    exact absurd hdigit.1 (by decide)
  · rw [decide_eq_false_iff_not, UInt8.le_iff_toNat_le]
    show ¬b.toNat ≤ 13
    omega

theorem splitSign_of_isDigit {b : UInt8} {s : List UInt8} (h : isDigit b = true) :
    splitSign (b :: s) = (false, b :: s) := by
  have hdigit := isDigit_iff.mp h
  unfold splitSign
  split
  · rename_i heq
    cases heq
    exact absurd hdigit.1 (by decide)
  · rename_i heq
    cases heq
    exact absurd hdigit.1 (by decide)
  · rfl

/-! ## Values -/

theorem foldl_digits (ds : List UInt8) (value : Nat) :
    ds.foldl (fun value d => 10 * value + (d.toNat - 48)) value =
      10 ^ ds.length * value + digitsValue ds := by
  unfold digitsValue
  induction ds generalizing value with
  | nil => simp
  | cons d ds ih =>
      simp only [List.foldl_cons, List.length_cons]
      rw [ih, ih (10 * 0 + (d.toNat - 48)), Nat.pow_succ]
      ring

theorem digitsValue_cons (d : UInt8) (ds : List UInt8) :
    digitsValue (d :: ds) = 10 ^ ds.length * (d.toNat - 48) + digitsValue ds := by
  conv_lhs => unfold digitsValue
  rw [List.foldl_cons, foldl_digits, Nat.mul_zero, Nat.zero_add]

theorem digitsValue_append (ds ds' : List UInt8) :
    digitsValue (ds ++ ds') = 10 ^ ds'.length * digitsValue ds + digitsValue ds' := by
  conv_lhs => unfold digitsValue
  rw [List.foldl_append, foldl_digits]
  rfl

theorem digitsValue_lt {ds : List UInt8} (h : ∀ d ∈ ds, isDigit d = true) :
    digitsValue ds < 10 ^ ds.length := by
  induction ds with
  | nil => decide
  | cons d ds ih =>
      have hdigit := isDigit_iff.mp (h d (by simp))
      have hrest := ih fun d' hmem => h d' (by simp [hmem])
      have hfirst : 10 ^ ds.length * (d.toNat - 48) ≤ 10 ^ ds.length * 9 :=
        Nat.mul_le_mul_left _ (by omega)
      rw [digitsValue_cons, List.length_cons, Nat.pow_succ]
      omega

@[simp] theorem digitsValue_zeros (n : Nat) : digitsValue (List.replicate n 48) = 0 := by
  induction n with
  | zero => rfl
  | succ n ih =>
      rw [List.replicate_succ, digitsValue_cons, ih]
      rfl

theorem stoul_of_digits {ds : List UInt8} (hne : ds ≠ []) (h : ∀ d ∈ ds, isDigit d = true)
    (hlt : digitsValue ds < 2 ^ 64) : stoul ds = .ok (digitsValue ds) := by
  cases ds with
  | nil => exact absurd rfl hne
  | cons d ds =>
      have hdigit : isDigit d = true := h d (by simp)
      have hall : (d :: ds).takeWhile isDigit = d :: ds := by
        exact List.takeWhile_eq_self_iff.mpr h
      have hskip : (d :: ds).dropWhile isSpace = d :: ds := by
        rw [List.dropWhile_cons_of_neg]
        simp [not_isSpace_of_isDigit hdigit]
      simp only [stoul, hskip, splitSign_of_isDigit hdigit, hall]
      rw [if_neg hne, if_neg (by omega)]
      rfl

/-! ## Numerals -/

theorem toUInt8_toNat_of_isDigit {c : Char} (h : c.isDigit = true) :
    c.toUInt8.toNat = c.toNat ∧ isDigit c.toUInt8 = true := by
  have hbounds : 48 ≤ c.toNat ∧ c.toNat ≤ 57 := by
    rw [Char.isDigit, Bool.and_eq_true, decide_eq_true_eq, decide_eq_true_eq] at h
    exact ⟨h.1, h.2⟩
  have heq : c.toUInt8.toNat = c.toNat := by
    show c.toNat % 256 = c.toNat
    omega
  refine ⟨heq, ?_⟩
  rw [isDigit_iff, heq]
  exact hbounds

theorem isDigit_of_mem_toDecimal {n : Nat} {d : UInt8} (h : d ∈ toDecimal n) :
    isDigit d = true := by
  obtain ⟨c, hmem, rfl⟩ := List.mem_map.mp h
  exact (toUInt8_toNat_of_isDigit (Nat.isDigit_of_mem_toDigits (by decide) (by decide) hmem)).2

theorem digitsValue_map {cs : List Char} (h : ∀ c ∈ cs, c.isDigit = true) :
    digitsValue (cs.map Char.toUInt8) = Nat.ofDigitChars 10 cs 0 := by
  rw [Nat.ofDigitChars_eq_foldl, digitsValue, List.foldl_map]
  apply List.foldl_ext
  intro value c hmem
  rw [(toUInt8_toNat_of_isDigit (h c hmem)).1]
  rfl

@[simp] theorem digitsValue_toDecimal (n : Nat) : digitsValue (toDecimal n) = n := by
  rw [toDecimal, digitsValue_map, Nat.ofDigitChars_ten_toDigits]
  intro c hmem
  exact Nat.isDigit_of_mem_toDigits (by decide) (by decide) hmem

theorem length_toDecimal_le {n width : Nat} (hpos : 0 < width) (h : n < 10 ^ width) :
    (toDecimal n).length ≤ width := by
  rw [toDecimal, List.length_map]
  exact Nat.length_toDigits_le_iff (by decide) hpos |>.mpr h

end ByteString
