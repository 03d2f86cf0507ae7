import BbrChrome.Library.Rounding
import Mathlib.Order.Basic

/-!
# Times, bandwidths and packet numbers

A `QuicTime` and a `QuicTime::Delta` are microseconds in an `Int`; byte, packet
and round counts are `Nat`. Where the code relies on `uint64_t` arithmetic that
may go below zero the wrap is written out with `subUint64`.
-/

namespace BbrChrome

open Rounding

/-- `std::numeric_limits<uint64_t>::max()`. -/
def maxUint64 : Nat := 2 ^ 64 - 1

/-- `std::numeric_limits<int64_t>::max()`, the internal value of every `Infinite()`. -/
def maxInt64 : Nat := 2 ^ 63 - 1

/-- Unsigned subtraction: a result below zero wraps. -/
def subUint64 (a b : Nat) : Nat :=
  if b ≤ a then a - b else a + 2 ^ 64 - b

def addUint64 (a b : Nat) : Nat := (a + b) % 2 ^ 64

theorem addUint64_of_lt {a b : Nat} (h : a + b < 2 ^ 64) : addUint64 a b = a + b :=
  Nat.mod_eq_of_lt h

/-- The conversion of a signed value to `uint64_t`. -/
def toUint64 (x : Int) : Nat := (x % 2 ^ 64).toNat

theorem subUint64_of_le {a b : Nat} (h : b ≤ a) : subUint64 a b = a - b := if_pos h

/-- A `float`: 24 significant bits. -/
def float32 (x : Rat) : Rat := roundSig 24 x

/-- A `double`: 53 significant bits. -/
def float64 (x : Rat) : Rat := roundSig 53 x

/-- The conversion of a nonnegative floating-point value to `uint64_t`. -/
def toByteCount (x : Rat) : Nat := (truncate x).toNat

theorem le_toByteCount {x : Rat} {n : Nat} (h : (n : Rat) ≤ x) : n ≤ toByteCount x := by
  have hx : 0 ≤ x := (Nat.cast_nonneg n).trans h
  unfold toByteCount truncate
  rw [if_pos hx]
  have hfloor : (n : Int) ≤ x.floor := Rat.le_floor_iff.mpr (by exact_mod_cast h)
  omega

theorem toByteCount_le {x : Rat} (hx : 0 ≤ x) : (toByteCount x : Rat) ≤ x := by
  unfold toByteCount truncate
  rw [if_pos hx]
  have hfloor : (0 : Int) ≤ x.floor := Rat.le_floor_iff.mpr (by exact_mod_cast hx)
  have hcast : ((x.floor.toNat : Int) : Rat) = x.floor := by rw [Int.toNat_of_nonneg hfloor]
  rw [← Int.cast_natCast, hcast]
  exact Rat.floor_le x

/-! ## Times -/

namespace Time

def fromMilliseconds (ms : Int) : Int := ms * 1000

def fromSeconds (secs : Int) : Int := secs * 1000 * 1000

def infinite : Int := maxInt64

/-- `Delta >> n` on the signed representation. -/
def shiftRight (delta : Int) (n : Nat) : Int := delta / 2 ^ n

/-- `Delta * double`. What `llround` returns for a product beyond `int64_t` is not defined; here
the product is kept. -/
def scale (delta : Int) (factor : Rat) : Int := llround (float64 (float64 delta * factor))

end Time

/-! ## Bandwidths -/

/-- Bits per second; the constructor of the source replaces a negative value by zero. -/
@[ext] structure QuicBandwidth where
  bitsPerSecond : Nat
deriving DecidableEq, Repr

namespace QuicBandwidth

instance : LinearOrder QuicBandwidth :=
  LinearOrder.lift' bitsPerSecond fun _ _ h => QuicBandwidth.ext h

def zero : QuicBandwidth := ⟨0⟩

def infinite : QuicBandwidth := ⟨maxInt64⟩

def fromBitsPerSecond (bitsPerSecond : Int) : QuicBandwidth := ⟨bitsPerSecond.toNat⟩

/-- The product `8 * bytes * kNumMicrosPerSecond` is taken modulo `2 ^ 64` and read as signed. -/
def fromBytesAndTimeDelta (bytes : Nat) (delta : Int) : QuicBandwidth :=
  if bytes = 0 then zero
  else
    let numMicroBits := Int.bmod (8 * bytes * 1000000) (2 ^ 64)
    if numMicroBits < delta then ⟨1⟩ else fromBitsPerSecond (numMicroBits.tdiv delta)

theorem fromBytesAndTimeDelta_le_infinite (bytes : Nat) (delta : Int) :
    fromBytesAndTimeDelta bytes delta ≤ infinite := by
  unfold fromBytesAndTimeDelta
  split
  · exact Nat.zero_le _
  · have hlow := Int.le_bmod (x := 8 * bytes * 1000000) (m := 2 ^ 64) (by decide)
    have hhigh := Int.bmod_lt (x := 8 * bytes * 1000000) (m := 2 ^ 64) (by decide)
    dsimp only
    split
    · show 1 ≤ maxInt64
      decide
    · rename_i hlt
      generalize Int.bmod (8 * bytes * 1000000) (2 ^ 64) = bits at *
      show (bits.tdiv delta).toNat ≤ maxInt64
      have hmax : (maxInt64 : Int) = 2 ^ 63 - 1 := rfl
      have hle : bits.tdiv delta ≤ maxInt64 := by
        rcases Int.le_total 0 bits with hbits | hbits
        · have := Int.tdiv_le_self delta hbits
          omega
        · -- A negative dividend is the smaller operand in size, so the quotient is at most one.
          have habs : (bits.tdiv delta).natAbs = bits.natAbs / delta.natAbs :=
            Int.natAbs_tdiv bits delta
          have hone : bits.natAbs / delta.natAbs ≤ 1 := Nat.div_le_of_le_mul (by omega)
          omega
      omega

/-- The signed product is taken modulo `2 ^ 64`. The last division is unsigned, so a negative
product is converted first. -/
def toBytesPerPeriod (bandwidth : QuicBandwidth) (timePeriod : Int) : Nat :=
  toUint64 ((Int.bmod (bandwidth.bitsPerSecond * timePeriod) (2 ^ 64)).tdiv 8) / 1000000

/-- `operator*(QuicBandwidth, float)`. What `llround` returns for a product beyond `int64_t` is not
defined; here the product is kept, so that the result is unbounded. -/
def scale (bandwidth : QuicBandwidth) (factor : Rat) : QuicBandwidth :=
  fromBitsPerSecond (llround (float32 (float32 bandwidth.bitsPerSecond * factor)))

/-- `operator-`. -/
def sub (lhs rhs : QuicBandwidth) : QuicBandwidth :=
  fromBitsPerSecond ((lhs.bitsPerSecond : Int) - rhs.bitsPerSecond)

def isZero (bandwidth : QuicBandwidth) : Bool := bandwidth.bitsPerSecond == 0

def isInfinite (bandwidth : QuicBandwidth) : Bool := bandwidth == infinite

end QuicBandwidth

/-! ## Packet numbers -/

/-- The sentinel of an uninitialized packet number is the largest `uint64_t`. -/
inductive QuicPacketNumber
  | number (n : Nat)
  | uninitialized
deriving DecidableEq, Repr

namespace QuicPacketNumber

def isInitialized : QuicPacketNumber → Bool
  | number _ => true
  | uninitialized => false

def toUint64 : QuicPacketNumber → Nat
  | number n => n
  | uninitialized => maxUint64

/-- Incrementing the sentinel wraps to zero. -/
def add : QuicPacketNumber → Nat → QuicPacketNumber
  | number n, delta => number (n + delta)
  | uninitialized, 0 => uninitialized
  | uninitialized, delta + 1 => number delta

/-- `rhs < n`; the sentinel is above every number. -/
def below : QuicPacketNumber → Nat → Bool
  | number m, n => m < n
  | uninitialized, _ => false

/-- `n < lhs`. -/
def above : QuicPacketNumber → Nat → Bool
  | number m, n => n < m
  | uninitialized, _ => true

/-- `n <= lhs`. -/
def atLeast : QuicPacketNumber → Nat → Bool
  | number m, n => n ≤ m
  | uninitialized, _ => true

/-- The larger of the two; the argument is initialized. -/
def updateMax : QuicPacketNumber → Nat → QuicPacketNumber
  | number m, n => number (max m n)
  | uninitialized, n => number n

/-- `lhs - n`, meant for `n <= lhs`. -/
def sub : QuicPacketNumber → Nat → Nat
  | number m, n => m - n
  | uninitialized, n => maxUint64 - n

@[simp] theorem isInitialized_number (n : Nat) : (number n).isInitialized = true := rfl

@[simp] theorem add_number (n delta : Nat) : (number n).add delta = number (n + delta) := rfl

@[simp] theorem below_number (m n : Nat) : (number m).below n = decide (m < n) := rfl

@[simp] theorem above_number (m n : Nat) : (number m).above n = decide (n < m) := rfl

@[simp] theorem atLeast_number (m n : Nat) : (number m).atLeast n = decide (n ≤ m) := rfl

@[simp] theorem sub_number (m n : Nat) : (number m).sub n = m - n := rfl

end QuicPacketNumber

end BbrChrome
