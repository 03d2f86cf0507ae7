import BbrChrome.Common.QuicheCircularDeque
import BbrChrome.Library.RingBuffer

/-!
# The layout of the circular deque

The elements of a deque lie in its buffer as in a ring buffer, and one cell stays spare: the
index behind the last element meets the first one only when there is no element. What a caller
reads through indices and iterators is the list that lies there.
-/

namespace BbrChrome

theorem toInt64_of_lt {n : Nat} (h : n < 2 ^ 63) : toInt64 n = n := if_pos h

theorem toInt64_subUint64 {a b : Nat} (ha : a < 2 ^ 63) (hb : b < 2 ^ 63) :
    toInt64 (subUint64 a b) = (a : Int) - b := by
  unfold toInt64 subUint64
  split <;> split <;> omega

namespace QuicheCircularDeque

variable {α : Type} {d : QuicheCircularDeque α} {l : List α} {i j n : Nat}

/-- The list lies in the buffer, which has a spare cell unless there is no buffer. -/
structure Represents (d : QuicheCircularDeque α) (l : List α) : Prop where
  begin_lt : d.beginIndex < max 1 d.data.length
  room : l.length < max 1 d.data.length
  end_eq : d.endIndex = Ring.place d.data.length d.beginIndex l.length
  holds : Ring.Holds d.data d.beginIndex l
  addressable : 3 * d.data.length < 2 ^ 64

theorem represents_nil : Represents ({} : QuicheCircularDeque α) [] where
  begin_lt := by simp
  room := by simp
  end_eq := by simp [Ring.place]
  holds := Ring.holds_nil
  addressable := by simp

/-! ## Sizes -/

theorem capacity_eq : d.capacity = d.data.length - 1 := by
  unfold capacity dataCapacity
  split <;> omega

theorem Represents.length_le_capacity (h : d.Represents l) : l.length ≤ d.capacity := by
  have := h.room
  rw [capacity_eq]
  omega

theorem Represents.size_eq (h : d.Represents l) : d.size = l.length := by
  have hbegin := h.begin_lt
  have hroom := h.room
  have haddr := h.addressable
  have hend := h.end_eq
  unfold Ring.place at hend
  unfold size dataCapacity addUint64 subUint64
  split at hend
  · rw [if_pos (by omega)]
    omega
  · by_cases hnil : d.data.length = 0
    · rw [if_pos (by omega)]
      omega
    · rw [if_neg (by omega), Nat.mod_eq_of_lt (by omega), if_pos (by omega)]
      omega

theorem Represents.begin_eq_end_iff (h : d.Represents l) :
    d.beginIndex = d.endIndex ↔ l = [] := by
  have hsize := h.size_eq
  constructor
  · intro heq
    unfold size at hsize
    rw [if_pos (by omega)] at hsize
    exact List.length_eq_zero_iff.mp (by omega)
  · intro hnil
    have hroom := h.begin_lt
    rw [h.end_eq, hnil]
    simp only [List.length_nil]
    unfold Ring.place
    split <;> omega

theorem Represents.empty_eq (h : d.Represents l) : d.empty = l.isEmpty := by
  unfold empty
  rw [Bool.eq_iff_iff, beq_iff_eq, List.isEmpty_iff]
  exact h.begin_eq_end_iff

theorem Represents.nil_of_empty (h : d.Represents l) (hempty : d.empty = true) : l = [] := by
  rwa [h.empty_eq, List.isEmpty_iff] at hempty

theorem Represents.ne_nil_of_nonempty (h : d.Represents l) (hempty : d.empty = false) :
    l ≠ [] := by
  rintro rfl
  rw [h.empty_eq] at hempty
  cases hempty

theorem Represents.begin_lt_length (h : d.Represents l) (hl : 0 < l.length) :
    d.beginIndex < d.data.length := by
  have := h.begin_lt
  have := h.room
  omega

/-! ## Elements -/

/-- The index `i` elements behind the first one. -/
def indexOf (d : QuicheCircularDeque α) (i : Nat) : Nat :=
  Ring.place d.data.length d.beginIndex i

theorem Represents.cell_indexOf (h : d.Represents l) (hi : i < l.length) :
    d.cell (d.indexOf i) = l[i]? :=
  h.holds.read hi

theorem Represents.indexOf_zero (h : d.Represents l) : d.indexOf 0 = d.beginIndex := by
  have := h.begin_lt
  unfold indexOf Ring.place
  split <;> omega

theorem Represents.atPos_eq (h : d.Represents l) (hi : i < l.length) : d.atPos i = l[i]? := by
  have hbegin := h.begin_lt_length (by omega)
  have hroom := h.room
  have haddr := h.addressable
  rw [← h.cell_indexOf hi]
  unfold atPos indexOf Ring.place dataCapacity
  simp only [addUint64_of_lt (show d.beginIndex + i < 2 ^ 64 by omega)]
  split
  · rfl
  · rw [subUint64_of_le (by omega)]

theorem Represents.front_eq (h : d.Represents l) (hl : l ≠ []) : d.front = l.head? := by
  rw [List.head?_eq_getElem?, ← h.cell_indexOf (List.length_pos_iff.mpr hl), h.indexOf_zero]
  rfl

theorem indexPrev_indexOf (hi : i < d.data.length) (hpos : 0 < i) :
    d.indexPrev (d.indexOf i) = d.indexOf (i - 1) := by
  unfold indexPrev indexOf Ring.place dataCapacity subUint64
  split_ifs <;> omega

theorem Represents.back_eq (h : d.Represents l) (hl : l ≠ []) : d.back = l.getLast? := by
  have hpos := List.length_pos_iff.mpr hl
  have hroom := h.room
  have hprev := @indexPrev_indexOf _ d l.length (by omega) hpos
  rw [List.getLast?_eq_getElem?, ← h.cell_indexOf (by omega), ← hprev]
  show d.cell _ = d.cell _
  rw [h.end_eq]
  rfl

theorem Represents.indexNext_indexOf (h : d.Represents l) (hi : i < d.data.length) :
    d.indexNext (d.indexOf i) = d.indexOf (i + 1) := by
  have hbegin := h.begin_lt
  have haddr := h.addressable
  unfold indexNext indexOf Ring.place dataCapacity subUint64 addUint64
  split <;> split <;> split <;> split <;> omega

theorem Represents.indexIncrementBy_indexOf (h : d.Represents l) (hi : i < max 1 d.data.length)
    (hj : j < max 1 d.data.length) :
    d.indexIncrementBy (d.indexOf i) ((j : Int) - i) = d.indexOf j := by
  have hbegin := h.begin_lt
  have haddr := h.addressable
  unfold indexIncrementBy
  by_cases hij : i = j
  · rw [if_pos (by omega), hij]
  · rw [if_neg (by omega)]
    have hlt : d.indexOf i < d.data.length := Ring.place_lt (by omega) (by omega)
    have hsum : addUint64 (addUint64 (d.indexOf i) d.dataCapacity) (toUint64 ((j : Int) - i)) =
        d.indexOf i + d.data.length + j - i := by
      unfold addUint64 toUint64 dataCapacity
      omega
    rw [hsum, show d.dataCapacity = d.data.length from rfl]
    unfold indexOf
    rw [Ring.place_eq_mod (by omega) (by omega), Ring.place_eq_mod (by omega) (by omega)]
    calc ((d.beginIndex + i) % d.data.length + d.data.length + j - i) % d.data.length
        = ((d.beginIndex + i) % d.data.length + (d.data.length + j - i)) % d.data.length := by
          rw [show (d.beginIndex + i) % d.data.length + d.data.length + j - i =
            (d.beginIndex + i) % d.data.length + (d.data.length + j - i) by omega]
      _ = (d.beginIndex + i + (d.data.length + j - i)) % d.data.length := by
          rw [Nat.mod_add_mod]
      _ = (d.beginIndex + j + d.data.length) % d.data.length := by
          rw [show d.beginIndex + i + (d.data.length + j - i) =
            d.beginIndex + j + d.data.length by omega]
      _ = (d.beginIndex + j) % d.data.length := Nat.add_mod_right _ _

/-! ## Iterators -/

def iteratorAt (d : QuicheCircularDeque α) (i : Nat) : Iterator α := ⟨d, d.indexOf i⟩

theorem Represents.begin_eq (h : d.Represents l) : d.begin = d.iteratorAt 0 := by
  unfold begin iteratorAt
  rw [h.indexOf_zero]

theorem Represents.end_eq_iteratorAt (h : d.Represents l) : d.end = d.iteratorAt l.length := by
  unfold «end» iteratorAt indexOf
  rw [h.end_eq]

theorem Represents.externalPosition_eq (h : d.Represents l) (hi : i ≤ l.length) :
    (d.iteratorAt i).externalPosition = i := by
  have hbegin := h.begin_lt
  have hroom := h.room
  have haddr := h.addressable
  unfold Iterator.externalPosition iteratorAt indexOf Ring.place dataCapacity addUint64 subUint64
  simp only
  split_ifs <;> omega

theorem Represents.eq_iff (h : d.Represents l) (hi : i ≤ l.length) (hj : j ≤ l.length) :
    (d.iteratorAt i).eq (d.iteratorAt j) = decide (i = j) := by
  have hroom := h.room
  show (d.indexOf i == d.indexOf j) = _
  rw [Bool.eq_iff_iff, beq_iff_eq, decide_eq_true_iff]
  by_cases hnil : d.data.length = 0
  · rw [show i = j by omega]
    simp
  · exact Ring.place_inj (by omega) (by omega)

/-! ## The pass over the elements -/

theorem Represents.cellsTo_eq (h : d.Represents l) (fuel : Nat) (hi : i ≤ l.length)
    (hfuel : l.length - i < max 1 fuel) :
    d.cellsTo d.endIndex fuel (d.indexOf i) = (l.drop i).map some := by
  have hroom := h.room
  induction fuel generalizing i with
  | zero =>
      rw [List.drop_eq_nil_of_le (by omega)]
      rfl
  | succ fuel ih =>
      rw [cellsTo]
      by_cases hlast : i = l.length
      · rw [if_pos (by rw [hlast, h.end_eq]; rfl), hlast, List.drop_length]
        rfl
      · have hlt : i < l.length := by omega
        have hne : d.indexOf i ≠ d.endIndex := by
          rw [h.end_eq]
          intro heq
          exact hlast ((Ring.place_inj (by omega) (by omega)).mp heq)
        rw [if_neg hne, h.cell_indexOf hlt, h.indexNext_indexOf (by omega),
          ih (by omega) (by omega), List.drop_eq_getElem_cons hlt, List.getElem?_eq_getElem hlt]
        rfl

theorem Represents.elements_eq (h : d.Represents l) : d.elements = l.map some := by
  have hroom := h.room
  have hpass := h.cellsTo_eq (i := 0) d.data.length (Nat.zero_le _) (by omega)
  rw [h.indexOf_zero, List.drop_zero] at hpass
  exact hpass

end QuicheCircularDeque

end BbrChrome
