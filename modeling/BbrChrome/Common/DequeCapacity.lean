import BbrChrome.Common.DequeOperations

/-!
# Capacity arithmetic of the circular deque

The deque computes a remainder modulo its number of cells in two places: in the signed step of
an index, which a step of zero does not reach, and in a resize that does not enlarge, which
nothing guards. The bulk pops of a deque that represents a list never divide by zero; a resize
does when it empties a deque without cells.
-/

namespace BbrChrome

namespace QuicheCircularDeque

variable {α : Type} {traits : DequeTraits} {d : QuicheCircularDeque α} {l : List α} {v : α}
  {count index n : Nat} {delta : Int}

/-! ## Remainders -/

def remainder (d : QuicheCircularDeque α) (n : Nat) : Except DequeFault Nat :=
  if d.dataCapacity = 0 then .error .divisionByZero else .ok (n % d.dataCapacity)

def tryIndexIncrementBy (d : QuicheCircularDeque α) (index : Nat) (delta : Int) :
    Except DequeFault Nat :=
  if delta = 0 then .ok index
  else d.remainder (addUint64 (addUint64 index d.dataCapacity) (toUint64 delta))

def tryPopFrontN (d : QuicheCircularDeque α) (count : Nat) :
    Except DequeFault (QuicheCircularDeque α × Nat) :=
  let numElementsToPop := min count d.size
  match d.tryIndexIncrementBy d.beginIndex (toInt64 numElementsToPop) with
  | .ok newBegin =>
      .ok ({ d with beginIndex := newBegin, data := destroyRange d.data d.beginIndex newBegin },
        numElementsToPop)
  | .error fault => .error fault

def tryPopBackN (d : QuicheCircularDeque α) (count : Nat) :
    Except DequeFault (QuicheCircularDeque α × Nat) :=
  let numElementsToPop := min count d.size
  match d.tryIndexIncrementBy d.endIndex (toInt64 (subUint64 0 numElementsToPop)) with
  | .ok newEnd =>
      .ok ({ d with endIndex := newEnd, data := destroyRange d.data newEnd d.endIndex },
        numElementsToPop)
  | .error fault => .error fault

theorem remainder_of_cells (h : d.dataCapacity ≠ 0) : d.remainder n = .ok (n % d.dataCapacity) :=
  if_neg h

theorem tryIndexIncrementBy_of_cells (h : d.dataCapacity = 0 → delta = 0) :
    d.tryIndexIncrementBy index delta = .ok (d.indexIncrementBy index delta) := by
  unfold tryIndexIncrementBy indexIncrementBy
  by_cases hdelta : delta = 0
  · rw [if_pos hdelta, if_pos hdelta]
  · have hcells : d.dataCapacity ≠ 0 := fun hnone => hdelta (h hnone)
    rw [if_neg hdelta, if_neg hdelta, remainder_of_cells hcells]

/-! ## Bulk pops -/

theorem Represents.eq_nil_of_no_cells (h : d.Represents l) (hcells : d.dataCapacity = 0) :
    l = [] := by
  have hroom := h.room
  unfold dataCapacity at hcells
  exact List.length_eq_zero_iff.mp (by omega)

theorem Represents.size_eq_zero_of_no_cells (h : d.Represents l) (hcells : d.dataCapacity = 0) :
    d.size = 0 := by
  rw [h.size_eq, h.eq_nil_of_no_cells hcells]
  rfl

theorem Represents.tryIndexIncrementBy_eq (h : d.Represents l) (hdelta : d.size = 0 → delta = 0) :
    d.tryIndexIncrementBy index delta = .ok (d.indexIncrementBy index delta) :=
  tryIndexIncrementBy_of_cells fun hcells => hdelta (h.size_eq_zero_of_no_cells hcells)

theorem Represents.tryPopFrontN_eq (h : d.Represents l) :
    d.tryPopFrontN n = .ok (d.popFrontN n) := by
  have hdelta : d.size = 0 → toInt64 (min n d.size) = 0 := by
    intro hsize
    rw [hsize, Nat.min_zero]
    rfl
  unfold tryPopFrontN popFrontN
  simp only [h.tryIndexIncrementBy_eq hdelta]

theorem Represents.tryPopBackN_eq (h : d.Represents l) :
    d.tryPopBackN n = .ok (d.popBackN n) := by
  have hdelta : d.size = 0 → toInt64 (subUint64 0 (min n d.size)) = 0 := by
    intro hsize
    rw [hsize, Nat.min_zero]
    rfl
  unfold tryPopBackN popBackN
  simp only [h.tryIndexIncrementBy_eq hdelta]

/-- The bulk pops end without a fault and remove as many elements as they can. -/
structure PopsTotal (d : QuicheCircularDeque α) (count : Nat) : Prop where
  popFrontN : ∃ d', d.tryPopFrontN count = .ok (d', min count d.size) ∧
    d'.size = d.size - min count d.size
  popBackN : ∃ d', d.tryPopBackN count = .ok (d', min count d.size) ∧
    d'.size = d.size - min count d.size

theorem Represents.popsTotal (h : d.Represents l) : d.PopsTotal n where
  popFrontN := by
    have hpop := h.popFrontN_represents (n := n)
    refine ⟨(d.popFrontN n).1, h.tryPopFrontN_eq, ?_⟩
    rw [hpop.1.size_eq, h.size_eq, List.length_drop]
    omega
  popBackN := by
    have hpop := h.popBackN_represents (n := n)
    refine ⟨(d.popBackN n).1, h.tryPopBackN_eq, ?_⟩
    rw [hpop.1.size_eq, h.size_eq, List.length_take]
    omega

/-! ## Resizes -/

theorem Represents.resize_shrinks (h : d.Represents l) (traits : DequeTraits)
    (hcount : count ≤ l.length) (hcells : d.dataCapacity ≠ 0) :
    ∃ d', d.resize traits count v = .ok d' ∧ d'.Represents (l.take count) := by
  have hbegin := h.begin_lt
  have hroom := h.room
  have haddr := h.addressable
  have hlen : d.data.length ≠ 0 := hcells
  have hend : addUint64 d.beginIndex count % d.dataCapacity = d.indexOf count := by
    unfold dataCapacity indexOf
    rw [addUint64_of_lt (by omega), Ring.place_eq_mod (by omega) (by omega)]
  have hbound : d.indexOf count < d.data.length := Ring.place_lt (by omega) (by omega)
  unfold resize
  rw [h.size_eq, if_neg (by omega), if_neg hcells, hend]
  refine ⟨_, rfl, h.take_of_release hcount destroyRange_length ?_⟩
  intro k hk
  exact destroyRange_outside hbound.le hk

theorem Represents.resize_no_cells (h : d.Represents l) (traits : DequeTraits)
    (hcells : d.dataCapacity = 0) : d.resize traits 0 v = .error .divisionByZero := by
  unfold resize
  rw [h.size_eq_zero_of_no_cells hcells, if_neg (by omega), if_pos hcells]

/-- The result has this many elements, unless the allocator refuses. -/
def Resizes (count : Nat) : Except DequeFault (QuicheCircularDeque α) → Prop
  | .ok d => d.size = count
  | .error fault => fault = .badAlloc

theorem Yields.resizes {r : Except DequeFault (QuicheCircularDeque α)} (h : Yields l r) :
    Resizes l.length r := by
  cases r with
  | error fault => exact h
  | ok d => exact Represents.size_eq h

/-- The deque has a cell unless elements are added, and `2^64 - 1` elements are asked of a deque
without elements only. -/
def ResizeFits (d : QuicheCircularDeque α) (count : Nat) : Prop :=
  (d.dataCapacity = 0 → count ≠ 0) ∧ (count = maxUint64 → d.empty = true)

instance (d : QuicheCircularDeque α) (count : Nat) : Decidable (d.ResizeFits count) := by
  unfold ResizeFits
  infer_instance

theorem Represents.cells_of_fits (h : d.Represents l) (hfits : d.ResizeFits count)
    (hle : ¬ l.length < count) : d.dataCapacity ≠ 0 := by
  intro hnone
  have hnil := h.eq_nil_of_no_cells hnone
  apply hfits.1 hnone
  rw [hnil] at hle
  simpa using hle

theorem Represents.resize_of_fits (h : d.Represents l) (traits : DequeTraits)
    (hcount : count < 2 ^ 64) (hfits : d.ResizeFits count) :
    Yields (l.take count ++ List.replicate (count - l.length) v) (d.resize traits count v) := by
  by_cases hlt : l.length < count
  · have hyields := h.resize_yields traits (v := v) hlt hcount
      (fun hmax => h.nil_of_empty (hfits.2 hmax))
    rwa [List.take_of_length_le hlt.le]
  · have hle := Nat.le_of_not_lt hlt
    obtain ⟨d', hok, hd'⟩ := h.resize_shrinks traits (v := v) hle (h.cells_of_fits hfits hlt)
    rw [hok, Nat.sub_eq_zero_of_le hle, List.replicate_zero, List.append_nil]
    exact hd'

theorem Represents.resizes (h : d.Represents l) (traits : DequeTraits) (hcount : count < 2 ^ 64)
    (hfits : d.ResizeFits count) : Resizes count (d.resize traits count v) := by
  have hresizes := (h.resize_of_fits traits (v := v) hcount hfits).resizes
  have hlen : (l.take count ++ List.replicate (count - l.length) v).length = count := by
    rw [List.length_append, List.length_take, List.length_replicate]
    omega
  rwa [hlen] at hresizes

/-- The two ways in which a resize goes wrong. -/
theorem Represents.resize_of_not_fits (h : d.Represents l) (traits : DequeTraits)
    (hfits : ¬ d.ResizeFits count) :
    (d.dataCapacity = 0 ∧ count = 0 ∧ d.resize traits count v = .error .divisionByZero) ∨
      (count = maxUint64 ∧ d.resize traits count v = .error .outOfBounds) := by
  by_cases hnone : d.dataCapacity = 0 ∧ count = 0
  · obtain ⟨hcells, rfl⟩ := hnone
    exact .inl ⟨hcells, rfl, h.resize_no_cells traits hcells⟩
  · have hmax : ¬ (count = maxUint64 → d.empty = true) := by
      intro hempty
      exact hfits ⟨fun hcells hzero => hnone ⟨hcells, hzero⟩, hempty⟩
    obtain ⟨rfl, hempty⟩ := Classical.not_imp.mp hmax
    have hl := h.ne_nil_of_nonempty (by simpa using hempty)
    exact .inr ⟨rfl, h.resize_max traits hl⟩

theorem Represents.resizes_iff (h : d.Represents l) (traits : DequeTraits)
    (hcount : count < 2 ^ 64) : Resizes count (d.resize traits count v) ↔ d.ResizeFits count := by
  constructor
  · intro hresizes
    by_contra hfits
    rcases h.resize_of_not_fits traits (v := v) hfits with ⟨_, _, hfault⟩ | ⟨_, hfault⟩
    · rw [hfault] at hresizes
      cases hresizes
    · rw [hfault] at hresizes
      cases hresizes
  · intro hfits
    exact h.resizes traits hcount hfits

theorem Represents.resize_divides_iff (h : d.Represents l) (traits : DequeTraits)
    (hcount : count < 2 ^ 64) :
    d.resize traits count v = .error .divisionByZero ↔ d.dataCapacity = 0 ∧ count = 0 := by
  constructor
  · intro hdivides
    by_cases hfits : d.ResizeFits count
    · have hresizes := h.resizes traits (v := v) hcount hfits
      rw [hdivides] at hresizes
      cases hresizes
    · rcases h.resize_of_not_fits traits (v := v) hfits with ⟨hcells, hzero, _⟩ | ⟨_, hfault⟩
      · exact ⟨hcells, hzero⟩
      · rw [hfault] at hdivides
        cases hdivides
  · rintro ⟨hcells, rfl⟩
    exact h.resize_no_cells traits hcells

structure CapacityArithmeticTotal (traits : DequeTraits) (d : QuicheCircularDeque α)
    (count : Nat) (value : α) : Prop extends PopsTotal d count where
  resize : Resizes count (d.resize traits count value)

theorem Represents.capacityArithmeticTotal_iff (h : d.Represents l) (traits : DequeTraits)
    (hcount : count < 2 ^ 64) :
    d.CapacityArithmeticTotal traits count v ↔ d.ResizeFits count := by
  rw [← h.resizes_iff traits (v := v) hcount]
  constructor
  · intro htotal
    exact htotal.resize
  · intro hresizes
    exact ⟨h.popsTotal, hresizes⟩

end QuicheCircularDeque

end BbrChrome
