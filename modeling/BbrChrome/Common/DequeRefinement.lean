import BbrChrome.Common.DequeOperations
import BbrChrome.Library.PartialRun
import Mathlib.Logic.Function.Basic

/-!
# Circular deques refine lists

Calls on any number of deques, among them assignments from one to another, against the same
calls on lists. What a caller can read of a deque is its list in every run whose calls do not ask
a deque with elements for a capacity of `2^64 - 1`; the first call that does writes behind an
empty buffer.
-/

namespace BbrChrome

namespace QuicheCircularDeque

variable {α : Type} {traits : DequeTraits} {d : QuicheCircularDeque α} {l : List α}

/-! ## Calls -/

inductive Call (α : Type)
  | emplaceFront (value : α)
  | emplaceBack (value : α)
  | popFront
  | popBack
  | popFrontN (count : UInt64)
  | popBackN (count : UInt64)
  | reserve (newCap : UInt64)
  | clear
  | resize (count : UInt64) (value : α)
  /-- Copy assignment of the deque with this name. -/
  | assign (source : Nat)
deriving DecidableEq, Repr

def call (traits : DequeTraits) (deques : Nat → QuicheCircularDeque α) (name : Nat) :
    Call α → Except DequeFault (QuicheCircularDeque α)
  | .emplaceFront value => (deques name).emplaceFront traits value
  | .emplaceBack value => (deques name).emplaceBack traits value
  | .popFront => .ok (deques name).popFront
  | .popBack => .ok (deques name).popBack
  | .popFrontN count => .ok ((deques name).popFrontN count.toNat).1
  | .popBackN count => .ok ((deques name).popBackN count.toNat).1
  | .reserve newCap => (deques name).reserve traits newCap.toNat
  | .clear => .ok (deques name).clear
  | .resize count value => (deques name).resize traits count.toNat value
  | .assign source =>
      if source = name then .ok (deques name) else (deques name).assign traits (deques source)

def step (traits : DequeTraits) (deques : Nat → QuicheCircularDeque α) (op : Nat × Call α) :
    Except DequeFault (Nat → QuicheCircularDeque α) :=
  match call traits deques op.1 op.2 with
  | .ok d => .ok (Function.update deques op.1 d)
  | .error fault => .error fault

def callList (lists : Nat → List α) (name : Nat) : Call α → List α
  | .emplaceFront value => value :: lists name
  | .emplaceBack value => lists name ++ [value]
  | .popFront => (lists name).tail
  | .popBack => (lists name).dropLast
  | .popFrontN count => (lists name).drop count.toNat
  | .popBackN count => (lists name).take ((lists name).length - count.toNat)
  | .reserve _ => lists name
  | .clear => []
  | .resize count value =>
      lists name ++ List.replicate (count.toNat - (lists name).length) value
  | .assign source => lists source

def stepLists (lists : Nat → List α) (op : Nat × Call α) : Nat → List α :=
  Function.update lists op.1 (callList lists op.1 op.2)

/-- Pops find an element, and a resize enlarges the deque. -/
def Permitted (deques : Nat → QuicheCircularDeque α) (op : Nat × Call α) : Prop :=
  match op.2 with
  | .popFront => (deques op.1).empty = false
  | .popBack => (deques op.1).empty = false
  | .resize count _ => (deques op.1).size < count.toNat
  | _ => True

/-- A capacity of `2^64 - 1` is asked of a deque without elements only. -/
def SpareCellFits (deques : Nat → QuicheCircularDeque α) (op : Nat × Call α) : Prop :=
  match op.2 with
  | .reserve newCap => newCap.toNat = maxUint64 → (deques op.1).empty = true
  | .resize count _ => count.toNat = maxUint64 → (deques op.1).empty = true
  | _ => True

instance (deques : Nat → QuicheCircularDeque α) (op : Nat × Call α) :
    Decidable (Permitted deques op) := by
  unfold Permitted
  split <;> infer_instance

instance (deques : Nat → QuicheCircularDeque α) (op : Nat × Call α) :
    Decidable (SpareCellFits deques op) := by
  unfold SpareCellFits
  split <;> infer_instance

/-! ## Steps -/

section Steps

variable {deques : Nat → QuicheCircularDeque α} {lists : Nat → List α} {op : Nat × Call α}
  {name : Nat} {c : Call α}

theorem call_yields (traits : DequeTraits)
    (h : ∀ name, (deques name).Represents (lists name))
    (hpermitted : Permitted deques (name, c)) (hfits : SpareCellFits deques (name, c)) :
    Yields (callList lists name c) (call traits deques name c) := by
  cases c with
  | emplaceFront value => exact (h name).emplaceFront_yields traits
  | emplaceBack value => exact (h name).emplaceBack_yields traits
  | popFront => exact (h name).popFront_represents ((h name).ne_nil_of_nonempty hpermitted)
  | popBack => exact (h name).popBack_represents ((h name).ne_nil_of_nonempty hpermitted)
  | popFrontN count => exact (h name).popFrontN_represents.1
  | popBackN count => exact (h name).popBackN_represents.1
  | reserve newCap =>
      apply (h name).reserve_yields traits newCap.toNat_lt
      intro hmax
      exact (h name).nil_of_empty (hfits hmax)
  | clear => exact (h name).clear_represents
  | resize count value =>
      have hlt : (deques name).size < count.toNat := hpermitted
      rw [(h name).size_eq] at hlt
      apply (h name).resize_yields traits hlt count.toNat_lt
      intro hmax
      exact (h name).nil_of_empty (hfits hmax)
  | assign source =>
      unfold call
      simp only
      split
      · next heq =>
          subst heq
          exact h source
      · exact (h name).assign_yields traits (h source)

theorem call_overflow (traits : DequeTraits)
    (h : ∀ name, (deques name).Represents (lists name))
    (hfits : ¬ SpareCellFits deques (name, c)) :
    call traits deques name c = .error .outOfBounds := by
  cases c with
  | reserve newCap =>
      obtain ⟨hmax, hempty⟩ := Classical.not_imp.mp hfits
      have hl := (h name).ne_nil_of_nonempty (by simpa using hempty)
      unfold call
      simp only [hmax]
      exact (h name).reserve_max traits hl
  | resize count value =>
      obtain ⟨hmax, hempty⟩ := Classical.not_imp.mp hfits
      have hl := (h name).ne_nil_of_nonempty (by simpa using hempty)
      unfold call
      simp only [hmax]
      exact (h name).resize_max traits hl
  | _ => exact absurd trivial hfits

theorem update_represents (h : ∀ name, (deques name).Represents (lists name))
    (hd : d.Represents l) (name' : Nat) :
    (Function.update deques name d name').Represents (Function.update lists name l name') := by
  by_cases heq : name' = name
  · subst heq
    simpa using hd
  · simpa [heq] using h name'

/-- A run within the address space ends with the lists, or the allocator refused. -/
theorem exec_represents {ops : List (Nat × Call α)}
    (h : ∀ name, (deques name).Represents (lists name))
    (hpermitted : PartialRun.Along (step traits) Permitted deques ops)
    (hfits : PartialRun.Along (step traits) SpareCellFits deques ops) :
    PartialRun.exec (step traits) deques ops = .error .badAlloc ∨
      ∃ deques', PartialRun.exec (step traits) deques ops = .ok deques' ∧
        ∀ name, (deques' name).Represents (ops.foldl stepLists lists name) := by
  induction ops generalizing deques lists with
  | nil => exact .inr ⟨deques, rfl, h⟩
  | cons op ops ih =>
      have hcall := call_yields traits h hpermitted.1 hfits.1
      cases hres : call traits deques op.1 op.2 with
      | error fault =>
          rw [hres] at hcall
          cases hcall
          exact .inl (PartialRun.exec_cons_of_error (by simp [step, hres]) ops)
      | ok d =>
          rw [hres] at hcall
          have hstep : step traits deques op = .ok (Function.update deques op.1 d) := by
            simp [step, hres]
          rw [PartialRun.exec_cons_of_ok hstep]
          exact ih (update_represents h hcall) (hpermitted.2 _ hstep) (hfits.2 _ hstep)

/-- The first call that asks for too much ends the run. -/
theorem exec_overflow {ops : List (Nat × Call α)}
    (h : ∀ name, (deques name).Represents (lists name))
    (hpermitted : PartialRun.Along (step traits) Permitted deques ops)
    (hfits : ¬ PartialRun.Along (step traits) SpareCellFits deques ops) :
    PartialRun.exec (step traits) deques ops = .error .outOfBounds := by
  induction ops generalizing deques lists with
  | nil => exact absurd trivial hfits
  | cons op ops ih =>
      by_cases hfirst : SpareCellFits deques op
      · have hcall := call_yields traits h hpermitted.1 hfirst
        cases hres : call traits deques op.1 op.2 with
        | error fault =>
            have hstep : step traits deques op = .error fault := by simp [step, hres]
            refine absurd ⟨hfirst, fun s' hs' => ?_⟩ hfits
            rw [hstep] at hs'
            cases hs'
        | ok d =>
            rw [hres] at hcall
            have hstep : step traits deques op = .ok (Function.update deques op.1 d) := by
              simp [step, hres]
            rw [PartialRun.exec_cons_of_ok hstep]
            apply ih (update_represents h hcall) (hpermitted.2 _ hstep)
            intro hrest
            refine hfits ⟨hfirst, fun s' hs' => ?_⟩
            cases hstep.symm.trans hs'
            exact hrest
      · have hcall := call_overflow traits h hfirst
        exact PartialRun.exec_cons_of_error (by simp [step, hcall]) ops

end Steps

/-! ## What a caller reads -/

/-- Indices, iterators and the pass over the elements read the list. -/
structure Agrees (d : QuicheCircularDeque α) (l : List α) : Prop where
  elements : d.elements = l.map some
  begin_eq_end_iff : d.beginIndex = d.endIndex ↔ l = []
  size : d.size = l.length
  front : l ≠ [] → d.front = l.head?
  back : l ≠ [] → d.back = l.getLast?
  atPos : ∀ i, i < l.length → d.atPos i = l[i]?
  end_eq : d.end = d.begin.incrementBy l.length
  deref : ∀ i : Nat, i < l.length → (d.begin.incrementBy i).deref = l[i]?
  increment : ∀ i : Nat, i < l.length →
    (d.begin.incrementBy i).increment = d.begin.incrementBy (i + 1)
  decrement : ∀ i : Nat, i < l.length →
    (d.begin.incrementBy (i + 1)).decrement = d.begin.incrementBy i
  incrementBy : ∀ i j : Nat, i ≤ l.length → j ≤ l.length →
    (d.begin.incrementBy i).incrementBy ((j : Int) - i) = d.begin.incrementBy j
  difference : ∀ i j : Nat, i ≤ l.length → j ≤ l.length →
    (d.begin.incrementBy i).difference (d.begin.incrementBy j) = (i : Int) - j
  lt : ∀ i j : Nat, i ≤ l.length → j ≤ l.length →
    (d.begin.incrementBy i).lt (d.begin.incrementBy j) = decide (i < j)
  eq : ∀ i j : Nat, i ≤ l.length → j ≤ l.length →
    (d.begin.incrementBy i).eq (d.begin.incrementBy j) = decide (i = j)

theorem Represents.incrementBy_iteratorAt (h : d.Represents l) {i j : Nat} (hi : i ≤ l.length)
    (hj : j ≤ l.length) :
    (d.iteratorAt i).incrementBy ((j : Int) - i) = d.iteratorAt j := by
  have hroom := h.room
  show (⟨d, d.indexIncrementBy (d.indexOf i) ((j : Int) - i)⟩ : Iterator α) = ⟨d, d.indexOf j⟩
  rw [h.indexIncrementBy_indexOf (by omega) (by omega)]

theorem Represents.begin_incrementBy (h : d.Represents l) {i : Nat} (hi : i ≤ l.length) :
    d.begin.incrementBy i = d.iteratorAt i := by
  have hstep := h.incrementBy_iteratorAt (Nat.zero_le _) hi
  rw [Nat.cast_zero, Int.sub_zero] at hstep
  rw [h.begin_eq, hstep]

theorem Represents.increment_iteratorAt (h : d.Represents l) {i : Nat} (hi : i < l.length) :
    (d.iteratorAt i).increment = d.iteratorAt (i + 1) := by
  have hroom := h.room
  show (⟨d, d.indexNext (d.indexOf i)⟩ : Iterator α) = ⟨d, d.indexOf (i + 1)⟩
  rw [h.indexNext_indexOf (by omega)]

theorem Represents.decrement_iteratorAt (h : d.Represents l) {i : Nat} (hi : i < l.length) :
    (d.iteratorAt (i + 1)).decrement = d.iteratorAt i := by
  have hroom := h.room
  show (⟨d, d.indexPrev (d.indexOf (i + 1))⟩ : Iterator α) = ⟨d, d.indexOf i⟩
  rw [indexPrev_indexOf (by omega) (by omega), Nat.add_sub_cancel]

theorem Represents.agrees (h : d.Represents l) : d.Agrees l where
  elements := h.elements_eq
  begin_eq_end_iff := h.begin_eq_end_iff
  size := h.size_eq
  front := h.front_eq
  back := h.back_eq
  atPos i hi := h.atPos_eq hi
  end_eq := by rw [h.end_eq_iteratorAt, h.begin_incrementBy (Nat.le_refl _)]
  deref i hi := by
    rw [h.begin_incrementBy hi.le]
    exact h.cell_indexOf hi
  increment i hi := by
    rw [h.begin_incrementBy hi.le, h.increment_iteratorAt hi]
    exact (h.begin_incrementBy (i := i + 1) hi).symm
  decrement i hi := by
    have hnext := h.begin_incrementBy (i := i + 1) hi
    rw [Nat.cast_add, Nat.cast_one] at hnext
    rw [hnext, h.decrement_iteratorAt hi, h.begin_incrementBy hi.le]
  incrementBy i j hi hj := by
    rw [h.begin_incrementBy hi, h.begin_incrementBy hj, h.incrementBy_iteratorAt hi hj]
  difference i j hi hj := by
    rw [h.begin_incrementBy hi, h.begin_incrementBy hj, h.difference_eq hi hj]
  lt i j hi hj := by
    rw [h.begin_incrementBy hi, h.begin_incrementBy hj]
    unfold Iterator.lt
    rw [h.externalPosition_eq hi, h.externalPosition_eq hj]
  eq i j hi hj := by
    rw [h.begin_incrementBy hi, h.begin_incrementBy hj, h.eq_iff hi hj]

/-! ## Runs -/

/-- The run from empty deques ends with every deque in agreement with its list, unless the
allocator refuses. -/
def RefinesLists (traits : DequeTraits) (ops : List (Nat × Call α)) : Prop :=
  PartialRun.exec (step traits) (fun _ => {}) ops = .error .badAlloc ∨
    ∃ deques, PartialRun.exec (step traits) (fun _ => {}) ops = .ok deques ∧
      ∀ name, (deques name).Agrees (ops.foldl stepLists (fun _ => []) name)

/-- A run refines the lists exactly when it never asks a deque with elements for a capacity
of `2^64 - 1`. -/
theorem refinesLists_iff (traits : DequeTraits) (ops : List (Nat × Call α))
    (hpermitted : PartialRun.Along (step traits) Permitted (fun _ => {}) ops) :
    RefinesLists traits ops ↔ PartialRun.Along (step traits) SpareCellFits (fun _ => {}) ops := by
  have hstart : ∀ name : Nat, ((fun _ => {}) name : QuicheCircularDeque α).Represents
      ((fun _ => []) name : List α) := fun _ => represents_nil
  constructor
  · intro hrefines
    by_contra hfits
    have hfault := exec_overflow hstart hpermitted hfits
    rcases hrefines with hbad | ⟨deques, hok, _⟩
    · rw [hfault] at hbad
      cases hbad
    · rw [hfault] at hok
      cases hok
  · intro hfits
    rcases exec_represents hstart hpermitted hfits with hbad | ⟨deques, hok, hrep⟩
    · exact .inl hbad
    · exact .inr ⟨deques, hok, fun name => (hrep name).agrees⟩

/-- The default growth and an allocator of one page. -/
def pageTraits : DequeTraits where
  grants n := decide (n ≤ 4096)
  grants_zero := rfl
  addressable := by
    intro n hn
    have := of_decide_eq_true hn
    omega
  increment_lt := by decide

def wrappedCalls : List (Nat × Call Nat) :=
  [(0, .emplaceBack 1), (0, .emplaceBack 2), (0, .popFront), (0, .emplaceBack 3),
   (0, .emplaceBack 4), (0, .emplaceFront 5), (1, .assign 0), (0, .popBackN 2), (1, .popFrontN 1),
   (1, .resize 6 7), (0, .reserve 9), (1, .popBack)]

theorem refinesLists_of_wrappedCalls : RefinesLists pageTraits wrappedCalls :=
  (refinesLists_iff pageTraits wrappedCalls (by decide +kernel)).mpr (by decide +kernel)

/-- One element, then room for `2^64 - 1`: the number of cells wraps to zero. -/
def greedyCalls : List (Nat × Call Nat) :=
  [(0, .emplaceBack 7), (0, .reserve 18446744073709551615)]

theorem greedyCalls_not_refinesLists :
    PartialRun.Along (step pageTraits) Permitted (fun _ => {}) greedyCalls ∧
      ¬ RefinesLists pageTraits greedyCalls := by
  have hfault : PartialRun.exec (step pageTraits) (fun _ => {}) greedyCalls =
      .error .outOfBounds := rfl
  refine ⟨by decide +kernel, ?_⟩
  rintro (hbad | ⟨deques, hok, _⟩)
  · rw [hfault] at hbad
    cases hbad
  · rw [hfault] at hok
    cases hok

end QuicheCircularDeque

end BbrChrome
