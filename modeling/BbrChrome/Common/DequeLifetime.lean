import BbrChrome.Common.DequeCapacity
import BbrChrome.Common.DequeRefinement

/-!
# Lives of circular deques

Named deques with their allocators: constructors, copies, moves and swaps from one to another,
and the operations on one of them. Every deque that a run reaches represents a list. A resize of
it therefore ends with the size asked for unless it empties a deque without cells, as every deque
is before its first allocation and after it was moved from.
-/

namespace BbrChrome

/-- What the type of an allocator says about copies, moves and swaps. -/
structure AllocatorTraits (A : Type) where
  selectOnContainerCopyConstruction : A → A := id
  propagateOnContainerCopyAssignment : Bool := false
  propagateOnContainerMoveAssignment : Bool := true
  propagateOnContainerSwap : Bool := false

structure AllocatedDeque (A α : Type) where
  allocator : A
  deque : QuicheCircularDeque α := {}
deriving DecidableEq, Repr

namespace QuicheCircularDeque

variable {α : Type} (traits : DequeTraits) (d : QuicheCircularDeque α)

def assignCount (count : Nat) (value : α) : Except DequeFault (QuicheCircularDeque α) :=
  match d.clear.reserve traits count with
  | .ok d => emplaceAll traits (List.replicate count (some value)) d
  | .error fault => .error fault

/-- The distance is known beforehand between random access iterators only. -/
def assignRange (values : List α) (randomAccess : Bool) :
    Except DequeFault (QuicheCircularDeque α) :=
  match (if randomAccess then d.clear.reserve traits (toUint64 values.length) else .ok d.clear) with
  | .ok d => emplaceAll traits (values.map some) d
  | .error fault => .error fault

/-! ## Represented deques -/

def IsRepresented (d : QuicheCircularDeque α) : Prop := ∃ l, d.Represents l

/-- A deque that the operation ends with represents a list. -/
def EndsRepresented (r : Except DequeFault (QuicheCircularDeque α)) : Prop :=
  ∀ d, r = .ok d → d.IsRepresented

section EndsRepresented

variable {traits : DequeTraits} {d : QuicheCircularDeque α} {l : List α} {v : α} {n : Nat}
  {r : Except DequeFault (QuicheCircularDeque α)}

theorem isRepresented_empty : IsRepresented ({} : QuicheCircularDeque α) := ⟨[], represents_nil⟩

theorem IsRepresented.ends (h : d.IsRepresented) : EndsRepresented (.ok d) := by
  intro d' hok
  cases hok
  exact h

theorem EndsRepresented.of_error {fault : DequeFault} :
    EndsRepresented (.error fault : Except DequeFault (QuicheCircularDeque α)) := by
  intro d hok
  cases hok

theorem Yields.endsRepresented (h : Yields l r) : EndsRepresented r := by
  intro d hok
  rw [hok] at h
  exact ⟨l, h⟩

theorem Represents.reserve_ends (h : d.Represents l) (hn : n < 2 ^ 64) :
    EndsRepresented (d.reserve traits n) := by
  by_cases hfits : n = maxUint64 → l = []
  · exact (h.reserve_yields traits hn hfits).endsRepresented
  · obtain ⟨rfl, hl⟩ := Classical.not_imp.mp hfits
    rw [h.reserve_max traits hl]
    exact EndsRepresented.of_error

theorem Represents.resize_ends (h : d.Represents l) (hn : n < 2 ^ 64) :
    EndsRepresented (d.resize traits n v) := by
  by_cases hfits : d.ResizeFits n
  · exact (h.resize_of_fits traits hn hfits).endsRepresented
  · rcases h.resize_of_not_fits traits (v := v) hfits with ⟨_, _, hfault⟩ | ⟨_, hfault⟩
    · rw [hfault]
      exact EndsRepresented.of_error
    · rw [hfault]
      exact EndsRepresented.of_error

theorem Represents.assignCount_ends (h : d.Represents l) (hn : n < 2 ^ 64) :
    EndsRepresented (d.assignCount traits n v) := by
  have hreserve := h.clear_represents.reserve_yields traits hn (fun _ => rfl)
  unfold assignCount
  cases hres : d.clear.reserve traits n with
  | error fault => exact EndsRepresented.of_error
  | ok d' =>
      rw [hres] at hreserve
      have hall := @Represents.emplaceAll_yields _ traits _ _ hreserve (List.replicate n v)
      rw [List.map_replicate] at hall
      exact hall.endsRepresented

theorem Represents.assignRange_ends (h : d.Represents l) (values : List α) (randomAccess : Bool) :
    EndsRepresented (d.assignRange traits values randomAccess) := by
  have hstart : Yields [] (if randomAccess then d.clear.reserve traits (toUint64 values.length)
      else .ok d.clear) := by
    cases randomAccess with
    | false => exact h.clear_represents
    | true =>
        apply h.clear_represents.reserve_yields traits _ (fun _ => rfl)
        unfold toUint64
        omega
  unfold assignRange
  split
  · next d' hok =>
      rw [hok] at hstart
      exact (Represents.emplaceAll_yields hstart values).endsRepresented
  · exact EndsRepresented.of_error

end EndsRepresented

end QuicheCircularDeque

namespace AllocatedDeque

open QuicheCircularDeque

variable {A α : Type} (traits : DequeTraits) (allocatorTraits : AllocatorTraits A)

/-! ## Two deques -/

/-- The old cells go with an allocator that is replaced. -/
def copyAssign [DecidableEq A] (d other : AllocatedDeque A α) :
    Except DequeFault (AllocatedDeque A α) :=
  let d :=
    if allocatorTraits.propagateOnContainerCopyAssignment ∧ d.allocator ≠ other.allocator then
      ⟨other.allocator, {}⟩
    else d
  match d.deque.assign traits other.deque with
  | .ok deque => .ok { d with deque }
  | .error fault => .error fault

/-- The cells of the other deque, or its elements one by one where the allocators differ. Returns
what is left of the other deque as well. -/
def moveRetainAllocator [DecidableEq A] (d other : AllocatedDeque A α) :
    Except DequeFault (AllocatedDeque A α × AllocatedDeque A α) :=
  if d.allocator = other.allocator then
    .ok ({ d with deque := other.deque }, { other with deque := {} })
  else
    match emplaceAll traits other.deque.elements d.deque.clear with
    | .ok deque => .ok ({ d with deque }, { other with deque := other.deque.clear })
    | .error fault => .error fault

def moveAssign [DecidableEq A] (d other : AllocatedDeque A α) :
    Except DequeFault (AllocatedDeque A α × AllocatedDeque A α) :=
  if allocatorTraits.propagateOnContainerMoveAssignment then
    .ok (other, { other with deque := {} })
  else moveRetainAllocator traits d other

def swap (d other : AllocatedDeque A α) : AllocatedDeque A α × AllocatedDeque A α :=
  if allocatorTraits.propagateOnContainerSwap then (other, d)
  else ({ d with deque := other.deque }, { other with deque := d.deque })

/-! ## Calls -/

inductive Constructor (A α : Type)
  | empty (allocator : A)
  /-- The elements are `T()` where no value is given. -/
  | count (count : UInt64) (value : α) (allocator : A)
  /-- An initializer list is a range with random access. -/
  | range (values : List α) (randomAccess : Bool) (allocator : A)
  /-- With the allocator given, or the one that the other deque's selects. -/
  | copy (source : Nat) (allocator : Option A)
  | move (source : Nat) (allocator : Option A)
deriving DecidableEq, Repr

inductive Operation (A α : Type)
  /-- The name denotes a new deque from here on. -/
  | construct (constructor : Constructor A α)
  | copyAssign (source : Nat)
  | moveAssign (source : Nat)
  | assignCount (count : UInt64) (value : α)
  | assignRange (values : List α) (randomAccess : Bool)
  | reserve (newCap : UInt64)
  | clear
  /-- The new elements are `T()` where no value is given. -/
  | resize (count : UInt64) (value : α)
  | emplaceFront (value : α)
  | emplaceBack (value : α)
  | popFront
  | popFrontN (count : UInt64)
  | popBack
  | popBackN (count : UInt64)
  | swap (other : Nat)
deriving DecidableEq, Repr

def store (deques : Nat → AllocatedDeque A α) (name : Nat) (allocator : A) :
    Except DequeFault (QuicheCircularDeque α) → Except DequeFault (Nat → AllocatedDeque A α)
  | .ok deque => .ok (Function.update deques name ⟨allocator, deque⟩)
  | .error fault => .error fault

def storeBoth (deques : Nat → AllocatedDeque A α) (name source : Nat) :
    Except DequeFault (AllocatedDeque A α × AllocatedDeque A α) →
      Except DequeFault (Nat → AllocatedDeque A α)
  | .ok (d, other) => .ok (Function.update (Function.update deques source other) name d)
  | .error fault => .error fault

section Calls

variable [DecidableEq A] (deques : Nat → AllocatedDeque A α) (name : Nat)

def construct : Constructor A α → Except DequeFault (Nat → AllocatedDeque A α)
  | .empty allocator => store deques name allocator (.ok {})
  | .count count value allocator =>
      store deques name allocator (QuicheCircularDeque.resize traits {} count.toNat value)
  | .range values randomAccess allocator =>
      store deques name allocator (assignRange traits {} values randomAccess)
  | .copy source none =>
      store deques name
        (allocatorTraits.selectOnContainerCopyConstruction (deques source).allocator)
        (QuicheCircularDeque.assign traits {} (deques source).deque)
  | .copy source (some allocator) =>
      store deques name allocator (QuicheCircularDeque.assign traits {} (deques source).deque)
  | .move source none =>
      storeBoth deques name source
        (.ok (deques source, { deques source with deque := {} }))
  | .move source (some allocator) =>
      storeBoth deques name source (moveRetainAllocator traits { allocator } (deques source))

/-- An operation on the named deque; a pop without an element destroys raw storage. -/
def step (op : Nat × Operation A α) : Except DequeFault (Nat → AllocatedDeque A α) :=
  let d := deques op.1
  let store := store deques op.1 d.allocator
  match op.2 with
  | .construct constructor => construct traits allocatorTraits deques op.1 constructor
  | .copyAssign source =>
      if source = op.1 then .ok deques
      else
        match copyAssign traits allocatorTraits d (deques source) with
        | .ok d => .ok (Function.update deques op.1 d)
        | .error fault => .error fault
  | .moveAssign source =>
      if source = op.1 then .ok deques
      else storeBoth deques op.1 source (moveAssign traits allocatorTraits d (deques source))
  | .assignCount count value => store (d.deque.assignCount traits count.toNat value)
  | .assignRange values randomAccess => store (d.deque.assignRange traits values randomAccess)
  | .reserve newCap => store (d.deque.reserve traits newCap.toNat)
  | .clear => store (.ok d.deque.clear)
  | .resize count value => store (d.deque.resize traits count.toNat value)
  | .emplaceFront value => store (d.deque.emplaceFront traits value)
  | .emplaceBack value => store (d.deque.emplaceBack traits value)
  | .popFront => store (if d.deque.empty then .error .outOfBounds else .ok d.deque.popFront)
  | .popFrontN count => store ((d.deque.tryPopFrontN count.toNat).map Prod.fst)
  | .popBack => store (if d.deque.empty then .error .outOfBounds else .ok d.deque.popBack)
  | .popBackN count => store ((d.deque.tryPopBackN count.toNat).map Prod.fst)
  | .swap other => storeBoth deques op.1 other (.ok (swap allocatorTraits d (deques other)))

end Calls

/-! ## Runs -/

section Runs

variable {traits : DequeTraits} {allocatorTraits : AllocatorTraits A}
  {deques deques' : Nat → AllocatedDeque A α} {d other : AllocatedDeque A α} {name : Nat}

def AllRepresented (deques : Nat → AllocatedDeque A α) : Prop :=
  ∀ name, (deques name).deque.IsRepresented

theorem AllRepresented.update (h : AllRepresented deques) (hd : d.deque.IsRepresented)
    (name : Nat) : AllRepresented (Function.update deques name d) := by
  intro name'
  by_cases heq : name' = name
  · rw [heq, Function.update_self]
    exact hd
  · rw [Function.update_of_ne heq]
    exact h name'

theorem AllRepresented.store (h : AllRepresented deques) {allocator : A}
    {r : Except DequeFault (QuicheCircularDeque α)} (hr : EndsRepresented r)
    (hok : store deques name allocator r = .ok deques') : AllRepresented deques' := by
  cases r with
  | error fault => cases hok
  | ok deque =>
      cases hok
      exact h.update (hr deque rfl) name

def BothRepresented (r : Except DequeFault (AllocatedDeque A α × AllocatedDeque A α)) : Prop :=
  ∀ d other, r = .ok (d, other) → d.deque.IsRepresented ∧ other.deque.IsRepresented

theorem BothRepresented.of_pair (hd : d.deque.IsRepresented) (hother : other.deque.IsRepresented) :
    BothRepresented (.ok (d, other)) := by
  intro d' other' hok
  cases hok
  exact ⟨hd, hother⟩

theorem AllRepresented.storeBoth (h : AllRepresented deques) {source : Nat}
    {r : Except DequeFault (AllocatedDeque A α × AllocatedDeque A α)} (hr : BothRepresented r)
    (hok : storeBoth deques name source r = .ok deques') : AllRepresented deques' := by
  cases r with
  | error fault => cases hok
  | ok pair =>
      obtain ⟨d, other⟩ := pair
      obtain ⟨hd, hother⟩ := hr d other rfl
      cases hok
      exact (h.update hother source).update hd name

theorem swap_both (hd : d.deque.IsRepresented) (hother : other.deque.IsRepresented) :
    BothRepresented (.ok (swap allocatorTraits d other)) := by
  unfold swap
  split
  · exact BothRepresented.of_pair hother hd
  · exact BothRepresented.of_pair hother hd

theorem assign_ends {d other : QuicheCircularDeque α} (hd : d.IsRepresented)
    (hother : other.IsRepresented) : EndsRepresented (d.assign traits other) := by
  obtain ⟨l, hl⟩ := hd
  obtain ⟨values, hvalues⟩ := hother
  exact (hl.assign_yields traits hvalues).endsRepresented

theorem pop_ends {d : QuicheCircularDeque α} {popped : QuicheCircularDeque α}
    (hpop : d.empty = false → popped.IsRepresented) :
    EndsRepresented (if d.empty then .error .outOfBounds else .ok popped) := by
  cases hempty : d.empty with
  | true => exact EndsRepresented.of_error
  | false => exact (hpop hempty).ends

variable [DecidableEq A]

theorem moveRetainAllocator_both (hd : d.deque.IsRepresented) (hother : other.deque.IsRepresented) :
    BothRepresented (moveRetainAllocator traits d other) := by
  unfold moveRetainAllocator
  split
  · exact BothRepresented.of_pair hother isRepresented_empty
  · obtain ⟨l, hl⟩ := hd
    obtain ⟨values, hvalues⟩ := hother
    have hall := @Represents.emplaceAll_yields _ traits _ _ hl.clear_represents values
    rw [hvalues.elements_eq]
    cases hres : emplaceAll traits (values.map some) d.deque.clear with
    | error fault =>
        intro d' other' hok
        cases hok
    | ok deque =>
        rw [hres] at hall
        exact BothRepresented.of_pair ⟨_, hall⟩ ⟨_, hvalues.clear_represents⟩

theorem moveAssign_both (hd : d.deque.IsRepresented) (hother : other.deque.IsRepresented) :
    BothRepresented (moveAssign traits allocatorTraits d other) := by
  unfold moveAssign
  split
  · exact BothRepresented.of_pair hother isRepresented_empty
  · exact moveRetainAllocator_both hd hother

theorem copyAssign_represented (hd : d.deque.IsRepresented) (hother : other.deque.IsRepresented)
    {d' : AllocatedDeque A α} (hok : copyAssign traits allocatorTraits d other = .ok d') :
    d'.deque.IsRepresented := by
  unfold copyAssign at hok
  simp only at hok
  have hstart : (if allocatorTraits.propagateOnContainerCopyAssignment ∧
      d.allocator ≠ other.allocator then (⟨other.allocator, {}⟩ : AllocatedDeque A α)
      else d).deque.IsRepresented := by
    split
    · exact isRepresented_empty
    · exact hd
  split at hok
  · next deque hassign =>
      cases hok
      exact assign_ends hstart hother deque hassign
  · cases hok

theorem construct_represented (h : AllRepresented deques) {constructor : Constructor A α}
    (hok : construct traits allocatorTraits deques name constructor = .ok deques') :
    AllRepresented deques' := by
  have hempty := @represents_nil α
  cases constructor with
  | empty allocator => exact h.store isRepresented_empty.ends hok
  | count count value allocator => exact h.store (hempty.resize_ends count.toNat_lt) hok
  | range values randomAccess allocator =>
      exact h.store (hempty.assignRange_ends values randomAccess) hok
  | copy source allocator =>
      have hassign := @assign_ends _ traits _ _ isRepresented_empty (h source)
      cases allocator with
      | none => exact h.store hassign hok
      | some allocator => exact h.store hassign hok
  | move source allocator =>
      cases allocator with
      | none => exact h.storeBoth (BothRepresented.of_pair (h source) isRepresented_empty) hok
      | some allocator =>
          exact h.storeBoth (moveRetainAllocator_both isRepresented_empty (h source)) hok

theorem step_represented (h : AllRepresented deques) {op : Nat × Operation A α}
    (hok : step traits allocatorTraits deques op = .ok deques') : AllRepresented deques' := by
  obtain ⟨name, operation⟩ := op
  obtain ⟨l, hl⟩ := h name
  unfold step at hok
  cases operation with
  | construct constructor => exact construct_represented h hok
  | copyAssign source =>
      simp only at hok
      split at hok
      · cases hok
        exact h
      · split at hok
        · next d hcopy =>
            cases hok
            exact h.update (copyAssign_represented (h name) (h source) hcopy) name
        · cases hok
  | moveAssign source =>
      simp only at hok
      split at hok
      · cases hok
        exact h
      · exact h.storeBoth (moveAssign_both (h name) (h source)) hok
  | assignCount count value => exact h.store (hl.assignCount_ends count.toNat_lt) hok
  | assignRange values randomAccess => exact h.store (hl.assignRange_ends values randomAccess) hok
  | reserve newCap => exact h.store (hl.reserve_ends newCap.toNat_lt) hok
  | clear => exact h.store (IsRepresented.ends ⟨_, hl.clear_represents⟩) hok
  | resize count value => exact h.store (hl.resize_ends count.toNat_lt) hok
  | emplaceFront value => exact h.store (hl.emplaceFront_yields traits).endsRepresented hok
  | emplaceBack value => exact h.store (hl.emplaceBack_yields traits).endsRepresented hok
  | popFront =>
      refine h.store (pop_ends fun hempty => ?_) hok
      exact ⟨_, hl.popFront_represents (hl.ne_nil_of_nonempty hempty)⟩
  | popFrontN count =>
      simp only [hl.tryPopFrontN_eq] at hok
      exact h.store (IsRepresented.ends ⟨_, hl.popFrontN_represents.1⟩) hok
  | popBack =>
      refine h.store (pop_ends fun hempty => ?_) hok
      exact ⟨_, hl.popBack_represents (hl.ne_nil_of_nonempty hempty)⟩
  | popBackN count =>
      simp only [hl.tryPopBackN_eq] at hok
      exact h.store (IsRepresented.ends ⟨_, hl.popBackN_represents.1⟩) hok
  | swap other => exact h.storeBoth (swap_both (h name) (h other)) hok

/-- Every deque that a run from default constructed deques reaches represents a list. -/
theorem exec_represented {ops : List (Nat × Operation A α)} {allocators : Nat → A}
    (hrun : PartialRun.exec (step traits allocatorTraits) (fun name => ⟨allocators name, {}⟩) ops =
      .ok deques) : AllRepresented deques :=
  PartialRun.invariant (fun _ _ _ h hstep => step_represented h hstep)
    (fun _ => isRepresented_empty) hrun

/-- The deques that a run reaches: the bulk pops are total, a resize divides by zero exactly when
it empties a deque without cells, and it ends with the size asked for exactly when it neither does
so nor asks a deque with elements for `2^64 - 1` of them. -/
theorem capacityArithmetic_iff (traits : DequeTraits) (allocatorTraits : AllocatorTraits A)
    (allocators : Nat → A) (ops : List (Nat × Operation A α))
    (hrun : PartialRun.exec (step traits allocatorTraits) (fun name => ⟨allocators name, {}⟩) ops =
      .ok deques) (name : Nat) (count : UInt64) (value : α) :
    ((deques name).deque.CapacityArithmeticTotal traits count.toNat value ↔
      (deques name).deque.ResizeFits count.toNat) ∧
    (deques name).deque.PopsTotal count.toNat ∧
    ((deques name).deque.resize traits count.toNat value = .error .divisionByZero ↔
      (deques name).deque.dataCapacity = 0 ∧ count.toNat = 0) := by
  obtain ⟨l, hl⟩ := exec_represented hrun name
  refine ⟨?_, hl.popsTotal, ?_⟩
  · exact hl.capacityArithmeticTotal_iff traits count.toNat_lt
  · exact hl.resize_divides_iff traits count.toNat_lt

end Runs

def movedCalls : List (Nat × Operation Nat Nat) :=
  [(0, .construct (.count 3 7 0)), (1, .construct (.move 0 none)), (1, .emplaceFront 5),
   (0, .copyAssign 1), (2, .construct (.move 1 (some 8))), (2, .popFrontN 2), (0, .swap 2),
   (2, .assignRange [1, 2] true), (1, .moveAssign 2), (1, .resize 1 9)]

theorem capacityArithmetic_of_movedCalls :
    ∃ deques, PartialRun.exec (step pageTraits {}) (fun _ => ⟨0, {}⟩) movedCalls = .ok deques ∧
      (deques 1).deque.CapacityArithmeticTotal pageTraits (0 : UInt64).toNat 9 := by
  obtain ⟨deques, hrun, hfits⟩ := PartialRun.exists_of_endsIn
    (r := PartialRun.exec (step pageTraits {}) (fun _ => ⟨0, {}⟩) movedCalls)
    (p := fun deques => decide ((deques 1).deque.ResizeFits 0)) (by decide +kernel)
  have hiff := capacityArithmetic_iff pageTraits {} (fun _ => 0) movedCalls hrun 1 0 9
  exact ⟨deques, hrun, hiff.1.mpr (of_decide_eq_true hfits)⟩

/-- A default constructed deque that is resized to no element, by its owner or by the constructor
that takes a count. -/
theorem resize_to_zero_divides :
    PartialRun.exec (step pageTraits {}) (fun _ => ⟨(), {}⟩)
      [(0, .construct (.count 0 7 ()))] = .error .divisionByZero ∧
    ¬ ∀ (ops : List (Nat × Operation Unit Nat)) (deques : Nat → AllocatedDeque Unit Nat),
      PartialRun.exec (step pageTraits {}) (fun _ => ⟨(), {}⟩) ops = .ok deques →
      ∀ (name : Nat) (count : UInt64) (value : Nat),
        (deques name).deque.CapacityArithmeticTotal pageTraits count.toNat value := by
  refine ⟨rfl, fun hclaim => ?_⟩
  have htotal := (hclaim [] (fun _ => ⟨(), {}⟩) rfl 0 0 7).resize
  cases htotal

end AllocatedDeque

end BbrChrome
