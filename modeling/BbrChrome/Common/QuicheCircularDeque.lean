import BbrChrome.Quic.Units

/-!
# Circular deque

A flat buffer of cells with one spare cell, the index of the first element and the index behind
the last one. A cell without an element is raw storage. Indices and sizes are `size_t`.
-/

namespace BbrChrome

/-- The conversion of an unsigned difference to `ptrdiff_t`. -/
def toInt64 (n : Nat) : Int := if n < 2 ^ 63 then n else (n : Int) - 2 ^ 64

/-- The template arguments: the least growth and an allocator, which grants some numbers of cells.
An allocation without cells succeeds, and none fills a third of the address space. -/
structure DequeTraits where
  minCapacityIncrement : Nat := 3
  grants : Nat → Bool
  grants_zero : grants 0 = true
  addressable : ∀ n, grants n = true → 3 * n < 2 ^ 64
  increment_lt : minCapacityIncrement < 2 ^ 62

inductive DequeFault
  | badAlloc
  /-- An access behind the buffer or to raw storage. -/
  | outOfBounds
  | divisionByZero
deriving DecidableEq, Repr

/-- The number of cells is `data_capacity`. -/
structure QuicheCircularDeque (α : Type) where
  beginIndex : Nat := 0
  endIndex : Nat := 0
  data : List (Option α) := []
deriving DecidableEq, Repr

namespace QuicheCircularDeque

variable {α : Type} (traits : DequeTraits) (d : QuicheCircularDeque α)

/-! ## Indices -/

def dataCapacity : Nat := d.data.length

def indexPrev (index : Nat) : Nat :=
  if index = 0 then subUint64 d.dataCapacity 1 else index - 1

def indexNext (index : Nat) : Nat :=
  if index = subUint64 d.dataCapacity 1 then 0 else addUint64 index 1

/-- The signed step is converted before it is added. -/
def indexIncrementBy (index : Nat) (delta : Int) : Nat :=
  if delta = 0 then index
  else addUint64 (addUint64 index d.dataCapacity) (toUint64 delta) % d.dataCapacity

/-! ## Element access -/

def cell (index : Nat) : Option α := (d.data[index]?).join

def atPos (pos : Nat) : Option α :=
  let index := addUint64 d.beginIndex pos
  if index < d.dataCapacity then d.cell index else d.cell (subUint64 index d.dataCapacity)

def front : Option α := d.cell d.beginIndex

def back : Option α :=
  d.cell (if d.endIndex = 0 then subUint64 d.dataCapacity 1 else d.endIndex - 1)

def capacity : Nat := if d.dataCapacity = 0 then 0 else d.dataCapacity - 1

def empty : Bool := d.beginIndex == d.endIndex

def size : Nat :=
  if d.beginIndex ≤ d.endIndex then d.endIndex - d.beginIndex
  else subUint64 (addUint64 d.dataCapacity d.endIndex) d.beginIndex

/-! ## Iterators -/

structure Iterator (α : Type) where
  deque : QuicheCircularDeque α
  index : Nat

namespace Iterator

variable (it : Iterator α)

def deref : Option α := it.deque.cell it.index

def increment : Iterator α := { it with index := it.deque.indexNext it.index }

def decrement : Iterator α := { it with index := it.deque.indexPrev it.index }

def incrementBy (delta : Int) : Iterator α :=
  { it with index := it.deque.indexIncrementBy it.index delta }

def externalPosition : Nat :=
  if it.deque.beginIndex ≤ it.index then it.index - it.deque.beginIndex
  else subUint64 (addUint64 it.index it.deque.dataCapacity) it.deque.beginIndex

def difference (lhs rhs : Iterator α) : Int :=
  toInt64 (subUint64 lhs.externalPosition rhs.externalPosition)

def eq (lhs rhs : Iterator α) : Bool := lhs.index == rhs.index

def lt (lhs rhs : Iterator α) : Bool := decide (lhs.externalPosition < rhs.externalPosition)

end Iterator

def begin : Iterator α := ⟨d, d.beginIndex⟩

def «end» : Iterator α := ⟨d, d.endIndex⟩

/-- The cells from `index` to `last`, around the end of the buffer, at most `fuel` of them. -/
def cellsTo (last : Nat) : Nat → Nat → List (Option α)
  | 0, _ => []
  | fuel + 1, index =>
      if index = last then [] else d.cell index :: cellsTo last fuel (d.indexNext index)

/-- What a pass over the iterators from the first to the last reads. -/
def elements : List (Option α) := d.cellsTo d.endIndex d.dataCapacity d.beginIndex

/-! ## Construction and destruction -/

def construct (data : List (Option α)) (index : Nat) (value : α) :
    Except DequeFault (List (Option α)) :=
  if index < data.length then .ok (data.set index (some value)) else .error .outOfBounds

def destroyUnwrappedRange (data : List (Option α)) (first : Nat) : Nat → List (Option α)
  | 0 => data
  | count + 1 => destroyUnwrappedRange (data.set first none) (first + 1) count

def destroyRange (data : List (Option α)) (first last : Nat) : List (Option α) :=
  if first ≤ last then destroyUnwrappedRange data first (last - first)
  else
    destroyUnwrappedRange (destroyUnwrappedRange data first (data.length - first)) 0 last

/-! ## Capacity -/

/-- Move `count` elements from `first` on to the cells of `dest` from `index` on. -/
def relocateUnwrappedRange (data : List (Option α)) :
    Nat → Nat → Nat → List (Option α) → Except DequeFault (List (Option α))
  | 0, _, _, dest => .ok dest
  | count + 1, first, index, dest =>
      match (data[first]?).join with
      | none => .error .outOfBounds
      | some value =>
          match construct dest index value with
          | .ok dest => relocateUnwrappedRange data count (first + 1) (index + 1) dest
          | .error fault => .error fault

/-- The elements, wrapped or not, in the first cells of a new buffer. -/
def relocateAll (dest : List (Option α)) : Except DequeFault (List (Option α)) :=
  if d.beginIndex < d.endIndex then
    relocateUnwrappedRange d.data (d.endIndex - d.beginIndex) d.beginIndex 0 dest
  else if d.endIndex < d.beginIndex then
    let numElementsBeforeWrap := d.dataCapacity - d.beginIndex
    match relocateUnwrappedRange d.data numElementsBeforeWrap d.beginIndex 0 dest with
    | .ok dest => relocateUnwrappedRange d.data d.endIndex 0 numElementsBeforeWrap dest
    | .error fault => .error fault
  else .ok dest

def relocate (newCapacity : Nat) : Except DequeFault (QuicheCircularDeque α) :=
  let newDataCapacity := addUint64 newCapacity 1
  if traits.grants newDataCapacity then
    match d.relocateAll (List.replicate newDataCapacity none) with
    | .ok newData => .ok ⟨0, d.size, newData⟩
    | .error fault => .error fault
  else .error .badAlloc

def maybeExpandCapacity (numAdditionalElements : Nat) :
    Except DequeFault (QuicheCircularDeque α) :=
  let newSize := addUint64 d.size numAdditionalElements
  if newSize ≤ d.capacity then .ok d
  else
    let minAdditionalCapacity := max traits.minCapacityIncrement (d.capacity / 4)
    d.relocate traits (max newSize (addUint64 d.capacity minAdditionalCapacity))

def reserve (newCap : Nat) : Except DequeFault (QuicheCircularDeque α) :=
  if d.capacity < newCap then d.relocate traits newCap else .ok d

/-! ## Modifiers -/

def clear : QuicheCircularDeque α :=
  ⟨0, 0, destroyRange d.data d.beginIndex d.endIndex⟩

def emplaceFront (value : α) : Except DequeFault (QuicheCircularDeque α) :=
  match d.maybeExpandCapacity traits 1 with
  | .error fault => .error fault
  | .ok d =>
      let newBegin := d.indexPrev d.beginIndex
      match construct d.data newBegin value with
      | .ok data => .ok { d with beginIndex := newBegin, data }
      | .error fault => .error fault

def emplaceBack (value : α) : Except DequeFault (QuicheCircularDeque α) :=
  match d.maybeExpandCapacity traits 1 with
  | .error fault => .error fault
  | .ok d =>
      match construct d.data d.endIndex value with
      | .ok data => .ok { d with endIndex := d.indexNext d.endIndex, data }
      | .error fault => .error fault

def popFront : QuicheCircularDeque α :=
  { d with beginIndex := d.indexNext d.beginIndex, data := d.data.set d.beginIndex none }

/-- Returns the new deque and the number of elements popped. -/
def popFrontN (count : Nat) : QuicheCircularDeque α × Nat :=
  let numElementsToPop := min count d.size
  let newBegin := d.indexIncrementBy d.beginIndex (toInt64 numElementsToPop)
  ({ d with beginIndex := newBegin, data := destroyRange d.data d.beginIndex newBegin },
    numElementsToPop)

def popBack : QuicheCircularDeque α :=
  let newEnd := d.indexPrev d.endIndex
  { d with endIndex := newEnd, data := d.data.set newEnd none }

/-- The unsigned number is negated before it becomes a signed step. -/
def popBackN (count : Nat) : QuicheCircularDeque α × Nat :=
  let numElementsToPop := min count d.size
  let newEnd := d.indexIncrementBy d.endIndex (toInt64 (subUint64 0 numElementsToPop))
  ({ d with endIndex := newEnd, data := destroyRange d.data newEnd d.endIndex },
    numElementsToPop)

/-- The loop of an expanding resize; `fuel` bounds its rounds. -/
def emplaceUpTo (count : Nat) (value : α) :
    Nat → QuicheCircularDeque α → Except DequeFault (QuicheCircularDeque α)
  | 0, d => .ok d
  | fuel + 1, d =>
      if d.size < count then
        match d.emplaceBack traits value with
        | .ok d => emplaceUpTo count value fuel d
        | .error fault => .error fault
      else .ok d

def resize (count : Nat) (value : α) : Except DequeFault (QuicheCircularDeque α) :=
  if d.size < count then
    match d.maybeExpandCapacity traits (count - d.size) with
    | .ok d' => emplaceUpTo traits count value (count - d.size) d'
    | .error fault => .error fault
  else if d.dataCapacity = 0 then .error .divisionByZero
  else
    let newEnd := addUint64 d.beginIndex count % d.dataCapacity
    .ok { d with endIndex := newEnd, data := destroyRange d.data newEnd d.endIndex }

def emplaceAll : List (Option α) → QuicheCircularDeque α →
    Except DequeFault (QuicheCircularDeque α)
  | [], d => .ok d
  | none :: _, _ => .error .outOfBounds
  | some value :: values, d =>
      match d.emplaceBack traits value with
      | .ok d => emplaceAll values d
      | .error fault => .error fault

def assign (other : QuicheCircularDeque α) : Except DequeFault (QuicheCircularDeque α) :=
  match d.clear.reserve traits (toUint64 (other.end.difference other.begin)) with
  | .ok d => emplaceAll traits other.elements d
  | .error fault => .error fault

end QuicheCircularDeque

end BbrChrome
