import BbrChrome.Quic.Units

/-!
# Windowed filter

Tracks the best, second best and third best sample of a window. `compare` is the
filter's order: `new` is at least as good as `old` if `compare new old`.
-/

namespace BbrChrome

structure FilterSample (α : Type) where
  sample : α
  time : Nat
deriving DecidableEq, Repr

structure WindowedFilter (α : Type) where
  windowLength : Nat
  zeroValue : α
  best : FilterSample α
  second : FilterSample α
  third : FilterSample α
deriving DecidableEq, Repr

def maxFilter {α : Type} [LE α] [DecidableLE α] (lhs rhs : α) : Bool := rhs ≤ lhs

def minFilter {α : Type} [LE α] [DecidableLE α] (lhs rhs : α) : Bool := lhs ≤ rhs

namespace WindowedFilter

variable {α : Type}

def create (windowLength : Nat) (zeroValue : α) (zeroTime : Nat) : WindowedFilter α :=
  { windowLength, zeroValue
    best := ⟨zeroValue, zeroTime⟩, second := ⟨zeroValue, zeroTime⟩, third := ⟨zeroValue, zeroTime⟩ }

def reset (filter : WindowedFilter α) (newSample : α) (newTime : Nat) : WindowedFilter α :=
  { filter with
    best := ⟨newSample, newTime⟩, second := ⟨newSample, newTime⟩, third := ⟨newSample, newTime⟩ }

def setWindowLength (filter : WindowedFilter α) (windowLength : Nat) : WindowedFilter α :=
  { filter with windowLength }

def getBest (filter : WindowedFilter α) : α := filter.best.sample

/-- `new_time - estimate.time > length`, in `uint64_t`. -/
def olderThan (estimate : FilterSample α) (newTime length : Nat) : Bool :=
  length < subUint64 newTime estimate.time

/-- The new sample replaces the estimates it beats. -/
def insert (compare : α → α → Bool) (filter : WindowedFilter α) (new : FilterSample α) :
    WindowedFilter α :=
  if compare new.sample filter.second.sample then { filter with second := new, third := new }
  else if compare new.sample filter.third.sample then { filter with third := new }
  else filter

/-- The best estimate left the window: the others move up, twice if need be. -/
def promote (filter : WindowedFilter α) (new : FilterSample α) : WindowedFilter α :=
  let once := { filter with best := filter.second, second := filter.third, third := new }
  if olderThan once.best new.time filter.windowLength then
    { once with best := once.second, second := once.third }
  else once

def update [DecidableEq α] (compare : α → α → Bool) (filter : WindowedFilter α) (newSample : α)
    (newTime : Nat) : WindowedFilter α :=
  if filter.best.sample = filter.zeroValue ∨ compare newSample filter.best.sample ∨
      olderThan filter.third newTime filter.windowLength then
    filter.reset newSample newTime
  else
    let new : FilterSample α := ⟨newSample, newTime⟩
    let filter := filter.insert compare new
    if olderThan filter.best newTime filter.windowLength then filter.promote new
    else if filter.second.sample = filter.best.sample ∧ olderThan filter.second newTime 0 then
      { filter with second := new, third := new }
    else if filter.third.sample = filter.second.sample ∧ olderThan filter.third newTime 1 then
      { filter with third := new }
    else filter

end WindowedFilter

end BbrChrome
