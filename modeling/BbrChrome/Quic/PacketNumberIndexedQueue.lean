import BbrChrome.Quic.Units

/-!
# Queue indexed by packet number

A deque of entries, each present or a hole, that starts at `firstPacket`.
-/

namespace BbrChrome

structure PacketNumberIndexedQueue (α : Type) where
  entries : List (Option α) := []
  numberOfPresentEntries : Nat := 0
  firstPacket : QuicPacketNumber := .uninitialized
deriving DecidableEq, Repr

namespace PacketNumberIndexedQueue

variable {α : Type}

def isEmpty (q : PacketNumberIndexedQueue α) : Bool := q.numberOfPresentEntries == 0

def lastPacket (q : PacketNumberIndexedQueue α) : QuicPacketNumber :=
  if q.isEmpty then .uninitialized
  else match q.firstPacket with
    | .number first => .number (first + q.entries.length - 1)
    | .uninitialized => .uninitialized

def getEntry (q : PacketNumberIndexedQueue α) : QuicPacketNumber → Option α
  | .uninitialized => none
  | .number n =>
      match q.firstPacket with
      | .uninitialized => none
      | .number first => if q.isEmpty || n < first then none else q.entries[n - first]?.join

/-- Returns the new queue and whether the entry was inserted. -/
def emplace (q : PacketNumberIndexedQueue α) (packetNumber : QuicPacketNumber) (entry : α) :
    PacketNumberIndexedQueue α × Bool :=
  match packetNumber with
  | .uninitialized => (q, false)
  | .number n =>
      if q.isEmpty then
        ({ entries := q.entries ++ [some entry], numberOfPresentEntries := 1,
           firstPacket := .number n }, true)
      else
        match q.firstPacket with
        | .uninitialized => (q, false)
        | .number first =>
            if n ≤ first + q.entries.length - 1 then (q, false)
            else
              let holes := List.replicate (n - first - q.entries.length) none
              ({ q with
                  entries := q.entries ++ holes ++ [some entry]
                  numberOfPresentEntries := q.numberOfPresentEntries + 1 }, true)

/-- Pop the entries in front of packet `n`. -/
def popUpTo (n : Nat) : List (Option α) → Nat → Nat → PacketNumberIndexedQueue α
  | [], present, first => ⟨[], present, .number first⟩
  | e :: es, present, first =>
      if first < n then popUpTo n es (if e.isSome then present - 1 else present) (first + 1)
      else ⟨e :: es, present, .number first⟩

/-- Pop the holes at the front; an empty deque forgets its first number. -/
def cleanup : List (Option α) → Nat → QuicPacketNumber → PacketNumberIndexedQueue α
  | [], present, _ => ⟨[], present, .uninitialized⟩
  | none :: es, present, first => cleanup es present (first.add 1)
  | some e :: es, present, first => ⟨some e :: es, present, first⟩

/-- Returns the new queue and whether there was an entry. A hole remains in its place, and only
the removal of the front is followed by a cleanup. -/
def remove (q : PacketNumberIndexedQueue α) (packetNumber : QuicPacketNumber) :
    PacketNumberIndexedQueue α × Bool :=
  if (q.getEntry packetNumber).isNone then (q, false)
  else
    let offset := packetNumber.sub q.firstPacket.toUint64
    let entries := q.entries.set offset none
    let present := q.numberOfPresentEntries - 1
    if packetNumber = q.firstPacket then (cleanup entries present q.firstPacket, true)
    else ({ q with entries, numberOfPresentEntries := present }, true)

def removeUpTo (q : PacketNumberIndexedQueue α) (n : Nat) : PacketNumberIndexedQueue α :=
  let popped :=
    match q.firstPacket with
    | .uninitialized => q
    | .number first => popUpTo n q.entries q.numberOfPresentEntries first
  cleanup popped.entries popped.numberOfPresentEntries popped.firstPacket

end PacketNumberIndexedQueue

end BbrChrome
