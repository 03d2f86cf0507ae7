import BbrChrome.Client.Client
import BbrChrome.Packet.Packet

/-!
# The server

The receiving side of the program: it sends every datagram back as far as its string goes, and
prints once in a while how many it has received.
-/

namespace BbrChrome

/-- What `PrintReceiveRate` prints. -/
structure RateReport where
  packets : Nat
  receiveRate : Nat
deriving DecidableEq, Repr

structure Server where
  lastPrintTimestamp : Int
  packetsReceivedInOneSecond : Nat := 0
deriving DecidableEq, Repr

/-- The server after one call of `ReceiveData`, what it sent and what it printed. -/
structure ServerTurn where
  server : Server
  ack : Option (List UInt8)
  report : Option RateReport
deriving DecidableEq, Repr

namespace Server

def create (now : TimeOfDay) : Server := { lastPrintTimestamp := now.now }

def printReceiveInfoDuration : Int := 1000000

def printReceiveRate (s : Server) (check print : TimeOfDay) : Server × Option RateReport :=
  if s.lastPrintTimestamp + printReceiveInfoDuration < check.now then
    let receiveRate := s.packetsReceivedInOneSecond * defaultPacketSize * 8
    if receiveRate ≠ 0 then
      ({ lastPrintTimestamp := print.now, packetsReceivedInOneSecond := 0 },
        some { packets := s.packetsReceivedInOneSecond, receiveRate })
    else (s, none)
  else (s, none)

/-- `ReceiveData` with the datagram that the socket holds, if there is one. -/
def receiveData (s : Server) (datagram : Option (List UInt8)) (check print : TimeOfDay) :
    Except ParseError ServerTurn := do
  match datagram with
  | none =>
      let (server, report) := s.printReceiveRate check print
      return { server, ack := none, report }
  | some bytes =>
      let s := { s with packetsReceivedInOneSecond := s.packetsReceivedInOneSecond + 1 }
      let ack ← serverEcho bytes
      let (server, report) := s.printReceiveRate check print
      return { server, ack := some ack, report }

/-! ## The books of the server -/

def reported (reports : List RateReport) : Nat := (reports.map (·.packets)).sum

variable {s : Server} {check print : TimeOfDay}

theorem printReceiveRate_counts (s : Server) (check print : TimeOfDay) :
    reported (s.printReceiveRate check print).2.toList +
        (s.printReceiveRate check print).1.packetsReceivedInOneSecond =
      s.packetsReceivedInOneSecond := by
  unfold printReceiveRate
  split
  · dsimp only
    split
    · simp [reported]
    · simp [reported]
  · simp [reported]

/-- A report is made more than a second after the last one, and only of packets that came. -/
theorem printReceiveRate_report {report : RateReport}
    (h : (s.printReceiveRate check print).2 = some report) :
    s.lastPrintTimestamp + printReceiveInfoDuration < check.now ∧ 0 < report.packets ∧
      (s.printReceiveRate check print).1.lastPrintTimestamp = print.now := by
  unfold printReceiveRate at h ⊢
  split at h
  · rename_i hdue
    dsimp only at h
    split at h
    · rename_i hsome
      cases h
      refine ⟨hdue, ?_, by rw [if_pos hdue, if_pos hsome]⟩
      by_contra hnot
      have hzero : s.packetsReceivedInOneSecond = 0 := Nat.eq_zero_of_not_pos hnot
      rw [hzero] at hsome
      exact hsome (by simp)
    · cases h
  · cases h

theorem printReceiveRate_quiet (h : (s.printReceiveRate check print).2 = none) :
    (s.printReceiveRate check print).1 = s := by
  unfold printReceiveRate at h ⊢
  split
  · rename_i hdue
    rw [if_pos hdue] at h
    dsimp only at h ⊢
    split
    · rename_i hsome
      rw [if_pos hsome] at h
      cases h
    · rfl
  · rfl

end Server

end BbrChrome
