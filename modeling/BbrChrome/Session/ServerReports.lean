import BbrChrome.Session.Fates

/-!
# What the server prints

The printed counts and the counter of the server are the datagrams that it has received, and the
client has taken no more acks than these.
-/

namespace BbrChrome

/-- A line that the server printed, with the readings of its clock around it. -/
structure PrintedReport where
  check : Int
  print : Int
  report : RateReport
deriving DecidableEq, Repr

namespace Server

def Spaced (before after : PrintedReport) : Prop :=
  before.print + printReceiveInfoDuration < after.check

/-- The reports printed so far, after `received` datagrams. -/
structure Reported (s : Server) (received : Nat) (printed : List PrintedReport) : Prop where
  sum : reported (printed.map (·.report)) + s.packetsReceivedInOneSecond = received
  positive : ∀ entry ∈ printed, 0 < entry.report.packets
  spaced : printed.IsChain Spaced
  last : ∀ entry ∈ printed.getLast?, s.lastPrintTimestamp = entry.print

def printedReport (s : Server) (check print : TimeOfDay) : Option PrintedReport :=
  (s.printReceiveRate check print).2.map fun report =>
    { check := check.now, print := print.now, report }

variable {s : Server} {received : Nat} {printed : List PrintedReport}

theorem Reported.receive (h : s.Reported received printed) :
    ({ s with packetsReceivedInOneSecond := s.packetsReceivedInOneSecond + 1 } : Server).Reported
      (received + 1) printed :=
  ⟨by rw [← h.sum, ← Nat.add_assoc], h.positive, h.spaced, h.last⟩

theorem Reported.turn (h : s.Reported received printed) (check print : TimeOfDay) :
    (s.printReceiveRate check print).1.Reported received
      (printed ++ (s.printedReport check print).toList) := by
  have hcounts := printReceiveRate_counts s check print
  cases hreport : (s.printReceiveRate check print).2 with
  | none =>
      rw [printedReport, hreport, printReceiveRate_quiet hreport]
      simpa using h
  | some report =>
      obtain ⟨hdue, hpos, hlast⟩ := printReceiveRate_report hreport
      rw [hreport] at hcounts
      rw [printedReport, hreport]
      refine
        { sum := ?_
          positive := ?_
          spaced := ?_
          last := ?_ }
      · have hsum := h.sum
        simp only [reported, Option.toList_some, List.map_append, List.sum_append, List.map_cons,
          List.map_nil, List.sum_singleton, Option.map_some] at hcounts hsum ⊢
        omega
      · intro entry hentry
        rcases List.mem_append.mp hentry with hentry | hentry
        · exact h.positive entry hentry
        · rw [Option.map_some, Option.toList_some] at hentry
          rw [List.mem_singleton.mp hentry]
          exact hpos
      · rw [Option.map_some, Option.toList_some]
        refine List.isChain_append.mpr ⟨h.spaced, List.isChain_singleton _, ?_⟩
        intro before hbefore after hafter
        cases hafter
        rw [h.last before hbefore] at hdue
        exact hdue
      · simp [hlast]

end Server

namespace Session

open Channel

def received? (s : Session) : SessionEvent → Option (List UInt8)
  | .receiveData arrival _ _ => arrived s.toServer arrival
  | _ => none

def received (s : Session) (events : List SessionEvent) : List (List UInt8) :=
  PartialRun.emitted step (fun s event => (s.received? event).toList) s events

def printed? (s : Session) : SessionEvent → Option PrintedReport
  | .receiveData arrival check print =>
      match s.server.receiveData (arrived s.toServer arrival) check print with
      | .ok turn =>
          turn.report.map fun report => { check := check.now, print := print.now, report }
      | .error _ => none
  | _ => none

def printed (s : Session) (events : List SessionEvent) : List PrintedReport :=
  PartialRun.emitted step (fun s event => (s.printed? event).toList) s events

variable {s s' : Session} {event : SessionEvent}

theorem Move.server_eq (hm : s.Move event s')
    (hother : ∀ arrival check print, event ≠ .receiveData arrival check print) :
    s'.server = s.server := by
  cases hm with
  | echoed harrived server => exact absurd rfl (hother _ _ _)
  | idled harrived server => exact absurd rfl (hother _ _ _)
  | dropped link i => cases link <;> rfl
  | duplicated link i => cases link <;> rfl
  | _ => rfl

/-- The books of the server after a step. -/
theorem step_reported {received : Nat} {printed : List PrintedReport} (h : s.Genuine)
    (hr : s.server.Reported received printed) (hs : s.step event = .ok s') :
    s'.server.Reported (received + (s.received? event).toList.length)
      (printed ++ (s.printed? event).toList) := by
  cases event with
  | receiveData arrival check print =>
      simp only [step, receiveData] at hs
      cases harrived : arrived s.toServer arrival with
      | none =>
          simp only [harrived, Server.receiveData, Except.mapError, bind, Except.bind, pure,
            Except.pure] at hs
          cases hs
          have hturn := hr.turn check print
          simpa [received?, printed?, harrived, Server.receiveData, Server.printedReport, bind,
            Except.bind, pure, Except.pure] using hturn
      | some datagram =>
          have hecho := serverEcho_posted (h.of_mem_toServer (mem_of_arrived harrived))
          simp only [harrived, Server.receiveData, hecho, Except.mapError, bind, Except.bind, pure,
            Except.pure] at hs
          cases hs
          have hturn := hr.receive.turn check print
          simpa [received?, printed?, harrived, Server.receiveData, hecho, Server.printedReport,
            bind, Except.bind, pure, Except.pure] using hturn
  | _ =>
      rw [(step_move h hs).server_eq (by simp)]
      simpa [received?, printed?] using hr

/-- The echoes that the server sends are taken by the client, dropped or still under way. -/
theorem Move.toClient_length (hsingle : s.KeepsSingle event) (hm : s.Move event s') :
    s'.toClient.length + (s.acked? event).toList.length ≤
      s.toClient.length + (s.received? event).toList.length := by
  have htake : ∀ (messages : List (List UInt8)) (arrival : Option Nat),
      (remaining messages arrival).length + (arrived messages arrival).toList.length =
        messages.length := by
    intro messages arrival
    rw [(arrived_perm messages arrival).length_eq, List.length_append, Nat.add_comm]
  cases hm with
  | @echoReceived arrival first second c datagram harrived hstep =>
      have hlength := htake s.toClient arrival
      simp only [harrived, Option.toList_some, List.length_singleton] at hlength
      simp [acked?, received?, harrived, hlength]
  | polled harrived hstep => simp [acked?, received?, harrived]
  | echoed harrived server => simp [acked?, received?, harrived]
  | idled harrived server => simp [acked?, received?, harrived]
  | dropped link i =>
      cases link with
      | toServer => simp [acked?, received?, onLink]
      | toClient =>
          have hlength := htake s.toClient (some i)
          simp [acked?, received?, onLink]
          omega
  | duplicated link i => exact absurd hsingle id
  | _ => exact le_refl _

variable {clientNow serverNow : TimeOfDay} {stream : Nat → Nat} {events : List SessionEvent}

theorem exec_reported (hrun : exec (create clientNow serverNow stream) events = .ok s)
    (hfit : Along NumbersFit (create clientNow serverNow stream) events) :
    s.server.Reported ((create clientNow serverNow stream).received events).length
      ((create clientNow serverNow stream).printed events) := by
  revert hfit
  refine PartialRun.exec_induction ?_ ?_ hrun
  · intro _
    exact ⟨rfl, nofun, .nil, nofun⟩
  · intro events m event t hpre hs ih hfit
    obtain ⟨hfit, -⟩ := hfit.append hpre
    have hnext := step_reported (exec_genuine hpre hfit) (ih hfit) hs
    rw [received, printed, PartialRun.emitted_concat hpre hs, PartialRun.emitted_concat hpre hs,
      List.length_append]
    exact hnext

theorem exec_acked_le (hrun : exec (create clientNow serverNow stream) events = .ok s)
    (hfit : Along NumbersFit (create clientNow serverNow stream) events)
    (hsingle : Along KeepsSingle (create clientNow serverNow stream) events) :
    s.toClient.length + ((create clientNow serverNow stream).ackedNumbers events).length ≤
      ((create clientNow serverNow stream).received events).length := by
  revert hfit hsingle
  refine PartialRun.exec_induction ?_ ?_ hrun
  · intro _ _
    exact le_refl _
  · intro events m event t hpre hs ih hfit hsingle
    obtain ⟨hfit, -⟩ := hfit.append hpre
    obtain ⟨hsingle, hsingleLast, -⟩ := hsingle.append hpre
    have hbefore := ih hfit hsingle
    have hone := (step_move (exec_genuine hpre hfit) hs).toClient_length hsingleLast
    simp only [received, ackedNumbers] at hbefore ⊢
    rw [PartialRun.emitted_concat hpre hs, PartialRun.emitted_concat hpre hs, List.length_append,
      List.length_append]
    omega

/-- With packet numbers below `10 ^ 10`, the packets that the server has printed and the ones on its
counter are the datagrams that it has received, each report names some of them, and two reports are
more than a second apart. When the network repeats no datagram, the client counts no more bytes as
acked than these packets have. -/
theorem reports_cover_acks (clientNow serverNow : TimeOfDay) (stream : Nat → Nat)
    (events : List SessionEvent)
    (hrun : exec (create clientNow serverNow stream) events = .ok s)
    (hfit : Along NumbersFit (create clientNow serverNow stream) events) :
    s.server.Reported ((create clientNow serverNow stream).received events).length
        ((create clientNow serverNow stream).printed events) ∧
      (Along KeepsSingle (create clientNow serverNow stream) events →
        s.client.connection.totalBytesAcked ≤ defaultPacketSize *
          (Server.reported (((create clientNow serverNow stream).printed events).map (·.report)) +
            s.server.packetsReceivedInOneSecond)) := by
  have hreported := exec_reported hrun hfit
  refine ⟨hreported, fun hsingle => ?_⟩
  rw [hreported.sum, (exec_totals hrun hfit).2]
  have hle := exec_acked_le hrun hfit hsingle
  exact Nat.mul_le_mul_left _ (by omega)

/-- Two packets reach the server, the second more than a second after the first. -/
def reportedSession : List SessionEvent :=
  [.sendPacket ⟨1, 0⟩ ⟨1, 1⟩ ⟨1, 2⟩, .receiveData (some 0) ⟨1, 40000⟩ ⟨1, 40000⟩,
    .receivePacket (some 0) ⟨1, 80000⟩ ⟨1, 80001⟩, .sendPacket ⟨3, 0⟩ ⟨3, 1⟩ ⟨3, 2⟩,
    .receiveData (some 0) ⟨3, 40000⟩ ⟨3, 40001⟩]

theorem reports_cover_acks_of_two_reports :
    ∃ s, exec (create ⟨0, 0⟩ ⟨0, 0⟩ fun _ => 0) reportedSession = .ok s ∧
      s.server.Reported ((create ⟨0, 0⟩ ⟨0, 0⟩ fun _ => 0).received reportedSession).length
        ((create ⟨0, 0⟩ ⟨0, 0⟩ fun _ => 0).printed reportedSession) ∧
      s.client.connection.totalBytesAcked ≤ defaultPacketSize *
        (Server.reported (((create ⟨0, 0⟩ ⟨0, 0⟩ fun _ => 0).printed reportedSession).map
          (·.report)) + s.server.packetsReceivedInOneSecond) := by
  obtain ⟨s, hrun, _⟩ := PartialRun.exists_of_endsIn (p := fun _ => true)
    (r := exec (create ⟨0, 0⟩ ⟨0, 0⟩ fun _ => 0) reportedSession) (by decide +kernel)
  obtain ⟨hreported, hacked⟩ :=
    reports_cover_acks ⟨0, 0⟩ ⟨0, 0⟩ _ reportedSession hrun (by decide +kernel)
  exact ⟨s, hrun, hreported, hacked (by decide +kernel)⟩

end Session

end BbrChrome
