import BbrChrome.Quic.Connection

/-!
# The client

The sending side of the program: it paces packets, keeps its own copy of the
window and the rate, and handles echoes and timeouts when it polls its socket.
-/

namespace BbrChrome

open Rounding

/-- `INITIAL_CWND_SIZE`, in packets. -/
def initialCwndSize : Nat := 4

def maxPacingRate : Nat := 100000000

/-- A result of `gettimeofday`. -/
structure TimeOfDay where
  sec : Nat
  usec : Nat
deriving DecidableEq, Repr

/-- `QuicChromiumClock::Now()`: ticks since a day boundary, never zero. -/
def TimeOfDay.now (time : TimeOfDay) : Int := ((time.sec % 100000) * 1000000 + time.usec + 1 : Nat)

theorem TimeOfDay.now_pos (time : TimeOfDay) : 0 < time.now := by
  unfold TimeOfDay.now
  omega

structure SendControl where
  cwnd : Nat := initialCwndSize
  pacingRate : Nat := initialPacingRate
  nextSendTimestamp : Int := 0
deriving DecidableEq, Repr

structure Client where
  /-- `send_manager_` and `packet_maker_`. -/
  connection : Connection Bbr2Sender
  sendControl : SendControl := {}

/-- One call of `SendPacket` or `ReceivePacket` with the readings of the clock it
makes, in their order. `receive` carries the packet number of the datagram found,
if there is one. -/
inductive ClientCall
  | sendPacket (gate schedule send : TimeOfDay)
  | receivePacket (echo : Option Nat) (first second : TimeOfDay)
deriving DecidableEq, Repr

namespace Client

def create (now : TimeOfDay) (stream : Nat → Nat) : Client :=
  { connection := bbr2Connection now.now stream }

def bytesInFlight (c : Client) : Nat := c.connection.map.bytesInFlight

/-- `DEFAULT_PACKET_SIZE * BITS_PER_BYTE * ONE_SECOND / double(pacing_rate)`, truncated. -/
def durationBetweenSends (pacingRate : Nat) : Int :=
  truncate (float64 ((defaultPacketSize * 8 * 1000000 : Nat) / float64 pacingRate))

def setNextSendTime (c : Client) (now : TimeOfDay) : Except Fault Client :=
  if 0 < c.sendControl.pacingRate then
    .ok { c with
          sendControl :=
            { c.sendControl with
              nextSendTimestamp := now.now + durationBetweenSends c.sendControl.pacingRate } }
  else .error .paused

/-- The window half of the condition of `IsTimeToSendNextPacket`. -/
def windowIsOpen (c : Client) : Bool := c.bytesInFlight / defaultPacketSize < c.sendControl.cwnd

def isTimeToSendNextPacket (c : Client) (gate schedule : TimeOfDay) :
    Except Fault (Client × Bool) := do
  if c.windowIsOpen && c.sendControl.nextSendTimestamp < gate.now then
    let c ← c.setNextSendTime schedule
    return (c, true)
  else return (c, false)

def makePacketAndSendFromBuf (c : Client) (send : TimeOfDay) : Client :=
  { c with connection := c.connection.send defaultPacketLength send.now }

def sendPacket (c : Client) (gate schedule send : TimeOfDay) : Except Fault Client := do
  let (c, isTime) ← c.isTimeToSendNextPacket gate schedule
  return if isTime then c.makePacketAndSendFromBuf send else c

def updateSendControl (c : Client) : Client :=
  let m := c.connection.manager
  { c with
    sendControl :=
      { c.sendControl with
        pacingRate := min m.getPacingRate.bitsPerSecond maxPacingRate
        cwnd := m.getCongestionWindowInBytes / defaultPacketSize } }

def onPacketReceived (c : Client) (packetNumber : Nat) (time now : TimeOfDay) :
    Except Fault Client := do
  let connection ← c.connection.ack packetNumber time.now now.now
  return { c with connection }.updateSendControl

def receivePacket (c : Client) (echo : Option Nat) (first second : TimeOfDay) :
    Except Fault Client :=
  match echo with
  | some packetNumber => c.onPacketReceived packetNumber first second
  | none =>
      if c.connection.manager.getRetransmissionTime < first.now then do
        let connection ← c.connection.timeout second.now
        return { c with connection }
      else .ok c

def step (c : Client) : ClientCall → Except Fault Client
  | .sendPacket gate schedule send => c.sendPacket gate schedule send
  | .receivePacket echo first second => c.receivePacket echo first second

/-- Echoes carry the number of a packet that was sent before. -/
def Valid (c : Client) : ClientCall → Prop
  | .receivePacket (some packetNumber) _ _ =>
      1 ≤ packetNumber ∧ packetNumber ≤ c.connection.recentPacketNumber
  | _ => True

abbrev exec (c : Client) (calls : List ClientCall) : Except Fault Client :=
  PartialRun.exec step c calls

abbrev Along (P : Client → ClientCall → Prop) (c : Client) (calls : List ClientCall) : Prop :=
  PartialRun.Along step P c calls

end Client

end BbrChrome
