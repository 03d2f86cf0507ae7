import BbrChrome.Client.Datagram
import BbrChrome.Library.Channel
import BbrChrome.Library.Emission
import BbrChrome.Session.Server

/-!
# A session

The client and the server with the datagrams between them. The network may lose, repeat and
reorder datagrams, but it makes up none and alters none.
-/

namespace BbrChrome

inductive Link
  | toServer
  | toClient
deriving DecidableEq, Repr

structure Session where
  client : Client
  server : Server
  toServer : List (List UInt8) := []
  toClient : List (List UInt8) := []

/-- A call of one of the two loops, with the datagram that its socket holds then, or a fault of the
network. -/
inductive SessionEvent
  | sendPacket (gate schedule send : TimeOfDay)
  | receivePacket (arrival : Option Nat) (first second : TimeOfDay)
  | receiveData (arrival : Option Nat) (check print : TimeOfDay)
  | drop (link : Link) (i : Nat)
  | duplicate (link : Link) (i : Nat)
deriving DecidableEq, Repr

namespace Client

/-- The datagram that `MakePacketAndSendFromBuf` sends. -/
def datagram (c : Client) (send : TimeOfDay) : List UInt8 :=
  let packet := c.connection.makePacket defaultPacketLength send.now
  WirePacket.serialize
    { packetNumber := UInt64.ofNat packet.packetNumber
      sendTime := packet.sendTime
      encryptedLength := UInt16.ofNat packet.encryptedLength.bytes }

/-- `ReceivePacket` with the datagram that the socket holds, if there is one. -/
def receiveDatagram (c : Client) (datagram : Option (List UInt8)) (first second : TimeOfDay) :
    Except ReceiveError Client :=
  match datagram with
  | some (byte :: bytes) => c.onDatagramReceived (byte :: bytes) first second
  | _ => (c.receivePacket none first second).mapError .fault

end Client

namespace Session

open Channel

def create (clientNow serverNow : TimeOfDay) (stream : Nat → Nat) : Session :=
  { client := .create clientNow stream, server := .create serverNow }

def onLink (s : Session) (f : List (List UInt8) → List (List UInt8)) : Link → Session
  | .toServer => { s with toServer := f s.toServer }
  | .toClient => { s with toClient := f s.toClient }

def sendPacket (s : Session) (gate schedule send : TimeOfDay) : Except Fault Session := do
  let (c, isTime) ← s.client.isTimeToSendNextPacket gate schedule
  if isTime then
    return { s with
      client := c.makePacketAndSendFromBuf send
      toServer := s.toServer ++ [c.datagram send] }
  else return { s with client := c }

def receivePacket (s : Session) (arrival : Option Nat) (first second : TimeOfDay) :
    Except ReceiveError Session := do
  let client ← s.client.receiveDatagram (arrived s.toClient arrival) first second
  return { s with client, toClient := remaining s.toClient arrival }

def receiveData (s : Session) (arrival : Option Nat) (check print : TimeOfDay) :
    Except ParseError Session := do
  let turn ← s.server.receiveData (arrived s.toServer arrival) check print
  return { s with
    server := turn.server
    toServer := remaining s.toServer arrival
    toClient := s.toClient ++ turn.ack.toList }

def step (s : Session) : SessionEvent → Except ReceiveError Session
  | .sendPacket gate schedule send => (s.sendPacket gate schedule send).mapError .fault
  | .receivePacket arrival first second => s.receivePacket arrival first second
  | .receiveData arrival check print => (s.receiveData arrival check print).mapError .parse
  | .drop link i => .ok (s.onLink (remaining · (some i)) link)
  | .duplicate link i => .ok (s.onLink (duplicate · i) link)

abbrev exec (s : Session) (events : List SessionEvent) : Except ReceiveError Session :=
  PartialRun.exec step s events

abbrev Along (P : Session → SessionEvent → Prop) (s : Session) (events : List SessionEvent) :
    Prop :=
  PartialRun.Along step P s events

end Session

end BbrChrome
