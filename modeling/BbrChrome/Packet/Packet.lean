import BbrChrome.Library.ByteString
import BbrChrome.Quic.Types

/-!
# Packets on the wire

A datagram is a type byte, three decimal fields of ten digits and a padding of
zeros. The receiver reads it as a C string from a buffer that was cleared first.
-/

namespace BbrChrome

open ByteString

def typeLen : Nat := 1

def sizeTLen : Nat := 10

/-- `SENDER_PADDING_LEN`; one byte is left for the terminating zero. -/
def senderPaddingLen : Nat := defaultPacketSize - typeLen - sizeTLen - sizeTLen - sizeTLen - 1

def receiveBufSize : Nat := 10000

/-- The fields of a `SerializedPacket` in their widths. The time is the signed value of a
`QuicTime`. -/
structure WirePacket where
  packetNumber : UInt64
  sendTime : Int
  encryptedLength : UInt16
deriving DecidableEq, Repr

/-! ## Writing -/

/-- The loop that copies a numeral into the end of a field of zeros. -/
def alignRight (width : Nat) (s : List UInt8) : List UInt8 :=
  if s.length ≤ width then List.replicate (width - s.length) 48 ++ s else List.replicate width 48

def sizeTToString (number : Nat) : List UInt8 :=
  alignRight sizeTLen (toDecimal (number % 10000000000))

def numberToFixLenString (number len : Nat) : List UInt8 := alignRight len (toDecimal number)

namespace WirePacket

/-- The decimal fields behind the type byte. -/
def fields (p : WirePacket) : List UInt8 :=
  sizeTToString p.packetNumber.toNat ++ sizeTToString (toUint64 p.sendTime) ++
    sizeTToString p.encryptedLength.toNat

def serialize (p : WirePacket) : List UInt8 :=
  48 :: p.fields ++ numberToFixLenString 0 senderPaddingLen

end WirePacket

/-! ## Receiving -/

/-- What `recvfrom` leaves in the buffer: the rest of it was cleared before the call. -/
def receiveInto (datagram : List UInt8) : List UInt8 :=
  datagram.take receiveBufSize ++ List.replicate (receiveBufSize - datagram.length) 0

/-- Why a packet cannot be read: an exception of the string operations, or a buffer without a
zero, whose string does not end inside it. -/
inductive ParseError
  | exception (e : ByteString.Exception)
  | unterminated
deriving DecidableEq, Repr

/-- The string that a pointer to the buffer denotes. -/
def readCString (data : List UInt8) : Except ParseError (List UInt8) :=
  match ofCString data with
  | some s => .ok s
  | none => .error .unterminated

/-- `std::stoul(s.substr(pos, SIZE_T_LEN))`. -/
def readField (s : List UInt8) (pos : Nat) : Except ParseError Nat :=
  match substr s pos sizeTLen >>= stoul with
  | .ok value => .ok value
  | .error e => .error (.exception e)

def unSerialize (data : List UInt8) : Except ParseError WirePacket := do
  let s ← readCString data
  let number ← readField s typeLen
  let time ← readField s (typeLen + sizeTLen)
  let length ← readField s (typeLen + 2 * sizeTLen)
  return { packetNumber := UInt64.ofNat number
           sendTime := Int.bmod time (2 ^ 64)
           encryptedLength := UInt16.ofNat length }

/-- The `i`-th field of a datagram or of its string. -/
def field (s : List UInt8) (i : Nat) : List UInt8 := (s.drop (typeLen + i * sizeTLen)).take sizeTLen

/-- Three fields of ten digits behind the type byte. -/
def HasWireForm (s : List UInt8) : Prop :=
  ∀ i < 3, (field s i).length = sizeTLen ∧ ∀ d ∈ field s i, isDigit d = true

instance (s : List UInt8) : Decidable (HasWireForm s) :=
  have (i : Nat) : Decidable (∀ d ∈ field s i, isDigit d = true) := List.decidableBAll _ _
  inferInstanceAs (Decidable (∀ i < 3,
    (field s i).length = sizeTLen ∧ ∀ d ∈ field s i, isDigit d = true))

/-- The server sends back what `strlen` counts in its own buffer. -/
def serverEcho (datagram : List UInt8) : Except ParseError (List UInt8) :=
  readCString (receiveInto datagram)

end BbrChrome
