import BbrChrome.Client.Client
import BbrChrome.Packet.Packet

/-!
# The round trip of a packet

A field keeps ten digits of its value. The clock counts up to `10 ^ 11` microseconds and packet
numbers go up to `2 ^ 64`, so a packet comes back as it was sent only below `10 ^ 10`.
-/

namespace BbrChrome

open ByteString

/-! ## Fields -/

variable {s : List UInt8} {width : Nat}

theorem alignRight_of_le (h : s.length ≤ width) :
    alignRight width s = List.replicate (width - s.length) 48 ++ s := if_pos h

theorem length_alignRight : (alignRight width s).length = width := by
  unfold alignRight
  split
  · simp only [List.length_append, List.length_replicate]
    omega
  · exact List.length_replicate

theorem isDigit_of_mem_alignRight (h : ∀ d ∈ s, isDigit d = true) {d : UInt8}
    (hmem : d ∈ alignRight width s) : isDigit d = true := by
  unfold alignRight at hmem
  split at hmem
  · rcases List.mem_append.mp hmem with hzero | hmem
    · rw [List.eq_of_mem_replicate hzero]
      exact isDigit_zero
    · exact h d hmem
  · rw [List.eq_of_mem_replicate hmem]
    exact isDigit_zero

theorem digitsValue_alignRight (h : s.length ≤ width) :
    digitsValue (alignRight width s) = digitsValue s := by
  rw [alignRight_of_le h, digitsValue_append, digitsValue_zeros]
  omega

@[simp] theorem length_sizeTToString (n : Nat) : (sizeTToString n).length = 10 := length_alignRight

theorem isDigit_of_mem_sizeTToString {n : Nat} {d : UInt8} (hmem : d ∈ sizeTToString n) :
    isDigit d = true :=
  isDigit_of_mem_alignRight (fun _ => isDigit_of_mem_toDecimal) hmem

/-- A field keeps the last ten digits of a number. -/
@[simp] theorem digitsValue_sizeTToString (n : Nat) :
    digitsValue (sizeTToString n) = n % 10 ^ 10 := by
  have hlt : n % 10000000000 < 10 ^ sizeTLen := Nat.mod_lt n (by decide)
  rw [sizeTToString, digitsValue_alignRight (length_toDecimal_le (by decide) hlt),
    digitsValue_toDecimal]
  rfl

theorem isDigit_of_mem_numberToFixLenString {n len : Nat} {d : UInt8}
    (hmem : d ∈ numberToFixLenString n len) : isDigit d = true :=
  isDigit_of_mem_alignRight (fun _ => isDigit_of_mem_toDecimal) hmem

/-! ## Reading -/

theorem readField_of_digits {pos : Nat} (hlen : ((s.drop pos).take sizeTLen).length = sizeTLen)
    (hdigits : ∀ d ∈ (s.drop pos).take sizeTLen, isDigit d = true) :
    readField s pos = .ok (digitsValue ((s.drop pos).take sizeTLen)) := by
  have hpos : pos ≤ s.length := by
    rw [List.length_take, List.length_drop] at hlen
    have : sizeTLen = 10 := rfl
    omega
  have hne : (s.drop pos).take sizeTLen ≠ [] := by
    intro hnil
    rw [hnil] at hlen
    cases hlen
  have hlt := digitsValue_lt hdigits
  rw [hlen] at hlt
  have hread : stoul ((s.drop pos).take sizeTLen) =
      .ok (digitsValue ((s.drop pos).take sizeTLen)) :=
    stoul_of_digits hne hdigits (lt_trans hlt (by decide))
  unfold readField substr
  rw [if_neg (by omega)]
  simp only [bind, Except.bind, hread]

/-- The packet that three fields of ten digits denote. -/
def packetOfFields (s : List UInt8) : WirePacket :=
  { packetNumber := UInt64.ofNat (digitsValue (field s 0))
    sendTime := Int.bmod (digitsValue (field s 1)) (2 ^ 64)
    encryptedLength := UInt16.ofNat (digitsValue (field s 2)) }

theorem unSerialize_of_hasWireForm {data : List UInt8} (hs : readCString data = .ok s)
    (h : HasWireForm s) : unSerialize data = .ok (packetOfFields s) := by
  have hread : ∀ i < 3, readField s (typeLen + i * sizeTLen) = .ok (digitsValue (field s i)) :=
    fun i hi => readField_of_digits (h i hi).1 (h i hi).2
  have hnumber := hread 0 (by omega)
  have htime := hread 1 (by omega)
  have hlength := hread 2 (by omega)
  simp only [Nat.zero_mul, Nat.add_zero, Nat.one_mul] at hnumber htime
  simp only [unSerialize, hs, bind, Except.bind, hnumber, htime, hlength]
  rfl

theorem readCString_receiveInto (hlen : s.length < receiveBufSize) (hzero : 0 ∉ s) :
    readCString (receiveInto s) = .ok s := by
  have hall : ∀ b ∈ s, (b != 0) = true := by
    intro b hmem
    rw [bne_iff_ne]
    rintro rfl
    exact hzero hmem
  have hbuffer : receiveInto s = s ++ List.replicate (receiveBufSize - s.length) 0 := by
    rw [receiveInto, List.take_of_length_le (by omega)]
  have hmem : 0 ∈ receiveInto s := by
    rw [hbuffer, List.mem_append]
    exact .inr (List.mem_replicate.mpr ⟨by omega, rfl⟩)
  have hstring : (receiveInto s).takeWhile (· ≠ 0) = s := by
    rw [hbuffer, List.takeWhile_append_of_pos (by simpa using hall)]
    simp
  unfold readCString ofCString
  rw [if_pos hmem, hstring]

namespace WirePacket

variable (p : WirePacket)

theorem length_serialize : p.serialize.length = 1471 := by
  have hpadding : (numberToFixLenString 0 senderPaddingLen).length = senderPaddingLen :=
    length_alignRight
  have hsize : senderPaddingLen = 1440 := rfl
  simp only [serialize, fields, List.cons_append, List.length_cons, List.length_append, hpadding,
    length_sizeTToString]
  omega

theorem isDigit_of_mem_serialize {d : UInt8} (hmem : d ∈ p.serialize) : isDigit d = true := by
  simp only [serialize, fields, List.cons_append, List.mem_cons, List.mem_append] at hmem
  rcases hmem with rfl | ((hfield | hfield) | hfield) | hpadding
  · exact isDigit_zero
  · exact isDigit_of_mem_sizeTToString hfield
  · exact isDigit_of_mem_sizeTToString hfield
  · exact isDigit_of_mem_sizeTToString hfield
  · exact isDigit_of_mem_numberToFixLenString hpadding

theorem zero_notMem_serialize : 0 ∉ p.serialize :=
  fun hmem => ne_zero_of_isDigit (p.isDigit_of_mem_serialize hmem) rfl

theorem field_serialize :
    field p.serialize 0 = sizeTToString p.packetNumber.toNat ∧
      field p.serialize 1 = sizeTToString (toUint64 p.sendTime) ∧
      field p.serialize 2 = sizeTToString p.encryptedLength.toNat := by
  simp [field, serialize, fields, typeLen, sizeTLen, List.drop_append, List.take_append]

theorem hasWireForm_serialize : HasWireForm p.serialize := by
  obtain ⟨hnumber, htime, hlength⟩ := p.field_serialize
  have hfield : ∀ n, (sizeTToString n).length = sizeTLen ∧
      ∀ d ∈ sizeTToString n, isDigit d = true :=
    fun n => ⟨length_sizeTToString n, fun _ => isDigit_of_mem_sizeTToString⟩
  intro i hi
  rcases i with _ | _ | _ | i
  · rw [hnumber]
    exact hfield _
  · rw [htime]
    exact hfield _
  · rw [hlength]
    exact hfield _
  · omega

theorem readCString_serialize : readCString (receiveInto p.serialize) = .ok p.serialize := by
  have hlen : p.serialize.length < receiveBufSize := by
    rw [length_serialize]
    decide
  exact readCString_receiveInto hlen p.zero_notMem_serialize

def lastDigits : WirePacket :=
  { packetNumber := UInt64.ofNat (p.packetNumber.toNat % 10 ^ 10)
    sendTime := Int.bmod (toUint64 p.sendTime % 10 ^ 10 : Nat) (2 ^ 64)
    encryptedLength := UInt16.ofNat (p.encryptedLength.toNat % 10 ^ 10) }

theorem unSerialize_serialize : unSerialize (receiveInto p.serialize) = .ok p.lastDigits := by
  obtain ⟨hnumber, htime, hlength⟩ := p.field_serialize
  rw [unSerialize_of_hasWireForm p.readCString_serialize p.hasWireForm_serialize, packetOfFields,
    hnumber, htime, hlength, digitsValue_sizeTToString, digitsValue_sizeTToString,
    digitsValue_sizeTToString]
  rfl

/-- The packet is read back as it was sent, from the datagram itself and from its echo. -/
def RoundTrips : Prop :=
  unSerialize (receiveInto p.serialize) = .ok p ∧
    ∃ echo, serverEcho p.serialize = .ok echo ∧ unSerialize (receiveInto echo) = .ok p

theorem roundTrips_iff_lastDigits : p.RoundTrips ↔ p.lastDigits = p := by
  -- The serialization has no zero byte, so the echo repeats it.
  have hecho : serverEcho p.serialize = .ok p.serialize := p.readCString_serialize
  unfold RoundTrips
  rw [unSerialize_serialize]
  constructor
  · rintro ⟨hdirect, _⟩
    exact Except.ok.inj hdirect
  · intro hsame
    refine ⟨congrArg _ hsame, p.serialize, hecho, ?_⟩
    rw [unSerialize_serialize, hsame]

theorem ofNat_mod_eq_iff {n : UInt64} :
    UInt64.ofNat (n.toNat % 10 ^ 10) = n ↔ n.toNat < 10 ^ 10 := by
  have hlt : n.toNat % 10 ^ 10 < UInt64.size := lt_trans (Nat.mod_lt _ (by decide)) (by decide)
  rw [← UInt64.toNat_inj, UInt64.toNat_ofNat_of_lt' hlt]
  exact Nat.mod_eq_iff_lt (by decide)

theorem ofNat_mod_length (length : UInt16) :
    UInt16.ofNat (length.toNat % 10 ^ 10) = length := by
  have hlt := length.toNat_lt
  rw [← UInt16.toNat_inj, UInt16.toNat_ofNat']
  omega

/-- The time of a packet is restored as long as it has ten digits. -/
theorem bmod_mod_eq_iff {t : Int} (hpos : 0 ≤ t) :
    Int.bmod (toUint64 t % 10 ^ 10 : Nat) (2 ^ 64) = t ↔ t < 10 ^ 10 := by
  have hsmall : Int.bmod (toUint64 t % 10 ^ 10 : Nat) (2 ^ 64) = (toUint64 t % 10 ^ 10 : Nat) := by
    apply Int.bmod_eq_of_le_mul_two
    · omega
    · omega
  rw [hsmall]
  unfold toUint64
  omega

/-- A packet of the client survives the wire exactly when its number and its time have at most
ten digits. -/
theorem roundTrips_iff (n : UInt64) (t : TimeOfDay) (length : UInt16) :
    RoundTrips ⟨n, t.now, length⟩ ↔ n.toNat < 10 ^ 10 ∧ t.now < 10 ^ 10 := by
  have htime := bmod_mod_eq_iff t.now_pos.le
  rw [roundTrips_iff_lastDigits, lastDigits, WirePacket.mk.injEq, ofNat_mod_eq_iff, htime]
  exact ⟨fun h => ⟨h.1, h.2.1⟩, fun h => ⟨h.1, h.2, ofNat_mod_length length⟩⟩

/-- The first packet, sent 10000 seconds after the clock wrapped, comes back with the time 1. -/
theorem not_roundTrips_after_ten_thousand_seconds :
    ¬RoundTrips ⟨1, TimeOfDay.now ⟨10000, 0⟩, 1472⟩ := by
  rw [roundTrips_iff_lastDigits]
  decide

end WirePacket

end BbrChrome
