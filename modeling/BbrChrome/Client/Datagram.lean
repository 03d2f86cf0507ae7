import BbrChrome.Client.ClientRun
import BbrChrome.Packet.RoundTrip
import BbrChrome.Quic.AckCredits

/-!
# Datagrams of any form

The client acts on whatever the parser makes of a datagram. A datagram that is not a packet
either stops it with an exception or is taken for the echo of some packet.
-/

namespace BbrChrome

open ByteString

/-! ## Strings in the buffer -/

variable {d s : List UInt8}

theorem readCString_eq_ok_iff {data : List UInt8} :
    readCString data = .ok s ↔ 0 ∈ data ∧ data.takeWhile (· ≠ 0) = s := by
  unfold readCString ofCString
  by_cases hmem : 0 ∈ data
  · simp [hmem]
  · simp [hmem]

theorem field_take (s : List UInt8) {i : Nat} (hi : i < 3) : field (s.take 31) i = field s i := by
  unfold field typeLen sizeTLen
  rw [List.drop_take, List.take_take]
  congr 1
  omega

theorem HasWireForm.length_le (h : HasWireForm s) : 31 ≤ s.length := by
  have hlast := (h 2 (by omega)).1
  simp only [field, typeLen, sizeTLen, List.length_take, List.length_drop] at hlast
  omega

theorem HasWireForm.isDigit_of_mem (h : HasWireForm s) {b : UInt8}
    (hmem : b ∈ (s.drop 1).take 30) : isDigit b = true := by
  have hsplit : (s.drop 1).take 30 = field s 0 ++ field s 1 ++ field s 2 := by
    have hshort : (s.drop 1).take 30 =
        (s.drop 1).take 10 ++ ((s.drop 11).take 10 ++ (s.drop 21).take 10) := by
      rw [show 30 = 10 + (10 + 10) from rfl, List.take_add, List.take_add, List.drop_drop,
        List.drop_drop]
    rw [hshort, ← List.append_assoc]
    rfl
  rw [hsplit] at hmem
  rcases List.mem_append.mp hmem with hmem | hmem
  · rcases List.mem_append.mp hmem with hmem | hmem
    · exact (h 0 (by omega)).2 b hmem
    · exact (h 1 (by omega)).2 b hmem
  · exact (h 2 (by omega)).2 b hmem

theorem HasWireForm.take_takeWhile (h : HasWireForm d) (htype : d.head? ≠ some 0) :
    ((receiveInto d).takeWhile (· ≠ 0)).take 31 = d.take 31 := by
  have hlen := h.length_le
  have hbuffer : (receiveInto d).take 31 = d.take 31 := by
    rw [receiveInto, List.take_append_of_le_length, List.take_take]
    · rfl
    · rw [List.length_take]
      have : receiveBufSize = 10000 := rfl
      omega
  have hnonzero : ∀ b ∈ d.take 31, (decide (b ≠ 0)) = true := by
    intro b hmem
    rw [decide_eq_true_iff]
    cases d with
    | nil => cases hlen
    | cons type rest =>
        rw [List.take_succ_cons] at hmem
        rcases List.mem_cons.mp hmem with rfl | hmem
        · rintro rfl
          exact htype rfl
        · exact ne_zero_of_isDigit (h.isDigit_of_mem hmem)
  rw [← List.take_append_drop 31 (receiveInto d), hbuffer, List.takeWhile_append_of_pos hnonzero,
    List.take_append_of_le_length]
  · rw [List.take_take]
    rfl
  · rw [List.length_take]
    omega

/-- A datagram in the form of a packet is read as the packet it denotes, if its string is not
empty and ends in the buffer. -/
theorem HasWireForm.unSerialize (h : HasWireForm d) (htype : d.head? ≠ some 0)
    (hend : 0 ∈ receiveInto d) : unSerialize (receiveInto d) = .ok (packetOfFields d) := by
  have hfield : ∀ i < 3, field ((receiveInto d).takeWhile (· ≠ 0)) i = field d i := by
    intro i hi
    rw [← field_take _ hi, h.take_takeWhile htype, field_take _ hi]
  have hform : HasWireForm ((receiveInto d).takeWhile (· ≠ 0)) := by
    intro i hi
    rw [hfield i hi]
    exact h i hi
  rw [unSerialize_of_hasWireForm (readCString_eq_ok_iff.mpr ⟨hend, rfl⟩) hform, packetOfFields,
    hfield 0 (by omega), hfield 1 (by omega), hfield 2 (by omega)]
  rfl

theorem HasWireForm.packetNumber (h : HasWireForm d) :
    (packetOfFields d).packetNumber.toNat = digitsValue (field d 0) := by
  have hfield := h 0 (by omega)
  have hlt := digitsValue_lt hfield.2
  rw [hfield.1] at hlt
  exact UInt64.toNat_ofNat_of_lt' (lt_trans hlt (by decide))

/-- Nothing is read from a buffer that starts with a zero or has none. -/
theorem of_unSerialize_ok {packet : WirePacket} (h : unSerialize (receiveInto d) = .ok packet) :
    0 ∈ receiveInto d ∧ d.head? ≠ some 0 := by
  cases hs : readCString (receiveInto d) with
  | error e => simp [BbrChrome.unSerialize, hs, bind, Except.bind] at h
  | ok s =>
      obtain ⟨hend, hstring⟩ := readCString_eq_ok_iff.mp hs
      refine ⟨hend, ?_⟩
      intro htype
      have hempty : s = [] := by
        cases d with
        | nil => cases htype
        | cons type rest =>
            cases htype
            rw [← hstring]
            rfl
      subst hempty
      have hfield : readField [] typeLen = .error (.exception .outOfRange) := rfl
      simp [BbrChrome.unSerialize, hs, hfield, bind, Except.bind] at h

/-! ## Receiving -/

/-- Why the handling of a datagram does not finish. -/
inductive ReceiveError
  | parse (e : ParseError)
  | fault (f : Fault)
deriving DecidableEq, Repr

namespace Client

variable {c c' : Client} {now : TimeOfDay} {stream : Nat → Nat} {calls : List ClientCall}

def onDatagramReceived (c : Client) (datagram : List UInt8) (time now : TimeOfDay) :
    Except ReceiveError Client :=
  match unSerialize (receiveInto datagram) with
  | .error e => .error (.parse e)
  | .ok packet =>
      match c.onPacketReceived packet.packetNumber.toNat time now with
      | .ok c' => .ok c'
      | .error f => .error (.fault f)

/-- The handling finishes, without effect unless the datagram has the form of a packet. -/
def RejectsMalformed (c : Client) (datagram : List UInt8) (time now : TimeOfDay) : Prop :=
  ∃ c', c.onDatagramReceived datagram time now = .ok c' ∧
    (¬ HasWireForm datagram →
      c'.connection.manager = c.connection.manager ∧ c'.sendControl = c.sendControl)

theorem exec_synced (hrun : exec (create now stream) calls = .ok c) : c.connection.Synced :=
  PartialRun.invariant
    (fun _ _ _ h hs => connection_invariant (fun _ _ _ _ h hs => h.step hs) h hs)
    (Connection.createBbr_synced now.now stream) hrun

theorem onPacketReceived_ok_iff {n : Nat} {time now : TimeOfDay} :
    c.onPacketReceived n time now = .ok c' ↔
      ∃ connection, c.connection.ack n time.now now.now = .ok connection ∧
        c' = { c with connection }.updateSendControl := by
  unfold onPacketReceived
  cases hack : c.connection.ack n time.now now.now with
  | error e => simp [bind, Except.bind]
  | ok connection => simp [bind, Except.bind, pure, Except.pure, eq_comm]

theorem acked_of_ok (h : c.connection.Synced) {n : Nat} {time now : TimeOfDay}
    (hok : c.onPacketReceived n time now = .ok c') :
    (∃ info, c.connection.map.info? n = some info) ∧
      c.connection.totalBytesAcked < c'.connection.totalBytesAcked := by
  obtain ⟨connection, hack, rfl⟩ := onPacketReceived_ok_iff.mp hok
  have hs : Connection.step c.connection (.ack n time.now now.now) = .ok connection := hack
  have ho := Connection.step_outcome h.atRest hs
  have hcredit := ho.credited?_eq h.atRest h.mirrored
  refine ⟨?_, ?_⟩
  · cases ho with
    | ack hi => exact ⟨_, hi⟩
  · by_contra hnot
    have hnone : ¬c.connection.totalBytesAcked < connection.totalBytesAcked := hnot
    rw [Connection.credited?, if_neg hnone] at hcredit
    cases hcredit

theorem exists_ok_of_info (h : c.connection.Synced) {n : Nat} {info : QuicTransmissionInfo}
    (hi : c.connection.map.info? n = some info) (time now : TimeOfDay) :
    ∃ c', c.onPacketReceived n time now = .ok c' := by
  have hack := (Connection.Outcome.ack hi time.now now.now).step_eq h.atRest
  exact ⟨_, onPacketReceived_ok_iff.mpr ⟨_, hack, rfl⟩⟩

/-- Whatever is read from a datagram is acked, so a malformed one never passes. -/
theorem not_rejectsMalformed (h : c.connection.Synced) {d : List UInt8}
    (hmalformed : ¬ HasWireForm d) (first second : TimeOfDay) :
    ¬ c.RejectsMalformed d first second := by
  rintro ⟨c', hok, heffect⟩
  have hsame := (heffect hmalformed).1
  unfold onDatagramReceived at hok
  cases hparse : unSerialize (receiveInto d) with
  | error e => simp [hparse] at hok
  | ok packet =>
      simp only [hparse] at hok
      cases hreceived : c.onPacketReceived packet.packetNumber.toNat first second with
      | error f => simp [hreceived] at hok
      | ok next =>
          simp only [hreceived, Except.ok.injEq] at hok
          subst hok
          have hcredit := (acked_of_ok h hreceived).2
          simp [Connection.totalBytesAcked, hsame] at hcredit

/-- A datagram is handled as it should exactly when it is the echo of a packet that still has a
slot, and its string is not empty and ends in the buffer. -/
theorem rejectsMalformed_iff (hrun : exec (create now stream) calls = .ok c) (d : List UInt8)
    (first second : TimeOfDay) :
    c.RejectsMalformed d first second ↔
      HasWireForm d ∧ d.head? ≠ some 0 ∧ 0 ∈ receiveInto d ∧
        ∃ info, c.connection.map.info? (digitsValue (field d 0)) = some info := by
  have hsynced := exec_synced hrun
  constructor
  · intro hrejects
    have hform : HasWireForm d := by
      by_contra hmalformed
      exact not_rejectsMalformed hsynced hmalformed first second hrejects
    obtain ⟨c', hok, _⟩ := hrejects
    unfold onDatagramReceived at hok
    cases hparse : unSerialize (receiveInto d) with
    | error e => simp [hparse] at hok
    | ok packet =>
        obtain ⟨hend, htype⟩ := of_unSerialize_ok hparse
        rw [hform.unSerialize htype hend] at hparse
        cases hparse
        rw [hform.unSerialize htype hend] at hok
        cases hreceived : c.onPacketReceived (packetOfFields d).packetNumber.toNat first second with
        | error f => simp [hreceived] at hok
        | ok next =>
            have hslot := (acked_of_ok hsynced hreceived).1
            rw [hform.packetNumber] at hslot
            exact ⟨hform, htype, hend, hslot⟩
  · rintro ⟨hform, htype, hend, info, hi⟩
    rw [← hform.packetNumber] at hi
    obtain ⟨c', hok⟩ := exists_ok_of_info hsynced hi first second
    refine ⟨c', ?_, fun hmalformed => absurd hform hmalformed⟩
    simp only [onDatagramReceived, hform.unSerialize htype hend, hok]

/-- The client sends its first packet in the second after the clock wrapped. -/
def firstSend : List ClientCall := [.sendPacket ⟨1, 0⟩ ⟨1, 1⟩ ⟨1, 2⟩]

theorem rejectsMalformed_iff_of_first_echo :
    ∃ c, exec (create ⟨0, 0⟩ fun _ => 0) firstSend = .ok c ∧
      (c.RejectsMalformed (WirePacket.serialize ⟨1, 1000003, 1472⟩) ⟨1, 9⟩ ⟨1, 10⟩ ↔
        HasWireForm (WirePacket.serialize ⟨1, 1000003, 1472⟩) ∧
          (WirePacket.serialize ⟨1, 1000003, 1472⟩).head? ≠ some 0 ∧
          0 ∈ receiveInto (WirePacket.serialize ⟨1, 1000003, 1472⟩) ∧
          ∃ info, c.connection.map.info?
            (digitsValue (field (WirePacket.serialize ⟨1, 1000003, 1472⟩) 0)) = some info) := by
  obtain ⟨c, hrun, _⟩ := PartialRun.exists_of_endsIn (p := fun _ => true)
    (r := exec (create ⟨0, 0⟩ fun _ => 0) firstSend) (by decide +kernel)
  exact ⟨c, hrun, rejectsMalformed_iff hrun _ _ _⟩

/-- Blanks and a `1` in the place of the packet number, then two fields of zeros. -/
def blankEcho : List UInt8 := 48 :: List.replicate 9 32 ++ 49 :: List.replicate 20 48

/-- A single byte makes the parser throw; blanks in front of a digit are taken for the echo of
packet 1. -/
theorem malformed_not_rejected :
    ∃ c, exec (create ⟨0, 0⟩ fun _ => 0) firstSend = .ok c ∧
      (¬ HasWireForm [48] ∧
        c.onDatagramReceived [48] ⟨1, 9⟩ ⟨1, 10⟩ =
          .error (.parse (.exception .invalidArgument)) ∧
        ¬ c.RejectsMalformed [48] ⟨1, 9⟩ ⟨1, 10⟩) ∧
      ¬ HasWireForm blankEcho ∧
        unSerialize (receiveInto blankEcho) = .ok ⟨1, 0, 0⟩ ∧
        ¬ c.RejectsMalformed blankEcho ⟨1, 9⟩ ⟨1, 10⟩ := by
  obtain ⟨c, hrun, _⟩ := PartialRun.exists_of_endsIn (p := fun _ => true)
    (r := exec (create ⟨0, 0⟩ fun _ => 0) firstSend) (by decide +kernel)
  have hsynced := exec_synced hrun
  have hshort : ¬ HasWireForm [48] := by decide
  have hblank : ¬ HasWireForm blankEcho := by decide
  have hthrows : unSerialize (receiveInto [48]) = .error (.exception .invalidArgument) := by
    decide +kernel
  refine ⟨c, hrun, ⟨hshort, ?_, not_rejectsMalformed hsynced hshort _ _⟩, hblank, ?_,
    not_rejectsMalformed hsynced hblank _ _⟩
  · simp only [onDatagramReceived, hthrows]
  · decide +kernel

end Client

end BbrChrome
