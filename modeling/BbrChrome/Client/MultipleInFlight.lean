import BbrChrome.Client.ClientRun

/-!
# Several packets in flight

`HasMultipleInFlightPackets` takes more than `kDefaultTCPMSS` bytes in flight for more than
one packet and counts the packets only below that. The packets of this program have
`DEFAULT_PACKET_SIZE` bytes, which is more.
-/

namespace BbrChrome

namespace QuicUnackedPacketMap

/-- The loop over the packets, left as soon as a second one in flight is found. -/
def findsSecondInFlight : List QuicTransmissionInfo → Nat → Bool
  | [], _ => false
  | info :: infos, numInFlight =>
      let numInFlight := if info.inFlight then numInFlight + 1 else numInFlight
      if 1 < numInFlight then true else findsSecondInFlight infos numInFlight

/-- The loop runs from the last packet sent back to the first. -/
def hasMultipleInFlightPackets (map : QuicUnackedPacketMap) : Bool :=
  if kDefaultTCPMSS < map.bytesInFlight then true
  else findsSecondInFlight map.unackedPackets.reverse 0

variable {map : QuicUnackedPacketMap}

theorem findsSecondInFlight_iff {infos : List QuicTransmissionInfo} {numInFlight : Nat}
    (hcount : numInFlight ≤ 1) :
    findsSecondInFlight infos numInFlight = true ↔
      1 < numInFlight + (infos.filter (·.inFlight)).length := by
  induction infos generalizing numInFlight with
  | nil =>
      simp only [findsSecondInFlight, List.filter_nil, List.length_nil]
      exact iff_of_false Bool.false_ne_true (by omega)
  | cons info infos ih =>
      unfold findsSecondInFlight
      cases hflight : info.inFlight with
      | false => simpa [hflight, Nat.not_lt_of_le hcount] using ih hcount
      | true =>
          simp only [if_true, List.filter_cons, hflight, List.length_cons]
          by_cases hsecond : 1 < numInFlight + 1
          · rw [if_pos hsecond]
            exact iff_of_true rfl (by omega)
          · rw [if_neg hsecond, ih (Nat.le_of_not_lt hsecond)]
            omega

/-- What the method decides in a well-formed map. -/
theorem WellFormed.hasMultipleInFlightPackets_iff (h : map.WellFormed) :
    map.hasMultipleInFlightPackets = true ↔
      kDefaultTCPMSS < map.bytesInFlight ∨ 1 < map.packetsInFlight := by
  have hcount : (map.unackedPackets.reverse.filter (·.inFlight)).length =
      map.packetsInFlight := by
    rw [h.packets, List.filter_reverse, List.length_reverse]
    simp [flightSum, Slots.weight]
  unfold hasMultipleInFlightPackets
  split
  · next hbytes => exact iff_of_true rfl (.inl hbytes)
  · next hbytes =>
      rw [findsSecondInFlight_iff (Nat.zero_le 1), Nat.zero_add, hcount]
      exact (or_iff_right hbytes).symm

end QuicUnackedPacketMap

namespace Connection

open QuicUnackedPacketMap

variable {σ : Type} {c : Connection σ}

theorem WholePackets.create [SendAlgorithmInterface σ] (sendAlgorithm : σ) :
    (create sendAlgorithm).WholePackets :=
  ⟨create_atRest sendAlgorithm, by simp [Connection.create, info?]⟩

/-- With packets of the default size any packet in flight passes for several. -/
theorem WholePackets.hasMultipleInFlightPackets_iff (h : c.WholePackets) :
    c.map.hasMultipleInFlightPackets = true ↔ c.map.packetsInFlight ≠ 0 := by
  have hbytes := h.bytesInFlight
  have hsize : defaultPacketSize = kDefaultTCPMSS + 12 := rfl
  rw [h.atRest.manager.map.hasMultipleInFlightPackets_iff]
  show kDefaultTCPMSS < c.map.bytesInFlight ∨ 1 < c.map.packetsInFlight ↔ _
  rw [hbytes, hsize]
  constructor
  · rintro (hmany | hmany) hzero
    · rw [hzero, Nat.mul_zero] at hmany
      cases hmany
    · omega
  · intro hne
    left
    have hone := Nat.mul_le_mul_left (kDefaultTCPMSS + 12) (Nat.one_le_iff_ne_zero.mpr hne)
    omega

variable [SendAlgorithmInterface σ]

theorem exec_wholePackets {sendAlgorithm : σ} {ops : List Operation}
    (hdefault : ∀ op ∈ ops, Client.SendsDefault op)
    (hrun : exec (create sendAlgorithm) ops = .ok c) : c.WholePackets := by
  have halong : PartialRun.Along step (fun _ op => Client.SendsDefault op)
      (create sendAlgorithm) ops := by
    refine PartialRun.along_iff_prefix.mpr fun pre op post _ hsplit _ => hdefault op ?_
    rw [hsplit]
    simp
  exact PartialRun.invariant_along (fun _ _ _ h hop hs => h.step hop hs)
    (WholePackets.create sendAlgorithm) halong hrun

/-- The method agrees with the counter exactly in the states without a single packet in
flight. -/
theorem multipleInFlight_agrees_iff (sendAlgorithm : σ) (ops : List Operation)
    (hdefault : ∀ op ∈ ops, Client.SendsDefault op)
    (hrun : exec (create sendAlgorithm) ops = .ok c) :
    (c.map.hasMultipleInFlightPackets = true ↔ 1 < c.map.packetsInFlight) ↔
      c.map.packetsInFlight ≠ 1 := by
  rw [(exec_wholePackets hdefault hrun).hasMultipleInFlightPackets_iff]
  omega

/-- One packet has been sent. -/
theorem single_packet_passes_for_several :
    ∃ c, exec (bbr2Connection 1 fun _ => 0) [.send defaultPacketLength 1000] = .ok c ∧
      c.map.packetsInFlight = 1 ∧ c.map.hasMultipleInFlightPackets = true := by
  obtain ⟨c, hrun, hends⟩ := PartialRun.exists_of_endsIn
    (p := fun c : Connection Bbr2Sender =>
      decide (c.map.packetsInFlight = 1) && c.map.hasMultipleInFlightPackets)
    (r := exec (bbr2Connection 1 fun _ => 0) [.send defaultPacketLength 1000])
    (by decide +kernel)
  rw [Bool.and_eq_true, decide_eq_true_eq] at hends
  exact ⟨c, hrun, hends⟩

theorem multipleInFlight_agrees_of_two_sends :
    ∃ c, exec (bbr2Connection 1 fun _ => 0)
        [.send defaultPacketLength 1000, .send defaultPacketLength 1100] = .ok c ∧
      ((c.map.hasMultipleInFlightPackets = true ↔ 1 < c.map.packetsInFlight) ↔
        c.map.packetsInFlight ≠ 1) := by
  obtain ⟨c, hrun, _⟩ := PartialRun.exists_of_endsIn (p := fun _ => true)
    (r := exec (bbr2Connection 1 fun _ => 0)
      [.send defaultPacketLength 1000, .send defaultPacketLength 1100])
    (by decide +kernel)
  exact ⟨c, hrun, multipleInFlight_agrees_iff _ _ (by simp [Client.SendsDefault]) hrun⟩

end Connection

end BbrChrome
