import BbrChrome.Quic.LookupSafety

/-!
# Accounting of the packet map

What the deque, its counters and the per-packet states say about each other between
two operations.
-/

namespace BbrChrome

/-- Counters, numbers and states of the map agree. The number behind the last slot is
tied to `largestSentPacket` once there is one; before that the map is untouched. -/
structure QuicUnackedPacketMap.Accounted (map : QuicUnackedPacketMap) : Prop where
  bytes : map.bytesInFlight = ((map.unackedPackets.filter (·.inFlight)).map (·.bytesSent)).sum
  packets : map.packetsInFlight = (map.unackedPackets.filter (·.inFlight)).length
  number : ∀ (i : Nat) (info : QuicTransmissionInfo), map.unackedPackets[i]? = some info →
    info.packetNumber = .number (map.leastUnacked + i)
  last : ∀ largest, map.largestSentPacket = .number largest →
    map.leastUnacked + map.unackedPackets.length = largest + 1
  unsent : map.largestSentPacket = .uninitialized →
    map.unackedPackets = [] ∧ map.leastUnacked = 1
  outstanding : ∀ info ∈ map.unackedPackets, info.state = .outstanding ↔ info.inFlight = true
  front : ∀ info, map.unackedPackets.head? = some info → info.inFlight = true
  empty_iff : map.unackedPackets = [] ↔ map.bytesInFlight = 0

/-- The map is empty and stands behind the last packet sent, if any. -/
structure QuicUnackedPacketMap.Swept (map : QuicUnackedPacketMap) : Prop where
  empty : map.unackedPackets = []
  least : ∀ largest, map.largestSentPacket = .number largest → map.leastUnacked = largest + 1

namespace QuicSentPacketManager

variable {σ : Type} {m : QuicSentPacketManager σ}

theorem Consistent.nextNumber_eq (h : m.Consistent) {largest : Nat}
    (hlargest : m.unackedPackets.largestSentPacket = .number largest) :
    m.unackedPackets.nextNumber = largest + 1 := by
  have hl := h.largest
  have hleast := h.least
  rw [hlargest] at hl
  split at hl
  · cases hl
  · cases hl
    unfold QuicUnackedPacketMap.nextNumber
    omega

theorem AtRest.accounted (h : m.AtRest) : m.unackedPackets.Accounted where
  bytes := h.map.bytes
  packets := by
    rw [h.map.packets]
    simp [QuicUnackedPacketMap.flightSum, Slots.weight]
  number := by
    intro i info hi
    refine (h.map.slot (m.unackedPackets.leastUnacked + i) info ?_).number
    exact QuicUnackedPacketMap.info?_eq_some.mpr ⟨by omega, by simpa using hi⟩
  last := fun largest hlargest => h.nextNumber_eq hlargest
  unsent := by
    intro hnone
    have hl := h.largest
    have hleast := h.least
    rw [hnone] at hl
    split at hl
    · rename_i hnext
      unfold QuicUnackedPacketMap.nextNumber at hnext
      exact ⟨List.length_eq_zero_iff.mp (by omega), by omega⟩
    · cases hl
  outstanding := by
    intro info hmem
    obtain ⟨n, hn⟩ := QuicUnackedPacketMap.exists_info_of_mem hmem
    exact (h.map.slot n info hn).outstanding_iff
  front := by
    intro info hhead
    rw [List.head?_eq_getElem?] at hhead
    have hi : m.unackedPackets.info? m.unackedPackets.leastUnacked = some info :=
      QuicUnackedPacketMap.info?_eq_some.mpr ⟨le_refl _, by simpa using hhead⟩
    obtain ⟨info', hi', hf⟩ := h.front (QuicUnackedPacketMap.range_of_info hi).2
    cases hi.symm.trans hi'
    exact hf
  empty_iff := by
    constructor
    · intro hnil
      rw [h.map.bytes]
      simp [QuicUnackedPacketMap.flightSum, hnil]
    · intro hzero
      by_contra hne
      have hlen : m.unackedPackets.unackedPackets.length ≠ 0 :=
        fun h => hne (List.length_eq_zero_iff.mp h)
      have hfront := h.front (by unfold QuicUnackedPacketMap.nextNumber; omega)
      have hpos := h.map.bytes_pos_iff.mpr ⟨_, hfront⟩
      omega

end QuicSentPacketManager

namespace Connection

variable {σ : Type} {c : Connection σ}

variable [SendAlgorithmInterface σ]

theorem AtRest.timeout_swept (h : c.AtRest) (hmode : c.manager.getRetransmissionMode = .rtoMode)
    (now : Int) : ∃ c', step c (.timeout now) = .ok c' ∧ c'.map.Swept := by
  have hidle : c.manager.lossAlgorithm.lossDetectionTimeout = 0 := by
    by_contra hne
    simp [QuicSentPacketManager.getRetransmissionMode, hne] at hmode
  exact ⟨_, timeout_rto h.manager hidle now, rfl,
    fun _ hlargest => h.manager.nextNumber_eq hlargest⟩

/-- No counter ever wraps, and between two operations the map is accounted for. -/
theorem exec_accounted (sendAlgorithm : σ) (ops : List Operation) :
    exec (create sendAlgorithm) ops ≠ .error .wrapped ∧
      ∀ c, exec (create sendAlgorithm) ops = .ok c →
        c.map.Accounted ∧
          (c.manager.getRetransmissionMode = .rtoMode →
            ∀ now, ∃ c', step c (.timeout now) = .ok c' ∧ c'.map.Swept) := by
  refine ⟨fun herr => ?_, fun c hrun => ?_⟩
  · obtain ⟨n, least, size, heq⟩ := exec_error herr
    cases heq
  · have h := exec_atRest hrun
    exact ⟨h.manager.accounted, h.timeout_swept⟩

/-- After acks out of order and losses the retransmission timer sweeps what is in flight. -/
theorem exec_accounted_of_reorderedRun :
    ∃ c, exec (bbr2Connection 1 fun _ => 0) (reorderedRun.take 11) = .ok c ∧ c.map.Accounted ∧
      ∃ c', step c (.timeout 900000) = .ok c' ∧ c'.map.Swept := by
  obtain ⟨c, hrun, hmode⟩ := PartialRun.exists_of_endsIn
    (p := fun c => c.manager.getRetransmissionMode == .rtoMode)
    (r := exec (bbr2Connection 1 fun _ => 0) (reorderedRun.take 11)) (by decide +kernel)
  obtain ⟨haccounted, hswept⟩ := (exec_accounted _ (reorderedRun.take 11)).2 c hrun
  exact ⟨c, hrun, haccounted, hswept (eq_of_beq hmode) 900000⟩

/-- A timeout before the first packet leaves `largestSentPacket` at the sentinel, whose
successor is not the number behind the empty deque. -/
theorem timeout_before_first_send :
    ∃ c, exec (bbr2Connection 1 fun _ => 0) [.timeout 1000] = .ok c ∧
      c.map.leastUnacked + c.map.unackedPackets.length ≠
        addUint64 c.map.largestSentPacket.toUint64 1 :=
  ⟨_, rfl, by decide +kernel⟩

end Connection

end BbrChrome
