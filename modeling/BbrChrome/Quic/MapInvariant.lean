import BbrChrome.Quic.UnackedPacketMap

/-!
# Invariant of the packet map

`WellFormed` ties the counters of the map and the states of its slots together.
`settle` is the net effect of taking a packet out of flight and giving it its
final state; it keeps the invariant, as do sending and the cleanup of the front.
-/

namespace BbrChrome

/-- What every slot satisfies, given its number. -/
structure QuicTransmissionInfo.Settled (n : Nat) (info : QuicTransmissionInfo) : Prop where
  number : info.packetNumber = .number n
  pos : 0 < info.bytesSent
  state : (info.inFlight = true ∧ info.state = .outstanding) ∨
    (info.inFlight = false ∧ (info.state = .acked ∨ info.state = .neverSent))

namespace QuicTransmissionInfo.Settled

variable {n : Nat} {info : QuicTransmissionInfo}

theorem outstanding_iff (h : info.Settled n) :
    info.state = .outstanding ↔ info.inFlight = true := by
  rcases h.state with ⟨hf, hs⟩ | ⟨hf, hs | hs⟩ <;> simp [hf, hs]

theorem useless_iff (h : info.Settled n) :
    QuicUnackedPacketMap.isPacketUseless info = true ↔ info.inFlight = false := by
  rcases h.state with ⟨hf, hs⟩ | ⟨hf, hs | hs⟩ <;>
    simp [QuicUnackedPacketMap.isPacketUseless,
      QuicUnackedPacketMap.isPacketUsefulForMeasuringRtt,
      QuicUnackedPacketMap.isPacketUsefulForCongestionControl, SentPacketState.isAckable, hf, hs]

theorem state_ne_lost (h : info.Settled n) : info.state ≠ .lost := by
  rcases h.state with ⟨_, hs⟩ | ⟨_, hs | hs⟩ <;> simp [hs]

end QuicTransmissionInfo.Settled

namespace QuicUnackedPacketMap

def InFlight (map : QuicUnackedPacketMap) (n : Nat) : Prop :=
  ∃ info, map.info? n = some info ∧ info.inFlight = true

instance (map : QuicUnackedPacketMap) (n : Nat) : Decidable (map.InFlight n) :=
  decidable_of_iff ((map.info? n).any (·.inFlight) = true) (by
    unfold InFlight
    cases map.info? n <;> simp)

def flightSum (map : QuicUnackedPacketMap) (w : QuicTransmissionInfo → Nat) : Nat :=
  Slots.weight (·.inFlight) w map.unackedPackets

structure WellFormed (map : QuicUnackedPacketMap) : Prop where
  slot : ∀ n info, map.info? n = some info → info.Settled n
  bytes : map.bytesInFlight = map.flightSum (·.bytesSent)
  packets : map.packetsInFlight = map.flightSum (fun _ => 1)

/-- One above the highest number of the map. -/
def nextNumber (map : QuicUnackedPacketMap) : Nat :=
  map.leastUnacked + map.unackedPackets.length

variable {map : QuicUnackedPacketMap} {n k : Nat} {info : QuicTransmissionInfo}

theorem info?_eq_some :
    map.info? n = some info ↔
      map.leastUnacked ≤ n ∧ map.unackedPackets[n - map.leastUnacked]? = some info := by
  unfold info?
  split <;> simp_all

/-- A lookup stays inside the deque exactly when the number is in range. -/
theorem info?_isSome_iff :
    (map.info? n).isSome = true ↔ map.leastUnacked ≤ n ∧ n < map.nextNumber := by
  unfold info? nextNumber
  split
  · simp
    omega
  · rw [Option.isSome_iff_exists]
    constructor
    · rintro ⟨info, hi⟩
      have := (List.getElem?_eq_some_iff.mp hi).1
      omega
    · intro h
      exact ⟨_, List.getElem?_eq_getElem (by omega)⟩

theorem exists_info (h : map.leastUnacked ≤ n) (hn : n < map.nextNumber) :
    ∃ info, map.info? n = some info :=
  Option.isSome_iff_exists.mp (info?_isSome_iff.mpr ⟨h, hn⟩)

theorem range_of_info (h : map.info? n = some info) :
    map.leastUnacked ≤ n ∧ n < map.nextNumber :=
  info?_isSome_iff.mp (by rw [h]; rfl)

theorem InFlight.range (h : map.InFlight n) : map.leastUnacked ≤ n ∧ n < map.nextNumber := by
  rcases h with ⟨info, hi, _⟩
  exact range_of_info hi

theorem mem_of_info (h : map.info? n = some info) : info ∈ map.unackedPackets :=
  List.mem_of_getElem? (info?_eq_some.mp h).2

theorem exists_info_of_mem (h : info ∈ map.unackedPackets) : ∃ n, map.info? n = some info := by
  obtain ⟨i, hi⟩ := List.getElem?_of_mem h
  exact ⟨map.leastUnacked + i, info?_eq_some.mpr ⟨by omega, by simpa using hi⟩⟩

theorem getTransmissionInfo_of_info (h : map.info? n = some info) :
    map.getTransmissionInfo n = .ok info := by
  simp [getTransmissionInfo, h]

theorem isUnacked_iff (h : map.WellFormed) : map.isUnacked n = true ↔ map.InFlight n := by
  unfold isUnacked InFlight
  cases hi : map.info? n with
  | none => simp
  | some info =>
      have hu := (h.slot n info hi).useless_iff
      cases hf : info.inFlight <;> cases hb : isPacketUseless info <;> simp_all

theorem flightSum_eq_zero {w : QuicTransmissionInfo → Nat} (h : ∀ n, ¬ map.InFlight n) :
    map.flightSum w = 0 := by
  apply Slots.weight_eq_zero
  intro info hmem
  obtain ⟨n, hn⟩ := exists_info_of_mem hmem
  cases hf : info.inFlight with
  | false => rfl
  | true => exact absurd ⟨info, hn, hf⟩ (h n)

namespace WellFormed

theorem bytes_le (h : map.WellFormed) (hi : map.info? n = some info) (hf : info.inFlight = true) :
    info.bytesSent ≤ map.bytesInFlight := by
  rw [h.bytes]
  exact Slots.le_weight (mem_of_info hi) hf

theorem one_le_packets (h : map.WellFormed) (hi : map.info? n = some info)
    (hf : info.inFlight = true) : 1 ≤ map.packetsInFlight := by
  rw [h.packets]
  exact Slots.le_weight (w := fun _ => 1) (mem_of_info hi) hf

theorem bytes_pos_iff (h : map.WellFormed) : 0 < map.bytesInFlight ↔ ∃ n, map.InFlight n := by
  constructor
  · intro hpos
    by_contra hno
    rw [h.bytes, flightSum_eq_zero (fun n hn => hno ⟨n, hn⟩)] at hpos
    omega
  · rintro ⟨n, info, hi, hf⟩
    have hpos := (h.slot n info hi).pos
    have hle := h.bytes_le hi hf
    omega

theorem hasInFlightPackets_iff (h : map.WellFormed) :
    map.hasInFlightPackets = true ↔ ∃ n, map.InFlight n := by
  rw [← h.bytes_pos_iff]
  simp [hasInFlightPackets]

end WellFormed

/-! ## Settling a packet -/

def settleInfo (info : QuicTransmissionInfo) (state : SentPacketState) : QuicTransmissionInfo :=
  { info with inFlight := false, state }

/-- The net effect of `RemoveFromInFlight` and the assignment of a state. -/
def settle (map : QuicUnackedPacketMap) (n : Nat) (state : SentPacketState) :
    QuicUnackedPacketMap :=
  let leaving := (map.info? n).filter (·.inFlight)
  { map.modifyInfo n (settleInfo · state) with
    bytesInFlight := map.bytesInFlight - (leaving.map (·.bytesSent)).getD 0
    packetsInFlight := map.packetsInFlight - (leaving.map (fun _ => 1)).getD 0 }

variable {state : SentPacketState}

@[simp] theorem settle_leastUnacked : (map.settle n state).leastUnacked = map.leastUnacked := rfl

@[simp] theorem settle_largestSentPacket :
    (map.settle n state).largestSentPacket = map.largestSentPacket := rfl

@[simp] theorem settle_lastInflightPacketSentTime :
    (map.settle n state).lastInflightPacketSentTime = map.lastInflightPacketSentTime := rfl

@[simp] theorem settle_nextNumber : (map.settle n state).nextNumber = map.nextNumber := by
  simp [settle, nextNumber, modifyInfo]

variable (state) in
theorem removeFromInFlight_settle (h : map.WellFormed) (hi : map.info? n = some info) :
    ∃ mid, map.removeFromInFlight n = .ok mid ∧ mid.setState n state = map.settle n state := by
  unfold removeFromInFlight
  rw [getTransmissionInfo_of_info hi]
  cases hf : info.inFlight with
  | true =>
      have hle := h.bytes_le hi hf
      have hone := h.one_le_packets hi hf
      refine ⟨_, by simp [bind, Except.bind, hf, hle, hone]; rfl, ?_⟩
      simp only [setState, modifyInfo, settle, hi, Option.filter, hf, List.modify_modify_eq]
      rfl
  | false =>
      refine ⟨map, by simp [bind, Except.bind, hf], ?_⟩
      have hslot := (info?_eq_some.mp hi).2
      have hmod : map.unackedPackets.modify (n - map.leastUnacked) (fun i => { i with state }) =
          map.unackedPackets.modify (n - map.leastUnacked) (settleInfo · state) := by
        apply List.ext_getElem?
        intro j
        rw [List.getElem?_modify, List.getElem?_modify]
        by_cases hj : n - map.leastUnacked = j
        · subst j
          rw [hslot]
          simp [settleInfo, hf]
        · simp [hj]
      simp [setState, modifyInfo, settle, hi, Option.filter, hf, hmod]

theorem settle_info? (hi : map.info? n = some info) (k : Nat) :
    (map.settle n state).info? k =
      if k = n then some (settleInfo info state) else map.info? k := by
  obtain ⟨hle, hslot⟩ := info?_eq_some.mp hi
  unfold info?
  rw [settle_leastUnacked]
  by_cases hk : k < map.leastUnacked
  · rw [if_pos hk, if_pos hk, if_neg (by omega)]
  · rw [if_neg hk, if_neg hk]
    simp only [settle, modifyInfo, List.getElem?_modify]
    by_cases hkn : k = n
    · subst k
      simp [hslot]
    · have hidx : n - map.leastUnacked ≠ k - map.leastUnacked := by omega
      simp [hkn, hidx]

theorem settle_inFlight (hi : map.info? n = some info) :
    (map.settle n state).InFlight k ↔ map.InFlight k ∧ k ≠ n := by
  unfold InFlight
  rw [settle_info? hi]
  by_cases hkn : k = n
  · subst k
    simp [settleInfo]
  · simp [hkn]

variable (state) in
theorem flightSum_settle (hi : map.info? n = some info) (w : QuicTransmissionInfo → Nat) :
    (map.settle n state).flightSum w + (if info.inFlight then w info else 0) =
      map.flightSum w := by
  have h := Slots.weight_modify (p := (·.inFlight)) (w := w) (info?_eq_some.mp hi).2
    (settleInfo · state)
  simpa [flightSum, settle, modifyInfo, settleInfo] using h

theorem settle_bytesInFlight (hi : map.info? n = some info) :
    (map.settle n state).bytesInFlight =
      map.bytesInFlight - (if info.inFlight then info.bytesSent else 0) := by
  simp only [settle, hi]
  cases hf : info.inFlight <;> simp [Option.filter, hf]

theorem settle_packetsInFlight (hi : map.info? n = some info) :
    (map.settle n state).packetsInFlight =
      map.packetsInFlight - (if info.inFlight then 1 else 0) := by
  simp only [settle, hi]
  cases hf : info.inFlight <;> simp [Option.filter, hf]

variable (state) in
theorem WellFormed.settle (h : map.WellFormed) (hi : map.info? n = some info)
    (hs : state = .acked ∨ state = .neverSent) : (map.settle n state).WellFormed where
  slot := by
    intro k kinfo hk
    rw [settle_info? hi] at hk
    by_cases hkn : k = n
    · subst k
      rw [if_pos rfl, Option.some.injEq] at hk
      subst kinfo
      have hold := h.slot n info hi
      exact ⟨hold.number, hold.pos, .inr ⟨rfl, hs⟩⟩
    · rw [if_neg hkn] at hk
      exact h.slot k kinfo hk
  bytes := by
    have hsum := flightSum_settle state hi (·.bytesSent)
    rw [settle_bytesInFlight hi, h.bytes]
    omega
  packets := by
    have hsum := flightSum_settle state hi (fun _ => 1)
    rw [settle_packetsInFlight hi, h.packets]
    omega

/-- Settle several packets, as the loop over the lost packets does. -/
def settleAll (map : QuicUnackedPacketMap) (state : SentPacketState) :
    List Nat → QuicUnackedPacketMap
  | [] => map
  | n :: ns => (map.settle n state).settleAll state ns

variable {ns : List Nat}

@[simp] theorem settleAll_leastUnacked :
    (map.settleAll state ns).leastUnacked = map.leastUnacked := by
  induction ns generalizing map with
  | nil => rfl
  | cons n ns ih => rw [settleAll, ih, settle_leastUnacked]

@[simp] theorem settleAll_nextNumber : (map.settleAll state ns).nextNumber = map.nextNumber := by
  induction ns generalizing map with
  | nil => rfl
  | cons n ns ih => rw [settleAll, ih, settle_nextNumber]

@[simp] theorem settleAll_largestSentPacket :
    (map.settleAll state ns).largestSentPacket = map.largestSentPacket := by
  induction ns generalizing map with
  | nil => rfl
  | cons n ns ih => rw [settleAll, ih, settle_largestSentPacket]

theorem settle_exists_info (hn : ∃ info, map.info? n = some info)
    (hk : ∃ info, map.info? k = some info) : ∃ info, (map.settle n state).info? k = some info := by
  rcases hn with ⟨info, hi⟩
  rw [settle_info? hi]
  by_cases hkn : k = n
  · exact ⟨_, if_pos hkn⟩
  · rwa [if_neg hkn]

theorem WellFormed.settleAll (h : map.WellFormed)
    (hns : ∀ n ∈ ns, ∃ info, map.info? n = some info)
    (hs : state = .acked ∨ state = .neverSent) : (map.settleAll state ns).WellFormed := by
  induction ns generalizing map with
  | nil => exact h
  | cons n ns ih =>
      have hn := hns n (by simp)
      rcases hn with ⟨info, hi⟩
      apply ih (h.settle state hi hs)
      intro k hk
      exact settle_exists_info ⟨info, hi⟩ (hns k (by simp [hk]))

theorem settleAll_inFlight (hns : ∀ n ∈ ns, ∃ info, map.info? n = some info) :
    (map.settleAll state ns).InFlight k ↔ map.InFlight k ∧ k ∉ ns := by
  induction ns generalizing map with
  | nil => simp [settleAll]
  | cons n ns ih =>
      obtain ⟨info, hi⟩ := hns n (by simp)
      rw [settleAll, ih fun k hk => settle_exists_info ⟨info, hi⟩ (hns k (by simp [hk])),
        settle_inFlight hi, List.mem_cons]
      tauto

theorem settleAll_info?_of_not_mem (hns : ∀ n ∈ ns, ∃ info, map.info? n = some info)
    (hk : k ∉ ns) : (map.settleAll state ns).info? k = map.info? k := by
  induction ns generalizing map with
  | nil => rfl
  | cons n ns ih =>
      obtain ⟨info, hi⟩ := hns n (by simp)
      rw [List.mem_cons, not_or] at hk
      rw [settleAll, ih (fun k hk => settle_exists_info ⟨info, hi⟩ (hns k (by simp [hk]))) hk.2,
        settle_info? hi, if_neg hk.1]

theorem settleAll_info?_some (hns : ∀ n ∈ ns, ∃ info, map.info? n = some info)
    (hk : (map.settleAll state ns).info? k = some info) :
    ∃ old, map.info? k = some old ∧ old.bytesSent = info.bytesSent ∧
      old.sentTime = info.sentTime := by
  induction ns generalizing map with
  | nil => exact ⟨info, hk, rfl, rfl⟩
  | cons n ns ih =>
      obtain ⟨ninfo, hi⟩ := hns n (by simp)
      obtain ⟨mid, hmid, hb, ht⟩ :=
        ih (fun k hk => settle_exists_info ⟨ninfo, hi⟩ (hns k (by simp [hk]))) hk
      rw [settle_info? hi] at hmid
      by_cases hkn : k = n
      · subst k
        rw [if_pos rfl, Option.some.injEq] at hmid
        subst mid
        exact ⟨ninfo, hi, hb, ht⟩
      · rw [if_neg hkn] at hmid
        exact ⟨mid, hmid, hb, ht⟩

/-- Taking lost packets out of flight moves their bytes from the flight to the losses. -/
theorem settleAll_bytesInFlight (h : map.WellFormed) {lost : List LostPacket}
    (hnd : (lost.map (·.packetNumber)).Nodup)
    (hl : ∀ p ∈ lost, ∃ info, map.info? p.packetNumber = some info ∧ info.inFlight = true ∧
      info.bytesSent = p.bytesLost) :
    (map.settleAll .neverSent (lost.map (·.packetNumber))).bytesInFlight +
      (lost.map (·.bytesLost)).sum = map.bytesInFlight := by
  induction lost generalizing map with
  | nil => simp [settleAll]
  | cons p lost ih =>
      obtain ⟨info, hi, hf, hb⟩ := hl p (by simp)
      rw [List.map_cons, List.nodup_cons] at hnd
      have hrest := ih (h.settle .neverSent hi (.inr rfl)) hnd.2 fun q hq => by
        obtain ⟨qinfo, hqi, hqf, hqb⟩ := hl q (by simp [hq])
        have hne : q.packetNumber ≠ p.packetNumber := by
          intro heq
          exact hnd.1 (List.mem_map.mpr ⟨q, hq, heq⟩)
        exact ⟨qinfo, by rw [settle_info? hi, if_neg hne, hqi], hqf, hqb⟩
      have hle := h.bytes_le hi hf
      rw [settle_bytesInFlight hi, if_pos hf] at hrest
      simp only [List.map_cons, settleAll, List.sum_cons]
      omega

/-! ## Sending -/

def sentInfo (packet : SerializedPacket) (sentTime : Int) : QuicTransmissionInfo :=
  { packetNumber := .number packet.packetNumber, sentTime
    bytesSent := packet.encryptedLength.bytes, inFlight := true }

variable {packet : SerializedPacket} {sentTime : Int}

theorem addSentPacket_unackedPackets (hn : packet.packetNumber = map.nextNumber) :
    (map.addSentPacket packet sentTime true).unackedPackets =
      map.unackedPackets ++ [sentInfo packet sentTime] := by
  unfold nextNumber at hn
  simp [addSentPacket, hn, sentInfo]

@[simp] theorem addSentPacket_leastUnacked :
    (map.addSentPacket packet sentTime true).leastUnacked = map.leastUnacked := rfl

@[simp] theorem addSentPacket_largestSentPacket :
    (map.addSentPacket packet sentTime true).largestSentPacket = .number packet.packetNumber := rfl

@[simp] theorem addSentPacket_bytesInFlight :
    (map.addSentPacket packet sentTime true).bytesInFlight =
      map.bytesInFlight + packet.encryptedLength.bytes := rfl

theorem addSentPacket_nextNumber (hn : packet.packetNumber = map.nextNumber) :
    (map.addSentPacket packet sentTime true).nextNumber = map.nextNumber + 1 := by
  rw [nextNumber, addSentPacket_unackedPackets hn, addSentPacket_leastUnacked, nextNumber]
  simp
  omega

theorem addSentPacket_info? (hn : packet.packetNumber = map.nextNumber) (k : Nat) :
    (map.addSentPacket packet sentTime true).info? k =
      if k = map.nextNumber then some (sentInfo packet sentTime) else map.info? k := by
  unfold info?
  rw [addSentPacket_unackedPackets hn, addSentPacket_leastUnacked]
  unfold nextNumber
  by_cases hk : k < map.leastUnacked
  · rw [if_pos hk, if_pos hk, if_neg (by omega)]
  · rw [if_neg hk, if_neg hk, List.getElem?_append]
    by_cases hkn : k = map.leastUnacked + map.unackedPackets.length
    · subst k
      simp
    · rw [if_neg hkn]
      by_cases hlt : k - map.leastUnacked < map.unackedPackets.length
      · rw [if_pos hlt]
      · rw [if_neg hlt, List.getElem?_eq_none (by simp; omega),
          List.getElem?_eq_none (by omega)]

theorem addSentPacket_inFlight (hn : packet.packetNumber = map.nextNumber) :
    (map.addSentPacket packet sentTime true).InFlight k ↔ k = map.nextNumber ∨ map.InFlight k := by
  unfold InFlight
  rw [addSentPacket_info? hn]
  by_cases hk : k = map.nextNumber
  · simp [hk, sentInfo]
  · simp [hk]

theorem WellFormed.addSentPacket (h : map.WellFormed)
    (hn : packet.packetNumber = map.nextNumber) :
    (map.addSentPacket packet sentTime true).WellFormed where
  slot := by
    intro k kinfo hk
    rw [addSentPacket_info? hn] at hk
    by_cases hkn : k = map.nextNumber
    · rw [if_pos hkn, Option.some.injEq] at hk
      subst kinfo
      exact ⟨by rw [hkn, ← hn]; rfl, packet.encryptedLength.pos, .inl ⟨rfl, rfl⟩⟩
    · rw [if_neg hkn] at hk
      exact h.slot k kinfo hk
  bytes := by
    rw [flightSum, addSentPacket_unackedPackets hn, Slots.weight_append, Slots.weight_cons]
    simp only [sentInfo, if_true, Slots.weight_nil, Nat.add_zero]
    rw [← flightSum, ← h.bytes]
    rfl
  packets := by
    rw [flightSum, addSentPacket_unackedPackets hn, Slots.weight_append, Slots.weight_cons]
    simp only [sentInfo, if_true, Slots.weight_nil, Nat.add_zero]
    rw [← flightSum, ← h.packets]
    rfl

/-! ## Cleaning up the front -/

@[simp] theorem removeObsoletePackets_bytesInFlight :
    map.removeObsoletePackets.bytesInFlight = map.bytesInFlight := rfl

@[simp] theorem removeObsoletePackets_packetsInFlight :
    map.removeObsoletePackets.packetsInFlight = map.packetsInFlight := rfl

@[simp] theorem removeObsoletePackets_largestSentPacket :
    map.removeObsoletePackets.largestSentPacket = map.largestSentPacket := rfl

@[simp] theorem removeObsoletePackets_nextNumber :
    map.removeObsoletePackets.nextNumber = map.nextNumber :=
  Slots.popWhile_end _ _ _

theorem le_removeObsoletePackets : map.leastUnacked ≤ map.removeObsoletePackets.leastUnacked := by
  obtain ⟨dropped, _, hn, _⟩ := Slots.popWhile_spec (fun _ info => isPacketUseless info)
    map.leastUnacked map.unackedPackets
  have hleast : map.removeObsoletePackets.leastUnacked = map.leastUnacked + dropped.length := hn
  omega

theorem removeObsoletePackets_info? (k : Nat) :
    map.removeObsoletePackets.info? k =
      if k < map.removeObsoletePackets.leastUnacked then none else map.info? k := by
  have hle : map.leastUnacked ≤ map.removeObsoletePackets.leastUnacked := le_removeObsoletePackets
  have hget := Slots.popWhile_getElem? (fun _ info => isPacketUseless info) map.leastUnacked
    map.unackedPackets
  unfold info?
  by_cases hk : k < map.removeObsoletePackets.leastUnacked
  · rw [if_pos hk, if_pos hk]
  · rw [if_neg hk, if_neg hk, if_neg (by omega)]
    apply (hget _).trans
    congr 1
    change map.removeObsoletePackets.leastUnacked - map.leastUnacked +
      (k - map.removeObsoletePackets.leastUnacked) = _
    omega

/-- The map without packets that stands behind the last packet sent. -/
def emptied (map : QuicUnackedPacketMap) : QuicUnackedPacketMap :=
  { map with
    unackedPackets := []
    leastUnacked := map.nextNumber
    bytesInFlight := 0
    packetsInFlight := 0 }

@[simp] theorem emptied_nextNumber : map.emptied.nextNumber = map.nextNumber := by
  simp [emptied, nextNumber]

@[simp] theorem emptied_largestSentPacket :
    map.emptied.largestSentPacket = map.largestSentPacket := rfl

@[simp] theorem settle_emptied {state : SentPacketState} :
    (map.settle n state).emptied = map.emptied := by
  simp [emptied, settle, modifyInfo, nextNumber]

@[simp] theorem emptied_info? : map.emptied.info? n = none := by
  simp [info?, emptied]

theorem not_inFlight_emptied : ¬ map.emptied.InFlight n := by
  simp [InFlight]

theorem emptied_wellFormed : map.emptied.WellFormed :=
  ⟨by simp, rfl, rfl⟩

namespace WellFormed

theorem le_of_inFlight (h : map.WellFormed) (hn : map.InFlight n) :
    map.removeObsoletePackets.leastUnacked ≤ n := by
  by_contra hlt
  rcases hn with ⟨info, hi, hf⟩
  obtain ⟨dropped, hl, hlen, hq, _⟩ := Slots.popWhile_spec (fun _ info => isPacketUseless info)
    map.leastUnacked map.unackedPackets
  obtain ⟨hle, hslot⟩ := info?_eq_some.mp hi
  have hlt' : n - map.leastUnacked < dropped.length := by
    have : map.removeObsoletePackets.leastUnacked = map.leastUnacked + dropped.length := hlen
    omega
  rw [hl, List.getElem?_append_left hlt'] at hslot
  have huseless := (h.slot n info hi).useless_iff.mp (hq _ _ hslot)
  simp [hf] at huseless

theorem removeObsoletePackets_inFlight (h : map.WellFormed) :
    map.removeObsoletePackets.InFlight n ↔ map.InFlight n := by
  constructor
  · rintro ⟨info, hi, hf⟩
    rw [removeObsoletePackets_info?] at hi
    split at hi
    · simp at hi
    · exact ⟨info, hi, hf⟩
  · intro hn
    have hle := h.le_of_inFlight hn
    rcases hn with ⟨info, hi, hf⟩
    exact ⟨info, by rw [removeObsoletePackets_info?, if_neg (by omega)]; exact hi, hf⟩

/-- After the cleanup the front of the map is in flight. -/
theorem front_inFlight (h : map.WellFormed)
    (hne : map.removeObsoletePackets.leastUnacked < map.nextNumber) :
    map.InFlight map.removeObsoletePackets.leastUnacked := by
  obtain ⟨info, hi⟩ := exists_info (le_refl map.removeObsoletePackets.leastUnacked) (by simpa)
  obtain ⟨_, _, _, _, hstop⟩ := Slots.popWhile_spec (fun _ info => isPacketUseless info)
    map.leastUnacked map.unackedPackets
  have hhead := (info?_eq_some.mp hi).2
  rw [Nat.sub_self, ← List.head?_eq_getElem?] at hhead
  have huse := hstop info hhead
  rw [removeObsoletePackets_info?, if_neg (lt_irrefl _)] at hi
  refine ⟨info, hi, ?_⟩
  by_contra hf
  rw [(h.slot _ info hi).useless_iff.mpr (by simpa using hf)] at huse
  simp at huse

theorem removeObsoletePackets (h : map.WellFormed) : map.removeObsoletePackets.WellFormed := by
  have hq : ∀ w, map.removeObsoletePackets.flightSum w = map.flightSum w := by
    intro w
    exact Slots.weight_popWhile (fun _ info hu => by
      simp [isPacketUseless, isPacketUsefulForCongestionControl] at hu
      exact hu.2) _ _
  refine ⟨?_, ?_, ?_⟩
  · intro k info hk
    rw [removeObsoletePackets_info?] at hk
    split at hk
    · simp at hk
    · exact h.slot k info hk
  · rw [hq, removeObsoletePackets_bytesInFlight, h.bytes]
  · rw [hq, removeObsoletePackets_packetsInFlight, h.packets]

theorem removeObsoletePackets_eq_emptied (h : map.WellFormed) (hno : ∀ n, ¬ map.InFlight n) :
    map.removeObsoletePackets = map.emptied := by
  have hnext : map.removeObsoletePackets.nextNumber = map.nextNumber :=
    removeObsoletePackets_nextNumber
  have hge : ¬ map.removeObsoletePackets.leastUnacked < map.nextNumber :=
    fun hlt => hno _ (h.front_inFlight hlt)
  unfold nextNumber at hnext hge
  have hnil : map.removeObsoletePackets.unackedPackets = [] :=
    List.length_eq_zero_iff.mp (by omega)
  have hleast : map.removeObsoletePackets.leastUnacked = map.nextNumber := by
    unfold nextNumber
    omega
  have hbytes : map.bytesInFlight = 0 := by rw [h.bytes, flightSum_eq_zero hno]
  have hpackets : map.packetsInFlight = 0 := by rw [h.packets, flightSum_eq_zero hno]
  calc map.removeObsoletePackets
      = { map with
          unackedPackets := map.removeObsoletePackets.unackedPackets
          leastUnacked := map.removeObsoletePackets.leastUnacked } := rfl
    _ = map.emptied := by rw [hnil, hleast, emptied, hbytes, hpackets]

end WellFormed

end QuicUnackedPacketMap

end BbrChrome
