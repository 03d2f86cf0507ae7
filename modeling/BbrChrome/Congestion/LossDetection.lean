import BbrChrome.Congestion.LossAlgorithm
import BbrChrome.Library.Scan
import BbrChrome.Quic.MapInvariant

/-!
# What loss detection finds

A `LossRule` states the plain rule of one detection: which packets of the map it
looks at and which of them are overdue. `detectLosses` applies the rule up to the
first packet that is not overdue; with send times in order that is the whole rule.
-/

namespace BbrChrome

open QuicUnackedPacketMap

def QuicUnackedPacketMap.slots (map : QuicUnackedPacketMap) : List (Nat × QuicTransmissionInfo) :=
  Slots.numbered map.leastUnacked map.unackedPackets

theorem QuicUnackedPacketMap.mem_slots {map : QuicUnackedPacketMap} {n : Nat}
    {info : QuicTransmissionInfo} : (n, info) ∈ map.slots ↔ map.info? n = some info := by
  rw [slots, Slots.mem_numbered, info?_eq_some]

structure LossRule where
  time : Int
  largestNewlyAcked : Nat
  reorderingThreshold : Nat
  lossDelay : Int
deriving DecidableEq, Repr

namespace LossRule

/-- The packet is in flight and not above the largest newly acked one. -/
def candidate (rule : LossRule) (slot : Nat × QuicTransmissionInfo) : Bool :=
  slot.2.inFlight && slot.1 ≤ rule.largestNewlyAcked

/-- The packet is too far behind or too old. -/
def overdue (rule : LossRule) (slot : Nat × QuicTransmissionInfo) : Bool :=
  rule.reorderingThreshold ≤ rule.largestNewlyAcked - slot.1 ||
    slot.2.sentTime + rule.lossDelay ≤ rule.time

@[simp] theorem candidate_iff {rule : LossRule} {n : Nat} {info : QuicTransmissionInfo} :
    rule.candidate (n, info) = true ↔ info.inFlight = true ∧ n ≤ rule.largestNewlyAcked := by
  simp [candidate]

theorem overdue_iff {rule : LossRule} {n : Nat} {info : QuicTransmissionInfo} :
    rule.overdue (n, info) = true ↔
      rule.reorderingThreshold ≤ rule.largestNewlyAcked - n ∨
        info.sentTime + rule.lossDelay ≤ rule.time := by
  simp [overdue]

def lostPacket (slot : Nat × QuicTransmissionInfo) : LostPacket := ⟨slot.1, slot.2.bytesSent⟩

/-! ## The plain rule -/

def overduePackets (rule : LossRule) (map : QuicUnackedPacketMap) : List LostPacket :=
  (map.slots.filter fun slot => rule.candidate slot && rule.overdue slot).map lostPacket

theorem overduePackets_ascending (rule : LossRule) (map : QuicUnackedPacketMap) :
    ((rule.overduePackets map).map (·.packetNumber)).Pairwise (· < ·) := by
  rw [overduePackets, List.map_map, List.pairwise_map]
  exact (Slots.pairwise_numbered map.leastUnacked map.unackedPackets).filter _

/-- The time at which the first candidate that is not overdue will be. -/
def nextTimeout (rule : LossRule) (map : QuicUnackedPacketMap) : Int :=
  ((map.slots.find? fun slot => rule.candidate slot && !rule.overdue slot).map
    fun slot => slot.2.sentTime + rule.lossDelay).getD 0

/-! ## The scan -/

def scan (rule : LossRule) (map : QuicUnackedPacketMap) :
    List (Nat × QuicTransmissionInfo) × Option (Nat × QuicTransmissionInfo) :=
  Scan.scan rule.candidate rule.overdue map.slots

def lost (rule : LossRule) (map : QuicUnackedPacketMap) : List LostPacket :=
  (rule.scan map).1.map lostPacket

def lostNumbers (rule : LossRule) (map : QuicUnackedPacketMap) : List Nat :=
  (rule.lost map).map (·.packetNumber)

def survivor (rule : LossRule) (map : QuicUnackedPacketMap) : Option (Nat × QuicTransmissionInfo) :=
  (rule.scan map).2

variable {rule : LossRule} {map : QuicUnackedPacketMap} {p : LostPacket} {k m : Nat}
  {info : QuicTransmissionInfo}

theorem lost_spec (hp : p ∈ rule.lost map) :
    ∃ info, map.info? p.packetNumber = some info ∧ info.inFlight = true ∧
      info.bytesSent = p.bytesLost ∧ p.packetNumber ≤ rule.largestNewlyAcked ∧
      rule.overdue (p.packetNumber, info) = true := by
  obtain ⟨⟨n, info⟩, hslot, rfl⟩ := List.mem_map.mp hp
  obtain ⟨hmem, hc, ho⟩ := Scan.scan_fst_subset hslot
  rw [candidate_iff] at hc
  exact ⟨info, mem_slots.mp hmem, hc.1, rfl, hc.2, ho⟩

theorem lostNumbers_info (hk : k ∈ rule.lostNumbers map) : ∃ info, map.info? k = some info := by
  obtain ⟨p, hp, rfl⟩ := List.mem_map.mp hk
  obtain ⟨info, hi, _⟩ := lost_spec hp
  exact ⟨info, hi⟩

theorem lostNumbers_nodup : (rule.lostNumbers map).Nodup := by
  obtain ⟨before, hf, _, hs⟩ := Scan.scan_split rule.candidate rule.overdue map.slots
  have hsub : before.Sublist map.slots := by
    revert hs
    cases (Scan.scan rule.candidate rule.overdue map.slots).2 with
    | none => intro hs; exact hs ▸ List.Sublist.refl _
    | some s =>
        rintro ⟨_, _, behind, hl⟩
        exact hl ▸ List.sublist_append_left _ _
  have hpair : ((rule.scan map).1.map Prod.fst).Pairwise (· < ·) := by
    rw [scan, hf, List.pairwise_map]
    exact ((Slots.pairwise_numbered _ _).sublist hsub).filter _
  have hnum : rule.lostNumbers map = (rule.scan map).1.map Prod.fst := by
    simp [lostNumbers, lost, lostPacket, Function.comp_def]
  rw [hnum]
  exact hpair.imp Nat.ne_of_lt

theorem mem_lostNumbers_of_lt (hk : map.InFlight k) (hkL : k ≤ rule.largestNewlyAcked)
    (h : ∀ s, rule.survivor map = some s → k < s.1) : k ∈ rule.lostNumbers map := by
  rcases hk with ⟨info, hi, hflight⟩
  have hmem := mem_slots.mpr hi
  have hc : rule.candidate (k, info) = true := candidate_iff.mpr ⟨hflight, hkL⟩
  obtain ⟨before, hf, _, hs⟩ := Scan.scan_split rule.candidate rule.overdue map.slots
  have hbefore : (k, info) ∈ before := by
    cases hsurv : rule.survivor map with
    | none =>
        rw [survivor, scan] at hsurv
        rw [hsurv] at hs
        exact hs ▸ hmem
    | some s =>
        have hlt := h s hsurv
        rw [survivor, scan] at hsurv
        rw [hsurv] at hs
        rcases hs with ⟨_, _, behind, hl⟩
        rw [hl, List.mem_append] at hmem
        apply hmem.resolve_right
        intro hin
        have hpair := Slots.pairwise_numbered map.leastUnacked map.unackedPackets
        rw [← slots, hl] at hpair
        rcases List.mem_cons.mp hin with rfl | hin
        · exact lt_irrefl _ hlt
        · have := (List.pairwise_cons.mp (List.pairwise_append.mp hpair).2.1).1 _ hin
          omega
  have hscan : (k, info) ∈ (rule.scan map).1 := by
    rw [scan, hf, List.mem_filter]
    exact ⟨hbefore, hc⟩
  exact List.mem_map.mpr ⟨_, List.mem_map.mpr ⟨_, hscan, rfl⟩, rfl⟩

theorem survivor_spec (h : rule.survivor map = some (m, info)) :
    map.info? m = some info ∧ info.inFlight = true ∧ m ≤ rule.largestNewlyAcked ∧
      rule.overdue (m, info) = false := by
  obtain ⟨before, _, _, hs⟩ := Scan.scan_split rule.candidate rule.overdue map.slots
  rw [survivor, scan] at h
  rw [h] at hs
  rcases hs with ⟨hc, ho, behind, hl⟩
  rw [candidate_iff] at hc
  exact ⟨mem_slots.mp (by rw [hl]; simp), hc.1, hc.2, ho⟩

theorem overdue_of_mem_lostNumbers (hk : k ∈ rule.lostNumbers map)
    (hi : map.info? k = some info) :
    k ≤ rule.largestNewlyAcked ∧ rule.overdue (k, info) = true := by
  obtain ⟨p, hp, rfl⟩ := List.mem_map.mp hk
  obtain ⟨pinfo, hpi, _, _, hle, ho⟩ := lost_spec hp
  cases hi.symm.trans hpi
  exact ⟨hle, ho⟩

theorem not_mem_lostNumbers (hi : map.info? k = some info) (ho : rule.overdue (k, info) = false) :
    k ∉ rule.lostNumbers map := by
  intro hk
  have hover := (overdue_of_mem_lostNumbers hk hi).2
  rw [ho] at hover
  cases hover

theorem survivor_not_mem (h : rule.survivor map = some (m, info)) : m ∉ rule.lostNumbers map := by
  obtain ⟨hi, _, _, ho⟩ := survivor_spec h
  exact not_mem_lostNumbers hi ho

/-- The survivor is the least packet in flight that the scan looks at and finds not overdue. -/
theorem survivor_iff :
    rule.survivor map = some (m, info) ↔
      (map.info? m = some info ∧ info.inFlight = true ∧ m ≤ rule.largestNewlyAcked ∧
        rule.overdue (m, info) = false) ∧
      ∀ k kinfo, k < m → map.info? k = some kinfo → kinfo.inFlight = true →
        rule.overdue (k, kinfo) = true := by
  constructor
  · intro h
    have hspec := survivor_spec h
    refine ⟨hspec, fun k kinfo hk hi hf => ?_⟩
    have hlost : k ∈ rule.lostNumbers map := by
      apply mem_lostNumbers_of_lt ⟨kinfo, hi, hf⟩ (by omega)
      intro s hs
      cases h.symm.trans hs
      exact hk
    exact (overdue_of_mem_lostNumbers hlost hi).2
  · rintro ⟨⟨hi, hf, hle, ho⟩, hleast⟩
    have hpending : m ∉ rule.lostNumbers map := not_mem_lostNumbers hi ho
    cases hs : rule.survivor map with
    | none => exact absurd (mem_lostNumbers_of_lt ⟨info, hi, hf⟩ hle (by simp [hs])) hpending
    | some slot =>
        rcases slot with ⟨s, sinfo⟩
        obtain ⟨hsi, hsf, _, hso⟩ := survivor_spec hs
        have hge : ¬ s < m := by
          intro hsm
          rw [hleast s sinfo hsm hsi hsf] at hso
          cases hso
        have hle' : ¬ m < s := by
          intro hms
          apply hpending
          apply mem_lostNumbers_of_lt ⟨info, hi, hf⟩ hle
          intro s' hs'
          cases hs.symm.trans hs'
          exact hms
        have heq : s = m := by omega
        subst s
        cases hi.symm.trans hsi
        rfl

theorem mem_lostNumbers_of_lt_lost (hm : m ∈ rule.lostNumbers map) (hk : map.InFlight k)
    (hkm : k < m) : k ∈ rule.lostNumbers map := by
  obtain ⟨p, hp, rfl⟩ := List.mem_map.mp hm
  obtain ⟨pinfo, hi, hf, _, hL, _⟩ := lost_spec hp
  apply mem_lostNumbers_of_lt hk (by omega)
  rintro ⟨s, sinfo⟩ hs
  by_contra hle
  obtain ⟨before, hfil, _, hsplit⟩ := Scan.scan_split rule.candidate rule.overdue map.slots
  have hmem : (p.packetNumber, pinfo) ∈ before := by
    obtain ⟨⟨n, ninfo⟩, hslot, rfl⟩ := List.mem_map.mp hp
    have hin := (Scan.scan_fst_subset hslot).1
    rw [scan, hfil, List.mem_filter] at hslot
    cases hi.symm.trans (mem_slots.mp hin)
    exact hslot.1
  rw [survivor, scan] at hs
  rw [hs] at hsplit
  rcases hsplit with ⟨_, _, behind, hl⟩
  have hpair := Slots.pairwise_numbered map.leastUnacked map.unackedPackets
  rw [← slots, hl] at hpair
  have := (List.pairwise_append.mp hpair).2.2 _ hmem (s, sinfo) (by simp)
  simp only at this hle
  omega

/-- With send times in order a packet is overdue whenever a later one is, so the scan
finds everything that is overdue. -/
theorem lost_eq_overduePackets
    (hsorted : ∀ i j a b, i < j → map.info? i = some a → map.info? j = some b →
      a.sentTime ≤ b.sentTime) : rule.lost map = rule.overduePackets map := by
  unfold lost overduePackets scan
  rw [Scan.scan_eq_filter]
  have hpair : map.slots.Pairwise (fun x y => x.1 < y.1) := Slots.pairwise_numbered _ _
  apply hpair.imp_of_mem
  rintro ⟨i, a⟩ ⟨j, b⟩ ha hb hij hci hcj ho
  have htime := hsorted i j a b hij (mem_slots.mp ha) (mem_slots.mp hb)
  simp only at hij
  rw [overdue_iff] at ho ⊢
  rcases ho with ho | ho
  · exact .inl (by omega)
  · exact .inr (by omega)

theorem nextTimeout_eq : rule.nextTimeout map =
    ((rule.survivor map).map fun slot => slot.2.sentTime + rule.lossDelay).getD 0 := by
  rw [nextTimeout, survivor, scan, Scan.scan_eq_find?]

end LossRule

/-! ## The code follows the rule -/

namespace GeneralLossAlgorithm

/-- The rule that a detection at `time` with largest newly acked packet `L` applies. -/
def rule (alg : GeneralLossAlgorithm) (rttStats : RttStats) (time : Int) (L : Nat) : LossRule :=
  { time
    largestNewlyAcked := L
    reorderingThreshold := alg.reorderingThreshold
    lossDelay := alg.lossDelay rttStats }

@[simp] theorem rule_largestNewlyAcked {alg : GeneralLossAlgorithm} {rttStats : RttStats}
    {time : Int} {L : Nat} : (alg.rule rttStats time L).largestNewlyAcked = L := rfl

@[simp] theorem rule_lossDelay {alg : GeneralLossAlgorithm} {rttStats : RttStats} {time : Int}
    {L : Nat} : (alg.rule rttStats time L).lossDelay = alg.lossDelay rttStats := rfl

/-- The alarm is set for the survivor, which also becomes the least packet in flight. -/
def afterDetection (alg : GeneralLossAlgorithm) (rule : LossRule) (map : QuicUnackedPacketMap) :
    GeneralLossAlgorithm :=
  { alg with
    lossDetectionTimeout :=
      ((rule.survivor map).map fun slot => slot.2.sentTime + rule.lossDelay).getD 0
    leastInFlight :=
      .number (((rule.survivor map).map Prod.fst).getD (rule.largestNewlyAcked + 1)) }

def ScanContext.rule (ctx : ScanContext) (L : Nat) : LossRule :=
  { time := ctx.time
    largestNewlyAcked := L
    reorderingThreshold := ctx.alg.reorderingThreshold
    lossDelay := ctx.lossDelay }

theorem scanLosses_candidate {ctx : ScanContext} {L n : Nat} {info : QuicTransmissionInfo}
    (hL : ctx.largestNewlyAcked = .number L)
    (hrunt : ctx.alg.usePacketThresholdForRuntPackets = true)
    (hc : (ctx.rule L).candidate (n, info) = true) (infos : List QuicTransmissionInfo)
    (result : ScanResult) :
    ∃ lostStats stats, scanLosses ctx (info :: infos) n result =
      if (ctx.rule L).overdue (n, info) then
        scanLosses ctx infos (n + 1)
          { result with
            packetsLost := result.packetsLost ++ [LossRule.lostPacket (n, info)]
            stats := lostStats }
      else .ok { result with stats, survivor := some (n, info.sentTime + ctx.lossDelay) } := by
  rw [LossRule.candidate_iff] at hc
  obtain ⟨hf, hn : n ≤ L⟩ := hc
  have hskip : ctx.skipPacketThresholdDetection info = .ok false := by
    simp [ScanContext.skipPacketThresholdDetection, hrunt]
  by_cases ho : (ctx.rule L).overdue (n, info) = true
  · refine ⟨(result.stats.onPacketExamined (L - n)).onPacketLost ctx.maxRtt info.sentTime ctx.time,
      {}, ?_⟩
    rw [if_pos ho]
    rw [LossRule.overdue_iff] at ho
    by_cases hthr : ctx.alg.reorderingThreshold ≤ L - n
    · simp [scanLosses, hL, hn, hf, hskip, hthr, bind, Except.bind, LossRule.lostPacket]
    · have hle : ¬ ctx.time < info.sentTime + ctx.lossDelay := by
        have := ho.resolve_left hthr
        simp only [ScanContext.rule] at this
        omega
      simp [scanLosses, hL, hn, hf, hskip, hthr, hle, bind, Except.bind, LossRule.lostPacket]
  · rw [LossRule.overdue_iff, not_or] at ho
    obtain ⟨hthr : ¬ ctx.alg.reorderingThreshold ≤ L - n,
      hle : ¬ info.sentTime + ctx.lossDelay ≤ ctx.time⟩ := ho
    have hlt : ctx.time < info.sentTime + ctx.lossDelay := by omega
    let examined := result.stats.onPacketExamined (L - n)
    let borderline := info.sentTime + ctx.maxRtt +
      Time.shiftRight ctx.maxRtt (ctx.alg.reorderingShift + 1)
    refine ⟨{}, if borderline ≤ ctx.time then examined.onBorderline else examined, ?_⟩
    rw [if_neg (by rw [LossRule.overdue_iff]; exact not_or.mpr ⟨hthr, hle⟩)]
    simp [scanLosses, hL, hn, hf, hskip, hthr, hlt, bind, Except.bind, examined, borderline]

/-- The loop of `DetectLosses` is the scan with the candidates and the overdue packets
of its rule. -/
theorem scanLosses_eq (ctx : ScanContext) (L : Nat) (hL : ctx.largestNewlyAcked = .number L)
    (hrunt : ctx.alg.usePacketThresholdForRuntPackets = true) (infos : List QuicTransmissionInfo)
    (n : Nat) (result : ScanResult) (hnone : result.survivor = none) :
    ∃ stats, scanLosses ctx infos n result = .ok
      { packetsLost := result.packetsLost ++
          (Scan.scan (ctx.rule L).candidate (ctx.rule L).overdue
            (Slots.numbered n infos)).1.map LossRule.lostPacket
        stats
        survivor :=
          (Scan.scan (ctx.rule L).candidate (ctx.rule L).overdue (Slots.numbered n infos)).2.map
            fun slot => (slot.1, slot.2.sentTime + ctx.lossDelay) } := by
  induction infos generalizing n result with
  | nil => exact ⟨result.stats, by simp [scanLosses, Slots.numbered, Scan.scan, ← hnone]⟩
  | cons info infos ih =>
      by_cases hc : (ctx.rule L).candidate (n, info) = true
      · obtain ⟨lostStats, stats, hstep⟩ := scanLosses_candidate hL hrunt hc infos result
        rw [hstep]
        by_cases ho : (ctx.rule L).overdue (n, info) = true
        · obtain ⟨stats', h⟩ := ih (n + 1)
            { result with
              packetsLost := result.packetsLost ++ [LossRule.lostPacket (n, info)]
              stats := lostStats } hnone
          exact ⟨stats', by rw [if_pos ho, h]; simp [Slots.numbered, Scan.scan, hc, ho]⟩
        · exact ⟨stats, by rw [if_neg ho]; simp [Slots.numbered, Scan.scan, hc, ho]⟩
      · by_cases hn : n ≤ L
        · have hf : info.inFlight = false := by
            rw [LossRule.candidate_iff, not_and] at hc
            cases hflight : info.inFlight with
            | false => rfl
            | true => exact absurd hn (hc hflight)
          obtain ⟨stats, h⟩ := ih (n + 1) result hnone
          refine ⟨stats, ?_⟩
          simp only [Slots.numbered, Scan.scan, hc, Bool.false_eq_true, if_false]
          rw [← h]
          simp [scanLosses, hL, hn, hf]
        · -- Above `L` the code leaves the loop; no later slot is a candidate either.
          have hnil : Scan.scan (ctx.rule L).candidate (ctx.rule L).overdue
              (Slots.numbered n (info :: infos)) = ([], none) := by
            apply Scan.scan_eq_nil
            rintro ⟨j, jinfo⟩ hj
            have hle := (Slots.mem_numbered.mp hj).1
            rw [Bool.eq_false_iff, Ne, LossRule.candidate_iff]
            rintro ⟨_, hjL : j ≤ L⟩
            omega
          exact ⟨result.stats, by rw [hnil]; simp [scanLosses, hL, hn, ← hnone]⟩

/-- A cached start at or below the front of the deque scans the whole deque. -/
theorem scanStart_eq {map : QuicUnackedPacketMap} {l : Nat} (hl : l ≤ map.leastUnacked) :
    scanStart (.number l) map = .ok (map.unackedPackets, map.leastUnacked) := by
  unfold scanStart
  by_cases h : map.leastUnacked ≤ l
  · have heq : l = map.leastUnacked := by omega
    subst l
    simp
  · simp [h]

theorem scan_of_fast {alg : GeneralLossAlgorithm} {map : QuicUnackedPacketMap} {l L : Nat}
    {acked : List AckedPacket} (hleast : alg.leastInFlight = .number l) (hl : l ≤ map.leastUnacked)
    (hacked : acked = [] ∨
      ∃ bytes now, acked = [⟨L, bytes, now⟩] ∧ ¬ map.InFlight L)
    (hfast : alg.noPacketMissing (.number L) acked = true) (time : Int) (rttStats : RttStats) :
    (alg.rule rttStats time L).scan map = ([], none) := by
  have hLl : L = l ∧ ¬ map.InFlight L := by
    rcases hacked with rfl | ⟨bytes, now, rfl, hno⟩
    · simp [noPacketMissing] at hfast
    · simp [noPacketMissing, hleast] at hfast
      exact ⟨hfast.symm, hno⟩
  apply Scan.scan_eq_nil
  rintro ⟨k, info⟩ hk
  have hi := mem_slots.mp hk
  have hge := (range_of_info hi).1
  rw [Bool.eq_false_iff, Ne, LossRule.candidate_iff]
  rintro ⟨hf, hkL : k ≤ L⟩
  have heq : k = L := by omega
  exact hLl.2 (heq ▸ ⟨info, hi, hf⟩)

theorem advanceLeastInFlight_of_slow {alg : GeneralLossAlgorithm} {map : QuicUnackedPacketMap}
    {l L : Nat} {acked : List AckedPacket} (hleast : alg.leastInFlight = .number l)
    (hacked : acked = [] ∨
      ∃ bytes now, acked = [⟨L, bytes, now⟩] ∧ ¬ map.InFlight L)
    (hslow : ¬ alg.noPacketMissing (.number L) acked = true) :
    advanceLeastInFlight acked alg.leastInFlight = .number l := by
  rw [hleast]
  rcases hacked with rfl | ⟨bytes, now, rfl, _⟩
  · rfl
  · have hne : L ≠ l := by
      rintro rfl
      simp [noPacketMissing, hleast] at hslow
    simp [advanceLeastInFlight, hne]

/-- `DetectLosses` as the manager calls it: with the one packet just acked or, for the
timer, with none. -/
theorem detectLosses_eq (alg : GeneralLossAlgorithm) (map : QuicUnackedPacketMap) {l : Nat}
    (L : Nat) (acked : List AckedPacket) (hrunt : alg.usePacketThresholdForRuntPackets = true)
    (hleast : alg.leastInFlight = .number l) (hl : l ≤ map.leastUnacked)
    (hacked : acked = [] ∨
      ∃ bytes now, acked = [⟨L, bytes, now⟩] ∧ ¬ map.InFlight L)
    (time : Int) (rttStats : RttStats) (packetsLost : List LostPacket) :
    ∃ stats, alg.detectLosses map time rttStats (.number L) acked packetsLost =
      .ok (alg.afterDetection (alg.rule rttStats time L) map,
        packetsLost ++ (alg.rule rttStats time L).lost map, stats) := by
  by_cases hfast : alg.noPacketMissing (.number L) acked = true
  · have hnil := scan_of_fast hleast hl hacked hfast time rttStats
    refine ⟨{}, ?_⟩
    simp [detectLosses, hfast, afterDetection, LossRule.survivor, LossRule.lost, hnil]
  · have hadvance := advanceLeastInFlight_of_slow hleast hacked hfast
    let ctx : ScanContext :=
      { time, maxRtt := getMaxRtt rttStats, largestNewlyAcked := .number L, alg
        largestNewlyAckedBytes :=
          (map.getTransmissionInfo (QuicPacketNumber.number L).toUint64).map (·.bytesSent) }
    obtain ⟨stats, hscan⟩ :=
      scanLosses_eq ctx L rfl hrunt map.unackedPackets map.leastUnacked {} rfl
    have hrule : ctx.rule L = alg.rule rttStats time L := rfl
    rw [hrule] at hscan
    refine ⟨stats, ?_⟩
    unfold detectLosses
    rw [if_neg hfast, hadvance]
    change (scanStart (.number l) map >>= _) = _
    rw [scanStart_eq hl]
    change (scanLosses ctx map.unackedPackets map.leastUnacked {} >>= _) = _
    rw [hscan]
    unfold afterDetection LossRule.lost LossRule.survivor LossRule.scan slots
    cases (Scan.scan (alg.rule rttStats time L).candidate (alg.rule rttStats time L).overdue
      (Slots.numbered map.leastUnacked map.unackedPackets)).2 <;> rfl

end GeneralLossAlgorithm

end BbrChrome
