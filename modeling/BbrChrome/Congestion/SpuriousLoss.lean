import BbrChrome.Congestion.LossDetection

/-!
# Adaptation after a spurious loss

`spuriousLossDetected` raises both thresholds so that the packet "would not have been
declared lost". The loop lowers the shift while the delay is below the time needed;
the test of `detectLosses` loses a packet as soon as the delay is reached.
-/

namespace BbrChrome.GeneralLossAlgorithm

open QuicUnackedPacketMap

/-! ## The loop over the shift -/

/-- The `while` loop with its signed counter, for at most `fuel` evaluations of the condition. -/
def shiftLoop (maxRtt timeNeeded : Int) : Nat → Int → Option Int
  | 0, _ => none
  | fuel + 1, shift =>
      if maxRtt + Time.shiftRight maxRtt shift.toNat < timeNeeded ∧ 0 < shift then
        shiftLoop maxRtt timeNeeded fuel (shift - 1)
      else some shift

variable {maxRtt timeNeeded : Int} {shift s : Nat}

/-- The loop ends after at most `shift` rounds, at the value of the recursion. -/
theorem shiftLoop_eq_adaptReorderingShift {fuel : Nat} (hfuel : shift < fuel) :
    shiftLoop maxRtt timeNeeded fuel shift =
      some (adaptReorderingShift maxRtt timeNeeded shift : Int) := by
  induction shift generalizing fuel with
  | zero =>
      cases fuel with
      | zero => omega
      | succ fuel => simp [shiftLoop, adaptReorderingShift]
  | succ shift ih =>
      cases fuel with
      | zero => omega
      | succ fuel =>
          have hpos : (0 : Int) < ((shift + 1 : Nat) : Int) := by omega
          have hpred : ((shift + 1 : Nat) : Int) - 1 = (shift : Int) := by omega
          unfold shiftLoop adaptReorderingShift
          rw [Int.toNat_natCast, hpred]
          by_cases hdelay : maxRtt + Time.shiftRight maxRtt (shift + 1) < timeNeeded
          · rw [if_pos ⟨hdelay, hpos⟩, if_pos hdelay]
            exact ih (by omega)
          · rw [if_neg (fun h => hdelay h.1), if_neg hdelay]

theorem adaptReorderingShift_le : adaptReorderingShift maxRtt timeNeeded shift ≤ shift := by
  induction shift with
  | zero => exact Nat.le_refl 0
  | succ shift ih =>
      unfold adaptReorderingShift
      split
      · exact Nat.le_succ_of_le ih
      · exact Nat.le_refl _

theorem adaptReorderingShift_stops (hpos : 0 < adaptReorderingShift maxRtt timeNeeded shift) :
    timeNeeded ≤
      maxRtt + Time.shiftRight maxRtt (adaptReorderingShift maxRtt timeNeeded shift) := by
  induction shift with
  | zero => cases hpos
  | succ shift ih =>
      unfold adaptReorderingShift at hpos ⊢
      by_cases hdelay : maxRtt + Time.shiftRight maxRtt (shift + 1) < timeNeeded
      · rw [if_pos hdelay] at hpos ⊢
        exact ih hpos
      · rw [if_neg hdelay]
        omega

theorem adaptReorderingShift_passed (hs : adaptReorderingShift maxRtt timeNeeded shift < s)
    (hle : s ≤ shift) : maxRtt + Time.shiftRight maxRtt s < timeNeeded := by
  induction shift with
  | zero => omega
  | succ shift ih =>
      unfold adaptReorderingShift at hs
      by_cases hdelay : maxRtt + Time.shiftRight maxRtt (shift + 1) < timeNeeded
      · rw [if_pos hdelay] at hs
        by_cases heq : s = shift + 1
        · rw [heq]
          exact hdelay
        · exact ih hs (by omega)
      · rw [if_neg hdelay] at hs
        omega

theorem shiftRight_le_shiftRight {a b : Int} (h : a ≤ b) (n : Nat) :
    Time.shiftRight a n ≤ Time.shiftRight b n :=
  Int.ediv_le_ediv (by positivity) h

theorem shiftRight_antitone {a : Int} (ha : 0 ≤ a) {m n : Nat} (h : m ≤ n) :
    Time.shiftRight a n ≤ Time.shiftRight a m := by
  obtain ⟨k, rfl⟩ := Nat.exists_eq_add_of_le h
  have hmul : (2 : Int) ^ (m + k) = 2 ^ m * 2 ^ k := pow_add 2 m k
  unfold Time.shiftRight
  rw [hmul, ← Int.ediv_ediv_of_nonneg (by positivity)]
  exact Int.ediv_le_self _ (Int.ediv_nonneg ha (by positivity))

theorem shiftRight_neg {a : Int} (ha : a < 0) (n : Nat) : Time.shiftRight a n < 0 :=
  Int.ediv_neg_of_neg_of_pos ha (by positivity)

theorem delay_lt_of_one (htime : 0 ≤ timeNeeded) (hs : 0 < s)
    (hone : maxRtt + Time.shiftRight maxRtt 1 < timeNeeded) :
    maxRtt + Time.shiftRight maxRtt s < timeNeeded := by
  by_cases hrtt : 0 ≤ maxRtt
  · have hanti : Time.shiftRight maxRtt s ≤ Time.shiftRight maxRtt 1 :=
      shiftRight_antitone hrtt hs
    omega
  · have hneg := shiftRight_neg (by omega : maxRtt < 0) s
    omega

/-- The loop ends at zero exactly if it begins there or the delay of shift one is too short. -/
theorem adaptReorderingShift_eq_zero_iff (htime : 0 ≤ timeNeeded) :
    adaptReorderingShift maxRtt timeNeeded shift = 0 ↔
      shift = 0 ∨ maxRtt + Time.shiftRight maxRtt 1 < timeNeeded := by
  constructor
  · intro hzero
    by_cases hshift : shift = 0
    · exact .inl hshift
    · have hone : 1 ≤ shift := Nat.pos_of_ne_zero hshift
      exact .inr (adaptReorderingShift_passed (hzero ▸ Nat.one_pos) hone)
  · rintro (rfl | hone)
    · rfl
    · by_contra hne
      have hpos := Nat.pos_of_ne_zero hne
      have hstop := adaptReorderingShift_stops hpos
      have hlt := delay_lt_of_one htime hpos hone
      omega

/-- The loop stops at a delay equal to the time needed exactly if some shift on its way
has that delay. -/
theorem delay_eq_iff (hrtt : 0 ≤ maxRtt)
    (hpos : 0 < adaptReorderingShift maxRtt timeNeeded shift) :
    timeNeeded =
        maxRtt + Time.shiftRight maxRtt (adaptReorderingShift maxRtt timeNeeded shift) ↔
      ∃ s, 0 < s ∧ s ≤ shift ∧ timeNeeded = maxRtt + Time.shiftRight maxRtt s := by
  constructor
  · intro heq
    exact ⟨_, hpos, adaptReorderingShift_le, heq⟩
  · rintro ⟨s, _, hle, heq⟩
    have hstop := adaptReorderingShift_stops hpos
    have hs : s ≤ adaptReorderingShift maxRtt timeNeeded shift := by
      by_contra hlt
      have hpassed := adaptReorderingShift_passed (Nat.lt_of_not_le hlt) hle
      omega
    have hanti := shiftRight_antitone hrtt hs
    omega

/-! ## The tests of the detection -/

/-- What `detectLosses` gives its loop. -/
def scanContext (alg : GeneralLossAlgorithm) (map : QuicUnackedPacketMap) (time : Int)
    (rttStats : RttStats) (largestNewlyAcked : QuicPacketNumber) : ScanContext :=
  { time, maxRtt := getMaxRtt rttStats, largestNewlyAcked, alg
    largestNewlyAckedBytes :=
      (map.getTransmissionInfo largestNewlyAcked.toUint64).map (·.bytesSent) }

/-- The two threshold tests of the loop for packet `n`: is it declared lost? -/
def ScanContext.declaredLost (ctx : ScanContext) (n : Nat) (info : QuicTransmissionInfo) :
    Except Fault Bool := do
  let skip ← ctx.skipPacketThresholdDetection info
  return (!skip && ctx.alg.reorderingThreshold ≤ ctx.largestNewlyAcked.sub n) ||
    info.sentTime + ctx.lossDelay ≤ ctx.time

theorem detectLosses_eq_scan {alg : GeneralLossAlgorithm} {map : QuicUnackedPacketMap}
    {time : Int} {rttStats : RttStats} {largestNewlyAcked : QuicPacketNumber}
    {packetsAcked : List AckedPacket} {packetsLost : List LostPacket}
    {slots : List QuicTransmissionInfo} {first : Nat}
    (hslow : alg.noPacketMissing largestNewlyAcked packetsAcked = false)
    (hstart : scanStart (advanceLeastInFlight packetsAcked alg.leastInFlight) map =
      .ok (slots, first)) :
    (alg.detectLosses map time rttStats largestNewlyAcked packetsAcked packetsLost).map
        (fun r => r.2.1) =
      (scanLosses (alg.scanContext map time rttStats largestNewlyAcked) slots first {}).map
        fun result => packetsLost ++ result.packetsLost := by
  unfold detectLosses
  rw [if_neg (by rw [hslow]; exact Bool.false_ne_true)]
  simp only [hstart]
  show Except.map _ (Except.bind (scanLosses (alg.scanContext map time rttStats
    largestNewlyAcked) slots first {}) _) = _
  cases scanLosses (alg.scanContext map time rttStats largestNewlyAcked) slots first {} <;> rfl

/-- The loop appends a packet in flight that the tests declare lost, and stops at one that
they do not. -/
theorem scanLosses_declaredLost {ctx : ScanContext} {n : Nat} {info : QuicTransmissionInfo}
    {verdict : Bool} (hn : ctx.largestNewlyAcked.atLeast n = true)
    (hflight : info.inFlight = true) (hverdict : ctx.declaredLost n info = .ok verdict)
    (infos : List QuicTransmissionInfo) (result : ScanResult) :
    ∃ stats, scanLosses ctx (info :: infos) n result =
      if verdict then
        scanLosses ctx infos (n + 1)
          { result with packetsLost := result.packetsLost ++ [⟨n, info.bytesSent⟩], stats }
      else .ok { result with stats, survivor := some (n, info.sentTime + ctx.lossDelay) } := by
  unfold ScanContext.declaredLost at hverdict
  cases hskip : ctx.skipPacketThresholdDetection info with
  | error e =>
      rw [hskip] at hverdict
      cases hverdict
  | ok skip =>
      rw [hskip] at hverdict
      injection hverdict with hverdict
      subst hverdict
      let examined := result.stats.onPacketExamined (ctx.largestNewlyAcked.sub n)
      let lostStats := examined.onPacketLost ctx.maxRtt info.sentTime ctx.time
      let borderline := info.sentTime + ctx.maxRtt +
        Time.shiftRight ctx.maxRtt (ctx.alg.reorderingShift + 1)
      by_cases hthr : (!skip && decide (ctx.alg.reorderingThreshold ≤
          ctx.largestNewlyAcked.sub n)) = true
      · refine ⟨lostStats, ?_⟩
        simp only [scanLosses, hn, hflight, hskip, hthr, bind, Except.bind]
        rfl
      · rw [Bool.not_eq_true] at hthr
        by_cases hle : info.sentTime + ctx.lossDelay ≤ ctx.time
        · have hlt : ¬ ctx.time < info.sentTime + ctx.lossDelay := Int.not_lt.mpr hle
          refine ⟨lostStats, ?_⟩
          simp only [scanLosses, hn, hflight, hskip, hthr, hle, hlt, bind, Except.bind,
            decide_true, Bool.or_true, if_true, if_false, Bool.not_true, Bool.false_eq_true]
          rfl
        · have hlt : ctx.time < info.sentTime + ctx.lossDelay := Int.not_le.mp hle
          refine ⟨if borderline ≤ ctx.time then examined.onBorderline else examined, ?_⟩
          simp only [scanLosses, hn, hflight, hskip, hthr, hle, hlt, bind, Except.bind,
            decide_false, Bool.or_false, if_true, if_false, Bool.not_true, Bool.false_eq_true]
          rfl

/-! ## Whether the adaptation undoes the verdict -/

/-- The `max_rtt` of `spuriousLossDetected`, without the granularity of the alarm. -/
def measuredMaxRtt (rttStats : RttStats) : Int := max rttStats.previousSrtt rttStats.latestRtt

/-- No shift that the loop can stop at gives exactly the delay needed. -/
def AvoidsBoundary (alg : GeneralLossAlgorithm) (rttStats : RttStats) (timeNeeded : Int) : Prop :=
  measuredMaxRtt rttStats < kAlarmGranularity ∨
    ∀ s, 0 < s → s ≤ alg.reorderingShift →
      timeNeeded ≠ measuredMaxRtt rttStats + Time.shiftRight (measuredMaxRtt rttStats) s

/-- After the loop the time test still loses the packet only at the boundary. -/
theorem timeNeeded_lt_lossDelay_iff {alg : GeneralLossAlgorithm} {rttStats : RttStats}
    {timeNeeded : Int}
    (hpos : 0 < adaptReorderingShift (measuredMaxRtt rttStats) timeNeeded alg.reorderingShift) :
    timeNeeded < max kAlarmGranularity (measuredMaxRtt rttStats) +
        Time.shiftRight (max kAlarmGranularity (measuredMaxRtt rttStats))
          (adaptReorderingShift (measuredMaxRtt rttStats) timeNeeded alg.reorderingShift) ↔
      alg.AvoidsBoundary rttStats timeNeeded := by
  have hstop := adaptReorderingShift_stops hpos
  by_cases hrtt : measuredMaxRtt rttStats < kAlarmGranularity
  · -- The detection works with the granularity, which is more than the loop has aimed at.
    have hmono := shiftRight_le_shiftRight (Int.le_of_lt hrtt)
      (adaptReorderingShift (measuredMaxRtt rttStats) timeNeeded alg.reorderingShift)
    rw [max_eq_left (Int.le_of_lt hrtt)]
    exact ⟨fun _ => .inl hrtt, fun _ => by omega⟩
  · have hgran : (0 : Int) ≤ kAlarmGranularity := by decide
    have heq := delay_eq_iff (by omega) hpos
    rw [max_eq_right (by omega)]
    constructor
    · intro hlt
      refine .inr fun s hs hle hboundary => ?_
      have := heq.mpr ⟨s, hs, hle, hboundary⟩
      omega
    · intro havoid
      have hall := havoid.resolve_left hrtt
      have hne := mt heq.mp fun ⟨s, hs, hle, hboundary⟩ => hall s hs hle hboundary
      omega

theorem spuriousLossDetected_eq {alg : GeneralLossAlgorithm} {map : QuicUnackedPacketMap}
    {rttStats : RttStats} {time : Int} {n L : Nat} {info : QuicTransmissionInfo}
    (hadaptive : alg.useAdaptiveTimeThreshold = true) (hinfo : map.info? n = some info)
    (hn : n ≤ L) (hL : L < maxUint64) :
    alg.spuriousLossDetected map rttStats time n (.number L) = .ok
      { alg with
        reorderingShift := adaptReorderingShift (measuredMaxRtt rttStats)
          (time - info.sentTime) alg.reorderingShift
        reorderingThreshold :=
          if alg.useAdaptiveReorderingThreshold then max alg.reorderingThreshold (L - n + 1)
          else alg.reorderingThreshold } := by
  have hreordering : toUint64 ((L : Int) - n + 1) = L - n + 1 := by
    have hlt : (L : Int) < 2 ^ 64 - 1 := by
      simp only [maxUint64] at hL
      omega
    unfold toUint64
    omega
  have hlookup : map.getTransmissionInfo n = .ok info := by
    simp [getTransmissionInfo, hinfo]
  unfold spuriousLossDetected
  by_cases hshift : 0 < alg.reorderingShift
  · simp only [hadaptive, hshift, hlookup, QuicPacketNumber.toUint64, hreordering, bind,
      Except.bind, pure, Except.pure, decide_true, Bool.and_true, if_true]
    split <;> rfl
  · have hzero : alg.reorderingShift = 0 := Nat.eq_zero_of_not_pos hshift
    simp only [hadaptive, hzero, QuicPacketNumber.toUint64, hreordering, bind, Except.bind,
      pure, Except.pure, adaptReorderingShift, Nat.lt_irrefl, decide_false, Bool.and_false,
      Bool.false_eq_true, if_false]
    split
    · rw [← hzero]
    · rw [← hzero, ← hadaptive]

theorem ScanContext.declaredLost_eq_true_iff {ctx : ScanContext} {n : Nat}
    {info : QuicTransmissionInfo} :
    ctx.declaredLost n info = .ok true ↔
      ∃ skip, ctx.skipPacketThresholdDetection info = .ok skip ∧
        (skip = false ∧ ctx.alg.reorderingThreshold ≤ ctx.largestNewlyAcked.sub n ∨
          info.sentTime + ctx.lossDelay ≤ ctx.time) := by
  unfold ScanContext.declaredLost
  cases hskip : ctx.skipPacketThresholdDetection info with
  | error e =>
      constructor
      · nofun
      · rintro ⟨skip, h, _⟩
        cases h
  | ok skip =>
      constructor
      · intro h
        injection h with h
        refine ⟨skip, rfl, ?_⟩
        simpa using h
      · rintro ⟨skip', h, hlost⟩
        cases h
        apply congrArg Except.ok
        simpa using hlost

theorem packetTest_passed_iff (alg : GeneralLossAlgorithm) (skip : Bool) (reordering : Nat) :
    ¬ (skip = false ∧ (if alg.useAdaptiveReorderingThreshold then
        max alg.reorderingThreshold (reordering + 1) else alg.reorderingThreshold) ≤ reordering) ↔
      alg.useAdaptiveReorderingThreshold = true ∨ skip = true ∨
        reordering < alg.reorderingThreshold := by
  cases skip with
  | true => simp
  | false =>
      by_cases hadaptive : alg.useAdaptiveReorderingThreshold = true
      · rw [if_pos hadaptive]
        simp only [hadaptive, true_or, iff_true, true_and]
        omega
      · rw [if_neg hadaptive]
        simp only [hadaptive, false_or, Bool.false_eq_true, true_and]
        omega

/-- The adaptation lowers no threshold, raises no shift and ends. It undoes the verdict
except at the boundary of the time test, and where the packet test is not adapted. -/
theorem spuriousLossDetected_undoes_iff {alg : GeneralLossAlgorithm}
    {map : QuicUnackedPacketMap} {rttStats : RttStats} {time : Int} {n L : Nat}
    {info : QuicTransmissionInfo} (hadaptive : alg.useAdaptiveTimeThreshold = true)
    (hinfo : map.info? n = some info) (htime : info.sentTime ≤ time) (hn : n ≤ L)
    (hL : L < maxUint64) :
    ∃ alg', alg.spuriousLossDetected map rttStats time n (.number L) = .ok alg' ∧
      alg.reorderingThreshold ≤ alg'.reorderingThreshold ∧
      alg'.reorderingShift ≤ alg.reorderingShift ∧
      (∀ fuel, alg.reorderingShift < fuel →
        shiftLoop (measuredMaxRtt rttStats) (time - info.sentTime) fuel alg.reorderingShift =
          some (alg'.reorderingShift : Int)) ∧
      ((alg'.reorderingShift = 0 ∨
          (alg'.scanContext map time rttStats (.number L)).declaredLost n info ≠ .ok true) ↔
        (alg.reorderingShift = 0 ∨
          measuredMaxRtt rttStats + Time.shiftRight (measuredMaxRtt rttStats) 1 <
            time - info.sentTime ∨
          ∀ skip, (alg.scanContext map time rttStats (.number L)).skipPacketThresholdDetection
              info = .ok skip →
            alg.AvoidsBoundary rttStats (time - info.sentTime) ∧
              (alg.useAdaptiveReorderingThreshold = true ∨ skip = true ∨
                L - n < alg.reorderingThreshold))) := by
  have hneeded : 0 ≤ time - info.sentTime := by omega
  refine ⟨_, spuriousLossDetected_eq hadaptive hinfo hn hL, ?_, adaptReorderingShift_le,
    fun fuel hfuel => shiftLoop_eq_adaptReorderingShift hfuel, ?_⟩
  · show _ ≤ if alg.useAdaptiveReorderingThreshold then _ else _
    split
    · exact le_max_left _ _
    · exact Nat.le_refl _
  rw [← or_assoc, ← adaptReorderingShift_eq_zero_iff hneeded]
  apply or_congr_right'
  intro hshift
  have hlt := timeNeeded_lt_lossDelay_iff (Nat.pos_of_ne_zero hshift)
  rw [Ne, ScanContext.declaredLost_eq_true_iff, not_exists]
  -- The lookup for runt packets reads nothing that the adaptation changes.
  refine forall_congr' fun skip => not_and.trans (imp_congr Iff.rfl ?_)
  have hpacket := packetTest_passed_iff alg skip (L - n)
  show ¬ (skip = false ∧ (if alg.useAdaptiveReorderingThreshold then
      max alg.reorderingThreshold (L - n + 1) else alg.reorderingThreshold) ≤ L - n ∨
    info.sentTime + (max kAlarmGranularity (measuredMaxRtt rttStats) +
      Time.shiftRight (max kAlarmGranularity (measuredMaxRtt rttStats))
        (adaptReorderingShift (measuredMaxRtt rttStats) (time - info.sentTime)
          alg.reorderingShift)) ≤ time) ↔ _
  rw [not_or, hpacket, ← hlt, and_comm]
  refine and_congr ?_ Iff.rfl
  omega

/-! ## Packet 1 is acked a quarter of a round trip late -/

def boundaryAlgorithm : GeneralLossAlgorithm := { useAdaptiveTimeThreshold := true }

/-- Packets 1 and 2, sent at once; packet 1 was declared lost when packet 2 was acked. -/
def boundaryMap : QuicUnackedPacketMap :=
  { unackedPackets :=
      [{ packetNumber := .number 1, bytesSent := 1460, state := .lost },
        { packetNumber := .number 2, bytesSent := 1460, state := .acked }]
    largestSentPacket := .number 2
    largestAcked := .number 2 }

def boundaryRtt : RttStats := { latestRtt := 100000, previousSrtt := 100000 }

/-- Acked 125 ms behind its sending, packet 1 is lost before and after the adaptation: the
loop finds the delay of 125 ms long enough, the test finds it reached. -/
theorem spuriousLossDetected_stillLost :
    ∃ info, boundaryMap.info? 1 = some info ∧ info.sentTime ≤ 125000 ∧
      boundaryAlgorithm.useAdaptiveTimeThreshold = true ∧
      boundaryAlgorithm.spuriousLossDetected boundaryMap boundaryRtt 125000 1 (.number 2) =
        .ok boundaryAlgorithm ∧
      boundaryAlgorithm.reorderingShift = 2 ∧
      (boundaryAlgorithm.scanContext boundaryMap 125000 boundaryRtt (.number 2)).declaredLost 1
        info = .ok true :=
  ⟨_, rfl, by decide, rfl, by decide, rfl, by decide⟩

/-- One microsecond earlier the verdict is undone. -/
theorem spuriousLossDetected_undone_earlier :
    ∃ alg', boundaryAlgorithm.spuriousLossDetected boundaryMap boundaryRtt 124999 1 (.number 2) =
        .ok alg' ∧
      (alg'.reorderingShift = 0 ∨
        (alg'.scanContext boundaryMap 124999 boundaryRtt (.number 2)).declaredLost 1
          { packetNumber := .number 1, bytesSent := 1460, state := .lost } ≠ .ok true) := by
  obtain ⟨alg', hrun, _, _, _, hiff⟩ :=
    @spuriousLossDetected_undoes_iff boundaryAlgorithm boundaryMap boundaryRtt 124999 1 2 _
      rfl rfl (by decide) (by decide) (by decide)
  refine ⟨alg', hrun, hiff.mpr (.inr (.inr fun skip _ => ⟨.inr fun s hpos hle => ?_, .inl rfl⟩))⟩
  have hs : s = 1 ∨ s = 2 := by
    have : boundaryAlgorithm.reorderingShift = 2 := rfl
    omega
  rcases hs with rfl | rfl <;> decide

end BbrChrome.GeneralLossAlgorithm
