import BbrChrome.Quic.ManagerStep

/-!
# The manager is at rest after every operation
-/

namespace BbrChrome

open QuicUnackedPacketMap

namespace QuicSentPacketManager

variable {σ : Type} {m : QuicSentPacketManager σ} {n L : Nat} {info : QuicTransmissionInfo}
  {time : Int}

/-- Every slot out of flight is acked or lies below all packets in flight. -/
def Sorted (m : QuicSentPacketManager σ) : Prop :=
  ∀ k info, m.unackedPackets.info? k = some info → info.inFlight = false →
    info.state = .acked ∨ ∀ j, m.unackedPackets.InFlight j → k < j

/-! ## Taking the ack -/

theorem acknowledge_consistent (h : m.Consistent) (hi : m.unackedPackets.info? n = some info)
    (ackReceiveTime now : Int) : (m.acknowledge n info ackReceiveTime now).Consistent where
  map := h.map.settle .acked hi (.inl rfl)
  runt := h.runt
  least := h.least
  largest := by simpa [acknowledge] using h.largest
  cached := by
    rcases h.cached with ⟨l, hl, hnext, hle⟩
    refine ⟨l, hl, by simpa [acknowledge] using hnext, fun k hk => ?_⟩
    exact hle k ((settle_inFlight hi).mp hk).1
  newlyAcked := by
    intro L hL
    simp only [acknowledge, settle_nextNumber] at hL ⊢
    split at hL
    · exact h.newlyAcked L hL
    · cases hL
      exact (range_of_info hi).2

theorem acknowledge_acked (h : m.AtRest) (hi : m.unackedPackets.info? n = some info)
    {ackReceiveTime now : Int} {k : Nat} {kinfo : QuicTransmissionInfo}
    (hk : (m.acknowledge n info ackReceiveTime now).unackedPackets.info? k = some kinfo)
    (hf : kinfo.inFlight = false) : kinfo.state = .acked := by
  simp only [acknowledge] at hk
  rw [settle_info? hi] at hk
  by_cases hkn : k = n
  · rw [if_pos hkn, Option.some.injEq] at hk
    subst kinfo
    rfl
  · rw [if_neg hkn] at hk
    exact h.acked k kinfo hk hf

/-! ## Detecting losses -/

theorem detect_inFlight {k : Nat} :
    (m.detect time L).unackedPackets.InFlight k ↔ m.unackedPackets.InFlight k ∧
      k ∉ (m.lossAlgorithm.rule m.rttStats time L).lostNumbers m.unackedPackets :=
  settleAll_inFlight fun _ => LossRule.lostNumbers_info

theorem detect_consistent (h : m.Consistent) (hL : L < m.unackedPackets.nextNumber) :
    (m.detect time L).Consistent where
  map := h.map.settleAll (fun _ => LossRule.lostNumbers_info) (.inr rfl)
  runt := h.runt
  least := by simpa [detect] using h.least
  largest := by simpa [detect] using h.largest
  cached := by
    refine ⟨_, rfl, ?_, fun k hk => ?_⟩
    · simp only [detect, settleAll_nextNumber]
      cases hs : (m.lossAlgorithm.rule m.rttStats time L).survivor m.unackedPackets with
      | none => simpa using Nat.succ_le_of_lt hL
      | some slot =>
          obtain ⟨_, _, hle, _⟩ := LossRule.survivor_spec hs
          simp only [GeneralLossAlgorithm.rule_largestNewlyAcked] at hle
          simp only [Option.map_some, Option.getD_some]
          omega
    · obtain ⟨hflight, hnot⟩ := detect_inFlight.mp hk
      by_contra hlt
      cases hs : (m.lossAlgorithm.rule m.rttStats time L).survivor m.unackedPackets with
      | none =>
          rw [hs] at hlt
          simp only [Option.map_none, Option.getD_none,
            GeneralLossAlgorithm.rule_largestNewlyAcked] at hlt
          exact hnot (LossRule.mem_lostNumbers_of_lt hflight
            (by simp only [GeneralLossAlgorithm.rule_largestNewlyAcked]; omega) (by simp [hs]))
      | some slot =>
          obtain ⟨_, _, hle, _⟩ := LossRule.survivor_spec hs
          rw [hs] at hlt
          simp only [Option.map_some, Option.getD_some] at hlt
          refine hnot (LossRule.mem_lostNumbers_of_lt hflight (by omega) ?_)
          intro s hs'
          cases hs.symm.trans hs'
          omega
  newlyAcked := by
    intro L' hL'
    cases hL'
    simpa [detect] using hL

theorem detect_armed (halarm : (m.detect time L).lossAlgorithm.lossDetectionTimeout ≠ 0) :
    (m.detect time L).Armed := by
  cases hs : (m.lossAlgorithm.rule m.rttStats time L).survivor m.unackedPackets with
  | none => simp [detect, GeneralLossAlgorithm.afterDetection, hs] at halarm
  | some slot =>
      rcases slot with ⟨s, info⟩
      obtain ⟨hi, hf, hle, ho⟩ := LossRule.survivor_spec hs
      rw [Bool.eq_false_iff, Ne, LossRule.overdue_iff, not_or] at ho
      refine ⟨s, L, info, ?_, rfl, ?_, hf, hle, ?_, ?_⟩
      · simp [detect, GeneralLossAlgorithm.afterDetection, hs]
      · simp only [detect]
        rw [settleAll_info?_of_not_mem (fun _ => LossRule.lostNumbers_info)
          (LossRule.survivor_not_mem hs)]
        exact hi
      · exact Nat.lt_of_not_le ho.1
      · simp [detect, GeneralLossAlgorithm.afterDetection, hs, GeneralLossAlgorithm.lossDelay]

/-- The lost packets are the lowest in flight, so the cleanup will pop their slots. -/
theorem detect_sorted
    (hacked : ∀ k info, m.unackedPackets.info? k = some info → info.inFlight = false →
      info.state = .acked) : (m.detect time L).Sorted := by
  intro k info hk hf
  by_cases hlost : k ∈ (m.lossAlgorithm.rule m.rttStats time L).lostNumbers m.unackedPackets
  · refine .inr fun j hj => ?_
    obtain ⟨hflight, hnot⟩ := detect_inFlight.mp hj
    by_contra hge
    by_cases hjk : j = k
    · exact hnot (hjk ▸ hlost)
    · exact hnot (LossRule.mem_lostNumbers_of_lt_lost hlost hflight (by omega))
  · simp only [detect] at hk
    rw [settleAll_info?_of_not_mem (fun _ => LossRule.lostNumbers_info) hlost] at hk
    exact .inl (hacked k info hk hf)

/-! ## Reporting the event -/

variable [SendAlgorithmInterface σ] {rttUpdated : Bool} {priorInFlight : Nat} {eventTime : Int}

theorem maybeInvokeCongestionEvent_atRest (h : m.Consistent) (hsorted : m.Sorted)
    (halarm : m.lossAlgorithm.lossDetectionTimeout ≠ 0 → m.Armed)
    (hquiet : m.packetsAcked = [] → m.packetsLost = [] → m.AtRest) :
    (m.maybeInvokeCongestionEvent rttUpdated priorInFlight eventTime).AtRest := by
  unfold maybeInvokeCongestionEvent
  split
  · rename_i hnothing
    simp only [Bool.and_eq_true, List.isEmpty_iff] at hnothing
    exact hquiet hnothing.1.2 hnothing.2
  · refine
      { map := h.map.removeObsoletePackets
        runt := h.runt
        least := h.least.trans le_removeObsoletePackets
        largest := by simpa using h.largest
        cached := ?_
        newlyAcked := by simpa using h.newlyAcked
        packetsAcked := rfl
        packetsLost := rfl
        front := ?_
        acked := ?_
        alarm := ?_ }
    · rcases h.cached with ⟨l, hl, hnext, hle⟩
      exact ⟨l, hl, by simpa using hnext,
        fun k hk => hle k (h.map.removeObsoletePackets_inFlight.mp hk)⟩
    · intro hne
      rw [removeObsoletePackets_nextNumber] at hne
      exact h.map.removeObsoletePackets_inFlight.mpr (h.map.front_inFlight hne)
    · intro k info hk hf
      change m.unackedPackets.removeObsoletePackets.info? k = some info at hk
      have hrange := range_of_info hk
      rw [removeObsoletePackets_nextNumber] at hrange
      rw [removeObsoletePackets_info?, if_neg (by omega)] at hk
      rcases hsorted k info hk hf with hs | hbelow
      · exact hs
      · have hlt := hbelow _ (h.map.front_inFlight (by omega))
        omega
    · intro hne
      obtain ⟨l, L, info, hl, hL, hi, hf, hle, hthr, ht⟩ := halarm hne
      have hkeep := h.map.le_of_inFlight ⟨info, hi, hf⟩
      refine ⟨l, L, info, hl, hL, ?_, hf, hle, hthr, ht⟩
      rw [removeObsoletePackets_info?, if_neg (by omega)]
      exact hi

theorem resetConsecutiveRtoCount_atRest (h : m.AtRest) :
    (m.resetConsecutiveRtoCount rttUpdated).AtRest := by
  unfold resetConsecutiveRtoCount
  split
  · exact ⟨⟨h.map, h.runt, h.least, h.largest, h.cached, h.newlyAcked⟩, h.packetsAcked,
      h.packetsLost, h.front, h.acked, h.alarm⟩
  · exact h

@[simp] theorem resetConsecutiveRtoCount_unackedPackets :
    (m.resetConsecutiveRtoCount rttUpdated).unackedPackets = m.unackedPackets := by
  unfold resetConsecutiveRtoCount
  split <;> rfl

variable (m rttUpdated priorInFlight eventTime) in
/-- A congestion event either leaves the map alone or cleans it up. -/
theorem maybeInvokeCongestionEvent_unackedPackets :
    (m.maybeInvokeCongestionEvent rttUpdated priorInFlight eventTime).unackedPackets =
        m.unackedPackets ∨
      (m.maybeInvokeCongestionEvent rttUpdated priorInFlight eventTime).unackedPackets =
        m.unackedPackets.removeObsoletePackets := by
  unfold maybeInvokeCongestionEvent
  split
  · exact .inl rfl
  · exact .inr rfl

@[simp] theorem maybeInvokeCongestionEvent_lossAlgorithm :
    (m.maybeInvokeCongestionEvent rttUpdated priorInFlight eventTime).lossAlgorithm =
      m.lossAlgorithm := by
  unfold maybeInvokeCongestionEvent
  split <;> rfl

@[simp] theorem maybeInvokeCongestionEvent_stats :
    (m.maybeInvokeCongestionEvent rttUpdated priorInFlight eventTime).stats = m.stats := by
  unfold maybeInvokeCongestionEvent
  split <;> rfl

theorem maybeInvokeCongestionEvent_nextNumber :
    (m.maybeInvokeCongestionEvent rttUpdated priorInFlight eventTime).unackedPackets.nextNumber =
      m.unackedPackets.nextNumber := by
  rcases maybeInvokeCongestionEvent_unackedPackets m rttUpdated priorInFlight eventTime with h | h
  · simp [h]
  · simp [h]

theorem maybeInvokeCongestionEvent_info? {k : Nat}
    (hk : (m.maybeInvokeCongestionEvent rttUpdated priorInFlight eventTime).unackedPackets.info? k =
      some info) : m.unackedPackets.info? k = some info := by
  rcases maybeInvokeCongestionEvent_unackedPackets m rttUpdated priorInFlight eventTime with h | h
  all_goals rw [h] at hk
  · exact hk
  · rw [removeObsoletePackets_info?] at hk
    split at hk
    · cases hk
    · exact hk

theorem maybeInvokeCongestionEvent_inFlight {k : Nat}
    (hk : (m.maybeInvokeCongestionEvent rttUpdated priorInFlight
      eventTime).unackedPackets.InFlight k) : m.unackedPackets.InFlight k := by
  rcases hk with ⟨info, hi, hf⟩
  exact ⟨info, maybeInvokeCongestionEvent_info? hi, hf⟩

/-! ## The operations -/

theorem afterAck_nextNumber {ackReceiveTime now : Int} :
    (m.afterAck n info ackReceiveTime now).unackedPackets.nextNumber =
      m.unackedPackets.nextNumber := by
  simp [afterAck, maybeInvokeCongestionEvent_nextNumber, ackEvent, detect, acknowledge]

theorem afterAck_info? {ackReceiveTime now : Int} {k : Nat} {kinfo : QuicTransmissionInfo}
    (hk : (m.afterAck n info ackReceiveTime now).unackedPackets.info? k = some kinfo) :
    (m.ackEvent n info ackReceiveTime now).unackedPackets.info? k = some kinfo := by
  rw [afterAck, resetConsecutiveRtoCount_unackedPackets] at hk
  exact maybeInvokeCongestionEvent_info? hk

theorem afterLossTimeout_nextNumber {now : Int} :
    (m.afterLossTimeout L now).unackedPackets.nextNumber = m.unackedPackets.nextNumber := by
  simp [afterLossTimeout, maybeInvokeCongestionEvent_nextNumber, lossTimeoutEvent, detect,
    countLossTimeout]

theorem afterLossTimeout_info? {now : Int} {k : Nat}
    (hk : (m.afterLossTimeout L now).unackedPackets.info? k = some info) :
    (m.lossTimeoutEvent L now).unackedPackets.info? k = some info :=
  maybeInvokeCongestionEvent_info? hk

theorem afterAck_atRest (h : m.AtRest) (hi : m.unackedPackets.info? n = some info)
    (ackReceiveTime now : Int) : (m.afterAck n info ackReceiveTime now).AtRest := by
  refine resetConsecutiveRtoCount_atRest (maybeInvokeCongestionEvent_atRest ?_ ?_ ?_ ?_)
  · apply detect_consistent (acknowledge_consistent h.toConsistent hi ackReceiveTime now)
    simpa [acknowledge] using (range_of_info hi).2
  · exact detect_sorted fun _ _ hk hf => acknowledge_acked h hi hk hf
  · exact detect_armed
  · intro hnil
    simp [ackEvent, detect, acknowledge] at hnil

theorem afterLossTimeout_atRest (h : m.AtRest) (hL : m.largestNewlyAcked = .number L)
    (now : Int) : (m.afterLossTimeout L now).AtRest := by
  have hcount : m.countLossTimeout.Consistent :=
    ⟨h.map, h.runt, h.least, h.largest, h.cached, h.newlyAcked⟩
  have hcons : (m.lossTimeoutEvent L now).Consistent :=
    detect_consistent hcount (h.newlyAcked L hL)
  apply maybeInvokeCongestionEvent_atRest hcons (detect_sorted h.acked) detect_armed
  -- Nothing was lost, so the detection left the map as it was.
  intro _ hnone
  have hmap : (m.lossTimeoutEvent L now).unackedPackets = m.unackedPackets := by
    have hnil : (m.lossAlgorithm.rule m.rttStats now L).lost m.unackedPackets = [] := hnone
    simp [lossTimeoutEvent, detect, countLossTimeout, LossRule.lostNumbers, hnil, settleAll]
  exact
    { toConsistent := hcons
      packetsAcked := h.packetsAcked
      packetsLost := hnone
      front := by rw [hmap]; exact h.front
      acked := by rw [hmap]; exact h.acked
      alarm := detect_armed }

omit [SendAlgorithmInterface σ] in
theorem afterRto_atRest (h : m.AtRest) (hidle : m.lossAlgorithm.lossDetectionTimeout = 0) :
    m.afterRto.AtRest where
  map := emptied_wellFormed
  runt := h.runt
  least := by
    have hleast := h.least
    simp only [afterRto, emptied, nextNumber]
    omega
  largest := by simpa [afterRto] using h.largest
  cached := by
    rcases h.cached with ⟨l, hl, hnext, _⟩
    exact ⟨l, hl, by simpa [afterRto] using hnext, fun k hk => absurd hk not_inFlight_emptied⟩
  newlyAcked := by simpa [afterRto] using h.newlyAcked
  packetsAcked := h.packetsAcked
  packetsLost := h.packetsLost
  front := by simp [afterRto, emptied, nextNumber]
  acked := by simp [afterRto]
  alarm := fun hne => absurd hidle hne

theorem onPacketSent_atRest (h : m.AtRest) {packet : SerializedPacket}
    (hn : packet.packetNumber = m.unackedPackets.nextNumber) (sentTime : Int) :
    (m.onPacketSent packet sentTime).1.AtRest := by
  have hleast := h.least
  have hle : m.unackedPackets.leastUnacked ≤ m.unackedPackets.nextNumber := Nat.le_add_right _ _
  refine
    { map := h.map.addSentPacket hn
      runt := h.runt
      least := h.least
      largest := ?_
      cached := ?_
      newlyAcked := ?_
      packetsAcked := h.packetsAcked
      packetsLost := h.packetsLost
      front := ?_
      acked := ?_
      alarm := ?_ }
  · change (m.unackedPackets.addSentPacket packet sentTime true).largestSentPacket =
      if (m.unackedPackets.addSentPacket packet sentTime true).nextNumber = 1 then _
      else .number ((m.unackedPackets.addSentPacket packet sentTime true).nextNumber - 1)
    rw [addSentPacket_nextNumber hn, if_neg (by omega), addSentPacket_largestSentPacket, hn]
    rfl
  · rcases h.cached with ⟨l, hl, hnext, hbelow⟩
    refine ⟨l, hl, ?_, fun k hk => ?_⟩
    · simp only [onPacketSent]
      rw [addSentPacket_nextNumber hn]
      omega
    · rcases (addSentPacket_inFlight hn).mp hk with rfl | hk
      · exact hnext
      · exact hbelow k hk
  · intro L hL
    have hlt := h.newlyAcked L hL
    simp only [onPacketSent]
    rw [addSentPacket_nextNumber hn]
    omega
  · intro _
    apply (addSentPacket_inFlight hn).mpr
    simp only [onPacketSent, addSentPacket_leastUnacked]
    by_cases hne : m.unackedPackets.leastUnacked < m.unackedPackets.nextNumber
    · exact .inr (h.front hne)
    · exact .inl (by omega)
  · intro k kinfo hk hf
    simp only [onPacketSent] at hk
    rw [addSentPacket_info? hn] at hk
    split at hk
    · cases hk
      simp [sentInfo] at hf
    · exact h.acked k kinfo hk hf
  · intro hne
    obtain ⟨l, L, info, hl, hL, hi, hf, hle, hthr, ht⟩ := h.alarm hne
    have hlt := (range_of_info hi).2
    refine ⟨l, L, info, hl, hL, ?_, hf, hle, hthr, ht⟩
    simp only [onPacketSent]
    rw [addSentPacket_info? hn, if_neg (by omega)]
    exact hi

end QuicSentPacketManager

namespace Connection

open QuicSentPacketManager

variable {σ : Type} [SendAlgorithmInterface σ] {c c' : Connection σ} {op : Operation}

/-- The manager is at rest and the packet maker is one number behind the map. -/
structure AtRest (c : Connection σ) : Prop where
  manager : c.manager.AtRest
  next : c.map.nextNumber = c.recentPacketNumber + 1

/-- What a step does, by the operation. -/
inductive Outcome (c : Connection σ) : Operation → Connection σ → Prop
  | send (length : PacketLength) (sendTime : Int) :
      Outcome c (.send length sendTime) (c.send length sendTime)
  | ack {n : Nat} {info : QuicTransmissionInfo} (hi : c.map.info? n = some info)
      (ackReceiveTime now : Int) :
      Outcome c (.ack n ackReceiveTime now)
        { c with manager := c.manager.afterAck n info ackReceiveTime now }
  | lossTimeout {L : Nat} (harmed : c.manager.lossAlgorithm.lossDetectionTimeout ≠ 0)
      (hL : c.manager.largestNewlyAcked = .number L) (now : Int) :
      Outcome c (.timeout now) { c with manager := c.manager.afterLossTimeout L now }
  | rto (hidle : c.manager.lossAlgorithm.lossDetectionTimeout = 0) (now : Int) :
      Outcome c (.timeout now) { c with manager := c.manager.afterRto }

omit [SendAlgorithmInterface σ] in
theorem create_atRest (sendAlgorithm : σ) : (create sendAlgorithm).AtRest where
  manager :=
    { map := ⟨by simp [create, info?], rfl, rfl⟩
      runt := rfl
      least := le_refl 1
      largest := rfl
      cached := ⟨1, rfl, le_refl _, by simp [create, InFlight, info?]⟩
      newlyAcked := by simp [create]
      packetsAcked := rfl
      packetsLost := rfl
      front := by simp [create, nextNumber]
      acked := by simp [create, info?]
      alarm := by simp [create] }
  next := rfl

theorem step_outcome (h : c.AtRest) (hs : step c op = .ok c') : c.Outcome op c' := by
  cases op with
  | send length sendTime =>
      cases hs
      exact .send length sendTime
  | ack n ackReceiveTime now =>
      simp only [step] at hs
      cases hi : c.map.info? n with
      | none =>
          rw [ack_of_gone h.manager hi] at hs
          cases hs
      | some info =>
          rw [ack_of_info h.manager hi] at hs
          cases hs
          exact .ack hi ackReceiveTime now
  | timeout now =>
      simp only [step] at hs
      by_cases hidle : c.manager.lossAlgorithm.lossDetectionTimeout = 0
      · rw [timeout_rto h.manager hidle] at hs
        cases hs
        exact .rto hidle now
      · obtain ⟨_, L, _, _, hL, _⟩ := h.manager.alarm hidle
        rw [timeout_loss h.manager hidle hL] at hs
        cases hs
        exact .lossTimeout hidle hL now

theorem Outcome.step_eq (h : c.AtRest) (ho : c.Outcome op c') : step c op = .ok c' := by
  cases ho with
  | send length sendTime => rfl
  | ack hi ackReceiveTime now => exact ack_of_info h.manager hi ackReceiveTime now
  | lossTimeout harmed hL now => exact timeout_loss h.manager harmed hL now
  | rto hidle now => exact timeout_rto h.manager hidle now

/-- Every operation but the ack of a slot that is gone has an outcome. -/
theorem AtRest.exists_outcome (h : c.AtRest) (op : Operation)
    (hack : ∀ n t now, op = .ack n t now → ∃ info, c.map.info? n = some info) :
    ∃ c', c.Outcome op c' := by
  cases op with
  | send length sendTime => exact ⟨_, .send length sendTime⟩
  | ack n ackReceiveTime now =>
      obtain ⟨info, hi⟩ := hack n ackReceiveTime now rfl
      exact ⟨_, .ack hi ackReceiveTime now⟩
  | timeout now =>
      by_cases hidle : c.manager.lossAlgorithm.lossDetectionTimeout = 0
      · exact ⟨_, .rto hidle now⟩
      · obtain ⟨_, L, _, _, hL, _⟩ := h.manager.alarm hidle
        exact ⟨_, .lossTimeout hidle hL now⟩

theorem Outcome.atRest (h : c.AtRest) (ho : c.Outcome op c') : c'.AtRest := by
  cases ho with
  | send length sendTime =>
      refine ⟨onPacketSent_atRest h.manager h.next.symm sendTime, ?_⟩
      exact (addSentPacket_nextNumber h.next.symm).trans (by rw [h.next]; rfl)
  | ack hi ackReceiveTime now =>
      refine ⟨afterAck_atRest h.manager hi ackReceiveTime now, ?_⟩
      exact afterAck_nextNumber.trans h.next
  | lossTimeout harmed hL now =>
      refine ⟨afterLossTimeout_atRest h.manager hL now, ?_⟩
      exact afterLossTimeout_nextNumber.trans h.next
  | rto hidle now =>
      refine ⟨afterRto_atRest h.manager hidle, ?_⟩
      exact emptied_nextNumber.trans h.next

theorem step_atRest (h : c.AtRest) (hs : step c op = .ok c') : c'.AtRest :=
  (step_outcome h hs).atRest h

/-- The manager is at rest in every reachable state. -/
theorem exec_atRest {sendAlgorithm : σ} {ops : List Operation}
    (hrun : exec (create sendAlgorithm) ops = .ok c) : c.AtRest :=
  PartialRun.invariant (fun _ _ _ => step_atRest) (create_atRest sendAlgorithm) hrun

/-! ## Where a slot comes from -/

/-- A slot after a step was there before, or it is the slot of the packet just sent. -/
theorem Outcome.info?_origin (h : c.AtRest) (ho : c.Outcome op c') {k : Nat}
    {info : QuicTransmissionInfo} (hk : c'.map.info? k = some info) :
    (∃ old, c.map.info? k = some old ∧ old.bytesSent = info.bytesSent ∧
      old.sentTime = info.sentTime) ∨
    ∃ length sendTime, op = .send length sendTime ∧ k = c.map.nextNumber ∧
      info = sentInfo (c.makePacket length sendTime) sendTime := by
  cases ho with
  | send length sendTime =>
      change (c.map.addSentPacket _ _ true).info? k = some info at hk
      rw [addSentPacket_info? h.next.symm] at hk
      split at hk
      · rename_i hkn
        cases hk
        exact .inr ⟨length, sendTime, rfl, hkn, rfl⟩
      · exact .inl ⟨info, hk, rfl, rfl⟩
  | @ack n old hi ackReceiveTime now =>
      left
      obtain ⟨mid, hmid, hb, ht⟩ := settleAll_info?_some
        (fun _ => LossRule.lostNumbers_info) (afterAck_info? hk)
      simp only [acknowledge] at hmid
      rw [settle_info? hi] at hmid
      split at hmid
      · rename_i hkn
        subst k
        cases hmid
        exact ⟨old, hi, hb, ht⟩
      · exact ⟨mid, hmid, hb, ht⟩
  | lossTimeout harmed hL now =>
      left
      exact settleAll_info?_some (fun _ => LossRule.lostNumbers_info) (afterLossTimeout_info? hk)
  | rto hidle now =>
      change c.map.emptied.info? k = some info at hk
      simp at hk

/-- Packets 3 and 2 are acked out of order. The ack of packet 6 loses the packets 1 and 4, the
loss timer finds packet 5, and the retransmission timer sweeps packet 7. -/
def reorderedRun : List Operation :=
  [.send defaultPacketLength 1000, .send defaultPacketLength 2000, .send defaultPacketLength 3000,
    .send defaultPacketLength 4000, .send defaultPacketLength 100000,
    .send defaultPacketLength 101000, .ack 3 53000 53001, .ack 2 53500 53501,
    .ack 6 151000 151001, .timeout 170000, .send defaultPacketLength 300000, .timeout 900000,
    .send defaultPacketLength 1000000, .ack 8 1050000 1050001]

end Connection

end BbrChrome
