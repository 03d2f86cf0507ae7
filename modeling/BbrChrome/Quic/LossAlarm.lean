import BbrChrome.Quic.ConnectionInvariant

/-!
# Loss detection over whole runs

Along a run whose packets are sent in order of time, every detection finds what its
plain rule says, and an armed alarm always has a packet to lose.
-/

namespace BbrChrome

open QuicUnackedPacketMap QuicSentPacketManager

def sendTimes (ops : List Operation) : List Int :=
  ops.filterMap fun
    | .send _ sendTime => some sendTime
    | _ => none

namespace Connection

variable {σ : Type} {c c' : Connection σ} {op : Operation} {ops : List Operation}

/-- Slots with higher numbers were not sent earlier. -/
def SentInOrder (c : Connection σ) : Prop :=
  ∀ i j a b, i < j → c.map.info? i = some a → c.map.info? j = some b → a.sentTime ≤ b.sentTime

/-- The operation calls `InvokeLossDetection` with `time` on the manager `m`. -/
inductive Detects (c : Connection σ) : Operation → QuicSentPacketManager σ → Int → Prop
  | ack {n : Nat} {ackReceiveTime now : Int} {started m : QuicSentPacketManager σ}
      (hstart : c.manager.onAckFrameStart n ackReceiveTime = .ok started)
      (hm : (started.onAckRange n (n + 1) now).handleAckedPackets ackReceiveTime = .ok m) :
      Detects c (.ack n ackReceiveTime now) m ackReceiveTime
  | timeout {now : Int} (hmode : c.manager.getRetransmissionMode = .lossMode) :
      Detects c (.timeout now) c.manager.countLossTimeout now

theorem AtRest.detects_cases (h : c.AtRest) {m : QuicSentPacketManager σ} {time : Int}
    (hd : c.Detects op m time) :
    (∃ n info now, op = .ack n time now ∧ c.map.info? n = some info ∧
      m = c.manager.acknowledge n info time now) ∨
    ∃ L, op = .timeout time ∧ c.manager.largestNewlyAcked = .number L ∧
      m = c.manager.countLossTimeout := by
  cases hd with
  | @ack n _ now started _ hstart hm =>
      cases hi : c.map.info? n with
      | none =>
          simp only [onAckFrameStart, maybeUpdateRtt_of_gone hi, bind, Except.bind, pure,
            Except.pure, Except.ok.injEq] at hstart
          subst started
          simp [onAckRange, handleAckedPackets, h.manager.packetsAcked, markAckedPackets,
            getTransmissionInfo, hi, bind, Except.bind] at hm
      | some info =>
          have hhandle := handleAcked_eq h.manager hi time now
          rw [hstart] at hhandle
          simp only [bind, Except.bind] at hhandle
          cases hhandle.symm.trans hm
          exact .inl ⟨n, info, now, rfl, hi, rfl⟩
  | timeout hmode =>
      have harmed : c.manager.lossAlgorithm.lossDetectionTimeout ≠ 0 := by
        intro hzero
        simp [getRetransmissionMode, hzero] at hmode
      obtain ⟨_, L, _, _, hL, _⟩ := h.manager.alarm harmed
      exact .inr ⟨L, rfl, hL, rfl⟩

theorem AtRest.detects_ack (h : c.AtRest) {n : Nat} {info : QuicTransmissionInfo}
    (hi : c.map.info? n = some info) (time now : Int) :
    c.Detects (.ack n time now) (c.manager.acknowledge n info time now) time := by
  have hstart := onAckFrameStart_eq h.manager.map hi time
  have hhandle := handleAcked_eq h.manager hi time now
  rw [hstart] at hhandle
  exact .ack hstart hhandle

variable [SendAlgorithmInterface σ]

/-- The rest of the operation continues from the result of the detection. -/
theorem step_of_detects {m : QuicSentPacketManager σ} {time : Int} (hd : c.Detects op m time) :
    ∃ finish : QuicSentPacketManager σ → QuicSentPacketManager σ,
      step c op = (m.invokeLossDetection time).map fun m' => { c with manager := finish m' } := by
  cases hd with
  | @ack n _ now started _ hstart hm =>
      refine ⟨fun m' => (m'.maybeInvokeCongestionEvent m.rttUpdated
        (started.onAckRange n (n + 1) now).unackedPackets.bytesInFlight
        time).resetConsecutiveRtoCount m.rttUpdated, ?_⟩
      simp only [step, Connection.ack, hstart, onAckFrameEnd, postProcessNewlyAckedPackets, hm,
        bind, Except.bind, pure, Except.pure]
      cases m.invokeLossDetection time <;> rfl
  | timeout hmode =>
      refine ⟨fun m' => m'.maybeInvokeCongestionEvent false c.map.bytesInFlight time, ?_⟩
      cases hdetect : c.manager.countLossTimeout.invokeLossDetection time <;>
      · unfold countLossTimeout at hdetect
        simp only [step, Connection.timeout, onRetransmissionTimeout, hmode, hdetect, bind,
          Except.bind, pure, Except.pure]
        rfl

/-! ## Send times -/

theorem Outcome.sentInOrder (h : c.AtRest) (ho : c.Outcome op c') (hsorted : c.SentInOrder)
    (hlater : ∀ t ∈ sendTimes [op], ∀ k info, c.map.info? k = some info → info.sentTime ≤ t) :
    c'.SentInOrder := by
  intro i j a b hij ha hb
  rcases ho.info?_origin h hb with ⟨b₀, hb₀, _, hbt⟩ | ⟨length, sendTime, rfl, hj, rfl⟩
  · rcases ho.info?_origin h ha with ⟨a₀, ha₀, _, hat⟩ | ⟨length, sendTime, rfl, hi, rfl⟩
    · rw [← hat, ← hbt]
      exact hsorted i j a₀ b₀ hij ha₀ hb₀
    · have hlt := (range_of_info hb₀).2
      omega
  · rcases ho.info?_origin h ha with ⟨a₀, ha₀, _, hat⟩ | ⟨_, _, _, hi, _⟩
    · rw [← hat]
      exact hlater sendTime (by simp [sendTimes]) i a₀ ha₀
    · omega

/-- Nondecreasing send times keep the slots of the map in order of time. -/
theorem exec_sentInOrder (h : c.AtRest) (hsorted : c.SentInOrder)
    (hlater : ∀ t ∈ sendTimes ops, ∀ k info, c.map.info? k = some info → info.sentTime ≤ t)
    (hsends : (sendTimes ops).Pairwise (· ≤ ·)) (hrun : exec c ops = .ok c') : c'.SentInOrder := by
  induction ops generalizing c with
  | nil => cases hrun; exact hsorted
  | cons op ops ih =>
      obtain ⟨mid, hs, hrest⟩ := PartialRun.exec_cons_ok hrun
      have ho := step_outcome h hs
      have hcons : sendTimes (op :: ops) = sendTimes [op] ++ sendTimes ops := by
        rw [sendTimes, sendTimes, sendTimes, ← List.filterMap_append]
        rfl
      rw [hcons] at hlater hsends
      obtain ⟨_, hpair, hcross⟩ := List.pairwise_append.mp hsends
      refine ih (ho.atRest h) (ho.sentInOrder h hsorted fun t ht => hlater t (by simp [ht]))
        ?_ hpair hrest
      intro t ht k info hk
      rcases ho.info?_origin h hk with ⟨old, hold, _, htime⟩ | ⟨length, sendTime, rfl, _, rfl⟩
      · rw [← htime]
        exact hlater t (by simp [ht]) k old hold
      · exact hcross sendTime (by simp [sendTimes]) t ht

/-! ## Detections find what the rule says -/

omit [SendAlgorithmInterface σ] in
theorem AtRest.scanStart_ok (h : c.AtRest) {m : QuicSentPacketManager σ} {time : Int}
    (hd : c.Detects op m time) :
    ∃ start, GeneralLossAlgorithm.scanStart (GeneralLossAlgorithm.advanceLeastInFlight
      m.packetsAcked m.lossAlgorithm.leastInFlight) m.unackedPackets = .ok start := by
  obtain ⟨l, hl, hle⟩ := h.manager.cached_le
  rcases h.detects_cases hd with ⟨n, info, now, _, hi, rfl⟩ | ⟨L, _, _, rfl⟩
  · have hlA : (c.manager.acknowledge n info time now).lossAlgorithm.leastInFlight = .number l := hl
    by_cases hn : n = l
    · -- The acked packet is the front of the deque, so the jump is one slot.
      obtain ⟨hge, hlt⟩ := range_of_info hi
      rw [hlA]
      simp only [acknowledge, GeneralLossAlgorithm.advanceLeastInFlight, hn, if_true,
        QuicPacketNumber.add_number, GeneralLossAlgorithm.scanStart]
      split
      · refine ⟨_, if_pos ?_⟩
        have hlen : (c.map.settle l .acked).nextNumber = c.map.nextNumber := settle_nextNumber
        unfold nextNumber at hlen hlt
        rw [settle_leastUnacked] at hlen ⊢
        change l + 1 - c.map.leastUnacked ≤ (c.map.settle l .acked).unackedPackets.length
        omega
      · exact ⟨_, rfl⟩
    · have hstay : GeneralLossAlgorithm.advanceLeastInFlight
          (c.manager.acknowledge n info time now).packetsAcked (.number l) = .number l := by
        simp [acknowledge, GeneralLossAlgorithm.advanceLeastInFlight, hn]
      rw [hlA, hstay]
      exact ⟨_, GeneralLossAlgorithm.scanStart_eq hle⟩
  · have hstay : GeneralLossAlgorithm.advanceLeastInFlight c.manager.countLossTimeout.packetsAcked
        c.manager.countLossTimeout.lossAlgorithm.leastInFlight = .number l := by
      simp [countLossTimeout, h.manager.packetsAcked, hl,
        GeneralLossAlgorithm.advanceLeastInFlight]
    rw [hstay]
    exact ⟨_, GeneralLossAlgorithm.scanStart_eq hle⟩

/-- In every reachable state the incremental detection equals the plain rule over the
whole map. -/
theorem detectLosses_eq_rule {sendAlgorithm : σ}
    (hrun : exec (create sendAlgorithm) ops = .ok c) (hsends : (sendTimes ops).Pairwise (· ≤ ·))
    {m : QuicSentPacketManager σ} {time : Int} (hd : c.Detects op m time) :
    (∃ start, GeneralLossAlgorithm.scanStart (GeneralLossAlgorithm.advanceLeastInFlight
      m.packetsAcked m.lossAlgorithm.leastInFlight) m.unackedPackets = .ok start) ∧
    ∃ L alg stats, m.lossDetectionTarget = .number L ∧
      m.lossAlgorithm.detectLosses m.unackedPackets time m.rttStats (.number L) m.packetsAcked
          m.packetsLost =
        .ok (alg, m.packetsLost ++
          (m.lossAlgorithm.rule m.rttStats time L).overduePackets m.unackedPackets, stats) ∧
      (((m.lossAlgorithm.rule m.rttStats time L).overduePackets m.unackedPackets).map
        (·.packetNumber)).Pairwise (· < ·) ∧
      alg.lossDetectionTimeout =
        (m.lossAlgorithm.rule m.rttStats time L).nextTimeout m.unackedPackets := by
  have h := exec_atRest hrun
  refine ⟨h.scanStart_ok hd, ?_⟩
  have hsorted : c.SentInOrder := exec_sentInOrder (create_atRest sendAlgorithm)
    (by simp [SentInOrder, create, info?]) (by simp [create, info?]) hsends hrun
  obtain ⟨l, hl, hle⟩ := h.manager.cached_le
  rcases h.detects_cases hd with ⟨n, info, now, _, hi, rfl⟩ | ⟨L, _, hL, rfl⟩
  · have hout : ¬ (c.map.settle n .acked).InFlight n :=
      fun hflight => ((settle_inFlight hi).mp hflight).2 rfl
    obtain ⟨stats, hdetect⟩ := GeneralLossAlgorithm.detectLosses_eq
      c.manager.lossAlgorithm (c.map.settle n .acked) n
      (c.manager.acknowledge n info time now).packetsAcked h.manager.runt hl hle
      (.inr ⟨_, _, rfl, hout⟩) time
      (c.manager.acknowledge n info time now).rttStats c.manager.packetsLost
    rw [LossRule.lost_eq_overduePackets] at hdetect
    · exact ⟨n, _, stats, rfl, hdetect, LossRule.overduePackets_ascending _ _,
        LossRule.nextTimeout_eq.symm⟩
    · intro i j a b hij ha hb
      have hn : ∀ k ∈ [n], ∃ info, c.map.info? k = some info := by
        intro k hk
        exact ⟨info, List.mem_singleton.mp hk ▸ hi⟩
      obtain ⟨a₀, ha₀, _, hat⟩ := settleAll_info?_some hn ha
      obtain ⟨b₀, hb₀, _, hbt⟩ := settleAll_info?_some hn hb
      rw [← hat, ← hbt]
      exact hsorted i j a₀ b₀ hij ha₀ hb₀
  · obtain ⟨stats, hdetect⟩ := GeneralLossAlgorithm.detectLosses_eq
      c.manager.lossAlgorithm c.map L c.manager.packetsAcked h.manager.runt hl hle
      (.inl h.manager.packetsAcked) time c.manager.rttStats c.manager.packetsLost
    rw [LossRule.lost_eq_overduePackets hsorted] at hdetect
    refine ⟨L, _, stats, ?_, hdetect, LossRule.overduePackets_ascending _ _,
      LossRule.nextTimeout_eq.symm⟩
    simp [lossDetectionTarget, countLossTimeout, h.manager.packetsAcked, hL]

/-- Behind packets 3 and 2, which were acked out of order, the ack of packet 6 finds packet 1 lost
by its number and packet 4 by its age, and arms the alarm for packet 5, which the timer finds. -/
theorem detectLosses_eq_rule_of_reorderedRun :
    (∃ c m alg stats, exec (bbr2Connection 1 fun _ => 0) (reorderedRun.take 8) = .ok c ∧
      c.Detects (.ack 6 151000 151001) m 151000 ∧
      m.lossAlgorithm.detectLosses m.unackedPackets 151000 m.rttStats (.number 6) m.packetsAcked
          m.packetsLost = .ok (alg, [⟨1, defaultPacketSize⟩, ⟨4, defaultPacketSize⟩], stats) ∧
      alg.lossDetectionTimeout = 162735) ∧
    ∃ c m alg stats, exec (bbr2Connection 1 fun _ => 0) (reorderedRun.take 9) = .ok c ∧
      c.Detects (.timeout 170000) m 170000 ∧
      m.lossAlgorithm.detectLosses m.unackedPackets 170000 m.rttStats (.number 6) m.packetsAcked
          m.packetsLost = .ok (alg, [⟨5, defaultPacketSize⟩], stats) ∧
      alg.lossDetectionTimeout = 0 := by
  -- What the rule says, for the manager of a detection.
  let verdict (m : QuicSentPacketManager Bbr2Sender) (time : Int) :=
    (m.lossDetectionTarget,
      m.packetsLost ++ (m.lossAlgorithm.rule m.rttStats time 6).overduePackets m.unackedPackets,
      (m.lossAlgorithm.rule m.rttStats time 6).nextTimeout m.unackedPackets)
  have hfinds : ∀ k c op m time lost timeout,
      exec (bbr2Connection 1 fun _ => 0) (reorderedRun.take k) = .ok c →
      (sendTimes (reorderedRun.take k)).Pairwise (· ≤ ·) → c.Detects op m time →
      verdict m time = (.number 6, lost, timeout) →
      ∃ alg stats, m.lossAlgorithm.detectLosses m.unackedPackets time m.rttStats (.number 6)
          m.packetsAcked m.packetsLost = .ok (alg, lost, stats) ∧
        alg.lossDetectionTimeout = timeout := by
    intro k c op m time lost timeout hrun hsends hd hverdict
    obtain ⟨htarget, hlost, htimeout⟩ := Prod.ext_iff.mp hverdict |>.imp_right Prod.ext_iff.mp
    obtain ⟨_, L, alg, stats, hL, hdetect, _, halarm⟩ := detectLosses_eq_rule hrun hsends hd
    cases hL.symm.trans htarget
    rw [show m.packetsLost ++ _ = lost from hlost] at hdetect
    exact ⟨alg, stats, hdetect, halarm.trans htimeout⟩
  constructor
  · obtain ⟨c, hrun, hends⟩ := PartialRun.exists_of_endsIn
      (p := fun c => (c.map.info? 6).any fun info =>
        verdict (c.manager.acknowledge 6 info 151000 151001) 151000 ==
          (.number 6, [⟨1, defaultPacketSize⟩, ⟨4, defaultPacketSize⟩], 162735))
      (r := exec (bbr2Connection 1 fun _ => 0) (reorderedRun.take 8)) (by decide +kernel)
    obtain ⟨info, hi, hverdict⟩ := (Option.any_eq_true _ _).mp hends
    have hd := (exec_atRest hrun).detects_ack hi 151000 151001
    obtain ⟨alg, stats, hdetect, halarm⟩ :=
      hfinds 8 c _ _ _ _ _ hrun (by decide) hd (eq_of_beq hverdict)
    exact ⟨c, _, alg, stats, hrun, hd, hdetect, halarm⟩
  · obtain ⟨c, hrun, hends⟩ := PartialRun.exists_of_endsIn
      (p := fun c => c.manager.getRetransmissionMode == .lossMode &&
        verdict c.manager.countLossTimeout 170000 ==
          (.number 6, [⟨5, defaultPacketSize⟩], 0))
      (r := exec (bbr2Connection 1 fun _ => 0) (reorderedRun.take 9)) (by decide +kernel)
    obtain ⟨hmode, hverdict⟩ := (Bool.and_eq_true _ _).mp hends
    have hd : c.Detects (.timeout 170000) _ 170000 := .timeout (eq_of_beq hmode)
    obtain ⟨alg, stats, hdetect, halarm⟩ :=
      hfinds 9 c _ _ _ _ _ hrun (by decide) hd (eq_of_beq hverdict)
    exact ⟨c, _, alg, stats, hrun, hd, hdetect, halarm⟩

/-! ## The alarm is live -/

omit [SendAlgorithmInterface σ] in
/-- When the alarm has expired, the packet it was armed for is lost. -/
theorem AtRest.alarm_loses (h : c.AtRest) {l L : Nat} {info : QuicTransmissionInfo}
    (hl : c.manager.lossAlgorithm.leastInFlight = .number l) (hi : c.map.info? l = some info)
    (hf : info.inFlight = true) (hle : l ≤ L) {now : Int}
    (hdue : info.sentTime + c.manager.lossAlgorithm.lossDelay c.manager.rttStats ≤ now) :
    l ∈ (c.manager.lossAlgorithm.rule c.manager.rttStats now L).lostNumbers c.map := by
  refine LossRule.mem_lostNumbers_of_lt ⟨info, hi, hf⟩ hle ?_
  rintro ⟨s, sinfo⟩ hs
  obtain ⟨hsi, hsf, _, ho⟩ := LossRule.survivor_spec hs
  rcases h.manager.cached with ⟨l', hl', _, hbelow⟩
  cases hl.symm.trans hl'
  have hls : l ≤ s := hbelow s ⟨sinfo, hsi, hsf⟩
  by_contra hge
  have hsl : s = l := by
    simp only at hge
    omega
  subst s
  cases hi.symm.trans hsi
  rw [LossRule.overdue_iff.mpr (.inr hdue)] at ho
  cases ho

/-- With the alarm set, the least packet in flight is at most the largest newly acked
one, and from the alarm on a timeout loses a packet and does not fire at once again. -/
theorem alarm_live {sendAlgorithm : σ} (hrun : exec (create sendAlgorithm) ops = .ok c)
    (harmed : c.manager.lossAlgorithm.lossDetectionTimeout ≠ 0) :
    (∃ l L, c.manager.lossAlgorithm.leastInFlight = .number l ∧ c.map.InFlight l ∧
      c.manager.largestNewlyAcked = .number L ∧ l ≤ L) ∧
    ∀ now, c.manager.lossAlgorithm.lossDetectionTimeout ≤ now →
      ∃ m, c.manager.onRetransmissionTimeout now = .ok (m, .lossMode) ∧
        c.manager.stats.packetsLost < m.stats.packetsLost ∧
        (∃ k, c.map.InFlight k ∧ ¬ m.unackedPackets.InFlight k) ∧
        (m.lossAlgorithm.lossDetectionTimeout = 0 ∨
          now < m.lossAlgorithm.lossDetectionTimeout) := by
  have h := exec_atRest hrun
  obtain ⟨l, L, info, hl, hL, hi, hf, hle, _, ht⟩ := h.manager.alarm harmed
  refine ⟨⟨l, L, hl, ⟨info, hi, hf⟩, hL, hle⟩, fun now hnow => ?_⟩
  rw [ht] at hnow
  have hlost := h.alarm_loses hl hi hf hle hnow
  refine ⟨_, onRetransmissionTimeout_loss h.manager harmed hL now, ?_,
    ⟨l, ⟨info, hi, hf⟩, fun hflight => ?_⟩, ?_⟩
  · have hpos : 0 < ((c.manager.lossAlgorithm.rule c.manager.rttStats now L).lostNumbers
        c.map).length := List.length_pos_of_mem hlost
    rw [LossRule.lostNumbers, List.length_map] at hpos
    simp only [afterLossTimeout, maybeInvokeCongestionEvent_stats]
    exact Nat.lt_add_of_pos_right hpos
  · exact (detect_inFlight.mp (maybeInvokeCongestionEvent_inFlight hflight)).2 hlost
  · simp only [afterLossTimeout, maybeInvokeCongestionEvent_lossAlgorithm]
    cases hs : (c.manager.lossAlgorithm.rule c.manager.rttStats now L).survivor c.map with
    | none =>
        left
        change (((c.manager.lossAlgorithm.rule c.manager.rttStats now L).survivor c.map).map
          _).getD 0 = _
        rw [hs]
        rfl
    | some slot =>
        right
        obtain ⟨_, _, _, ho⟩ := LossRule.survivor_spec hs
        rw [Bool.eq_false_iff, Ne, LossRule.overdue_iff, not_or] at ho
        change _ < (((c.manager.lossAlgorithm.rule c.manager.rttStats now L).survivor
          c.map).map _).getD 0
        rw [hs]
        exact Int.not_le.mp ho.2

/-- The echo of packet 2 arms the alarm for packet 1. -/
theorem alarm_live_behind_one_echo :
    ∃ c, exec (bbr2Connection 1 fun _ => 0)
        [.send defaultPacketLength 1000, .send defaultPacketLength 1100, .ack 2 51100 51101] =
          .ok c ∧
      ∃ l L, c.manager.lossAlgorithm.leastInFlight = .number l ∧ c.map.InFlight l ∧
        c.manager.largestNewlyAcked = .number L ∧ l ≤ L := by
  obtain ⟨c, hrun, harmed⟩ := PartialRun.exists_of_endsIn
    (p := fun c => c.manager.lossAlgorithm.lossDetectionTimeout != 0)
    (r := exec (bbr2Connection 1 fun _ => 0)
      [.send defaultPacketLength 1000, .send defaultPacketLength 1100, .ack 2 51100 51101])
    (by decide +kernel)
  exact ⟨c, hrun, (alarm_live hrun (by simpa using harmed)).1⟩

end Connection

end BbrChrome
