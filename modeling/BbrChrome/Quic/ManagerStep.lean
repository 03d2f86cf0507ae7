import BbrChrome.Congestion.LossDetection
import BbrChrome.Quic.Connection

/-!
# What one operation of the manager does

Between two operations the manager is `AtRest`. From such a state every operation
either looks up a slot that is gone or yields the state given here in closed form,
as a composition of taking the ack, detecting losses and reporting the event.
-/

namespace BbrChrome

open QuicUnackedPacketMap

namespace QuicSentPacketManager

variable {σ : Type}

/-- The alarm is set for the least packet in flight, by the largest newly acked packet
and the RTT statistics that the manager still holds. -/
def Armed (m : QuicSentPacketManager σ) : Prop :=
  ∃ l L info, m.lossAlgorithm.leastInFlight = .number l ∧ m.largestNewlyAcked = .number L ∧
    m.unackedPackets.info? l = some info ∧ info.inFlight = true ∧ l ≤ L ∧
    L - l < m.lossAlgorithm.reorderingThreshold ∧
    m.lossAlgorithm.lossDetectionTimeout = info.sentTime + m.lossAlgorithm.lossDelay m.rttStats

/-- What holds of the manager at every point of an operation. -/
structure Consistent (m : QuicSentPacketManager σ) : Prop where
  map : m.unackedPackets.WellFormed
  runt : m.lossAlgorithm.usePacketThresholdForRuntPackets = true
  least : 1 ≤ m.unackedPackets.leastUnacked
  largest : m.unackedPackets.largestSentPacket =
    if m.unackedPackets.nextNumber = 1 then .uninitialized
    else .number (m.unackedPackets.nextNumber - 1)
  cached : ∃ l, m.lossAlgorithm.leastInFlight = .number l ∧ l ≤ m.unackedPackets.nextNumber ∧
    ∀ n, m.unackedPackets.InFlight n → l ≤ n
  newlyAcked : ∀ L, m.largestNewlyAcked = .number L → L < m.unackedPackets.nextNumber

/-- What holds in addition between two operations. -/
structure AtRest (m : QuicSentPacketManager σ) : Prop extends m.Consistent where
  packetsAcked : m.packetsAcked = []
  packetsLost : m.packetsLost = []
  front : m.unackedPackets.leastUnacked < m.unackedPackets.nextNumber →
    m.unackedPackets.InFlight m.unackedPackets.leastUnacked
  acked : ∀ n info, m.unackedPackets.info? n = some info → info.inFlight = false →
    info.state = .acked
  alarm : m.lossAlgorithm.lossDetectionTimeout ≠ 0 → m.Armed

variable {m : QuicSentPacketManager σ} {n : Nat} {info : QuicTransmissionInfo}

/-- The cached start of the scan never lies behind the front of the deque. -/
theorem AtRest.cached_le (h : m.AtRest) :
    ∃ l, m.lossAlgorithm.leastInFlight = .number l ∧ l ≤ m.unackedPackets.leastUnacked := by
  rcases h.cached with ⟨l, hl, hnext, hle⟩
  refine ⟨l, hl, ?_⟩
  by_cases hne : m.unackedPackets.leastUnacked < m.unackedPackets.nextNumber
  · exact hle _ (h.front hne)
  · unfold nextNumber at hne hnext
    omega

/-- A slot lies in the deque exactly when some packet up to it is in flight. -/
theorem AtRest.least_le_iff (h : m.AtRest) (hn : n < m.unackedPackets.nextNumber) :
    m.unackedPackets.leastUnacked ≤ n ↔ ∃ k ≤ n, m.unackedPackets.InFlight k := by
  constructor
  · intro hle
    exact ⟨_, hle, h.front (by omega)⟩
  · rintro ⟨k, hk, hflight⟩
    exact hflight.range.1.trans hk

/-! ## The ack of a packet -/

def takesRttSample (info : QuicTransmissionInfo) : Bool := info.inFlight && info.sentTime != 0

/-- The manager after `OnAckFrameStart`, `OnAckRange` and the loop of `OnAckFrameEnd`. -/
def acknowledge (m : QuicSentPacketManager σ) (n : Nat) (info : QuicTransmissionInfo)
    (ackReceiveTime now : Int) : QuicSentPacketManager σ :=
  { m with
    rttStats :=
      if takesRttSample info then
        m.rttStats.updateRtt (ackReceiveTime - info.sentTime) 0 ackReceiveTime
      else m.rttStats
    rttUpdated := takesRttSample info
    packetsAcked := [⟨n, if info.inFlight then info.bytesSent else defaultPacketSize, now⟩]
    largestNewlyAcked := if info.inFlight then m.largestNewlyAcked else .number n
    unackedPackets := m.unackedPackets.settle n .acked }

/-- The manager after `InvokeLossDetection`. -/
def detect (m : QuicSentPacketManager σ) (time : Int) (L : Nat) : QuicSentPacketManager σ :=
  let rule := m.lossAlgorithm.rule m.rttStats time L
  let map := m.unackedPackets
  { m with
    lossAlgorithm := m.lossAlgorithm.afterDetection rule map
    packetsLost := rule.lost map
    largestNewlyAcked := .number L
    unackedPackets := map.settleAll .neverSent (rule.lostNumbers map)
    stats := { m.stats with packetsLost := m.stats.packetsLost + (rule.lost map).length } }

theorem maybeUpdateRtt_of_gone (hn : m.unackedPackets.info? n = none) (ackReceiveTime : Int) :
    m.maybeUpdateRtt n ackReceiveTime = .ok (m, false) := by
  simp [maybeUpdateRtt, isUnacked, hn]

theorem onAckFrameStart_eq (h : m.unackedPackets.WellFormed)
    (hi : m.unackedPackets.info? n = some info) (ackReceiveTime : Int) :
    m.onAckFrameStart n ackReceiveTime =
      .ok { m with
            rttStats :=
              if takesRttSample info then
                m.rttStats.updateRtt (ackReceiveTime - info.sentTime) 0 ackReceiveTime
              else m.rttStats
            rttUpdated := takesRttSample info } := by
  have hunacked : m.unackedPackets.isUnacked n = info.inFlight := by
    rw [Bool.eq_iff_iff, isUnacked_iff h]
    constructor
    · rintro ⟨info', hi', hf⟩
      cases hi.symm.trans hi'
      exact hf
    · exact fun hf => ⟨info, hi, hf⟩
  unfold onAckFrameStart maybeUpdateRtt
  cases hf : info.inFlight with
  | false => simp [hunacked, hf, takesRttSample, bind, Except.bind, pure, Except.pure]
  | true =>
      have hstate : info.state ≠ .notContributingRtt := by
        rw [((h.slot n info hi).outstanding_iff).mpr hf]
        decide
      by_cases ht : info.sentTime = 0
      · simp [hunacked, hf, takesRttSample, getTransmissionInfo_of_info hi, ht, bind, Except.bind,
          pure, Except.pure]
      · simp [hunacked, hf, takesRttSample, getTransmissionInfo_of_info hi, ht, hstate, bind,
          Except.bind, pure, Except.pure]

theorem markPacketHandled_eq (h : m.unackedPackets.WellFormed)
    (hi : m.unackedPackets.info? n = some info) (ackReceiveTime : Int) :
    m.markPacketHandled n info ackReceiveTime =
      .ok { m with unackedPackets := m.unackedPackets.settle n .acked } := by
  obtain ⟨mid, hremove, hset⟩ := removeFromInFlight_settle .acked h hi
  simp [markPacketHandled, (h.slot n info hi).state_ne_lost, hremove, hset, bind, Except.bind,
    pure, Except.pure]

theorem handleAcked_eq (h : m.AtRest) (hi : m.unackedPackets.info? n = some info)
    (ackReceiveTime now : Int) :
    (do let m ← m.onAckFrameStart n ackReceiveTime
        (m.onAckRange n (n + 1) now).handleAckedPackets ackReceiveTime) =
      .ok (m.acknowledge n info ackReceiveTime now) := by
  rw [onAckFrameStart_eq h.map hi]
  simp only [bind, Except.bind, onAckRange, handleAckedPackets, h.packetsAcked, List.nil_append,
    List.reverse_cons, List.reverse_nil, markAckedPackets, getTransmissionInfo_of_info hi]
  cases hf : info.inFlight with
  | false =>
      simp only [Bool.false_eq_true, if_false]
      rw [markPacketHandled_eq (by exact h.map) (by exact hi)]
      simp [acknowledge, hf, pure, Except.pure]
  | true =>
      simp only [if_true]
      rw [markPacketHandled_eq (by exact h.map) (by exact hi)]
      simp [acknowledge, hf, pure, Except.pure]

theorem markLostPackets_eq {lost : List LostPacket} (h : m.unackedPackets.WellFormed)
    (hl : ∀ p ∈ lost, ∃ info, m.unackedPackets.info? p.packetNumber = some info) :
    markLostPackets lost m =
      .ok { m with
            unackedPackets :=
              m.unackedPackets.settleAll .neverSent (lost.map (·.packetNumber))
            stats := { m.stats with packetsLost := m.stats.packetsLost + lost.length } } := by
  induction lost generalizing m with
  | nil => rfl
  | cons p lost ih =>
      obtain ⟨info, hi⟩ := hl p (by simp)
      obtain ⟨mid, hremove, hset⟩ := removeFromInFlight_settle .neverSent h hi
      simp only [markLostPackets, hremove, hset, bind, Except.bind]
      rw [ih (h.settle .neverSent hi (.inr rfl))
        (fun q hq => settle_exists_info ⟨info, hi⟩ (hl q (by simp [hq])))]
      simp only [settleAll, List.map_cons, List.length_cons, Nat.add_assoc, Nat.add_comm 1]

theorem invokeLossDetection_eq {l L : Nat} (h : m.unackedPackets.WellFormed)
    (hrunt : m.lossAlgorithm.usePacketThresholdForRuntPackets = true)
    (hleast : m.lossAlgorithm.leastInFlight = .number l) (hl : l ≤ m.unackedPackets.leastUnacked)
    (hlost : m.packetsLost = []) (htarget : m.lossDetectionTarget = .number L)
    (hacked : m.packetsAcked = [] ∨
      ∃ bytes now, m.packetsAcked = [⟨L, bytes, now⟩] ∧ ¬ m.unackedPackets.InFlight L)
    (time : Int) : m.invokeLossDetection time = .ok (m.detect time L) := by
  obtain ⟨stats, hd⟩ := GeneralLossAlgorithm.detectLosses_eq m.lossAlgorithm m.unackedPackets L
    m.packetsAcked hrunt hleast hl hacked time m.rttStats m.packetsLost
  unfold invokeLossDetection
  rw [htarget]
  change (m.lossAlgorithm.detectLosses _ _ _ _ _ _ >>= _) = _
  rw [hd, hlost]
  simp only [bind, Except.bind, List.nil_append]
  rw [markLostPackets_eq (by exact h)]
  · rfl
  · intro p hp
    obtain ⟨info, hi, _⟩ := LossRule.lost_spec hp
    exact ⟨info, hi⟩

/-! ## The sweep of a retransmission timeout -/

theorem sweepOutstanding_eq {count k : Nat} {map : QuicUnackedPacketMap} (h : map.WellFormed)
    (hk : map.leastUnacked ≤ k) (hcount : k + count = map.nextNumber) :
    ∃ swept, sweepOutstanding count k map = .ok swept ∧ swept.WellFormed ∧
      swept.emptied = map.emptied ∧ ∀ j, swept.InFlight j ↔ map.InFlight j ∧ j < k := by
  induction count generalizing k map with
  | zero =>
      refine ⟨map, rfl, h, rfl, fun j => ⟨fun hj => ⟨hj, ?_⟩, fun hj => hj.1⟩⟩
      have hlt := hj.range.2
      omega
  | succ count ih =>
      obtain ⟨info, hi⟩ := exists_info hk (by omega)
      by_cases ho : info.state = .outstanding
      · obtain ⟨mid, hremove, hset⟩ := removeFromInFlight_settle .neverSent h hi
        obtain ⟨swept, hs, hwf, hemptied, hflight⟩ :=
          ih (k := k + 1) (h.settle .neverSent hi (.inr rfl))
            (by simp only [settle_leastUnacked]; omega) (by simp only [settle_nextNumber]; omega)
        refine ⟨swept, ?_, hwf, hemptied.trans settle_emptied, fun j => ?_⟩
        · simp only [sweepOutstanding, getTransmissionInfo_of_info hi, bind, Except.bind, ho,
            if_true, hremove, pure, Except.pure, hset]
          exact hs
        · rw [hflight, settle_inFlight hi]
          constructor
          · rintro ⟨⟨hj, hne⟩, hlt⟩
            exact ⟨hj, by omega⟩
          · rintro ⟨hj, hlt⟩
            exact ⟨⟨hj, by omega⟩, by omega⟩
      · obtain ⟨swept, hs, hwf, hemptied, hflight⟩ := ih (k := k + 1) h (by omega) (by omega)
        refine ⟨swept, ?_, hwf, hemptied, fun j => ?_⟩
        · simp only [sweepOutstanding, getTransmissionInfo_of_info hi, bind, Except.bind, ho,
            if_false, pure, Except.pure]
          exact hs
        · rw [hflight]
          constructor
          · rintro ⟨hj, hlt⟩
            refine ⟨hj, ?_⟩
            by_contra hge
            have hjk : j = k := by omega
            subst j
            rcases hj with ⟨info', hi', hf⟩
            cases hi.symm.trans hi'
            exact ho ((h.slot k info hi).outstanding_iff.mpr hf)
          · exact fun hj => ⟨hj.1, by omega⟩

/-- The sweep takes every packet out of flight and the cleanup pops the whole deque. -/
theorem retransmitRtoPackets_eq (h : m.Consistent) :
    m.retransmitRtoPackets =
      .ok { m with
            unackedPackets := m.unackedPackets.emptied
            consecutiveRtoCount := m.consecutiveRtoCount + 1 } := by
  unfold retransmitRtoPackets
  cases hnil : m.unackedPackets.unackedPackets with
  | nil =>
      have hno : ∀ j, ¬ m.unackedPackets.InFlight j := by
        intro j hj
        have hrange := hj.range
        simp only [nextNumber, hnil, List.length_nil] at hrange
        omega
      simp [hnil, bind, Except.bind, pure, Except.pure, h.map.removeObsoletePackets_eq_emptied hno]
  | cons info infos =>
      have hnext : m.unackedPackets.leastUnacked < m.unackedPackets.nextNumber := by
        simp [nextNumber, hnil]
      have hleast := h.least
      have hcount : m.unackedPackets.leastUnacked + sweepCount m.unackedPackets =
          m.unackedPackets.nextNumber := by
        rw [sweepCount, h.largest, if_neg (by omega)]
        simp only
        omega
      obtain ⟨swept, hs, hwf, hemptied, hflight⟩ := sweepOutstanding_eq h.map (le_refl _) hcount
      have hno : ∀ j, ¬ swept.InFlight j := by
        intro j hj
        obtain ⟨hmap, hlt⟩ := (hflight j).mp hj
        exact absurd hmap.range.1 (by omega)
      simp [hnil, hs, bind, Except.bind, pure, Except.pure,
        hwf.removeObsoletePackets_eq_emptied hno, hemptied]

/-! ## The operations -/

/-- Where the manager stands when it reports an ack to the send algorithm. -/
def ackEvent (m : QuicSentPacketManager σ) (n : Nat) (info : QuicTransmissionInfo)
    (ackReceiveTime now : Int) : QuicSentPacketManager σ :=
  (m.acknowledge n info ackReceiveTime now).detect ackReceiveTime n

def countLossTimeout (m : QuicSentPacketManager σ) : QuicSentPacketManager σ :=
  { m with stats := { m.stats with lossTimeoutCount := m.stats.lossTimeoutCount + 1 } }

/-- Where the manager stands when the loss timer reports its losses. -/
def lossTimeoutEvent (m : QuicSentPacketManager σ) (L : Nat) (now : Int) :
    QuicSentPacketManager σ :=
  m.countLossTimeout.detect now L

def afterRto (m : QuicSentPacketManager σ) : QuicSentPacketManager σ :=
  { m with
    stats := { m.stats with rtoCount := m.stats.rtoCount + 1 }
    unackedPackets := m.unackedPackets.emptied
    consecutiveRtoCount := m.consecutiveRtoCount + 1 }

theorem ackEvent_eq (h : m.AtRest) (hi : m.unackedPackets.info? n = some info)
    (ackReceiveTime now : Int) :
    (m.acknowledge n info ackReceiveTime now).invokeLossDetection ackReceiveTime =
      .ok (m.ackEvent n info ackReceiveTime now) := by
  obtain ⟨l, hleast, hl⟩ := h.cached_le
  have hout : ¬ (m.unackedPackets.settle n .acked).InFlight n :=
    fun hflight => ((settle_inFlight hi).mp hflight).2 rfl
  exact invokeLossDetection_eq (m := m.acknowledge n info ackReceiveTime now)
    (h.map.settle .acked hi (.inl rfl)) h.runt hleast hl h.packetsLost rfl
    (.inr ⟨_, _, rfl, hout⟩) _

theorem lossTimeoutEvent_eq {L : Nat} (h : m.AtRest) (hL : m.largestNewlyAcked = .number L)
    (now : Int) :
    m.countLossTimeout.invokeLossDetection now = .ok (m.lossTimeoutEvent L now) := by
  obtain ⟨l, hleast, hl⟩ := h.cached_le
  have htarget : m.countLossTimeout.lossDetectionTarget = .number L := by
    simp [lossDetectionTarget, countLossTimeout, h.packetsAcked, hL]
  exact invokeLossDetection_eq (m := m.countLossTimeout) h.map h.runt hleast hl h.packetsLost
    htarget (.inl h.packetsAcked) now

variable [SendAlgorithmInterface σ]

def afterAck (m : QuicSentPacketManager σ) (n : Nat) (info : QuicTransmissionInfo)
    (ackReceiveTime now : Int) : QuicSentPacketManager σ :=
  ((m.ackEvent n info ackReceiveTime now).maybeInvokeCongestionEvent (takesRttSample info)
    m.unackedPackets.bytesInFlight ackReceiveTime).resetConsecutiveRtoCount (takesRttSample info)

def afterLossTimeout (m : QuicSentPacketManager σ) (L : Nat) (now : Int) :
    QuicSentPacketManager σ :=
  (m.lossTimeoutEvent L now).maybeInvokeCongestionEvent false m.unackedPackets.bytesInFlight now

theorem onRetransmissionTimeout_loss {L : Nat} (h : m.AtRest)
    (harmed : m.lossAlgorithm.lossDetectionTimeout ≠ 0) (hL : m.largestNewlyAcked = .number L)
    (now : Int) : m.onRetransmissionTimeout now = .ok (m.afterLossTimeout L now, .lossMode) := by
  have hdetect := lossTimeoutEvent_eq h hL now
  unfold countLossTimeout at hdetect
  simp only [onRetransmissionTimeout, getRetransmissionMode, if_pos harmed, hdetect, bind,
    Except.bind, pure, Except.pure]
  rfl

theorem onRetransmissionTimeout_rto (h : m.AtRest)
    (hidle : m.lossAlgorithm.lossDetectionTimeout = 0) (now : Int) :
    m.onRetransmissionTimeout now = .ok (m.afterRto, .rtoMode) := by
  have hrto := retransmitRtoPackets_eq (m :=
    { m with stats := { m.stats with rtoCount := m.stats.rtoCount + 1 } })
    ⟨h.map, h.runt, h.least, h.largest, h.cached, h.newlyAcked⟩
  simp only [onRetransmissionTimeout, getRetransmissionMode, hidle, ne_eq, not_true, if_false, hrto,
    bind, Except.bind, pure, Except.pure]
  rfl

end QuicSentPacketManager

namespace Connection

open QuicSentPacketManager

variable {σ : Type} [SendAlgorithmInterface σ] {c : Connection σ} {n : Nat}
  {info : QuicTransmissionInfo}

/-- An ack whose slot is gone is looked up outside the deque. -/
theorem ack_of_gone (h : c.manager.AtRest) (hn : c.map.info? n = none) (ackReceiveTime now : Int) :
    c.ack n ackReceiveTime now =
      .error (.outOfRange n c.map.leastUnacked c.map.unackedPackets.length) := by
  simp [ack, onAckFrameStart, maybeUpdateRtt_of_gone hn, onAckRange, onAckFrameEnd,
    handleAckedPackets, h.packetsAcked, markAckedPackets, getTransmissionInfo, hn, bind,
    Except.bind, pure, Except.pure]

theorem ack_of_info (h : c.manager.AtRest) (hi : c.map.info? n = some info)
    (ackReceiveTime now : Int) :
    c.ack n ackReceiveTime now =
      .ok { c with manager := c.manager.afterAck n info ackReceiveTime now } := by
  have hstart := onAckFrameStart_eq h.map hi ackReceiveTime
  have hhandle := handleAcked_eq h hi ackReceiveTime now
  rw [hstart] at hhandle
  simp only [bind, Except.bind] at hhandle
  simp only [ack, hstart, onAckFrameEnd, postProcessNewlyAckedPackets, hhandle,
    ackEvent_eq h hi, bind, Except.bind, pure, Except.pure]
  rfl

theorem timeout_loss {L : Nat} (h : c.manager.AtRest)
    (harmed : c.manager.lossAlgorithm.lossDetectionTimeout ≠ 0)
    (hL : c.manager.largestNewlyAcked = .number L) (now : Int) :
    c.timeout now = .ok { c with manager := c.manager.afterLossTimeout L now } := by
  simp only [timeout, onRetransmissionTimeout_loss h harmed hL, bind, Except.bind, pure,
    Except.pure]

theorem timeout_rto (h : c.manager.AtRest)
    (hidle : c.manager.lossAlgorithm.lossDetectionTimeout = 0) (now : Int) :
    c.timeout now = .ok { c with manager := c.manager.afterRto } := by
  simp only [timeout, onRetransmissionTimeout_rto h hidle, bind, Except.bind, pure, Except.pure]

end Connection

end BbrChrome
