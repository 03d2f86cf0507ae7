import BbrChrome.Quic.ByteLedger

/-!
# Holes below an acked packet

A packet in flight with a larger acked number is suspect. The detection that an ack
makes looks at the packets up to the one just acked, not up to the largest acked one,
so the alarm it leaves need not cover the holes above.
-/

namespace BbrChrome

open QuicUnackedPacketMap QuicSentPacketManager

namespace QuicSentPacketManager

variable {σ : Type} {m : QuicSentPacketManager σ} {n p q : Nat}
  {info pinfo : QuicTransmissionInfo} {time now : Int}

/-- The rule by which the detection for an ack of `n` judges the packets. -/
def ackRule (m : QuicSentPacketManager σ) (n : Nat) (info : QuicTransmissionInfo) (time : Int) :
    LossRule :=
  let rttStats :=
    if takesRttSample info then m.rttStats.updateRtt (time - info.sentTime) 0 time
    else m.rttStats
  m.lossAlgorithm.rule rttStats time n

/-- Packet `p` is the least one below `n` that is in flight and not overdue. -/
structure FirstSurvivor (m : QuicSentPacketManager σ) (rule : LossRule) (n p : Nat)
    (pinfo : QuicTransmissionInfo) : Prop where
  below : p < n
  slot : m.unackedPackets.info? p = some pinfo
  flight : pinfo.inFlight = true
  pending : rule.overdue (p, pinfo) = false
  least : ∀ k kinfo, k < p → m.unackedPackets.info? k = some kinfo → kinfo.inFlight = true →
    rule.overdue (k, kinfo) = true

/-- What the detection for an ack of `n` sees is the map without `n`. -/
theorem ackEvent_survivor_iff (hi : m.unackedPackets.info? n = some info) :
    (m.ackRule n info time).survivor (m.unackedPackets.settle n .acked) = some (p, pinfo) ↔
      m.FirstSurvivor (m.ackRule n info time) n p pinfo := by
  have hkeep : ∀ k, k ≠ n → (m.unackedPackets.settle n .acked).info? k =
      m.unackedPackets.info? k := by
    intro k hk
    rw [settle_info? hi, if_neg hk]
  have hlarge : (m.ackRule n info time).largestNewlyAcked = n := rfl
  rw [LossRule.survivor_iff, hlarge]
  constructor
  · rintro ⟨⟨hp, hf, hle, ho⟩, hleast⟩
    have hne : p ≠ n := by
      have hflight : (m.unackedPackets.settle n .acked).InFlight p := ⟨pinfo, hp, hf⟩
      exact ((settle_inFlight hi).mp hflight).2
    have hlt : p < n := by omega
    refine ⟨hlt, (hkeep p hne).symm.trans hp, hf, ho, fun k kinfo hk hki => ?_⟩
    have hkn : k ≠ n := by omega
    exact hleast k kinfo hk ((hkeep k hkn).trans hki)
  · intro h
    have hlt := h.below
    have hne : p ≠ n := by omega
    refine ⟨⟨(hkeep p hne).trans h.slot, h.flight, by omega, h.pending⟩, fun k kinfo hk hki => ?_⟩
    have hkn : k ≠ n := by omega
    exact h.least k kinfo hk ((hkeep k hkn).symm.trans hki)

end QuicSentPacketManager

namespace Connection

variable {σ : Type} {c c' : Connection σ} {n p : Nat} {info : QuicTransmissionInfo}
  {time now : Int} {acked : List Nat}

/-- The packet is in flight although a larger one was acked. -/
def Suspect (c : Connection σ) (acked : List Nat) (p : Nat) : Prop :=
  c.map.InFlight p ∧ ∃ q ∈ acked, p < q

/-- An alarm is set whenever a packet is suspect. -/
def HolesCovered (c : Connection σ) (acked : List Nat) : Prop :=
  (∃ p, c.Suspect acked p) → c.manager.lossAlgorithm.lossDetectionTimeout ≠ 0

/-- The ack of `n` finds a packet below `n` for which it can set the alarm, or it finds no
such packet and there is no hole above `n` either. -/
def AckCoversHoles (c : Connection σ) (acked : List Nat) (n : Nat) (time : Int) : Prop :=
  ∀ info, c.map.info? n = some info →
    (∃ p pinfo, c.manager.FirstSurvivor (c.manager.ackRule n info time) n p pinfo ∧
      pinfo.sentTime + (c.manager.ackRule n info time).lossDelay ≠ 0) ∨
    (∀ p pinfo, ¬ c.manager.FirstSurvivor (c.manager.ackRule n info time) n p pinfo) ∧
      ∀ p, n < p → ¬ c.Suspect acked p

variable [SendAlgorithmInterface σ]

theorem afterAck_timeout (now : Int) :
    (c.manager.afterAck n info time now).lossAlgorithm.lossDetectionTimeout =
    (((c.manager.ackRule n info time).survivor (c.map.settle n .acked)).map
      fun slot => slot.2.sentTime + (c.manager.ackRule n info time).lossDelay).getD 0 := by
  simp only [afterAck, resetConsecutiveRtoCount]
  split <;> rw [maybeInvokeCongestionEvent_lossAlgorithm] <;> rfl

theorem AtRest.afterAck_inFlight (h : c.AtRest) (hi : c.map.info? n = some info) :
    (c.manager.afterAck n info time now).unackedPackets.InFlight p ↔
      (c.map.InFlight p ∧ p ≠ n) ∧
        p ∉ (c.manager.ackRule n info time).lostNumbers (c.map.settle n .acked) := by
  have hwf : (c.manager.ackEvent n info time now).unackedPackets.WellFormed :=
    (detect_consistent (acknowledge_consistent h.manager.toConsistent hi time now)
      (by simpa [acknowledge] using (range_of_info hi).2)).map
  have hevent : (c.manager.afterAck n info time now).unackedPackets.InFlight p ↔
      (c.manager.ackEvent n info time now).unackedPackets.InFlight p := by
    rw [afterAck, resetConsecutiveRtoCount_unackedPackets]
    rcases maybeInvokeCongestionEvent_unackedPackets (c.manager.ackEvent n info time now)
      (takesRttSample info) c.map.bytesInFlight time with heq | heq
    · rw [heq]
    · rw [heq, hwf.removeObsoletePackets_inFlight]
  rw [hevent, ackEvent, detect_inFlight]
  have hsettle : (c.manager.acknowledge n info time now).unackedPackets.InFlight p ↔
      c.map.InFlight p ∧ p ≠ n := settle_inFlight hi
  rw [hsettle]
  rfl

/-- When the detection for an ack of `n` finds no survivor, everything up to `n` is lost. -/
theorem AtRest.afterAck_suspect (h : c.AtRest) (hi : c.map.info? n = some info)
    (hs : (c.manager.ackRule n info time).survivor (c.map.settle n .acked) = none) :
    ({ c with manager := c.manager.afterAck n info time now } : Connection σ).Suspect
        (acked ++ [n]) p ↔ n < p ∧ c.Suspect acked p := by
  have hlarge : (c.manager.ackRule n info time).largestNewlyAcked = n := rfl
  constructor
  · rintro ⟨hp, q, hq, hpq⟩
    obtain ⟨⟨hin, hne⟩, hnot⟩ := (h.afterAck_inFlight hi).mp hp
    have hgt : n < p := by
      by_contra hle
      apply hnot
      exact LossRule.mem_lostNumbers_of_lt ((settle_inFlight hi).mpr ⟨hin, hne⟩) (by omega)
        (by simp [hs])
    refine ⟨hgt, hin, q, ?_, hpq⟩
    rcases List.mem_append.mp hq with hq | hq
    · exact hq
    · have heq := List.mem_singleton.mp hq
      omega
  · rintro ⟨hgt, hin, q, hq, hpq⟩
    have hnot : p ∉ (c.manager.ackRule n info time).lostNumbers (c.map.settle n .acked) := by
      intro hmem
      obtain ⟨pinfo, hpi⟩ := LossRule.lostNumbers_info hmem
      have hle := (LossRule.overdue_of_mem_lostNumbers hmem hpi).1
      omega
    have hne : p ≠ n := by omega
    exact ⟨(h.afterAck_inFlight hi).mpr ⟨⟨hin, hne⟩, hnot⟩, q, by simp [hq], hpq⟩

theorem AtRest.afterAck_suspect_survivor {pinfo : QuicTransmissionInfo} (h : c.AtRest)
    (hi : c.map.info? n = some info)
    (hs : (c.manager.ackRule n info time).survivor (c.map.settle n .acked) = some (p, pinfo)) :
    ({ c with manager := c.manager.afterAck n info time now } : Connection σ).Suspect
      (acked ++ [n]) p := by
  have hfirst := (ackEvent_survivor_iff hi).mp hs
  have hlt := hfirst.below
  have hne : p ≠ n := by omega
  have hflight : c.map.InFlight p := ⟨pinfo, hfirst.slot, hfirst.flight⟩
  have hpending := LossRule.survivor_not_mem hs
  exact ⟨(h.afterAck_inFlight hi).mpr ⟨⟨hflight, hne⟩, hpending⟩, n, by simp, hlt⟩

theorem AtRest.holesCovered_iff (h : c.AtRest) (hi : c.map.info? n = some info) :
    ({ c with manager := c.manager.afterAck n info time now } : Connection σ).HolesCovered
        (acked ++ [n]) ↔ c.AckCoversHoles acked n time := by
  let after : Connection σ := { c with manager := c.manager.afterAck n info time now }
  have htimeout : after.manager.lossAlgorithm.lossDetectionTimeout = _ :=
    afterAck_timeout now
  change after.HolesCovered (acked ++ [n]) ↔ _
  cases hs : (c.manager.ackRule n info time).survivor (c.map.settle n .acked) with
  | some slot =>
      -- The survivor is itself suspect, so the alarm has to be set for it.
      rcases slot with ⟨s, sinfo⟩
      have hfirst := (ackEvent_survivor_iff hi).mp hs
      rw [hs] at htimeout
      constructor
      · intro hcovered info' hi'
        cases hi.symm.trans hi'
        have hset := hcovered ⟨s, h.afterAck_suspect_survivor hi hs⟩
        rw [htimeout] at hset
        exact .inl ⟨s, sinfo, hfirst, hset⟩
      · intro hcovers _
        rcases hcovers info hi with ⟨p, pinfo, hp, hdue⟩ | ⟨hno, _⟩
        · have hsame := (ackEvent_survivor_iff hi).mpr hp
          cases hs.symm.trans hsame
          rw [htimeout]
          exact hdue
        · exact absurd hfirst (hno s sinfo)
  | none =>
      -- Everything up to `n` is lost, so only the packets above `n` can be suspect.
      have hno : ∀ p pinfo,
          ¬ c.manager.FirstSurvivor (c.manager.ackRule n info time) n p pinfo := by
        intro p pinfo hp
        have hsome := (ackEvent_survivor_iff hi).mpr hp
        exact nomatch hs.symm.trans hsome
      rw [hs] at htimeout
      have hidle : after.manager.lossAlgorithm.lossDetectionTimeout = 0 := htimeout
      constructor
      · intro hcovered info' hi'
        cases hi.symm.trans hi'
        right
        exact ⟨hno, fun p hgt hp => hcovered ⟨p, (h.afterAck_suspect hi hs).mpr ⟨hgt, hp⟩⟩ hidle⟩
      · rintro hcovers ⟨p, hp⟩
        obtain ⟨hgt, hp⟩ := (h.afterAck_suspect hi hs).mp hp
        rcases hcovers info hi with ⟨p', pinfo, hp', _⟩ | ⟨_, hclear⟩
        · exact absurd hp' (hno p' pinfo)
        · exact absurd hp (hclear p hgt)

/-- In a run every ack leaves the holes covered exactly when every ack that finds its slot
either sets the alarm for a packet below or leaves no hole above. -/
theorem holes_covered_iff (sendAlgorithm : σ) (ops : List Operation) :
    (∀ pre n time now post c c', ops = pre ++ .ack n time now :: post →
        exec (create sendAlgorithm) pre = .ok c → step c (.ack n time now) = .ok c' →
        c'.HolesCovered (Operation.ackedNumbers (pre ++ [.ack n time now]))) ↔
      ∀ pre n time now post c, ops = pre ++ .ack n time now :: post →
        exec (create sendAlgorithm) pre = .ok c →
        c.AckCoversHoles (Operation.ackedNumbers pre) n time := by
  have hnumbers : ∀ pre n (time now : Int), Operation.ackedNumbers (pre ++ [.ack n time now]) =
      Operation.ackedNumbers pre ++ [n] := by
    intro pre n time now
    rw [Operation.ackedNumbers_append]
    rfl
  constructor
  · intro h pre n time now post c hsplit hpre info hi
    have hrest := exec_atRest hpre
    have hstep : step c (.ack n time now) = _ := ack_of_info hrest.manager hi time now
    have hcovered := h pre n time now post c _ hsplit hpre hstep
    rw [hnumbers] at hcovered
    exact (hrest.holesCovered_iff hi).mp hcovered info hi
  · intro h pre n time now post c c' hsplit hpre hstep
    have hrest := exec_atRest hpre
    rw [hnumbers]
    cases step_outcome hrest hstep with
    | ack hi => exact (hrest.holesCovered_iff hi).mpr (h pre n time now post c hsplit hpre)

/-- Packet 3 is acked, then packet 1: the second ack takes the fast path and disarms the
alarm although packet 2 is in flight below packet 3. -/
theorem hole_left_uncovered :
    ∃ c, exec (bbr2Connection 1 fun _ => 0)
        [.send defaultPacketLength 1000, .send defaultPacketLength 1100,
          .send defaultPacketLength 1200, .ack 3 51200 51201, .ack 1 51300 51301] = .ok c ∧
      ¬ c.HolesCovered (Operation.ackedNumbers
        [.send defaultPacketLength 1000, .send defaultPacketLength 1100,
          .send defaultPacketLength 1200, .ack 3 51200 51201, .ack 1 51300 51301]) := by
  obtain ⟨c, hrun, hends⟩ := PartialRun.exists_of_endsIn
    (p := fun c : Connection Bbr2Sender =>
      c.map.InFlight 2 ∧ c.manager.lossAlgorithm.lossDetectionTimeout = 0)
    (r := exec (bbr2Connection 1 fun _ => 0)
      [.send defaultPacketLength 1000, .send defaultPacketLength 1100,
        .send defaultPacketLength 1200, .ack 3 51200 51201, .ack 1 51300 51301])
    (by decide +kernel)
  obtain ⟨hflight, hidle⟩ := of_decide_eq_true hends
  exact ⟨c, hrun, fun hcovered => hcovered ⟨2, hflight, 3, by decide, by decide⟩ hidle⟩

end Connection

end BbrChrome
