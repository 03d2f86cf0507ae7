import BbrChrome.Congestion.BandwidthSampler

/-!
# The packet that represents a congestion event

`OnCongestionEvent` keeps the last valid send state of the lost and of the acked
packets and decides between the two by the last packet numbers of the vectors. The
packet meant is the highest-numbered one that yielded a valid state.
-/

namespace BbrChrome.BandwidthSampler

/-! ## What the loops collect -/

def lostStates : List LostPacket → BandwidthSampler → List (Nat × SendTimeState)
  | [], _ => []
  | packet :: packets, s =>
      let (s, state) := s.onPacketLost packet.packetNumber packet.bytesLost
      if state.isValid then (packet.packetNumber, state) :: lostStates packets s
      else lostStates packets s

/-- The acked packets whose sample has a valid state, with it. -/
def ackedStates (ackTime : Int) : List AckedPacket → BandwidthSampler → List (Nat × SendTimeState)
  | [], _ => []
  | packet :: packets, s =>
      let (s, sample) := s.onPacketAcknowledged ackTime packet.packetNumber
      if sample.stateAtSend.isValid then
        (packet.packetNumber, sample.stateAtSend) :: ackedStates ackTime packets s
      else ackedStates ackTime packets s

/-- The sampler as the loop over the acked packets finds it. -/
def afterLosses (s : BandwidthSampler) (lostPackets : List LostPacket) : BandwidthSampler :=
  (onPacketsLost lostPackets s {}).1

/-- Every packet of the event that yielded a valid state. -/
def eventStates (s : BandwidthSampler) (ackTime : Int) (ackedPackets : List AckedPacket)
    (lostPackets : List LostPacket) : List (Nat × SendTimeState) :=
  lostStates lostPackets s ++ ackedStates ackTime ackedPackets (s.afterLosses lostPackets)

def lastState (states : List (Nat × SendTimeState)) (default : SendTimeState) : SendTimeState :=
  (states.getLast?.map Prod.snd).getD default

theorem lastState_cons (p : Nat × SendTimeState) (states : List (Nat × SendTimeState))
    (default : SendTimeState) : lastState (p :: states) default = lastState states p.2 := by
  unfold lastState
  rw [List.getLast?_cons]
  cases states.getLast? <;> rfl

theorem onPacketsLost_state (packets : List LostPacket) (s : BandwidthSampler)
    (last : SendTimeState) :
    (onPacketsLost packets s last).2 = lastState (lostStates packets s) last := by
  induction packets generalizing s last with
  | nil => rfl
  | cons packet packets ih =>
      unfold onPacketsLost lostStates
      dsimp only
      split
      · rw [ih, lastState_cons]
      · exact ih _ _

theorem onPacketsAcknowledged_state (ackTime : Int) (packets : List AckedPacket)
    (s : BandwidthSampler) (event : CongestionEventSample) (last : SendTimeState) :
    (onPacketsAcknowledged ackTime packets s event last).2.2 =
      lastState (ackedStates ackTime packets s) last := by
  induction packets generalizing s event last with
  | nil => rfl
  | cons packet packets ih =>
      unfold onPacketsAcknowledged ackedStates
      dsimp only
      split
      · rw [ih, lastState_cons]
      · exact ih _ _ _

theorem lostStates_sublist (packets : List LostPacket) (s : BandwidthSampler) :
    ((lostStates packets s).map Prod.fst).Sublist (packets.map (·.packetNumber)) := by
  induction packets generalizing s with
  | nil => exact List.Sublist.refl _
  | cons packet packets ih =>
      unfold lostStates
      dsimp only
      split
      · exact (ih _).cons_cons _
      · exact (ih _).cons _

theorem ackedStates_sublist (ackTime : Int) (packets : List AckedPacket) (s : BandwidthSampler) :
    ((ackedStates ackTime packets s).map Prod.fst).Sublist (packets.map (·.packetNumber)) := by
  induction packets generalizing s with
  | nil => exact List.Sublist.refl _
  | cons packet packets ih =>
      unfold ackedStates
      dsimp only
      split
      · exact (ih _).cons_cons _
      · exact (ih _).cons _

variable {states lost acked : List (Nat × SendTimeState)} {state : SendTimeState}
  {p : Nat × SendTimeState}

theorem lostStates_valid (packets : List LostPacket) (s : BandwidthSampler) :
    ∀ p ∈ lostStates packets s, p.2.isValid = true := by
  induction packets generalizing s with
  | nil => exact List.forall_mem_nil _
  | cons packet packets ih =>
      unfold lostStates
      dsimp only
      split
      · next hvalid => exact List.forall_mem_cons.mpr ⟨hvalid, ih _⟩
      · exact ih _

theorem ackedStates_valid (ackTime : Int) (packets : List AckedPacket) (s : BandwidthSampler) :
    ∀ p ∈ ackedStates ackTime packets s, p.2.isValid = true := by
  induction packets generalizing s with
  | nil => exact List.forall_mem_nil _
  | cons packet packets ih =>
      unfold ackedStates
      dsimp only
      split
      · next hvalid => exact List.forall_mem_cons.mpr ⟨hvalid, ih _⟩
      · exact ih _

/-! ## The latest state -/

def Ascending (states : List (Nat × SendTimeState)) : Prop :=
  (states.map Prod.fst).Pairwise (· < ·)

/-- `state` is the state of the highest-numbered entry, and is invalid only without entries. -/
structure IsLatest (states : List (Nat × SendTimeState)) (state : SendTimeState) : Prop where
  latest : states ≠ [] → ∃ p ∈ states, p.2 = state ∧ ∀ q ∈ states, q.1 ≤ p.1
  invalid : state.isValid = false ↔ states = []

theorem Ascending.le_last (h : Ascending states) (hp : states.getLast? = some p) :
    ∀ q ∈ states, q.1 ≤ p.1 ∧ (q.1 = p.1 → q = p) := by
  obtain ⟨front, rfl⟩ := List.getLast?_eq_some_iff.mp hp
  intro q hq
  rcases List.mem_append.mp hq with hfront | hlast
  · have hlt : q.1 < p.1 := by
      unfold Ascending at h
      rw [List.map_append, List.pairwise_append] at h
      exact h.2.2 _ (List.mem_map_of_mem hfront) _ (by simp)
    exact ⟨Nat.le_of_lt hlt, fun heq => absurd heq (Nat.ne_of_lt hlt)⟩
  · rw [List.mem_singleton] at hlast
    subst hlast
    exact ⟨Nat.le_refl _, fun _ => rfl⟩

theorem getLast_mem (hp : states.getLast? = some p) : p ∈ states := List.mem_of_getLast? hp

theorem lastState_of_some (hp : states.getLast? = some p) (default : SendTimeState) :
    lastState states default = p.2 := by
  rw [lastState, hp]
  rfl

theorem isLatest_lastState (h : Ascending states) (hvalid : ∀ p ∈ states, p.2.isValid = true) :
    IsLatest states (lastState states {}) := by
  cases hlast : states.getLast? with
  | none =>
      have hnil : states = [] := List.getLast?_eq_none_iff.mp hlast
      subst hnil
      exact ⟨fun h => absurd rfl h, iff_of_true rfl rfl⟩
  | some p =>
      have hmem := getLast_mem hlast
      have hne : states ≠ [] := List.ne_nil_of_mem hmem
      rw [lastState_of_some hlast]
      refine ⟨fun _ => ⟨p, hmem, rfl, fun q hq => (h.le_last hlast q hq).1⟩, ?_⟩
      rw [hvalid p hmem]
      exact iff_of_false (by decide) hne

/-- Two ascending vectors are represented by the higher one of their last entries. -/
theorem isLatest_append_iff {l a : Nat × SendTimeState} (hlost : Ascending lost)
    (hacked : Ascending acked) (hl : lost.getLast? = some l) (ha : acked.getLast? = some a)
    (hstate : state.isValid = true) :
    IsLatest (lost ++ acked) state ↔
      (a.1 ≤ l.1 ∧ state = l.2) ∨ (l.1 ≤ a.1 ∧ state = a.2) := by
  have hlmem := List.mem_append_left acked (getLast_mem hl)
  have hamem := List.mem_append_right lost (getLast_mem ha)
  have hne : lost ++ acked ≠ [] := List.ne_nil_of_mem hlmem
  have hinvalid : state.isValid = false ↔ lost ++ acked = [] := by
    rw [hstate]
    exact iff_of_false (by decide) hne
  constructor
  · intro h
    obtain ⟨p, hp, rfl, hmax⟩ := h.latest hne
    have hlp := hmax l hlmem
    have hap := hmax a hamem
    rcases List.mem_append.mp hp with hin | hin
    · obtain ⟨hle, huniq⟩ := hlost.le_last hl p hin
      have heq := huniq (Nat.le_antisymm hle hlp)
      subst heq
      exact .inl ⟨hap, rfl⟩
    · obtain ⟨hle, huniq⟩ := hacked.le_last ha p hin
      have heq := huniq (Nat.le_antisymm hle hap)
      subst heq
      exact .inr ⟨hlp, rfl⟩
  · intro h
    refine ⟨fun _ => ?_, hinvalid⟩
    rcases h with ⟨hle, rfl⟩ | ⟨hle, rfl⟩
    · refine ⟨l, hlmem, rfl, fun q hq => ?_⟩
      rcases List.mem_append.mp hq with hin | hin
      · exact (hlost.le_last hl q hin).1
      · exact (hacked.le_last ha q hin).1.trans hle
    · refine ⟨a, hamem, rfl, fun q hq => ?_⟩
      rcases List.mem_append.mp hq with hin | hin
      · exact (hlost.le_last hl q hin).1.trans hle
      · exact (hacked.le_last ha q hin).1

theorem isLatest_choice_iff {l a : Nat × SendTimeState} {lostBack ackedBack : Nat}
    (hlost : Ascending lost) (hacked : Ascending acked) (hl : lost.getLast? = some l)
    (ha : acked.getLast? = some a) (hlvalid : l.2.isValid = true) (havalid : a.2.isValid = true) :
    IsLatest (lost ++ acked) (if ackedBack < lostBack then l.2 else a.2) ↔
      ((ackedBack < lostBack → a.1 ≤ l.1) ∧ (lostBack ≤ ackedBack → l.1 ≤ a.1)) ∨ l.2 = a.2 := by
  by_cases hback : ackedBack < lostBack
  · rw [if_pos hback, isLatest_append_iff hlost hacked hl ha hlvalid]
    constructor
    · rintro (⟨hle, _⟩ | ⟨_, heq⟩)
      · exact .inl ⟨fun _ => hle, fun h => absurd h (Nat.not_le_of_lt hback)⟩
      · exact .inr heq
    · rintro (⟨hle, _⟩ | heq)
      · exact .inl ⟨hle hback, rfl⟩
      · rcases Nat.le_total a.1 l.1 with hal | hla
        · exact .inl ⟨hal, rfl⟩
        · exact .inr ⟨hla, heq⟩
  · rw [if_neg hback, isLatest_append_iff hlost hacked hl ha havalid]
    have hback' := Nat.le_of_not_lt hback
    constructor
    · rintro (⟨_, heq⟩ | ⟨hle, _⟩)
      · exact .inr heq.symm
      · exact .inl ⟨fun h => absurd h hback, fun _ => hle⟩
    · rintro (⟨_, hle⟩ | heq)
      · exact .inr ⟨hle hback', rfl⟩
      · rcases Nat.le_total l.1 a.1 with hla | hal
        · exact .inr ⟨hla, rfl⟩
        · exact .inl ⟨hal, heq.symm⟩

/-! ## What the event reports -/

/-- The last packet numbers of the two vectors compare as those of the last packets that
yielded a valid state, or the choice makes no difference. -/
def EndsAgree (s : BandwidthSampler) (ackTime : Int) (ackedPackets : List AckedPacket)
    (lostPackets : List LostPacket) : Prop :=
  ∀ l ∈ (lostStates lostPackets s).getLast?,
    ∀ a ∈ (ackedStates ackTime ackedPackets (s.afterLosses lostPackets)).getLast?,
      ∀ lostBack ∈ lostPackets.getLast?, ∀ ackedBack ∈ ackedPackets.getLast?,
        ((ackedBack.packetNumber < lostBack.packetNumber → a.1 ≤ l.1) ∧
          (lostBack.packetNumber ≤ ackedBack.packetNumber → l.1 ≤ a.1)) ∨ l.2 = a.2

section Choice

variable {lostPackets : List LostPacket} {ackedPackets : List AckedPacket}
  {lastLost lastAcked : SendTimeState}

theorem choose_of_lost_invalid (h : lastLost.isValid = false) :
    chooseLastPacketSendState lostPackets ackedPackets lastLost lastAcked = lastAcked := by
  simp [chooseLastPacketSendState, h]

theorem choose_of_acked_invalid (h : lastLost.isValid = true) (h' : lastAcked.isValid = false) :
    chooseLastPacketSendState lostPackets ackedPackets lastLost lastAcked = lastLost := by
  simp [chooseLastPacketSendState, h, h']

theorem choose_of_valid {lostBack : LostPacket} {ackedBack : AckedPacket}
    (h : lastLost.isValid = true) (h' : lastAcked.isValid = true)
    (hlost : lostPackets.getLast? = some lostBack)
    (hacked : ackedPackets.getLast? = some ackedBack) :
    chooseLastPacketSendState lostPackets ackedPackets lastLost lastAcked =
      if ackedBack.packetNumber < lostBack.packetNumber then lastLost else lastAcked := by
  simp [chooseLastPacketSendState, h, h', hlost, hacked]

end Choice

theorem exists_getLast? {α : Type*} {xs : List α} (h : xs ≠ []) : ∃ x, xs.getLast? = some x :=
  ⟨_, List.getLast?_eq_some_getLast h⟩

theorem lostPackets_ne_nil {packets : List LostPacket} {s : BandwidthSampler}
    (hp : (lostStates packets s).getLast? = some p) : packets ≠ [] := by
  rintro rfl
  cases hp

theorem ackedPackets_ne_nil {ackTime : Int} {packets : List AckedPacket} {s : BandwidthSampler}
    (hp : (ackedStates ackTime packets s).getLast? = some p) : packets ≠ [] := by
  rintro rfl
  cases hp

variable (s : BandwidthSampler) (ackTime : Int) (ackedPackets : List AckedPacket)
  (lostPackets : List LostPacket) (maxBandwidth estBandwidthUpperBound : QuicBandwidth)
  (roundTripCount : Nat)

theorem onCongestionEvent_lastPacketSendState :
    (s.onCongestionEvent ackTime ackedPackets lostPackets maxBandwidth estBandwidthUpperBound
        roundTripCount).2.lastPacketSendState =
      if ackedPackets.isEmpty then lastState (lostStates lostPackets s) {}
      else chooseLastPacketSendState lostPackets ackedPackets
        (lastState (lostStates lostPackets s) {})
        (lastState (ackedStates ackTime ackedPackets (s.afterLosses lostPackets)) {}) := by
  unfold onCongestionEvent
  dsimp only
  split
  · exact onPacketsLost_state lostPackets s {}
  · dsimp only
    rw [onPacketsLost_state, onPacketsAcknowledged_state]
    rfl

/-- The event reports the latest valid state exactly if the ends of the vectors agree with
the last valid packets on which is later. -/
theorem lastPacketSendState_isLatest_iff
    (hacked : (ackedPackets.map (·.packetNumber)).Pairwise (· < ·))
    (hlost : (lostPackets.map (·.packetNumber)).Pairwise (· < ·)) :
    IsLatest (s.eventStates ackTime ackedPackets lostPackets)
        (s.onCongestionEvent ackTime ackedPackets lostPackets maxBandwidth
          estBandwidthUpperBound roundTripCount).2.lastPacketSendState ↔
      s.EndsAgree ackTime ackedPackets lostPackets := by
  have hL : Ascending (lostStates lostPackets s) := hlost.sublist (lostStates_sublist _ _)
  have hA : Ascending (ackedStates ackTime ackedPackets (s.afterLosses lostPackets)) :=
    hacked.sublist (ackedStates_sublist _ _ _)
  have hLvalid := lostStates_valid lostPackets s
  have hAvalid := ackedStates_valid ackTime ackedPackets (s.afterLosses lostPackets)
  have hLlatest := isLatest_lastState hL hLvalid
  have hAlatest := isLatest_lastState hA hAvalid
  rw [onCongestionEvent_lastPacketSendState]
  unfold eventStates EndsAgree
  cases hl : (lostStates lostPackets s).getLast? with
  | none =>
      -- No lost packet counts: the last acked one is the latest.
      rw [List.getLast?_eq_none_iff.mp hl, List.nil_append]
      have hempty : lastState [] {} = {} := rfl
      rw [hempty, choose_of_lost_invalid rfl]
      refine iff_of_true ?_ (by nofun)
      cases ackedPackets with
      | nil => exact hAlatest
      | cons packet packets => exact hAlatest
  | some l =>
      have hlvalid := hLvalid l (getLast_mem hl)
      cases ha : (ackedStates ackTime ackedPackets (s.afterLosses lostPackets)).getLast? with
      | none =>
          have hempty : lastState [] {} = {} := rfl
          rw [List.getLast?_eq_none_iff.mp ha, List.append_nil, hempty,
            choose_of_acked_invalid (by rw [lastState_of_some hl]; exact hlvalid) rfl, ite_self]
          exact iff_of_true hLlatest (by nofun)
      | some a =>
          have havalid := hAvalid a (getLast_mem ha)
          obtain ⟨lostBack, hlostBack⟩ := exists_getLast? (lostPackets_ne_nil hl)
          have hne := ackedPackets_ne_nil ha
          obtain ⟨ackedBack, hackedBack⟩ := exists_getLast? hne
          rw [if_neg (by rw [List.isEmpty_iff]; exact hne), lastState_of_some hl,
            lastState_of_some ha, choose_of_valid hlvalid havalid hlostBack hackedBack,
            hlostBack, hackedBack]
          simp only [Option.mem_some_iff, forall_eq']
          exact isLatest_choice_iff hL hA hl ha hlvalid havalid

theorem endsAgree_of_valid_ends {s : BandwidthSampler} {ackTime : Int}
    {ackedPackets : List AckedPacket} {lostPackets : List LostPacket}
    (hlost : (lostStates lostPackets s).getLast?.map Prod.fst =
      lostPackets.getLast?.map (·.packetNumber))
    (hacked : (ackedStates ackTime ackedPackets (s.afterLosses lostPackets)).getLast?.map Prod.fst =
      ackedPackets.getLast?.map (·.packetNumber)) :
    s.EndsAgree ackTime ackedPackets lostPackets := by
  intro l hl a ha lostBack hlostBack ackedBack hackedBack
  rw [hl, hlostBack] at hlost
  rw [ha, hackedBack] at hacked
  have hlnum : l.1 = lostBack.packetNumber := Option.some.inj hlost
  have hanum : a.1 = ackedBack.packetNumber := Option.some.inj hacked
  left
  omega

/-! ## A vector that ends with an unknown packet -/

def threePacketsSent : BandwidthSampler :=
  (((create 4).onPacketSent 1000 1 1460 0).onPacketSent 1100 2 1460 1460).onPacketSent
    1200 3 1460 2920

/-- Packet 2 is lost, packet 1 is acked together with a packet 4 that was never sent. -/
theorem lastPacketSendState_not_latest :
    [1, 4].Pairwise (· < ·) ∧
      ¬ IsLatest (threePacketsSent.eventStates 51000 [⟨1, 1460, 51000⟩, ⟨4, 1460, 51000⟩]
          [⟨2, 1460⟩])
        (threePacketsSent.onCongestionEvent 51000 [⟨1, 1460, 51000⟩, ⟨4, 1460, 51000⟩]
          [⟨2, 1460⟩] .zero .infinite 1).2.lastPacketSendState := by
  refine ⟨by decide, fun h => ?_⟩
  have hstates : ((threePacketsSent.eventStates 51000 [⟨1, 1460, 51000⟩, ⟨4, 1460, 51000⟩]
      [⟨2, 1460⟩]).map fun p => (p.1, p.2.totalBytesSent)) = [(2, 2920), (1, 1460)] := by
    decide +kernel
  have hreported : (threePacketsSent.onCongestionEvent 51000
      [⟨1, 1460, 51000⟩, ⟨4, 1460, 51000⟩] [⟨2, 1460⟩] .zero .infinite
      1).2.lastPacketSendState.totalBytesSent = 1460 := by
    decide +kernel
  generalize threePacketsSent.eventStates 51000 [⟨1, 1460, 51000⟩, ⟨4, 1460, 51000⟩]
    [⟨2, 1460⟩] = states at *
  obtain ⟨p, hp, hstate, hmax⟩ := h.latest (by rintro rfl; cases hstates)
  have hmem := List.mem_map_of_mem (f := fun p => (p.1, p.2.totalBytesSent)) hp
  have htwo : (2, 2920) ∈ states.map fun p => (p.1, p.2.totalBytesSent) := by
    rw [hstates]
    exact List.mem_cons_self
  obtain ⟨q, hq, hqeq⟩ := List.mem_map.mp htwo
  have hle := hmax q hq
  rw [hstates, hstate, hreported] at hmem
  simp only [List.mem_cons, Prod.mk.injEq, List.not_mem_nil, or_false] at hmem
  have hqnum : q.1 = 2 := congrArg Prod.fst hqeq
  omega

/-- The loss of packets 1 and 2 is reported together with the ack of packet 3. -/
theorem lastPacketSendState_isLatest_of_known :
    IsLatest (threePacketsSent.eventStates 51000 [⟨3, 1460, 51000⟩] [⟨1, 1460⟩, ⟨2, 1460⟩])
      (threePacketsSent.onCongestionEvent 51000 [⟨3, 1460, 51000⟩] [⟨1, 1460⟩, ⟨2, 1460⟩]
        .zero .infinite 1).2.lastPacketSendState :=
  (lastPacketSendState_isLatest_iff threePacketsSent 51000 _ _ .zero .infinite 1
    (by decide) (by decide)).mpr
    (endsAgree_of_valid_ends (by decide +kernel) (by decide +kernel))

end BbrChrome.BandwidthSampler
