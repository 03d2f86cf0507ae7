import BbrChrome.Congestion.SamplerRun

/-!
# The app-limited phase

`OnAppLimited` opens a phase that ends with the first ack of a tracked packet sent after
it. The flag that a packet is sent with says whether such an ack was processed between
the last `OnAppLimited` and the send.
-/

namespace BbrChrome

/-- An ack of packet `k` ends the phase entered when `last` was the last packet sent. -/
def EndsPhase (last : QuicPacketNumber) (k : Nat) : Prop :=
  ∀ n, last = .number n → n < k

instance (last : QuicPacketNumber) (k : Nat) : Decidable (EndsPhase last k) :=
  match last with
  | .uninitialized => .isTrue (by simp [EndsPhase])
  | .number n => decidable_of_iff (n < k) (by simp [EndsPhase])

/-- The last packet number handed to `OnPacketSent`, `last` before any call. -/
def lastSentAfter (last : QuicPacketNumber) : List SamplerCall → QuicPacketNumber
  | [] => last
  | .packetSent _ packetNumber _ _ :: calls => lastSentAfter (.number packetNumber) calls
  | _ :: calls => lastSentAfter last calls

namespace BandwidthSampler

def trackedAcks (s : BandwidthSampler) : SamplerCall → List Nat
  | .congestionEvent _ ackedPackets _ _ _ _ =>
      (ackedPackets.map (·.packetNumber)).filter fun n =>
        (s.connectionStateMap.getEntry (.number n)).isSome
  | _ => []

def trackedAcksAlong (s : BandwidthSampler) : List SamplerCall → List Nat
  | [] => []
  | c :: calls => s.trackedAcks c ++ (s.call c).trackedAcksAlong calls

variable {s : BandwidthSampler}

/-! ## Single operations -/

/-- The phase of `s'` is that of `s` after acks of the tracked packets `acks`. -/
structure PhaseAfter (s : BandwidthSampler) (acks : List Nat) (s' : BandwidthSampler) : Prop where
  endOfAppLimitedPhase : s'.endOfAppLimitedPhase = s.endOfAppLimitedPhase
  isAppLimited : s'.isAppLimited = true ↔
    s.isAppLimited = true ∧ ∀ k ∈ acks, ¬ EndsPhase s.endOfAppLimitedPhase k

variable {s' s'' : BandwidthSampler} {acks acks' : List Nat}

theorem PhaseAfter.same (hend : s'.endOfAppLimitedPhase = s.endOfAppLimitedPhase)
    (hflag : s'.isAppLimited = s.isAppLimited) : PhaseAfter s [] s' :=
  ⟨hend, by simp [hflag]⟩

theorem PhaseAfter.trans (h : PhaseAfter s acks s') (h' : PhaseAfter s' acks' s'') :
    PhaseAfter s (acks ++ acks') s'' := by
  refine ⟨h'.endOfAppLimitedPhase.trans h.endOfAppLimitedPhase, ?_⟩
  rw [h'.isAppLimited, h.isAppLimited, h.endOfAppLimitedPhase, List.forall_mem_append, and_assoc]

theorem onPacketSent_phase (sentTime : Int) (packetNumber bytes bytesInFlight : Nat) :
    PhaseAfter s [] (s.onPacketSent sentTime packetNumber bytes bytesInFlight) := by
  by_cases hzero : bytesInFlight = 0
  · simp only [onPacketSent, hzero, if_true]
    exact .same rfl rfl
  · simp only [onPacketSent, hzero, if_false]
    exact .same rfl rfl

theorem onAckEventEnd_phase (bandwidthEstimate : QuicBandwidth) (roundTripCount : Nat) :
    PhaseAfter s [] (s.onAckEventEnd bandwidthEstimate roundTripCount).1 := by
  unfold onAckEventEnd
  dsimp only
  split
  · exact .same rfl rfl
  · exact .same rfl rfl

/-- `!end_of_app_limited_phase_.IsInitialized() || packet_number > end_of_app_limited_phase_`. -/
theorem endsPhase_iff (last : QuicPacketNumber) (k : Nat) :
    (last.isInitialized && !last.below k) = true ↔ ¬ EndsPhase last k := by
  cases last with
  | uninitialized => simp [QuicPacketNumber.isInitialized, EndsPhase]
  | number n => simp [QuicPacketNumber.isInitialized, QuicPacketNumber.below, EndsPhase]

theorem recordAck_phase (ackTime : Int) (n : Nat) (e : ConnectionStateOnSentPacket) :
    PhaseAfter s [n] (s.recordAck ackTime n e) := by
  refine ⟨rfl, ?_⟩
  simp only [recordAck, Bool.and_assoc]
  rw [Bool.and_eq_true, endsPhase_iff, List.forall_mem_singleton]

theorem onPacketAcknowledged_phase (ackTime : Int) (n : Nat) :
    PhaseAfter s ([n].filter fun n => (s.connectionStateMap.getEntry (.number n)).isSome)
      (s.onPacketAcknowledged ackTime n).1 := by
  unfold onPacketAcknowledged
  cases he : s.connectionStateMap.getEntry (.number n) with
  | none =>
      simp only [List.filter_cons, he, Option.isSome_none, Bool.false_eq_true, if_false,
        List.filter_nil]
      exact .same rfl rfl
  | some e =>
      obtain ⟨candidates, _, heq⟩ := s.onPacketAcknowledgedInner_fst ackTime n e
      have hrecord := s.recordAck_phase ackTime n e
      simp only [List.filter_cons, he, Option.isSome_some, if_true, List.filter_nil, heq]
      exact ⟨hrecord.endOfAppLimitedPhase, hrecord.isAppLimited⟩

theorem onPacketsAcknowledged_phase (ackTime : Int) (ackedPackets : List AckedPacket)
    (event : CongestionEventSample) (lastState : SendTimeState) :
    PhaseAfter s
      ((ackedPackets.map (·.packetNumber)).filter fun n =>
        (s.connectionStateMap.getEntry (.number n)).isSome)
      (onPacketsAcknowledged ackTime ackedPackets s event lastState).1 := by
  induction ackedPackets generalizing s event lastState with
  | nil => exact .same rfl rfl
  | cons p ackedPackets ih =>
      have hmap : (s.onPacketAcknowledged ackTime p.packetNumber).1.connectionStateMap =
          s.connectionStateMap :=
        congrArg SamplerAccounts.connectionStateMap
          (s.accounts_onPacketAcknowledged ackTime p.packetNumber)
      have hfirst := s.onPacketAcknowledged_phase ackTime p.packetNumber
      have hrest := ih (s := (s.onPacketAcknowledged ackTime p.packetNumber).1)
      simp only [hmap] at hrest
      unfold onPacketsAcknowledged
      dsimp only
      rw [List.map_cons, ← List.singleton_append, List.filter_append]
      split
      · exact hfirst.trans (hrest _ _)
      · exact hfirst.trans (hrest _ _)

theorem onCongestionEvent_phase (ackTime : Int) (ackedPackets : List AckedPacket)
    (lostPackets : List LostPacket) (maxBandwidth estBandwidthUpperBound : QuicBandwidth)
    (roundTripCount : Nat) :
    PhaseAfter s
      ((ackedPackets.map (·.packetNumber)).filter fun n =>
        (s.connectionStateMap.getEntry (.number n)).isSome)
      (s.onCongestionEvent ackTime ackedPackets lostPackets maxBandwidth estBandwidthUpperBound
        roundTripCount).1 := by
  have hlost : PhaseAfter s [] (onPacketsLost lostPackets s {}).1 := by
    rw [onPacketsLost_fst]
    exact .same rfl rfl
  unfold onCongestionEvent
  dsimp only
  split
  · rename_i hempty
    rw [List.isEmpty_iff.mp hempty]
    exact hlost
  · have hloop := onPacketsAcknowledged_phase (s := (onPacketsLost lostPackets s {}).1) ackTime
      ackedPackets {} {}
    have hmap : (onPacketsLost lostPackets s {}).1.connectionStateMap = s.connectionStateMap := by
      rw [onPacketsLost_fst]
    rw [hmap] at hloop
    have hevent := (hlost.trans hloop).trans (onAckEventEnd_phase
      (min estBandwidthUpperBound (max maxBandwidth (onPacketsAcknowledged ackTime ackedPackets
        (onPacketsLost lostPackets s {}).1 {} {}).2.1.sampleMaxBandwidth)) roundTripCount)
    rwa [List.nil_append, List.append_nil] at hevent

/-! ## Runs -/

theorem call_phase {c : SamplerCall} (hc : c ≠ .appLimited) :
    PhaseAfter s (s.trackedAcks c) (s.call c) := by
  cases c with
  | packetSent sentTime packetNumber bytes bytesInFlight => exact onPacketSent_phase _ _ _ _
  | congestionEvent => exact onCongestionEvent_phase _ _ _ _ _ _
  | appLimited => exact absurd rfl hc
  | removeObsoletePackets leastUnacked => exact .same rfl rfl
  | enableOverestimateAvoidance => exact .same rfl rfl

/-- Until the next `OnAppLimited` the phase depends on the acks processed alone. -/
theorem run_phase {calls : List SamplerCall} (hcalls : .appLimited ∉ calls) :
    PhaseAfter s (s.trackedAcksAlong calls) (s.run calls) := by
  induction calls generalizing s with
  | nil => exact .same rfl rfl
  | cons c calls ih =>
      rw [List.mem_cons, not_or] at hcalls
      exact (call_phase (Ne.symm hcalls.1)).trans (ih hcalls.2)

theorem onCongestionEvent_lastSentPacket (ackTime : Int) (ackedPackets : List AckedPacket)
    (lostPackets : List LostPacket) (maxBandwidth estBandwidthUpperBound : QuicBandwidth)
    (roundTripCount : Nat) :
    (s.onCongestionEvent ackTime ackedPackets lostPackets maxBandwidth estBandwidthUpperBound
      roundTripCount).1.lastSentPacket = s.lastSentPacket := by
  refine @onCongestionEvent_invariant s (fun s' => s'.lastSentPacket = s.lastSentPacket) ackTime
    ?_ ?_ ?_ rfl _ _ _ _ _
  · intro s' total h
    exact h
  · intro s' n h
    unfold onPacketAcknowledged
    split
    · exact h
    · obtain ⟨candidates, _, heq⟩ := s'.onPacketAcknowledgedInner_fst ackTime n _
      rw [heq]
      exact h
  · intro s' bandwidthEstimate roundTripCount h
    unfold onAckEventEnd
    dsimp only
    split
    · exact h
    · exact h

theorem run_lastSentPacket (calls : List SamplerCall) :
    (s.run calls).lastSentPacket = lastSentAfter s.lastSentPacket calls := by
  induction calls generalizing s with
  | nil => rfl
  | cons c calls ih =>
      rw [run_cons, ih]
      cases c with
      | packetSent sentTime packetNumber bytes bytesInFlight =>
          have hlast : (s.onPacketSent sentTime packetNumber bytes bytesInFlight).lastSentPacket =
              .number packetNumber := by
            unfold onPacketSent
            dsimp only
            split <;> rfl
          exact congrArg (lastSentAfter · calls) hlast
      | congestionEvent =>
          exact congrArg (lastSentAfter · calls) (onCongestionEvent_lastSentPacket _ _ _ _ _ _)
      | appLimited => rfl
      | removeObsoletePackets leastUnacked => rfl
      | enableOverestimateAvoidance => rfl

def QueueWellFormed (s : BandwidthSampler) : Prop := s.connectionStateMap.WellFormed

theorem call_queueWellFormed (s : BandwidthSampler) (c : SamplerCall) (h : s.QueueWellFormed) :
    (s.call c).QueueWellFormed := by
  cases c with
  | packetSent sentTime packetNumber bytes bytesInFlight =>
      obtain ⟨e, hmap, _⟩ :=
        s.onPacketSent_connectionStateMap sentTime packetNumber bytes bytesInFlight
      change (s.onPacketSent _ _ _ _).connectionStateMap.WellFormed
      rw [hmap]
      exact h.emplace
  | congestionEvent ackTime ackedPackets lostPackets maxBandwidth estBandwidthUpperBound
      roundTripCount =>
      have hmap := congrArg SamplerAccounts.connectionStateMap
        (s.accounts_onCongestionEvent ackTime ackedPackets lostPackets maxBandwidth
          estBandwidthUpperBound roundTripCount)
      change (s.onCongestionEvent _ _ _ _ _ _).1.connectionStateMap = s.connectionStateMap at hmap
      change (s.onCongestionEvent _ _ _ _ _ _).1.connectionStateMap.WellFormed
      rw [hmap]
      exact h
  | appLimited => exact h
  | removeObsoletePackets leastUnacked => exact h.removeUpTo leastUnacked
  | enableOverestimateAvoidance => exact h

/-- After `OnAppLimited` a packet is recorded as app-limited exactly if no ack that ends the
phase was processed since, whatever happened before. -/
theorem app_limited_phase (window : Nat) (pre mid : List SamplerCall) (hmid : .appLimited ∉ mid)
    (sentTime : Int) (packetNumber bytes bytesInFlight : Nat) :
    let limited := (create window).run (pre ++ [.appLimited])
    let s := limited.run mid
    let sent := s.onPacketSent sentTime packetNumber bytes bytesInFlight
    ∃ e, sent.connectionStateMap = (s.connectionStateMap.emplace (.number packetNumber) e).1 ∧
      ((s.connectionStateMap.emplace (.number packetNumber) e).2 = true →
        sent.connectionStateMap.getEntry (.number packetNumber) = some e) ∧
      (e.sendTimeState.isAppLimited = true ↔
        ∀ k ∈ limited.trackedAcksAlong mid, ¬ EndsPhase (lastSentAfter .uninitialized pre) k) := by
  intro limited s sent
  have hlimited : limited = ((create window).run pre).onAppLimited := run_append _ _ _
  have hend : limited.endOfAppLimitedPhase = lastSentAfter .uninitialized pre := by
    rw [hlimited]
    exact run_lastSentPacket pre
  have hflag : limited.isAppLimited = true := by
    rw [hlimited]
    rfl
  have hstart : (create window).QueueWellFormed := PacketNumberIndexedQueue.wellFormed_empty
  have hqueue : s.QueueWellFormed :=
    run_invariant call_queueWellFormed
      (run_invariant call_queueWellFormed hstart (pre ++ [.appLimited])) mid
  have hphase : PhaseAfter limited (limited.trackedAcksAlong mid) s := run_phase hmid
  obtain ⟨e, hmap, _, hrecorded⟩ :=
    s.onPacketSent_connectionStateMap sentTime packetNumber bytes bytesInFlight
  refine ⟨e, hmap, fun haccepted => ?_, ?_⟩
  · show sent.connectionStateMap.getEntry _ = _
    rw [show sent.connectionStateMap = _ from hmap]
    exact hqueue.getEntry_emplace haccepted
  · rw [hrecorded, hphase.isAppLimited, hend]
    exact and_iff_right hflag

def phaseLeft : List SamplerCall :=
  [.packetSent 1000 1 1400 0, .packetSent 1010 2 1400 1400, .appLimited,
    .packetSent 1020 3 1400 2800,
    .congestionEvent 31000 [⟨3, 1400, 31000⟩] [] .zero .infinite 1]

/-- The phase entered again outlives late acks of packets 1 and 3, and an ack of a packet
that is not tracked. -/
theorem phase_entered_again :
    let s := ((create 10).run (phaseLeft ++ [.appLimited])).run
      [.congestionEvent 32000 [⟨1, 1400, 32000⟩, ⟨3, 1400, 32000⟩, ⟨9, 1400, 32000⟩] []
        .zero .infinite 1]
    ∃ e, (s.onPacketSent 33000 4 1400 1400).connectionStateMap =
        (s.connectionStateMap.emplace (.number 4) e).1 ∧
      e.sendTimeState.isAppLimited = true := by
  obtain ⟨e, hmap, _, hflag⟩ := app_limited_phase 10 phaseLeft
    [.congestionEvent 32000 [⟨1, 1400, 32000⟩, ⟨3, 1400, 32000⟩, ⟨9, 1400, 32000⟩] []
      .zero .infinite 1] (by decide) 33000 4 1400 1400
  exact ⟨e, hmap, hflag.mpr (by decide +kernel)⟩

end BandwidthSampler

end BbrChrome
