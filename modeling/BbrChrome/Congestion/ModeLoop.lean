import BbrChrome.Congestion.Bbr2Run

/-!
# The loop over the modes ends at a fixed point

The loop of `OnCongestionEvent` with a record of the handlers it calls and of the way it ends.
In a reachable state the handlers are some of those that lie ahead of the current mode, each of
them once.
-/

namespace BbrChrome

/-- How the loop over the modes ends: a handler asks for its own mode, or the changes that are
allowed are used up. -/
inductive LoopEnd
  | fixedPoint
  | escape
deriving DecidableEq, Repr

/-- What the loop did: the modes whose handlers were called, in order, and the changes made. -/
structure ModeLoop where
  sender : Bbr2Sender
  handled : List Bbr2Mode
  changes : Nat
  ending : LoopEnd

namespace Bbr2Sender

def recordModes (priorInFlight : Nat) (eventTime : Int) (event : Bbr2CongestionEvent) :
    Nat → Bbr2Sender → ModeLoop
  | 0, s => ⟨s, [], 0, .escape⟩
  | changes + 1, s =>
      let (s', nextMode) := s.modeOnCongestionEvent priorInFlight eventTime event
      if nextMode = s'.mode then ⟨s', [s.mode], 0, .fixedPoint⟩
      else
        let rest :=
          recordModes priorInFlight eventTime event changes (s'.changeMode nextMode eventTime)
        { rest with handled := s.mode :: rest.handled, changes := rest.changes + 1 }

/-- The loop over the modes in a call of `OnCongestionEvent`. -/
def modeLoop (s : Bbr2Sender) (priorInFlight : Nat) (eventTime : Int)
    (ackedPackets : List AckedPacket) (lostPackets : List LostPacket) : ModeLoop :=
  recordModes priorInFlight eventTime
    (s.congestionEvent priorInFlight eventTime ackedPackets lostPackets)
    (kMaxModeChangesPerCongestionEvent + 1)
    (s.sampled priorInFlight eventTime ackedPackets lostPackets)

variable {s : Bbr2Sender} {event : Bbr2CongestionEvent}

theorem recordModes_sender (priorInFlight : Nat) (eventTime : Int) (changes : Nat) :
    (recordModes priorInFlight eventTime event changes s).sender =
      runModes priorInFlight eventTime event changes s := by
  induction changes generalizing s with
  | zero => rfl
  | succ changes ih =>
      unfold recordModes runModes
      dsimp only
      split
      · rfl
      · exact ih

theorem onCongestionEvent_eq_modeLoop (leastUnacked priorInFlight : Nat) (eventTime : Int)
    (ackedPackets : List AckedPacket) (lostPackets : List LostPacket) :
    s.onCongestionEvent leastUnacked priorInFlight eventTime ackedPackets lostPackets =
      (s.modeLoop priorInFlight eventTime ackedPackets lostPackets).sender.finishCongestionEvent
        leastUnacked (s.congestionEvent priorInFlight eventTime ackedPackets lostPackets) := by
  unfold modeLoop
  rw [onCongestionEvent_eq, recordModes_sender]

end Bbr2Sender

/-! ## The modes ahead -/

namespace Control

/-- The modes whose handlers one event can still reach, the current one first. -/
def ahead (c : Control) : List Bbr2Mode :=
  match c.mode with
  | .startup => [.startup, .drain, .probeBw, .probeRtt]
  | .drain => [.drain, .probeBw, .probeRtt]
  | .probeBw => if c.phase = .probeDown then [.probeBw, .probeRtt] else [.probeBw]
  | .probeRtt => if c.exitTime = 0 then [.probeRtt] else [.probeRtt, .probeBw]

variable {event : Bbr2CongestionEvent} {now : Int} {c c₁ c' : Control} {nextMode : Bbr2Mode}
  {calls calls' : List ModeCall}

theorem ahead_nodup (c : Control) : c.ahead.Nodup := by
  unfold ahead
  split
  · decide
  · decide
  · split <;> decide
  · split <;> decide

theorem ahead_length_le (c : Control) : c.ahead.length ≤ 4 := by
  unfold ahead
  split
  · decide
  · decide
  · split <;> decide
  · split <;> decide

theorem mode_sublist_ahead (c : Control) : [c.mode].Sublist c.ahead := by
  unfold ahead
  split
  · next hmode => simp [hmode]
  · next hmode => simp [hmode]
  · next hmode => split <;> simp [hmode]
  · next hmode => split <;> simp [hmode]

/-- From PROBE_BW at most PROBE_RTT lies ahead. -/
theorem ahead_sublist_of_probeBw (hmode : c.mode = .probeBw) :
    c.ahead.Sublist [.probeBw, .probeRtt] := by
  unfold ahead
  rw [hmode]
  dsimp only
  split
  · exact List.Sublist.refl _
  · decide

/-- PROBE_RTT leaves the cycle behind PROBE_DOWN, where no event can lead back. -/
theorem Placed.ahead_of_probeRttOver (h : c.Placed) (hmode : c.mode = .probeRtt)
    (hchange : ModeChange now c .probeBw calls c') : c'.ahead = [.probeBw] := by
  have hphase := h.probeRtt hmode
  have hkept : c'.phase = c.phase := by
    cases hchange with
    | firstCycle hfirst => simp [hfirst] at hphase
    | cruise hcruise => exact hcruise.symm
    | refill hrefill => exact hrefill.symm
    | otherPhase => rfl
  have hnot : c'.phase ≠ .probeDown := by
    rw [hkept]
    rcases hphase with hphase | hphase
    · simp [hphase]
    · simp [hphase]
  unfold ahead
  rw [hchange.mode_eq]
  exact if_neg hnot

theorem Placed.cons_ahead_sublist (h : c.Placed) (hmove : ModeMove event c calls c₁ nextMode)
    (hne : nextMode ≠ c.mode) (hchange : ModeChange now c₁ nextMode calls' c') :
    (c.mode :: c'.ahead).Sublist c.ahead := by
  cases hmove.leaving hne with
  | startupFull hmode =>
      cases hchange
      simp [ahead, hmode, switch]
  | drained hmode =>
      have hrest := ahead_sublist_of_probeBw hchange.mode_eq
      have hahead : c.ahead = [.drain, .probeBw, .probeRtt] := by simp [ahead, hmode]
      rw [hahead, hmode]
      exact hrest.cons_cons _
  | minRttExpired hmode hcycle hbefore hafter =>
      cases hchange
      simp [ahead, hmode, hbefore, switch, setGains]
  | probeRttOver hmode hset =>
      have hahead : c.ahead = [.probeRtt, .probeBw] := by simp [ahead, hmode, hset]
      rw [h.ahead_of_probeRttOver hmode hchange, hahead, hmode]

end Control

/-! ## The record of a loop -/

namespace Bbr2Sender

variable {s : Bbr2Sender} {event : Bbr2CongestionEvent}

/-- With the changes that lie ahead allowed, the loop ends at a fixed point. -/
theorem recordModes_spec (hdefault : s.HasDefaults) (hplaced : s.control.Placed)
    (priorInFlight : Nat) {changes : Nat} (hchanges : s.control.ahead.length ≤ changes) :
    let loop := recordModes priorInFlight event.eventTime event changes s
    loop.handled.Sublist s.control.ahead ∧ loop.changes + 1 = loop.handled.length ∧
      loop.ending = .fixedPoint := by
  induction changes generalizing s with
  | zero =>
      have hmode := s.control.mode_sublist_ahead.length_le
      simp only [List.length_singleton] at hmode
      omega
  | succ changes ih =>
      unfold recordModes
      obtain ⟨⟨t, nextMode⟩, hturned⟩ :
        ∃ r, s.modeOnCongestionEvent priorInFlight event.eventTime event = r := ⟨_, rfl⟩
      have hturn := modeOnCongestionEvent_turn hdefault hturned
      rw [hturned]
      dsimp only
      split
      · exact ⟨s.control.mode_sublist_ahead, rfl, rfl⟩
      · rename_i hne
        rw [hturn.mode_eq] at hne
        have hsub := hplaced.cons_ahead_sublist hturn.move hne hturn.change
        have hless := hsub.length_le
        rw [List.length_cons] at hless
        obtain ⟨hhandled, hcount, hend⟩ :=
          ih hturn.params (hplaced.changed hturn.move hne hturn.change) (by omega)
        refine ⟨(hhandled.cons_cons _).trans hsub, ?_, hend⟩
        simp only [List.length_cons]
        omega

/-- In every reachable state every congestion event changes the mode at most three times, calls
no handler twice and stops at a handler that asks for its own mode. -/
theorem modeLoop_reaches_fixedPoint (now : Int) (rttStats : RttStats) (initialCwnd maxCwnd : Nat)
    (stream : Nat → Nat) (calls : List Bbr2Call) (leastUnacked priorInFlight : Nat)
    (eventTime : Int) (ackedPackets : List AckedPacket) (lostPackets : List LostPacket) :
    let s := (create now rttStats initialCwnd maxCwnd stream).run calls
    let loop := s.modeLoop priorInFlight eventTime ackedPackets lostPackets
    s.onCongestionEvent leastUnacked priorInFlight eventTime ackedPackets lostPackets =
        loop.sender.finishCongestionEvent leastUnacked
          (s.congestionEvent priorInFlight eventTime ackedPackets lostPackets) ∧
      loop.changes ≤ 3 ∧ loop.handled.Nodup ∧ loop.ending = .fixedPoint := by
  intro s loop
  obtain ⟨hdefault, hplaced⟩ := run_control
    (fun _ _ _ _ _ _ h hmove => h.sendMove hmove) (fun _ _ _ _ _ h hmove => h.eventMove hmove)
    (create_hasDefaults now rttStats initialCwnd maxCwnd stream)
    (create_placed now rttStats initialCwnd maxCwnd stream) calls
  have hsampling := s.sampled_move hdefault.bwLoMode priorInFlight eventTime ackedPackets
    lostPackets
  have hparams := hdefault.sampled priorInFlight eventTime ackedPackets lostPackets
  have hsampled := hplaced.of_same hsampling.mode_eq hsampling.phase_eq
  have hfuel : (s.sampled priorInFlight eventTime ackedPackets lostPackets).control.ahead.length ≤
      kMaxModeChangesPerCongestionEvent + 1 :=
    (Control.ahead_length_le _).trans (by decide)
  obtain ⟨hsub, hcount, hend⟩ :=
    @recordModes_spec _ (s.congestionEvent priorInFlight eventTime ackedPackets lostPackets)
      hparams hsampled priorInFlight _ hfuel
  have hlength := hsub.length_le.trans (Control.ahead_length_le _)
  refine ⟨onCongestionEvent_eq_modeLoop leastUnacked priorInFlight eventTime ackedPackets
    lostPackets, ?_, hsub.nodup (Control.ahead_nodup _), hend⟩
  have hloop : loop.changes + 1 = loop.handled.length := hcount
  have hfour : loop.handled.length ≤ 4 := hlength
  omega

end Bbr2Sender

end BbrChrome
