import BbrChrome.Congestion.BbrAckClock
import BbrChrome.Congestion.BbrModeLaws

/-!
# Visits of BBRv1 to PROBE_RTT

A visit lasts `kProbeRttTime` and a round from the event that finds the flight small, with the
congestion window put aside. No other visit begins within `kMinRttExpiry` of its two ends.
-/

namespace BbrChrome

namespace BbrControl

variable {m m' : BbrControl} {now minRtt : Int} {target : Rat → Nat}
  {bytesInFlight priorInFlight : Nat} {expired small isRoundStart hasLosses : Bool}

/-- What only the last move of an event writes. -/
def visit (m : BbrControl) : Bool × Int × Bool :=
  (m.mode == .probeRtt, m.exitProbeRttAt, m.probeRttRoundPassed)

theorem mode_of_visit (h : m'.visit = m.visit) : m'.mode = .probeRtt ↔ m.mode = .probeRtt := by
  have hmode : (m'.mode == .probeRtt) = (m.mode == .probeRtt) := congrArg Prod.fst h
  rw [← beq_iff_eq, hmode, beq_iff_eq]

theorem SampleMove.visit (h : m.SampleMove now expired m') : m'.visit = m.visit := by
  cases h <;> rfl

theorem CycleMove.visit
    (h : m.CycleMove now minRtt target bytesInFlight priorInFlight hasLosses m') :
    m'.visit = m.visit ∧ m'.minRttTimestamp = m.minRttTimestamp := by
  cases h <;> exact ⟨rfl, rfl⟩

theorem FlagMove.visit (h : m.FlagMove isRoundStart m') :
    m'.visit = m.visit ∧ m'.minRttTimestamp = m.minRttTimestamp := by
  cases h <;> exact ⟨rfl, rfl⟩

theorem ExitMove.visit (h : m.ExitMove now m') :
    m'.visit = m.visit ∧ m'.minRttTimestamp = m.minRttTimestamp := by
  cases h with
  | keep => exact ⟨rfl, rfl⟩
  | drain hmode => exact ⟨by rw [BbrControl.visit, BbrControl.visit, hmode]; rfl, rfl⟩
  | cycle hready =>
      refine ⟨?_, rfl⟩
      rcases hready with hmode | ⟨hmode, _⟩
      · rw [BbrControl.visit, BbrControl.visit, hmode]
        rfl
      · rw [BbrControl.visit, BbrControl.visit, hmode]
        rfl

theorem SampleMove.minRttTimestamp (h : m.SampleMove now expired m') :
    (m'.minRttTimestamp = m.minRttTimestamp ∨ m'.minRttTimestamp = now) ∧
      (expired = true → m.minRttTimestamp + kMinRttExpiry < now ∧ m'.minRttTimestamp = now) := by
  cases h with
  | keep => exact ⟨.inl rfl, fun hexpired => nomatch hexpired⟩
  | take _ hdue => exact ⟨.inr rfl, fun hexpired => ⟨(hdue hexpired).2, rfl⟩⟩

theorem awaitFlight_frame (m : BbrControl) (now : Int) (small : Bool) :
    (m.awaitFlight now small).mode = m.mode ∧
      (m.awaitFlight now small).minRttTimestamp = m.minRttTimestamp := by
  unfold awaitFlight
  split <;> exact ⟨rfl, rfl⟩

theorem ProbeRttMove.renews (h : m.ProbeRttMove now expired small isRoundStart m') :
    m'.minRttTimestamp = m.minRttTimestamp ∨
      m.mode = .probeRtt ∧ m'.mode ≠ .probeRtt ∧ m'.minRttTimestamp = now := by
  cases h with
  | outside => exact .inl rfl
  | enter => exact .inl (awaitFlight_frame _ _ _).2
  | wait => exact .inl (awaitFlight_frame _ _ _).2
  | stay => exact .inl rfl
  | resume hmode => exact .inr ⟨hmode, (nomatch ·), rfl⟩
  | restart hmode => exact .inr ⟨hmode, (nomatch ·), rfl⟩

theorem ProbeRttMove.minRttTimestamp (h : m.ProbeRttMove now expired small isRoundStart m') :
    m'.minRttTimestamp = m.minRttTimestamp ∨ m'.minRttTimestamp = now :=
  h.renews.imp_right fun hrenewed => hrenewed.2.2

theorem awaitFlight_timer (now : Int) (small : Bool) (hunset : m.exitProbeRttAt = 0)
    (hset : (m.awaitFlight now small).exitProbeRttAt ≠ 0) :
    small = true ∧ (m.awaitFlight now small).exitProbeRttAt = now + kProbeRttTime ∧
      (m.awaitFlight now small).probeRttRoundPassed = false := by
  unfold awaitFlight at hset ⊢
  cases small with
  | true => exact ⟨rfl, rfl, rfl⟩
  | false => exact absurd hunset hset

end BbrControl

namespace BbrSender

variable {s s' : BbrSender} {c : BbrCall} {history : List BbrSender.Entry}

/-! ## What a call does about PROBE_RTT -/

namespace Entry

/-- An event at `found` that PROBE_RTT takes for the end of the queue. -/
def FindsSmallFlight (found : Int) (e : Entry) : Prop :=
  match e.2 with
  | .packetSent .. => False
  | .congestionEvent _ map _ eventTime _ _ =>
      eventTime = found ∧ map.bytesInFlight < 4 * kMaxSegmentSize + kMaxOutgoingPacketSize

def StartsRound (e : Entry) : Prop :=
  match e.2 with
  | .packetSent .. => False
  | .congestionEvent _ _ _ _ ackedPackets lostPackets =>
      (e.1.beginAcks ackedPackets !lostPackets.isEmpty).2 = true

end Entry

structure SetsTimer (s s' : BbrSender) (c : BbrCall) : Prop where
  finds : Entry.FindsSmallFlight (s'.exitProbeRttAt - kProbeRttTime) (s, c)
  round : s'.probeRttRoundPassed = false

/-- What a call does about PROBE_RTT. -/
inductive VisitMove (s s' : BbrSender) (c : BbrCall) : Prop
  | outside (hbefore : s.mode ≠ .probeRtt) (hafter : s'.mode ≠ .probeRtt)
  | enter (now : Int) (hnow : c.eventTime? = some now) (hbefore : s.mode ≠ .probeRtt)
      (hafter : s'.mode = .probeRtt) (hexpired : s.minRttTimestamp + kMinRttExpiry < now)
      (hstamp : s'.minRttTimestamp = now)
      (htimer : s'.exitProbeRttAt ≠ 0 → SetsTimer s s' c)
  | stay (hbefore : s.mode = .probeRtt) (hafter : s'.mode = .probeRtt)
      (htimer : s'.exitProbeRttAt ≠ 0 → SetsTimer s s' c ∨
        s'.exitProbeRttAt = s.exitProbeRttAt ∧ (s'.probeRttRoundPassed = true →
          Entry.StartsRound (s, c) ∨ s.probeRttRoundPassed = true))
  | leave (now : Int) (hnow : c.eventTime? = some now) (hbefore : s.mode = .probeRtt)
      (hafter : s'.mode ≠ .probeRtt) (hstamp : s'.minRttTimestamp = now)
      (hset : s.exitProbeRttAt ≠ 0) (hdue : s.exitProbeRttAt ≤ now)
      (hround : Entry.StartsRound (s, c) ∨ s.probeRttRoundPassed = true)

theorem Coherent.flightIsSmall (h : s.control.Coherent) (bytesInFlight : Nat) :
    s.flightIsSmall bytesInFlight = true →
      bytesInFlight < 4 * kMaxSegmentSize + kMaxOutgoingPacketSize := by
  intro hsmall
  have hmin : s.minCongestionWindow = 4 * kMaxSegmentSize := congrArg Prod.fst h.settings
  rw [← hmin]
  exact of_decide_eq_true hsmall

theorem EventMoves.visit {rttStats : RttStats} {bytesInFlight priorInFlight : Nat} {now : Int}
    {hasLosses isRoundStart : Bool}
    (h : s.EventMoves rttStats bytesInFlight priorInFlight now hasLosses isRoundStart s') :
    ∃ (expired : Bool) (exited : BbrControl),
      exited.visit = s.control.visit ∧
      (exited.minRttTimestamp = s.minRttTimestamp ∨ exited.minRttTimestamp = now) ∧
      (expired = true →
        s.minRttTimestamp + kMinRttExpiry < now ∧ exited.minRttTimestamp = now) ∧
      exited.ProbeRttMove now expired (s.flightIsSmall bytesInFlight) isRoundStart s'.control := by
  obtain ⟨expired, sampled, cycled, flagged, exited, hsample, hcycle, hflag, hexit, hrtt⟩ := h.moves
  obtain ⟨hcycleVisit, hcycleStamp⟩ := hcycle.visit
  obtain ⟨hflagVisit, hflagStamp⟩ := hflag.visit
  obtain ⟨hexitVisit, hexitStamp⟩ := hexit.visit
  obtain ⟨hstamp, hexpired⟩ := hsample.minRttTimestamp
  have hkept : exited.minRttTimestamp = sampled.minRttTimestamp :=
    hexitStamp.trans (hflagStamp.trans hcycleStamp)
  refine ⟨expired, exited, ?_, hkept ▸ hstamp, hkept ▸ hexpired, hrtt⟩
  exact hexitVisit.trans (hflagVisit.trans (hcycleVisit.trans hsample.visit))

/-- What the last move of an event at the time `now` starts from: `exited` is the control after the
moves before it. -/
structure BeforeLast (s : BbrSender) (c : BbrCall) (now : Int) (expired small isRoundStart : Bool)
    (exited : BbrControl) : Prop where
  eventTime : c.eventTime? = some now
  visit : exited.visit = s.control.visit
  expired : expired = true →
    s.minRttTimestamp + kMinRttExpiry < now ∧ exited.minRttTimestamp = now
  small : small = true → Entry.FindsSmallFlight now (s, c)
  round : isRoundStart = true → Entry.StartsRound (s, c)

namespace BeforeLast

variable {now : Int} {expired small isRoundStart : Bool} {exited : BbrControl}

theorem mode_iff (h : s.BeforeLast c now expired small isRoundStart exited) :
    exited.mode = .probeRtt ↔ s.mode = .probeRtt := BbrControl.mode_of_visit h.visit

theorem exitProbeRttAt (h : s.BeforeLast c now expired small isRoundStart exited) :
    exited.exitProbeRttAt = s.exitProbeRttAt := congrArg (fun visit => visit.2.1) h.visit

theorem setsTimer (h : s.BeforeLast c now expired small isRoundStart exited) {m : BbrControl}
    (hunset : m.exitProbeRttAt = 0) (hcontrol : s'.control = m.awaitFlight now small)
    (hset : s'.exitProbeRttAt ≠ 0) : SetsTimer s s' c := by
  have hfields := m.awaitFlight_timer now small hunset
  rw [← hcontrol] at hfields
  obtain ⟨hfound, htimer, hcleared⟩ := hfields hset
  change s'.exitProbeRttAt = now + kProbeRttTime at htimer
  refine ⟨?_, hcleared⟩
  rw [htimer, add_sub_cancel_right]
  exact h.small hfound

theorem startsRound (h : s.BeforeLast c now expired small isRoundStart exited)
    (hboth : (isRoundStart || exited.probeRttRoundPassed) = true) :
    Entry.StartsRound (s, c) ∨ s.probeRttRoundPassed = true := by
  have hpassed : exited.probeRttRoundPassed = s.probeRttRoundPassed :=
    congrArg (fun visit => visit.2.2) h.visit
  rw [hpassed] at hboth
  exact (Bool.or_eq_true_iff.mp hboth).imp_left h.round

theorem leaves (h : s.BeforeLast c now expired small isRoundStart exited)
    (hin : exited.mode = .probeRtt) (hset : exited.exitProbeRttAt ≠ 0)
    (hdue : exited.exitProbeRttAt ≤ now)
    (hboth : (isRoundStart || exited.probeRttRoundPassed) = true) (hafter : s'.mode ≠ .probeRtt)
    (hstamp : s'.minRttTimestamp = now) : VisitMove s s' c := by
  rw [h.exitProbeRttAt] at hset hdue
  exact .leave now h.eventTime (h.mode_iff.mp hin) hafter hstamp hset hdue (h.startsRound hboth)

theorem visitMove (h : s.BeforeLast c now expired small isRoundStart exited)
    (hrtt : exited.ProbeRttMove now expired small isRoundStart s'.control) :
    VisitMove s s' c := by
  generalize hcontrol : s'.control = m at hrtt
  have hafter : s'.mode = m.mode := congrArg BbrControl.mode hcontrol
  have hstamp : s'.minRttTimestamp = m.minRttTimestamp :=
    congrArg BbrControl.minRttTimestamp hcontrol
  cases hrtt with
  | outside hother =>
      exact .outside (fun hbefore => hother (h.mode_iff.mpr hbefore)) (hafter ▸ hother)
  | enter hdue hother =>
      obtain ⟨hlate, hnow⟩ := h.expired hdue
      obtain ⟨hkept, hkeptStamp⟩ := exited.toProbeRtt.awaitFlight_frame now small
      exact .enter now h.eventTime (fun hbefore => hother (h.mode_iff.mpr hbefore))
        (hafter.trans hkept) hlate (hstamp.trans (hkeptStamp.trans hnow))
        (h.setsTimer rfl hcontrol)
  | wait hin hunset =>
      obtain ⟨hkept, _⟩ := exited.awaitFlight_frame now small
      exact .stay (h.mode_iff.mp hin) (hafter.trans (hkept.trans hin))
        fun hset => .inl (h.setsTimer hunset hcontrol hset)
  | stay hin hset =>
      have hexit := congrArg BbrControl.exitProbeRttAt hcontrol
      have hend := congrArg BbrControl.probeRttRoundPassed hcontrol
      exact .stay (h.mode_iff.mp hin) (hafter.trans hin) fun _ => .inr
        ⟨hexit.trans h.exitProbeRttAt, fun hnext => h.startsRound (hend.symm.trans hnext)⟩
  | resume hin hset hdue hboth =>
      exact h.leaves hin hset hdue hboth (by rw [hafter]; exact fun hmode => nomatch hmode) hstamp
  | restart hin hset hdue hboth =>
      exact h.leaves hin hset hdue hboth (by rw [hafter]; exact fun hmode => nomatch hmode) hstamp

end BeforeLast

theorem call_visit (h : s.control.Coherent) (c : BbrCall) : VisitMove s (s.call c) c := by
  cases c with
  | packetSent =>
      by_cases hmode : s.mode = .probeRtt
      · exact .stay hmode hmode fun _ => .inr ⟨rfl, .inr⟩
      · exact .outside hmode hmode
  | congestionEvent rttStats map priorInFlight now ackedPackets lostPackets =>
      obtain ⟨expired, exited, hvisit, _, hexpired, hrtt⟩ := (onCongestionEvent_moves
        h.drainToTarget rttStats map priorInFlight now ackedPackets lostPackets).visit
      have hsmall := Coherent.flightIsSmall h map.bytesInFlight
      have hlast : s.BeforeLast (.congestionEvent rttStats map priorInFlight now ackedPackets
          lostPackets) now expired (s.flightIsSmall map.bytesInFlight)
          (s.beginAcks ackedPackets !lostPackets.isEmpty).2 exited :=
        ⟨rfl, hvisit, hexpired, fun hfound => ⟨rfl, hsmall hfound⟩, id⟩
      exact hlast.visitMove hrtt

theorem call_window (c : BbrCall) (hmode : (s.call c).mode = .probeRtt) :
    (s.call c).congestionWindow = s.congestionWindow := by
  cases c with
  | packetSent => rfl
  | congestionEvent rttStats map priorInFlight now ackedPackets lostPackets =>
      obtain ⟨moved, bytesLost, excessAcked, isRoundStart, _, hwindows, heq⟩ :=
        s.onCongestionEvent_writes rttStats map priorInFlight now ackedPackets lostPackets
      obtain ⟨hcontrol, _, hlast⟩ := moved.writeOutputs_frame rttStats map.bytesInFlight
        (s.sampler.accounts.creditedBytes ackedPackets) bytesLost excessAcked map.leastUnacked
        isRoundStart
      rw [← heq] at hcontrol hlast
      have hmoved : moved.mode = .probeRtt := (congrArg BbrControl.mode hcontrol).symm.trans hmode
      have hpaced : (moved.calculatePacingRate rttStats bytesLost).mode = .probeRtt :=
        ((calculatePacingRate_changes _ _).keeps mode rfl).trans hmoved
      have hkept : (moved.calculatePacingRate rttStats bytesLost).calculateCongestionWindow rttStats
          (s.sampler.accounts.creditedBytes ackedPackets) excessAcked =
            moved.calculatePacingRate rttStats bytesLost := if_pos hpaced
      rw [hkept, (calculatePacingRate_changes _ _).keeps windows rfl, hwindows] at hlast
      exact congrArg Prod.fst hlast

/-! ## A visit -/

/-- The record ends with a visit to PROBE_RTT that `first` began. -/
structure Visit (history : List Entry) (first : Entry) (rest : List Entry) : Prop where
  onRecord : ∃ early, history = early ++ first :: rest
  entered : first.1.mode ≠ .probeRtt
  stays : ∀ e ∈ first :: rest, e.after.mode = .probeRtt

/-- The flight is found small at `found`, and with `passed` a round starts behind that. -/
def Drains (visit : List Entry) (found : Int) (passed : Bool) : Prop :=
  ∃ early e late, visit = early ++ e :: late ∧ e.FindsSmallFlight found ∧
    (passed = true → ∃ d ∈ late, d.StartsRound)

theorem Visit.concat {first e : Entry} {rest : List Entry} (h : Visit history first rest)
    (he : e.after.mode = .probeRtt) : Visit (history ++ [e]) first (rest ++ [e]) := by
  obtain ⟨early, hsplit⟩ := h.onRecord
  refine ⟨⟨early, by simp [hsplit]⟩, h.entered, ?_⟩
  intro d hd
  rw [← List.cons_append, List.mem_append] at hd
  rcases hd with hd | hd
  · exact h.stays d hd
  · rw [List.mem_singleton.mp hd]
    exact he

theorem Drains.concat {visit : List Entry} {found : Int} {passed passed' : Bool} {e : Entry}
    (h : Drains visit found passed) (hround : passed' = true → e.StartsRound ∨ passed = true) :
    Drains (visit ++ [e]) found passed' := by
  obtain ⟨early, d, late, hsplit, hfinds, hpassed⟩ := h
  refine ⟨early, d, late ++ [e], by simp [hsplit], hfinds, fun hnext => ?_⟩
  rcases hround hnext with hstarts | hbefore
  · exact ⟨e, by simp, hstarts⟩
  · obtain ⟨r, hr, hstarts⟩ := hpassed hbefore
    exact ⟨r, by simp [hr], hstarts⟩

theorem SetsTimer.drains (h : SetsTimer s s' c) (visit : List Entry) :
    Drains (visit ++ [(s, c)]) (s'.exitProbeRttAt - kProbeRttTime) s'.probeRttRoundPassed :=
  ⟨visit, (s, c), [], rfl, h.finds, fun hpassed => by rw [h.round] at hpassed; cases hpassed⟩

/-- What the state in PROBE_RTT says about the record. -/
structure VisitKnown (s : BbrSender) (history : List Entry) : Prop where
  coherent : s.control.Coherent
  visit : s.mode = .probeRtt → ∃ first rest, Visit history first rest ∧
    s.congestionWindow = first.1.congestionWindow ∧
    (s.exitProbeRttAt ≠ 0 →
      Drains (first :: rest) (s.exitProbeRttAt - kProbeRttTime) s.probeRttRoundPassed)

theorem VisitKnown.call (h : s.VisitKnown history) (c : BbrCall) :
    (s.call c).VisitKnown (history ++ [(s, c)]) := by
  refine ⟨(Coherent.call h.coherent c).1, fun hmode => ?_⟩
  have hwindow := call_window c hmode
  cases call_visit h.coherent c with
  | outside _ hother => exact absurd hmode hother
  | leave _ _ _ hother => exact absurd hmode hother
  | enter _ _ hbefore _ _ _ htimer =>
      refine ⟨(s, c), [], ⟨⟨history, rfl⟩, hbefore, ?_⟩, hwindow, ?_⟩
      · intro e he
        rw [List.mem_singleton.mp he]
        exact hmode
      · exact fun hset => (htimer hset).drains []
  | stay hbefore _ htimer =>
      obtain ⟨first, rest, hvisit, hsaved, hdrains⟩ := h.visit hbefore
      refine ⟨first, rest ++ [(s, c)], hvisit.concat hmode, hwindow.trans hsaved, fun hset => ?_⟩
      rcases htimer hset with hsets | ⟨hsame, hround⟩
      · exact hsets.drains (first :: rest)
      · rw [hsame] at hset ⊢
        exact (hdrains hset).concat hround

/-- In every run a visit to PROBE_RTT ends only after the flight was found small, a round has
started behind that and `kProbeRttTime` has passed, and up to then the congestion window is the
one that the visit met. -/
theorem probeRtt_visit (start : Int) (initialCwnd maxCwnd : Nat) (stream : Nat → Nat)
    (calls : List BbrCall) (c : BbrCall) {s : BbrSender}
    (hs : s = (create start initialCwnd maxCwnd stream).run calls)
    (hbefore : s.mode = .probeRtt) (hafter : (s.call c).mode ≠ .probeRtt) :
    ∃ first rest found now,
      Visit (History.trace call (create start initialCwnd maxCwnd stream) calls) first rest ∧
      s.congestionWindow = first.1.congestionWindow ∧
      Drains (first :: rest ++ [(s, c)]) found true ∧
      c.eventTime? = some now ∧ found + kProbeRttTime ≤ now := by
  have hknown : s.VisitKnown
      (History.trace call (create start initialCwnd maxCwnd stream) calls) := by
    have hcreate : (create start initialCwnd maxCwnd stream).VisitKnown [] :=
      ⟨create_coherent _ _ _ _, fun hmode => nomatch hmode⟩
    have hstep : ∀ (s : BbrSender) (history : List Entry) (c : BbrCall), s.VisitKnown history →
        (s.call c).VisitKnown (history ++ [(s, c)]) := fun _ _ c h => h.call c
    rw [hs]
    exact History.trace_invariant hstep hcreate calls
  obtain ⟨first, rest, hvisit, hsaved, hdrains⟩ := hknown.visit hbefore
  cases call_visit hknown.coherent c with
  | outside hother => exact absurd hbefore hother
  | enter _ _ hother => exact absurd hbefore hother
  | stay _ hstays => exact absurd hstays hafter
  | leave now hnow _ _ _ hset hdue hround =>
      refine ⟨first, rest, _, now, hvisit, hsaved, (hdrains hset).concat fun _ => hround, hnow, ?_⟩
      rw [sub_add_cancel]
      exact hdue

/-- A visit to PROBE_RTT of three round trips, eleven seconds behind six round trips. -/
def visitCalls : List BbrCall :=
  roundTrips 6 ++ [.packetSent 11000001 defaultPacketSize 7 defaultPacketSize,
    .congestionEvent {} {} defaultPacketSize 11010001 [⟨7, defaultPacketSize, 11010001⟩] [],
    .packetSent 11020001 0 8 defaultPacketSize,
    .congestionEvent {} {} defaultPacketSize 11030001 [⟨8, defaultPacketSize, 11030001⟩] [],
    .packetSent 11300001 0 9 defaultPacketSize]

def lastOfVisit : BbrCall :=
  .congestionEvent {} {} defaultPacketSize 11310001 [⟨9, defaultPacketSize, 11310001⟩] []

theorem probeRtt_visit_of_visitCalls :
    ∃ first rest found now,
      Visit (History.trace call (create 1 32 2000 id) visitCalls) first rest ∧
      ((create 1 32 2000 id).run visitCalls).congestionWindow = first.1.congestionWindow ∧
      Drains (first :: rest ++ [((create 1 32 2000 id).run visitCalls, lastOfVisit)]) found true ∧
      lastOfVisit.eventTime? = some now ∧ found + kProbeRttTime ≤ now :=
  probeRtt_visit 1 32 2000 id visitCalls lastOfVisit rfl (by decide +kernel) (by decide +kernel)

/-! ## Between visits -/

def Entry.BoundsVisit (e : Entry) : Prop := e.1.mode = .probeRtt ↔ e.after.mode ≠ .probeRtt

theorem call_minRttTimestamp (h : s.control.Coherent) (c : BbrCall) :
    (s.call c).minRttTimestamp = s.minRttTimestamp ∨
      c.eventTime? = some (s.call c).minRttTimestamp := by
  cases c with
  | packetSent => exact .inl rfl
  | congestionEvent rttStats map priorInFlight now ackedPackets lostPackets =>
      obtain ⟨expired, exited, _, hstamp, _, hrtt⟩ := (onCongestionEvent_moves
        h.drainToTarget rttStats map priorInFlight now ackedPackets lostPackets).visit
      change (s.onCongestionEvent rttStats map priorInFlight now ackedPackets
        lostPackets).control.minRttTimestamp = s.minRttTimestamp ∨
          some now = some (s.onCongestionEvent rttStats map priorInFlight now ackedPackets
            lostPackets).control.minRttTimestamp
      rcases hrtt.minRttTimestamp with hkept | hnow
      · rw [hkept]
        exact hstamp.imp_right fun hat => congrArg some hat.symm
      · exact .inr (congrArg some hnow.symm)

/-- The stamp of the minimum RTT does not fall behind a time that no event falls behind. -/
theorem run_minRttTimestamp (h : s.control.Coherent) {time : Int} (hle : time ≤ s.minRttTimestamp)
    {calls : List BbrCall}
    (hlater : ∀ c ∈ calls, ∀ now, c.eventTime? = some now → time ≤ now) :
    time ≤ (s.run calls).minRttTimestamp := by
  induction calls generalizing s with
  | nil => exact hle
  | cons c calls ih =>
      have hnext : time ≤ (s.call c).minRttTimestamp := by
        rcases call_minRttTimestamp h c with hkept | hstamp
        · rw [hkept]
          exact hle
        · exact hlater c List.mem_cons_self _ hstamp
      exact ih (Coherent.call h c).1 hnext fun d hd => hlater d (List.mem_cons_of_mem _ hd)

/-- In every run no visit to PROBE_RTT begins within `kMinRttExpiry` of the time at which one
begins or ends, unless the clock falls behind that time. -/
theorem probeRtt_spaced (start : Int) (initialCwnd maxCwnd : Nat) (stream : Nat → Nat)
    (calls : List BbrCall) {early late rest : List Entry} {e d : Entry}
    (hsplit : History.trace call (create start initialCwnd maxCwnd stream) calls =
      early ++ e :: (late ++ d :: rest))
    (hbounds : e.BoundsVisit) (houtside : d.1.mode ≠ .probeRtt)
    (henters : d.after.mode = .probeRtt) {time : Int} (htime : e.2.eventTime? = some time)
    (hclock : ∀ r ∈ late, ∀ now, r.2.eventTime? = some now → time ≤ now) :
    ∃ now, d.2.eventTime? = some now ∧ time + kMinRttExpiry < now := by
  obtain ⟨before, after, _, _, he, hafter⟩ := History.trace_split hsplit
  obtain ⟨between, _, _, hlate, hd, _⟩ := History.trace_split hafter.symm
  have hcreate := create_coherent start initialCwnd maxCwnd stream
  have hcoherent : e.1.control.Coherent := by
    rw [he]
    exact (Coherent.run hcreate before).1
  have hstamp : time ≤ (e.1.call e.2).minRttTimestamp := by
    have hends : ∀ {now : Int}, e.2.eventTime? = some now →
        (e.1.call e.2).minRttTimestamp = now → time ≤ (e.1.call e.2).minRttTimestamp := by
      intro now hnow hat
      rw [hat, Option.some_inj.mp (htime.symm.trans hnow)]
    cases call_visit hcoherent e.2 with
    | outside hbefore hother => exact absurd (hbounds.mpr hother) hbefore
    | stay hbefore hstays => exact absurd hstays (hbounds.mp hbefore)
    | enter now hnow _ _ _ hat => exact hends hnow hat
    | leave now hnow _ _ hat => exact hends hnow hat
  have hnext := (Coherent.call hcoherent e.2).1
  have hold : time ≤ d.1.minRttTimestamp := by
    rw [hd]
    have hcalls : between = (History.trace call (e.1.call e.2) between).map Prod.snd :=
      (History.trace_map_snd (e.1.call e.2) between).symm
    apply run_minRttTimestamp hnext hstamp
    intro c hc now hnow
    rw [hcalls, ← hlate] at hc
    obtain ⟨r, hr, rfl⟩ := List.mem_map.mp hc
    exact hclock r hr now hnow
  have hreached : d.1.control.Coherent := by
    rw [hd]
    exact (Coherent.run hnext between).1
  cases call_visit hreached d.2 with
  | outside _ hother => exact absurd henters hother
  | stay hbefore => exact absurd hbefore houtside
  | leave _ _ hbefore => exact absurd hbefore houtside
  | enter now hnow _ _ hexpired => exact ⟨now, hnow, by omega⟩

/-- The next visit begins ten seconds behind the end of the first. -/
theorem probeRtt_spaced_of_lastOfVisit :
    let next : BbrCall := .congestionEvent {} {} defaultPacketSize 22010001
      [⟨10, defaultPacketSize, 22010001⟩] []
    ∃ now, next.eventTime? = some now ∧ 11310001 + kMinRttExpiry < now := by
  intro next
  let sent : BbrCall := .packetSent 22000001 defaultPacketSize 10 defaultPacketSize
  let s := (create 1 32 2000 id).run visitCalls
  have hsplit : History.trace call (create 1 32 2000 id)
      (visitCalls ++ [lastOfVisit, sent, next]) =
        History.trace call (create 1 32 2000 id) visitCalls ++
          (s, lastOfVisit) :: ([(s.call lastOfVisit, sent)] ++
            ((s.call lastOfVisit).call sent, next) :: []) :=
    History.trace_append _ _ _
  exact probeRtt_spaced 1 32 2000 id (visitCalls ++ [lastOfVisit, sent, next]) hsplit
    (iff_of_true (by decide +kernel) (by decide +kernel)) (by decide +kernel) (by decide +kernel)
    rfl (by simp [sent, BbrCall.eventTime?])

end BbrSender

end BbrChrome
