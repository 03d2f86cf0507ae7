import BbrChrome.Congestion.Bbr2MachineLaws

/-!
# The stay in PROBE_RTT

The time at which PROBE_RTT may be left is scheduled by an event with a small flight. What
an event and a send do to the schedule, and when they leave the mode.
-/

namespace BbrChrome

variable {event : Bbr2CongestionEvent} {now : Int} {c c₀ c₁ c' : Control}
  {nextMode mode : Bbr2Mode} {calls calls' log : List ModeCall}

/-- One of the calls changes the mode from PROBE_RTT to PROBE_BW, starting from `mode`. -/
def LeavesProbeRtt : Bbr2Mode → List ModeCall → Prop
  | _, [] => False
  | mode, .changeMode nextMode :: calls =>
      (mode = .probeRtt ∧ nextMode = .probeBw) ∨ LeavesProbeRtt nextMode calls
  | mode, _ :: calls => LeavesProbeRtt mode calls

instance instDecidableLeavesProbeRtt : ∀ mode calls, Decidable (LeavesProbeRtt mode calls)
  | _, [] => .isFalse id
  | mode, .changeMode nextMode :: calls =>
      have := instDecidableLeavesProbeRtt nextMode calls
      inferInstanceAs (Decidable
        ((mode = .probeRtt ∧ nextMode = .probeBw) ∨ LeavesProbeRtt nextMode calls))
  | mode, .enterProbeDown :: calls => instDecidableLeavesProbeRtt mode calls
  | mode, .advanceMaxBandwidthFilter _ :: calls => instDecidableLeavesProbeRtt mode calls

theorem leavesProbeRtt_append :
    LeavesProbeRtt mode (calls ++ calls') ↔
      LeavesProbeRtt mode calls ∨ LeavesProbeRtt (modeAfter mode calls) calls' := by
  induction calls generalizing mode with
  | nil => simp [LeavesProbeRtt, modeAfter]
  | cons call calls ih =>
      cases call with
      | changeMode nextMode => simp [LeavesProbeRtt, modeAfter, ih, or_assoc]
      | enterProbeDown => exact ih
      | advanceMaxBandwidthFilter => exact ih

def KeepsMode (calls : List ModeCall) : Prop := ∀ mode, .changeMode mode ∉ calls

instance (calls : List ModeCall) : Decidable (KeepsMode calls) :=
  decidable_of_iff (∀ call ∈ calls, ∀ mode ∈ [Bbr2Mode.startup, .drain, .probeBw, .probeRtt],
      call ≠ .changeMode mode) (by
    constructor
    · intro h mode hmem
      exact h _ hmem mode (by cases mode <;> simp) rfl
    · rintro h call hmem mode _ rfl
      exact h mode hmem)

theorem KeepsMode.modeAfter_eq (h : KeepsMode calls) : modeAfter mode calls = mode := by
  induction calls with
  | nil => rfl
  | cons call calls ih =>
      have hrest : KeepsMode calls := fun mode hmem => h mode (List.mem_cons_of_mem _ hmem)
      cases call with
      | changeMode nextMode => exact absurd List.mem_cons_self (h nextMode)
      | enterProbeDown => exact ih hrest
      | advanceMaxBandwidthFilter => exact ih hrest

theorem KeepsMode.not_leaves (h : KeepsMode calls) : ¬ LeavesProbeRtt mode calls := by
  induction calls with
  | nil => exact not_false
  | cons call calls ih =>
      have hrest : KeepsMode calls := fun mode hmem => h mode (List.mem_cons_of_mem _ hmem)
      cases call with
      | changeMode nextMode => exact absurd List.mem_cons_self (h nextMode)
      | enterProbeDown => exact ih hrest
      | advanceMaxBandwidthFilter => exact ih hrest

theorem ModeChange.leaves_iff (h : ModeChange now c nextMode calls c') :
    LeavesProbeRtt mode calls ↔ mode = .probeRtt ∧ nextMode = .probeBw := by
  obtain ⟨rest, rfl, hrest⟩ := h.changeMode_mem
  have hnone : ¬ LeavesProbeRtt nextMode rest := KeepsMode.not_leaves hrest
  simp [LeavesProbeRtt, hnone]

/-! ## Within an event -/

/-- How the loop stands to the state `c₀` in which it started. -/
structure InLoop (event : Bbr2CongestionEvent) (c₀ c : Control) (log : List ModeCall) : Prop where
  mode : c.mode = modeAfter c₀.mode log
  leaves : LeavesProbeRtt c₀.mode log →
    c₀.mode = .probeRtt ∧ c₀.exitTime ≠ 0 ∧ c₀.exitTime < event.eventTime
  unset : c.mode = .probeRtt → KeepsMode log ∧ c.exitTime = c₀.exitTime ∨ c.exitTime = 0

/-- How the event leaves the schedule: open because of a large flight, set by the event, or as it
was. -/
structure StayAfter (event : Bbr2CongestionEvent) (c₀ c : Control) (log : List ModeCall) :
    Prop where
  leaves : LeavesProbeRtt c₀.mode log →
    c₀.mode = .probeRtt ∧ c₀.exitTime ≠ 0 ∧ c₀.exitTime < event.eventTime
  schedule : c.mode = .probeRtt →
    c.exitTime = 0 ∧ c.probeRttFlight < event.bytesInFlight ∨
      event.bytesInFlight ≤ c.probeRttFlight ∧
        c.exitTime = event.eventTime + c.params.probeRttDuration ∨
      KeepsMode log ∧ c₀.mode = .probeRtt ∧ c₀.exitTime ≠ 0 ∧ c.exitTime = c₀.exitTime

theorem InLoop.handled (h : InLoop event c₀ c log) (hmove : ModeMove event c calls c' c.mode) :
    StayAfter event c₀ c' (log ++ calls) where
  leaves hleaves := by
    have hkeeps : KeepsMode calls := fun _ => hmove.changeMode_notMem
    rcases leavesProbeRtt_append.mp hleaves with hleaves | hleaves
    · exact h.leaves hleaves
    · exact absurd hleaves hkeeps.not_leaves
  schedule hrtt := by
    have hmode : c.mode = .probeRtt := hmove.mode_eq.symm.trans hrtt
    have hunset := h.unset hmode
    rw [hmode] at hmove
    cases hmove with
    | probeRtt _ hopen hflight => exact .inl ⟨hopen, hflight⟩
    | probeRttScheduled _ _ hflight => exact .inr (.inl ⟨hflight, rfl⟩)
    | probeRttLasts _ hset =>
        rcases hunset with ⟨hkeeps, hsame⟩ | hopen
        · refine .inr (.inr ⟨?_, ?_, ?_, hsame⟩)
          · rw [List.append_nil]
            exact hkeeps
          · rw [← @KeepsMode.modeAfter_eq c₀.mode log hkeeps, ← h.mode]
            exact hmode
          · rw [← hsame]
            exact hset
        · exact absurd hopen hset
    | minRttExpired hprobeBw => simp [hmode] at hprobeBw

theorem InLoop.changed (h : InLoop event c₀ c log) (hmove : ModeMove event c calls c₁ nextMode)
    (hne : nextMode ≠ c.mode) (hchange : ModeChange event.eventTime c₁ nextMode calls' c') :
    InLoop event c₀ c' (log ++ calls ++ calls') := by
  have hkeeps : KeepsMode calls := fun _ => hmove.changeMode_notMem
  have hbefore : modeAfter c₀.mode (log ++ calls) = c.mode := by
    rw [modeAfter_append, hkeeps.modeAfter_eq, h.mode]
  refine ⟨?_, fun hleaves => ?_, fun hrtt => ?_⟩
  · rw [modeAfter_append, hbefore, ← hmove.mode_eq]
    exact hchange.logged.mode
  · rcases leavesProbeRtt_append.mp hleaves with hleaves | hleaves
    · rcases leavesProbeRtt_append.mp hleaves with hleaves | hleaves
      · exact h.leaves hleaves
      · exact absurd hleaves hkeeps.not_leaves
    · rw [hbefore] at hleaves
      obtain ⟨hmode, rfl⟩ := hchange.leaves_iff.mp hleaves
      cases hmove.leaving hne with
      | drained hdrain => simp [hmode] at hdrain
      | probeRttOver _ hset hover =>
          rcases h.unset hmode with ⟨hlog, hsame⟩ | hopen
          · rw [← hsame]
            have hstart := h.mode
            rw [hlog.modeAfter_eq] at hstart
            exact ⟨hstart.symm.trans hmode, hset, hover⟩
          · exact absurd hopen hset
  · have hnext : nextMode = .probeRtt := hchange.mode_eq.symm.trans hrtt
    subst hnext
    cases hchange
    exact .inr rfl

theorem LoopMove.stayAfter (h : LoopMove event c calls c') : StayAfter event c c' calls := by
  have hstart : InLoop event c c [] := by
    refine ⟨rfl, False.elim, fun _ => .inl ⟨?_, rfl⟩⟩
    exact fun _ => List.not_mem_nil
  have hend := @LoopMove.induct event c c' calls (InLoop event c) (StayAfter event c)
    (fun _ _ _ _ h hmove => h.handled hmove)
    (fun _ _ _ _ _ _ _ h hmove hne hchange => h.changed hmove hne hchange) h [] hstart
  exact hend

/-- What an event does to a stay in PROBE_RTT. -/
theorem EventMove.stayAfter (h : EventMove event c calls c') : StayAfter event c c' calls := by
  cases h with
  | react hsampling hloop =>
      have hlooped := hloop.stayAfter
      cases hsampling
      unfold Control.maybeEnterQuiescence
      split
      · exact ⟨hlooped.leaves, hlooped.schedule⟩
      · exact ⟨hlooped.leaves, hlooped.schedule⟩

/-! ## The start of the quiescence -/

theorem EventMove.lastQuiescenceStart (h : EventMove event c calls c')
    (havoid : c.params.avoidUnnecessaryProbeRtt = true) :
    c'.lastQuiescenceStart =
      if event.bytesInFlight = 0 then event.eventTime else c.lastQuiescenceStart := by
  cases h with
  | react hsampling hloop =>
      have hkept := hloop.keeps
      have hparams := hkept.params.trans hsampling.params_eq
      unfold Control.maybeEnterQuiescence
      rw [hparams, havoid]
      simp only [and_true]
      cases hsampling
      split
      · rfl
      · exact hkept.lastQuiescenceStart

theorem SendMove.lastQuiescenceStart {bytesInFlight : Nat}
    (h : SendMove now bytesInFlight c calls c') (havoid : c.params.avoidUnnecessaryProbeRtt = true)
    (hquiet : c.lastQuiescenceStart ≠ 0 → bytesInFlight = 0) : c'.lastQuiescenceStart = 0 := by
  cases h with
  | busy hbusy =>
      by_contra hne
      exact hne (hbusy (hquiet hne) havoid)
  | _ => rfl

theorem SendMove.leaves {bytesInFlight : Nat} (h : SendMove now bytesInFlight c calls c')
    (hleaves : LeavesProbeRtt c.mode calls) :
    c.mode = .probeRtt ∧ c.lastQuiescenceStart ≠ 0 ∧ c.exitTime < now := by
  cases h with
  | probeRttOver hmode hquiet hover => exact ⟨hmode, hquiet, hover⟩
  | _ => exact hleaves.elim

theorem SendMove.schedule {bytesInFlight : Nat} (h : SendMove now bytesInFlight c calls c')
    (hrtt : c'.mode = .probeRtt) :
    KeepsMode calls ∧ c.mode = .probeRtt ∧ c'.exitTime = c.exitTime := by
  cases h with
  | probeRttOver hmode hquiet hover hchange =>
      have hprobeBw := hchange.mode_eq
      exact absurd (hprobeBw.symm.trans hrtt) Bbr2Mode.noConfusion
  | _ => exact ⟨fun _ => List.not_mem_nil, hrtt, rfl⟩

end BbrChrome
