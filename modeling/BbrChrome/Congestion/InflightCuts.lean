import BbrChrome.Congestion.BoundWrites

/-!
# One cut for each probe

`MaybeAdaptUpperBounds` runs in every phase and the losses of a probe are reported over many
events. The flag that `EnterProbeUp` sets and the first cut clears keeps `inflight_hi_` from being
lowered twice for one probe; the exit of STARTUP has a flag of its own, the full bandwidth.
-/

namespace BbrChrome

open LoggedSteps

namespace BoundWrite

def isEnterProbeUp : BoundWrite → Bool
  | enterProbeUp => true
  | _ => false

def isCut : BoundWrite → Bool
  | enterProbeUp => false
  | checkExcessiveLosses before after => after < before
  | maybeAdaptUpperBounds before after => after < before
  | probeInflightHighUpward before _ after => after < before.inflightHi

/-- `CheckExcessiveLosses` lowers it. -/
def isStartupCut : BoundWrite → Bool
  | checkExcessiveLosses before after => after < before
  | _ => false

def isProbeCut (e : BoundWrite) : Bool := e.isCut && !e.isStartupCut

end BoundWrite

/-- No more cuts than probes, apart from the exit of STARTUP, and between two of them a probe
begins. -/
structure CutOncePerProbe (log : List BoundWrite) : Prop where
  cuts : log.countP BoundWrite.isCut ≤ log.countP BoundWrite.isEnterProbeUp + 1
  startupCuts : log.countP BoundWrite.isStartupCut ≤ 1
  probeCuts : log.countP BoundWrite.isProbeCut ≤ log.countP BoundWrite.isEnterProbeUp
  between : ∀ pre e mid e' post, log = pre ++ e :: (mid ++ e' :: post) →
    e.isCut = true → e'.isCut = true → BoundWrite.enterProbeUp ∈ mid

namespace UpperBound

def Unprobed (b : UpperBound) : Prop := b.phase = .probeNotStarted → b.isSampleFromProbing = false

variable {limit : Nat} {b b' : UpperBound} {entry : Option BoundWrite} {log : List BoundWrite}

theorem le_growInflightHi (b : UpperBound) (bytesAcked : Nat) :
    b.inflightHi ≤ (b.growInflightHi bytesAcked).inflightHi := by
  unfold growInflightHi
  dsimp only
  split
  · exact le_max_left _ _
  · exact le_refl _

@[simp] theorem growInflightHi_phase (b : UpperBound) (bytesAcked : Nat) :
    (b.growInflightHi bytesAcked).phase = b.phase := by
  unfold growInflightHi
  dsimp only
  split <;> rfl

@[simp] theorem growInflightHi_isSampleFromProbing (b : UpperBound) (bytesAcked : Nat) :
    (b.growInflightHi bytesAcked).isSampleFromProbing = b.isSampleFromProbing := by
  unfold growInflightHi
  dsimp only
  split <;> rfl

@[simp] theorem growInflightHi_fullBandwidthReached (b : UpperBound) (bytesAcked : Nat) :
    (b.growInflightHi bytesAcked).fullBandwidthReached = b.fullBandwidthReached := by
  unfold growInflightHi
  dsimp only
  split <;> rfl

end UpperBound

namespace BoundStep

open UpperBound BoundWrite

variable {limit : Nat} {b b' : UpperBound} {entry : Option BoundWrite} {log : List BoundWrite}
  {e e' : BoundWrite}

theorem unprobed (h : BoundStep limit b entry b') (hb : b.Unprobed) : b'.Unprobed := by
  cases h with
  | grow =>
      intro hphase
      rw [growInflightHi_phase] at hphase
      rw [growInflightHi_isSampleFromProbing]
      exact hb hphase
  | fullBandwidth => exact hb
  | tolerate => exact hb
  | exitStartup => exact hb
  | adaptOk => exact hb
  | adaptProbedTooHigh => exact fun _ => rfl
  | enterProbeDown => exact nofun
  | endFirstRound => exact fun _ => rfl
  | enterProbeCruise => exact nofun
  | enterProbeRefill => exact nofun
  | enterProbeUp => exact nofun
  | raiseSlope => exact hb

theorem fullBandwidthReached_mono (h : BoundStep limit b entry b')
    (hb : b.fullBandwidthReached = true) : b'.fullBandwidthReached = true := by
  cases h with
  | fullBandwidth => rfl
  | exitStartup => rfl
  | grow => simpa using hb
  | _ => exact hb

theorem started_mono (h : BoundStep limit b entry b') (hb : b.phase ≠ .probeNotStarted) :
    b'.phase ≠ .probeNotStarted := by
  cases h with
  | grow => simpa using hb
  | fullBandwidth => exact hb
  | tolerate => exact hb
  | exitStartup => exact hb
  | adaptOk => exact hb
  | adaptProbedTooHigh => exact hb
  | endFirstRound => exact hb
  | raiseSlope => exact hb
  | _ => exact CyclePhase.noConfusion

/-- A cut takes the flag of a probe or, in front of the first cycle, finds the full bandwidth. -/
theorem cut_cases (h : BoundStep limit b (some e) b') (hcut : e.isCut = true) :
    (b.isSampleFromProbing = true ∧ b'.isSampleFromProbing = false ∧ b'.phase = b.phase) ∨
    (b.phase = .probeNotStarted ∧ b.fullBandwidthReached = false ∧
      b'.fullBandwidthReached = true ∧ b'.isSampleFromProbing = b.isSampleFromProbing) := by
  cases h with
  | tolerate => simp [isCut] at hcut
  | exitStartup hphase hgrowth inflightHi => exact .inr ⟨hphase, hgrowth, rfl, rfl⟩
  | enterProbeUp => simp [isCut] at hcut
  | adaptOk hle =>
      simp only [isCut, decide_eq_true_eq] at hcut
      omega
  | adaptProbedTooHigh hflag inflightHi => exact .inl ⟨hflag, rfl, rfl⟩
  | grow hphase hprior hlimit bytesAcked =>
      have hle := le_growInflightHi b bytesAcked
      simp only [isCut, decide_eq_true_eq] at hcut
      omega

/-! ## Counting -/

theorem probeCuts_le (h : BoundStep limit b entry b') :
    entry.toList.countP isProbeCut + b'.isSampleFromProbing.toNat ≤
      entry.toList.countP isEnterProbeUp + b.isSampleFromProbing.toNat := by
  cases h with
  | fullBandwidth => simp
  | tolerate => simp [isProbeCut, isCut]
  | exitStartup => simp [isProbeCut, isCut, isStartupCut]
  | enterProbeDown => simp
  | endFirstRound => simp
  | enterProbeCruise => simp
  | enterProbeRefill => simp
  | enterProbeUp =>
      simp [isProbeCut, isCut, isEnterProbeUp, UpperBound.enterProbeUp, raiseInflightHighSlope]
  | adaptOk hle =>
      have hnot := Nat.not_lt.mpr hle
      simp [isProbeCut, isCut, hnot, isEnterProbeUp]
  | adaptProbedTooHigh hflag inflightHi =>
      have hone :
          [BoundWrite.maybeAdaptUpperBounds b.inflightHi inflightHi].countP isProbeCut ≤ 1 :=
        List.countP_le_length
      simpa [hflag, isEnterProbeUp] using hone
  | grow hphase hprior hlimit bytesAcked =>
      have hnot := Nat.not_lt.mpr (le_growInflightHi b bytesAcked)
      simp [isProbeCut, isCut, hnot, isEnterProbeUp]
  | raiseSlope => simp [raiseInflightHighSlope]

theorem startupCuts_le (h : BoundStep limit b entry b') :
    entry.toList.countP isStartupCut + (!b'.fullBandwidthReached).toNat ≤
      entry.toList.countP (fun _ => false) + (!b.fullBandwidthReached).toNat := by
  cases h with
  | fullBandwidth => simp
  | tolerate => simp [isStartupCut]
  | exitStartup hphase hgrowth inflightHi =>
      have hone :
          [BoundWrite.checkExcessiveLosses b.inflightHi inflightHi].countP isStartupCut ≤ 1 :=
        List.countP_le_length
      simpa [hgrowth] using hone
  | adaptOk => simp [isStartupCut]
  | adaptProbedTooHigh => simp [isStartupCut]
  | enterProbeUp => simp [isStartupCut, UpperBound.enterProbeUp, raiseInflightHighSlope]
  | grow => simp [isStartupCut]
  | _ => simp [raiseInflightHighSlope]

/-- The flag of a probe is set by `EnterProbeUp` alone. -/
theorem flag_of_flag (h : BoundStep limit b entry b') (hset : b'.isSampleFromProbing = true) :
    b.isSampleFromProbing = true ∨ entry = some .enterProbeUp := by
  cases h with
  | enterProbeUp => exact .inr rfl
  | grow => exact .inl (by simpa using hset)
  | endFirstRound => cases hset
  | enterProbeCruise => cases hset
  | enterProbeRefill => cases hset
  | adaptProbedTooHigh => cases hset
  | _ => exact .inl hset

theorem enterProbeUp_between {pre mid post : List BoundWrite} (hb : b.Unprobed)
    (h : Steps (BoundStep limit) b (pre ++ e :: (mid ++ e' :: post)) b')
    (hcut : e.isCut = true) (hcut' : e'.isCut = true) : BoundWrite.enterProbeUp ∈ mid := by
  obtain ⟨before, after, hpre, hfirst, hrest⟩ := h.at_entry
  obtain ⟨before', after', hmid, hsecond, _⟩ := hrest.at_entry
  have hunprobed : before.Unprobed := hpre.invariant (fun _ _ _ h hstep => hstep.unprobed h) hb
  have hafter : after.isSampleFromProbing = false := by
    rcases hfirst.cut_cases hcut with ⟨_, hflag, _⟩ | ⟨hphase, _, _, hflag⟩
    · exact hflag
    · rw [hflag]
      exact hunprobed hphase
  rcases hsecond.cut_cases hcut' with ⟨hflag', _, _⟩ | ⟨hphase', hgrowth', _, _⟩
  · exact hmid.mem_of_established (fun _ _ _ hstep => hstep.flag_of_flag)
      (Bool.eq_false_iff.mp hafter) hflag'
  · -- A second exit of STARTUP contradicts the first, and so does one behind the first cycle.
    exfalso
    rcases hfirst.cut_cases hcut with ⟨hflag, _, hphase⟩ | ⟨_, _, hfull, _⟩
    · have hstarted : after.phase ≠ .probeNotStarted := by
        intro hnotStarted
        rw [hunprobed (hphase.symm.trans hnotStarted)] at hflag
        cases hflag
      exact hmid.invariant (fun _ _ _ h hstep => hstep.started_mono h) hstarted hphase'
    · have hkeep : ∀ s entry t, s.fullBandwidthReached = true → BoundStep limit s entry t →
          t.fullBandwidthReached = true := fun _ _ _ h hstep => hstep.fullBandwidthReached_mono h
      have hstill := hmid.invariant hkeep hfull
      rw [hgrowth'] at hstill
      cases hstill

end BoundStep

theorem BoundWrite.countP_isCut (log : List BoundWrite) :
    log.countP isCut = log.countP isProbeCut + log.countP isStartupCut := by
  induction log with
  | nil => rfl
  | cons e log ih =>
      simp only [List.countP_cons, ih, isProbeCut]
      cases e <;> simp [isCut, isStartupCut] <;> omega

/-- In every run `inflight_hi_` is lowered at most once for each `EnterProbeUp` and once more by
the exit of STARTUP, and after a cut not again before a probe begins. -/
theorem Bbr2Sender.run_cutOncePerProbe (now : Int) (rttStats : RttStats) (initialCwnd maxCwnd : Nat)
    (stream : Nat → Nat) (calls : List Bbr2Call) :
    let s := create now rttStats initialCwnd maxCwnd stream
    (s.runWrites calls).foldlM BoundWrite.record s.model.inflightHi =
        some (s.run calls).model.inflightHi ∧
      CutOncePerProbe (s.runWrites calls) := by
  intro s
  have hwrites : s.Writes (maxCwnd * kDefaultTCPMSS) :=
    create_writes now rttStats initialCwnd maxCwnd stream
  have hsteps := run_steps hwrites calls
  have hprobe := hsteps.countP_le fun _ _ _ hstep => hstep.probeCuts_le
  have hstartup := hsteps.countP_le fun _ _ _ hstep => hstep.startupCuts_le
  have hflag : s.bound.isSampleFromProbing = false := rfl
  have hfull : s.bound.fullBandwidthReached = false := rfl
  have hunprobed : s.bound.Unprobed := fun _ => rfl
  have htotal := BoundWrite.countP_isCut (s.runWrites calls)
  simp only [hflag, Bool.toNat_false] at hprobe
  simp only [hfull, Bool.not_false, Bool.toNat_true] at hstartup
  have hnone : (s.runWrites calls).countP (fun _ => false) = 0 := by simp
  refine ⟨runWrites_record hwrites calls, by omega, by omega, by omega, ?_⟩
  intro pre e mid e' post hsplit hcut hcut'
  rw [hsplit] at hsteps
  exact BoundStep.enterProbeUp_between hunprobed hsteps hcut hcut'

end BbrChrome
