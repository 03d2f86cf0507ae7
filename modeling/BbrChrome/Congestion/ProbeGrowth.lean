import BbrChrome.Congestion.BoundWrites

/-!
# The growth of a PROBE_UP phase

`ProbeInflightHighUpward` raises `inflight_hi_` by one segment for every `probe_up_bytes` acked and
keeps the rest for later events, while the slope changes from round to round. A segment is never
paid for with less than a segment, so that a phase adds no more than it has counted.
-/

namespace BbrChrome

open LoggedSteps

/-- The largest slope and the largest rest, with windows up to `limit`. -/
def slopeLimit (limit : Nat) : Nat := max limit kDefaultTCPMSS

namespace UpperBound

/-- The variables of PROBE_UP: the shift and the divisions are defined, and the rest is small. -/
structure Sloped (limit : Nat) (b : UpperBound) : Prop where
  rounds : b.probeUpRounds ≤ 30
  bytes : kDefaultTCPMSS ≤ b.probeUpBytes
  refilled : b.phase = .probeRefill → b.probeUpAcked = 0
  bytes_le : b.phase = .probeUp → b.probeUpBytes ≤ slopeLimit limit
  acked_lt : b.phase = .probeUp → b.probeUpAcked < slopeLimit limit

end UpperBound

namespace BoundWrite

/-- What `ProbeInflightHighUpward` adds to `inflight_hi_`. -/
def added : BoundWrite → Nat
  | probeInflightHighUpward before _ after => after - before.inflightHi
  | _ => 0

def counted : BoundWrite → Nat
  | probeInflightHighUpward _ bytesAcked _ => bytesAcked
  | _ => 0

end BoundWrite

/-- What holds when `ProbeInflightHighUpward` counts `bytesAcked` at `b`. -/
structure GrowsSafely (limit : Nat) (b : UpperBound) (bytesAcked after : Nat) : Prop where
  phase : b.phase = .probeUp
  rounds : b.probeUpRounds ≤ 30
  bytes : kDefaultTCPMSS ≤ b.probeUpBytes
  inflightHi_le : b.inflightHi ≤ limit
  units : (b.probeUpAcked + bytesAcked) / b.probeUpBytes * kDefaultTCPMSS ≤
    b.probeUpAcked + bytesAcked
  acked_lt : b.probeUpAcked < slopeLimit limit
  noWrap : bytesAcked + 2 * slopeLimit limit ≤ maxUint64 →
    after = b.inflightHi + (b.probeUpAcked + bytesAcked) / b.probeUpBytes * kDefaultTCPMSS

/-- A phase is safe to grow in and adds no more than was acked. -/
structure BoundedGrowth (limit : Nat) (log : List BoundWrite) : Prop where
  safe : ∀ b bytesAcked after, .probeInflightHighUpward b bytesAcked after ∈ log →
    GrowsSafely limit b bytesAcked after
  phase : ∀ pre phase post, log = pre ++ .enterProbeUp :: (phase ++ post) →
    (phase.map BoundWrite.added).sum ≤ (phase.map BoundWrite.counted).sum
  started : ∀ pre b bytesAcked after post,
    log = pre ++ .probeInflightHighUpward b bytesAcked after :: post → .enterProbeUp ∈ pre

namespace UpperBound

variable {limit : Nat} {b b' : UpperBound} {entry : Option BoundWrite} {log : List BoundWrite}

theorem Sloped.of_same (hb : b.Sloped limit) (hphase : b'.phase = b.phase)
    (hrounds : b'.probeUpRounds = b.probeUpRounds) (hbytes : b'.probeUpBytes = b.probeUpBytes)
    (hacked : b'.probeUpAcked = b.probeUpAcked) : b'.Sloped limit := by
  refine ⟨?_, ?_, ?_, ?_, ?_⟩
  · rw [hrounds]
    exact hb.rounds
  · rw [hbytes]
    exact hb.bytes
  · rw [hphase, hacked]
    exact hb.refilled
  · rw [hphase, hbytes]
    exact hb.bytes_le
  · rw [hphase, hacked]
    exact hb.acked_lt

theorem mss_pos : 0 < kDefaultTCPMSS := by decide

theorem units_le (hbytes : kDefaultTCPMSS ≤ b.probeUpBytes) (acked : Nat) :
    acked / b.probeUpBytes * kDefaultTCPMSS ≤ acked / b.probeUpBytes * b.probeUpBytes ∧
      acked / b.probeUpBytes * b.probeUpBytes ≤ acked :=
  ⟨Nat.mul_le_mul_left _ hbytes, Nat.div_mul_le_self _ _⟩

/-- What is added and what is left over were acked. -/
theorem growInflightHi_balance (hbytes : kDefaultTCPMSS ≤ b.probeUpBytes) (bytesAcked : Nat) :
    (b.growInflightHi bytesAcked).inflightHi - b.inflightHi +
      (b.growInflightHi bytesAcked).probeUpAcked ≤ bytesAcked + b.probeUpAcked := by
  obtain ⟨hsegments, hpaid⟩ := units_le hbytes (b.probeUpAcked + bytesAcked)
  unfold growInflightHi
  dsimp only
  split
  · have hwrapped : ∀ x y, addUint64 x y ≤ x + y := fun x y => Nat.mod_le _ _
    have hsum := hwrapped b.inflightHi
      ((b.probeUpAcked + bytesAcked) / b.probeUpBytes * kDefaultTCPMSS)
    dsimp only
    omega
  · dsimp only
    omega

theorem growInflightHi_acked_lt (hbytes : kDefaultTCPMSS ≤ b.probeUpBytes) (bytesAcked : Nat) :
    (b.growInflightHi bytesAcked).probeUpAcked < b.probeUpBytes := by
  have hpos : 0 < b.probeUpBytes := Nat.lt_of_lt_of_le mss_pos hbytes
  unfold growInflightHi
  dsimp only
  split
  · have hrest := Nat.mod_lt (b.probeUpAcked + bytesAcked) hpos
    have hdivide := Nat.div_add_mod' (b.probeUpAcked + bytesAcked) b.probeUpBytes
    dsimp only
    omega
  · rename_i hless
    exact Nat.lt_of_not_le hless

/-- The sum fits, unless one event acks nearly as many bytes as can be counted. -/
theorem growInflightHi_noWrap (hbytes : kDefaultTCPMSS ≤ b.probeUpBytes)
    (hinflight : b.inflightHi ≤ limit) (hrest : b.probeUpAcked < slopeLimit limit)
    {bytesAcked : Nat} (hfits : bytesAcked + 2 * slopeLimit limit ≤ maxUint64) :
    (b.growInflightHi bytesAcked).inflightHi =
      b.inflightHi + (b.probeUpAcked + bytesAcked) / b.probeUpBytes * kDefaultTCPMSS := by
  obtain ⟨hsegments, hpaid⟩ := units_le hbytes (b.probeUpAcked + bytesAcked)
  have hlimit : limit ≤ slopeLimit limit := le_max_left _ _
  have hmax : maxUint64 = 2 ^ 64 - 1 := rfl
  unfold growInflightHi
  dsimp only
  split
  · rw [addUint64_of_lt (by omega)]
    exact max_eq_right (Nat.le_add_right _ _)
  · rename_i hless
    rw [Nat.div_eq_of_lt (Nat.lt_of_not_le hless), Nat.zero_mul, Nat.add_zero]

theorem growInflightHi_slope (b : UpperBound) (bytesAcked : Nat) :
    (b.growInflightHi bytesAcked).probeUpRounds = b.probeUpRounds ∧
      (b.growInflightHi bytesAcked).probeUpBytes = b.probeUpBytes ∧
      (b.growInflightHi bytesAcked).phase = b.phase := by
  unfold growInflightHi
  dsimp only
  split <;> exact ⟨rfl, rfl, rfl⟩

theorem raised_slope {cwnd : Nat} (hcwnd : cwnd ≤ limit) (rounds : Nat) :
    kDefaultTCPMSS ≤ max (cwnd / 2 ^ rounds) kDefaultTCPMSS ∧
      max (cwnd / 2 ^ rounds) kDefaultTCPMSS ≤ slopeLimit limit :=
  ⟨le_max_right _ _,
    max_le_max ((Nat.div_le_self cwnd (2 ^ rounds)).trans hcwnd) (le_refl _)⟩

theorem Sloped.step (hb : b.Sloped limit) (h : BoundStep limit b entry b') : b'.Sloped limit := by
  cases h with
  | fullBandwidth => exact hb.of_same rfl rfl rfl rfl
  | tolerate => exact hb
  | exitStartup => exact hb.of_same rfl rfl rfl rfl
  | enterProbeDown =>
      exact ⟨hb.rounds, show kDefaultTCPMSS ≤ maxUint64 by decide, nofun, nofun, nofun⟩
  | endFirstRound => exact hb.of_same rfl rfl rfl rfl
  | enterProbeCruise => exact ⟨hb.rounds, hb.bytes, nofun, nofun, nofun⟩
  | enterProbeRefill hle => exact ⟨hle.trans hb.rounds, hb.bytes, fun _ => rfl, nofun, nofun⟩
  | enterProbeUp hphase hcwnd =>
      obtain ⟨hmin, hmax⟩ := raised_slope hcwnd b.probeUpRounds
      have hempty : b.probeUpAcked < slopeLimit limit := by
        rw [hb.refilled hphase]
        exact Nat.lt_of_lt_of_le mss_pos (le_max_right _ _)
      exact ⟨min_le_right _ _, hmin, nofun, fun _ => hmax, fun _ => hempty⟩
  | adaptOk => exact hb.of_same rfl rfl rfl rfl
  | adaptProbedTooHigh => exact hb.of_same rfl rfl rfl rfl
  | grow hphase hprior hlimit bytesAcked =>
      obtain ⟨hrounds, hbytes, hkept⟩ := growInflightHi_slope b bytesAcked
      have hrest := growInflightHi_acked_lt hb.bytes bytesAcked
      refine ⟨hrounds ▸ hb.rounds, hbytes ▸ hb.bytes, fun hrefill => ?_, fun _ => ?_, fun _ => ?_⟩
      · rw [hkept, hphase] at hrefill
        cases hrefill
      · rw [hbytes]
        exact hb.bytes_le hphase
      · exact Nat.lt_of_lt_of_le hrest (hb.bytes_le hphase)
  | raiseSlope hphase hcwnd =>
      obtain ⟨hmin, hmax⟩ := raised_slope hcwnd b.probeUpRounds
      refine ⟨min_le_right _ _, hmin, hb.refilled, fun _ => hmax, fun _ => hb.acked_lt hphase⟩

end UpperBound

namespace BoundStep

open UpperBound BoundWrite

variable {limit : Nat} {b b' : UpperBound} {entry : Option BoundWrite} {log : List BoundWrite}

/-- The rest is the potential of the growth. -/
theorem added_le (h : BoundStep limit b entry b') (hb : b.Sloped limit) :
    (entry.toList.map added).sum + b'.probeUpAcked ≤
      (entry.toList.map counted).sum + b.probeUpAcked := by
  cases h with
  | grow hphase hprior hlimit bytesAcked =>
      have hbalance := growInflightHi_balance hb.bytes bytesAcked
      simpa [added, counted] using hbalance
  | enterProbeRefill => simp
  | _ => simp [added, counted, UpperBound.enterProbeUp, raiseInflightHighSlope]

theorem phase_of_phase (h : BoundStep limit b entry b') (hup : b'.phase = .probeUp) :
    b.phase = .probeUp ∨ entry = some .enterProbeUp := by
  cases h with
  | enterProbeUp => exact .inr rfl
  | grow hphase => exact .inl hphase
  | enterProbeDown => cases hup
  | enterProbeCruise => cases hup
  | enterProbeRefill => cases hup
  | _ => exact .inl hup

theorem growsSafely {bytesAcked after : Nat}
    (h : BoundStep limit b (some (.probeInflightHighUpward b₀ bytesAcked after)) b')
    (hb : b.Sloped limit) : GrowsSafely limit b₀ bytesAcked after := by
  cases h with
  | grow hphase hprior hlimit =>
      obtain ⟨hsegments, hpaid⟩ := units_le hb.bytes (b.probeUpAcked + bytesAcked)
      have hinflight := hprior.trans hlimit
      have hrest := hb.acked_lt hphase
      exact ⟨hphase, hb.rounds, hb.bytes, hinflight, hsegments.trans hpaid, hrest,
        growInflightHi_noWrap hb.bytes hinflight hrest⟩

end BoundStep

namespace Bbr2Sender

theorem create_sloped (now : Int) (rttStats : RttStats) (initialCwnd maxCwnd : Nat)
    (stream : Nat → Nat) (limit : Nat) :
    (create now rttStats initialCwnd maxCwnd stream).bound.Sloped limit :=
  ⟨Nat.zero_le _, show kDefaultTCPMSS ≤ maxUint64 by decide, nofun, nofun, nofun⟩

/-- A log that starts from a safe state grows safely. -/
theorem boundedGrowth_of_steps {limit : Nat} {b b' : UpperBound} {log : List BoundWrite}
    (hb : b.Sloped limit) (hdown : b.phase ≠ .probeUp) (h : Steps (BoundStep limit) b log b') :
    BoundedGrowth limit log := by
  have hsloped : ∀ b entry b', b.Sloped limit → BoundStep limit b entry b' → b'.Sloped limit :=
    fun _ _ _ hb hstep => hb.step hstep
  refine ⟨?_, ?_, ?_⟩
  · intro b₀ bytesAcked after hmem
    obtain ⟨pre, post, hsplit⟩ := List.append_of_mem hmem
    rw [hsplit] at h
    obtain ⟨before, _, hpre, hgrow, _⟩ := h.at_entry
    exact hgrow.growsSafely (hpre.invariant hsloped hb)
  · intro pre phase post hsplit
    rw [hsplit] at h
    obtain ⟨before, after, hpre, henter, hrest⟩ := h.at_entry
    have hbefore := hpre.invariant hsloped hb
    have hafter := hbefore.step henter
    obtain ⟨last, hphase, _⟩ := hrest.split
    have hempty : after.probeUpAcked = 0 := by
      cases henter with
      | enterProbeUp hrefill => exact hbefore.refilled hrefill
    have hbalance := hphase.potential hsloped (fun _ _ _ hb hstep => hstep.added_le hb) hafter
    omega
  · intro pre b₀ bytesAcked after post hsplit
    rw [hsplit] at h
    obtain ⟨before, _, hpre, hgrow, _⟩ := h.at_entry
    have hup : before.phase = .probeUp := by
      cases hgrow with
      | grow hphase => exact hphase
    exact hpre.mem_of_established (fun _ _ _ hstep => hstep.phase_of_phase) hdown hup

/-- In every reachable state of PROBE_UP the slope is at least a segment and its rounds are at most
30, and in every run a PROBE_UP phase adds no more to `inflight_hi_` than was acked by the events
that it counted. -/
theorem run_boundedGrowth (now : Int) (rttStats : RttStats) (initialCwnd maxCwnd : Nat)
    (stream : Nat → Nat) (calls : List Bbr2Call) :
    let s := create now rttStats initialCwnd maxCwnd stream
    ((s.run calls).probeBw.cycle.phase = .probeUp →
      kDefaultTCPMSS ≤ (s.run calls).probeBw.cycle.probeUpBytes ∧
        (s.run calls).probeBw.cycle.probeUpRounds ≤ 30) ∧
      (s.runWrites calls).foldlM BoundWrite.record s.model.inflightHi =
        some (s.run calls).model.inflightHi ∧
      BoundedGrowth (maxCwnd * kDefaultTCPMSS) (s.runWrites calls) := by
  intro s
  have hwrites : s.Writes (maxCwnd * kDefaultTCPMSS) :=
    create_writes now rttStats initialCwnd maxCwnd stream
  have hstart := create_sloped now rttStats initialCwnd maxCwnd stream (maxCwnd * kDefaultTCPMSS)
  have hsteps := run_steps hwrites calls
  have hend := hsteps.invariant (fun _ _ _ hb hstep => UpperBound.Sloped.step hb hstep) hstart
  exact ⟨fun _ => ⟨hend.bytes, hend.rounds⟩, runWrites_record hwrites calls,
    boundedGrowth_of_steps hstart nofun hsteps⟩

end Bbr2Sender

end BbrChrome
