import BbrChrome.Congestion.Bbr2MachineLaws
import BbrChrome.Congestion.Bbr2Refinement

/-!
# Runs of the BBRv2 sender

A run is any sequence of calls of `OnPacketSent` and `OnCongestionEvent`, with arbitrary
arguments. What every move of the mode machine preserves holds after every run.
-/

namespace BbrChrome

inductive Bbr2Call
  | packetSent (sentTime : Int) (bytesInFlight packetNumber bytes : Nat)
  | congestionEvent (leastUnacked priorInFlight : Nat) (eventTime : Int)
      (ackedPackets : List AckedPacket) (lostPackets : List LostPacket)
deriving DecidableEq, Repr

namespace Bbr2Call

def time : Bbr2Call → Int
  | packetSent sentTime _ _ _ => sentTime
  | congestionEvent _ _ eventTime _ _ => eventTime

def eventTime? : Bbr2Call → Option Int
  | packetSent _ _ _ _ => none
  | congestionEvent _ _ eventTime _ _ => some eventTime

end Bbr2Call

namespace Bbr2Sender

def call (s : Bbr2Sender) : Bbr2Call → Bbr2Sender
  | .packetSent sentTime bytesInFlight packetNumber bytes =>
      s.onPacketSent sentTime bytesInFlight packetNumber bytes
  | .congestionEvent leastUnacked priorInFlight eventTime ackedPackets lostPackets =>
      s.onCongestionEvent leastUnacked priorInFlight eventTime ackedPackets lostPackets

/-- The calls of interest that are made during a call. -/
def callLog (s : Bbr2Sender) : Bbr2Call → List ModeCall
  | .packetSent sentTime bytesInFlight _ bytes => s.onPacketSentCalls sentTime bytesInFlight bytes
  | .congestionEvent _ priorInFlight eventTime ackedPackets lostPackets =>
      s.onCongestionEventCalls priorInFlight eventTime ackedPackets lostPackets

def run (s : Bbr2Sender) (calls : List Bbr2Call) : Bbr2Sender := calls.foldl call s

def runLog (s : Bbr2Sender) : List Bbr2Call → List ModeCall
  | [] => []
  | c :: calls => s.callLog c ++ (s.call c).runLog calls

@[simp] theorem run_nil (s : Bbr2Sender) : s.run [] = s := rfl

@[simp] theorem run_cons (s : Bbr2Sender) (c : Bbr2Call) (calls : List Bbr2Call) :
    s.run (c :: calls) = (s.call c).run calls := rfl

theorem run_append (s : Bbr2Sender) (calls calls' : List Bbr2Call) :
    s.run (calls ++ calls') = (s.run calls).run calls' := List.foldl_append

variable {s : Bbr2Sender}

def roundTrips (count bytes : Nat) : List Bbr2Call :=
  (List.range count).flatMap fun (i : Nat) =>
    [.packetSent (2000 * i + 1) 0 (i + 1) bytes,
      .congestionEvent (i + 1) bytes (2000 * i + 1001) [⟨i + 1, bytes, 2000 * i + 1001⟩] []]

/-! ## Induction over runs -/

theorem run_invariant {Inv : Bbr2Sender → Prop} (hcall : ∀ s c, Inv s → Inv (s.call c)) (h : Inv s)
    (calls : List Bbr2Call) : Inv (s.run calls) := by
  induction calls generalizing s with
  | nil => exact h
  | cons c calls ih => exact ih (hcall s c h)

/-- An invariant that relates the state to the log and to the last reading of a clock, which
does not run backwards. -/
theorem run_invariant_timed {clock : Bbr2Call → Option Int}
    {Inv : Int → Bbr2Sender → List ModeCall → Prop}
    (hcall : ∀ now s log c, Inv now s log → (∀ t, clock c = some t → now ≤ t) →
      Inv ((clock c).getD now) (s.call c) (log ++ s.callLog c))
    {now : Int} {log : List ModeCall} (h : Inv now s log) {calls : List Bbr2Call}
    (hsorted : (now :: calls.filterMap clock).Pairwise (· ≤ ·)) :
    Inv ((calls.filterMap clock).getLastD now) (s.run calls) (log ++ s.runLog calls) := by
  induction calls generalizing s now log with
  | nil => simpa [runLog] using h
  | cons c calls ih =>
      rw [List.pairwise_cons] at hsorted
      have hnow : ∀ t, clock c = some t → now ≤ t := by
        intro t ht
        exact hsorted.1 t (by simp [ht])
      have hnext := hcall now s log c h hnow
      cases hclock : clock c with
      | none =>
          simp only [List.filterMap_cons, hclock, Option.getD_none] at hsorted hnext ⊢
          have hlast := ih hnext (List.pairwise_cons.mpr hsorted)
          rw [List.append_assoc] at hlast
          exact hlast
      | some t =>
          simp only [List.filterMap_cons, hclock, Option.getD_some] at hsorted hnext ⊢
          have hlast := ih hnext hsorted.2
          rw [List.append_assoc] at hlast
          rw [List.getLastD_cons]
          exact hlast

theorem run_invariant_logged {Inv : Bbr2Sender → List ModeCall → Prop}
    (hcall : ∀ s log c, Inv s log → Inv (s.call c) (log ++ s.callLog c)) {log : List ModeCall}
    (h : Inv s log) (calls : List Bbr2Call) : Inv (s.run calls) (log ++ s.runLog calls) := by
  exact @run_invariant_timed s (fun _ => none) (fun _ => Inv)
    (fun _ s log c h _ => hcall s log c h) 0 log h calls (by simp)

theorem exists_start {times : List Int} (hsorted : times.Pairwise (· ≤ ·)) :
    ∃ now, (now :: times).Pairwise (· ≤ ·) := by
  cases times with
  | nil => exact ⟨0, List.pairwise_singleton _ _⟩
  | cons t times =>
      refine ⟨t, List.pairwise_cons.mpr ⟨?_, hsorted⟩⟩
      intro t' hmem
      rcases List.mem_cons.mp hmem with rfl | hmem
      · exact le_refl _
      · exact (List.pairwise_cons.mp hsorted).1 t' hmem

theorem getLastD_le {now t : Int} {times : List Int}
    (hsorted : (now :: (times ++ [t])).Pairwise (· ≤ ·)) : times.getLastD now ≤ t := by
  rw [← List.cons_append, List.pairwise_append] at hsorted
  exact hsorted.2.2 _ List.getLastD_mem_cons t (List.mem_singleton_self t)

/-! ## Runs of the machine -/

def HasDefaults (s : Bbr2Sender) : Prop := s.model.params.IsDefault

theorem HasDefaults.avoids (h : s.HasDefaults) :
    s.control.params.avoidUnnecessaryProbeRtt = true := by
  obtain ⟨cwndLimits, hparams⟩ := h
  exact congrArg Bbr2Params.avoidUnnecessaryProbeRtt hparams

theorem HasDefaults.send_move (h : s.HasDefaults) (sentTime : Int)
    (bytesInFlight packetNumber bytes : Nat) :
    SendMove sentTime bytesInFlight s.control (s.onPacketSentCalls sentTime bytesInFlight bytes)
      (s.onPacketSent sentTime bytesInFlight packetNumber bytes).control :=
  s.onPacketSent_move h.bwLoMode sentTime bytesInFlight packetNumber bytes

theorem HasDefaults.call_params (h : s.HasDefaults) (c : Bbr2Call) :
    (s.call c).model.params = s.model.params := by
  cases c with
  | packetSent sentTime bytesInFlight packetNumber bytes =>
      exact (h.send_move sentTime bytesInFlight packetNumber bytes).params_eq
  | congestionEvent leastUnacked priorInFlight eventTime ackedPackets lostPackets =>
      exact (onCongestionEvent_move h leastUnacked priorInFlight eventTime ackedPackets
        lostPackets).params_eq

theorem HasDefaults.call (h : s.HasDefaults) (c : Bbr2Call) : (s.call c).HasDefaults := by
  unfold HasDefaults
  rw [h.call_params c]
  exact h

theorem HasDefaults.sampled (hs : s.HasDefaults) (priorInFlight : Nat) (eventTime : Int)
    (ackedPackets : List AckedPacket) (lostPackets : List LostPacket) :
    (s.sampled priorInFlight eventTime ackedPackets lostPackets).HasDefaults := by
  have hsampling := s.sampled_move hs.bwLoMode priorInFlight eventTime ackedPackets lostPackets
  have hkept : (s.sampled priorInFlight eventTime ackedPackets lostPackets).model.params =
      s.model.params := hsampling.params_eq
  unfold HasDefaults
  rw [hkept]
  exact hs

theorem create_hasDefaults (now : Int) (rttStats : RttStats) (initialCwnd maxCwnd : Nat)
    (stream : Nat → Nat) : (create now rttStats initialCwnd maxCwnd stream).HasDefaults :=
  ⟨_, rfl⟩

/-- What the moves of a sender with default parameters preserve is preserved by every call. -/
theorem HasDefaults.control_call {Inv : Control → Prop}
    (hsend : ∀ now bytesInFlight c calls c', c.params.IsDefault → Inv c →
      SendMove now bytesInFlight c calls c' → Inv c')
    (hevent : ∀ event c calls c', c.params.IsDefault → Inv c → EventMove event c calls c' → Inv c')
    (hs : s.HasDefaults) (h : Inv s.control) (c : Bbr2Call) : Inv (s.call c).control := by
  have hparams : s.control.params.IsDefault := hs
  cases c with
  | packetSent => exact hsend _ _ _ _ _ hparams h (hs.send_move _ _ _ _)
  | congestionEvent => exact hevent _ _ _ _ hparams h (onCongestionEvent_move hs _ _ _ _ _)

theorem run_control {Inv : Control → Prop}
    (hsend : ∀ now bytesInFlight c calls c', c.params.IsDefault → Inv c →
      SendMove now bytesInFlight c calls c' → Inv c')
    (hevent : ∀ event c calls c', c.params.IsDefault → Inv c → EventMove event c calls c' → Inv c')
    (hs : s.HasDefaults) (h : Inv s.control) (calls : List Bbr2Call) :
    (s.run calls).HasDefaults ∧ Inv (s.run calls).control := by
  have hcall : ∀ (s : Bbr2Sender) c, s.HasDefaults ∧ Inv s.control →
      (s.call c).HasDefaults ∧ Inv (s.call c).control :=
    fun _ c ⟨hs, h⟩ => ⟨hs.call c, hs.control_call hsend hevent h c⟩
  exact run_invariant hcall ⟨hs, h⟩ calls

/-- The log of a call lists what the call does to the mode, the filter and the cycles. -/
theorem HasDefaults.call_logged (h : s.HasDefaults) (c : Bbr2Call) :
    ∃ filter, (filter = s.model.maxBandwidthFilter ∨
        ∃ sample ≤ QuicBandwidth.infinite, filter = s.model.maxBandwidthFilter.update sample) ∧
      Logged { s.control with maxBandwidthFilter := filter } (s.callLog c) (s.call c).control := by
  cases c with
  | packetSent => exact ⟨_, .inl rfl, (h.send_move _ _ _ _).logged⟩
  | congestionEvent => exact (onCongestionEvent_move h _ _ _ _ _).logged

theorem create_placed (now : Int) (rttStats : RttStats) (initialCwnd maxCwnd : Nat)
    (stream : Nat → Nat) : (create now rttStats initialCwnd maxCwnd stream).control.Placed :=
  ⟨fun _ => rfl, nofun, nofun⟩

/-- The maximum of the filter is a bandwidth that the sampler can measure. -/
def Measured (c : Control) : Prop := c.maxBandwidthFilter.get ≤ .infinite

theorem get_advance_le (filter : Bbr2MaxBandwidthFilter) (n : Nat) :
    (Bbr2MaxBandwidthFilter.advance^[n] filter).get ≤ filter.get := by
  have hstep : ∀ filter : Bbr2MaxBandwidthFilter, filter.advance.get ≤ filter.get := by
    intro filter
    unfold Bbr2MaxBandwidthFilter.advance
    split
    · exact le_refl _
    · exact max_le (le_max_right _ _) (Nat.zero_le _)
  induction n generalizing filter with
  | zero => exact le_refl _
  | succ n ih => exact (ih filter.advance).trans (hstep filter)

theorem Measured.call (h : Measured s.control) (hs : s.HasDefaults) (c : Bbr2Call) :
    Measured (s.call c).control := by
  obtain ⟨filter, hfilter, hlogged⟩ := hs.call_logged c
  have hsampled : filter.get ≤ .infinite := by
    rcases hfilter with rfl | ⟨sample, hle, rfl⟩
    · exact h
    · have hprevious := (le_max_left _ _).trans h
      have hcurrent := (le_max_right _ _).trans h
      exact max_le hprevious (max_le hle hcurrent)
  unfold Measured
  rw [hlogged.filter]
  exact (get_advance_le _ _).trans hsampled

theorem run_measured (hs : s.HasDefaults) (h : Measured s.control) (calls : List Bbr2Call) :
    Measured (s.run calls).control :=
  (@run_invariant s (fun s => s.HasDefaults ∧ Measured s.control)
    (fun _ c h => ⟨h.1.call c, h.2.call h.1 c⟩) ⟨hs, h⟩ calls).2

/-! ## The window -/

theorem finishCongestionEvent_cwnd_le (leastUnacked : Nat) :
    (s.finishCongestionEvent leastUnacked event).cwnd ≤
      (s.finishCongestionEvent leastUnacked event).model.params.cwndLimits.max := by
  have hparams : (s.finishCongestionEvent leastUnacked event).model.params = s.model.params :=
    (finishCongestionEvent_changes leastUnacked).keeps (·.model.params) rfl
  rw [hparams, finishCongestionEvent_cwnd]
  exact min_le_left _ _

/-- The window does not exceed the largest one that the parameters allow. -/
structure WindowLimited (limit : Nat) (s : Bbr2Sender) : Prop where
  cwnd_le : s.cwnd ≤ limit
  limits : s.model.params.cwndLimits.max = limit

theorem WindowLimited.call {limit : Nat} (h : s.WindowLimited limit) (hs : s.HasDefaults)
    (c : Bbr2Call) : (s.call c).WindowLimited limit := by
  have hparams : (s.call c).model.params = s.model.params := hs.call_params c
  refine ⟨?_, by rw [hparams, h.limits]⟩
  cases c with
  | packetSent sentTime bytesInFlight packetNumber bytes =>
      show (s.onPacketSent sentTime bytesInFlight packetNumber bytes).cwnd ≤ limit
      rw [(onPacketSent_frame sentTime bytesInFlight packetNumber bytes).2.1]
      exact h.cwnd_le
  | congestionEvent =>
      rw [← h.limits, ← hparams]
      exact finishCongestionEvent_cwnd_le _

theorem create_windowLimited (now : Int) (rttStats : RttStats) (initialCwnd maxCwnd : Nat)
    (stream : Nat → Nat) : (create now rttStats initialCwnd maxCwnd stream).WindowLimited
      (maxCwnd * kDefaultTCPMSS) :=
  ⟨min_le_left _ _, rfl⟩

end Bbr2Sender

end BbrChrome
