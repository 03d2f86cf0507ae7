import BbrChrome.Congestion.TcpCubicSenderBytes
import BbrChrome.Library.History

/-!
# What the hybrid slow start answers

Runs of `HybridSlowStart`, with arbitrary arguments. A delay increase that was found stays found
up to the next `Restart`, and from then on the answer no longer looks at the window.
-/

namespace BbrChrome

inductive HystartCall
  | packetSent (packetNumber : Nat)
  | packetAcked (ackedPacketNumber : Nat)
  | restart
  | shouldExitSlowStart (latestRtt minRtt : Int) (congestionWindow : Nat)
deriving DecidableEq, Repr

namespace HybridSlowStart

def call (h : HybridSlowStart) : HystartCall → HybridSlowStart
  | .packetSent packetNumber => h.onPacketSent packetNumber
  | .packetAcked ackedPacketNumber => h.onPacketAcked ackedPacketNumber
  | .restart => h.restart
  | .shouldExitSlowStart latestRtt minRtt congestionWindow =>
      (h.shouldExitSlowStart latestRtt minRtt congestionWindow).1

def run (h : HybridSlowStart) (calls : List HystartCall) : HybridSlowStart := calls.foldl call h

def trace (calls : List HystartCall) : List (HybridSlowStart × HystartCall) :=
  History.trace call {} calls

/-- An eighth of the minimum, within 4 ms and 16 ms. -/
def minRttIncreaseThreshold (minRtt : Int) : Int :=
  max (min (Time.shiftRight minRtt kHybridStartDelayFactorExp) kHybridStartDelayMaxThresholdUs)
    kHybridStartDelayMinThresholdUs

/-- The eight samples of the round are in, and the least of them is above the threshold. -/
def DelayIncreased (h : HybridSlowStart) (minRtt : Int) : Prop :=
  h.rttSampleCount = kHybridStartMinSamples ∧
    minRtt + minRttIncreaseThreshold minRtt < h.currentMinRtt

/-- The call takes the eighth sample of a round and finds a delay increase. -/
def FindsDelay : HybridSlowStart × HystartCall → Prop
  | (h, .shouldExitSlowStart latestRtt minRtt congestionWindow) =>
      h.hystartFound = .notFound ∧
        (h.shouldExitSlowStart latestRtt minRtt congestionWindow).1.DelayIncreased minRtt
  | _ => False

def IsRestart (entry : HybridSlowStart × HystartCall) : Prop := entry.2 = .restart

def DelayFound (history : List (HybridSlowStart × HystartCall)) : Prop :=
  History.SinceLast FindsDelay IsRestart history

/-- The slow start is left at a window of at least 16 segments only, and for a delay increase. -/
def RespectsFloor (calls : List HystartCall) : Prop :=
  ∀ before after h latestRtt minRtt congestionWindow,
    trace calls =
        before ++ (h, .shouldExitSlowStart latestRtt minRtt congestionWindow) :: after →
      (h.shouldExitSlowStart latestRtt minRtt congestionWindow).2 = true →
        kHybridStartLowWindow ≤ congestionWindow ∧
          DelayFound
            (before ++ [(h, .shouldExitSlowStart latestRtt minRtt congestionWindow)])

/-- No call with a window below the floor meets a state in which a delay is already found. -/
def AskedAboveFloor (calls : List HystartCall) : Prop :=
  ∀ h latestRtt minRtt congestionWindow,
    (h, HystartCall.shouldExitSlowStart latestRtt minRtt congestionWindow) ∈ trace calls →
      h.hystartFound ≠ .notFound → kHybridStartLowWindow ≤ congestionWindow

variable {h : HybridSlowStart} {latestRtt minRtt : Int} {congestionWindow : Nat}

/-! ## One call -/

theorem opened_hystartFound :
    (if h.started then h else h.startReceiveRound h.lastSentPacketNumber).hystartFound =
      h.hystartFound := by
  split <;> rfl

theorem verdict_iff {p : Prop} [Decidable p] :
    (if p then HystartState.delay else .notFound) ≠ .notFound ↔ p := by
  split <;> simp [*]

theorem shouldExitSlowStart_of_found (hfound : h.hystartFound ≠ .notFound) :
    (h.shouldExitSlowStart latestRtt minRtt congestionWindow).2 = true ∧
      (h.shouldExitSlowStart latestRtt minRtt congestionWindow).1.hystartFound =
        h.hystartFound := by
  have hopened := opened_hystartFound (h := h)
  unfold shouldExitSlowStart
  generalize (if h.started then h else h.startReceiveRound h.lastSentPacketNumber) = opened at *
  dsimp only
  rw [if_pos (hopened ▸ hfound)]
  exact ⟨rfl, hopened⟩

theorem shouldExitSlowStart_of_notFound (hnone : h.hystartFound = .notFound) :
    ((h.shouldExitSlowStart latestRtt minRtt congestionWindow).1.hystartFound ≠ .notFound ↔
        FindsDelay (h, .shouldExitSlowStart latestRtt minRtt congestionWindow)) ∧
      ((h.shouldExitSlowStart latestRtt minRtt congestionWindow).2 = true ↔
        kHybridStartLowWindow ≤ congestionWindow ∧
          FindsDelay (h, .shouldExitSlowStart latestRtt minRtt congestionWindow)) := by
  have hopened := opened_hystartFound (h := h)
  simp only [FindsDelay, DelayIncreased, minRttIncreaseThreshold, hnone, true_and]
  unfold shouldExitSlowStart
  generalize (if h.started then h else h.startReceiveRound h.lastSentPacketNumber) = opened at *
  have hclosed : ¬ opened.hystartFound ≠ .notFound := by simp [hopened, hnone]
  dsimp only
  rw [if_neg hclosed]
  dsimp only
  rw [hopened, hnone]
  constructor
  · exact verdict_iff
  · rw [Bool.and_eq_true, decide_eq_true_eq, decide_eq_true_eq, verdict_iff]

theorem onPacketAcked_hystartFound (ackedPacketNumber : Nat) :
    (h.onPacketAcked ackedPacketNumber).hystartFound = h.hystartFound := by
  unfold onPacketAcked
  split <;> rfl

theorem call_hystartFound (c : HystartCall) :
    (h.call c).hystartFound ≠ .notFound ↔
      FindsDelay (h, c) ∨ h.hystartFound ≠ .notFound ∧ ¬ IsRestart (h, c) := by
  cases c with
  | packetSent => simp [call, onPacketSent, FindsDelay, IsRestart]
  | packetAcked => simp [call, onPacketAcked_hystartFound, FindsDelay, IsRestart]
  | restart => simp [call, HybridSlowStart.restart, FindsDelay, IsRestart]
  | shouldExitSlowStart latestRtt minRtt congestionWindow =>
      by_cases hfound : h.hystartFound = .notFound
      · simpa [hfound, call] using (shouldExitSlowStart_of_notFound hfound).1
      · have hkept : (h.shouldExitSlowStart latestRtt minRtt congestionWindow).1.hystartFound =
            h.hystartFound := (shouldExitSlowStart_of_found hfound).2
        simp [call, hkept, hfound, IsRestart]

/-! ## Runs -/

/-- The verdict stands for a delay increase found since the last `Restart`. -/
theorem run_hystartFound (calls : List HystartCall) :
    (run {} calls).hystartFound ≠ .notFound ↔ DelayFound (trace calls) := by
  have hstep : ∀ h history c, (h.hystartFound ≠ .notFound ↔ DelayFound history) →
      ((call h c).hystartFound ≠ .notFound ↔ DelayFound (history ++ [(h, c)])) := by
    intro h history c hinv
    rw [call_hystartFound, hinv]
    exact History.sinceLast_concat.symm
  have hnil : ({} : HybridSlowStart).hystartFound ≠ .notFound ↔ DelayFound [] := by
    simp [DelayFound, History.not_sinceLast_nil]
  exact History.trace_invariant hstep hnil calls

theorem trace_hystartFound {calls : List HystartCall} {c : HystartCall}
    {before after : List (HybridSlowStart × HystartCall)}
    (hsplit : trace calls = before ++ (h, c) :: after) :
    h.hystartFound ≠ .notFound ↔ DelayFound before := by
  obtain ⟨js, ks, -, hbefore, hstate, -⟩ := History.trace_split hsplit
  rw [hbefore, show h = run {} js from hstate]
  exact run_hystartFound js

/-- The second half of the law holds without a condition. -/
theorem delayFound_of_exit {calls : List HystartCall}
    {before after : List (HybridSlowStart × HystartCall)}
    (hsplit : trace calls =
      before ++ (h, .shouldExitSlowStart latestRtt minRtt congestionWindow) :: after)
    (hexit : (h.shouldExitSlowStart latestRtt minRtt congestionWindow).2 = true) :
    DelayFound (before ++ [(h, .shouldExitSlowStart latestRtt minRtt congestionWindow)]) := by
  rw [DelayFound, History.sinceLast_concat]
  by_cases hfound : h.hystartFound = .notFound
  · exact .inl ((shouldExitSlowStart_of_notFound hfound).2.mp hexit).2
  · exact .inr ⟨(trace_hystartFound hsplit).mp hfound, by simp [IsRestart]⟩

/-- The law holds exactly when nobody asks below the floor after a delay is found. -/
theorem respectsFloor_iff (calls : List HystartCall) :
    RespectsFloor calls ↔ AskedAboveFloor calls := by
  constructor
  · intro hlaw h latestRtt minRtt congestionWindow hmem hfound
    obtain ⟨before, after, hsplit⟩ := List.append_of_mem hmem
    exact (hlaw before after h latestRtt minRtt congestionWindow hsplit
      (shouldExitSlowStart_of_found hfound).1).1
  · intro hasked before after h latestRtt minRtt congestionWindow hsplit hexit
    constructor
    · by_cases hfound : h.hystartFound = .notFound
      · exact ((shouldExitSlowStart_of_notFound hfound).2.mp hexit).1
      · exact hasked h latestRtt minRtt congestionWindow (by rw [hsplit]; simp) hfound
    · exact delayFound_of_exit hsplit hexit

/-- Nine samples of 20 ms against a minimum of 10 ms, at a window of ten segments. -/
def nineSamples : List HystartCall := List.replicate 9 (.shouldExitSlowStart 20000 10000 10)

/-- The eighth call finds the delay and says no, the ninth one says yes. -/
theorem ninth_sample_exits : ¬ RespectsFloor nineSamples := by
  intro hlaw
  have hfloor := (hlaw ((trace nineSamples).take 8) []
    (run {} (nineSamples.take 8)) 20000 10000 10 (by decide +kernel) (by decide +kernel)).1
  exact absurd hfloor (by decide)

end HybridSlowStart

end BbrChrome
