import BbrChrome.Congestion.CubicRun
import BbrChrome.Library.History
import Mathlib.Data.Nat.NthRoot.Defs

/-!
# Loss events of the CUBIC sender

The losses of packets that were already sent at a cutback are one loss event with the loss that
caused it. Only a loss of a packet sent since then, or a timeout in between, opens another one.
-/

namespace BbrChrome

namespace CubicOperation

def sentNumber? : CubicOperation → Option Nat
  | packetSent _ _ packetNumber _ => some packetNumber
  | _ => none

def isTimeout : CubicOperation → Bool
  | retransmissionTimeout _ => true
  | _ => false

end CubicOperation

namespace TcpCubicSenderBytes

abbrev Entry := TcpCubicSenderBytes × CubicOperation

namespace Entry

def OpensLossEvent (e : Entry) : Prop :=
  (e.1.perform e.2).stats.tcpLossEvents ≠ e.1.stats.tcpLossEvents

def IsTimeout (e : Entry) : Prop := e.2.isTimeout = true

/-- The cutback of the entry covers `packetNumber`. -/
def Covers (packetNumber : Nat) (e : Entry) : Prop :=
  e.OpensLossEvent ∧ e.1.largestSentPacketNumber.isInitialized = true ∧
    e.1.largestSentPacketNumber.atLeast packetNumber = true

end Entry

def sentNumbers (history : List Entry) : List Nat :=
  history.filterMap fun e => e.2.sentNumber?

variable {s s' : TcpCubicSenderBytes} {history : List Entry} {operation : CubicOperation}

theorem sentNumbers_append (history late : List Entry) :
    sentNumbers (history ++ late) = sentNumbers history ++ sentNumbers late :=
  List.filterMap_append

theorem sentNumbers_concat_of_none (h : operation.sentNumber? = none) :
    sentNumbers (history ++ [(s, operation)]) = sentNumbers history := by
  rw [sentNumbers_append]
  simp [sentNumbers, h]

/-! ## What an operation does about loss events -/

def lossFields (s : TcpCubicSenderBytes) : QuicPacketNumber × QuicPacketNumber × Nat × Bool :=
  (s.largestSentPacketNumber, s.largestSentAtLastCutback, s.stats.tcpLossEvents,
    s.slowStartLargeReduction)

theorem lossFields_maybeExitSlowStart (rttStats : RttStats) (rttUpdated : Bool) :
    (s.maybeExitSlowStart rttStats rttUpdated).lossFields = s.lossFields := by
  rcases maybeExitSlowStart_cases s rttStats rttUpdated with heq | ⟨_, _, heq | heq⟩
  · rw [heq]
  · rw [heq]
    rfl
  · rw [heq]
    rfl

theorem lossFields_onRepeatedLoss (hlarge : s.slowStartLargeReduction = false) (lostBytes : Nat) :
    (s.onRepeatedLoss lostBytes).lossFields = s.lossFields := by
  unfold onRepeatedLoss
  dsimp only
  split
  · rw [if_neg (by simp [hlarge])]
    rfl
  · rfl

theorem lossFields_maybeIncreaseCwnd (rttStats : RttStats) (ackedBytes priorInFlight : Nat)
    (eventTime : Int) :
    (s.maybeIncreaseCwnd rttStats ackedBytes priorInFlight eventTime).lossFields =
      s.lossFields := by
  unfold maybeIncreaseCwnd
  split
  · rfl
  split
  · rfl
  split
  · rfl
  split
  · dsimp only
    split
    · rfl
    · rfl
  · rfl

theorem lossFields_onPacketAcked (rttStats : RttStats)
    (ackedPacketNumber ackedBytes priorInFlight : Nat) (eventTime : Int) :
    (s.onPacketAcked rttStats ackedPacketNumber ackedBytes priorInFlight eventTime).lossFields =
      s.lossFields := by
  have hgrows := lossFields_maybeIncreaseCwnd (s := s.updateLargestAcked ackedPacketNumber)
    rttStats ackedBytes priorInFlight eventTime
  unfold onPacketAcked
  dsimp only
  split
  · split <;> rfl
  · split
    · exact hgrows
    · exact hgrows

theorem lossFields_reduceWindow : s.reduceWindow.lossFields = s.lossFields := by
  unfold reduceWindow
  split
  · rfl
  split
  · rfl
  · rfl

theorem lossFields_cutBack (priorInFlight : Nat) :
    (s.cutBack priorInFlight).lossFields =
      (s.largestSentPacketNumber, s.largestSentPacketNumber, s.stats.tcpLossEvents + 1,
        s.slowStartLargeReduction) := by
  have hreduced := lossFields_reduceWindow (s := s.openLossEvent priorInFlight)
  unfold cutBack
  generalize (s.openLossEvent priorInFlight).reduceWindow = t at hreduced ⊢
  simp only [lossFields, Prod.mk.injEq] at hreduced
  obtain ⟨hsent, _, hevents, hlarge⟩ := hreduced
  simp only [lossFields, hsent, hevents, hlarge]
  rfl

/-- What an operation does about loss events. -/
inductive LossMove (s s' : TcpCubicSenderBytes) : CubicOperation → Prop
  | other {operation : CubicOperation} (hsent : operation.sentNumber? = none)
      (htimeout : operation.isTimeout = false) (hsame : s'.lossFields = s.lossFields) :
      LossMove s s' operation
  | send {operation : CubicOperation} (packetNumber : Nat)
      (hsent : operation.sentNumber? = some packetNumber) (htimeout : operation.isTimeout = false)
      (hfields : s'.lossFields = (.number packetNumber, s.lossFields.2)) : LossMove s s' operation
  | opens (packetNumber lostBytes priorInFlight : Nat)
      (hnew : s.isSameLossEvent packetNumber = false)
      (hfields : s'.lossFields = (s.largestSentPacketNumber, s.largestSentPacketNumber,
        s.stats.tcpLossEvents + 1, s.slowStartLargeReduction)) :
      LossMove s s' (.packetLost packetNumber lostBytes priorInFlight)
  | timeout (packetsRetransmitted : Bool)
      (hfields : s'.lossFields = (s.largestSentPacketNumber, .uninitialized,
        s.stats.tcpLossEvents, s.slowStartLargeReduction)) :
      LossMove s s' (.retransmissionTimeout packetsRetransmitted)

theorem perform_lossMove (hlarge : s.slowStartLargeReduction = false)
    (operation : CubicOperation) : LossMove s (s.perform operation) operation := by
  cases operation with
  | exitCheck => exact .other rfl rfl (lossFields_maybeExitSlowStart _ _)
  | packetAcked => exact .other rfl rfl (lossFields_onPacketAcked _ _ _ _ _)
  | packetSent sentTime bytesInFlight packetNumber bytes => exact .send packetNumber rfl rfl rfl
  | retransmissionTimeout packetsRetransmitted =>
      refine .timeout packetsRetransmitted ?_
      cases packetsRetransmitted with
      | false => rfl
      | true => rfl
  | packetLost packetNumber lostBytes priorInFlight =>
      cases hsame : s.isSameLossEvent packetNumber with
      | true =>
          have heq : s.perform (.packetLost packetNumber lostBytes priorInFlight) =
              s.onRepeatedLoss lostBytes := if_pos hsame
          rw [heq]
          exact .other rfl rfl (lossFields_onRepeatedLoss hlarge lostBytes)
      | false =>
          have heq : s.perform (.packetLost packetNumber lostBytes priorInFlight) =
              s.cutBack priorInFlight := if_neg (by rw [hsame]; exact Bool.false_ne_true)
          rw [heq]
          exact .opens packetNumber lostBytes priorInFlight hsame (lossFields_cutBack _)

/-! ## The record -/

/-- What the state says about the record, for packets sent in increasing order. -/
structure CutbackKnown (s : TcpCubicSenderBytes) (history : List Entry) : Prop where
  large : s.slowStartLargeReduction = false
  lastSent : ∀ n, (s.largestSentPacketNumber.isInitialized = true ∧
    s.largestSentPacketNumber.atLeast n = true) ↔ ∃ m ∈ sentNumbers history, n ≤ m
  sameLossEvent : ∀ n, s.isSameLossEvent n = true ↔
    History.SinceLast (Entry.Covers n) Entry.IsTimeout history
  sentBefore : ∀ n, s.isSameLossEvent n = true → ∃ m ∈ sentNumbers history, n ≤ m

theorem isSameLossEvent_of_fields (h : s'.largestSentAtLastCutback = s.largestSentAtLastCutback)
    (n : Nat) : s'.isSameLossEvent n = s.isSameLossEvent n := by
  unfold isSameLossEvent
  rw [h]

theorem Entry.not_covers {operation : CubicOperation}
    (h : (s.perform operation).stats.tcpLossEvents = s.stats.tcpLossEvents) (n : Nat) :
    ¬ Entry.Covers n (s, operation) := fun hcovers => hcovers.1 h

theorem CutbackKnown.other (h : s.CutbackKnown history) {operation : CubicOperation}
    (hsent : operation.sentNumber? = none) (htimeout : operation.isTimeout = false)
    (hsame : (s.perform operation).lossFields = s.lossFields) :
    (s.perform operation).CutbackKnown (history ++ [(s, operation)]) := by
  simp only [lossFields, Prod.mk.injEq] at hsame
  obtain ⟨hlargest, hcutback, hevents, hlarge⟩ := hsame
  refine ⟨hlarge.trans h.large, ?_, ?_, ?_⟩
  · rw [hlargest, sentNumbers_concat_of_none hsent]
    exact h.lastSent
  · intro n
    rw [isSameLossEvent_of_fields hcutback, h.sameLossEvent, History.sinceLast_concat]
    simp [Entry.not_covers hevents, Entry.IsTimeout, htimeout]
  · intro n hn
    rw [sentNumbers_concat_of_none hsent]
    exact h.sentBefore n (isSameLossEvent_of_fields hcutback n ▸ hn)

theorem CutbackKnown.send (h : s.CutbackKnown history) {operation : CubicOperation}
    {packetNumber : Nat} (hsent : operation.sentNumber? = some packetNumber)
    (htimeout : operation.isTimeout = false)
    (hfields : (s.perform operation).lossFields = (.number packetNumber, s.lossFields.2))
    (hsends : ∀ m ∈ sentNumbers history, m < packetNumber) :
    (s.perform operation).CutbackKnown (history ++ [(s, operation)]) := by
  simp only [lossFields, Prod.mk.injEq] at hfields
  obtain ⟨hlargest, hcutback, hevents, hlarge⟩ := hfields
  have hnumbers : sentNumbers (history ++ [(s, operation)]) =
      sentNumbers history ++ [packetNumber] := by
    rw [sentNumbers_append]
    simp [sentNumbers, hsent]
  refine ⟨hlarge.trans h.large, fun n => ?_, ?_, ?_⟩
  · rw [hlargest, hnumbers]
    constructor
    · rintro ⟨_, hle⟩
      exact ⟨packetNumber, by simp, by simpa using hle⟩
    · rintro ⟨m, hm, hle⟩
      refine ⟨rfl, ?_⟩
      rcases List.mem_append.mp hm with hm | hm
      · have := hsends m hm
        simp only [QuicPacketNumber.atLeast_number, decide_eq_true_eq]
        omega
      · simpa [List.mem_singleton.mp hm] using hle
  · intro n
    rw [isSameLossEvent_of_fields hcutback, h.sameLossEvent, History.sinceLast_concat]
    simp [Entry.not_covers hevents, Entry.IsTimeout, htimeout]
  · intro n hn
    obtain ⟨m, hm, hle⟩ := h.sentBefore n (isSameLossEvent_of_fields hcutback n ▸ hn)
    exact ⟨m, by rw [hnumbers]; exact List.mem_append_left _ hm, hle⟩

theorem CutbackKnown.opens (h : s.CutbackKnown history) {operation : CubicOperation}
    (hsent : operation.sentNumber? = none)
    (hfields : (s.perform operation).lossFields = (s.largestSentPacketNumber,
      s.largestSentPacketNumber, s.stats.tcpLossEvents + 1, s.slowStartLargeReduction)) :
    (s.perform operation).CutbackKnown (history ++ [(s, operation)]) := by
  simp only [lossFields, Prod.mk.injEq] at hfields
  obtain ⟨hlargest, hcutback, hevents, hlarge⟩ := hfields
  have hopens : Entry.OpensLossEvent (s, operation) := by
    rw [Entry.OpensLossEvent, hevents]
    exact Nat.succ_ne_self _
  have hcovered : ∀ n, (s.perform operation).isSameLossEvent n = true ↔
      s.largestSentPacketNumber.isInitialized = true ∧
        s.largestSentPacketNumber.atLeast n = true := by
    intro n
    rw [isSameLossEvent, hcutback, Bool.and_eq_true]
  refine ⟨hlarge.trans h.large, ?_, fun n => ?_, fun n hn => ?_⟩
  · rw [hlargest, sentNumbers_concat_of_none hsent]
    exact h.lastSent
  · rw [History.sinceLast_concat, hcovered]
    constructor
    · exact fun hlast => .inl ⟨hopens, hlast⟩
    · rintro (⟨_, hlast⟩ | ⟨hbefore, _⟩)
      · exact hlast
      · -- A cutback before covers no more than what was sent up to now.
        exact (h.lastSent n).mpr (h.sentBefore n ((h.sameLossEvent n).mpr hbefore))
  · rw [sentNumbers_concat_of_none hsent]
    exact (h.lastSent n).mp ((hcovered n).mp hn)

theorem CutbackKnown.timeout (h : s.CutbackKnown history) {operation : CubicOperation}
    (hsent : operation.sentNumber? = none) (htimeout : operation.isTimeout = true)
    (hfields : (s.perform operation).lossFields = (s.largestSentPacketNumber, .uninitialized,
      s.stats.tcpLossEvents, s.slowStartLargeReduction)) :
    (s.perform operation).CutbackKnown (history ++ [(s, operation)]) := by
  simp only [lossFields, Prod.mk.injEq] at hfields
  obtain ⟨hlargest, hcutback, hevents, hlarge⟩ := hfields
  have hcleared : ∀ n, (s.perform operation).isSameLossEvent n = false := by
    intro n
    rw [isSameLossEvent, hcutback]
    rfl
  refine ⟨hlarge.trans h.large, ?_, fun n => ?_, fun n hn => ?_⟩
  · rw [hlargest, sentNumbers_concat_of_none hsent]
    exact h.lastSent
  · rw [hcleared, History.sinceLast_concat]
    simp [Entry.not_covers hevents, Entry.IsTimeout, htimeout]
  · rw [hcleared] at hn
    cases hn

theorem CutbackKnown.perform (h : s.CutbackKnown history) (operation : CubicOperation)
    (hsends : ∀ n, operation.sentNumber? = some n → ∀ m ∈ sentNumbers history, m < n) :
    (s.perform operation).CutbackKnown (history ++ [(s, operation)]) := by
  cases perform_lossMove h.large operation with
  | other hsent htimeout hsame => exact h.other hsent htimeout hsame
  | send packetNumber hsent htimeout hfields =>
      exact h.send hsent htimeout hfields (hsends packetNumber hsent)
  | opens packetNumber lostBytes priorInFlight hnew hfields => exact h.opens rfl hfields
  | timeout packetsRetransmitted hfields => exact h.timeout rfl rfl hfields

end TcpCubicSenderBytes

end BbrChrome
