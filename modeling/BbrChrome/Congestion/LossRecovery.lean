import Mathlib.Data.List.DropRight
import BbrChrome.Congestion.BbrAccounts

/-!
# The loss recovery of BBRv1

`end_recovery_at_` is meant to be the last packet sent when losses were reported last, so that
recovery ends after a round without losses. Only an event with acks moves it.
-/

namespace BbrChrome

inductive BbrCall
  | packetSent (sentTime : Int) (bytesInFlight packetNumber bytes : Nat)
  | congestionEvent (rttStats : RttStats) (map : QuicUnackedPacketMap) (priorInFlight : Nat)
      (eventTime : Int) (ackedPackets : List AckedPacket) (lostPackets : List LostPacket)

theorem forall_split_iff {α : Type} {l : List α} {P : List α → α → Prop} :
    (∀ pre a post, l = pre ++ a :: post → P pre a) ↔
      ∀ i, ∀ h : i < l.length, P (l.take i) l[i] := by
  constructor
  · intro hall i h
    apply hall (l.take i) l[i] (l.drop (i + 1))
    rw [List.getElem_cons_drop, List.take_append_drop]
  · rintro hall pre a post rfl
    simpa using hall pre.length (by simp)

namespace BbrCall

def sentPacket? : BbrCall → Option Nat
  | packetSent _ _ packetNumber _ => some packetNumber
  | congestionEvent .. => none

/-- The event reports a lost packet, with acks or without. -/
def hasLosses : BbrCall → Bool
  | packetSent .. => false
  | congestionEvent _ _ _ _ _ lostPackets => !lostPackets.isEmpty

/-- The packet acked last in the event. -/
def lastAcked? : BbrCall → Option Nat
  | packetSent .. => none
  | congestionEvent _ _ _ _ ackedPackets _ => ackedPackets.getLast?.map (·.packetNumber)

end BbrCall

def sentPackets (calls : List BbrCall) : List Nat := calls.filterMap BbrCall.sentPacket?

/-- The packets sent after the most recent event that reported a lost packet. -/
def sentSinceLoss (calls : List BbrCall) : List Nat :=
  sentPackets (calls.rtakeWhile fun c => !c.hasLosses)

/-- The packets sent before the most recent event that reported a lost packet. -/
def sentBeforeLoss (calls : List BbrCall) : List Nat :=
  sentPackets (calls.rdropWhile fun c => !c.hasLosses)

/-- Packet numbers increase, and the packet acked last in an event was sent before. -/
def Orderly : List Nat → List BbrCall → Prop
  | _, [] => True
  | sent, c :: calls =>
      (∀ n ∈ c.sentPacket?, ∀ m ∈ sent, m < n) ∧ (∀ n ∈ c.lastAcked?, n ∈ sent) ∧
        Orderly (sent ++ c.sentPacket?.toList) calls

instance instDecidableOrderly : ∀ sent calls, Decidable (Orderly sent calls)
  | _, [] => .isTrue trivial
  | sent, c :: calls =>
      have := instDecidableOrderly (sent ++ c.sentPacket?.toList) calls
      inferInstanceAs (Decidable (_ ∧ _ ∧ _))

theorem sentPackets_concat (calls : List BbrCall) (c : BbrCall) :
    sentPackets (calls ++ [c]) = sentPackets calls ++ c.sentPacket?.toList := by
  unfold sentPackets
  rw [List.filterMap_append]
  cases h : c.sentPacket? <;> simp [h]

theorem sentPackets_eq (calls : List BbrCall) :
    sentPackets calls = sentBeforeLoss calls ++ sentSinceLoss calls := by
  unfold sentBeforeLoss sentSinceLoss sentPackets
  rw [← List.filterMap_append, List.rdropWhile_append_rtakeWhile]

theorem sentBeforeLoss_concat (calls : List BbrCall) (c : BbrCall) :
    sentBeforeLoss (calls ++ [c]) =
      if c.hasLosses = true then sentPackets calls else sentBeforeLoss calls := by
  unfold sentBeforeLoss
  rw [List.rdropWhile_concat]
  cases hlost : c.hasLosses with
  | false => rfl
  | true =>
      have hnone : c.sentPacket? = none := by
        cases c with
        | packetSent => cases hlost
        | congestionEvent => rfl
      simp [sentPackets_concat, hnone]

theorem orderly_append {sent : List Nat} {calls calls' : List BbrCall} :
    Orderly sent (calls ++ calls') ↔
      Orderly sent calls ∧ Orderly (sent ++ sentPackets calls) calls' := by
  induction calls generalizing sent with
  | nil => simp [Orderly, sentPackets]
  | cons c calls ih =>
      have hcons : sentPackets (c :: calls) = c.sentPacket?.toList ++ sentPackets calls := by
        unfold sentPackets
        cases h : c.sentPacket? <;> simp [h]
      simp only [List.cons_append, Orderly, ih, hcons, List.append_assoc, and_assoc]

namespace BbrSender

def call (s : BbrSender) : BbrCall → BbrSender
  | .packetSent sentTime bytesInFlight packetNumber bytes =>
      s.onPacketSent sentTime bytesInFlight packetNumber bytes
  | .congestionEvent rttStats map priorInFlight eventTime ackedPackets lostPackets =>
      s.onCongestionEvent rttStats map priorInFlight eventTime ackedPackets lostPackets

def run (s : BbrSender) (calls : List BbrCall) : BbrSender := calls.foldl call s

theorem run_append (s : BbrSender) (calls calls' : List BbrCall) :
    s.run (calls ++ calls') = (s.run calls).run calls' := List.foldl_append

variable {s s' : BbrSender} {c : BbrCall} {calls calls' : List BbrCall}

/-! ## What a call does to the recovery -/

/-- What decides on the end of the recovery. -/
def recovery (s : BbrSender) : RecoveryState × QuicPacketNumber × QuicPacketNumber :=
  (s.recoveryState, s.endRecoveryAt, s.lastSentPacket)

theorem onCongestionEvent_recovery (rttStats : RttStats) (map : QuicUnackedPacketMap)
    (priorInFlight : Nat) (eventTime : Int) (ackedPackets : List AckedPacket)
    (lostPackets : List LostPacket) :
    (s.onCongestionEvent rttStats map priorInFlight eventTime ackedPackets lostPackets).recovery =
        (s.beginAcks ackedPackets !lostPackets.isEmpty).1.recovery ∧
      ((s.beginAcks ackedPackets !lostPackets.isEmpty).1.isAtFullBandwidth = true →
        (s.onCongestionEvent rttStats map priorInFlight eventTime ackedPackets
          lostPackets).isAtFullBandwidth = true) := by
  have hrecovery : ∀ (s : BbrSender) isRoundStart,
      (s.endCongestionEvent map.leastUnacked isRoundStart).recovery = s.recovery :=
    fun _ _ => (endCongestionEvent_changes _ _).keeps recovery rfl
  have hflag : ∀ (s : BbrSender) isRoundStart,
      (s.endCongestionEvent map.leastUnacked isRoundStart).isAtFullBandwidth =
        s.isAtFullBandwidth :=
    fun _ _ => (endCongestionEvent_changes _ _).keeps isAtFullBandwidth rfl
  unfold onCongestionEvent
  dsimp only
  constructor
  · rw [hrecovery]
    exact (reactToSample_changes _ _ _ _ _ _ _ _ _).keeps recovery rfl
  · intro hfull
    rw [hflag]
    exact reactToSample_full _ _ _ _ _ _ _ _ _ hfull

theorem updateRecoveryState_lost (hfull : s.isAtFullBandwidth = true) (n : Nat)
    (isRoundStart : Bool) :
    (s.updateRecoveryState n true isRoundStart).inRecovery = true ∧
      (s.updateRecoveryState n true isRoundStart).endRecoveryAt = s.lastSentPacket := by
  unfold updateRecoveryState moveRecoveryState maybeExitRecovery inRecovery
  cases s.recoveryState <;> cases isRoundStart <;> simp [hfull]

theorem updateRecoveryState_lossless (hfull : s.isAtFullBandwidth = true) (n : Nat)
    (isRoundStart : Bool) :
    (s.updateRecoveryState n false isRoundStart).inRecovery =
        (s.inRecovery && !s.endRecoveryAt.below n) ∧
      (s.updateRecoveryState n false isRoundStart).endRecoveryAt = s.endRecoveryAt := by
  unfold updateRecoveryState moveRecoveryState maybeExitRecovery inRecovery
  cases hstate : s.recoveryState <;> cases isRoundStart <;>
    cases hbelow : s.endRecoveryAt.below n <;> simp [hfull, hstate, hbelow]
  -- GROWTH is within the recovery as CONSERVATION is
  rfl

/-- The call ends the recovery: at full bandwidth, an event without losses whose last acked
packet is behind `end_recovery_at_`. -/
structure Leaves (s : BbrSender) (c : BbrCall) (n : Nat) : Prop where
  full : s.isAtFullBandwidth = true
  inRecovery : s.inRecovery = true
  lossless : c.hasLosses = false
  acked : c.lastAcked? = some n
  behind : s.endRecoveryAt.below n = true

/-- What the calls do to the recovery. -/
inductive RecoveryMove (s s' : BbrSender) (c : BbrCall) : Prop
  | marked (full : s.isAtFullBandwidth = true) (acked : c.lastAcked? ≠ none)
      (lost : c.hasLosses = true) (state : s'.inRecovery = true)
      (mark : s'.endRecoveryAt = s.lastSentPacket)
  | left {n : Nat} (leaves : s.Leaves c n) (state : s'.inRecovery = false)
  | kept (stays : ∀ n, ¬ s.Leaves c n)
      (unmarked : s.isAtFullBandwidth = true → c.lastAcked? ≠ none → c.hasLosses = false)
      (state : s'.inRecovery = s.inRecovery) (mark : s'.endRecoveryAt = s.endRecoveryAt)

theorem RecoveryMove.of_recovery (hmove : RecoveryMove s s' c) {s'' : BbrSender}
    (h : s''.recovery = s'.recovery) : RecoveryMove s s'' c := by
  have hstate : s''.inRecovery = s'.inRecovery := by
    have hfst : s''.recoveryState = s'.recoveryState := congrArg Prod.fst h
    simp [inRecovery, hfst]
  have hmark : s''.endRecoveryAt = s'.endRecoveryAt := congrArg (·.2.1) h
  cases hmove with
  | marked full acked lost state mark =>
      exact .marked full acked lost (hstate.trans state) (hmark.trans mark)
  | left leaves state => exact .left leaves (hstate.trans state)
  | kept stays unmarked state mark =>
      exact .kept stays unmarked (hstate.trans state) (hmark.trans mark)

theorem call_lastSentPacket (c : BbrCall) :
    (s.call c).lastSentPacket = c.sentPacket?.elim s.lastSentPacket .number := by
  cases c with
  | packetSent => rfl
  | congestionEvent rttStats map priorInFlight eventTime ackedPackets lostPackets =>
      have hrecovery := (s.onCongestionEvent_recovery rttStats map priorInFlight eventTime
        ackedPackets lostPackets).1
      have hbegin : (s.beginAcks ackedPackets !lostPackets.isEmpty).1.lastSentPacket =
          s.lastSentPacket := (beginAcks_changes _ _).keeps lastSentPacket rfl
      exact (congrArg (·.2.2) hrecovery).trans hbegin

theorem call_full (hfull : s.isAtFullBandwidth = true) (c : BbrCall) :
    (s.call c).isAtFullBandwidth = true := by
  cases c with
  | packetSent => exact hfull
  | congestionEvent rttStats map priorInFlight eventTime ackedPackets lostPackets =>
      exact (s.onCongestionEvent_recovery rttStats map priorInFlight eventTime ackedPackets
        lostPackets).2 (((beginAcks_changes _ _).keeps isAtFullBandwidth rfl).trans hfull)

theorem updateRoundTripCounter_recovery (s : BbrSender) (n : Nat) :
    (s.updateRoundTripCounter n).1.inRecovery = s.inRecovery ∧
      (s.updateRoundTripCounter n).1.endRecoveryAt = s.endRecoveryAt ∧
      (s.updateRoundTripCounter n).1.lastSentPacket = s.lastSentPacket ∧
      (s.updateRoundTripCounter n).1.isAtFullBandwidth = s.isAtFullBandwidth := by
  have hcounted := @updateRoundTripCounter_changes s n
  exact ⟨hcounted.keeps inRecovery rfl, hcounted.keeps endRecoveryAt rfl,
    hcounted.keeps lastSentPacket rfl, hcounted.keeps isAtFullBandwidth rfl⟩

theorem RecoveryMove.of_counted {n : Nat}
    (hmove : RecoveryMove (s.updateRoundTripCounter n).1 s' c) : RecoveryMove s s' c := by
  obtain ⟨hstate, hmark, hsent, hfull⟩ := s.updateRoundTripCounter_recovery n
  have hleaves : ∀ k, (s.updateRoundTripCounter n).1.Leaves c k ↔ s.Leaves c k := by
    intro k
    constructor
    · intro h
      exact ⟨hfull ▸ h.full, hstate ▸ h.inRecovery, h.lossless, h.acked, hmark ▸ h.behind⟩
    · intro h
      exact ⟨hfull.trans h.full, hstate.trans h.inRecovery, h.lossless, h.acked,
        (congrArg (·.below k) hmark).trans h.behind⟩
  cases hmove with
  | marked full acked lost state mark =>
      exact .marked (hfull ▸ full) acked lost state (mark.trans hsent)
  | left leaves state => exact .left ((hleaves _).mp leaves) state
  | kept stays unmarked state mark =>
      exact .kept (fun k h => stays k ((hleaves k).mpr h))
        (fun full => unmarked (hfull.trans full)) (state.trans hstate) (mark.trans hmark)

theorem updateRecoveryState_move {n : Nat} (hacked : c.lastAcked? = some n)
    (isRoundStart : Bool) :
    RecoveryMove s (s.updateRecoveryState n c.hasLosses isRoundStart) c := by
  by_cases hfull : s.isAtFullBandwidth = true
  · cases hlost : c.hasLosses with
    | true =>
        obtain ⟨hstate, hmark⟩ := updateRecoveryState_lost hfull n isRoundStart
        exact .marked hfull (by simp [hacked]) hlost hstate hmark
    | false =>
        obtain ⟨hstate, hmark⟩ := updateRecoveryState_lossless hfull n isRoundStart
        by_cases hleaves : s.inRecovery = true ∧ s.endRecoveryAt.below n = true
        · refine .left ⟨hfull, hleaves.1, hlost, hacked, hleaves.2⟩ ?_
          simpa [hleaves.1, hleaves.2] using hstate
        · have hstays : ∀ k, ¬ s.Leaves c k := by
            intro k h
            cases hacked.symm.trans h.acked
            exact hleaves ⟨h.inRecovery, h.behind⟩
          have hsame : (s.inRecovery && !s.endRecoveryAt.below n) = s.inRecovery := by
            cases hin : s.inRecovery
            · rfl
            · simpa [hin] using hleaves
          exact .kept hstays (fun _ _ => hlost) (hstate.trans hsame) hmark
  · have hsame : s.updateRecoveryState n c.hasLosses isRoundStart = s := by
      unfold updateRecoveryState
      simp [hfull]
    rw [hsame]
    exact .kept (fun k h => hfull h.full) (fun h => absurd h hfull) rfl rfl

theorem call_move (s : BbrSender) (c : BbrCall) : RecoveryMove s (s.call c) c := by
  cases c with
  | packetSent =>
      refine .kept (fun n h => ?_) (fun _ _ => rfl) rfl rfl
      cases h.acked
  | congestionEvent rttStats map priorInFlight eventTime ackedPackets lostPackets =>
      let event : BbrCall :=
        .congestionEvent rttStats map priorInFlight eventTime ackedPackets lostPackets
      have hrecovery := (s.onCongestionEvent_recovery rttStats map priorInFlight eventTime
        ackedPackets lostPackets).1
      have hbegin :
          RecoveryMove s (s.beginAcks ackedPackets !lostPackets.isEmpty).1 event := by
        unfold beginAcks
        cases hlast : ackedPackets.getLast? with
        | none =>
            have hnone : event.lastAcked? = none := by simp [event, BbrCall.lastAcked?, hlast]
            refine .kept (fun n h => ?_) (fun _ h => absurd hnone h) rfl rfl
            exact nomatch hnone.symm.trans h.acked
        | some last =>
            have hsome : event.lastAcked? = some last.packetNumber := by
              simp [event, BbrCall.lastAcked?, hlast]
            exact RecoveryMove.of_counted (updateRecoveryState_move hsome _)
      exact hbegin.of_recovery hrecovery

/-! ## The mark along a run -/

/-- What holds of the recovery after the calls `calls`. -/
structure Tracked (s : BbrSender) (calls : List BbrCall) : Prop where
  sorted : (sentPackets calls).Pairwise (· < ·)
  lastSent : s.lastSentPacket = (sentPackets calls).getLast?.elim .uninitialized .number
  full : s.inRecovery = true → s.isAtFullBandwidth = true
  mark : s.inRecovery = true → ∃ e ∈ sentBeforeLoss calls, s.endRecoveryAt = .number e

theorem Tracked.call (h : s.Tracked calls)
    (hsent : ∀ n ∈ c.sentPacket?, ∀ m ∈ sentPackets calls, m < n)
    (hacked : ∀ n ∈ c.lastAcked?, n ∈ sentPackets calls) :
    (s.call c).Tracked (calls ++ [c]) where
  sorted := by
    rw [sentPackets_concat, List.pairwise_append]
    refine ⟨h.sorted, ?_, ?_⟩
    · cases c.sentPacket? <;> simp
    · intro m hm n hn
      exact hsent n (Option.mem_toList.mp hn) m hm
  lastSent := by
    rw [call_lastSentPacket, sentPackets_concat, h.lastSent]
    cases c.sentPacket? <;> simp
  full hin := by
    refine call_full ?_ c
    cases s.call_move c with
    | marked full => exact full
    | left leaves => exact leaves.full
    | kept _ _ state => exact h.full (state ▸ hin)
  mark hin := by
    cases s.call_move c with
    | marked _ acked lost _ mark =>
        obtain ⟨n, hn⟩ := Option.ne_none_iff_exists'.mp acked
        have hmem := hacked n hn
        obtain ⟨e, hlast⟩ : ∃ e, (sentPackets calls).getLast? = some e :=
          ⟨_, List.getLast?_eq_some_getLast (List.ne_nil_of_mem hmem)⟩
        refine ⟨e, ?_, ?_⟩
        · rw [sentBeforeLoss_concat, if_pos lost]
          exact List.mem_of_getLast? hlast
        · rw [mark, h.lastSent, hlast]
          rfl
    | left _ state => exact absurd hin (by simp [state])
    | kept _ _ state mark =>
        obtain ⟨e, he, hmark⟩ := h.mark (state ▸ hin)
        refine ⟨e, ?_, mark.trans hmark⟩
        rw [sentBeforeLoss_concat]
        split
        · rw [sentPackets_eq]
          exact List.mem_append_left _ he
        · exact he

theorem Tracked.run (h : s.Tracked calls) (horderly : Orderly (sentPackets calls) calls') :
    (s.run calls').Tracked (calls ++ calls') := by
  induction calls' generalizing s calls with
  | nil =>
      rw [List.append_nil]
      exact h
  | cons c calls' ih =>
      obtain ⟨hsent, hacked, hrest⟩ := horderly
      rw [← sentPackets_concat] at hrest
      have hnext := ih (h.call hsent hacked) hrest
      rw [List.append_assoc] at hnext
      exact hnext

/-! ## Leaving the recovery -/

def LeavesRecovery (s : BbrSender) (c : BbrCall) : Prop :=
  s.recoveryState ≠ .notInRecovery ∧ (s.call c).recoveryState = .notInRecovery

/-- The event reports no loss, and the packet acked last in it was sent after the most recent
event that reported one. -/
def AfterCleanRound (calls : List BbrCall) (c : BbrCall) : Prop :=
  c.hasLosses = false ∧ ∃ n ∈ c.lastAcked?, n ∈ sentSinceLoss calls

instance (s : BbrSender) (c : BbrCall) : Decidable (s.LeavesRecovery c) :=
  inferInstanceAs (Decidable (_ ∧ _))

instance (calls : List BbrCall) (c : BbrCall) : Decidable (AfterCleanRound calls c) :=
  inferInstanceAs (Decidable (_ ∧ _))

/-- No packet that ends the recovery lies between `end_recovery_at_` and the last packet sent
when losses were reported last. -/
def OutsideGap (s : BbrSender) (calls : List BbrCall) (c : BbrCall) : Prop :=
  ∀ n, s.Leaves c n → ∀ m ∈ (sentBeforeLoss calls).getLast?, m < n

theorem leavesRecovery_iff : s.LeavesRecovery c ↔ ∃ n, s.Leaves c n := by
  have hin : s.LeavesRecovery c ↔ s.inRecovery = true ∧ (s.call c).inRecovery = false := by
    simp [LeavesRecovery, inRecovery]
  rw [hin]
  cases s.call_move c with
  | marked _ _ lost state =>
      constructor
      · rintro ⟨_, hout⟩
        exact nomatch state.symm.trans hout
      · rintro ⟨n, hleaves⟩
        exact nomatch lost.symm.trans hleaves.lossless
  | left leaves state => exact ⟨fun _ => ⟨_, leaves⟩, fun _ => ⟨leaves.inRecovery, state⟩⟩
  | kept stays _ state =>
      constructor
      · rintro ⟨hbefore, hout⟩
        exact nomatch hbefore.symm.trans (state.symm.trans hout)
      · rintro ⟨n, hleaves⟩
        exact absurd hleaves (stays n)

theorem Tracked.le_last (h : s.Tracked calls) {m n : Nat}
    (hlast : (sentBeforeLoss calls).getLast? = some m) (hn : n ∈ sentBeforeLoss calls) :
    n ≤ m := by
  have hsorted := h.sorted
  rw [sentPackets_eq, List.pairwise_append] at hsorted
  obtain ⟨init, hinit⟩ := List.getLast?_eq_some_iff.mp hlast
  rw [hinit, List.pairwise_append] at hsorted
  rw [hinit, List.mem_append, List.mem_singleton] at hn
  rcases hn with hn | rfl
  · have hlt := hsorted.1.2.2 n hn m (List.mem_singleton_self m)
    omega
  · exact le_refl n

theorem Tracked.afterCleanRound_iff (h : s.Tracked calls)
    (hacked : ∀ n ∈ c.lastAcked?, n ∈ sentPackets calls) :
    (s.LeavesRecovery c → AfterCleanRound calls c) ↔ s.OutsideGap calls c := by
  rw [leavesRecovery_iff]
  have hsorted := h.sorted
  rw [sentPackets_eq, List.pairwise_append] at hsorted
  constructor
  · intro hclean n hleaves m hm
    obtain ⟨_, n', hn', hsince⟩ := hclean ⟨n, hleaves⟩
    cases hleaves.acked.symm.trans hn'
    exact hsorted.2.2 m (List.mem_of_getLast? hm) n hsince
  · rintro hgap ⟨n, hleaves⟩
    refine ⟨hleaves.lossless, n, hleaves.acked, ?_⟩
    have hmem := hacked n hleaves.acked
    rw [sentPackets_eq] at hmem
    rcases List.mem_append.mp hmem with hbefore | hsince
    · have hlast := List.getLast?_eq_some_getLast (List.ne_nil_of_mem hbefore)
      have hle := h.le_last hlast hbefore
      have hlt := hgap n hleaves _ hlast
      omega
    · exact hsince

/-- `end_recovery_at_` is the last packet sent when losses were reported last. -/
def MarkCurrent (s : BbrSender) (calls : List BbrCall) : Prop :=
  s.inRecovery = true → ∃ m, (sentBeforeLoss calls).getLast? = some m ∧ s.endRecoveryAt = .number m

theorem MarkCurrent.outsideGap (h : s.MarkCurrent calls) : s.OutsideGap calls c := by
  intro n hleaves m hm
  obtain ⟨m', hlast, hmark⟩ := h hleaves.inRecovery
  cases hlast.symm.trans hm
  have hbehind := hleaves.behind
  rw [hmark] at hbehind
  exact of_decide_eq_true hbehind

/-- Losses that come with acks keep the mark current. -/
theorem MarkCurrent.call (h : s.MarkCurrent calls) (ht : s.Tracked calls)
    (hacked : ∀ n ∈ c.lastAcked?, n ∈ sentPackets calls)
    (hloss : c.hasLosses = true → s.inRecovery = true → c.lastAcked? ≠ none) :
    (s.call c).MarkCurrent (calls ++ [c]) := by
  intro hin
  rw [sentBeforeLoss_concat]
  cases s.call_move c with
  | marked _ acked lost _ mark =>
      obtain ⟨n, hn⟩ := Option.ne_none_iff_exists'.mp acked
      have hlast := List.getLast?_eq_some_getLast (List.ne_nil_of_mem (hacked n hn))
      rw [if_pos lost, mark, ht.lastSent, hlast]
      exact ⟨_, rfl, rfl⟩
  | left _ state => exact absurd hin (by simp [state])
  | kept _ unmarked state mark =>
      have hbefore : s.inRecovery = true := state ▸ hin
      have hlossless : ¬ c.hasLosses = true := by
        intro hlost
        have hnone := unmarked (ht.full hbefore) (hloss hlost hbefore)
        exact nomatch hlost.symm.trans hnone
      rw [if_neg hlossless, mark]
      exact h hbefore

/-- In recovery no event reports losses without acks. -/
def LossesAcked (start : BbrSender) (calls : List BbrCall) : Prop :=
  ∀ pre c post, calls = pre ++ c :: post → c.hasLosses = true →
    (start.run pre).inRecovery = true → c.lastAcked? ≠ none

instance (start : BbrSender) (calls : List BbrCall) : Decidable (start.LossesAcked calls) :=
  have hsplit := @forall_split_iff _ calls fun pre c => c.hasLosses = true →
    (start.run pre).inRecovery = true → c.lastAcked? ≠ none
  decidable_of_iff _ hsplit.symm

theorem create_tracked (now : Int) (initialCwnd maxCwnd : Nat) (stream : Nat → Nat) :
    (create now initialCwnd maxCwnd stream).Tracked [] where
  sorted := List.Pairwise.nil
  lastSent := rfl
  full h := nomatch h
  mark h := nomatch h

theorem MarkCurrent.run (h : s.MarkCurrent calls) (ht : s.Tracked calls)
    (horderly : Orderly (sentPackets calls) calls') (hloss : s.LossesAcked calls') :
    (s.run calls').MarkCurrent (calls ++ calls') := by
  induction calls' generalizing s calls with
  | nil =>
      rw [List.append_nil]
      exact h
  | cons c calls' ih =>
      obtain ⟨hsent, hacked, hrest⟩ := horderly
      rw [← sentPackets_concat] at hrest
      have hcall := h.call ht hacked (hloss [] c calls' rfl)
      have hlossRest : (s.call c).LossesAcked calls' := by
        intro pre c' post hsplit
        exact hloss (c :: pre) c' post (by rw [hsplit]; rfl)
      have hnext := ih hcall (ht.call hsent hacked) hrest hlossRest
      rw [List.append_assoc] at hnext
      exact hnext

/-- Every event of the run that ends the recovery acks a packet sent after the last reported
loss. -/
def LeavesAfterCleanRounds (start : BbrSender) (calls : List BbrCall) : Prop :=
  ∀ pre c post, calls = pre ++ c :: post →
    (start.run pre).LeavesRecovery c → AfterCleanRound pre c

/-- When losses in recovery always come with acks, every event that ends the recovery acks a packet
sent after the last reported loss. In any other run this holds as long as none of these events acks
a packet in the gap behind `end_recovery_at_`, which only a loss reported without acks opens. -/
theorem recovery_left_after_clean_round_iff (now : Int) (initialCwnd maxCwnd : Nat)
    (stream : Nat → Nat) (calls : List BbrCall) (horderly : Orderly [] calls) :
    let start := create now initialCwnd maxCwnd stream
    (start.LossesAcked calls → start.LeavesAfterCleanRounds calls) ∧
    (start.LeavesAfterCleanRounds calls ↔
      ∀ pre c post, calls = pre ++ c :: post → (start.run pre).OutsideGap pre c) := by
  intro start
  have hstart : start.Tracked [] := create_tracked now initialCwnd maxCwnd stream
  have hat : ∀ pre c post, calls = pre ++ c :: post →
      Orderly [] pre ∧ ∀ n ∈ c.lastAcked?, n ∈ sentPackets pre := by
    intro pre c post hsplit
    obtain ⟨hpre, hpost⟩ := orderly_append.mp (hsplit ▸ horderly)
    exact ⟨hpre, hpost.2.1⟩
  have htracked : ∀ pre, Orderly [] pre → (start.run pre).Tracked pre := fun _ => hstart.run
  have hiff : start.LeavesAfterCleanRounds calls ↔
      ∀ pre c post, calls = pre ++ c :: post → (start.run pre).OutsideGap pre c := by
    refine forall_congr' fun pre => forall_congr' fun c => forall_congr' fun post =>
      forall_congr' fun hsplit => ?_
    obtain ⟨hpre, hacked⟩ := hat pre c post hsplit
    exact (htracked pre hpre).afterCleanRound_iff hacked
  refine ⟨fun hloss => hiff.mpr fun pre c post hsplit => ?_, hiff⟩
  -- Losses that come with acks keep `end_recovery_at_` current, so that there is no gap.
  have hfresh : start.MarkCurrent [] := fun h => nomatch h
  have hlossPre : start.LossesAcked pre := by
    intro pre' c' post' hsplit'
    apply hloss pre' c' (post' ++ c :: post)
    rw [hsplit, hsplit', List.append_assoc, List.cons_append]
  exact (hfresh.run hstart (hat pre c post hsplit).1 hlossPre).outsideGap

def roundTrips (count : Nat) : List BbrCall :=
  (List.range count).flatMap fun (i : Nat) =>
    [.packetSent (20000 * i + 1) 0 (i + 1) defaultPacketSize,
      .congestionEvent {} {} defaultPacketSize (20000 * i + 10001)
        [⟨i + 1, defaultPacketSize, 20000 * i + 10001⟩] []]

/-- After a loss reported with an ack, the ack of the next packet ends the recovery. -/
theorem recovery_left_after_acked_loss :
    let start := create 1 32 2000 id
    let pre := roundTrips 6 ++
      [.packetSent 200001 0 7 defaultPacketSize,
        .packetSent 200101 defaultPacketSize 8 defaultPacketSize,
        .congestionEvent {} {} (2 * defaultPacketSize) 210101 [⟨8, defaultPacketSize, 210101⟩]
          [⟨7, defaultPacketSize⟩],
        .packetSent 210201 0 9 defaultPacketSize]
    let c := .congestionEvent {} {} defaultPacketSize 220201 [⟨9, defaultPacketSize, 220201⟩] []
    start.LossesAcked (pre ++ [c]) ∧ (start.run pre).LeavesRecovery c ∧
      AfterCleanRound pre c := by
  intro start pre c
  have hacked : start.LossesAcked (pre ++ [c]) := by decide +kernel
  have hleaves : (start.run pre).LeavesRecovery c := by decide +kernel
  obtain ⟨hlaw, _⟩ := recovery_left_after_clean_round_iff 1 32 2000 id (pre ++ [c])
    (by decide +kernel)
  exact ⟨hacked, hleaves, hlaw hacked pre c [] rfl hleaves⟩

end BbrSender

end BbrChrome
