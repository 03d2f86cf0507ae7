import BbrChrome.Congestion.BandwidthSampler
import Mathlib.Algebra.BigOperators.Group.List.Basic

/-!
# Byte accounts of the bandwidth sampler

The totals of the sampler and its queue of sent packets, and how each operation of
the sampler changes them.
-/

namespace BbrChrome

namespace PacketNumberIndexedQueue

variable {α : Type} {q : PacketNumberIndexedQueue α} {first n : Nat} {l : List α} {e : α}

/-- The queue has no holes: its entries are `l`, numbered from `first` on. An empty
queue has forgotten its first number. -/
structure Dense (q : PacketNumberIndexedQueue α) (first : Nat) (l : List α) : Prop where
  entries : q.entries = l.map some
  present : q.numberOfPresentEntries = l.length
  number : q.firstPacket = if l.isEmpty then .uninitialized else .number first

theorem dense_empty (first : Nat) : Dense ({} : PacketNumberIndexedQueue α) first [] :=
  ⟨rfl, rfl, rfl⟩

theorem Dense.getEntry (h : q.Dense first l) (hn : first ≤ n) :
    q.getEntry (.number n) = l[n - first]? := by
  cases l with
  | nil =>
      have hnone : q.firstPacket = .uninitialized := h.number
      simp [PacketNumberIndexedQueue.getEntry, hnone]
  | cons a l =>
      have hsome : q.firstPacket = .number first := h.number
      have hne : q.isEmpty = false := by simp [isEmpty, h.present]
      have hlt : ¬ n < first := by omega
      simp only [PacketNumberIndexedQueue.getEntry, hsome, hne, hlt, Bool.false_or, decide_false,
        Bool.false_eq_true, if_false, h.entries, List.getElem?_map]
      cases (a :: l)[n - first]? <;> rfl

theorem Dense.emplace (h : q.Dense first l) (hn : n = first + l.length) :
    (q.emplace (.number n) e).1.Dense first (l ++ [e]) := by
  cases l with
  | nil =>
      have hempty : q.isEmpty = true := by simp [isEmpty, h.present]
      simp only [PacketNumberIndexedQueue.emplace, hempty, if_true, h.entries]
      simp only [List.length_nil, Nat.add_zero] at hn
      exact ⟨rfl, rfl, by rw [hn]; rfl⟩
  | cons a l =>
      have hsome : q.firstPacket = .number first := h.number
      have hne : q.isEmpty = false := by simp [isEmpty, h.present]
      simp only [List.length_cons] at hn
      have hafter : ¬ n ≤ first + q.entries.length - 1 := by
        rw [h.entries]
        simp
        omega
      have hgap : n - first - q.entries.length = 0 := by
        rw [h.entries]
        simp
        omega
      simp only [PacketNumberIndexedQueue.emplace, hne, Bool.false_eq_true, if_false, hsome, hafter,
        hgap, List.replicate_zero, List.append_nil]
      exact ⟨by simp [h.entries], by simp [h.present], rfl⟩

theorem popUpTo_map_some (l : List α) (first : Nat) :
    popUpTo n (l.map some) l.length first =
      ⟨(l.drop (n - first)).map some, (l.drop (n - first)).length,
        .number (first + min (n - first) l.length)⟩ := by
  induction l generalizing first with
  | nil => simp [popUpTo]
  | cons a l ih =>
      by_cases hlt : first < n
      · have hdrop : n - first = (n - (first + 1)) + 1 := by omega
        simp only [List.map_cons, popUpTo, hlt, if_true, Option.isSome_some, List.length_cons,
          Nat.add_sub_cancel, ih, hdrop, List.drop_succ_cons, mk.injEq,
          QuicPacketNumber.number.injEq, true_and]
        omega
      · have hzero : n - first = 0 := by omega
        simp [popUpTo, hlt, hzero]

theorem Dense.removeUpTo (h : q.Dense first l) (n : Nat) :
    (q.removeUpTo n).Dense (first + min (n - first) l.length) (l.drop (n - first)) := by
  cases l with
  | nil =>
      have hnone : q.firstPacket = .uninitialized := h.number
      simp only [PacketNumberIndexedQueue.removeUpTo, hnone, h.entries, h.present, List.map_nil,
        cleanup]
      exact ⟨by simp, by simp, by simp⟩
  | cons a l =>
      have hsome : q.firstPacket = .number first := h.number
      simp only [PacketNumberIndexedQueue.removeUpTo, hsome, h.entries, h.present]
      rw [popUpTo_map_some]
      cases hrest : (a :: l).drop (n - first) with
      | nil => exact ⟨rfl, rfl, rfl⟩
      | cons b rest => exact ⟨rfl, rfl, rfl⟩

end PacketNumberIndexedQueue

/-! ## Accounts -/

/-- The part of the sampler that counts bytes. -/
structure SamplerAccounts where
  totalBytesSent : Nat := 0
  totalBytesAcked : Nat := 0
  totalBytesLost : Nat := 0
  totalBytesNeutered : Nat := 0
  connectionStateMap : PacketNumberIndexedQueue ConnectionStateOnSentPacket := {}

namespace SamplerAccounts

def size? (a : SamplerAccounts) (packetNumber : Nat) : Option Nat :=
  (a.connectionStateMap.getEntry (.number packetNumber)).map (·.size)

/-- The acked packets that the sampler still knows, with the bytes each is credited. -/
def credits (a : SamplerAccounts) (ackedPackets : List AckedPacket) : List (Nat × Nat) :=
  ackedPackets.filterMap fun p => (a.size? p.packetNumber).map fun size => (p.packetNumber, size)

def credit (a : SamplerAccounts) (bytes : Nat) : SamplerAccounts :=
  { a with totalBytesAcked := a.totalBytesAcked + bytes }

def debit (a : SamplerAccounts) (bytes : Nat) : SamplerAccounts :=
  { a with totalBytesLost := a.totalBytesLost + bytes }

def creditedBytes (a : SamplerAccounts) (ackedPackets : List AckedPacket) : Nat :=
  ((a.credits ackedPackets).map Prod.snd).sum

/-- Credit the acked and count the lost packets of one congestion event. -/
def record (a : SamplerAccounts) (ackedPackets : List AckedPacket)
    (lostPackets : List LostPacket) : SamplerAccounts :=
  (a.debit (lostPackets.map (·.bytesLost)).sum).credit (a.creditedBytes ackedPackets)

def trim (a : SamplerAccounts) (leastUnacked : Nat) : SamplerAccounts :=
  { a with connectionStateMap := a.connectionStateMap.removeUpTo leastUnacked }

variable {a : SamplerAccounts} {bytes more : Nat} {ackedPackets : List AckedPacket}

theorem credit_credit : (a.credit bytes).credit more = a.credit (bytes + more) := by
  simp [credit, Nat.add_assoc]

theorem debit_debit : (a.debit bytes).debit more = a.debit (bytes + more) := by
  simp [debit, Nat.add_assoc]

@[simp] theorem creditedBytes_credit :
    (a.credit bytes).creditedBytes ackedPackets = a.creditedBytes ackedPackets := rfl

@[simp] theorem creditedBytes_debit :
    (a.debit bytes).creditedBytes ackedPackets = a.creditedBytes ackedPackets := rfl

theorem creditedBytes_cons (p : AckedPacket) :
    a.creditedBytes (p :: ackedPackets) =
      (a.size? p.packetNumber).getD 0 + a.creditedBytes ackedPackets := by
  simp only [creditedBytes, credits, List.filterMap_cons]
  cases a.size? p.packetNumber <;> simp

end SamplerAccounts

namespace BandwidthSampler

def accounts (s : BandwidthSampler) : SamplerAccounts :=
  { totalBytesSent := s.totalBytesSent
    totalBytesAcked := s.totalBytesAcked
    totalBytesLost := s.totalBytesLost
    totalBytesNeutered := s.totalBytesNeutered
    connectionStateMap := s.connectionStateMap }

variable {s : BandwidthSampler}

theorem accounts_onPacketSent (sentTime : Int) (packetNumber bytes bytesInFlight : Nat) :
    ∃ e : ConnectionStateOnSentPacket,
      (s.onPacketSent sentTime packetNumber bytes bytesInFlight).accounts =
        { s.accounts with
          totalBytesSent := s.totalBytesSent + bytes
          connectionStateMap := (s.connectionStateMap.emplace (.number packetNumber) e).1 } ∧
      e.size = bytes ∧ e.sendTimeState.totalBytesSent = s.totalBytesSent + bytes ∧
      e.sendTimeState.totalBytesAcked = s.totalBytesAcked ∧
      e.sendTimeState.totalBytesLost = s.totalBytesLost ∧
      e.sendTimeState.bytesInFlight = bytesInFlight + bytes := by
  by_cases hzero : bytesInFlight = 0
  · simp only [onPacketSent, hzero, if_true]
    exact ⟨_, rfl, rfl, rfl, rfl, rfl, rfl⟩
  · simp only [onPacketSent, hzero, if_false]
    exact ⟨_, rfl, rfl, rfl, rfl, rfl, rfl⟩

theorem accounts_onPacketsLost (lostPackets : List LostPacket) (lastState : SendTimeState) :
    (onPacketsLost lostPackets s lastState).1.accounts =
      s.accounts.debit (lostPackets.map (·.bytesLost)).sum := by
  induction lostPackets generalizing s lastState with
  | nil => rfl
  | cons p lostPackets ih =>
      have hstep : (s.onPacketLost p.packetNumber p.bytesLost).1.accounts =
          s.accounts.debit p.bytesLost := rfl
      simp only [onPacketsLost, ih, hstep, SamplerAccounts.debit_debit, List.map_cons,
        List.sum_cons]

theorem accounts_onPacketAcknowledgedInner (ackTime : Int) (packetNumber : Nat)
    (e : ConnectionStateOnSentPacket) :
    (s.onPacketAcknowledgedInner ackTime packetNumber e).1.accounts =
      s.accounts.credit e.size := by
  unfold onPacketAcknowledgedInner
  dsimp only
  split
  · rfl
  · split <;> split <;> rfl

/-- A packet that the queue has is credited with its size, any other is ignored. -/
theorem accounts_onPacketAcknowledged (ackTime : Int) (packetNumber : Nat) :
    (s.onPacketAcknowledged ackTime packetNumber).1.accounts =
      s.accounts.credit ((s.accounts.size? packetNumber).getD 0) := by
  unfold onPacketAcknowledged SamplerAccounts.size?
  rw [show s.accounts.connectionStateMap = s.connectionStateMap from rfl]
  cases s.connectionStateMap.getEntry (.number packetNumber) with
  | none => rfl
  | some e => exact accounts_onPacketAcknowledgedInner ackTime packetNumber e

theorem accounts_onPacketsAcknowledged (ackTime : Int) (ackedPackets : List AckedPacket)
    (event : CongestionEventSample) (lastState : SendTimeState) :
    (onPacketsAcknowledged ackTime ackedPackets s event lastState).1.accounts =
      s.accounts.credit (s.accounts.creditedBytes ackedPackets) := by
  induction ackedPackets generalizing s event lastState with
  | nil => rfl
  | cons p ackedPackets ih =>
      unfold onPacketsAcknowledged
      dsimp only
      split
      · rw [ih, accounts_onPacketAcknowledged, SamplerAccounts.creditedBytes_credit,
          SamplerAccounts.credit_credit, SamplerAccounts.creditedBytes_cons]
      · rw [ih, accounts_onPacketAcknowledged, SamplerAccounts.creditedBytes_credit,
          SamplerAccounts.credit_credit, SamplerAccounts.creditedBytes_cons]

theorem accounts_onAckEventEnd (bandwidthEstimate : QuicBandwidth) (roundTripCount : Nat) :
    (s.onAckEventEnd bandwidthEstimate roundTripCount).1.accounts = s.accounts := by
  unfold onAckEventEnd
  dsimp only
  split <;> rfl

theorem accounts_onCongestionEvent (ackTime : Int) (ackedPackets : List AckedPacket)
    (lostPackets : List LostPacket) (maxBandwidth estBandwidthUpperBound : QuicBandwidth)
    (roundTripCount : Nat) :
    (s.onCongestionEvent ackTime ackedPackets lostPackets maxBandwidth estBandwidthUpperBound
      roundTripCount).1.accounts = s.accounts.record ackedPackets lostPackets := by
  have hlost := accounts_onPacketsLost (s := s) lostPackets {}
  unfold onCongestionEvent
  by_cases hnil : ackedPackets = []
  · subst hnil
    simp only [List.isEmpty_nil, if_true]
    rw [hlost]
    rfl
  · have hne : ackedPackets.isEmpty = false := by
      cases ackedPackets with
      | nil => exact absurd rfl hnil
      | cons p ackedPackets => rfl
    simp only [hne, Bool.false_eq_true, if_false]
    rw [accounts_onAckEventEnd, accounts_onPacketsAcknowledged, hlost,
      SamplerAccounts.creditedBytes_debit]
    rfl

end BandwidthSampler

end BbrChrome
