import BbrChrome.Quic.PacketFate
import BbrChrome.Session.Fates

/-!
# Networks that keep the order

On a network that loses datagrams but neither repeats nor reorders them, the echoes come in the
order of the packet numbers. A packet is declared lost only when the echo of a later one has come,
so it is one that the network has dropped.
-/

namespace BbrChrome

namespace Connection

open QuicSentPacketManager

variable {σ : Type} [SendAlgorithmInterface σ] {c c' : Connection σ} {op : Operation}

theorem Outcome.largestNewlyAcked (ho : c.Outcome op c') :
    c'.manager.largestNewlyAcked =
      (op.acked?.map QuicPacketNumber.number).getD c.manager.largestNewlyAcked := by
  have hreport : ∀ (m : QuicSentPacketManager σ) (rttUpdated : Bool) (priorInFlight : Nat)
      (eventTime : Int), (m.maybeInvokeCongestionEvent rttUpdated priorInFlight
        eventTime).largestNewlyAcked = m.largestNewlyAcked := by
    intro m rttUpdated priorInFlight eventTime
    unfold maybeInvokeCongestionEvent
    split <;> rfl
  cases ho with
  | send length sendTime => rfl
  | @ack n info hi ackReceiveTime now =>
      simp only [afterAck, resetConsecutiveRtoCount]
      split <;> rw [hreport] <;> rfl
  | @lossTimeout L harmed hL now =>
      simp only [afterLossTimeout, hreport]
      exact hL.symm
  | rto hidle now => rfl

end Connection

namespace Session

open Channel

/-- The sockets hold the oldest datagram, if any, and the network repeats none. -/
def InOrder (_ : Session) : SessionEvent → Prop
  | .receivePacket arrival _ _ => ∀ i ∈ arrival, i = 0
  | .receiveData arrival _ _ => ∀ i ∈ arrival, i = 0
  | .duplicate _ _ => False
  | _ => True

instance (s : Session) : ∀ event : SessionEvent, Decidable (s.InOrder event)
  | .receivePacket arrival _ _ => inferInstanceAs (Decidable (∀ i ∈ arrival, i = 0))
  | .receiveData arrival _ _ => inferInstanceAs (Decidable (∀ i ∈ arrival, i = 0))
  | .duplicate _ _ => .isFalse id
  | .sendPacket _ _ _ => .isTrue trivial
  | .drop _ _ => .isTrue trivial

variable {s s' : Session} {event : SessionEvent}

theorem InOrder.keepsSingle (h : s.InOrder event) : s.KeepsSingle event := by
  cases event with
  | duplicate link i => exact h
  | _ => trivial

/-- In order, an ack takes the first number that is under way; else numbers only come at the
end. -/
theorem Move.numbers_inOrder (hfit : s.NumbersFit event) (hord : s.InOrder event)
    (hm : s.Move event s') :
    (∃ n, s.acked? event = some n ∧ s.numbers = n :: s'.numbers) ∨
    s.acked? event = none ∧ (s'.numbers.Sublist s.numbers ∨
      s'.numbers = s.numbers ++ [s.client.connection.recentPacketNumber + 1] ∧
        s'.client.connection.recentPacketNumber =
          s.client.connection.recentPacketNumber + 1) := by
  rcases hm.recentPacketNumber with hsame | hnext
  · cases hm with
    | sent hstep hconnection hnumber =>
        rw [hconnection] at hsame
        exact absurd hsame (Nat.succ_ne_self _)
    | held hstep hconnection => exact .inr ⟨rfl, .inl (List.Sublist.refl _)⟩
    | @echoReceived arrival first second c datagram harrived hstep =>
        have hsplit : s.toClient = _ := eq_of_arrived_first hord
        rw [harrived] at hsplit
        refine .inl ⟨packetNumberOf datagram, by simp [acked?, harrived], ?_⟩
        exact congrArg (fun echoes => (echoes ++ s.toServer).map packetNumberOf) hsplit
    | polled harrived hstep =>
        exact .inr ⟨by simp [acked?, harrived], .inl (List.Sublist.refl _)⟩
    | @echoed arrival check print datagram harrived server =>
        have hsplit : s.toServer = _ := eq_of_arrived_first hord
        rw [harrived] at hsplit
        have hsub : ((some datagram).toList ++ remaining s.toServer arrival).Sublist
            s.toServer := by
          rw [← hsplit]
        refine .inr ⟨rfl, .inl (List.Sublist.map packetNumberOf ?_)⟩
        rw [underWay, underWay, List.append_assoc]
        exact hsub.append_left s.toClient
    | idled harrived server => exact .inr ⟨rfl, .inl (List.Sublist.refl _)⟩
    | dropped link i =>
        refine .inr ⟨rfl, .inl (List.Sublist.map packetNumberOf ?_)⟩
        have hsub : ∀ messages : List (List UInt8),
            (remaining messages (some i)).Sublist messages := fun _ => remaining_sublist
        cases link with
        | toServer => exact (hsub s.toServer).append_left s.toClient
        | toClient => exact (hsub s.toClient).append_right s.toServer
    | duplicated link i => exact absurd hord id
  · obtain ⟨hnumbers, _, hacked⟩ := hm.numbers_of_sent hfit hnext
    exact .inr ⟨hacked, .inr ⟨hnumbers, hnext⟩⟩

/-- The datagrams under way are in order and behind the last ack, and each is in flight unless a
timeout has swept it. -/
structure InLine (s : Session) (lost swept : List Nat) : Prop where
  sorted : s.numbers.Pairwise (· < ·)
  sent : ∀ n ∈ s.numbers, n ≤ s.client.connection.recentPacketNumber
  lostSent : ∀ n ∈ lost, n ≤ s.client.connection.recentPacketNumber
  behind : ∀ L, s.client.connection.manager.largestNewlyAcked = .number L →
    ∀ n ∈ s.numbers, L < n
  kept : ∀ n ∈ s.numbers, n ∉ lost ∧ (s.client.connection.map.InFlight n ∨ n ∈ swept)

theorem InLine.idle {lost swept : List Nat} (h : s.InLine lost swept)
    (hsub : s'.numbers.Sublist s.numbers) (hsame : s'.client.connection = s.client.connection) :
    s'.InLine lost swept where
  sorted := h.sorted.sublist hsub
  sent := by
    rw [hsame]
    exact fun n hn => h.sent n (hsub.subset hn)
  lostSent := by
    rw [hsame]
    exact h.lostSent
  behind := by
    rw [hsame]
    exact fun L hL n hn => h.behind L hL n (hsub.subset hn)
  kept := by
    rw [hsame]
    exact fun n hn => h.kept n (hsub.subset hn)

section Operations

variable {lost swept : List Nat} {op : Operation} {n : Nat}

theorem InLine.survives (h : s.InLine lost swept) (hrest : s.client.connection.AtRest)
    (ho : s.client.connection.Outcome op s'.client.connection) (hn : n ∈ s.numbers)
    (hbehind : ∀ m, op.acked? = some m → m < n) :
    n ∉ lost ++ s.client.connection.lostNumbers op ∧
      (s'.client.connection.map.InFlight n ∨ n ∈ swept ++ s.client.connection.sweptNumbers op) := by
  obtain ⟨hlost, hplace⟩ := h.kept n hn
  have hnew : n ∉ s.client.connection.lostNumbers op := by
    intro hk
    obtain ⟨_, _, L, hL | hL, hle⟩ := (ho.lost_spec hrest).2 n hk
    · have hlt := hbehind L hL
      omega
    · have hlt := h.behind L hL n hn
      omega
  refine ⟨by simp [hlost, hnew], ?_⟩
  rcases hplace with hin | hswept
  · by_cases hs : n ∈ s.client.connection.sweptNumbers op
    · exact .inr (List.mem_append_right _ hs)
    · have hne : op.acked? ≠ some n := fun heq => Nat.lt_irrefl n (hbehind n heq)
      exact .inl ((ho.inFlight_iff hrest).mpr ⟨.inl hin, hne, hnew, hs⟩)
  · exact .inr (List.mem_append_left _ hswept)

theorem InLine.lostSent_step (h : s.InLine lost swept) (hrest : s.client.connection.AtRest)
    (hm : s.Move event s') (ho : s.client.connection.Outcome op s'.client.connection) :
    ∀ n ∈ lost ++ s.client.connection.lostNumbers op,
      n ≤ s'.client.connection.recentPacketNumber := by
  have hgrow : s.client.connection.recentPacketNumber ≤
      s'.client.connection.recentPacketNumber := hm.recentPacketNumber_le
  intro n hn
  rcases List.mem_append.mp hn with hn | hn
  · exact (h.lostSent n hn).trans hgrow
  · obtain ⟨info, hi, _⟩ := ((ho.lost_spec hrest).2 n hn).1
    exact (hrest.range_of_info hi).2.trans hgrow

theorem InLine.acked (h : s.InLine lost swept) (hrest : s.client.connection.AtRest)
    (hm : s.Move event s') (ho : s.client.connection.Outcome op s'.client.connection)
    (hn : op.acked? = some n) (hnumbers : s.numbers = n :: s'.numbers) :
    s'.InLine (lost ++ s.client.connection.lostNumbers op)
      (swept ++ s.client.connection.sweptNumbers op) := by
  have hsorted := h.sorted
  rw [hnumbers, List.pairwise_cons] at hsorted
  have hmem : ∀ k ∈ s'.numbers, k ∈ s.numbers := fun k hk => by
    rw [hnumbers]
    exact List.mem_cons_of_mem n hk
  refine
    { sorted := hsorted.2
      sent := fun k hk => (h.sent k (hmem k hk)).trans hm.recentPacketNumber_le
      lostSent := h.lostSent_step hrest hm ho
      behind := ?_
      kept := fun k hk => h.survives hrest ho (hmem k hk) ?_ }
  · intro L hL
    rw [ho.largestNewlyAcked, hn] at hL
    cases hL
    exact hsorted.1
  · intro m heq
    rw [hn] at heq
    cases heq
    exact hsorted.1 k hk

theorem InLine.shrunk (h : s.InLine lost swept) (hrest : s.client.connection.AtRest)
    (hm : s.Move event s') (ho : s.client.connection.Outcome op s'.client.connection)
    (hnone : op.acked? = none) (hsub : s'.numbers.Sublist s.numbers) :
    s'.InLine (lost ++ s.client.connection.lostNumbers op)
      (swept ++ s.client.connection.sweptNumbers op) := by
  refine
    { sorted := h.sorted.sublist hsub
      sent := fun k hk => (h.sent k (hsub.subset hk)).trans hm.recentPacketNumber_le
      lostSent := h.lostSent_step hrest hm ho
      behind := ?_
      kept := fun k hk => h.survives hrest ho (hsub.subset hk) (by simp [hnone]) }
  intro L hL k hk
  rw [ho.largestNewlyAcked, hnone] at hL
  exact h.behind L hL k (hsub.subset hk)

theorem InLine.extended (h : s.InLine lost swept) (hrest : s.client.connection.AtRest)
    (hm : s.Move event s') (ho : s.client.connection.Outcome op s'.client.connection)
    (hnone : op.acked? = none)
    (hnumbers : s'.numbers = s.numbers ++ [s.client.connection.recentPacketNumber + 1])
    (hnext : s'.client.connection.recentPacketNumber =
      s.client.connection.recentPacketNumber + 1) :
    s'.InLine (lost ++ s.client.connection.lostNumbers op)
      (swept ++ s.client.connection.sweptNumbers op) := by
  have hflight : ∀ {k}, s.client.connection.map.InFlight k →
      k ≤ s.client.connection.recentPacketNumber := fun ⟨_, hi, _⟩ => (hrest.range_of_info hi).2
  have hfresh : ¬ s.client.connection.map.InFlight (s.client.connection.recentPacketNumber + 1) :=
    fun hin => Nat.not_succ_le_self _ (hflight hin)
  refine
    { sorted := ?_
      sent := ?_
      lostSent := h.lostSent_step hrest hm ho
      behind := ?_
      kept := ?_ }
  all_goals rw [hnumbers]
  · refine List.pairwise_append.mpr ⟨h.sorted, List.pairwise_singleton _ _, ?_⟩
    intro k hk last hlast
    rw [List.mem_singleton.mp hlast]
    exact Nat.lt_succ_of_le (h.sent k hk)
  · intro k hk
    rw [hnext]
    rcases List.mem_append.mp hk with hk | hk
    · exact (h.sent k hk).trans (Nat.le_succ _)
    · exact (List.mem_singleton.mp hk).le
  · intro L hL k hk
    rw [ho.largestNewlyAcked, hnone] at hL
    rcases List.mem_append.mp hk with hk | hk
    · exact h.behind L hL k hk
    · have hlt : L < s.client.connection.map.nextNumber := hrest.manager.newlyAcked L hL
      rw [hrest.next] at hlt
      rw [List.mem_singleton.mp hk]
      exact hlt
  · intro k hk
    rcases List.mem_append.mp hk with hk | hk
    · exact h.survives hrest ho hk (by simp [hnone])
    · rw [List.mem_singleton.mp hk]
      have hnew : s.client.connection.recentPacketNumber + 1 ∉
          s.client.connection.lostNumbers op :=
        fun hmem => hfresh ((ho.lost_spec hrest).2 _ hmem).1
      refine ⟨?_, .inl ((ho.inFlight_iff hrest).mpr ⟨.inr ⟨rfl, hnext⟩, by simp [hnone], hnew,
        fun hmem => hfresh (hrest.swept_inFlight hmem)⟩)⟩
      rw [List.mem_append, not_or]
      exact ⟨fun hmem => Nat.not_succ_le_self _ (h.lostSent _ hmem), hnew⟩

end Operations

variable {clientNow serverNow : TimeOfDay} {stream : Nat → Nat} {events : List SessionEvent}

abbrev startConnection (clientNow : TimeOfDay) (stream : Nat → Nat) : Connection Bbr2Sender :=
  Connection.createBbr Bbr2Sender clientNow.now stream

theorem exec_inLine (hrun : exec (create clientNow serverNow stream) events = .ok s)
    (hfit : Along NumbersFit (create clientNow serverNow stream) events)
    (hord : Along InOrder (create clientNow serverNow stream) events) :
    s.InLine
      ((startConnection clientNow stream).lostHistory
        ((create clientNow serverNow stream).operations events))
      ((startConnection clientNow stream).sweptHistory
        ((create clientNow serverNow stream).operations events)) := by
  revert hfit hord
  refine PartialRun.exec_induction ?_ ?_ hrun
  · intro _ _
    exact ⟨.nil, nofun, nofun, nofun, nofun⟩
  · intro events m event t hpre hs ih hfit hord
    obtain ⟨hfit, hfitLast, _⟩ := hfit.append hpre
    obtain ⟨hord, hordLast, _⟩ := hord.append hpre
    have hline := ih hfit hord
    have hm := step_move (exec_genuine hpre hfit) hs
    have hperforms := hm.performs
    have hops := exec_operations hpre hfit
    have hacked : _ = m.acked? event := acked?_of_operation?
    have hsplit : (create clientNow serverNow stream).operations (events ++ [event]) =
        (create clientNow serverNow stream).operations events ++ (m.operation? event).toList :=
      PartialRun.emitted_concat hpre hs
    rw [hsplit]
    cases hop : m.operation? event with
    | none =>
        rw [hop] at hperforms hacked
        have hsame := (Except.ok.inj hperforms).symm
        rw [Option.toList_none, List.append_nil]
        rcases hm.numbers_inOrder hfitLast hordLast with ⟨n, hn, _⟩ | ⟨_, hsub | ⟨_, hnext⟩⟩
        · rw [← hacked] at hn
          cases hn
        · exact hline.idle hsub hsame
        · rw [hsame] at hnext
          exact absurd hnext (Nat.succ_ne_self _).symm
    | some op =>
        rw [hop] at hperforms hacked
        obtain ⟨next, hstep, hnil⟩ := PartialRun.exec_cons_ok hperforms
        cases hnil
        have hrest := Connection.exec_atRest hops
        have ho := Connection.step_outcome hrest hstep
        rw [Option.toList_some, Connection.lostHistory, Connection.sweptHistory,
          Connection.collected_concat hops hstep, Connection.collected_concat hops hstep]
        rcases hm.numbers_inOrder hfitLast hordLast with
          ⟨n, hn, hnumbers⟩ | ⟨hnone, hsub | ⟨hnumbers, hnext⟩⟩
        · exact hline.acked hrest hm ho (hacked.trans hn) hnumbers
        · exact hline.shrunk hrest hm ho (hacked.trans hnone) hsub
        · exact hline.extended hrest hm ho (hacked.trans hnone) hnumbers hnext

/-- A poll that finds the echo of a packet in flight, or nothing, does not fault. -/
theorem receivePacket_ok (h : s.Genuine) (hsynced : s.client.connection.Synced)
    (hflight : ∀ n ∈ s.numbers, s.client.connection.map.InFlight n) (arrival : Option Nat)
    (first second : TimeOfDay) : ∃ s', s.step (.receivePacket arrival first second) = .ok s' := by
  have hclient : ∃ c, s.client.receivePacket ((arrived s.toClient arrival).map packetNumberOf)
      first second = .ok c := by
    cases harrived : arrived s.toClient arrival with
    | some datagram =>
        have hmem : packetNumberOf datagram ∈ s.numbers :=
          List.mem_map_of_mem (List.mem_append_left _ (mem_of_arrived harrived))
        obtain ⟨info, hi, _⟩ := hflight _ hmem
        exact Client.exists_ok_of_info hsynced hi first second
    | none =>
        simp only [Option.map_none, Client.receivePacket]
        split
        · obtain ⟨c', ho⟩ := hsynced.atRest.exists_outcome (.timeout second.now) (by simp)
          have htimeout : s.client.connection.timeout second.now = .ok c' :=
            ho.step_eq hsynced.atRest
          rw [htimeout]
          exact ⟨_, rfl⟩
        · exact ⟨_, rfl⟩
  obtain ⟨c, hc⟩ := hclient
  simp only [step, receivePacket, receivePacket_eq h, hc]
  exact ⟨_, rfl⟩

/-- On a network that keeps the order and repeats nothing, and with packet numbers below `10 ^ 10`,
every packet that the client declares lost has been dropped by the network. As long as no
retransmission timeout has swept the flight, every packet under way is in flight, so that no poll
of the client faults. -/
theorem ordered_losses_real (clientNow serverNow : TimeOfDay) (stream : Nat → Nat)
    (events : List SessionEvent)
    (hrun : exec (create clientNow serverNow stream) events = .ok s)
    (hfit : Along NumbersFit (create clientNow serverNow stream) events)
    (hord : Along InOrder (create clientNow serverNow stream) events) :
    (∀ n ∈ (startConnection clientNow stream).lostHistory
        ((create clientNow serverNow stream).operations events),
      n ∈ (create clientNow serverNow stream).droppedNumbers events) ∧
    ((startConnection clientNow stream).sweptHistory
        ((create clientNow serverNow stream).operations events) = [] →
      (∀ n ∈ s.numbers, s.client.connection.map.InFlight n) ∧
      ∀ arrival first second, ∃ s', s.step (.receivePacket arrival first second) = .ok s') := by
  have hline := exec_inLine hrun hfit hord
  have hops := exec_operations hrun hfit
  constructor
  · intro n hn
    have hfated := Connection.exec_fated hops
    have hsent := (hfated.place n).mpr (.inr (.inr (.inl hn)))
    have hperm := fates_perm hrun hfit (hord.mono fun _ _ h => h.keepsSingle)
    have hmem := hperm.mem_iff.mpr (List.mem_range'_1.mpr ⟨hsent.1, by omega⟩)
    simp only [List.mem_append] at hmem
    rcases hmem with hmem | hmem | hmem
    · exact absurd hn (hline.kept n hmem).1
    · exact hmem
    · rw [← operations_acked] at hmem
      exact absurd hn (hfated.ackedOnly n hmem).1
  · intro hnone
    have hflight : ∀ n ∈ s.numbers, s.client.connection.map.InFlight n := by
      intro n hn
      rcases (hline.kept n hn).2 with hin | hswept
      · exact hin
      · rw [hnone] at hswept
        cases hswept
    exact ⟨hflight, receivePacket_ok (exec_genuine hrun hfit)
      (Client.exec_synced (exec_calls hrun hfit).1) hflight⟩

/-- Of two packets the network drops the first; behind the echo of the second, the loss timer finds
it. -/
def ordered : List SessionEvent :=
  [.sendPacket ⟨1, 0⟩ ⟨1, 1⟩ ⟨1, 2⟩, .sendPacket ⟨1, 20000⟩ ⟨1, 20001⟩ ⟨1, 20002⟩,
    .drop .toServer 0, .receiveData (some 0) ⟨1, 60000⟩ ⟨1, 60000⟩,
    .receivePacket (some 0) ⟨1, 120000⟩ ⟨1, 120001⟩, .receivePacket none ⟨1, 180000⟩ ⟨1, 180001⟩]

theorem ordered_losses_real_of_ordered :
    ∃ s, exec (create ⟨0, 0⟩ ⟨0, 0⟩ fun _ => 0) ordered = .ok s ∧
      ∀ n ∈ (startConnection ⟨0, 0⟩ fun _ => 0).lostHistory
          ((create ⟨0, 0⟩ ⟨0, 0⟩ fun _ => 0).operations ordered),
        n ∈ (create ⟨0, 0⟩ ⟨0, 0⟩ fun _ => 0).droppedNumbers ordered := by
  obtain ⟨s, hrun, _⟩ := PartialRun.exists_of_endsIn (p := fun _ => true)
    (r := exec (create ⟨0, 0⟩ ⟨0, 0⟩ fun _ => 0) ordered) (by decide +kernel)
  exact ⟨s, hrun, (ordered_losses_real ⟨0, 0⟩ ⟨0, 0⟩ _ ordered hrun (by decide +kernel)
    (by decide +kernel)).1⟩

end Session

end BbrChrome
