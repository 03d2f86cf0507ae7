import BbrChrome.Quic.AckCredits
import BbrChrome.Session.SessionRun

/-!
# The fate of a packet

As long as the network repeats no datagram, every packet that was sent is in one place: its datagram
or the echo of it is under way, the network has dropped it, or the client has taken its ack. The
books of the sampler show these places.
-/

namespace BbrChrome

namespace Connection

open QuicSentPacketManager

variable {c c' : Connection Bbr2Sender} {op : Operation}

theorem WholePackets.totals (h : c.WholePackets) (hm : c.Mirrored)
    (hdefault : Client.SendsDefault op) (ho : c.Outcome op c') :
    c'.totalBytesAcked = c.totalBytesAcked + defaultPacketSize * op.acked?.toList.length ∧
      (c.totalBytesSent = defaultPacketSize * c.recentPacketNumber →
        c'.totalBytesSent = defaultPacketSize * c'.recentPacketNumber) := by
  cases ho with
  | send length sendTime =>
      obtain ⟨e, haccounts, _⟩ := send_accounts (c := c) length sendTime
      have hlength : length.bytes = defaultPacketSize := by
        rw [show length = defaultPacketLength from hdefault]
        rfl
      have hrecent : (c.send length sendTime).recentPacketNumber = c.recentPacketNumber + 1 := rfl
      simp only [totalBytesAcked, totalBytesSent, haccounts, hrecent, hlength, Operation.acked?,
        Option.toList_none, List.length_nil]
      exact ⟨rfl, fun hsent => by rw [hsent]; ring⟩
  | @ack n info hi ackReceiveTime now =>
      simp only [totalBytesAcked, totalBytesSent, afterAck_accounts, SamplerAccounts.record,
        SamplerAccounts.debit, SamplerAccounts.credit, SamplerAccounts.trim, hm.creditedBytes hi,
        h.size n info hi, Operation.acked?, Option.toList_some, List.length_singleton]
      exact ⟨by ring, id⟩
  | @lossTimeout L harmed hL now =>
      have hnone : ∀ a : SamplerAccounts, a.creditedBytes [] = 0 := fun _ => rfl
      simp only [totalBytesAcked, totalBytesSent, Operation.acked?, Option.toList_none,
        List.length_nil, Nat.mul_zero]
      rcases afterLossTimeout_accounts (L := L) h.atRest.manager now with heq | heq
      · simp only [heq, SamplerAccounts.record, SamplerAccounts.debit, SamplerAccounts.credit,
          hnone]
        exact ⟨trivial, id⟩
      · simp only [heq, SamplerAccounts.record, SamplerAccounts.debit, SamplerAccounts.credit,
          SamplerAccounts.trim, hnone]
        exact ⟨trivial, id⟩
  | rto hidle now => exact ⟨rfl, id⟩

end Connection

namespace Session

open Channel

/-! ## The operations of the connection -/

def operation? (s : Session) (event : SessionEvent) : Option Operation :=
  (s.call? event).bind s.client.operation?

def operations (s : Session) (events : List SessionEvent) : List Operation :=
  PartialRun.emitted step (fun s event => (s.operation? event).toList) s events

/-- The number on the echo that an event takes off the socket. -/
def acked? (s : Session) : SessionEvent → Option Nat
  | .receivePacket arrival _ _ => (arrived s.toClient arrival).map packetNumberOf
  | _ => none

def ackedNumbers (s : Session) (events : List SessionEvent) : List Nat :=
  PartialRun.emitted step (fun s event => (s.acked? event).toList) s events

/-- The number on the datagram that the network drops. -/
def dropped? (s : Session) : SessionEvent → Option Nat
  | .drop .toServer i => (arrived s.toServer (some i)).map packetNumberOf
  | .drop .toClient i => (arrived s.toClient (some i)).map packetNumberOf
  | _ => none

def droppedNumbers (s : Session) (events : List SessionEvent) : List Nat :=
  PartialRun.emitted step (fun s event => (s.dropped? event).toList) s events

/-- The network does not repeat a datagram. -/
def KeepsSingle (_ : Session) : SessionEvent → Prop
  | .duplicate _ _ => False
  | _ => True

instance (s : Session) : ∀ event : SessionEvent, Decidable (s.KeepsSingle event)
  | .duplicate _ _ => .isFalse id
  | .sendPacket _ _ _ => .isTrue trivial
  | .receivePacket _ _ _ => .isTrue trivial
  | .receiveData _ _ _ => .isTrue trivial
  | .drop _ _ => .isTrue trivial

variable {s s' : Session} {event : SessionEvent}

theorem acked?_of_operation? : (s.operation? event).bind Operation.acked? = s.acked? event := by
  cases event with
  | sendPacket gate schedule send =>
      simp only [operation?, call?, Client.operation?, acked?, Option.bind_some]
      split <;> rfl
  | receivePacket arrival first second =>
      simp only [operation?, call?, acked?, Option.bind_some]
      cases (arrived s.toClient arrival).map packetNumberOf with
      | some n => rfl
      | none =>
          simp only [Client.operation?]
          split <;> rfl
  | _ => rfl

theorem operations_acked (s : Session) (events : List SessionEvent) :
    Operation.ackedNumbers (s.operations events) = s.ackedNumbers events := by
  rw [Operation.ackedNumbers, operations, PartialRun.emitted_filterMap, ackedNumbers]
  congr 1
  funext s event
  rw [← acked?_of_operation?]
  cases s.operation? event with
  | none => rfl
  | some op => cases hop : op.acked? <;> simp [hop]

theorem Move.performs (hm : s.Move event s') :
    Connection.exec s.client.connection (s.operation? event).toList = .ok s'.client.connection := by
  have hone : ∀ {call : ClientCall} {c : Client}, Client.step s.client call = .ok c →
      Connection.exec s.client.connection (s.client.operation? call).toList =
        .ok c.connection := by
    intro call c hstep
    have hperforms := (Client.step_spec hstep).1
    cases hop : s.client.operation? call with
    | none =>
        rw [hop] at hperforms
        rw [show c.connection = s.client.connection from hperforms]
        rfl
    | some op =>
        rw [hop] at hperforms
        exact PartialRun.exec_cons_of_ok hperforms []
  cases hm with
  | sent hstep hconnection hnumber => exact hone hstep
  | held hstep hconnection => exact hone hstep
  | echoReceived harrived hstep =>
      simp only [operation?, call?, harrived, Option.map_some, Option.bind_some]
      exact hone hstep
  | polled harrived hstep =>
      simp only [operation?, call?, harrived, Option.map_none, Option.bind_some]
      exact hone hstep
  | dropped link i => cases link <;> rfl
  | duplicated link i => cases link <;> rfl
  | _ => rfl

theorem operation?_sendsDefault {op : Operation} (hop : s.operation? event = some op) :
    Client.SendsDefault op := by
  obtain ⟨call, _, hop⟩ := Option.bind_eq_some_iff.mp hop
  exact Client.operation?_sendsDefault hop

/-! ## One place for every packet -/

theorem Move.numbers_perm (hsingle : s.KeepsSingle event) (hm : s.Move event s')
    (hsame : s'.client.connection.recentPacketNumber = s.client.connection.recentPacketNumber) :
    s.numbers.Perm (s'.numbers ++ ((s.dropped? event).toList ++ (s.acked? event).toList)) := by
  cases hm with
  | sent hstep hconnection hnumber =>
      rw [hconnection] at hsame
      exact absurd hsame (Nat.succ_ne_self _)
  | held hstep hconnection => simp [numbers, underWay, dropped?, acked?]
  | @echoReceived arrival first second c datagram harrived hstep =>
      exact arrived_perm_map packetNumberOf [] s.toClient s.toServer arrival
  | polled harrived hstep => simp [numbers, underWay, dropped?, acked?, harrived]
  | @echoed arrival check print datagram harrived server =>
      have hperm := (arrived_perm s.toServer arrival).append_left s.toClient
      rw [harrived, ← List.append_assoc] at hperm
      simpa [numbers, underWay, dropped?, acked?] using hperm.map packetNumberOf
  | idled harrived server => simp [numbers, underWay, dropped?, acked?]
  | dropped link i =>
      cases link with
      | toServer =>
          have hperm := arrived_perm_map packetNumberOf s.toClient s.toServer [] (some i)
          simpa [numbers, underWay, dropped?, acked?, onLink] using hperm
      | toClient =>
          have hperm := arrived_perm_map packetNumberOf [] s.toClient s.toServer (some i)
          simpa [numbers, underWay, dropped?, acked?, onLink] using hperm
  | duplicated link i => exact absurd hsingle id

theorem Move.numbers_of_sent (hfit : s.NumbersFit event) (hm : s.Move event s')
    (hnext : s'.client.connection.recentPacketNumber =
      s.client.connection.recentPacketNumber + 1) :
    s'.numbers = s.numbers ++ [s.client.connection.recentPacketNumber + 1] ∧
      s.dropped? event = none ∧ s.acked? event = none := by
  have hsame : ∀ {k : Nat}, k ≠ k + 1 := fun h => Nat.succ_ne_self _ h.symm
  cases hm with
  | @sent gate schedule send c hstep hconnection p hnumber =>
      have hvalue : p.packetNumber.toNat = s.client.connection.recentPacketNumber + 1 := by
        rw [hnumber]
        exact UInt64.toNat_ofNat_of_lt' (lt_trans hfit (by decide))
      have hread : packetNumberOf p.serialize = s.client.connection.recentPacketNumber + 1 := by
        rw [packetNumberOf_serialize, hvalue]
        exact Nat.mod_eq_of_lt hfit
      refine ⟨?_, rfl, rfl⟩
      simp [numbers, underWay, hread]
  | held hstep hconnection =>
      rw [hconnection] at hnext
      exact absurd hnext hsame
  | echoReceived harrived hstep =>
      rw [Client.receivePacket_recentPacketNumber hstep] at hnext
      exact absurd hnext hsame
  | polled harrived hstep =>
      rw [Client.receivePacket_recentPacketNumber hstep] at hnext
      exact absurd hnext hsame
  | dropped link i => cases link <;> exact absurd hnext hsame
  | duplicated link i => cases link <;> exact absurd hnext hsame
  | _ => exact absurd hnext hsame

variable {clientNow serverNow : TimeOfDay} {stream : Nat → Nat} {events : List SessionEvent}

/-- Every packet that was sent is under way, dropped or acked, and only one of these. -/
theorem fates_perm (hrun : exec (create clientNow serverNow stream) events = .ok s)
    (hfit : Along NumbersFit (create clientNow serverNow stream) events)
    (hsingle : Along KeepsSingle (create clientNow serverNow stream) events) :
    (s.numbers ++ ((create clientNow serverNow stream).droppedNumbers events ++
      (create clientNow serverNow stream).ackedNumbers events)).Perm
        (List.range' 1 s.client.connection.recentPacketNumber) := by
  revert hfit hsingle
  refine PartialRun.exec_induction ?_ ?_ hrun
  · intro _ _
    exact List.Perm.refl _
  · intro events m event t hpre hs ih hfit hsingle
    obtain ⟨hfit, hfitLast, _⟩ := hfit.append hpre
    obtain ⟨hsingle, hsingleLast, _⟩ := hsingle.append hpre
    have hm := step_move (exec_genuine hpre hfit) hs
    have hbefore := ih hfit hsingle
    rw [droppedNumbers, ackedNumbers, PartialRun.emitted_concat hpre hs,
      PartialRun.emitted_concat hpre hs]
    apply List.perm_iff_count.mpr
    intro n
    have hcount := hbefore.count_eq n
    rcases hm.recentPacketNumber with hrecent | hrecent
    · have hmove := (hm.numbers_perm hsingleLast hrecent).count_eq n
      rw [hrecent]
      simp only [List.count_append, droppedNumbers, ackedNumbers] at hcount hmove ⊢
      omega
    · obtain ⟨hnumbers, hdropped, hacked⟩ := hm.numbers_of_sent hfitLast hrecent
      rw [hrecent, List.range'_concat, hnumbers, hdropped, hacked, Nat.one_mul, Nat.add_comm 1]
      simp only [List.count_append, droppedNumbers, ackedNumbers, Option.toList_none,
        List.append_nil] at hcount ⊢
      omega

/-! ## The books of the sampler -/

/-- The connection of the client performs the operations of the session. -/
theorem exec_operations (hrun : exec (create clientNow serverNow stream) events = .ok s)
    (hfit : Along NumbersFit (create clientNow serverNow stream) events) :
    Connection.exec (Connection.createBbr Bbr2Sender clientNow.now stream)
        ((create clientNow serverNow stream).operations events) =
      .ok s.client.connection :=
  PartialRun.exec_emitted (fun s : Session => s.client.connection)
    (fun _ _ _ h hfit hs => step_genuine h hfit hs) (fun _ _ _ h _ hs => (step_move h hs).performs)
    (create_genuine clientNow serverNow stream) hfit hrun

theorem exec_totals (hrun : exec (create clientNow serverNow stream) events = .ok s)
    (hfit : Along NumbersFit (create clientNow serverNow stream) events) :
    s.client.connection.totalBytesSent =
        defaultPacketSize * s.client.connection.recentPacketNumber ∧
      s.client.connection.totalBytesAcked =
        defaultPacketSize * ((create clientNow serverNow stream).ackedNumbers events).length := by
  revert hfit
  refine PartialRun.exec_induction ?_ ?_ hrun
  · intro _
    have haccounts : (create clientNow serverNow stream).client.connection.manager.accounts = {} :=
      Connection.createBbr_accounts clientNow.now stream
    simp only [Connection.totalBytesSent, Connection.totalBytesAcked, haccounts]
    exact ⟨rfl, rfl⟩
  · intro events m event t hpre hs ih hfit
    obtain ⟨hfit, -⟩ := hfit.append hpre
    obtain ⟨hsent, hacked⟩ := ih hfit
    have hperforms := (step_move (exec_genuine hpre hfit) hs).performs
    have hwhole := Client.exec_wholePackets (exec_calls hpre hfit).1
    have hmirrored := (Client.exec_synced (exec_calls hpre hfit).1).mirrored
    rw [ackedNumbers, PartialRun.emitted_concat hpre hs, List.length_append,
      ← acked?_of_operation?]
    cases hop : m.operation? event with
    | none =>
        rw [hop] at hperforms
        rw [← Except.ok.inj hperforms]
        exact ⟨hsent, hacked⟩
    | some op =>
        rw [hop] at hperforms
        obtain ⟨next, hstep, hnil⟩ := PartialRun.exec_cons_ok hperforms
        cases hnil
        obtain ⟨hcredit, hnumbers⟩ := hwhole.totals hmirrored (operation?_sendsDefault hop)
          (Connection.step_outcome hwhole.atRest hstep)
        refine ⟨hnumbers hsent, ?_⟩
        rw [hcredit, hacked, Option.bind_some, Nat.mul_add]
        rfl

/-- When the network repeats no datagram and the packet numbers stay below `10 ^ 10`, every packet
that was sent is under way, dropped or acked, and in one of these places only. So nothing is acked
twice, and what the client counts as in flight, as lost and as swept by its timeouts is together
what is still under way and what the network has dropped. -/
theorem session_conserves_bytes (clientNow serverNow : TimeOfDay) (stream : Nat → Nat)
    (events : List SessionEvent)
    (hrun : exec (create clientNow serverNow stream) events = .ok s)
    (hfit : Along NumbersFit (create clientNow serverNow stream) events)
    (hsingle : Along KeepsSingle (create clientNow serverNow stream) events) :
    (s.numbers ++ ((create clientNow serverNow stream).droppedNumbers events ++
      (create clientNow serverNow stream).ackedNumbers events)).Perm
        (List.range' 1 s.client.connection.recentPacketNumber) ∧
    s.client.connection.totalBytesAcked =
      defaultPacketSize * ((create clientNow serverNow stream).ackedNumbers events).length ∧
    s.client.bytesInFlight + s.client.connection.manager.accounts.totalBytesLost +
        Connection.sweptTotal (Connection.createBbr Bbr2Sender clientNow.now stream)
          ((create clientNow serverNow stream).operations events) =
      defaultPacketSize * (s.underWay.length +
        ((create clientNow serverNow stream).droppedNumbers events).length) := by
  have hperm := fates_perm hrun hfit hsingle
  obtain ⟨hsent, hacked⟩ := exec_totals hrun hfit
  refine ⟨hperm, hacked, ?_⟩
  have hops := exec_operations hrun hfit
  have hnodup : (Operation.ackedNumbers
      ((create clientNow serverNow stream).operations events)).Nodup := by
    rw [operations_acked]
    have hall := hperm.nodup_iff.mpr List.nodup_range'
    exact (List.nodup_append.mp (List.nodup_append.mp hall).2.1).2.1
  have hledger := (Connection.exec_audited hops (Connection.along_acksFlight hops hnodup)).ledger
  have hlength := hperm.length_eq
  simp only [List.length_append, List.length_range', numbers, List.length_map] at hlength
  change _ = s.client.connection.totalBytesSent at hledger
  rw [hsent, ← hlength] at hledger
  rw [Connection.accountedBytes] at hledger
  change s.client.bytesInFlight + s.client.connection.totalBytesAcked +
    s.client.connection.manager.accounts.totalBytesLost + _ = _ at hledger
  rw [hacked, Nat.mul_add, Nat.mul_add] at hledger
  rw [Nat.mul_add]
  omega

/-- Of three packets, the network drops the second and delivers the echo of the third first. -/
def lossy : List SessionEvent :=
  [.sendPacket ⟨1, 0⟩ ⟨1, 1⟩ ⟨1, 2⟩, .sendPacket ⟨1, 20000⟩ ⟨1, 20001⟩ ⟨1, 20002⟩,
    .sendPacket ⟨1, 40000⟩ ⟨1, 40001⟩ ⟨1, 40002⟩, .drop .toServer 1,
    .receiveData (some 0) ⟨1, 60000⟩ ⟨1, 60000⟩, .receiveData (some 0) ⟨1, 60001⟩ ⟨1, 60001⟩,
    .receivePacket (some 1) ⟨1, 140000⟩ ⟨1, 140001⟩]

theorem session_conserves_bytes_of_lossy :
    ∃ s, exec (create ⟨0, 0⟩ ⟨0, 0⟩ fun _ => 0) lossy = .ok s ∧
      (s.numbers ++ ((create ⟨0, 0⟩ ⟨0, 0⟩ fun _ => 0).droppedNumbers lossy ++
        (create ⟨0, 0⟩ ⟨0, 0⟩ fun _ => 0).ackedNumbers lossy)).Perm
          (List.range' 1 s.client.connection.recentPacketNumber) := by
  obtain ⟨s, hrun, _⟩ := PartialRun.exists_of_endsIn (p := fun _ => true)
    (r := exec (create ⟨0, 0⟩ ⟨0, 0⟩ fun _ => 0) lossy) (by decide +kernel)
  exact ⟨s, hrun, (session_conserves_bytes ⟨0, 0⟩ ⟨0, 0⟩ _ lossy hrun (by decide +kernel)
    (by decide +kernel)).1⟩

end Session

end BbrChrome
