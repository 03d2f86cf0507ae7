import BbrChrome.Client.Client
import BbrChrome.Quic.ConnectionInvariant

/-!
# Runs of the client

Every call of the client performs at most one operation of its connection, so what holds
of the runs of a connection holds of the client. Its packets all have the default size.
-/

namespace BbrChrome

open QuicUnackedPacketMap QuicSentPacketManager

namespace Client

variable {c c' : Client} {call : ClientCall}

def operation? (c : Client) : ClientCall → Option Operation
  | .sendPacket gate _ send =>
      if c.windowIsOpen && c.sendControl.nextSendTimestamp < gate.now then
        some (.send defaultPacketLength send.now)
      else none
  | .receivePacket (some packetNumber) first second =>
      some (.ack packetNumber first.now second.now)
  | .receivePacket none first second =>
      if c.connection.manager.getRetransmissionTime < first.now then some (.timeout second.now)
      else none

def Performs (c : Client) (op? : Option Operation) (c' : Client) : Prop :=
  match op? with
  | some op => Connection.step c.connection op = .ok c'.connection
  | none => c'.connection = c.connection

theorem setNextSendTime_connection {now : TimeOfDay} (h : c.setNextSendTime now = .ok c') :
    c'.connection = c.connection ∧ c'.sendControl.cwnd = c.sendControl.cwnd := by
  unfold setNextSendTime at h
  split at h
  · cases h
    exact ⟨rfl, rfl⟩
  · cases h

theorem step_spec (hs : step c call = .ok c') :
    c.Performs (c.operation? call) c' ∧
      c'.sendControl.cwnd =
        match call with
        | .receivePacket (some _) _ _ =>
            c'.connection.manager.getCongestionWindowInBytes / defaultPacketSize
        | _ => c.sendControl.cwnd := by
  cases call with
  | sendPacket gate schedule send =>
      simp only [step, sendPacket, isTimeToSendNextPacket, operation?] at hs ⊢
      split at hs
      · rename_i hopen
        simp only [hopen, if_true]
        cases hnext : c.setNextSendTime schedule with
        | error e => simp [hnext, bind, Except.bind] at hs
        | ok scheduled =>
            simp only [hnext, bind, Except.bind, pure, Except.pure, if_true] at hs
            cases hs
            obtain ⟨hconnection, hcwnd⟩ := setNextSendTime_connection hnext
            refine ⟨?_, hcwnd⟩
            simp only [Performs, makePacketAndSendFromBuf, hconnection]
            rfl
      · rename_i hclosed
        simp only [bind, Except.bind, pure, Except.pure, Bool.false_eq_true, if_false] at hs
        cases hs
        rw [if_neg hclosed]
        exact ⟨rfl, rfl⟩
  | receivePacket echo first second =>
      cases echo with
      | some packetNumber =>
          simp only [step, receivePacket, onPacketReceived] at hs
          cases hack : c.connection.ack packetNumber first.now second.now with
          | error e => simp [hack, bind, Except.bind] at hs
          | ok connection =>
              simp only [hack, bind, Except.bind, pure, Except.pure] at hs
              cases hs
              exact ⟨hack, rfl⟩
      | none =>
          simp only [step, receivePacket, operation?] at hs ⊢
          split at hs
          · rename_i hexpired
            rw [if_pos hexpired]
            cases htimeout : c.connection.timeout second.now with
            | error e => simp [htimeout, bind, Except.bind] at hs
            | ok connection =>
                simp only [htimeout, bind, Except.bind, pure, Except.pure] at hs
                cases hs
                exact ⟨htimeout, rfl⟩
          · rename_i hpending
            cases hs
            rw [if_neg hpending]
            exact ⟨rfl, rfl⟩

theorem receivePacket_recentPacketNumber {echo : Option Nat} {first second : TimeOfDay}
    (h : step c (.receivePacket echo first second) = .ok c') :
    c'.connection.recentPacketNumber = c.connection.recentPacketNumber := by
  have hperforms := (step_spec h).1
  cases echo with
  | some n =>
      have hack : c.connection.ack n first.now second.now = .ok c'.connection := hperforms
      unfold Connection.ack at hack
      cases hstart : c.connection.manager.onAckFrameStart n first.now with
      | error e => simp [hstart, bind, Except.bind] at hack
      | ok m =>
          cases hend : (m.onAckRange n (n + 1) second.now).onAckFrameEnd first.now n with
          | error e => simp [hstart, hend, bind, Except.bind] at hack
          | ok result =>
              simp only [hstart, hend, bind, Except.bind, pure, Except.pure] at hack
              rw [← Except.ok.inj hack]
  | none =>
      simp only [operation?] at hperforms
      split at hperforms
      · have htimeout : c.connection.timeout second.now = .ok c'.connection := hperforms
        unfold Connection.timeout at htimeout
        cases hhandle : c.connection.manager.onRetransmissionTimeout second.now with
        | error e => simp [hhandle, bind, Except.bind] at htimeout
        | ok result =>
            simp only [hhandle, bind, Except.bind, pure, Except.pure] at htimeout
            rw [← Except.ok.inj htimeout]
      · exact congrArg _ hperforms

def SendsDefault : Operation → Prop
  | .send length _ => length = defaultPacketLength
  | _ => True

theorem operation?_sendsDefault {op : Operation} (hop : c.operation? call = some op) :
    SendsDefault op := by
  cases call with
  | sendPacket gate schedule send =>
      simp only [operation?] at hop
      split at hop
      · cases hop
        rfl
      · cases hop
  | receivePacket echo first second =>
      cases echo with
      | some packetNumber =>
          cases hop
          trivial
      | none =>
          simp only [operation?] at hop
          split at hop
          · cases hop
            trivial
          · cases hop

theorem connection_invariant {Inv : Connection Bbr2Sender → Prop}
    (hstep : ∀ c op c', SendsDefault op → Inv c → Connection.step c op = .ok c' → Inv c')
    (h : Inv c.connection) (hs : step c call = .ok c') : Inv c'.connection := by
  have hperforms := (step_spec hs).1
  cases hop : c.operation? call with
  | none =>
      rw [hop] at hperforms
      rw [show c'.connection = c.connection from hperforms]
      exact h
  | some op =>
      rw [hop] at hperforms
      exact hstep _ op _ (operation?_sendsDefault hop) h hperforms

end Client

/-! ## Whole packets -/

/-- A connection at rest whose packets all have the default size. -/
structure Connection.WholePackets {σ : Type} (c : Connection σ) : Prop where
  atRest : c.AtRest
  size : ∀ n info, c.map.info? n = some info → info.bytesSent = defaultPacketSize

namespace Connection.WholePackets

variable {σ : Type} {c c' : Connection σ} {op : Operation}

theorem bytesInFlight (h : c.WholePackets) :
    c.map.bytesInFlight = defaultPacketSize * c.map.packetsInFlight := by
  rw [h.atRest.manager.map.bytes, h.atRest.manager.map.packets]
  apply Slots.weight_of_constant
  intro info hmem
  obtain ⟨n, hn⟩ := exists_info_of_mem hmem
  exact h.size n info hn

theorem step [SendAlgorithmInterface σ] (hdefault : Client.SendsDefault op) (h : c.WholePackets)
    (hs : Connection.step c op = .ok c') : c'.WholePackets := by
  have ho := step_outcome h.atRest hs
  refine ⟨ho.atRest h.atRest, fun n info hi => ?_⟩
  rcases ho.info?_origin h.atRest hi with ⟨old, hold, hb, _⟩ | ⟨length, sendTime, hop, _, hinfo⟩
  · rw [← hb]
    exact h.size n old hold
  · subst hop
    rw [hinfo, show length = defaultPacketLength from hdefault]
    rfl

end Connection.WholePackets

namespace Client

variable {now : TimeOfDay} {stream : Nat → Nat} {calls : List ClientCall} {c : Client}

theorem exec_wholePackets (hrun : exec (create now stream) calls = .ok c) :
    c.connection.WholePackets := by
  have hcreate : (create now stream).connection.WholePackets :=
    ⟨Connection.create_atRest _, by simp [create, bbr2Connection, Connection.create, info?]⟩
  exact PartialRun.invariant
    (fun c call c' (h : c.connection.WholePackets) (hs : step c call = .ok c') =>
      (connection_invariant (fun _ _ _ hdefault h hs => h.step hdefault hs) h hs :
        c'.connection.WholePackets)) hcreate hrun

end Client

end BbrChrome
